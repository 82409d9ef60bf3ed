import MetricBatch.Proofs.Session.Steps
import MetricBatch.Proofs.Session.Verdict

namespace MetricBatch

/-- What a worker sends in the end; one that is lost sends nothing. -/
def Outcome.sent (o : Outcome) : List QueryResults := if o.isLost then [] else [o.results]

theorem outcome_lost {timeout : Span} {query other : String} {reply : Reply}
    (h : reply.outcome timeout query = .lost other) : other = query := by
  have hv := verdict_outcome timeout query reply
  rw [h] at hv
  rcases hv.kind with ⟨_, _, hnone⟩ | ⟨hr, _⟩
  · cases hnone
  · simpa [Outcome.results, QueryResults.placeholder] using hr

namespace Worker

variable {setup : Setup} {clock : Nat} {torn : Prop} {w w' : Worker} {o : Outcome}

/-- An outcome that a worker can come to: that of its own reply, or its loss if it may be taken
away. -/
def MayEnd (setup : Setup) (torn : Prop) (w : Worker) (o : Outcome) : Prop :=
  o = (setup.reply w.query).outcome setup.timeout w.query.text ∨ torn ∧ o = .lost w.query.text

/-- Nothing has come out of a worker. -/
def Untouched (w : Worker) : Prop := w.sender = true ∧ w.published = [] ∧ w.reported = []

/-- All that an outcome asks for has come out of a worker. -/
def Told (w : Worker) (o : Outcome) : Prop :=
  w.published = o.sent ∧ w.reported = o.error?.toList

def Sound (setup : Setup) (clock : Nat) (torn : Prop) (w : Worker) : Prop :=
  match w.phase with
  | .created | .waiting => w.Untouched
  | .calling since reply =>
    w.Untouched ∧ reply = setup.reply w.query ∧ since ≤ clock ∧
      clock ≤ since + reply.duration setup.limit
  | .digesting result => w.Untouched ∧ result = (setup.reply w.query).callEnd setup.limit
  | .publishing results =>
    ∃ o, w.MayEnd setup torn o ∧ o.isLost = false ∧ results = o.results ∧ w.sender = true ∧
      w.published = [] ∧ w.reported = o.error?.toList
  | .leaving =>
    ∃ o, w.MayEnd setup torn o ∧
      (o.isLost = true ∧ w.Untouched ∨ o.isLost = false ∧ w.sender = false ∧ w.Told o)
  | .closing => ∃ o, w.MayEnd setup torn o ∧ w.sender = o.isLost ∧ w.Told o
  | .ended => ∃ o, w.MayEnd setup torn o ∧ w.sender = false ∧ w.Told o

theorem sound_new (query : Query) : (new query).Sound setup clock torn := ⟨rfl, rfl, rfl⟩

theorem MayEnd.lost (h : w.MayEnd setup torn o) (hl : o.isLost = true) :
    o = .lost w.query.text := by
  rcases h with rfl | ⟨_, rfl⟩
  · cases ho : (setup.reply w.query).outcome setup.timeout w.query.text with
    | succeeded results => simp [ho, Outcome.isLost] at hl
    | failed error => simp [ho, Outcome.isLost] at hl
    | lost other => rw [outcome_lost ho]
  · rfl

/-- A worker that has digested the end of its own call has come to its own outcome. -/
theorem mayEnd_callEnd {result : CallEnd}
    (hr : result = (setup.reply w.query).callEnd setup.limit)
    (ho : result.outcome setup.timeout w.query.text = o) : w.MayEnd setup torn o := by
  left
  rw [← ho, hr]
  rfl

theorem Sound.steps {errors : List QueryError} (h : w.Sound setup clock torn)
    (hs : w.Steps setup clock w' errors) : w'.Sound setup clock torn := by
  cases hs with
  | start hp =>
    rw [Sound, hp] at h
    exact h
  | call hp =>
    rw [Sound, hp] at h
    exact ⟨h, rfl, Nat.le_refl _, Nat.le_add_right _ _⟩
  | @hangUp since reply result hp hr =>
    rw [Sound, hp] at h
    obtain ⟨hu, rfl, _, hd⟩ := h
    have hle : clock - since ≤ (setup.reply w.query).duration setup.limit := by omega
    exact ⟨hu, Reply.poll_result hle hr⟩
  | succeed hp ho =>
    rw [Sound, hp] at h
    obtain ⟨hu, hr⟩ := h
    exact ⟨_, mayEnd_callEnd hr ho, rfl, rfl, hu⟩
  | @fail result error hp ho =>
    rw [Sound, hp] at h
    obtain ⟨⟨hsender, hpublished, hreported⟩, hr⟩ := h
    have hend : w.MayEnd setup torn (.failed error) := mayEnd_callEnd hr ho
    have hquery : error.query = w.query.text := by
      have hv := verdict_outcome setup.timeout w.query.text (setup.reply w.query)
      rw [← hend.resolve_right (by simp)] at hv
      rcases hv.kind with ⟨_, _, hnone⟩ | ⟨_, e, he, hq⟩
      · cases hnone
      · cases he
        exact hq
    refine ⟨.failed error, hend, rfl, ?_, hsender, hpublished, ?_⟩
    · rw [Outcome.results, hquery]
    · simp [hreported, Outcome.error?]
  | die hp ho =>
    rw [Sound, hp] at h
    obtain ⟨hu, hr⟩ := h
    exact ⟨_, mayEnd_callEnd hr ho, .inl ⟨rfl, hu⟩⟩
  | publish hp =>
    -- The sender is still there, so the results are sent here and nothing is reported later.
    rw [Sound, hp] at h
    obtain ⟨o, ho, hl, rfl, hsender, hpublished, hreported⟩ := h
    have hpub : w.publish o.results = { w with sender := false, published := [o.results] } := by
      simp [publish, hsender, hpublished]
    rw [hpub]
    exact ⟨o, ho, .inr ⟨hl, rfl, by simp [Outcome.sent, hl], hreported⟩⟩
  | lose hp hsender =>
    rw [Sound, hp] at h
    obtain ⟨o, ho, ⟨hl, _, hpublished, hreported⟩ | ⟨_, hs, _⟩⟩ := h
    · refine ⟨o, ho, by rw [hl]; exact hsender, ?_, ?_⟩
      · simp [Outcome.sent, hl, hpublished]
      · simp [hreported, ho.lost hl, Outcome.error?, loss]
    · simp [hsender] at hs
  | leave hp hsender =>
    rw [Sound, hp] at h
    obtain ⟨o, ho, ⟨_, hs, _⟩ | ⟨hl, _, ht⟩⟩ := h
    · simp [hsender] at hs
    · exact ⟨o, ho, by rw [hl]; exact hsender, ht⟩
  | close hp =>
    rw [Sound, hp] at h
    obtain ⟨o, ho, _, ht⟩ := h
    exact ⟨o, ho, rfl, ht⟩

theorem Sound.interrupted (ht : torn) (h : w.Sound setup clock torn) (hs : w.Interrupted w') :
    w'.Sound setup clock torn := by
  have hend : w.MayEnd setup torn (.lost w.query.text) := .inr ⟨ht, rfl⟩
  cases hs with
  | created hp | waiting hp =>
    rw [Sound, hp] at h
    exact ⟨_, hend, .inl ⟨rfl, h⟩⟩
  | calling hp =>
    rw [Sound, hp] at h
    exact ⟨_, hend, .inl ⟨rfl, h.1⟩⟩

/-- A worker that has ended has told all, and a reader gets just that. -/
theorem Sound.ended (h : w.Sound setup clock torn) (he : w.phase = .ended) :
    ∃ o, w.MayEnd setup torn o ∧ w.results? = some o.results ∧ w.Told o := by
  rw [Sound, he] at h
  obtain ⟨o, ho, hsender, hpublished, hreported⟩ := h
  refine ⟨o, ho, ?_, hpublished, hreported⟩
  cases hl : o.isLost with
  | true =>
    have hnone : w.published = [] := by simp [hpublished, Outcome.sent, hl]
    simp [results?, hnone, hsender, ho.lost hl, Outcome.results]
  | false => simp [results?, hpublished, Outcome.sent, hl]

end Worker

end MetricBatch
