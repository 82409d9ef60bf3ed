import Mathlib.Data.List.Forall2
import MetricBatch.Proofs.Session.Quiet
import MetricBatch.Proofs.Session.Scripts

namespace MetricBatch

variable {R : QueryError → QueryError → Prop} {query : String}

/-- The same replies, or errors that are alike when the query reports them. -/
inductive Reply.Alike (R : QueryError → QueryError → Prop) (query : String) :
    Reply → Reply → Prop where
  | same (reply : Reply) : Alike R query reply reply
  | failed (delay : Nat) {e e' : ClientError}
    (h : R (.transport query none e.message) (.transport query none e'.message)) :
    Alike R query (.answer delay (.error e)) (.answer delay (.error e'))

inductive CallEnd.Alike (R : QueryError → QueryError → Prop) (query : String) :
    CallEnd → CallEnd → Prop where
  | same (result : CallEnd) : Alike R query result result
  | failed {e e' : ClientError}
    (h : R (.transport query none e.message) (.transport query none e'.message)) :
    Alike R query (.answered (.error e)) (.answered (.error e'))

theorem Reply.Alike.duration {r r' : Reply} (h : Reply.Alike R query r r') (limit : Nat) :
    r'.duration limit = r.duration limit := by
  cases h <;> rfl

/-- Whoever looks at two replies that are alike sees ends that are alike, or no end in both. -/
theorem Reply.Alike.poll {r r' : Reply} (h : Reply.Alike R query r r') (limit elapsed : Nat) :
    r.poll limit elapsed = none ∧ r'.poll limit elapsed = none ∨
      ∃ result result', r.poll limit elapsed = some result ∧ r'.poll limit elapsed = some result' ∧
        CallEnd.Alike R query result result' := by
  cases h with
  | same =>
    cases hp : r.poll limit elapsed with
    | none => exact .inl ⟨rfl, rfl⟩
    | some result => exact .inr ⟨result, result, rfl, rfl, .same result⟩
  | failed delay h =>
    by_cases hd : delay ≤ elapsed
    · exact .inr ⟨_, _, by simp [Reply.poll, ready?, hd], by simp [Reply.poll, ready?, hd],
        .failed h⟩
    · by_cases hl : limit ≤ elapsed
      · exact .inr ⟨.timedOut, .timedOut, by simp [Reply.poll, ready?, hd, hl],
          by simp [Reply.poll, ready?, hd, hl], .same _⟩
      · exact .inl ⟨by simp [Reply.poll, ready?, hd, hl], by simp [Reply.poll, ready?, hd, hl]⟩

inductive Phase.Alike (R : QueryError → QueryError → Prop) (query : String) :
    Phase → Phase → Prop where
  | same (phase : Phase) : Alike R query phase phase
  | calling (since : Nat) {r r' : Reply} (h : Reply.Alike R query r r') :
    Alike R query (.calling since r) (.calling since r')
  | digesting {result result' : CallEnd} (h : CallEnd.Alike R query result result') :
    Alike R query (.digesting result) (.digesting result')

structure Worker.Alike (R : QueryError → QueryError → Prop) (w w' : Worker) : Prop where
  query : w'.query = w.query
  phase : Phase.Alike R w.query.text w.phase w'.phase
  permit : w'.permit = w.permit
  sender : w'.sender = w.sender
  published : w'.published = w.published
  reported : List.Forall₂ R w.reported w'.reported
  wanted : w'.wanted = w.wanted

namespace Worker

variable {w w' : Worker}

theorem alike_new (q : Query) : Worker.Alike R (new q) (new q) :=
  ⟨rfl, .same _, rfl, rfl, rfl, .nil, rfl⟩

/-- The workers come to phases that are alike, and nothing else happens to them. -/
theorem Alike.move (h : Worker.Alike R w w') {p p' : Phase}
    (hp : Phase.Alike R w.query.text p p') :
    Worker.Alike R { w with phase := p } { w' with phase := p' } :=
  ⟨h.query, hp, h.permit, h.sender, h.published, h.reported, h.wanted⟩

/-- The same for workers that take or leave their permits. -/
theorem Alike.movePermit (h : Worker.Alike R w w') {p p' : Phase}
    (hp : Phase.Alike R w.query.text p p') (permit : Bool) :
    Worker.Alike R { w with phase := p, permit } { w' with phase := p', permit } :=
  ⟨h.query, hp, rfl, h.sender, h.published, h.reported, h.wanted⟩

theorem Alike.isCalling (h : Worker.Alike R w w') : w'.isCalling = w.isCalling := by
  have hp := h.phase
  unfold Worker.isCalling
  generalize w.phase = p at hp ⊢
  generalize w'.phase = p' at hp ⊢
  cases hp <;> rfl

theorem Alike.isEnded (h : Worker.Alike R w w') : w'.isEnded = w.isEnded := by
  have hp := h.phase
  unfold Worker.isEnded
  generalize w.phase = p at hp ⊢
  generalize w'.phase = p' at hp ⊢
  cases hp <;> rfl

theorem Alike.ends? (h : Worker.Alike R w w') (limit : Nat) : w'.ends? limit = w.ends? limit := by
  have hp := h.phase
  unfold Worker.ends?
  generalize w.phase = p at hp ⊢
  generalize w'.phase = p' at hp ⊢
  cases hp with
  | same | digesting => rfl
  | calling since hr => simp [hr.duration limit]

theorem Alike.results? (h : Worker.Alike R w w') : w'.results? = w.results? := by
  unfold Worker.results?
  rw [h.published, h.sender, h.query]

theorem Alike.loss (h : Worker.Alike R w w') : w'.loss = w.loss := by
  rw [Worker.loss, h.query]
  rfl

theorem Alike.publish (h : Worker.Alike R w w') (results : QueryResults) :
    Worker.Alike R { w.publish results with phase := .leaving }
      { w'.publish results with phase := .leaving } := by
  unfold Worker.publish
  rw [h.sender]
  split
  · exact ⟨h.query, .same _, h.permit, rfl, by rw [h.published], h.reported, h.wanted⟩
  · exact ⟨h.query, .same _, h.permit, h.sender, h.published, h.reported, h.wanted⟩

end Worker

/-- Backends with the same time for a call, whose replies to each query are alike. -/
structure Setup.Alike (R : QueryError → QueryError → Prop) (a b : Setup) : Prop where
  refl : ∀ error, R error error
  timeout : b.timeout = a.timeout
  reply : ∀ q : Query, Reply.Alike R q.text (a.reply q) (b.reply q)

theorem Setup.Alike.limit {a b : Setup} (hs : Setup.Alike R a b) : b.limit = a.limit := by
  rw [Setup.limit, hs.timeout]
  rfl

namespace Session

variable {a b : Setup} {s s' t t' : Session} {i : Nat} {w w' x x' : Worker}

structure Alike (R : QueryError → QueryError → Prop) (s s' : Session) : Prop where
  clock : s'.clock = s.clock
  gate : s'.gate = s.gate
  nextResize : s'.nextResize = s.nextResize
  entries : List.Forall₂ R s.errors.entries s'.errors.entries
  workers : List.Forall₂ (Worker.Alike R) s.workers s'.workers

theorem forall₂_set {α β : Type} {S : α → β → Prop} {l : List α} {l' : List β} {x : α} {y : β}
    (h : List.Forall₂ S l l') (hx : S x y) (i : Nat) : List.Forall₂ S (l.set i x) (l'.set i y) := by
  induction h generalizing i with
  | nil => exact .nil
  | cons hhead hrest ih =>
    cases i with
    | zero => exact .cons hx hrest
    | succ i => exact .cons hhead (ih i)

theorem forall₂_lookup {α β : Type} {S : α → β → Prop} {l : List α} {l' : List β}
    (h : List.Forall₂ S l l') (i : Nat) :
    l[i]? = none ∧ l'[i]? = none ∨ ∃ x y, l[i]? = some x ∧ l'[i]? = some y ∧ S x y := by
  induction h generalizing i with
  | nil => exact .inl ⟨rfl, rfl⟩
  | cons hhead hrest ih =>
    cases i with
    | zero => exact .inr ⟨_, _, rfl, rfl, hhead⟩
    | succ i => exact ih i

theorem forall₂_map_eq {α β γ : Type} {S : α → β → Prop} {l : List α} {l' : List β} {f : α → γ}
    {g : β → γ} (h : List.Forall₂ S l l') (hf : ∀ x y, S x y → g y = f x) :
    l'.map g = l.map f := by
  induction h with
  | nil => rfl
  | cons hhead _ ih => rw [List.map_cons, List.map_cons, hf _ _ hhead, ih]

/-- One worker changes in each session, and what each reports is alike. -/
theorem Alike.set (h : s.Alike R s') (hw : t.workers = s.workers.set i x)
    (hw' : t'.workers = s'.workers.set i x') (hx : Worker.Alike R x x')
    (hclock : t'.clock = t.clock) (hgate : t'.gate = t.gate)
    (hnext : t'.nextResize = t.nextResize)
    (hentries : List.Forall₂ R t.errors.entries t'.errors.entries) : t.Alike R t' := by
  refine ⟨hclock, hgate, hnext, hentries, ?_⟩
  rw [hw, hw']
  exact forall₂_set h.workers hx i

theorem Alike.report (h : s.Alike R s') (hx : Worker.Alike R x x') {error error' : QueryError}
    (he : R error error') : (s.report i x error).Alike R (s'.report i x' error') := by
  have hreported : List.Forall₂ R (x.reported ++ [error]) (x'.reported ++ [error']) :=
    List.rel_append hx.reported (.cons he .nil)
  exact h.set rfl rfl ⟨hx.query, hx.phase, hx.permit, hx.sender, hx.published, hreported, hx.wanted⟩
    h.clock h.gate h.nextResize (List.rel_append h.entries (.cons he .nil))

theorem Alike.note (h : s.Alike R s') (events events' : List Event) :
    (s.note events).Alike R (s'.note events') :=
  ⟨h.clock, h.gate, h.nextResize, h.entries, h.workers⟩

theorem Alike.leave (hR : ∀ error, R error error) (h : s.Alike R s') (hx : Worker.Alike R w w') :
    (s.leave i w).Alike R (s'.leave i w') := by
  unfold Session.leave
  dsimp only
  by_cases hsender : w.sender = true
  · have hsender' : w'.sender = true := hx.sender.trans hsender
    rw [if_pos hsender, if_pos hsender']
    apply h.report (hx.move (.same _))
    rw [hx.loss]
    exact hR w.loss
  · have hsender' : ¬w'.sender = true := by rwa [hx.sender]
    rw [if_neg hsender, if_neg hsender']
    exact h.set rfl rfl (hx.move (.same _)) h.clock h.gate h.nextResize h.entries

theorem Alike.close (h : s.Alike R s') (hx : Worker.Alike R w w') :
    (s.close i w).Alike R (s'.close i w') :=
  h.set rfl rfl ⟨hx.query, .same _, hx.permit, rfl, hx.published, hx.reported, hx.wanted⟩ h.clock
    h.gate h.nextResize h.entries

/-- What two calls that ended alike come to. -/
theorem Alike.digest (hs : Setup.Alike R a b) (h : s.Alike R s') (hx : Worker.Alike R w w')
    {result result' : CallEnd} (hr : CallEnd.Alike R w.query.text result result') :
    (s.digest a i w result).Alike R (s'.digest b i w' result') := by
  have hplaceholder : Phase.Alike R w.query.text (.publishing (.placeholder w.query.text))
      (.publishing (.placeholder w'.query.text)) := by
    rw [hx.query]
    exact .same _
  cases hr with
  | same =>
    have ho : result.outcome b.timeout w'.query.text = result.outcome a.timeout w.query.text := by
      rw [hs.timeout, hx.query]
    unfold Session.digest
    dsimp only
    rw [ho]
    cases result.outcome a.timeout w.query.text with
    | succeeded results =>
      exact h.set rfl rfl (hx.move (.same _)) h.clock h.gate h.nextResize h.entries
    | failed error => exact (h.note _ _).report (hx.move hplaceholder) (hs.refl error)
    | lost => exact h.set rfl rfl (hx.move (.same _)) h.clock h.gate h.nextResize h.entries
  | failed he =>
    -- Here alone the sessions part: each reports the error of its own client.
    apply (h.note _ _).report (hx.move hplaceholder)
    rwa [hx.query]

theorem Alike.proceed (hs : Setup.Alike R a b) (h : s.Alike R s') (i : Nat) :
    (s.proceed a i).Alike R (s'.proceed b i) := by
  rcases forall₂_lookup h.workers i with ⟨hn, hn'⟩ | ⟨w, w', hw, hw', hx⟩
  · simpa [Session.proceed, hn, hn'] using h
  · have hp := hx.phase
    unfold Session.proceed
    rw [hw, hw']
    dsimp only
    generalize w.phase = p at hp ⊢
    generalize w'.phase = p' at hp ⊢
    cases hp with
    | calling since hr =>
      dsimp only
      rw [hs.limit, h.clock]
      rcases hr.poll a.limit (s.clock - since) with ⟨hn, hn'⟩ | ⟨result, result', he, he', hres⟩
      · rw [hn, hn']
        exact h
      · rw [he, he']
        exact h.set rfl rfl (hx.movePermit (.digesting hres) false) h.clock
          (congrArg Gate.release h.gate) h.nextResize h.entries
    | digesting hres => exact h.digest hs hx hres
    | same =>
      cases p with
      | created =>
        exact h.set rfl rfl (hx.move (.same _)) h.clock
          (congrArg (·.request (.worker i) 1) h.gate) h.nextResize h.entries
      | waiting =>
        dsimp only
        rw [h.gate]
        split
        · have hcall : Phase.Alike R w.query.text (.calling s.clock (a.reply w.query))
              (.calling s'.clock (b.reply w'.query)) := by
            rw [h.clock, hx.query]
            exact .calling _ (hs.reply w.query)
          exact h.set rfl rfl (hx.movePermit hcall true) h.clock
            (congrArg (·.take (.worker i)) h.gate) h.nextResize h.entries
        · exact h
      | calling since reply =>
        dsimp only
        rw [hs.limit, h.clock]
        split
        · exact h.set rfl rfl (hx.movePermit (.same _) false) h.clock
            (congrArg Gate.release h.gate) h.nextResize h.entries
        · exact h
      | digesting result => exact h.digest hs hx (.same result)
      | publishing results =>
        exact h.set rfl rfl (hx.publish results) h.clock h.gate h.nextResize h.entries
      | leaving => exact h.leave hs.refl hx
      | closing => exact h.close hx
      | ended => exact h

theorem Alike.proceedIn (hs : Setup.Alike R a b) (h : s.Alike R s') (turns i : Nat) :
    (s.proceedIn a turns i).Alike R (s'.proceedIn b turns i) := by
  induction turns generalizing s s' with
  | zero => exact h
  | succ turns ih => exact ih (h.proceed hs i)

theorem Alike.poll (hs : Setup.Alike R a b) (h : s.Alike R s') (i : Nat) :
    (s.poll a i).Alike R (s'.poll b i) :=
  h.proceedIn hs 7 i

theorem Alike.interrupt (h : s.Alike R s') (i : Nat) : (s.interrupt i).Alike R (s'.interrupt i) := by
  rcases forall₂_lookup h.workers i with ⟨hn, hn'⟩ | ⟨w, w', hw, hw', hx⟩
  · simpa [Session.interrupt, hn, hn'] using h
  · have hp := hx.phase
    have hreleased : (({ s with gate := s.gate.release }.setWorker i
          { w with phase := .leaving, permit := false }).note [.released]).Alike R
        (({ s' with gate := s'.gate.release }.setWorker i
          { w' with phase := .leaving, permit := false }).note [.released]) :=
      h.set rfl rfl (hx.movePermit (.same _) false) h.clock (congrArg Gate.release h.gate)
        h.nextResize h.entries
    unfold Session.interrupt
    rw [hw, hw']
    dsimp only
    generalize w.phase = p at hp ⊢
    generalize w'.phase = p' at hp ⊢
    cases hp with
    | calling => exact hreleased
    | digesting => exact h
    | same =>
      cases p with
      | created => exact h.set rfl rfl (hx.move (.same _)) h.clock h.gate h.nextResize h.entries
      | waiting =>
        exact h.set rfl rfl (hx.move (.same _)) h.clock
          (congrArg (·.withdraw (.worker i)) h.gate) h.nextResize h.entries
      | calling => exact hreleased
      | digesting | publishing | leaving | closing | ended => exact h

theorem Alike.unwind (hR : ∀ error, R error error) (h : s.Alike R s') (i : Nat) :
    (s.unwind i).Alike R (s'.unwind i) := by
  rcases forall₂_lookup h.workers i with ⟨hn, hn'⟩ | ⟨w, w', hw, hw', hx⟩
  · simpa [Session.unwind, hn, hn'] using h
  · have hp := hx.phase
    unfold Session.unwind
    rw [hw, hw']
    dsimp only
    generalize w.phase = p at hp ⊢
    generalize w'.phase = p' at hp ⊢
    cases hp with
    | calling | digesting => exact h
    | same =>
      cases p with
      | leaving => exact h.leave hR hx
      | closing => exact h.close hx
      | created | waiting | calling | digesting | publishing | ended => exact h

theorem Alike.isReady (hs : Setup.Alike R a b) (h : s.Alike R s') (hx : Worker.Alike R w w')
    (i : Nat) : s'.isReady b i w' = s.isReady a i w := by
  have hp := hx.phase
  unfold Session.isReady
  generalize w.phase = p at hp ⊢
  generalize w'.phase = p' at hp ⊢
  cases hp with
  | calling since hr =>
    dsimp only
    rw [hs.limit, h.clock]
    rcases hr.poll a.limit (s.clock - since) with ⟨hn, hn'⟩ | ⟨result, result', he, he', _⟩
    · rw [hn, hn']
    · rw [he, he']
      rfl
  | digesting => rfl
  | same => cases p <;> simp [hs.limit, h.clock, h.gate]

theorem Alike.isQuiet (hs : Setup.Alike R a b) (h : s.Alike R s') :
    s'.isQuiet b = s.isQuiet a := by
  rw [Bool.eq_iff_iff, isQuiet_iff, isQuiet_iff]
  constructor
  · intro hq i w hw
    rcases forall₂_lookup h.workers i with ⟨hn, _⟩ | ⟨x, x', hx, hx', hxx⟩
    · rw [hn] at hw
      cases hw
    · rw [hw, Option.some.injEq] at hx
      subst hx
      rw [← h.isReady hs hxx]
      exact hq i x' hx'
  · intro hq i w' hw'
    rcases forall₂_lookup h.workers i with ⟨_, hn'⟩ | ⟨x, x', hx, hx', hxx⟩
    · rw [hn'] at hw'
      cases hw'
    · rw [hw', Option.some.injEq] at hx'
      subst hx'
      rw [h.isReady hs hxx]
      exact hq i x hx

theorem Alike.nextEnd? (hs : Setup.Alike R a b) (h : s.Alike R s') :
    s'.nextEnd? b = s.nextEnd? a := by
  have hends : s'.workers.map (Worker.ends? b.limit) = s.workers.map (Worker.ends? a.limit) := by
    rw [hs.limit]
    exact forall₂_map_eq h.workers fun _ _ hx => hx.ends? a.limit
  have hlists := congrArg (List.filterMap id) hends
  simp only [List.filterMap_map, Function.id_comp] at hlists
  rw [Session.nextEnd?, Session.nextEnd?, hlists]

theorem Alike.pass (hs : Setup.Alike R a b) (h : s.Alike R s') (millis : Nat) :
    (s.pass a millis).Alike R (s'.pass b millis) := by
  unfold Session.pass
  rw [h.isQuiet hs, h.nextEnd? hs, h.clock]
  split
  · exact ⟨rfl, h.gate, h.nextResize, h.entries, h.workers⟩
  · exact h

theorem Alike.discard (h : s.Alike R s') (i : Nat) : (s.discard i).Alike R (s'.discard i) := by
  refine ⟨h.clock, h.gate, h.nextResize, h.entries, ?_⟩
  have hworkers := h.workers
  simp only [Session.discard]
  generalize s.workers = l at hworkers ⊢
  generalize s'.workers = l' at hworkers ⊢
  induction hworkers generalizing i with
  | nil => simp
  | cons hhead hrest ih =>
    cases i with
    | zero =>
      exact .cons ⟨hhead.query, hhead.phase, hhead.permit, hhead.sender, hhead.published,
        hhead.reported, rfl⟩ hrest
    | succ i => exact .cons hhead (ih i)

/-- Readers get the same from both. -/
theorem Alike.take (h : s.Alike R s') (i : Nat) :
    (s.take i).1.Alike R (s'.take i).1 ∧ (s'.take i).2 = (s.take i).2 := by
  unfold Session.take
  rcases forall₂_lookup h.workers i with ⟨hn, hn'⟩ | ⟨w, w', hw, hw', hx⟩
  · rw [hn, hn']
    exact ⟨h, rfl⟩
  · have hreadable : w'.readable? = w.readable? := by
      rw [Worker.readable?, hx.wanted, hx.results?]
      rfl
    rw [hw, hw']
    dsimp only
    rw [hreadable]
    cases w.readable? with
    | none => exact ⟨h, rfl⟩
    | some results => exact ⟨(h.discard i).note _ _, rfl⟩

theorem Alike.spawn (h : s.Alike R s') (q : Query) : (s.spawn q).Alike R (s'.spawn q) :=
  ⟨h.clock, h.gate, h.nextResize, h.entries,
    List.rel_append h.workers (.cons (Worker.alike_new q) .nil)⟩

theorem Alike.move (hs : Setup.Alike R a b) (h : s.Alike R s') (m : Move) :
    (s.move a m).Alike R (s'.move b m) := by
  cases m with
  | submit q => exact h.spawn q
  | poll i => exact h.poll hs i
  | dropTask i => exact ((h.interrupt i).unwind hs.refl i).unwind hs.refl i
  | startResize target =>
    simp only [Session.move, Session.startResize]
    rw [h.gate, h.nextResize]
    split
    · exact ⟨h.clock, rfl, rfl, h.entries, h.workers⟩
    · exact h
  | pollResize id =>
    exact ⟨h.clock, congrArg (fun g => (g.advanceResize (.resize id)).1) h.gate, h.nextResize,
      h.entries, h.workers⟩
  | dropResize id =>
    exact ⟨h.clock, congrArg (·.cancel (.resize id)) h.gate, h.nextResize, h.entries, h.workers⟩
  | pass millis => exact h.pass hs millis
  | take i => exact (h.take i).1
  | discard i => exact h.discard i

theorem alike_new (a b : Setup) (maxConcurrency : Nat) :
    (new a maxConcurrency).Alike R (new b maxConcurrency) :=
  ⟨rfl, rfl, rfl, .nil, .nil⟩

/-- Whatever is done with both of them. -/
theorem alike_after (hs : Setup.Alike R a b) (maxConcurrency : Nat) (moves : List Move) :
    (after a maxConcurrency moves).Alike R (after b maxConcurrency moves) := by
  have hrun (s s' : Session) (h : s.Alike R s') :
      (moves.foldl (Session.move a) s).Alike R (moves.foldl (Session.move b) s') := by
    induction moves generalizing s s' with
    | nil => exact h
    | cons m rest ih => exact ih _ _ (h.move hs m)
  exact hrun _ _ (alike_new a b maxConcurrency)

theorem Alike.settleIn (hs : Setup.Alike R a b) (h : s.Alike R s') (turns : Nat) :
    (s.settleIn a turns).Alike R (s'.settleIn b turns) := by
  induction turns generalizing s s' with
  | zero => exact h
  | succ turns ih =>
    have hgranted : s'.granted? = s.granted? := by
      unfold granted?
      rw [h.gate]
    unfold Session.settleIn
    rw [hgranted]
    cases s.granted? with
    | none => exact h
    | some i => exact ih (h.poll hs i)

theorem Alike.settle (hs : Setup.Alike R a b) (h : s.Alike R s') :
    (s.settle a).Alike R (s'.settle b) := by
  unfold Session.settle
  rw [h.gate]
  exact h.settleIn hs _

theorem Alike.submitAll (hs : Setup.Alike R a b) (h : s.Alike R s') (queries : List Query) :
    (s.submitAll a queries).Alike R (s'.submitAll b queries) := by
  induction queries generalizing s s' with
  | nil => exact h
  | cons q rest ih =>
    have hnext : (s.submit a q).Alike R (s'.submit b q) := by
      unfold submit
      rw [← h.workers.length_eq]
      exact ((h.spawn q).poll hs s.workers.length).settle hs
    rw [Session.submitAll, Session.submitAll, List.foldl_cons, List.foldl_cons]
    exact ih hnext

theorem finishDue_eq (a : Setup) (s : Session) :
    s.finishDue a = (s.workers.map Worker.isCalling).zipIdx.foldl
      (fun s (calls, i) => if calls then s.poll a i else s) s := by
  rw [List.zipIdx_map, List.foldl_map]
  rfl

theorem Alike.finishDue (hs : Setup.Alike R a b) (h : s.Alike R s') :
    (s.finishDue a).Alike R (s'.finishDue b) := by
  -- Who calls is looked up before the first of them is polled.
  rw [finishDue_eq, finishDue_eq, forall₂_map_eq h.workers fun _ _ hx => hx.isCalling]
  generalize (s.workers.map Worker.isCalling).zipIdx = calls
  induction calls generalizing s s' with
  | nil => exact h
  | cons c rest ih =>
    obtain ⟨calls, i⟩ := c
    have hnext : (if calls then s.poll a i else s).Alike R (if calls then s'.poll b i else s') := by
      split
      · exact h.poll hs i
      · exact h
    rw [List.foldl_cons, List.foldl_cons]
    exact ih hnext

theorem Alike.moveTo (hs : Setup.Alike R a b) (h : s.Alike R s') (time : Nat) :
    (s.moveTo a time).Alike R (s'.moveTo b time) := by
  unfold Session.moveTo
  rw [h.clock]
  exact ((h.pass hs _).finishDue hs).settle hs

theorem Alike.unfinished (h : s.Alike R s') : s'.unfinished = s.unfinished := by
  have hended := forall₂_map_eq h.workers fun _ _ hx => hx.isEnded
  have hcount := congrArg (List.countP (! ·)) hended
  rw [List.countP_map, List.countP_map] at hcount
  exact hcount

theorem Alike.waitIn (hs : Setup.Alike R a b) {ready : Session → Bool}
    (hready : ∀ s s' : Session, s.Alike R s' → ready s' = ready s) (h : s.Alike R s')
    (turns : Nat) : (s.waitIn a ready turns).Alike R (s'.waitIn b ready turns) := by
  induction turns generalizing s s' with
  | zero => exact h
  | succ turns ih =>
    unfold Session.waitIn
    rw [hready s s' h, h.nextEnd? hs]
    split
    · exact h
    · split
      · exact h
      · exact ih (h.moveTo hs _)

theorem Alike.isReadable (h : s.Alike R s') (i : Nat) : s'.isReadable i = s.isReadable i := by
  unfold Session.isReadable
  rcases forall₂_lookup h.workers i with ⟨hn, hn'⟩ | ⟨w, w', hw, hw', hx⟩
  · rw [hn, hn']
  · rw [hw, hw', Option.any_some, Option.any_some, hx.results?]

theorem wantedIndices_eq (s : Session) :
    s.wantedIndices = ((s.workers.map (·.wanted)).zipIdx.filter (·.1)).map (·.2) := by
  rw [List.zipIdx_map, List.filter_map, List.map_map]
  rfl

theorem Alike.wantedIndices (h : s.Alike R s') : s'.wantedIndices = s.wantedIndices := by
  rw [wantedIndices_eq, wantedIndices_eq, forall₂_map_eq h.workers fun _ _ hx => hx.wanted]

theorem Alike.takes (h : s.Alike R s') (indices : List Nat) (all : List QueryResults) :
    (indices.foldl takeNext (s, all)).1.Alike R (indices.foldl takeNext (s', all)).1 ∧
      (indices.foldl takeNext (s', all)).2 = (indices.foldl takeNext (s, all)).2 := by
  induction indices generalizing s s' all with
  | nil => exact ⟨h, rfl⟩
  | cons i rest ih =>
    obtain ⟨hnext, hresults⟩ := h.take i
    rw [List.foldl_cons, List.foldl_cons, takeNext, takeNext, hresults]
    exact ih hnext _

/-- Whoever reads all results gets the same from both. -/
theorem Alike.readAll (hs : Setup.Alike R a b) (h : s.Alike R s') :
    (s.readAll a).1.Alike R (s'.readAll b).1 ∧ (s'.readAll b).2 = (s.readAll a).2 := by
  have hready (t t' : Session) (ht : t.Alike R t') :
      s.wantedIndices.all t'.isReadable = s.wantedIndices.all t.isReadable := by
    rw [funext ht.isReadable]
  rw [readAll_eq, readAll_eq, h.wantedIndices, wait, wait, h.unfinished]
  exact (h.waitIn hs hready s.unfinished).takes _ []

theorem alike_batch (hs : Setup.Alike R a b) (maxConcurrency : Nat) (queries : List Query) :
    (batch a maxConcurrency queries).1.Alike R (batch b maxConcurrency queries).1 ∧
      (batch b maxConcurrency queries).2 = (batch a maxConcurrency queries).2 :=
  ((alike_new a b maxConcurrency).submitAll hs queries).readAll hs

end Session

end MetricBatch
