import MetricBatch.Proofs.Session.Runs
import MetricBatch.Proofs.Session.Scripts
import MetricBatch.Session.Interleaving
import Mathlib.Data.List.Nodup
import Mathlib.Data.List.Perm.Subperm

namespace MetricBatch

/-- However a call has ended: either there are results of some kind for the query, or an error that
names it. -/
theorem CallEnd.outcome_kind (result : CallEnd) (timeout : Span) (query : String) :
    (∀ results, result.outcome timeout query = .succeeded results →
      results.query = query ∧ results.kind.isSome = true) ∧
    ∀ error, result.outcome timeout query = .failed error → error.query = query := by
  have hreply : ∃ reply : Reply, reply.outcome timeout query = result.outcome timeout query := by
    cases result with
    | answered r => exact ⟨.answer 0 r, by simp [Reply.outcome, Reply.callEnd]⟩
    | timedOut => exact ⟨.silence, rfl⟩
    | crashed => exact ⟨.crash 0, by simp [Reply.outcome, Reply.callEnd]⟩
  obtain ⟨reply, hreply⟩ := hreply
  have hkind := (verdict_outcome timeout query reply).kind
  rw [hreply] at hkind
  constructor
  · intro results ho
    rw [ho] at hkind
    rcases hkind with ⟨hquery, hsome, _⟩ | ⟨_, _, herror, _⟩
    · exact ⟨hquery, hsome⟩
    · cases herror
  · intro error ho
    rw [ho] at hkind
    rcases hkind with ⟨_, _, hnone⟩ | ⟨_, e, herror, hquery⟩
    · cases hnone
    · cases herror
      exact hquery

namespace Worker

variable {setup : Setup} {clock : Nat} {w w' : Worker} {errors : List QueryError}
  {results : QueryResults}

/-- The worker has reported an error of its query. -/
def HasReported (w : Worker) : Prop := w.query.text ∈ w.reported.map (·.query)

/-- Results that name the worker's query, and that have a kind unless an error has been reported. -/
def Backs (w : Worker) (results : QueryResults) : Prop :=
  results.query = w.query.text ∧ (results.kind = none → w.HasReported)

/-- A worker reports before it lets a failure be seen: before it sends a placeholder, and before it
lets go of its sender. -/
structure Warns (w : Worker) : Prop where
  readable : ∀ results, w.results? = some results → w.Backs results
  publishing : ∀ results, w.phase = .publishing results → w.Backs results
  closing : w.phase = .closing → w.sender = true → w.HasReported

theorem warns_new (query : Query) : (new query).Warns := ⟨nofun, nofun, nofun⟩

theorem HasReported.append (h : w.HasReported) (errors : List QueryError) :
    w.query.text ∈ (w.reported ++ errors).map (·.query) := by
  rw [List.map_append]
  exact List.mem_append_left _ h

theorem hasReported_append {error : QueryError} (h : error.query = w.query.text) :
    w.query.text ∈ (w.reported ++ [error]).map (·.query) := by
  rw [List.map_append, ← h]
  exact List.mem_append_right _ (List.mem_singleton_self _)

/-- The worker goes to a phase in which it neither sends results nor lets go of its sender. What can
be read stays as it is. -/
theorem Warns.move (h : w.Warns) (hq : w'.query = w.query) (hr : w'.reported = w.reported)
    (hresults : w'.results? = w.results?) (hp : ∀ results, w'.phase ≠ .publishing results)
    (hc : w'.phase = .closing → w'.sender = false) : w'.Warns := by
  refine ⟨?_, fun results he => absurd he (hp results), fun he hs => ?_⟩
  · intro results he
    rw [hresults] at he
    have hbacks := h.readable results he
    rwa [Backs, HasReported, ← hq, ← hr] at hbacks
  · rw [hc he] at hs
    cases hs

theorem Warns.steps (h : w.Warns) (hs : w.Steps setup clock w' errors) : w'.Warns := by
  cases hs with
  | start | call | hangUp | die => exact h.move rfl rfl rfl nofun nofun
  | leave _ hsender => exact h.move rfl rfl rfl nofun fun _ => hsender
  | @succeed result results _ ho =>
    obtain ⟨hquery, hkind⟩ := (result.outcome_kind setup.timeout w.query.text).1 results ho
    refine ⟨h.readable, ?_, nofun⟩
    intro _ hp
    cases hp
    exact ⟨hquery, fun hnone => by simp [hnone] at hkind⟩
  | @fail result error _ ho =>
    -- The error is reported in this step, and the placeholder is sent in a later one.
    have hquery := (result.outcome_kind setup.timeout w.query.text).2 error ho
    refine ⟨?_, ?_, nofun⟩
    · intro results he
      obtain ⟨hname, hwarned⟩ := h.readable results he
      exact ⟨hname, fun hnone => (hwarned hnone).append _⟩
    · intro _ hp
      cases hp
      exact ⟨rfl, fun _ => hasReported_append hquery⟩
  | @publish results hp =>
    have hbacks := h.publishing results hp
    unfold publish
    split
    · refine ⟨?_, (fun _ he => by cases he), (fun he => by cases he)⟩
      intro r he
      cases hold : w.published with
      | nil =>
        simp only [results?, hold, List.nil_append, Option.some.injEq] at he
        rw [← he]
        exact hbacks
      | cons first rest =>
        simp only [results?, hold, List.cons_append, Option.some.injEq] at he
        exact h.readable r (by simp [results?, hold, he])
    · exact h.move rfl rfl rfl (fun _ he => by cases he) fun he => by cases he
  | lose =>
    have hquery : w.loss.query = w.query.text := rfl
    refine ⟨?_, (fun _ he => by cases he), fun _ _ => hasReported_append hquery⟩
    intro results he
    obtain ⟨hname, hwarned⟩ := h.readable results he
    exact ⟨hname, fun hnone => (hwarned hnone).append _⟩
  | close hp =>
    refine ⟨?_, (fun _ he => by cases he), (fun he => by cases he)⟩
    intro results he
    cases hold : w.published with
    | cons first rest => exact h.readable results (by simpa [results?, hold] using he)
    | nil =>
      simp only [results?, hold, Bool.false_eq_true, ↓reduceIte, Option.some.injEq] at he
      rw [← he]
      refine ⟨rfl, fun _ => ?_⟩
      cases hsender : w.sender with
      | true => exact h.closing hp hsender
      | false =>
        have hgone := h.readable (.placeholder w.query.text) (by simp [results?, hold, hsender])
        exact hgone.2 rfl

theorem Warns.interrupted (h : w.Warns) (hs : w.Interrupted w') : w'.Warns := by
  cases hs <;> exact h.move rfl rfl rfl nofun nofun

/-- What can be read stays there to be read. -/
theorem Steps.results? (hs : w.Steps setup clock w' errors) (hr : w.results? = some results) :
    w'.results? = some results := by
  have hkept (w' : Worker) (hq : w'.query = w.query) (hpub : w'.published = w.published)
      (hsender : w.sender = false → w'.sender = false) : w'.results? = some results := by
    rw [← hr]
    unfold Worker.results? at hr ⊢
    rw [hpub, hq]
    cases hold : w.published with
    | cons => rfl
    | nil =>
      cases hs : w.sender with
      | true => simp [hold, hs] at hr
      | false => simp [hsender hs]
  cases hs with
  | start | call | hangUp | succeed | fail | die | lose | leave =>
    exact hkept _ rfl rfl fun hs => hs
  | close => exact hkept _ rfl rfl fun _ => rfl
  | @publish sent hp =>
    unfold Worker.publish
    split
    · rename_i hsender
      cases hold : w.published with
      | nil => simp [Worker.results?, hold, hsender] at hr
      | cons first rest => simpa [Worker.results?, hold] using hr
    · exact hkept _ rfl rfl fun hs => hs

theorem Interrupted.results? (hs : w.Interrupted w') : w'.results? = w.results? := by
  cases hs <;> rfl

theorem Steps.wanted (hs : w.Steps setup clock w' errors) : w'.wanted = w.wanted := by
  cases hs with
  | publish =>
    simp only [Worker.publish]
    split <;> rfl
  | start | call | hangUp | succeed | fail | die | lose | leave | close => rfl

theorem Interrupted.wanted (hs : w.Interrupted w') : w'.wanted = w.wanted := by
  cases hs <;> rfl

end Worker

namespace Session

variable {setup : Setup} {s s' : Session} {i : Nat} {w : Worker} {results : QueryResults}

/-- Every worker warns, and the log holds just what workers have reported. -/
structure Warned (s : Session) : Prop where
  workers : ∀ w ∈ s.workers, w.Warns
  entries : s.errors.entries.Perm (s.workers.flatMap (·.reported))

theorem warned_new (setup : Setup) (maxConcurrency : Nat) : (new setup maxConcurrency).Warned :=
  ⟨by simp [new], by simp [new, ErrorLog.empty]⟩

theorem Warned.changes (h : s.Warned) {w' : Worker} {errors : List QueryError}
    (hc : Changes s s' i w w' errors) (hwarns : w'.Warns)
    (hreported : w'.reported = w.reported ++ errors) : s'.Warned := by
  refine ⟨?_, hc.entries_perm h.entries hreported⟩
  intro x hx
  rw [hc.workers] at hx
  rcases List.mem_or_eq_of_mem_set hx with hm | rfl
  · exact h.workers x hm
  · exact hwarns

theorem Warned.proceed (h : s.Warned) (i : Nat) : (s.proceed setup i).Warned := by
  rcases proceed_changes setup s i with ⟨he, _⟩ | ⟨w, w', errors, hc, hstep⟩
  · rwa [he]
  · have hwarns := h.workers w (List.mem_of_getElem? hc.here)
    exact h.changes hc (hwarns.steps hstep) hstep.reported

theorem Warned.interrupt (h : s.Warned) (i : Nat) : (s.interrupt i).Warned := by
  rcases interrupt_changes s i with ⟨he, _⟩ | ⟨w, w', hc, hstep⟩
  · rwa [he]
  · have hwarns := h.workers w (List.mem_of_getElem? hc.here)
    exact h.changes hc (hwarns.interrupted hstep) (by simp [hstep.reported])

theorem Warned.congr (h : s.Warned) (hw : s'.workers = s.workers) (he : s'.errors = s.errors) :
    s'.Warned :=
  ⟨by rw [hw]; exact h.workers, by rw [hw, he]; exact h.entries⟩

theorem Warned.spawn (h : s.Warned) (query : Query) : (s.spawn query).Warned := by
  constructor
  · intro w hw
    rcases List.mem_append.mp hw with hm | hm
    · exact h.workers w hm
    · rw [List.mem_singleton.mp hm]
      exact Worker.warns_new query
  · simpa [Session.spawn, Worker.new] using h.entries

theorem Warned.discard (h : s.Warned) (i : Nat) : (s.discard i).Warned := by
  constructor
  · intro w hw
    obtain ⟨j, hj⟩ := List.mem_iff_getElem?.mp hw
    obtain ⟨x, hx, he⟩ := discard_lookup hj
    have hwarns := h.workers x (List.mem_of_getElem? hx)
    rcases he with rfl | rfl
    · exact hwarns
    · exact ⟨hwarns.readable, hwarns.publishing, hwarns.closing⟩
  · rw [discard_reported]
    exact h.entries

theorem Warned.take (h : s.Warned) (i : Nat) : (s.take i).1.Warned := by
  rcases take_eq s i with he | ⟨events, he⟩
  · rwa [he]
  · rw [he]
    exact (h.discard i).congr rfl rfl

/-- Where each list has what is asked of it, and none is asked twice, the lists together have all
that is asked of them. -/
theorem subperm_flatten {β : Type} {lists : List (List β)} {wanted : List (Nat × β)}
    (hn : (wanted.map (·.1)).Nodup)
    (h : ∀ p ∈ wanted, ∃ bs, lists[p.1]? = some bs ∧ p.2 ∈ bs) :
    (wanted.map (·.2)).Subperm lists.flatten := by
  -- What has been asked is emptied, so that it cannot serve for anything else.
  induction wanted generalizing lists with
  | nil => exact List.nil_subperm
  | cons p rest ih =>
    rw [List.map_cons, List.nodup_cons] at hn
    obtain ⟨bs, hbs, hp⟩ := h p (by simp)
    obtain ⟨hlt, hget⟩ := List.getElem?_eq_some_iff.mp hbs
    have hrest : (rest.map (·.2)).Subperm (lists.set p.1 []).flatten := by
      apply ih hn.2
      intro q hq
      obtain ⟨cs, hcs, hmem⟩ := h q (by simp [hq])
      have hne : p.1 ≠ q.1 := fun he => hn.1 (List.mem_map.mpr ⟨q, hq, he.symm⟩)
      exact ⟨cs, by rw [List.getElem?_set_ne hne, hcs], hmem⟩
    have hsplit : lists.flatten.Perm ((lists.set p.1 []).flatten ++ bs) := by
      have hback : (lists.set p.1 []).set p.1 bs = lists := by
        rw [List.set_set, ← hget, List.set_getElem_self]
      have hempty : (lists.set p.1 [])[p.1]? = some [] := by simp [hlt]
      have hperm := flatMap_set hempty (List.nil_append (id bs)).symm
      rwa [hback, List.flatMap_id, List.flatMap_id] at hperm
    rw [hsplit.subperm_left, List.map_cons]
    have hfirst : [p.2].Subperm bs := List.singleton_subperm_iff.mpr hp
    exact (List.perm_append_singleton _ _).symm.subperm.trans (hrest.append hfirst)

/-- Different workers that have reported their queries have entries of their own. -/
theorem Warned.entries_cover (h : s.Warned) {batch : List (Nat × String)}
    (hn : (batch.map (·.1)).Nodup)
    (hb : ∀ p ∈ batch, ∃ w, s.workers[p.1]? = some w ∧ w.query.text = p.2 ∧ w.HasReported) :
    (batch.map (·.2)).Subperm (s.errors.entries.map (·.query)) := by
  have hcover : (batch.map (·.2)).Subperm
      (s.workers.map fun w => w.reported.map (·.query)).flatten := by
    apply subperm_flatten hn
    intro p hp
    obtain ⟨w, hw, hquery, hreported⟩ := hb p hp
    exact ⟨w.reported.map (·.query), by simp [hw], hquery ▸ hreported⟩
  rw [← List.flatMap_def, ← List.map_flatMap] at hcover
  exact hcover.trans (h.entries.map _).symm.subperm

/-- Results that somebody has taken or given up stay what they are. -/
def Retains (s s' : Session) : Prop :=
  ∀ (i : Nat) (w : Worker) (results : QueryResults), s.workers[i]? = some w → w.wanted = false →
    w.results? = some results →
    ∃ w', s'.workers[i]? = some w' ∧ w'.wanted = false ∧ w'.results? = some results

theorem retains_of_workers (h : s'.workers = s.workers) : Retains s s' := by
  intro i w results hw hn hr
  exact ⟨w, by rw [h, hw], hn, hr⟩

theorem Changes.retains {w' : Worker} {errors : List QueryError}
    (hc : Changes s s' i w w' errors) (hwanted : w'.wanted = w.wanted)
    (hresults : ∀ results, w.results? = some results → w'.results? = some results) :
    Retains s s' := by
  intro j x results hx hn hr
  by_cases hj : j = i
  · subst hj
    rw [hc.here, Option.some.injEq] at hx
    subst hx
    exact ⟨w', hc.same, hwanted.trans hn, hresults results hr⟩
  · exact ⟨x, by rw [hc.other hj, hx], hn, hr⟩

theorem proceed_retains (s : Session) (i : Nat) : Retains s (s.proceed setup i) := by
  rcases proceed_changes setup s i with ⟨he, _⟩ | ⟨w, w', errors, hc, hstep⟩
  · rw [he]
    exact retains_of_workers rfl
  · exact hc.retains hstep.wanted fun _ hr => hstep.results? hr

theorem interrupt_retains (s : Session) (i : Nat) : Retains s (s.interrupt i) := by
  rcases interrupt_changes s i with ⟨he, _⟩ | ⟨w, w', hc, hstep⟩
  · rw [he]
    exact retains_of_workers rfl
  · exact hc.retains hstep.wanted fun _ hr => hstep.results?.trans hr

theorem spawn_retains (s : Session) (query : Query) : Retains s (s.spawn query) := by
  intro i w results hw hn hr
  have hlt := (List.getElem?_eq_some_iff.mp hw).1
  exact ⟨w, by rw [Session.spawn, List.getElem?_append_left hlt, hw], hn, hr⟩

theorem discard_retains (s : Session) (i : Nat) : Retains s (s.discard i) := by
  intro j w results hw hn hr
  rw [Session.discard, List.getElem?_modify, hw]
  by_cases hj : i = j
  · exact ⟨{ w with wanted := false }, by simp [hj], rfl, hr⟩
  · exact ⟨w, by simp [hj], hn, hr⟩

theorem discard_unwanted (hw : s.workers[i]? = some w) :
    (s.discard i).workers[i]? = some { w with wanted := false } := by
  simp [Session.discard, hw]

/-- Whoever takes results finds them there, and they are not to be had again. -/
theorem take_cases (s : Session) (i : Nat) :
    s.take i = (s, none) ∨
      ∃ w results events, s.workers[i]? = some w ∧ w.wanted = true ∧ w.results? = some results ∧
        (∀ e ∈ events, e = .abandoned w.query.text) ∧
        s.take i = ((s.discard i).note events, some results) := by
  unfold Session.take
  cases hw : s.workers[i]? with
  | none => exact .inl rfl
  | some w =>
    dsimp only
    cases hr : w.readable? with
    | none => exact .inl rfl
    | some results =>
      unfold Worker.readable? at hr
      split at hr
      · rename_i hwanted
        refine .inr ⟨w, results, _, rfl, hwanted, hr, ?_, rfl⟩
        intro e he
        split at he
        · exact List.mem_singleton.mp he
        · cases he
      · cases hr

/-- The queries of which readers have got no more than a placeholder. -/
def failuresIn (sights : List Sight) : List String :=
  ((resultsIn sights).filter (·.2.kind.isNone)).map (·.2.query)

theorem resultsIn_append (sights added : List Sight) :
    resultsIn (sights ++ added) = resultsIn sights ++ resultsIn added :=
  List.filterMap_append

/-- What readers have got was there to be got, and each list of errors that they have got covers the
failures that they had seen before. -/
structure Watched.Informed (x : Watched) : Prop where
  warned : x.session.Warned
  got : ∀ p ∈ resultsIn x.sights, ∃ w, x.session.workers[p.1]? = some w ∧ w.wanted = false ∧
    w.results? = some p.2
  once : ((resultsIn x.sights).map (·.1)).Nodup
  errors : ∀ (k : Nat) (entries : List QueryError), x.sights[k]? = some (.errors entries) →
    (failuresIn (x.sights.take k)).Subperm (entries.map (·.query))

namespace Watched

variable {x : Watched}

theorem informed_new (setup : Setup) (maxConcurrency : Nat) :
    Informed ⟨.new setup maxConcurrency, []⟩ :=
  ⟨warned_new setup maxConcurrency, by simp [resultsIn], by simp [resultsIn], by simp⟩

/-- Whatever readers have seen to have failed has an entry in the log by now. -/
theorem Informed.covered (h : x.Informed) :
    (failuresIn x.sights).Subperm (x.session.errors.entries.map (·.query)) := by
  let batch := ((resultsIn x.sights).filter (·.2.kind.isNone)).map fun p => (p.1, p.2.query)
  have hqueries : failuresIn x.sights = batch.map (·.2) := by simp [failuresIn, batch]
  rw [hqueries]
  apply h.warned.entries_cover
  · have hids : batch.map (·.1) = ((resultsIn x.sights).filter (·.2.kind.isNone)).map (·.1) := by
      simp [batch]
    rw [hids]
    exact h.once.sublist (List.filter_sublist.map _)
  · intro p hp
    obtain ⟨q, hq, rfl⟩ := List.mem_map.mp hp
    obtain ⟨hmem, hnone⟩ := List.mem_filter.mp hq
    obtain ⟨w, hw, _, hr⟩ := h.got q hmem
    obtain ⟨hname, hreported⟩ :=
      (h.warned.workers w (List.mem_of_getElem? hw)).readable q.2 hr
    exact ⟨w, hw, hname.symm, hreported (by simpa using hnone)⟩

/-- Nobody reads while the session goes on. -/
theorem Informed.unread (h : x.Informed) (hw : s'.Warned) (hr : Retains x.session s') :
    Informed ⟨s', x.sights⟩ := by
  refine ⟨hw, ?_, h.once, h.errors⟩
  intro p hp
  obtain ⟨w, hw, hn, hresults⟩ := h.got p hp
  exact hr p.1 w p.2 hw hn hresults

/-- Lists of errors that had been seen before are followed by what is seen now. -/
theorem Informed.errors_append (h : x.Informed) {added : List Sight}
    (hadded : ∀ (k : Nat) (entries : List QueryError), added[k]? = some (.errors entries) →
      k = 0 ∧ entries = x.session.errors.entries) :
    ∀ (k : Nat) (entries : List QueryError), (x.sights ++ added)[k]? = some (.errors entries) →
      (failuresIn ((x.sights ++ added).take k)).Subperm (entries.map (·.query)) := by
  intro k entries hk
  by_cases hlt : k < x.sights.length
  · rw [List.getElem?_append_left hlt] at hk
    rw [List.take_append_of_le_length (Nat.le_of_lt hlt)]
    exact h.errors k entries hk
  · rw [List.getElem?_append_right (Nat.le_of_not_lt hlt)] at hk
    obtain ⟨hzero, rfl⟩ := hadded _ entries hk
    have hlen : k = x.sights.length := by omega
    rw [hlen, List.take_left']
    · exact h.covered
    · rfl

theorem Informed.read (h : x.Informed) (i : Nat) : (x.act setup (.read i)).Informed := by
  have htaken := h.warned.take i
  simp only [act]
  rcases take_cases x.session i with he | ⟨w, results, events, hw, hwanted, hr, _, he⟩
  · rw [he]
    simpa using h
  · rw [he] at htaken ⊢
    have hold := h.unread htaken fun j y r hy hn hr => discard_retains x.session i j y r hy hn hr
    have hnew : resultsIn (x.sights ++ [.results i results]) =
        resultsIn x.sights ++ [(i, results)] := resultsIn_append _ _
    refine ⟨htaken, ?_, ?_, ?_⟩
    · intro p hp
      rw [Option.map_some, Option.toList_some, hnew] at hp
      rcases List.mem_append.mp hp with hm | hm
      · exact hold.got p hm
      · rw [List.mem_singleton.mp hm]
        exact ⟨_, discard_unwanted hw, rfl, hr⟩
    · rw [Option.map_some, Option.toList_some, hnew, List.map_append, List.map_singleton,
        ← List.concat_eq_append]
      -- Who has read these results before would have left them unwanted.
      refine h.once.concat fun hm => ?_
      obtain ⟨p, hp, hi⟩ := List.mem_map.mp hm
      obtain ⟨y, hy, hn, _⟩ := h.got p hp
      rw [hi, hw, Option.some.injEq] at hy
      rw [← hy, hwanted] at hn
      cases hn
    · apply h.errors_append
      intro k entries hk
      cases k <;> simp at hk

theorem Informed.readErrors (h : x.Informed) : (x.act setup .readErrors).Informed := by
  have hnone : resultsIn (x.sights ++ [.errors x.session.errors.entries]) = resultsIn x.sights := by
    rw [resultsIn_append]
    exact List.append_nil _
  refine ⟨h.warned, ?_, ?_, ?_⟩
  · intro p hp
    rw [act, hnone] at hp
    exact h.got p hp
  · rw [act, hnone]
    exact h.once
  · apply h.errors_append
    intro k entries hk
    cases k with
    | zero =>
      simp only [List.getElem?_cons_zero, Option.some.injEq, Sight.errors.injEq] at hk
      exact ⟨rfl, hk.symm⟩
    | succ k => simp at hk

theorem Informed.act (h : x.Informed) (a : Action) : (x.act setup a).Informed := by
  cases a with
  | submit query => exact h.unread (h.warned.spawn query) (spawn_retains _ query)
  | proceed i => exact h.unread (h.warned.proceed i) (proceed_retains _ i)
  | interrupt i => exact h.unread (h.warned.interrupt i) (interrupt_retains _ i)
  | startResize target =>
    have hsame : (x.session.startResize target).workers = x.session.workers ∧
        (x.session.startResize target).errors = x.session.errors := by
      unfold Session.startResize
      split <;> exact ⟨rfl, rfl⟩
    exact h.unread (h.warned.congr hsame.1 hsame.2) (retains_of_workers hsame.1)
  | pollResize id => exact h.unread (h.warned.congr rfl rfl) (retains_of_workers rfl)
  | dropResize id => exact h.unread (h.warned.congr rfl rfl) (retains_of_workers rfl)
  | elapse millis => exact h.unread (h.warned.congr rfl rfl) (retains_of_workers rfl)
  | read i => exact h.read i
  | discard i => exact h.unread (h.warned.discard i) (discard_retains _ i)
  | readErrors => exact h.readErrors

theorem informed_acts (h : x.Informed) (actions : List Action) :
    (actions.foldl (Watched.act setup) x).Informed := by
  induction actions generalizing x with
  | nil => exact h
  | cons a rest ih => exact ih (h.act a)

theorem informed_after (setup : Setup) (maxConcurrency : Nat) (actions : List Action) :
    (after setup maxConcurrency actions).Informed :=
  informed_acts (informed_new setup maxConcurrency) actions

abbrev LeadsTo (setup : Setup) (x x' : Watched) : Prop :=
  Leads (act setup) (fun _ => True) x x'

theorem act_leads (x : Watched) (a : Action) : LeadsTo setup x (x.act setup a) := leads_move trivial

theorem proceedIn_acts (turns i : Nat) (x : Watched) :
    LeadsTo setup x ⟨x.session.proceedIn setup turns i, x.sights⟩ := by
  induction turns generalizing x with
  | zero => exact .refl x
  | succ turns ih => exact (act_leads x (.proceed i)).trans (ih _)

/-- A move is a run of actions, unless it takes a worker away. -/
theorem move_acts (x : Watched) {m : Move} (hm : m.Spares) :
    ∃ more, LeadsTo setup x ⟨x.session.move setup m, x.sights ++ more⟩ := by
  have hunseen {s : Session} (h : LeadsTo setup x ⟨s, x.sights⟩) :
      ∃ more, LeadsTo setup x ⟨s, x.sights ++ more⟩ := ⟨[], by rwa [List.append_nil]⟩
  cases m with
  | submit query => exact hunseen (act_leads x (.submit query))
  | poll i => exact hunseen (proceedIn_acts 7 i x)
  | dropTask i => exact hm.elim
  | startResize target => exact hunseen (act_leads x (.startResize target))
  | pollResize id => exact hunseen (act_leads x (.pollResize id))
  | dropResize id => exact hunseen (act_leads x (.dropResize id))
  | pass millis =>
    simp only [Session.move, Session.pass]
    split
    · exact hunseen (act_leads x (.elapse millis))
    · exact hunseen (.refl x)
  | take i => exact ⟨_, act_leads x (.read i)⟩
  | discard i => exact hunseen (act_leads x (.discard i))

theorem moves_acts {moves : List Move} (hm : ∀ m ∈ moves, m.Spares) (x : Watched) :
    ∃ more, LeadsTo setup x ⟨moves.foldl (move setup) x.session, x.sights ++ more⟩ := by
  induction moves generalizing x with
  | nil => exact ⟨[], by rw [List.append_nil]; exact .refl x⟩
  | cons m rest ih =>
    rw [List.forall_mem_cons] at hm
    obtain ⟨more, hfirst⟩ := move_acts x hm.1
    obtain ⟨more', hrest⟩ := ih hm.2 ⟨x.session.move setup m, x.sights ++ more⟩
    exact ⟨more ++ more', by rw [← List.append_assoc]; exact hfirst.trans hrest⟩

/-- Whoever takes results one after the other gets what a reader gets. -/
theorem takes_acts (indices : List Nat) (x : Watched) (all : List QueryResults) :
    ∃ more, LeadsTo setup x ⟨(indices.foldl takeNext (x.session, all)).1, x.sights ++ more⟩ ∧
      (indices.foldl takeNext (x.session, all)).2 = all ++ (resultsIn more).map (·.2) := by
  induction indices generalizing x all with
  | nil => exact ⟨[], by rw [List.append_nil]; exact .refl x, by simp [resultsIn]⟩
  | cons i rest ih =>
    obtain ⟨more, hrest, hall⟩ := ih (x.act setup (.read i)) (all ++ (x.session.take i).2.toList)
    refine ⟨((x.session.take i).2.map (Sight.results i)).toList ++ more, ?_, ?_⟩
    · rw [← List.append_assoc]
      exact (act_leads x (.read i)).trans hrest
    · rw [List.foldl_cons, resultsIn_append, List.map_append, ← List.append_assoc]
      refine hall.trans (congrArg (· ++ (resultsIn more).map (·.2)) (congrArg (all ++ ·) ?_))
      cases (x.session.take i).2 <;> rfl

/-- What becomes of a batch can come of actions, and its results are the last that readers get. -/
theorem batch_acts (setup : Setup) (maxConcurrency : Nat) (queries : List Query) :
    ∃ (actions : List Action) (earlier : List QueryResults),
      (after setup maxConcurrency actions).session = (batch setup maxConcurrency queries).1 ∧
      (resultsIn (after setup maxConcurrency actions).sights).map (·.2) =
        earlier ++ (batch setup maxConcurrency queries).2 := by
  let s := (new setup maxConcurrency).submitAll setup queries
  let waited := s.wait setup fun t => s.wantedIndices.all t.isReadable
  have hwait : Session.LeadsTo setup (new setup maxConcurrency) waited :=
    (submitAll_leads _ queries).trans (wait_leads _ _).leadsTo
  obtain ⟨moves, hspares, hmoves⟩ := hwait
  obtain ⟨seen, hbefore⟩ := moves_acts hspares ⟨new setup maxConcurrency, []⟩
  rw [hmoves] at hbefore
  obtain ⟨more, hreads, hall⟩ := takes_acts s.wantedIndices ⟨waited, seen⟩ []
  obtain ⟨actions, _, hactions⟩ := hbefore.trans hreads
  have hbatch : batch setup maxConcurrency queries =
      s.wantedIndices.foldl takeNext (waited, []) := readAll_eq setup s
  rw [List.nil_append] at hall
  refine ⟨actions, (resultsIn seen).map (·.2), ?_, ?_⟩
  · rw [after, hactions, hbatch]
  · rw [after, hactions, hbatch, hall, resultsIn_append, List.map_append]

end Watched

open Watched in
/-- Between any two steps of workers and readers, each receiver that has nothing to read but a
placeholder has an entry of its own in the log, with its query. So the errors that a reader gets
cover all failures that readers have seen before, and the errors after a batch cover the failures
among its results. -/
theorem failures_reported_first (setup : Setup) (maxConcurrency : Nat) (actions : List Action) :
    let x := Watched.after setup maxConcurrency actions
    (∀ receivers : List (Nat × String), (receivers.map (·.1)).Nodup →
      (∀ p ∈ receivers, ∃ w, x.session.workers[p.1]? = some w ∧ w.query.text = p.2 ∧
        w.results? = some (.placeholder p.2)) →
      (receivers.map (·.2)).Subperm (x.session.errors.entries.map (·.query))) ∧
    (∀ (k : Nat) (entries : List QueryError), x.sights[k]? = some (.errors entries) →
      (failuresIn (x.sights.take k)).Subperm (entries.map (·.query))) ∧
    ∀ queries : List Query,
      let (s, results) := batch setup maxConcurrency queries
      ((results.filter (·.kind.isNone)).map (·.query)).Subperm (s.errors.entries.map (·.query)) := by
  intro x
  have h : x.Informed := informed_after setup maxConcurrency actions
  refine ⟨?_, h.errors, ?_⟩
  · intro receivers hn hreadable
    apply h.warned.entries_cover hn
    intro p hp
    obtain ⟨w, hw, hquery, hresults⟩ := hreadable p hp
    have hbacks := (h.warned.workers w (List.mem_of_getElem? hw)).readable _ hresults
    exact ⟨w, hw, hquery, hbacks.2 rfl⟩
  · intro queries
    obtain ⟨run, earlier, hsession, hresults⟩ := batch_acts setup maxConcurrency queries
    have hcovered := (informed_after setup maxConcurrency run).covered
    have hfailures : failuresIn (Watched.after setup maxConcurrency run).sights =
        ((earlier ++ (batch setup maxConcurrency queries).2).filter (·.kind.isNone)).map (·.query) := by
      rw [← hresults, List.filter_map, List.map_map]
      rfl
    rw [hsession, hfailures, List.filter_append, List.map_append] at hcovered
    exact (List.sublist_append_right _ _).subperm.trans hcovered

/-- Two workers end in turns: one sends a placeholder, the other lets go of its sender. -/
theorem failures_reported_first_crossed :
    let x := Watched.after lateBackend 1
      [.submit ⟨"a", none⟩, .submit ⟨"b", none⟩, .proceed 0, .proceed 0, .proceed 1, .interrupt 1,
        .elapse 5, .proceed 0, .proceed 1, .proceed 0, .proceed 1, .read 1, .readErrors, .proceed 0]
    failuresIn (x.sights.take 1) = ["b"] ∧
      (["a", "b"].Subperm (x.session.errors.entries.map (·.query))) ∧
      ∃ entries, x.sights[1]? = some (.errors entries) ∧ entries.map (·.query) = ["b", "a"] ∧
        (failuresIn (x.sights.take 1)).Subperm (entries.map (·.query)) := by
  obtain ⟨hreceivers, hsights, _⟩ := failures_reported_first lateBackend 1
    [.submit ⟨"a", none⟩, .submit ⟨"b", none⟩, .proceed 0, .proceed 0, .proceed 1, .interrupt 1,
      .elapse 5, .proceed 0, .proceed 1, .proceed 0, .proceed 1, .read 1, .readErrors, .proceed 0]
  refine ⟨by rfl, hreceivers [(0, "a"), (1, "b")] (by decide) ?_, _, rfl, by rfl, hsights 1 _ rfl⟩
  intro p hp
  rcases List.mem_cons.mp hp with rfl | hm
  · exact ⟨_, rfl, rfl, rfl⟩
  · rw [List.mem_singleton.mp hm]
    exact ⟨_, rfl, rfl, rfl⟩

end Session

end MetricBatch
