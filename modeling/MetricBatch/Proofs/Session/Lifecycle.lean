import MetricBatch.Proofs.Session.Stages
import Mathlib.Data.List.Induction

namespace MetricBatch.Session

variable {setup : Setup} {maxConcurrency : Nat} {x : Watched} {s s' : Session} {run : List Turn}
  {t : Turn} {told : List Event}

/-- Each change of the capacity has one event, and once it is done nobody waits for it. -/
structure Resized (run : List Turn) (s : Session) : Prop where
  changes : titled "Admission gate capacity changed" s.events = (run.filterMap Turn.changed?).length
  once : (run.filterMap Turn.changed?).Nodup
  done : ∀ id ∈ run.filterMap Turn.changed?, id < s.nextResize ∧ .resize id ∉ s.gate.resizers

theorem resized_new (setup : Setup) (maxConcurrency : Nat) :
    Resized [] (new setup maxConcurrency) :=
  ⟨by simp [new, Event.title], List.nodup_nil, by simp⟩

/-- No change of the capacity is done, and none begins that was done before. -/
theorem Resized.unchanged (h : Resized run s) (ht : t.changed? = none)
    (hevents : s'.events = s.events ++ told)
    (htold : titled "Admission gate capacity changed" told = 0)
    (hnext : s.nextResize ≤ s'.nextResize)
    (hresizers : ∀ id < s.nextResize,
      .resize id ∈ s'.gate.resizers → .resize id ∈ s.gate.resizers) :
    Resized (run ++ [t]) s' := by
  have hsame : (run ++ [t]).filterMap Turn.changed? = run.filterMap Turn.changed? := by
    simp [List.filterMap_append, ht]
  refine ⟨?_, ?_, ?_⟩
  · rw [hsame, hevents, titled_append, htold]
    exact h.changes
  · rw [hsame]
    exact h.once
  · rw [hsame]
    intro id hid
    obtain ⟨hlt, hnone⟩ := h.done id hid
    exact ⟨by omega, fun hm => hnone (hresizers id hlt hm)⟩

theorem Resized.step (h : Resized run s) (ht : t.changed? = none) (hspeaks : Speaks s s' told)
    (htold : titled "Admission gate capacity changed" told = 0) : Resized (run ++ [t]) s' := by
  apply h.unchanged ht hspeaks.events htold (Nat.le_of_eq hspeaks.nextResize.symm)
  intro id _ hm
  rwa [Gate.resizers, hspeaks.resizes] at hm

/-- A change of the capacity that is done was there before, and is not there any more. -/
theorem changed_resizers {g : Gate Party} {call : Party} (hg : g.Balanced 0) {old : Nat}
    (hc : (g.advanceResize call).2 = .changed old) :
    call ∈ g.resizers ∧ call ∉ (g.advanceResize call).1.resizers := by
  refine ⟨?_, (hg.advanceResize_over (by simp [hc])).2⟩
  have hstep := Gate.advanceResize_advances g call
  generalize g.advanceResize call = result at hstep hc
  cases hstep with
  | wait | refuse | begin => cases hc
  | grow hres hcall | retire hres hcall | shrink hres hcall => simp [Gate.resizers, hres, hcall]

theorem Resized.pollResize (h : Resized run s) (ha : s.Admitted setup) (id : Nat)
    (haction : t.action = .pollResize id) (hbefore : t.before = s) :
    Resized (run ++ [t]) (s.pollResize id).1 := by
  have hresizers {c : Party} (hc : c ∈ (s.pollResize id).1.gate.resizers) :
      c ∈ s.gate.resizers := Gate.advanceResize_resizers hc
  have hevents := pollResize_events s id
  have hprogress : (s.pollResize id).2 = (s.gate.advanceResize (.resize id)).2 := rfl
  cases hp : (s.gate.advanceResize (.resize id)).2 with
  | pending | refused =>
    rw [hp] at hevents
    apply h.unchanged _ hevents rfl (Nat.le_refl _) fun _ _ hm => hresizers hm
    simp [Turn.changed?, haction, hbefore, hprogress, hp]
  | changed old =>
    rw [hp] at hevents
    have ht : t.changed? = some id := by
      simp [Turn.changed?, haction, hbefore, hprogress, hp]
    have hrun : (run ++ [t]).filterMap Turn.changed? = run.filterMap Turn.changed? ++ [id] := by
      simp [List.filterMap_append, ht]
    obtain ⟨hthere, hgone⟩ := changed_resizers ha.gate hp
    have hnew : id ∉ run.filterMap Turn.changed? := fun hm => (h.done id hm).2 hthere
    refine ⟨?_, ?_, ?_⟩
    · rw [hrun, hevents, titled_append, h.changes, List.length_append]
      rfl
    · rw [hrun, ← List.concat_eq_append]
      exact h.once.concat hnew
    · rw [hrun]
      intro other hm
      rcases List.mem_append.mp hm with hm | hm
      · obtain ⟨hlt, hnone⟩ := h.done other hm
        exact ⟨hlt, fun hc => hnone (hresizers hc)⟩
      · rw [List.mem_singleton.mp hm]
        exact ⟨ha.queued.fresh id (.inr hthere), hgone⟩

/-- An action adds to the log and takes nothing out of it. -/
theorem act_events (x : Watched) (action : Action) :
    ∃ told, (x.act setup action).session.events = x.session.events ++ told := by
  cases action with
  | submit | dropResize | elapse | discard | readErrors => exact ⟨[], (List.append_nil _).symm⟩
  | proceed i =>
    rcases proceed_speaks setup x.session i with he | ⟨w, _, _, _, _, hspeaks⟩
    · exact ⟨[], by simp [Watched.act, he]⟩
    · exact ⟨_, hspeaks.events⟩
  | interrupt i =>
    rcases interrupt_speaks x.session i with he | ⟨w, _, _, _, hspeaks⟩
    · exact ⟨[], by simp [Watched.act, he]⟩
    · exact ⟨_, hspeaks.events⟩
  | startResize target =>
    refine ⟨[], ?_⟩
    simp only [Watched.act, Session.startResize]
    split <;> exact (List.append_nil _).symm
  | pollResize id => exact ⟨_, pollResize_events x.session id⟩
  | read i =>
    rcases take_eq x.session i with he | ⟨events, he⟩
    · exact ⟨[], by simp [Watched.act, he]⟩
    · exact ⟨events, by simp [Watched.act, he, note, Session.discard]⟩

theorem Resized.startResize (h : Resized run s) (ht : t.changed? = none) (target : Nat) :
    Resized (run ++ [t]) (s.startResize target) := by
  unfold Session.startResize
  split
  · refine h.unchanged ht (List.append_nil _).symm rfl (Nat.le_succ _) fun id hlt hm => ?_
    rw [Gate.startResize_resizers] at hm
    rcases List.mem_append.mp hm with hold | hnew
    · exact hold
    · rw [List.mem_singleton, Party.resize.injEq] at hnew
      omega
  · exact h.unchanged ht (List.append_nil _).symm rfl (Nat.le_refl _) fun _ _ hm => hm

theorem Resized.act (h : Resized run x.session) (ha : x.session.Admitted setup)
    (ht : x.session.Tallied) (action : Action) :
    Resized (run ++ [turn setup x action]) (x.act setup action).session := by
  have hsilent : x.session.events = x.session.events ++ [] := (List.append_nil _).symm
  cases action with
  | submit | elapse | discard | readErrors =>
    exact h.unchanged rfl hsilent rfl (Nat.le_refl _) fun _ _ hm => hm
  | proceed i =>
    rcases proceed_speaks setup x.session i with he | ⟨w, w', errors, hc, hstep, hspeaks⟩
    · simp only [Watched.act, he]
      exact h.unchanged rfl hsilent rfl (Nat.le_refl _) fun _ _ hm => hm
    · have horderly := ht.orderly w (List.mem_of_getElem? hc.here)
      exact h.step rfl hspeaks (hstep.logs horderly).changes
  | interrupt i =>
    rcases interrupt_speaks x.session i with he | ⟨w, w', hc, hstep, hspeaks⟩
    · simp only [Watched.act, he]
      exact h.unchanged rfl hsilent rfl (Nat.le_refl _) fun _ _ hm => hm
    · have horderly := ht.orderly w (List.mem_of_getElem? hc.here)
      exact h.step rfl hspeaks (hstep.logs horderly).changes
  | startResize target => exact h.startResize rfl target
  | pollResize id => exact h.pollResize ha id rfl rfl
  | dropResize id =>
    refine h.unchanged rfl hsilent rfl (Nat.le_refl _) fun other _ hm => ?_
    obtain ⟨r, hr, hcall⟩ := List.mem_map.mp hm
    exact List.mem_map.mpr ⟨r, (Gate.mem_cancel_resizes.mp hr).1, hcall⟩
  | read i =>
    rcases take_cases x.session i with he | ⟨w, results, events, _, _, _, htold, he⟩
    · simp only [Watched.act, he]
      exact h.unchanged rfl hsilent rfl (Nat.le_refl _) fun _ _ hm => hm
    · have hchanges : titled "Admission gate capacity changed" events = 0 := by
        rw [titled, List.countP_eq_zero]
        intro e hm
        simp [htold e hm, Event.title]
      simp only [Watched.act, he]
      exact h.unchanged rfl rfl hchanges (Nat.le_refl _) fun _ _ hm => hm

/-- The calls to change the capacity that were done are as many as the events. -/
theorem Resized.countP (h : Resized run s) :
    titled "Admission gate capacity changed" s.events =
      (List.range s.nextResize).countP (isChanged run) := by
  have hmem (id : Nat) : isChanged run id = true ↔ id ∈ run.filterMap Turn.changed? := by
    simp [isChanged, List.mem_filterMap]
  have hperm : ((List.range s.nextResize).filter (isChanged run)).Perm
      (run.filterMap Turn.changed?) := by
    apply (List.perm_ext_iff_of_nodup (List.nodup_range.filter _) h.once).mpr
    intro id
    rw [List.mem_filter, List.mem_range, hmem]
    exact ⟨fun hm => hm.2, fun hm => ⟨(h.done id hm).1, hm⟩⟩
  rw [h.changes, List.countP_eq_length_filter, hperm.length_eq]

theorem Admitted.act (h : x.session.Admitted setup) (action : Action) :
    (x.act setup action).session.Admitted setup := by
  cases action with
  | submit query => exact h.spawn query
  | proceed i => exact h.proceed i
  | interrupt i => exact h.interrupt i
  | startResize target => exact h.startResize target
  | pollResize id => exact h.pollResize id
  | dropResize id => exact h.dropResize id
  | elapse millis =>
    exact ⟨h.gate, h.queued, h.permits, h.inFlight, h.total, h.recorded, h.peak⟩
  | read i =>
    have hd := h.discard i
    rcases take_eq x.session i with he | ⟨events, he⟩
    · simp only [Watched.act, he]
      exact h
    · simp only [Watched.act, he]
      exact ⟨hd.gate, hd.queued, hd.permits, hd.inFlight, hd.total, hd.recorded, hd.peak⟩
  | discard i => exact h.discard i
  | readErrors => exact h

/-- What the log tells of a run and what there is to be told. -/
structure Kept (setup : Setup) (maxConcurrency : Nat) (run : List Turn) (s : Session) : Prop where
  admitted : s.Admitted setup
  tallied : s.Tallied
  resized : Resized run s
  traced : Traced run s
  events : s.events = (new setup maxConcurrency).events ++ run.flatMap Turn.events

theorem kept_new (setup : Setup) (maxConcurrency : Nat) :
    Kept setup maxConcurrency [] (new setup maxConcurrency) :=
  ⟨admitted_new setup maxConcurrency, tallied_new setup maxConcurrency,
    resized_new setup maxConcurrency, traced_new setup maxConcurrency, by simp⟩

theorem Kept.act (h : Kept setup maxConcurrency run x.session) (action : Action) :
    Kept setup maxConcurrency (run ++ [turn setup x action]) (x.act setup action).session := by
  refine ⟨h.admitted.act action, h.tallied.act action, h.resized.act h.admitted h.tallied action,
    h.traced.act h.tallied action, ?_⟩
  obtain ⟨told, htold⟩ := act_events x action
  have ht : (turn setup x action).events = told := Turn.events_eq htold
  rw [htold, h.events, List.flatMap_append, List.flatMap_singleton, ht, List.append_assoc]

theorem kept_after (setup : Setup) (maxConcurrency : Nat) (actions : List Action) :
    Kept setup maxConcurrency (turns setup ⟨.new setup maxConcurrency, []⟩ actions)
      (Watched.after setup maxConcurrency actions).session := by
  induction actions using List.reverseRecOn with
  | nil => exact kept_new setup maxConcurrency
  | append_singleton actions action ih =>
    rw [turns_concat, Watched.after, List.foldl_append]
    exact ih.act action

/-- A log that keeps all levels, counted over a whole run with any number of queries, changes of the
capacity, given-up results and lost workers, agrees with the session at any time: an event for each
permit that was acquired and for each that came back, one for each error, one for each answer that
was decoded, whatever came of it, one for each change of the capacity that was done, and one for
each worker that has sent its results after they were given up. When no worker is in the middle of a
step, there is one for each query that has succeeded, too. The events of each worker take it through
its stages, none of them twice, to the one that fits its phase. -/
theorem lifecycle_accounted (setup : Setup) (maxConcurrency : Nat) (actions : List Action) :
    let s := (Watched.after setup maxConcurrency actions).session
    let run := turns setup ⟨.new setup maxConcurrency, []⟩ actions
    s.events = (new setup maxConcurrency).events ++ run.flatMap Turn.events ∧
    s.logged "Sending query" = s.gate.stats.total ∧
    s.logged "Admission permit released" + s.gate.stats.inFlight = s.gate.stats.total ∧
    s.logged "Query failed" = s.errors.size ∧
    s.logged "Decoding response" = s.logged "Query parsed" +
      s.errors.entries.countP (·.phase == "decode") +
      s.errors.entries.countP (·.phase == "parse") ∧
    ((∀ w ∈ s.workers, w.Resting) →
      s.logged "Query parsed" = s.workers.countP fun w => w.Succeeded) ∧
    s.logged "Admission gate capacity changed" =
      (List.range s.nextResize).countP (isChanged run) ∧
    s.logged "Result receiver dropped before publish" =
      s.workers.zipIdx.countP (fun (w, i) => w.hasSent && isDeserted run i) ∧
    ∀ i w, s.workers[i]? = some w →
      (∃ stage, Stage.follow? w.query.text .created (ownEvents run i) = some stage ∧
        stage.Fits w) ∧
      ((ownEvents run i).filterMap Stage.of?).Pairwise (·.rank < ·.rank) := by
  intro s run
  have h : Kept setup maxConcurrency run s := kept_after setup maxConcurrency actions
  simp only [logged_eq]
  refine ⟨h.events, ?_, ?_, ?_, h.tallied.decoding, ?_, h.resized.countP, ?_, ?_⟩
  · exact h.tallied.sending.trans h.admitted.total
  · have hreleased := h.tallied.released
    rwa [h.admitted.inFlight, h.admitted.total] at hreleased
  · rw [titled_failed, h.tallied.failures]
    rfl
  · intro hquiet
    rw [h.tallied.parsed]
    apply List.countP_congr
    intro w hw
    simpa using (h.tallied.orderly w hw).hasParsed_iff (hquiet w hw)
  · rw [h.traced.unwanted, sentInVain, List.countP_map]
    rfl
  · intro i w hw
    obtain ⟨stage, hstage, hfits⟩ := h.traced.stages i w hw
    exact ⟨⟨stage, hstage, hfits⟩, (Stage.follow?_ranks hstage).1⟩

/-- A backend that has an empty result for one query, and no JSON for the others. -/
def sparseBackend : Setup :=
  { lateBackend with
    backend := fun request =>
      let body := if request.url.query = some "query=a" then
          "\x7b\"status\":\"success\",\"data\":\x7b\"resultType\":\"vector\",\"result\":[]\x7d\x7d"
        else ""
      .answer 3 (.ok ⟨200, Text.Utf8.encode body.toList⟩) }

/-- Four queries: one succeeds when nobody waits for it any more, one is taken out of its call, one
fails, and one waits. Meanwhile the capacity grows. -/
def mixedActions : List Action :=
  [.submit ⟨"a", none⟩, .submit ⟨"b", none⟩, .submit ⟨"c", none⟩, .submit ⟨"d", none⟩,
    .startResize 2, .pollResize 0, .proceed 0, .proceed 1, .proceed 2, .proceed 3, .proceed 0,
    .proceed 1, .discard 0, .elapse 3, .interrupt 1, .proceed 1, .proceed 2, .proceed 0, .proceed 0,
    .proceed 1, .proceed 0, .elapse 3, .proceed 2, .proceed 2, .proceed 2, .proceed 0, .proceed 0,
    .proceed 2, .proceed 2, .read 2]

theorem lifecycle_accounted_mixed :
    let s := (Watched.after sparseBackend 1 mixedActions).session
    let run := turns sparseBackend ⟨.new sparseBackend 1, []⟩ mixedActions
    s.gate.stats.total = 3 ∧ s.gate.stats.inFlight = 0 ∧ s.errors.size = 2 ∧
      (s.workers.countP fun w => w.Succeeded) = 1 ∧
      (List.range s.nextResize).countP (isChanged run) = 1 ∧
      s.workers.zipIdx.countP (fun (w, i) => w.hasSent && isDeserted run i) = 1 ∧
      ∃ w stage, s.workers[0]? = some w ∧
        Stage.follow? w.query.text .created (ownEvents run 0) = some stage ∧ stage.Fits w := by
  intro s run
  obtain ⟨_, hsending, hreleased, hfailed, _, hparsed, hchanged, hunwanted, hworkers⟩ :=
    lifecycle_accounted sparseBackend 1 mixedActions
  have hlog : s.logged "Sending query" = 3 ∧ s.logged "Admission permit released" = 3 ∧
      s.logged "Query failed" = 2 ∧ s.logged "Query parsed" = 1 ∧
      s.logged "Admission gate capacity changed" = 1 ∧
      s.logged "Result receiver dropped before publish" = 1 := by decide +kernel
  have hend : (∀ w ∈ s.workers, w.Resting) ∧ (s.workers[0]?).isSome = true := by decide +kernel
  obtain ⟨hthree, hback, htwo, hone, hgrown, hvain⟩ := hlog
  obtain ⟨w, hw⟩ := Option.isSome_iff_exists.mp hend.2
  obtain ⟨⟨stage, hstage⟩, _⟩ := hworkers 0 w hw
  have htotal : s.gate.stats.total = 3 := hsending.symm.trans hthree
  have hflight : s.gate.stats.inFlight = 0 := by
    have hsum : s.logged "Admission permit released" + s.gate.stats.inFlight =
        s.gate.stats.total := hreleased
    omega
  exact ⟨htotal, hflight, hfailed.symm.trans htwo, (hparsed hend.1).symm.trans hone,
    hchanged.symm.trans hgrown, hunwanted.symm.trans hvain, w, stage, hw, hstage⟩

end MetricBatch.Session
