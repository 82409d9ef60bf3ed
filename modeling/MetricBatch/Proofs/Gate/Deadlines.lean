import MetricBatch.Proofs.Gate.Refusal
import MetricBatch.Proofs.Gate.Untimed

namespace MetricBatch.Gate

open Calls

/-- The timetable is right about the calls that have limits and are pending. -/
structure Timetable.Tracks (t : Timetable) (s : Calls) : Prop where
  clock : t.clock = s.clock
  nextId : t.nextId = s.nextId
  fresh : ∀ l ∈ t.limits, l.call < t.nextId
  unique : (t.limits.map (·.call)).Nodup
  pending : s.pending.filterMap PendingCall.limit? =
    t.limits.filter fun l => s.pending.any (·.id == l.call)

namespace Timetable.Tracks

variable {t : Timetable} {s s' : Calls}

theorem start (capacity : Nat) : Timetable.start.Tracks (.new capacity) :=
  ⟨rfl, rfl, nofun, List.nodup_nil, rfl⟩

theorem limit (h : t.Tracks s) {p : PendingCall} (hp : p ∈ s.pending) {l : Limit}
    (hl : p.limit? = some l) : l ∈ t.limits := by
  have hm : l ∈ s.pending.filterMap PendingCall.limit? := List.mem_filterMap.mpr ⟨p, hp, hl⟩
  rw [h.pending] at hm
  exact List.mem_of_mem_filter hm

theorem call (h : t.Tracks s) (hs : s.Sound) {p : PendingCall} (hp : p ∈ s.pending) {l : Limit}
    (hl : l ∈ t.limits) (hid : p.id = l.call) : p.limit? = some l := by
  have hm : l ∈ s.pending.filterMap PendingCall.limit? := by
    rw [h.pending]
    exact List.mem_filter.mpr ⟨hl, List.any_eq_true.mpr ⟨p, hp, by simpa using hid⟩⟩
  obtain ⟨q, hq, hlq⟩ := List.mem_filterMap.mp hm
  rwa [hs.same_call hp hq (hid.trans (PendingCall.limit_eq_some.mp hlq).1.symm)]

/-- Calls end, whoever they are. -/
theorem left (h : t.Tracks s) (hclock : s'.clock = s.clock) (hnext : s'.nextId = s.nextId)
    {f : Nat → Bool} (hpending : s'.pending = s.pending.filter (f ·.id)) : t.Tracks s' := by
  refine ⟨h.clock.trans hclock.symm, h.nextId.trans hnext.symm, h.fresh, h.unique, ?_⟩
  have hlimits (ps : List PendingCall) : (ps.filter (f ·.id)).filterMap PendingCall.limit? =
      (ps.filterMap PendingCall.limit?).filter (f ·.call) := by
    induction ps with
    | nil => rfl
    | cons p rest ih =>
      cases hl : p.limit? with
      | none => by_cases hf : f p.id = true <;> simp [hf, hl, ih]
      | some l =>
        have hid := (PendingCall.limit_eq_some.mp hl).1
        by_cases hf : f l.call = true <;> simp [hid, hf, hl, ih]
  rw [hpending, hlimits, h.pending, List.filter_filter]
  refine List.filter_congr fun l _ => ?_
  rw [List.any_filter, Bool.eq_iff_iff]
  simp only [Bool.and_eq_true, List.any_eq_true, beq_iff_eq]
  constructor
  · rintro ⟨hf, p, hp, hid⟩
    exact ⟨p, hp, hid ▸ hf, hid⟩
  · rintro ⟨p, hp, hf, hid⟩
    exact ⟨hid ▸ hf, p, hp, hid⟩

theorem polled (h : t.Tracks s) {log : List Over} (hp : s.Polled s' log) : t.Tracks s' :=
  h.left hp.clock hp.nextId (f := (· ∉ log.map (·.call))) hp.pending

/-- A call is started. -/
theorem join (h : t.Tracks s) {p : PendingCall} (hid : p.id = s.nextId)
    (hclock : s'.clock = s.clock) (hnext : s'.nextId = s.nextId + 1)
    (hpending : s'.pending = s.pending ++ [p]) :
    Tracks { t with nextId := t.nextId + 1, limits := t.limits ++ p.limit?.toList } s' := by
  have hnew (l : Limit) (hl : p.limit? = some l) : l.call = t.nextId := by
    rw [h.nextId, ← hid, (PendingCall.limit_eq_some.mp hl).1]
  refine ⟨h.clock.trans hclock.symm, by simp [h.nextId, hnext], ?_, ?_, ?_⟩
  · intro l hl
    rcases List.mem_append.mp hl with hm | hm
    · exact Nat.lt_succ_of_lt (h.fresh l hm)
    · rw [hnew l (by simpa using hm)]
      exact Nat.lt_succ_self _
  · cases hl : p.limit? with
    | none => simpa using h.unique
    | some l =>
      have hout : l.call ∉ t.limits.map (·.call) := by
        intro hm
        obtain ⟨x, hx, he⟩ := List.mem_map.mp hm
        have hlt := h.fresh x hx
        rw [he, hnew l hl] at hlt
        exact absurd hlt (Nat.lt_irrefl _)
      rw [Option.toList_some, List.map_append, List.map_singleton, ← List.concat_eq_append]
      exact h.unique.concat hout
  · have hold : (t.limits.filter fun l => (s.pending ++ [p]).any (·.id == l.call)) =
        t.limits.filter fun l => s.pending.any (·.id == l.call) := by
      refine List.filter_congr fun l hl => ?_
      have hlt := h.fresh l hl
      rw [h.nextId, ← hid] at hlt
      simp [Nat.ne_of_gt hlt]
    rw [hpending, List.filter_append, hold, ← h.pending, List.filterMap_append]
    congr 1
    cases hl : p.limit? with
    | none => simp [hl]
    | some l => simp [hl, (PendingCall.limit_eq_some.mp hl).1]

/-- One that is pending in a settled gate has not reached its limit. -/
theorem pass (h : t.Tracks s) (hs : s.Sound) (hsettled : s.IsSettled) : t.pass.Tracks s := by
  refine ⟨h.clock, h.nextId, ?_, ?_, ?_⟩
  · exact fun l hl => h.fresh l (List.mem_of_mem_filter hl)
  · exact h.unique.sublist (List.Sublist.map _ List.filter_sublist)
  · rw [h.pending]
    simp only [Timetable.pass]
    rw [List.filter_filter]
    refine List.filter_congr fun l hl => ?_
    by_cases hany : s.pending.any (·.id == l.call) = true
    · obtain ⟨p, hp, hid⟩ := List.any_eq_true.mp hany
      have hlt := hsettled.in_time hp (h.call hs hp hl (by simpa using hid))
      simp [hany, h.clock, hlt]
    · simp [hany]

theorem next (h : t.Tracks s) (hsettled : s.IsSettled) (m : Move) :
    (t.next m).Tracks (s.move m) := by
  cases m with
  | acquire name =>
    have hjoin : Tracks _ (s.start name .acquire) :=
      h.join (p := ⟨s.nextId, name, .acquire⟩) rfl rfl rfl rfl
    simpa [PendingCall.limit?, Timetable.next, Calls.move] using hjoin
  | resize name target =>
    have hjoin : Tracks _ (s.start name (.resize target)) :=
      h.join (p := ⟨s.nextId, name, .resize target⟩) rfl rfl rfl rfl
    simpa [PendingCall.limit?, Timetable.next, Calls.move] using hjoin
  | acquireWithin name timeout =>
    have hjoin : Tracks _ (s.startWithin name timeout) :=
      h.join (p := ⟨s.nextId, name, .acquireUntil (s.clock + timeout.millisRoundedUp) timeout⟩)
        rfl rfl rfl rfl
    simpa [PendingCall.limit?, Timetable.next, Calls.move, h.clock, h.nextId] using hjoin
  | poll id =>
    rw [(hsettled.poll id).1]
    exact h
  | drop id =>
    simp only [move]
    split
    · exact h.left rfl rfl (f := (· != id)) rfl
    · exact h
  | tryAcquire name =>
    simp only [move]
    cases ht : s.tryAcquire? name with
    | none => exact h
    | some u =>
      obtain ⟨gate, _, rfl⟩ := Option.map_eq_some_iff.mp ht
      exact ⟨h.clock, h.nextId, h.fresh, h.unique, h.pending⟩
  | release name =>
    simp only [move, release?]
    split
    · exact ⟨h.clock, h.nextId, h.fresh, h.unique, h.pending⟩
    · exact h
  | advance millis =>
    exact ⟨congrArg (· + millis) h.clock, h.nextId, h.fresh, h.unique, h.pending⟩

/-- A call with a limit that is reached has a limit, so it is to get a permit. -/
theorem reached_acquires (h : t.Tracks s) (hs : s.Sound) :
    ∀ l ∈ t.reached, ∀ p ∈ s.pending, p.id = l.call → p.acquires = true :=
  fun _ hl _ hp hid => acquires_of_limit (h.call hs hp (List.mem_of_mem_filter hl) hid)

theorem reached_over (h : t.Tracks s) (hs : s.Sound) (hsettled : s.IsSettled) :
    ∀ l ∈ t.reached, ∀ p ∈ s.pending, p.id ≠ l.call := by
  intro l hl p hp hid
  obtain ⟨hm, hd⟩ := List.mem_filter.mp hl
  have hlt := hsettled.in_time hp (h.call hs hp hm hid)
  rw [← h.clock] at hlt
  exact absurd (of_decide_eq_true hd) (Nat.not_le_of_lt hlt)

/-- One step of a script, and the same step without limits. -/
theorem enact_untimed (h : t.Tracks s) (hs : s.Sound) (hsettled : s.IsSettled) (m : Move) :
    s.untimed.enactAll (m.untimed :: (t.next m).reached.map (.drop ·.call)) =
      ((s.enact m).1.untimed, (s.enact m).2.map Over.untimed) := by
  have hs' := hs.move m
  have ht' := h.next hsettled m
  obtain ⟨hmove, hends⟩ := (hs.settled_quiet hsettled).move_untimed hsettled m
  have hunique : ((t.next m).reached.map (·.call)).Nodup :=
    ht'.unique.sublist (List.Sublist.map _ List.filter_sublist)
  rcases (move_does s m).ready_or_quiet hs hsettled with hready | hquiet
  · -- Whoever is to be dropped has got its permit before.
    have hend := hs'.settleOver_settled
    have hsound : (s.move m).settleOver.1.Sound := hs.enact m
    have htracks := ht'.polled hs'.settleOver_polled
    have hdrops := hsound.quiet_drops (hsound.settled_quiet hend) hunique
      (htracks.reached_acquires hsound)
    have hnone : ((t.next m).reached.filter fun l =>
        (s.move m).settleOver.1.pending.any (·.id == l.call)) = [] := by
      refine List.filter_eq_nil_iff.mpr fun l hl hany => ?_
      obtain ⟨p, hp, hid⟩ := List.any_eq_true.mp hany
      exact htracks.reached_over hsound hend l hl p hp (by simpa using hid)
    simp only [hnone] at hdrops
    simp only [enactAll, Calls.enact, hmove, hends, hs'.ready_settleOver hready, hdrops]
    simp [expire]
  · -- Nothing else happens, and the same calls give up that are to be dropped.
    have hdrops := hs'.quiet_drops hquiet hunique (ht'.reached_acquires hs')
    have hdue : dueLimits (s.move m).pending (s.move m).clock =
        (t.next m).reached.filter fun l => (s.move m).pending.any (·.id == l.call) := by
      rw [dueLimits, ht'.pending, ← ht'.clock, List.filter_comm]
      rfl
    simp only [← hdue] at hdrops
    simp only [enactAll, Calls.enact, hmove, hends, hquiet.untimed_settled.settleOver,
      hs'.quiet_settleOver hquiet, hdrops]
    simp [Limit.over, Over.untimed]

end Timetable.Tracks

/-- How a call with a limit ends when it returns something. -/
theorem poll_limit {s : Calls} {p : PendingCall} {l : Limit} (hl : p.limit? = some l) {e : Event}
    (he : (s.poll p).2 = some e) :
    e = .acquired l.name ∨ Over.mk p.id (.returned e) = l.over := by
  obtain ⟨hid, hname, hk⟩ := PendingCall.limit_eq_some.mp hl
  by_cases hg : s.gate.isGranted p.id = true
  · left
    simpa [poll, hk, takeIfGranted, hg, hname, eq_comm] using he
  · right
    by_cases hd : l.deadline ≤ s.clock
    · have hgives : Event.failed p.name (.timeout l.timeout) = e := by
        simpa [poll, hk, takeIfGranted, hg, hd] using he
      rw [← hgives, hid, hname, Limit.over]
    · simp [poll, hk, takeIfGranted, hg, hd] at he

/-- Only a call whose time is over gives up. -/
theorem poll_timeout {s : Calls} {p : PendingCall} {name : String} {timeout : Span}
    (he : (s.poll p).2 = some (.failed name (.timeout timeout))) :
    ∃ l, p.limit? = some l ∧ l.deadline ≤ s.clock := by
  cases hk : p.kind with
  | acquire =>
    by_cases hg : s.gate.isGranted p.id = true <;> simp [poll, hk, takeIfGranted, hg] at he
  | acquireUntil deadline wait =>
    refine ⟨⟨p.id, p.name, deadline, wait⟩, by simp [PendingCall.limit?, hk], ?_⟩
    by_contra hd
    have hd' : ¬deadline ≤ s.clock := hd
    by_cases hg : s.gate.isGranted p.id = true <;> simp [poll, hk, takeIfGranted, hg, hd'] at he
  | resize target =>
    rcases poll_finishes hk he with ⟨hinvalid, _⟩ | ⟨hresized, _⟩
    · simp at hinvalid
    · cases hresized

/-- What becomes of the limits that are reached at a step. No such call is pending afterwards, and
one that ends now has its permit or gives up. Nobody else gives up. -/
structure Timely (t : Timetable) (x : Calls × List Over) : Prop where
  gone : ∀ l ∈ t.reached, ∀ p ∈ x.1.pending, p.id ≠ l.call
  ends : ∀ l ∈ t.reached, ∀ o ∈ x.2, o.call = l.call →
    o = ⟨l.call, .returned (.acquired l.name)⟩ ∨ o = l.over
  timeouts : ∀ o ∈ x.2, ∀ name timeout, o.ending = .returned (.failed name (.timeout timeout)) →
    ∃ l ∈ t.reached, o = l.over

/-- A move at a settled gate ends a call itself only if it drops one. -/
theorem settled_ends {s : Calls} (h : s.IsSettled) {m : Move} {o : Over} (ho : o ∈ s.ends m) :
    m = .drop o.call ∧ o.ending = .dropped := by
  cases m with
  | acquire | acquireWithin | resize | tryAcquire | release | advance => cases ho
  | poll id =>
    rw [(h.poll id).2] at ho
    cases ho
  | drop id =>
    simp only [ends] at ho
    split at ho
    · obtain rfl := List.mem_singleton.mp ho
      exact ⟨rfl, rfl⟩
    · cases ho

theorem Timetable.Tracks.timely {t : Timetable} {s : Calls} (h : t.Tracks s) (hs : s.Sound)
    (hsettled : s.IsSettled) (hfuture : ∀ l ∈ t.limits, t.clock < l.deadline) (m : Move) :
    Timely (t.next m) (s.enact m) := by
  have hs' := hs.move m
  have ht' := h.next hsettled m
  have hpolled := hs'.settleOver_polled
  refine ⟨?_, ?_, ?_⟩
  · exact (ht'.polled hpolled).reached_over (hs.enact m) hs'.settleOver_settled
  · intro l hl o ho hcall
    rcases List.mem_append.mp ho with hm | hm
    · obtain ⟨rfl, _⟩ := settled_ends hsettled hm
      obtain ⟨hlimit, hd⟩ := List.mem_filter.mp hl
      exact absurd (hfuture l hlimit) (Nat.not_lt_of_le (of_decide_eq_true hd))
    · obtain ⟨p, hp, u, e, _, hpoll, rfl⟩ := hpolled.returned o hm
      have hlimit := ht'.call hs' hp (List.mem_of_mem_filter hl) hcall
      have hid : p.id = l.call := hcall
      refine (poll_limit hlimit hpoll).imp_left ?_
      rintro rfl
      rw [hid]
  · intro o ho name timeout hending
    rcases List.mem_append.mp ho with hm | hm
    · rw [(settled_ends hsettled hm).2] at hending
      cases hending
    · obtain ⟨p, hp, u, e, hclock, hpoll, rfl⟩ := hpolled.returned o hm
      obtain rfl : e = .failed name (.timeout timeout) := Ending.returned.inj hending
      obtain ⟨l, hl, hd⟩ := poll_timeout hpoll
      have hreached : l ∈ (t.next m).reached := by
        refine List.mem_filter.mpr ⟨ht'.limit hp hl, ?_⟩
        rw [ht'.clock, ← hclock]
        simpa using hd
      refine ⟨l, hreached, (poll_limit hl hpoll).resolve_left ?_⟩
      simp

/-- A script, and the same script without limits. -/
theorem Timetable.Tracks.trace {t : Timetable} {s : Calls} (h : t.Tracks s) (hs : s.Sound)
    (hsettled : s.IsSettled) (hfuture : ∀ l ∈ t.limits, t.clock < l.deadline)
    (script : List Move) :
    s.untimed.trace (t.untimed script) =
        (s.trace (script.map ([·]))).map (fun x => (x.1.untimed, x.2.map Over.untimed)) ∧
      List.Forall₂ Timely (t.along script) (s.trace (script.map ([·]))) := by
  induction script generalizing t s with
  | nil => exact ⟨rfl, .nil⟩
  | cons m rest ih =>
    have hnext : (t.next m).pass.Tracks (s.enact m).1 :=
      ((h.next hsettled m).polled (hs.move m).settleOver_polled).pass (hs.enact m)
        (hs.enact_settled m)
    have hlater : ∀ l ∈ (t.next m).pass.limits, (t.next m).pass.clock < l.deadline :=
      fun l hl => of_decide_eq_true (List.mem_filter.mp hl).2
    obtain ⟨hrest, htimely⟩ := ih hnext (hs.enact m) (hs.enact_settled m) hlater
    rw [List.map_cons, Calls.trace, enactAll_single]
    refine ⟨?_, .cons (h.timely hs hsettled hfuture m) htimely⟩
    rw [Timetable.untimed, Calls.trace, h.enact_untimed hs hsettled, List.map_cons, ← hrest]

namespace Calls

theorem Sound.enactAll {s : Calls} (h : s.Sound) (hsettled : s.IsSettled) (moves : List Move) :
    (s.enactAll moves).1.Sound ∧ (s.enactAll moves).1.IsSettled := by
  induction moves generalizing s with
  | nil => exact ⟨h, hsettled⟩
  | cons m rest ih => exact ih (h.enact m) (h.enact_settled m)

theorem trace_log (s : Calls) (script : List Move) :
    (s.trace (script.map ([·]))).flatMap (·.2) = (s.enactAll script).2 := by
  induction script generalizing s with
  | nil => rfl
  | cons m rest ih =>
    rw [List.map_cons, trace, enactAll_single, List.flatMap_cons, ih, Calls.enactAll]

/-- Permits that calls take are held, and no others. -/
theorem Sound.enact_held {s : Calls} (h : s.Sound) (hsettled : s.IsSettled) (m : Move) :
    (s.enact m).1.held = (s.move m).held ++ (s.enact m).2.filterMap Over.taken? := by
  have hnone : (s.ends m).filterMap Over.taken? = [] := by
    refine List.filterMap_eq_nil_iff.mpr fun o ho => ?_
    simp [Over.taken?, (settled_ends hsettled ho).2]
  have hheld := (h.move m).settleOver_polled.held
  simp only [Calls.enact, List.filterMap_append, hnone, List.nil_append]
  exact hheld

theorem Sound.untimed_poll {s : Calls} (h : s.Sound) {p : PendingCall} (hp : p ∈ s.pending) :
    s.untimed.move (.poll p.id) = (pollOver (s.untimed, []) p.untimed).1 := by
  have hfind : s.untimed.pending.find? (·.id == p.id) = some p.untimed := by
    simp only [Calls.untimed, List.find?_map, Function.comp_def, PendingCall.untimed_id,
      h.find_call hp, Option.map_some]
  rcases hpoll : s.untimed.poll p.untimed with ⟨t, _ | e⟩ <;>
    simp [Calls.move, Calls.pollById, hfind, Calls.pollOne, pollOver, hpoll]

/-- A call that is punctual is not there any more to be dropped when its time is over: it has its
permit. -/
theorem Punctual.poll_apart {s : Calls} {p : PendingCall} (h : s.Punctual p) :
    (Calls.pollOver (s, []) p).1.untimed =
      (if p.isDue s.clock then [.drop p.id] else []).foldl move
        (Calls.pollOver (s.untimed, []) p.untimed).1 := by
  have hsame := h.pollOver []
  rw [List.map_nil] at hsame
  rw [hsame]
  split
  · rename_i hdue
    obtain ⟨l, hl, hd⟩ := PendingCall.isDue_iff.mp hdue
    have hg := (h l hl).resolve_right (Nat.not_lt_of_le hd)
    have hgone : ((Calls.pollOver (s, []) p).1.untimed.pending.any (·.id == p.id)) = false := by
      have hk := (PendingCall.limit_eq_some.mp hl).2.2
      simp [Calls.pollOver, Calls.poll, hk, takeIfGranted, hg, Calls.untimed]
    rw [List.foldl_cons, move, hgone]
    rfl
  · rfl

/-- One that is not gives up, where the other waits and is dropped. -/
theorem late_poll_apart {s : Calls} {p : PendingCall} (hp : p ∈ s.pending) (h : ¬s.Punctual p) :
    (pollOver (s, []) p).1.untimed =
      (if p.isDue s.clock then [.drop p.id] else []).foldl move
        (pollOver (s.untimed, []) p.untimed).1 := by
  have hlate : ∃ l, p.limit? = some l ∧ ¬s.gate.isGranted p.id = true ∧ l.deadline ≤ s.clock := by
    simpa [Punctual] using h
  obtain ⟨l, hl, hg, hd⟩ := hlate
  obtain ⟨_, _, hk⟩ := PendingCall.limit_eq_some.mp hl
  have hdue : p.isDue s.clock = true := PendingCall.isDue_iff.mpr ⟨l, hl, hd⟩
  have hgives : (pollOver (s, []) p).1 = s.drop p.id := by
    simp [pollOver, poll, hk, takeIfGranted, hg, hd, drop]
  have hwaits : (pollOver (s.untimed, []) p.untimed).1 = s.untimed := by
    simp [pollOver, poll, PendingCall.untimed, hk, takeIfGranted, Calls.untimed, hg]
  have hthere : s.untimed.pending.any (·.id == p.id) = true :=
    (untimed_any s.pending p.id).trans (List.any_eq_true.mpr ⟨p, hp, by simp⟩)
  rw [hgives, hwaits, if_pos hdue, List.foldl_cons, move, if_pos hthere, untimed_drop]
  rfl

/-- To poll a call is to poll one without a limit, and to drop that if it has not got its permit and
the time is over. -/
theorem Sound.poll_apart {s : Calls} (h : s.Sound) {p : PendingCall} (hp : p ∈ s.pending) :
    (s.move (.poll p.id)).untimed =
      (.poll p.id :: if p.isDue s.clock then [.drop p.id] else []).foldl Calls.move s.untimed := by
  rw [List.foldl_cons, h.untimed_poll hp, ← h.pollOver_move hp []]
  by_cases hin : s.Punctual p
  · exact hin.poll_apart
  · exact late_poll_apart hp hin

/-- A call with a limit does what a call without one does that is dropped when the time is over.
After each step of a script the gate, the permits that are held and the other calls are the same
either way, and the same calls have ended, with the same results: where the one has given up, the
other has been dropped. That is at the first step at which the limit is reached, and nobody gives up
otherwise. Each call that has been started ends once or is pending still, and permits are held only
by calls that ended with them. Between the steps it is the same at any time: a call that is polled
takes its permit if it is there, however late it is, and else it gives up if its time is over. -/
theorem limits_are_drops (capacity : Nat) :
    (∀ script : List Step,
      (new capacity).stepTrace script =
        ((new capacity).trace (((new capacity).asMoves script).map ([·]))).map told) ∧
    (∀ script : List Move,
      let run := (new capacity).trace (script.map ([·]))
      let s := ((new capacity).enactAll script).1
      (new capacity).trace (Timetable.start.untimed script) =
          run.map (fun x => (x.1.untimed, x.2.map Over.untimed)) ∧
        List.Forall₂ Timely (Timetable.start.along script) run ∧
        s.Accounted ((run.flatMap (·.2)).map (·.call)) ∧
        ∀ m, (s.enact m).1.held = (s.move m).held ++ (s.enact m).2.filterMap Over.taken?) ∧
    ∀ moves, ∀ p ∈ (after capacity moves).pending,
      let s := after capacity moves
      (s.move (.poll p.id)).untimed =
          (.poll p.id :: if p.isDue s.clock then [.drop p.id] else []).foldl move s.untimed ∧
        (p.acquires = true → s.gate.isGranted p.id = true →
          (s.poll p).2 = some (.acquired p.name)) := by
  have h := sound_new capacity
  have hsettled : (new capacity).IsSettled := nofun
  refine ⟨h.stepTrace_moves, fun script => ?_, fun moves p hp => ?_⟩
  · obtain ⟨htrace, htimely⟩ := (Timetable.Tracks.start capacity).trace h hsettled nofun script
    obtain ⟨hsound, hend⟩ := h.enactAll hsettled script
    refine ⟨htrace, htimely, ?_, fun m => hsound.enact_held hend m⟩
    obtain ⟨moves, hmoves⟩ := h.enactAll_record script
    have hnone : (new capacity).Accounted [] := .refl _
    rw [trace_log, hmoves]
    simpa using hnone.record h moves
  · refine ⟨(sound_after capacity moves).poll_apart hp, fun ha hg => ?_⟩
    unfold PendingCall.acquires at ha
    split at ha
    case h_1 hk | h_2 hk => simp [poll, hk, takeIfGranted, hg]
    case h_3 => cases ha

/-- The one permit is held. A call with a limit of five milliseconds and one without wait for it.
After seven milliseconds the first gives up, and the other has the permit that is given back. If it
is given back before, the first has it, also when it does not run until then. -/
theorem limits_are_drops_late :
    let script : List Move := [.acquire "a", .acquireWithin "b" (.ofMillis 5), .acquire "c",
      .advance 7, .release "a"]
    let s := after 1 [.acquire "a", .poll 0, .acquireWithin "b" (.ofMillis 5), .acquire "c",
      .release "a", .advance 7]
    Timetable.start.untimed script = [[.acquire "a"], [.acquire "b"], [.acquire "c"],
        [.advance 7, .drop 1], [.release "a"]] ∧
      ((new 1).trace (script.map ([·]))).map (·.2) = [[⟨0, .returned (.acquired "a")⟩], [], [],
        [⟨1, .returned (.failed "b" (.timeout (.ofMillis 5)))⟩],
        [⟨2, .returned (.acquired "c")⟩]] ∧
      ((new 1).trace (Timetable.start.untimed script)).map (·.2) =
        [[⟨0, .returned (.acquired "a")⟩], [], [], [⟨1, .dropped⟩],
          [⟨2, .returned (.acquired "c")⟩]] ∧
      (s.poll ⟨1, "b", .acquireUntil 5 (.ofMillis 5)⟩).2 = some (.acquired "b") := by
  intro script s
  obtain ⟨-, hscripts, hmoves⟩ := limits_are_drops 1
  obtain ⟨htrace, -⟩ := hscripts script
  obtain ⟨-, htakes⟩ := hmoves [.acquire "a", .poll 0, .acquireWithin "b" (.ofMillis 5),
    .acquire "c", .release "a", .advance 7] ⟨1, "b", .acquireUntil 5 (.ofMillis 5)⟩ (by decide)
  have hrun : ((new 1).trace (script.map ([·]))).map (·.2) = [[⟨0, .returned (.acquired "a")⟩], [],
      [], [⟨1, .returned (.failed "b" (.timeout (.ofMillis 5)))⟩],
      [⟨2, .returned (.acquired "c")⟩]] := by decide
  have hlogs : ((new 1).trace (Timetable.start.untimed script)).map (·.2) =
      (((new 1).trace (script.map ([·]))).map (·.2)).map (List.map Over.untimed) := by
    rw [htrace, List.map_map, List.map_map]
    rfl
  exact ⟨by decide, hrun, by rw [hlogs, hrun]; decide, htakes rfl (by decide)⟩

end Calls

end MetricBatch.Gate
