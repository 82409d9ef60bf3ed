import MetricBatch.Proofs.Gate.Draining
import MetricBatch.Proofs.Gate.Endings

namespace MetricBatch.Gate

@[simp] theorem PendingCall.untimed_id (p : PendingCall) : p.untimed.id = p.id := by
  unfold untimed
  split <;> rfl

@[simp] theorem PendingCall.untimed_limit (p : PendingCall) : p.untimed.limit? = none := by
  unfold untimed
  split
  case h_1 => rfl
  case h_2 hk | h_3 hk => simp [limit?, hk]

theorem PendingCall.untimed_resize {p : PendingCall} {target : Nat} :
    p.untimed.kind = .resize target ↔ p.kind = .resize target := by
  unfold untimed
  split
  case h_1 hk => simp [hk]
  case h_2 | h_3 => rfl

theorem PendingCall.limit_eq_some {p : PendingCall} {l : Limit} :
    p.limit? = some l ↔
      p.id = l.call ∧ p.name = l.name ∧ p.kind = .acquireUntil l.deadline l.timeout := by
  obtain ⟨call, name, deadline, timeout⟩ := l
  cases hk : p.kind <;> simp [limit?, hk]

theorem PendingCall.isDue_iff {p : PendingCall} {clock : Nat} :
    p.isDue clock = true ↔ ∃ l, p.limit? = some l ∧ l.deadline ≤ clock := by
  simp [isDue, Option.any_eq_true]

end MetricBatch.Gate

namespace MetricBatch.Gate.Calls

theorem untimed_any (ps : List PendingCall) (id : Nat) :
    (ps.map PendingCall.untimed).any (·.id == id) = ps.any (·.id == id) := by
  simp [List.any_map, Function.comp_def]

theorem untimed_filter (ps : List PendingCall) (id : Nat) :
    (ps.map PendingCall.untimed).filter (·.id != id) =
      (ps.filter (·.id != id)).map PendingCall.untimed := by
  simp [List.filter_map, Function.comp_def]

theorem untimed_start (s : Calls) (name : String) (kind : CallKind)
    (hk : ∀ deadline timeout, kind ≠ .acquireUntil deadline timeout) :
    (s.start name kind).untimed = s.untimed.start name kind := by
  cases kind with
  | acquire | resize => simp [Calls.untimed, start, PendingCall.untimed]
  | acquireUntil deadline timeout => exact absurd rfl (hk deadline timeout)

theorem untimed_startWithin (s : Calls) (name : String) (timeout : Span) :
    (s.startWithin name timeout).untimed = s.untimed.start name .acquire := by
  simp [Calls.untimed, startWithin, start, PendingCall.untimed]

theorem untimed_drop (s : Calls) (id : Nat) : (s.drop id).untimed = s.untimed.drop id := by
  simp only [Calls.untimed, drop, untimed_filter]

/-- Nobody at the gate would do anything, but for calls whose time is over. -/
structure Quiet (s : Calls) : Prop where
  granted : s.gate.granted = []
  begun : ∀ r ∈ s.gate.resizes.head?, r.begun = true
  valid : ∀ p ∈ s.pending, ∀ target, p.kind = .resize target → isValidCapacity target = true

theorem Quiet.not_granted {s : Calls} (h : s.Quiet) (id : Nat) : s.gate.isGranted id = false := by
  simp [isGranted, h.granted]

theorem Sound.settled_quiet {s : Calls} (h : s.Sound) (hs : s.IsSettled) : s.Quiet := by
  refine ⟨h.settled_granted hs, fun r hr => ?_, fun p hp target hk => ?_⟩
  · obtain ⟨rest, hres⟩ := List.head?_eq_some_iff.mp hr
    exact h.settled_begun hs hres
  · exact (poll_resize hk (by rw [hs p hp])).1

theorem Quiet.untimed {s : Calls} (h : s.Quiet) : s.untimed.Quiet := by
  refine ⟨h.granted, h.begun, fun p hp target hk => ?_⟩
  obtain ⟨q, hq, rfl⟩ := List.mem_map.mp hp
  exact h.valid q hq target (PendingCall.untimed_resize.mp hk)

/-- A call waits until its time is over. -/
theorem Quiet.poll_waits {s : Calls} (h : s.Quiet) {p : PendingCall} (hp : p ∈ s.pending)
    (hdue : ¬p.isDue s.clock = true) : s.poll p = (s, none) := by
  have hg := h.not_granted p.id
  cases hk : p.kind with
  | acquire => simp [poll, hk, takeIfGranted, hg]
  | acquireUntil deadline timeout =>
    have hd : ¬deadline ≤ s.clock := by simpa [PendingCall.isDue, PendingCall.limit?, hk] using hdue
    simp [poll, hk, takeIfGranted, hg, hd]
  | resize target =>
    have hwait : s.gate.advanceResize p.id = (s.gate, .pending) := by
      cases hres : s.gate.resizes with
      | nil => simp [advanceResize, hres]
      | cons r rest =>
        exact advanceResize_begun hres (h.begun r (by simp [hres])) (h.not_granted r.call) p.id
    simp [poll, hk, h.valid p hp target hk, hwait]

/-- Then it gives up. -/
theorem Quiet.pollOver_due {s : Calls} (h : s.Quiet) {p : PendingCall} {l : Limit}
    (hl : p.limit? = some l) (hdue : l.deadline ≤ s.clock) (log : List Over) :
    pollOver (s, log) p = (s.drop l.call, log ++ [l.over]) := by
  obtain ⟨hid, hname, hk⟩ := PendingCall.limit_eq_some.mp hl
  simp [pollOver, poll, hk, takeIfGranted, h.not_granted, hdue, drop, Limit.over, hid, hname]

theorem Quiet.settled {s : Calls} (h : s.Quiet) (hdue : ∀ p ∈ s.pending, ¬p.isDue s.clock = true) :
    s.IsSettled := fun p hp => h.poll_waits hp (hdue p hp)

theorem Quiet.untimed_settled {s : Calls} (h : s.Quiet) : s.untimed.IsSettled := by
  refine h.untimed.settled fun p hp => ?_
  obtain ⟨q, _, rfl⟩ := List.mem_map.mp hp
  simp [PendingCall.isDue]

/-- Whoever waits for a permit has none to give back. -/
theorem Sound.quiet_drop {s : Calls} (h : s.Sound) (hq : s.Quiet) {p : PendingCall}
    (hp : p ∈ s.pending) (ha : p.acquires = true) : (s.drop p.id).Quiet := by
  have hnot : p.id ∉ s.gate.resizers := h.not_resizer hp (acquires_iff.mp ha)
  have hnone : s.gate.collected p.id = 0 := by
    by_cases hc : p.id ∈ s.gate.callers
    · have hlt := h.gate.collected_queued ((mem_callers_queued hq.granted).mp hc)
      rw [share_of_not_resize hnot] at hlt
      omega
    · exact collected_eq_zero hc
  have hshort : ∀ w ∈ removeCall p.id s.gate.queue, w.got < w.wants :=
    fun w hw => h.gate.short w (mem_removeCall.mp hw).1
  refine ⟨?_, ?_, fun q hq' => hq.valid q (List.mem_of_mem_filter hq')⟩
  · have hgate : (s.drop p.id).gate = s.gate.cancel p.id := rfl
    rw [hgate, cancel_eq, hnone, hand_zero hshort, hq.granted]
    rfl
  · have hsame : (s.drop p.id).gate.resizes = s.gate.resizes := filter_resizes hnot
    rw [hsame]
    exact hq.begun

/-- Drops calls with limits, one after the other. -/
def expire (s : Calls) (ls : List Limit) : Calls := ls.foldl (fun s l => s.drop l.call) s

theorem expire_clock (s : Calls) (ls : List Limit) : (s.expire ls).clock = s.clock := by
  induction ls generalizing s with
  | nil => rfl
  | cons l rest ih => exact ih (s.drop l.call)

theorem mem_expire {s : Calls} {ls : List Limit} {p : PendingCall}
    (hp : p ∈ (s.expire ls).pending) : p ∈ s.pending ∧ ∀ l ∈ ls, p.id ≠ l.call := by
  induction ls generalizing s with
  | nil => exact ⟨hp, nofun⟩
  | cons l rest ih =>
    obtain ⟨hm, hrest⟩ := ih hp
    obtain ⟨hold, hne⟩ := mem_over hm
    exact ⟨hold, List.forall_mem_cons.mpr ⟨hne, hrest⟩⟩

/-- The limits that are over, of some calls. -/
def dueLimits (ps : List PendingCall) (clock : Nat) : List Limit :=
  (ps.filterMap PendingCall.limit?).filter (·.deadline ≤ clock)

theorem acquires_of_limit {p : PendingCall} {l : Limit} (hl : p.limit? = some l) :
    p.acquires = true :=
  acquires_iff.mpr (by simp [(PendingCall.limit_eq_some.mp hl).2.2])

/-- In a turn in a quiet gate the calls whose time is over give up, and no other finishes. -/
theorem Sound.quiet_pass {s : Calls} (h : s.Sound) (hq : s.Quiet) {ps : List PendingCall}
    (hp : ∀ p ∈ ps, p ∈ s.pending) (hn : (ps.map (·.id)).Nodup) (log : List Over) :
    ps.foldl pollOver (s, log) =
        (s.expire (dueLimits ps s.clock), log ++ (dueLimits ps s.clock).map Limit.over) ∧
      (s.expire (dueLimits ps s.clock)).Quiet := by
  induction ps generalizing s log with
  | nil => simp [dueLimits, expire, hq]
  | cons p rest ih =>
    rw [List.map_cons, List.nodup_cons] at hn
    rw [List.forall_mem_cons] at hp
    rw [List.foldl_cons]
    by_cases hdue : p.isDue s.clock = true
    · obtain ⟨l, hl, hd⟩ := PendingCall.isDue_iff.mp hdue
      have hid : p.id = l.call := (PendingCall.limit_eq_some.mp hl).1
      have hlimits : dueLimits (p :: rest) s.clock = l :: dueLimits rest s.clock := by
        simp [dueLimits, hl, hd]
      have hrest : ∀ q ∈ rest, q ∈ (s.drop l.call).pending := by
        intro q hm
        have hne : q.id ≠ l.call := fun he =>
          hn.1 (List.mem_map.mpr ⟨q, hm, he.trans hid.symm⟩)
        exact List.mem_filter.mpr ⟨hp.2 q hm, by simpa using hne⟩
      have hquiet : (s.drop l.call).Quiet := by
        rw [← hid]
        exact h.quiet_drop hq hp.1 (acquires_of_limit hl)
      have hclock : (s.drop l.call).clock = s.clock := rfl
      obtain ⟨hfold, hend⟩ := ih (h.drop l.call) hquiet hrest hn.2 (log ++ [l.over])
      rw [hclock] at hfold hend
      rw [hq.pollOver_due hl hd, hlimits, hfold]
      exact ⟨by simp [expire], hend⟩
    · have hlimits : dueLimits (p :: rest) s.clock = dueLimits rest s.clock := by
        cases hl : p.limit? with
        | none => simp [dueLimits, hl]
        | some l =>
          have hd : ¬l.deadline ≤ s.clock := fun hd => hdue (PendingCall.isDue_iff.mpr ⟨l, hl, hd⟩)
          simp [dueLimits, hl, hd]
      have hwaits : pollOver (s, log) p = (s, log) := by
        simp [pollOver, hq.poll_waits hp.1 hdue]
      rw [hwaits, hlimits]
      exact ih h hq hp.2 hn.2 log

theorem Sound.quiet_settleOver {s : Calls} (h : s.Sound) (hq : s.Quiet) :
    s.settleOver =
      (s.expire (dueLimits s.pending s.clock), (dueLimits s.pending s.clock).map Limit.over) := by
  obtain ⟨hpass, hquiet⟩ := h.quiet_pass hq (fun _ hp => hp) h.ids []
  rw [List.nil_append] at hpass
  have hsettled : (s.expire (dueLimits s.pending s.clock)).IsSettled := by
    refine hquiet.settled fun p hp hdue => ?_
    rw [expire_clock] at hdue
    obtain ⟨hold, hne⟩ := mem_expire hp
    obtain ⟨l, hl, hd⟩ := PendingCall.isDue_iff.mp hdue
    have hmem : l ∈ dueLimits s.pending s.clock :=
      List.mem_filter.mpr ⟨List.mem_filterMap.mpr ⟨p, hold, hl⟩, by simpa using hd⟩
    exact hne l hmem (PendingCall.limit_eq_some.mp hl).1
  have hstep : s.passOver =
      (s.expire (dueLimits s.pending s.clock), (dueLimits s.pending s.clock).map Limit.over) :=
    hpass
  simp only [settleOver, settleOverIn, hstep, hsettled.settleOverIn, List.append_nil]
  split
  · rename_i hnone
    rw [List.isEmpty_iff.mp hnone]
  · rfl

theorem enact_drop {s : Calls} {id : Nat} (hthere : s.pending.any (·.id == id) = true)
    (hquiet : (s.drop id).Quiet) :
    s.untimed.enact (.drop id) = ((s.drop id).untimed, [⟨id, .dropped⟩]) := by
  have hany : s.untimed.pending.any (·.id == id) = true := (untimed_any s.pending id).trans hthere
  simp [enact, move, ends, hany, ← untimed_drop, hquiet.untimed_settled.settleOver]

theorem Quiet.enact_drop_gone {s : Calls} (h : s.Quiet) {id : Nat}
    (hgone : s.pending.any (·.id == id) = false) :
    s.untimed.enact (.drop id) = (s.untimed, []) := by
  have hany : s.untimed.pending.any (·.id == id) = false := (untimed_any s.pending id).trans hgone
  simp [Calls.enact, move, ends, hany, h.untimed_settled.settleOver]

/-- Calls without limits are dropped at a quiet gate: those of them that are pending. -/
theorem Sound.quiet_drops {s : Calls} (h : s.Sound) (hq : s.Quiet) {ls : List Limit}
    (hn : (ls.map (·.call)).Nodup)
    (ha : ∀ l ∈ ls, ∀ p ∈ s.pending, p.id = l.call → p.acquires = true) :
    let there := ls.filter fun l => s.pending.any (·.id == l.call)
    s.untimed.enactAll (ls.map (.drop ·.call)) =
      ((s.expire there).untimed, there.map fun l => ⟨l.call, .dropped⟩) := by
  induction ls generalizing s with
  | nil => rfl
  | cons l rest ih =>
    rw [List.map_cons, List.nodup_cons] at hn
    rw [List.forall_mem_cons] at ha
    by_cases hany : s.pending.any (·.id == l.call) = true
    · obtain ⟨p, hp, hid⟩ := List.any_eq_true.mp hany
      replace hid : p.id = l.call := by simpa using hid
      have hquiet : (s.drop l.call).Quiet := by
        rw [← hid]
        exact h.quiet_drop hq hp (ha.1 p hp hid)
      have hothers : (rest.filter fun x => (s.drop l.call).pending.any (·.id == x.call)) =
          rest.filter fun x => s.pending.any (·.id == x.call) := by
        refine List.filter_congr fun x hx => ?_
        have hne : x.call ≠ l.call := fun he => hn.1 (List.mem_map.mpr ⟨x, hx, he⟩)
        have hfilter : (s.drop l.call).pending = s.pending.filter (·.id != l.call) := rfl
        rw [hfilter, List.any_filter]
        refine List.any_congr rfl fun q => ?_
        by_cases he : q.id = x.call
        · simp [he, hne]
        · simp [he]
      have hrest := ih (h.drop l.call) hquiet hn.2
        fun x hx q hq' he => ha.2 x hx q (List.mem_of_mem_filter hq') he
      simp only [hothers] at hrest
      simp [enactAll, enact_drop hany hquiet, hrest, hany, expire]
    · have hgone : s.pending.any (·.id == l.call) = false := by simpa using hany
      have hrest := ih h hq hn.2 ha.2
      simp only at hrest
      simp [enactAll, hq.enact_drop_gone hgone, hrest, hgone]

/-- The call has its permit, or its time is not over. -/
def Punctual (s : Calls) (p : PendingCall) : Prop :=
  ∀ l ∈ p.limit?, s.gate.isGranted p.id = true ∨ s.clock < l.deadline

/-- A call that is punctual does not give up, and does as one without a limit does. -/
theorem Punctual.poll {s : Calls} {p : PendingCall} (h : s.Punctual p) :
    s.untimed.poll p.untimed = ((s.poll p).1.untimed, (s.poll p).2) ∧
      ∀ e, (s.poll p).2 = some e → Over.untimed ⟨p.id, .returned e⟩ = ⟨p.id, .returned e⟩ := by
  cases hk : p.kind with
  | acquire =>
    have hsame : p.untimed = p := by simp [PendingCall.untimed, hk]
    by_cases hg : s.gate.isGranted p.id = true <;>
      simp [hsame, Calls.poll, hk, takeIfGranted, Calls.untimed, hg, Over.untimed]
  | acquireUntil deadline timeout =>
    have hplain : p.untimed = { p with kind := .acquire } := by simp [PendingCall.untimed, hk]
    by_cases hg : s.gate.isGranted p.id = true
    · simp [hplain, Calls.poll, hk, takeIfGranted, Calls.untimed, hg, Over.untimed]
    · have hd : ¬deadline ≤ s.clock := by
        have hlater := (h ⟨p.id, p.name, deadline, timeout⟩
          (by simp [PendingCall.limit?, hk])).resolve_left hg
        exact Nat.not_le_of_lt hlater
      simp [hplain, Calls.poll, hk, takeIfGranted, Calls.untimed, hg, hd]
  | resize target =>
    have hsame : p.untimed = p := by simp [PendingCall.untimed, hk]
    by_cases hv : isValidCapacity target = true
    · rcases ha : s.gate.advanceResize p.id with ⟨gate, _ | _ | old⟩ <;>
        simp [hsame, Calls.poll, hk, hv, ha, Calls.untimed, Over.untimed]
    · simp [hsame, Calls.poll, hk, hv, Calls.untimed, Over.untimed]

theorem Punctual.pollOver {s : Calls} {p : PendingCall} (h : s.Punctual p) (log : List Over) :
    pollOver (s.untimed, log.map Over.untimed) p.untimed =
      ((pollOver (s, log) p).1.untimed, (pollOver (s, log) p).2.map Over.untimed) := by
  obtain ⟨hpoll, hover⟩ := h.poll
  rcases hsame : s.poll p with ⟨t, _ | e⟩
  · rw [hsame] at hpoll
    simp [Calls.pollOver, hsame, hpoll]
  · rw [hsame] at hpoll hover
    have hleft : { t.untimed with pending := t.untimed.pending.filter (·.id != p.id) } =
        ({ t with pending := t.pending.filter (·.id != p.id) } : Calls).untimed := by
      simp only [Calls.untimed, untimed_filter]
    simp [Calls.pollOver, hsame, hpoll, hover e rfl, hleft]

/-- Nobody's time is over who does not have its permit. -/
def Ready (s : Calls) : Prop := ∀ p ∈ s.pending, s.Punctual p

theorem Sound.ready_poll {s : Calls} (h : s.Sound) (hr : s.Ready) (id : Nat) :
    (s.move (.poll id)).Ready := by
  have hpolled := poll_polled s id
  have hfollows := (h.move_follows (.poll id)).1
  intro p hp l hl
  have hold : p ∈ s.pending := by
    rw [hpolled.pending] at hp
    exact List.mem_of_mem_filter hp
  rw [hpolled.clock]
  exact (hr p hold l hl).imp_left (hfollows.granted p hp)

theorem Sound.ready_fold {s : Calls} (h : s.Sound) (hr : s.Ready) {ps : List PendingCall}
    (hp : ∀ p ∈ ps, p ∈ s.pending) (hn : (ps.map (·.id)).Nodup) (log : List Over) :
    (ps.map PendingCall.untimed).foldl pollOver (s.untimed, log.map Over.untimed) =
        ((ps.foldl pollOver (s, log)).1.untimed, (ps.foldl pollOver (s, log)).2.map Over.untimed) ∧
      (ps.foldl pollOver (s, log)).1.Ready := by
  induction ps generalizing s log with
  | nil => exact ⟨rfl, hr⟩
  | cons p rest ih =>
    rw [List.map_cons, List.nodup_cons] at hn
    have hfirst := hp p List.mem_cons_self
    have hnext := ih (h.move (.poll p.id)) (h.ready_poll hr p.id) (h.poll_others hp hn.1) hn.2
      (Calls.pollOver (s, log) p).2
    rw [← h.pollOver_move hfirst log] at hnext
    rw [List.map_cons, List.foldl_cons, List.foldl_cons, (hr p hfirst).pollOver log]
    exact hnext

theorem Sound.ready_settleOverIn {s : Calls} (h : s.Sound) (hr : s.Ready) (turns : Nat) :
    settleOverIn turns s.untimed =
      ((settleOverIn turns s).1.untimed, (settleOverIn turns s).2.map Over.untimed) := by
  induction turns generalizing s with
  | zero => rfl
  | succ turns ih =>
    obtain ⟨hpass, hready⟩ := h.ready_fold hr (fun _ hp => hp) h.ids []
    have hsame : s.untimed.passOver = (s.passOver.1.untimed, s.passOver.2.map Over.untimed) := hpass
    simp only [settleOverIn, hsame, List.isEmpty_map, ih h.passOver hready]
    split
    · rfl
    · rw [List.map_append]

theorem Sound.ready_settleOver {s : Calls} (h : s.Sound) (hr : s.Ready) :
    s.untimed.settleOver = (s.settleOver.1.untimed, s.settleOver.2.map Over.untimed) := by
  have hlength : s.untimed.pending.length = s.pending.length := List.length_map ..
  rw [settleOver, hlength]
  exact h.ready_settleOverIn hr _

/-- In a settled gate nobody's time is over. -/
theorem IsSettled.in_time {s : Calls} (h : s.IsSettled) {p : PendingCall} (hp : p ∈ s.pending)
    {l : Limit} (hl : p.limit? = some l) : s.clock < l.deadline := by
  have hsilent : (s.poll p).2 = none := by rw [h p hp]
  obtain ⟨_, _, hk⟩ := PendingCall.limit_eq_some.mp hl
  have hg := (poll_acquires (acquires_of_limit hl) hsilent).2
  by_contra hd
  simp [Calls.poll, hk, takeIfGranted, hg, Nat.le_of_not_lt hd] at hsilent

theorem Quiet.move_untimed {s : Calls} (h : s.Quiet) (hs : s.IsSettled) (m : Move) :
    s.untimed.move m.untimed = (s.move m).untimed ∧
      s.untimed.ends m.untimed = (s.ends m).map Over.untimed := by
  cases m with
  | acquire name => exact ⟨(untimed_start s name .acquire (by simp)).symm, rfl⟩
  | acquireWithin name timeout => exact ⟨(untimed_startWithin s name timeout).symm, rfl⟩
  | resize name target => exact ⟨(untimed_start s name (.resize target) (by simp)).symm, rfl⟩
  | poll id =>
    obtain ⟨hstate, hends⟩ := hs.poll id
    obtain ⟨hstate', hends'⟩ := h.untimed_settled.poll id
    rw [hstate, hends]
    exact ⟨hstate', hends'⟩
  | drop id =>
    have hany : s.untimed.pending.any (·.id == id) = s.pending.any (·.id == id) :=
      untimed_any s.pending id
    simp only [Move.untimed, move, ends, hany]
    split
    · exact ⟨(untimed_drop s id).symm, rfl⟩
    · exact ⟨rfl, rfl⟩
  | tryAcquire name =>
    refine ⟨?_, rfl⟩
    have hgate : s.untimed.gate = s.gate := rfl
    simp only [Move.untimed, move, tryAcquire?, hgate]
    cases s.gate.tryAcquire? <;> rfl
  | release name =>
    refine ⟨?_, rfl⟩
    have hheld : s.untimed.held = s.held := rfl
    simp only [Move.untimed, move, release?, hheld]
    split <;> rfl
  | advance => exact ⟨rfl, rfl⟩

theorem IsSettled.ready {s t : Calls} (h : s.IsSettled) (hclock : t.clock = s.clock)
    (hp : ∀ p ∈ t.pending, ∀ l ∈ p.limit?, p ∈ s.pending) : t.Ready := by
  intro p hm l hl
  right
  rw [hclock]
  exact h.in_time (hp p hm l hl) hl

/-- After a move at a settled gate everybody whose time is over has its permit, or nobody has one.
-/
theorem Does.ready_or_quiet {s t : Calls} {m : Move} (hd : Does s m t) (h : s.Sound)
    (hs : s.IsSettled) : t.Ready ∨ t.Quiet := by
  have hquiet := h.settled_quiet hs
  cases hd with
  | nothing => exact .inr hquiet
  | wait => exact .inr ⟨hquiet.granted, hquiet.begun, hquiet.valid⟩
  | ask name hk =>
    by_cases hpos : 0 < s.gate.available
    · refine .inl fun p hp l hl => ?_
      rcases List.mem_append.mp hp with hm | hm
      · exact .inr (hs.in_time hm hl)
      · rw [List.mem_singleton.mp hm]
        exact .inl (request_take h.fresh_caller hpos).1
    · have hnone : s.gate.available = 0 := Nat.eq_zero_of_not_pos hpos
      refine .inr ⟨by simp [request, hnone, hquiet.granted], ?_, ?_⟩
      · simpa [request, hnone] using hquiet.begun
      · intro p hp target htarget
        rcases List.mem_append.mp hp with hm | hm
        · exact hquiet.valid p hm target htarget
        · rw [List.mem_singleton.mp hm] at htarget
          exact absurd htarget (hk target)
  | lineUp | askInvalid =>
    refine .inl (hs.ready rfl fun p hp l hl => ?_)
    rcases List.mem_append.mp hp with hm | hm
    · exact hm
    · rw [List.mem_singleton.mp hm] at hl
      cases hl
  | take | expire | refuse | drop =>
    exact .inl (hs.ready rfl fun p hp _ _ => List.mem_of_mem_filter hp)
  | advance =>
    refine .inl (hs.ready rfl fun p hp _ _ => ?_)
    dsimp only at hp
    split at hp
    · exact hp
    · exact List.mem_of_mem_filter hp
  | tryAcquire | release => exact .inl (hs.ready rfl fun p hp _ _ => hp)

end MetricBatch.Gate.Calls
