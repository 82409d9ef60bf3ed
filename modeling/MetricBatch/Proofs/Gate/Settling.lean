import MetricBatch.Proofs.Gate.Moves

namespace MetricBatch.Gate

variable {ι : Type} [DecidableEq ι]

/-- A call stands in the queue: it wants permits and does not have them all. -/
def isQueued (g : Gate ι) (call : ι) : Bool := g.queue.any (·.call == call)

theorem isQueued_iff {g : Gate ι} {call : ι} :
    g.isQueued call = true ↔ ∃ w ∈ g.queue, w.call = call := by
  simp [isQueued]

theorem Counted.queued_none_available {g : Gate ι} {n : Nat} (h : g.Counted n) {call : ι}
    (hq : g.isQueued call = true) : g.available = 0 := by
  obtain ⟨w, hw, _⟩ := isQueued_iff.mp hq
  exact h.idle fun hnil => by simp [hnil] at hw

theorem granted_caller {g : Gate ι} {call : ι} (hg : g.isGranted call = true) :
    call ∈ g.callers := by
  obtain ⟨w, hw, hcall⟩ := isGranted_iff.mp hg
  exact List.mem_map.mpr ⟨w, List.mem_append_left _ hw, hcall⟩

/-- Queued is who is at the gate and has not been granted its permits. -/
theorem Counted.queued_iff {g : Gate ι} {n : Nat} (h : g.Counted n) {call : ι} :
    g.isQueued call = true ↔ call ∈ g.callers ∧ g.isGranted call = false := by
  have hunique := h.unique
  simp only [Gate.callers, waiters, List.map_append] at hunique ⊢
  have hapart := (List.nodup_append.mp hunique).2.2
  constructor
  · intro hq
    obtain ⟨w, hw, hcall⟩ := isQueued_iff.mp hq
    have hmem : call ∈ g.queue.map (·.call) := List.mem_map.mpr ⟨w, hw, hcall⟩
    refine ⟨List.mem_append_right _ hmem, ?_⟩
    by_contra hg
    obtain ⟨v, hv, hv'⟩ := isGranted_iff.mp (Bool.not_eq_false _ ▸ hg)
    exact hapart call (List.mem_map.mpr ⟨v, hv, hv'⟩) call hmem rfl
  · rintro ⟨hc, hg⟩
    rcases List.mem_append.mp hc with hm | hm
    · obtain ⟨v, hv, hv'⟩ := List.mem_map.mp hm
      rw [isGranted_iff.mpr ⟨v, hv, hv'⟩] at hg
      cases hg
    · obtain ⟨w, hw, hcall⟩ := List.mem_map.mp hm
      exact isQueued_iff.mpr ⟨w, hw, hcall⟩

/-- Where nobody has been granted anything, whoever is at the gate is queued. -/
theorem mem_callers_queued {g : Gate ι} (hg : g.granted = []) {call : ι} :
    call ∈ g.callers ↔ g.isQueued call = true := by
  simp [callers, waiters, hg, isQueued_iff]

/-- A change of the capacity that does not get its permits at once takes what is there, and queues.
-/
theorem beginShrink_queues {g : Gate ι} {r : Resize ι} {rest : List (Resize ι)}
    (hg : (g.beginShrink r rest).isGranted r.call = false) :
    g.beginShrink r rest =
      { g with
        resizes := { r with begun := true } :: rest
        available := 0
        queue := g.queue ++ [⟨r.call, g.capacity - r.target, g.available⟩] } := by
  unfold beginShrink request at hg ⊢
  split
  · rename_i hle
    simp [hle, isGranted] at hg
  · rfl

/-- A change of the capacity that has begun waits for its permits, and the others wait for it. -/
theorem advanceResize_begun {g : Gate ι} {r : Resize ι} {rest : List (Resize ι)}
    (hres : g.resizes = r :: rest) (hbegun : r.begun = true) (hg : g.isGranted r.call = false)
    (call : ι) : g.advanceResize call = (g, .pending) := by
  by_cases hcall : r.call = call
  · subst hcall
    simp [advanceResize, hres, hbegun, hg]
  · simp [advanceResize, hres, hcall]

/-- A change of the capacity that runs on and is not over changes nothing, or queues. -/
theorem advanceResize_silent {g : Gate ι} {call : ι} (h : (g.advanceResize call).2 = .pending) :
    (g.advanceResize call).1 = g ∨ ∃ r rest, g.resizes = r :: rest ∧ r.call = call ∧
      (g.beginShrink r rest).isGranted r.call = false ∧
      (g.advanceResize call).1 = g.beginShrink r rest := by
  have hstep := advanceResize_advances g call
  generalize hadvance : g.advanceResize call = result at hstep h ⊢
  cases hstep with
  | wait => exact .inl rfl
  | grow | refuse | retire | shrink => cases h
  | @begin r rest hres hcall hn hlt hmax =>
    refine .inr ⟨r, rest, hres, hcall, ?_, rfl⟩
    by_contra hg
    rw [Bool.not_eq_false, hcall] at hg
    simp [advanceResize, hres, hcall, hn, Nat.not_le_of_lt hlt,
      Nat.not_lt_of_le hmax, hg] at hadvance

/-- A change of the capacity that has begun is the first one. -/
theorem Balanced.begun_head {g : Gate ι} {n : Nat} (h : g.Balanced n) {r : Resize ι}
    (hr : r ∈ g.resizes) (hbegun : r.begun = true) : ∃ rest, g.resizes = r :: rest := by
  have hturns := h.turns
  cases hres : g.resizes with
  | nil => simp [hres] at hr
  | cons x rest =>
    rw [hres] at hr hturns
    rcases List.mem_cons.mp hr with rfl | hm
    · exact ⟨rest, rfl⟩
    · simp [hturns r hm] at hbegun

end MetricBatch.Gate

namespace MetricBatch.Gate.Calls

/-- No call would do anything if it ran on. -/
def IsSettled (s : Calls) : Prop := ∀ p ∈ s.pending, s.poll p = (s, none)

instance (s : Calls) : Decidable s.IsSettled :=
  inferInstanceAs (Decidable (∀ p ∈ s.pending, s.poll p = (s, none)))

theorem poll_acquires {s : Calls} {p : PendingCall} (ha : p.acquires = true)
    (h : (s.poll p).2 = none) : s.poll p = (s, none) ∧ s.gate.isGranted p.id = false := by
  unfold PendingCall.acquires at ha
  by_cases hg : s.gate.isGranted p.id = true
  · split at ha
    case h_1 hk | h_2 hk => simp [poll, hk, takeIfGranted, hg] at h
    case h_3 => cases ha
  · rw [Bool.not_eq_true] at hg
    refine ⟨?_, hg⟩
    split at ha
    case h_1 hk => simp [poll, hk, takeIfGranted, hg]
    case h_2 deadline _ hk =>
      by_cases hd : deadline ≤ s.clock
      · simp [poll, hk, takeIfGranted, hg, hd] at h
      · simp [poll, hk, takeIfGranted, hg, hd]
    case h_3 => cases ha

theorem poll_resize {s : Calls} {p : PendingCall} {target : Nat} (hk : p.kind = .resize target)
    (h : (s.poll p).2 = none) : isValidCapacity target = true ∧
      (s.gate.advanceResize p.id).2 = .pending ∧
      s.poll p = ({ s with gate := (s.gate.advanceResize p.id).1 }, none) := by
  by_cases hv : isValidCapacity target = true
  · refine ⟨hv, ?_⟩
    rcases ha : s.gate.advanceResize p.id with ⟨gate, _ | _ | old⟩
    · simp [poll, hk, hv, ha]
    · simp [poll, hk, hv, ha] at h
    · simp [poll, hk, hv, ha] at h
  · simp [poll, hk, hv] at h

/-- A call that runs on and does not finish changes nothing, or it is a change of the capacity whose
turn it is, and queues. -/
theorem poll_silent {s : Calls} {p : PendingCall} (h : (s.poll p).2 = none) :
    s.poll p = (s, none) ∨ ∃ r rest, s.gate.resizes = r :: rest ∧
      (s.gate.beginShrink r rest).isGranted r.call = false ∧
      s.poll p = ({ s with gate := s.gate.beginShrink r rest }, none) := by
  cases hk : p.kind with
  | acquire | acquireUntil =>
    exact .inl (poll_acquires (acquires_iff.mpr (by simp [hk])) h).1
  | resize target =>
    obtain ⟨_, hpending, hpoll⟩ := poll_resize hk h
    rw [hpoll]
    rcases advanceResize_silent hpending with hsame | ⟨r, rest, hres, _, hg, hbegin⟩
    · exact .inl (by rw [hsame])
    · exact .inr ⟨r, rest, hres, hg, by rw [hbegin]⟩

/-- When a change of the capacity has queued, a call that would not finish does nothing. -/
theorem poll_begun {s : Calls} {r : Resize Nat} {rest : List (Resize Nat)}
    (hg : (s.gate.beginShrink r rest).isGranted r.call = false) {q : PendingCall}
    (h : (s.poll q).2 = none) :
    { s with gate := s.gate.beginShrink r rest }.poll q =
      ({ s with gate := s.gate.beginShrink r rest }, none) := by
  have hgranted (call : Nat) :
      (s.gate.beginShrink r rest).isGranted call = s.gate.isGranted call := by
    rw [beginShrink_queues hg]
    rfl
  cases hk : q.kind with
  | acquire =>
    have hq := (poll_acquires (acquires_iff.mpr (by simp [hk])) h).2
    simp [poll, hk, takeIfGranted, hgranted, hq]
  | acquireUntil deadline timeout =>
    have hq := (poll_acquires (acquires_iff.mpr (by simp [hk])) h).2
    have hd : ¬deadline ≤ s.clock := by
      intro hd
      simp [poll, hk, takeIfGranted, hq, hd] at h
    simp [poll, hk, takeIfGranted, hgranted, hq, hd]
  | resize target =>
    have hv := (poll_resize hk h).1
    have hwait := advanceResize_begun (beginShrink_resizes s.gate r rest) rfl hg q.id
    simp [poll, hk, hv, hwait]

/-- A call that does not finish does nothing when it runs again, and wakes no other. -/
theorem poll_again {s s' : Calls} {p : PendingCall} (h : s.poll p = (s', none)) :
    s'.poll p = (s', none) ∧ ∀ q, s.poll q = (s, none) → s'.poll q = (s', none) := by
  have hnone : (s.poll p).2 = none := by rw [h]
  rcases poll_silent hnone with hsame | ⟨r, rest, hres, hg, hbegin⟩
  · obtain rfl : s = s' := congrArg Prod.fst (hsame.symm.trans h)
    exact ⟨h, fun q hq => hq⟩
  · obtain rfl := congrArg Prod.fst (hbegin.symm.trans h)
    exact ⟨poll_begun hg hnone, fun q hq => poll_begun hg (by rw [hq])⟩

theorem foldl_pollOne_events (ps : List PendingCall) (t : Calls × List Event) :
    t.2 <+: (ps.foldl pollOne t).2 := by
  induction ps generalizing t with
  | nil => exact List.prefix_rfl
  | cons p rest ih =>
    obtain ⟨s, events⟩ := t
    refine List.IsPrefix.trans ?_ (ih _)
    rcases hpoll : s.poll p with ⟨s', _ | e⟩ <;> simp [pollOne, hpoll]

/-- After a turn in which no call finishes none of them would do anything. -/
theorem foldl_pollOne_silent {ps : List PendingCall} {s : Calls}
    (h : (ps.foldl pollOne (s, [])).2 = []) :
    let s' := (ps.foldl pollOne (s, [])).1
    s'.pending = s.pending ∧ (∀ p ∈ ps, s'.poll p = (s', none)) ∧
      ∀ q, s.poll q = (s, none) → s'.poll q = (s', none) := by
  induction ps generalizing s with
  | nil => exact ⟨rfl, nofun, fun _ hq => hq⟩
  | cons p rest ih =>
    rw [List.foldl_cons] at h ⊢
    have hsame := poll_pending s p
    rcases hpoll : s.poll p with ⟨s₁, _ | e⟩
    · have hfirst : Calls.pollOne (s, []) p = (s₁, []) := by simp [pollOne, hpoll]
      rw [hfirst] at h ⊢
      rw [hpoll] at hsame
      obtain ⟨hp, hstays⟩ := poll_again hpoll
      obtain ⟨hpending, hrest, hkeeps⟩ := ih h
      refine ⟨hpending.trans hsame, ?_, fun q hq => hkeeps q (hstays q hq)⟩
      intro q hq
      rcases List.mem_cons.mp hq with rfl | hm
      · exact hkeeps q hp
      · exact hrest q hm
    · have hevents := foldl_pollOne_events rest (Calls.pollOne (s, []) p)
      rw [h] at hevents
      simp [pollOne, hpoll] at hevents

/-- Every call that finishes in a turn is gone. -/
theorem foldl_pollOne_length {ps : List PendingCall} {s : Calls} {events : List Event}
    (hp : ∀ p ∈ ps, p ∈ s.pending) (hn : (ps.map (·.id)).Nodup) :
    (ps.foldl pollOne (s, events)).2.length + (ps.foldl pollOne (s, events)).1.pending.length ≤
      events.length + s.pending.length := by
  induction ps generalizing s events with
  | nil => exact Nat.le_refl _
  | cons p rest ih =>
    rw [List.map_cons, List.nodup_cons] at hn
    have hrest : ∀ q ∈ rest, q ∈ (Calls.pollOne (s, events) p).1.pending := by
      intro q hq
      have hne : q.id ≠ p.id := fun he => hn.1 (List.mem_map.mpr ⟨q, hq, he⟩)
      exact pollOne_pending (hp q (by simp [hq])) hne
    refine Nat.le_trans (ih hrest hn.2) ?_
    have hsame := poll_pending s p
    rcases hpoll : s.poll p with ⟨s₁, _ | e⟩
    · simp only [hpoll] at hsame
      simp [hsame]
    · simp only [hpoll] at hsame
      have hleaves : (s.pending.filter (·.id != p.id)).length < s.pending.length :=
        List.length_filter_lt_length_iff_exists.mpr ⟨p, hp p (by simp), by simp⟩
      simp only [hsame, List.length_append, List.length_singleton]
      omega

/-- There are turns enough for all calls. -/
theorem Sound.settleIn_settled {s : Calls} (h : s.Sound) {turns : Nat}
    (hturns : s.pending.length < turns) : (settleIn turns s).1.IsSettled := by
  induction turns generalizing s with
  | zero => exact absurd hturns (Nat.not_lt_zero _)
  | succ turns ih =>
    have hlength : s.pass.2.length + s.pass.1.pending.length ≤ 0 + s.pending.length :=
      foldl_pollOne_length (fun _ hp => hp) h.ids
    simp only [settleIn]
    split
    · rename_i hnone
      obtain ⟨hpending, hsilent, _⟩ := foldl_pollOne_silent (List.isEmpty_iff.mp hnone)
      intro p hp
      exact hsilent p (hpending ▸ hp)
    · rename_i hsome
      have hpos : 0 < s.pass.2.length := by
        rw [List.length_pos_iff]
        exact fun hnil => hsome (by simp [hnil])
      exact ih (h.pass_leads.sound h) (by omega)

theorem Sound.step_settled {s : Calls} (h : s.Sound) (a : Step) : (s.step a).1.IsSettled :=
  ((act_leads s a).sound h).settleIn_settled (Nat.lt_succ_self _)

theorem script_settled (capacity : Nat) (script : List Step) :
    (script.foldl (fun s a => (s.step a).1) (new capacity)).IsSettled := by
  induction script using List.reverseRecOn with
  | nil => exact nofun
  | append_singleton rest a =>
    rw [List.foldl_append]
    exact ((script_leads capacity rest).sound (sound_new capacity)).step_settled a

/-- A change of the capacity that is at the gate is under way. -/
theorem Sound.collector {s : Calls} (h : s.Sound) {p : PendingCall} (hp : p ∈ s.pending)
    (ha : p.acquires = false) (hc : p.id ∈ s.gate.callers) :
    ∃ r rest, s.gate.resizes = r :: rest ∧ r.call = p.id ∧ r.begun = true ∧
      p.kind = .resize r.target := by
  obtain ⟨q, hq, hid, hres⟩ := h.callers p.id hc
  obtain rfl := h.same_call hq hp hid
  cases hk : q.kind with
  | acquire | acquireUntil => simp [PendingCall.acquires, hk] at ha
  | resize target =>
    obtain ⟨r, hr, hcall⟩ := List.mem_map.mp (hres target hk)
    have hbegun : r.begun = true := (h.gate.begun_iff r hr).mpr (hcall ▸ hc)
    obtain ⟨rest, hhead⟩ := h.gate.begun_head hr hbegun
    exact ⟨r, rest, hhead, hcall, hbegun, hk ▸ h.kind_of_resizer hp hr hcall⟩

/-- Whoever had all its permits would finish. -/
theorem Sound.settled_granted {s : Calls} (h : s.Sound) (hs : s.IsSettled) :
    s.gate.granted = [] := by
  apply List.eq_nil_iff_forall_not_mem.mpr
  intro w hw
  have hg : s.gate.isGranted w.call = true := isGranted_iff.mpr ⟨w, hw, rfl⟩
  obtain ⟨p, hp, hid, _⟩ := h.callers w.call (granted_caller hg)
  have hsilent : (s.poll p).2 = none := by rw [hs p hp]
  rw [← hid] at hg
  cases ha : p.acquires with
  | true =>
    have hnot := (poll_acquires ha hsilent).2
    simp [hg] at hnot
  | false =>
    obtain ⟨r, rest, hres, hcall, hbegun, hk⟩ := h.collector hp ha (granted_caller hg)
    obtain ⟨_, hpending, _⟩ := poll_resize hk hsilent
    simp [advanceResize, hres, hcall, hbegun, hg] at hpending

theorem Sound.collecting_iff {s : Calls} (h : s.Sound) {p : PendingCall} (hp : p ∈ s.pending)
    (ha : p.acquires = false) : s.gate.isCollecting p.id = true ↔ p.id ∈ s.gate.callers := by
  simp only [isCollecting, List.any_eq_true, Bool.and_eq_true, beq_iff_eq]
  constructor
  · rintro ⟨r, hr, hcall, hbegun⟩
    exact hcall ▸ (h.gate.begun_iff r hr).mp hbegun
  · intro hc
    obtain ⟨r, rest, hres, hcall, hbegun, _⟩ := h.collector hp ha hc
    exact ⟨r, by simp [hres], hcall, hbegun⟩

/-- Queued are the calls that are to get a permit and the change that collects permits. -/
theorem settled_queued (capacity : Nat) (moves : List Move)
    (hs : (after capacity moves).IsSettled) {p : PendingCall}
    (hp : p ∈ (after capacity moves).pending) :
    (after capacity moves).gate.isQueued p.id = true ↔
      p.acquires = true ∨ (after capacity moves).gate.isCollecting p.id = true := by
  have h := sound_after capacity moves
  rw [← mem_callers_queued (h.settled_granted hs)]
  cases ha : p.acquires with
  | true => simpa using acquires_queued capacity moves hp ha
  | false => simpa using (h.collecting_iff hp ha).symm

/-- A call that is to get a permit starts, and runs once. -/
def acquireNow (s : Calls) (name : String) : Calls :=
  [Move.acquire name, .poll s.nextId].foldl move s

/-- The same with a limit of time. -/
def acquireNowWithin (s : Calls) (name : String) (timeout : Span) : Calls :=
  [Move.acquireWithin name timeout, .poll s.nextId].foldl move s

theorem acquireNow_eq (s : Calls) (name : String) :
    s.acquireNow name = (s.start name .acquire).pollById s.nextId := rfl

theorem acquireNowWithin_eq (s : Calls) (name : String) (timeout : Span) :
    s.acquireNowWithin name timeout = (s.startWithin name timeout).pollById s.nextId := rfl

/-- A call that has just been started runs. -/
theorem Sound.start_poll {s : Calls} (h : s.Sound) (name : String) (kind : CallKind) :
    (s.start name kind).pollById s.nextId =
      (Calls.pollOne (s.start name kind, []) ⟨s.nextId, name, kind⟩).1 := by
  have hmem : (⟨s.nextId, name, kind⟩ : PendingCall) ∈ (s.start name kind).pending := by
    simp [Calls.start]
  exact (h.start name kind).pollById hmem

/-- Who finishes as soon as it is started leaves the calls as they were. -/
theorem Sound.started_over {s : Calls} (h : s.Sound) (name : String) (kind : CallKind) :
    (s.start name kind).pending.filter (·.id != s.nextId) = s.pending := by
  have hkept : s.pending.filter (·.id != s.nextId) = s.pending := by
    apply List.filter_eq_self.mpr
    intro p hp
    have := h.fresh p hp
    simp
    omega
  simp [Calls.start, hkept]

/-- A permit that is available is had at once. -/
theorem request_take {g : Gate Nat} {call : Nat} (fresh : call ∉ g.callers)
    (hpos : 0 < g.available) :
    (g.request call 1).isGranted call = true ∧
      (g.request call 1).take call = { g with available := g.available - 1 }.countHeld := by
  obtain ⟨hgranted, hqueue⟩ := not_mem_callers.mp fresh
  have hle : 1 ≤ g.available := hpos
  constructor
  · simp [request, hle, isGranted]
  · simp only [Gate.take, request, hle, ↓reduceIte, remove, removeCall_append,
      removeCall_eq_self hgranted, removeCall_eq_self hqueue]
    simp [removeCall]

theorem Sound.acquires_at_once {s : Calls} (h : s.Sound) (hpos : 0 < s.gate.available)
    (name : String) {kind : CallKind} (hk : ∀ target, kind ≠ .resize target) :
    (s.start name kind).pollById s.nextId =
      { s with
        gate := { s.gate with available := s.gate.available - 1 }.countHeld
        nextId := s.nextId + 1
        held := s.held ++ [name] } := by
  obtain ⟨hgranted, htake⟩ := request_take h.fresh_caller hpos
  have hgate : (s.start name kind).gate = s.gate.request s.nextId 1 := by
    cases kind with
    | acquire | acquireUntil => rfl
    | resize target => exact absurd rfl (hk target)
  have hover := h.started_over name kind
  rw [h.start_poll, pollOne_granted (acquires_iff.mpr hk) (by rw [hgate]; exact hgranted), hover,
    hgate, htake]
  rfl

/-- A call that was started last has come to no permit. -/
structure StaysOut (s t : Calls) : Prop where
  held : t.held = s.held
  counted : t.gate.inFlight = s.gate.inFlight ∧ t.gate.total = s.gate.total
  notGranted : t.gate.isGranted s.nextId = false

/-- Where no permit is available, whoever starts now goes without, also when its time is over at
once. -/
theorem Sound.stays_out {s : Calls} (h : s.Sound) (hnone : s.gate.available = 0) (name : String)
    {kind : CallKind} (hk : ∀ target, kind ≠ .resize target) :
    s.StaysOut ((s.start name kind).pollById s.nextId) := by
  have hgate : (s.start name kind).gate =
      { s.gate with available := 0, queue := s.gate.queue ++ [⟨s.nextId, 1, 0⟩] } := by
    cases kind with
    | acquire | acquireUntil => simp [Calls.start, request, hnone]
    | resize target => exact absurd rfl (hk target)
  have hold : s.gate.isGranted s.nextId = false := by
    by_contra hg
    exact h.fresh_caller (granted_caller (by simpa using hg))
  have hnew : (s.start name kind).gate.isGranted s.nextId = false := by
    rw [hgate]
    exact hold
  have hstarted : s.StaysOut (s.start name kind) :=
    ⟨rfl, by rw [hgate]; exact ⟨rfl, rfl⟩, hnew⟩
  have hover : s.StaysOut ((s.start name kind).drop s.nextId) := by
    refine ⟨hstarted.held, hstarted.counted, ?_⟩
    by_contra hg
    have hcaller := granted_caller (Bool.not_eq_false _ ▸ hg)
    exact (mem_cancel_callers.mp hcaller).2 rfl
  rw [h.start_poll]
  cases kind with
  | acquire => simpa [Calls.pollOne, poll, takeIfGranted, hnew] using hstarted
  | acquireUntil deadline timeout =>
    by_cases hd : deadline ≤ (s.start name (.acquireUntil deadline timeout)).clock
    · simpa [Calls.pollOne, poll, takeIfGranted, hnew, hd, Calls.drop] using hover
    · simpa [Calls.pollOne, poll, takeIfGranted, hnew, hd] using hstarted
  | resize target => exact absurd rfl (hk target)

/-- In a settled gate a queued call leaves no permit available. So a permit is had without waiting
just when one is available, never before a queued call, and it is the same whether it is tried for
or a call starts, with or without a limit of time. Scripts leave a settled gate after each step. -/
theorem acquires_agree (capacity : Nat) :
    (∀ script : List Step, ∃ moves,
      script.foldl (fun s a => (s.step a).1) (new capacity) = after capacity moves ∧
        (after capacity moves).IsSettled) ∧
    ∀ moves, (after capacity moves).IsSettled →
      let s := after capacity moves
      (∀ p ∈ s.pending, s.gate.isQueued p.id = true ↔
        p.acquires = true ∨ s.gate.isCollecting p.id = true) ∧
      ((∃ call, s.gate.isQueued call = true) → s.gate.available = 0) ∧
      ∀ name,
        ((s.tryAcquire? name).isSome = true ↔ 0 < s.gate.available) ∧
        ((s.tryAcquire? name).isSome = true → ∀ call, s.gate.isQueued call = false) ∧
        ∀ timeout,
          (∃ t, s.tryAcquire? name = some t ∧ t.held = s.held ++ [name] ∧
            s.acquireNow name = { t with nextId := s.nextId + 1 } ∧
            s.acquireNowWithin name timeout = { t with nextId := s.nextId + 1 }) ∨
          (s.tryAcquire? name = none ∧ s.StaysOut (s.acquireNow name) ∧
            s.StaysOut (s.acquireNowWithin name timeout)) := by
  refine ⟨?_, ?_⟩
  · intro script
    obtain ⟨moves, _, hmoves⟩ := script_leads capacity script
    exact ⟨moves, hmoves.symm, by rw [after, hmoves]; exact script_settled capacity script⟩
  · intro moves hs s
    have h : s.Sound := sound_after capacity moves
    have hidle (call : Nat) (hq : s.gate.isQueued call = true) : s.gate.available = 0 :=
      h.gate.queued_none_available hq
    refine ⟨fun p hp => settled_queued capacity moves hs hp, fun hq => hq.elim hidle, ?_⟩
    intro name
    by_cases hpos : 0 < s.gate.available
    · have htry : s.tryAcquire? name =
          some { s with
            gate := { s.gate with available := s.gate.available - 1 }.countHeld
            held := s.held ++ [name] } := by
        simp [tryAcquire?, Gate.tryAcquire?, hpos]
      rw [htry]
      refine ⟨by simp [hpos], fun _ call => ?_, fun timeout => .inl ⟨_, rfl, rfl, ?_, ?_⟩⟩
      · by_contra hq
        have := hidle call (by simpa using hq)
        omega
      · rw [acquireNow_eq, h.acquires_at_once hpos name (by simp)]
      · rw [acquireNowWithin_eq, startWithin, h.acquires_at_once hpos name (by simp)]
    · have htry : s.tryAcquire? name = none := by simp [tryAcquire?, Gate.tryAcquire?, hpos]
      have hnone : s.gate.available = 0 := Nat.eq_zero_of_not_pos hpos
      rw [htry]
      refine ⟨by simp [hpos], ?_, fun timeout => .inr ⟨rfl, ?_, ?_⟩⟩
      · simp
      · exact h.stays_out hnone name (by simp)
      · exact h.stays_out hnone name (by simp)

/-- Two of three permits are held. A change to one permit has swept up the third, and a call waits
behind it. -/
theorem acquires_agree_swept :
    let s := after 3 [.acquire "a", .poll 0, .acquire "b", .poll 1, .resize "c" 1, .poll 2,
      .acquire "d"]
    s.IsSettled ∧ s.gate.queue = [⟨2, 2, 1⟩, ⟨3, 1, 0⟩] ∧ s.gate.available = 0 ∧
      s.tryAcquire? "e" = none ∧ s.StaysOut (s.acquireNow "e") ∧
      s.StaysOut (s.acquireNowWithin "e" (.ofMillis 0)) := by
  obtain ⟨_, hidle, hagree⟩ := (acquires_agree 3).2 [.acquire "a", .poll 0, .acquire "b", .poll 1,
    .resize "c" 1, .poll 2, .acquire "d"] (by decide)
  have hnone := hidle ⟨3, by decide⟩
  refine ⟨by decide, by decide, hnone, ?_⟩
  rcases (hagree "e").2.2 (.ofMillis 0) with ⟨t, ht, _⟩ | hout
  · have hpos := (hagree "e").1.mp (by rw [ht]; rfl)
    omega
  · exact hout

end MetricBatch.Gate.Calls
