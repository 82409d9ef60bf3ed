import MetricBatch.Gate.Calls
import MetricBatch.Proofs.Gate.Resizing

namespace MetricBatch.Gate.Calls

/-- The permits that calls that have not finished have by now. -/
def assignedToPending (s : Calls) : Nat := tally (fun p => s.gate.collected p.id) s.pending

/-- A call is at the gate only while it has not finished. -/
structure Sound (s : Calls) : Prop where
  gate : s.gate.Balanced 0
  held : s.held.length = s.gate.inFlight
  ids : (s.pending.map (·.id)).Nodup
  fresh : ∀ p ∈ s.pending, p.id < s.nextId
  callers : ∀ c ∈ s.gate.callers, ∃ p ∈ s.pending, p.id = c ∧
    ∀ target, p.kind = .resize target → c ∈ s.gate.resizers
  resizes : ∀ r ∈ s.gate.resizes, ∃ p ∈ s.pending, p.id = r.call ∧ p.kind = .resize r.target

theorem sound_new (capacity : Nat) : (new capacity).Sound := by
  refine ⟨balanced_new capacity, rfl, ?_, ?_, ?_, ?_⟩
  all_goals simp [new, Gate.new, Gate.callers, waiters]

theorem Sound.same_call {s : Calls} (h : s.Sound) {p q : PendingCall} (hp : p ∈ s.pending)
    (hq : q ∈ s.pending) (he : p.id = q.id) : p = q :=
  List.inj_on_of_nodup_map h.ids hp hq he

theorem Sound.kind_of_resizer {s : Calls} (h : s.Sound) {p : PendingCall} (hp : p ∈ s.pending)
    {r : Resize Nat} (hr : r ∈ s.gate.resizes) (he : r.call = p.id) : p.kind = .resize r.target := by
  obtain ⟨q, hq, hid, hk⟩ := h.resizes r hr
  rw [h.same_call hp hq (he.symm.trans hid.symm)]
  exact hk

theorem Sound.not_resizer {s : Calls} (h : s.Sound) {p : PendingCall} (hp : p ∈ s.pending)
    (hk : ∀ target, p.kind ≠ .resize target) : p.id ∉ s.gate.resizers := by
  intro hm
  obtain ⟨r, hr, he⟩ := List.mem_map.mp hm
  exact hk r.target (h.kind_of_resizer hp hr he)

/-- A call that finishes is gone from the gate, and the others stay as they are. -/
theorem Sound.over {s : Calls} (h : s.Sound) (id : Nat) {gate : Gate Nat} {held : List String}
    (hgate : gate.Balanced 0) (hheld : held.length = gate.inFlight)
    (hcallers : ∀ c ∈ gate.callers, c ∈ s.gate.callers ∧ c ≠ id)
    (hresizes : ∀ r ∈ gate.resizes, r.call ≠ id ∧
      ∃ x ∈ s.gate.resizes, x.call = r.call ∧ x.target = r.target)
    (hkeeps : ∀ c ∈ s.gate.resizers, c ≠ id → c ∈ gate.resizers) :
    { s with gate, held, pending := s.pending.filter (·.id != id) }.Sound := by
  refine ⟨hgate, hheld, ?_, ?_, ?_, ?_⟩
  · exact h.ids.sublist (List.Sublist.map _ List.filter_sublist)
  · intro p hp
    exact h.fresh p (List.mem_filter.mp hp).1
  · intro c hc
    obtain ⟨hold, hne⟩ := hcallers c hc
    obtain ⟨p, hp, rfl, hk⟩ := h.callers c hold
    refine ⟨p, List.mem_filter.mpr ⟨hp, by simpa using hne⟩, rfl, ?_⟩
    intro target ht
    exact hkeeps p.id (hk target ht) hne
  · intro r hr
    obtain ⟨hne, x, hx, hcall, htarget⟩ := hresizes r hr
    obtain ⟨p, hp, hid, hk⟩ := h.resizes x hx
    rw [hcall] at hid
    rw [htarget] at hk
    exact ⟨p, List.mem_filter.mpr ⟨hp, by simpa [hid] using hne⟩, hid, hk⟩

/-- A call that waits for one permit takes it. -/
theorem Sound.take {s : Calls} (h : s.Sound) {p : PendingCall} (hp : p ∈ s.pending)
    (hk : ∀ target, p.kind ≠ .resize target) (hg : s.gate.isGranted p.id = true) :
    { s with
      gate := s.gate.take p.id
      held := s.held ++ [p.name]
      pending := s.pending.filter (·.id != p.id) }.Sound := by
  have hnot := h.not_resizer hp hk
  apply h.over p.id (h.gate.take hg hnot)
  · simp [Gate.take, Gate.countHeld, Gate.remove, h.held]
  · intro c hc
    exact mem_take_callers.mp hc
  · intro r hr
    exact ⟨fun he => hnot (List.mem_map.mpr ⟨r, hr, he⟩), r, hr, rfl, rfl⟩
  · intro c hc _
    exact hc

theorem Sound.drop {s : Calls} (h : s.Sound) (id : Nat) : (s.drop id).Sound := by
  apply h.over id (h.gate.cancel id) h.held
  · intro c hc
    exact mem_cancel_callers.mp hc
  · intro r hr
    obtain ⟨hm, hne⟩ := mem_cancel_resizes.mp hr
    exact ⟨hne, r, hm, rfl, rfl⟩
  · intro c hc hne
    obtain ⟨r, hr, rfl⟩ := List.mem_map.mp hc
    exact List.mem_map.mpr ⟨r, mem_cancel_resizes.mpr ⟨hr, hne⟩, rfl⟩

/-- A change of the capacity to an invalid target is never in line with the others. -/
theorem Sound.invalid_not_resizer {s : Calls} (h : s.Sound) {p : PendingCall} (hp : p ∈ s.pending)
    {target : Nat} (hk : p.kind = .resize target) (hv : ¬isValidCapacity target = true) :
    p.id ∉ s.gate.resizers := by
  intro hm
  obtain ⟨r, hr, he⟩ := List.mem_map.mp hm
  have hkind := h.kind_of_resizer hp hr he
  rw [hk, CallKind.resize.injEq] at hkind
  apply hv
  simpa [hkind, isValidCapacity] using h.gate.targets r hr

/-- A change of the capacity that is refused without having been at the gate. -/
theorem Sound.refuse {s : Calls} (h : s.Sound) {p : PendingCall} (hp : p ∈ s.pending)
    {target : Nat} (hk : p.kind = .resize target) (hv : ¬isValidCapacity target = true) :
    { s with pending := s.pending.filter (·.id != p.id) }.Sound := by
  have hnot := h.invalid_not_resizer hp hk hv
  apply h.over p.id h.gate h.held
  · intro c hc
    refine ⟨hc, ?_⟩
    rintro rfl
    obtain ⟨q, hq, hid, hres⟩ := h.callers p.id hc
    rw [h.same_call hq hp hid] at hres
    exact hnot (hres target hk)
  · intro r hr
    exact ⟨fun he => hnot (List.mem_map.mpr ⟨r, hr, he⟩), r, hr, rfl, rfl⟩
  · intro c hc _
    exact hc

theorem Sound.advance_over {s : Calls} (h : s.Sound) (id : Nat)
    (hover : (s.gate.advanceResize id).2 ≠ .pending) :
    { s with
      gate := (s.gate.advanceResize id).1
      pending := s.pending.filter (·.id != id) }.Sound := by
  obtain ⟨hcaller, hresizer⟩ := h.gate.advanceResize_over hover
  apply h.over id (h.gate.advanceResize id)
  · rw [(advanceResize_counters s.gate id).1]
    exact h.held
  · intro c hc
    rcases advanceResize_callers hc with hold | ⟨_, hm⟩
    · exact ⟨hold, fun he => hcaller (he ▸ hc)⟩
    · exact absurd hm hresizer
  · intro r hr
    exact ⟨fun he => hresizer (List.mem_map.mpr ⟨r, hr, he⟩), advanceResize_resizes hr⟩
  · intro c hc hne
    exact (advanceResize_keeps hc).resolve_right fun he => hne he.1

theorem Sound.advance_pending {s : Calls} (h : s.Sound) (id : Nat)
    (hpending : (s.gate.advanceResize id).2 = .pending) :
    { s with gate := (s.gate.advanceResize id).1 }.Sound := by
  have hkeeps : ∀ c ∈ s.gate.resizers, c ∈ (s.gate.advanceResize id).1.resizers :=
    fun c hc => (advanceResize_keeps hc).resolve_right fun he => he.2 hpending
  refine ⟨h.gate.advanceResize id, ?_, h.ids, h.fresh, ?_, ?_⟩
  · rw [(advanceResize_counters s.gate id).1]
    exact h.held
  · intro c hc
    rcases advanceResize_callers hc with hold | ⟨rfl, hm⟩
    · obtain ⟨p, hp, hid, hk⟩ := h.callers c hold
      exact ⟨p, hp, hid, fun target ht => hkeeps c (hk target ht)⟩
    · obtain ⟨r, hr, he⟩ := List.mem_map.mp hm
      obtain ⟨x, hx, hcall, _⟩ := advanceResize_resizes hr
      obtain ⟨p, hp, hid, _⟩ := h.resizes x hx
      exact ⟨p, hp, hid.trans (hcall.trans he), fun _ _ => hm⟩
  · intro r hr
    obtain ⟨x, hx, hcall, htarget⟩ := advanceResize_resizes hr
    obtain ⟨p, hp, hid, hk⟩ := h.resizes x hx
    exact ⟨p, hp, hid.trans hcall, by rw [hk, htarget]⟩

theorem Sound.pollOne {s : Calls} (h : s.Sound) {p : PendingCall} (hp : p ∈ s.pending)
    (events : List Event) : (pollOne (s, events) p).1.Sound := by
  cases hk : p.kind with
  | acquire =>
    by_cases hg : s.gate.isGranted p.id = true
    · simp only [Calls.pollOne, poll, hk, takeIfGranted, hg, ↓reduceIte]
      exact h.take hp (by simp [hk]) hg
    · simp only [Calls.pollOne, poll, hk, takeIfGranted, hg]
      exact h
  | acquireUntil deadline timeout =>
    by_cases hg : s.gate.isGranted p.id = true
    · simp only [Calls.pollOne, poll, hk, takeIfGranted, hg, ↓reduceIte]
      exact h.take hp (by simp [hk]) hg
    · by_cases hd : deadline ≤ s.clock
      · simp only [Calls.pollOne, poll, hk, takeIfGranted, hg, hd, ↓reduceIte]
        exact h.drop p.id
      · simp only [Calls.pollOne, poll, hk, takeIfGranted, hg, hd]
        exact h
  | resize target =>
    by_cases hv : isValidCapacity target = true
    · have hover := h.advance_over p.id
      have hpending := h.advance_pending p.id
      rcases ha : s.gate.advanceResize p.id with ⟨gate, progress⟩
      simp only [ha] at hover hpending
      simp only [Calls.pollOne, poll, hk, hv, ↓reduceIte, ha]
      cases progress with
      | pending => exact hpending rfl
      | refused => exact hover (by simp)
      | changed old => exact hover (by simp)
    · simp only [Calls.pollOne, poll, hk, hv]
      exact h.refuse hp hk hv

theorem Sound.fresh_caller {s : Calls} (h : s.Sound) : s.nextId ∉ s.gate.callers := by
  intro hm
  obtain ⟨p, hp, hid, _⟩ := h.callers _ hm
  have := h.fresh p hp
  omega

theorem Sound.fresh_resizer {s : Calls} (h : s.Sound) : s.nextId ∉ s.gate.resizers := by
  intro hm
  obtain ⟨r, hr, he⟩ := List.mem_map.mp hm
  obtain ⟨p, hp, hid, _⟩ := h.resizes r hr
  have := h.fresh p hp
  omega

/-- A new call may come to the gate itself, and nobody else does. -/
theorem Sound.join {s : Calls} (h : s.Sound) {name : String} {kind : CallKind} {gate : Gate Nat}
    (hgate : gate.Balanced 0) (hin : gate.inFlight = s.gate.inFlight)
    (hcallers : ∀ c ∈ gate.callers, c ∈ s.gate.callers ∨
      c = s.nextId ∧ ∀ target, kind ≠ .resize target)
    (hresizes : ∀ r ∈ gate.resizes, r ∈ s.gate.resizes ∨
      r.call = s.nextId ∧ kind = .resize r.target)
    (hkeeps : ∀ c ∈ s.gate.resizers, c ∈ gate.resizers) :
    { s with
      gate
      nextId := s.nextId + 1
      pending := s.pending ++ [PendingCall.mk s.nextId name kind] }.Sound := by
  have hnew : PendingCall.mk s.nextId name kind ∈
      s.pending ++ [PendingCall.mk s.nextId name kind] := by simp
  have hids : s.nextId ∉ s.pending.map (·.id) := by
    intro hm
    obtain ⟨p, hp, hid⟩ := List.mem_map.mp hm
    have := h.fresh p hp
    omega
  refine ⟨hgate, by rw [hin]; exact h.held, ?_, ?_, ?_, ?_⟩
  · simp only [List.map_append, List.map_cons, List.map_nil]
    rw [← List.concat_eq_append]
    exact h.ids.concat hids
  · intro p hp
    rcases List.mem_append.mp hp with hm | hm
    · exact Nat.lt_succ_of_lt (h.fresh p hm)
    · rw [List.mem_singleton.mp hm]
      exact Nat.lt_succ_self _
  · intro c hc
    rcases hcallers c hc with hold | ⟨rfl, hk⟩
    · obtain ⟨p, hp, hid, hres⟩ := h.callers c hold
      exact ⟨p, List.mem_append_left _ hp, hid, fun target ht => hkeeps c (hres target ht)⟩
    · exact ⟨_, hnew, rfl, fun target ht => absurd ht (hk target)⟩
  · intro r hr
    rcases hresizes r hr with hold | ⟨hcall, hk⟩
    · obtain ⟨p, hp, hid, hkind⟩ := h.resizes r hold
      exact ⟨p, List.mem_append_left _ hp, hid, hkind⟩
    · exact ⟨_, hnew, hcall.symm, hk⟩

theorem Sound.start {s : Calls} (h : s.Sound) (name : String) (kind : CallKind) :
    (s.start name kind).Sound := by
  have hacquire (hk : ∀ target, kind ≠ .resize target) :
      { s with
        gate := s.gate.request s.nextId 1
        nextId := s.nextId + 1
        pending := s.pending ++ [PendingCall.mk s.nextId name kind] }.Sound := by
    obtain ⟨hres, _, hin, _⟩ := request_frame s.gate s.nextId 1
    apply h.join (h.gate.request h.fresh_caller h.fresh_resizer) hin
    · intro c hc
      rcases List.mem_cons.mp ((request_callers s.gate s.nextId 1).mem_iff.mp hc) with he | hm
      · exact .inr ⟨he, hk⟩
      · exact .inl hm
    · intro r hr
      rw [hres] at hr
      exact .inl hr
    · intro c hc
      rwa [resizers, hres]
  cases kind with
  | acquire => exact hacquire (by simp)
  | acquireUntil deadline timeout => exact hacquire (by simp)
  | resize target =>
    by_cases hv : isValidCapacity target = true
    · simp only [Calls.start, hv, ↓reduceIte]
      apply h.join (h.gate.startResize h.fresh_caller h.fresh_resizer hv) rfl
      · intro c hc
        exact .inl hc
      · intro r hr
        rcases List.mem_append.mp hr with hm | hm
        · exact .inl hm
        · rw [List.mem_singleton.mp hm]
          exact .inr ⟨rfl, rfl⟩
      · intro c hc
        rw [startResize_resizers]
        exact List.mem_append_left _ hc
    · simp only [Calls.start, hv]
      exact h.join h.gate rfl (fun c hc => .inl hc) (fun r hr => .inl hr) (fun c hc => hc)

theorem Sound.tryAcquire {s s' : Calls} (h : s.Sound) {name : String}
    (ht : s.tryAcquire? name = some s') : s'.Sound := by
  obtain ⟨gate, hg, rfl⟩ := Option.map_eq_some_iff.mp ht
  have hgate := h.gate.tryAcquire hg
  unfold Gate.tryAcquire? at hg
  split at hg
  · cases hg
    exact ⟨hgate, by simp [countHeld, h.held], h.ids, h.fresh, h.callers, h.resizes⟩
  · cases hg

theorem Sound.release {s s' : Calls} (h : s.Sound) {name : String}
    (hr : s.release? name = some s') : s'.Sound := by
  unfold release? at hr
  split at hr
  · rename_i hname
    cases hr
    have hmem : name ∈ s.held := by simpa using hname
    have hlen := List.length_erase_of_mem hmem
    have hpos : 0 < s.gate.inFlight := by
      rw [← h.held]
      exact List.length_pos_of_mem hmem
    refine ⟨h.gate.release hpos, ?_, h.ids, h.fresh, ?_, h.resizes⟩
    · rw [hlen, h.held]
      rfl
    · intro c hc
      rw [Gate.release, addPermits_callers] at hc
      exact h.callers c hc
  · cases hr

theorem Sound.move {s : Calls} (h : s.Sound) (m : Move) : (s.move m).Sound := by
  cases m with
  | acquire name => exact h.start name .acquire
  | acquireWithin name timeout =>
    exact h.start name (.acquireUntil (s.clock + timeout.millisRoundedUp) timeout)
  | resize name target => exact h.start name (.resize target)
  | poll id =>
    simp only [Calls.move, pollById]
    split
    · rename_i p hp
      exact h.pollOne (List.mem_of_find?_eq_some hp) []
    · exact h
  | drop id =>
    simp only [Calls.move]
    split
    · exact h.drop id
    · exact h
  | tryAcquire name =>
    simp only [Calls.move]
    cases ht : s.tryAcquire? name with
    | none => exact h
    | some s' => exact h.tryAcquire ht
  | release name =>
    simp only [Calls.move]
    cases hr : s.release? name with
    | none => exact h
    | some s' => exact h.release hr
  | advance millis => exact ⟨h.gate, h.held, h.ids, h.fresh, h.callers, h.resizes⟩

theorem sound_moves {s : Calls} (h : s.Sound) (moves : List Move) : (moves.foldl move s).Sound := by
  induction moves generalizing s with
  | nil => exact h
  | cons m rest ih => exact ih (h.move m)

theorem sound_after (capacity : Nat) (moves : List Move) : (after capacity moves).Sound :=
  sound_moves (sound_new capacity) moves

theorem Sound.assigned {s : Calls} (h : s.Sound) : s.assignedToPending = s.gate.assigned := by
  have hmem : ∀ w ∈ s.gate.waiters, w.call ∈ s.pending.map (·.id) := by
    intro w hw
    obtain ⟨p, hp, hid, _⟩ := h.callers w.call (List.mem_map.mpr ⟨w, hw, rfl⟩)
    exact List.mem_map.mpr ⟨p, hp, hid⟩
  have hsum := permitsOf_by_call h.ids hmem
  rw [tally_map] at hsum
  exact hsum

/-- Permits are neither lost nor duplicated. So no more are held than the capacity says, a change
that grows the capacity never adds more permits than a gate can have, and one that shrinks it
collects just the difference between the capacity and its target. -/
theorem permits_conserved (capacity : Nat) (moves : List Move) :
    let s := after capacity moves
    s.gate.available + s.held.length + s.assignedToPending = s.gate.capacity ∧
    1 ≤ s.gate.capacity ∧ s.gate.capacity ≤ maxCapacity ∧
    s.held.length ≤ s.gate.capacity ∧
    (∀ r ∈ s.gate.resizes, s.gate.capacity ≤ r.target →
      s.gate.available + (r.target - s.gate.capacity) ≤ maxCapacity) ∧
    (∀ r ∈ s.gate.resizes, r.begun = true → r.target < s.gate.capacity ∧
      ∀ w ∈ s.gate.waiters, w.call = r.call → w.wants = s.gate.capacity - r.target) := by
  intro s
  have h : s.Sound := sound_after capacity moves
  have hbalance : s.gate.available + s.held.length + s.assignedToPending = s.gate.capacity := by
    rw [h.held, h.assigned]
    simpa using h.gate.balance
  refine ⟨hbalance, h.gate.capacity_pos, h.gate.capacity_le, ?_, ?_, ?_⟩
  · omega
  · intro r hr hgrows
    have := (h.gate.targets r hr).2
    omega
  · intro r hr hbegun
    refine ⟨h.gate.shrinks r hr hbegun, ?_⟩
    intro w hw hcall
    rw [h.gate.wants w hw, hcall]
    exact h.gate.share_of_begun hr hbegun

/-- Two permits are held, and a change to one permit has one of the two that it is to collect. -/
theorem permits_conserved_half_shrunk :
    let s := after 3 [.acquire "a", .poll 0, .acquire "b", .poll 1, .resize "c" 1, .poll 2]
    s.gate.resizes = [⟨2, 1, true⟩] ∧ s.gate.waiters = [⟨2, 2, 1⟩] ∧
      s.gate.available + s.held.length + s.assignedToPending = 3 ∧
      ∀ w ∈ s.gate.waiters, w.call = 2 → w.wants = 2 := by
  obtain ⟨hbalance, _, _, _, _, hshrinks⟩ := permits_conserved 3
    [.acquire "a", .poll 0, .acquire "b", .poll 1, .resize "c" 1, .poll 2]
  exact ⟨by decide, by decide, hbalance, (hshrinks ⟨2, 1, true⟩ (by decide) rfl).2⟩

end MetricBatch.Gate.Calls
