import MetricBatch.Proofs.Gate.Counters

namespace MetricBatch.Gate

variable {ι : Type}

/-- A call that asks for permits comes to the end of the line, also when it has them at once. -/
theorem Counted.request_line {g : Gate ι} {n : Nat} (h : g.Counted n) (call : ι) {wants : Nat}
    (hpos : 0 < wants) : (g.request call wants).callers = g.callers ++ [call] := by
  by_cases hw : wants ≤ g.available
  · have hqueue : g.queue = [] := by
      by_contra hne
      have hnone := h.idle hne
      omega
    simp [Gate.request, hw, callers, waiters, hqueue]
  · simp [Gate.request, hw, callers, waiters]

variable [DecidableEq ι]

theorem remove_line (g : Gate ι) (call : ι) :
    (g.remove call).callers = g.callers.filter (· != call) := by
  simp [callers, remove_waiters, removeCall_calls]

theorem cancel_line (g : Gate ι) (call : ι) :
    (g.cancel call).callers = g.callers.filter (· != call) := by
  rw [cancel, withdraw, addPermits_callers]
  exact remove_line _ call

/-- A change of the capacity that runs on stays where it is, comes to the end of the line to collect
permits, or is over and not in the line. -/
theorem Balanced.advanceResize_line {g : Gate ι} (h : g.Balanced 0) (call : ι) :
    (g.advanceResize call).1.callers = g.callers ∨
      (g.advanceResize call).2 = .pending ∧ call ∈ (g.advanceResize call).1.resizers ∧
        (g.advanceResize call).1.callers = g.callers ++ [call] ∨
      (g.advanceResize call).2 ≠ .pending ∧
        (g.advanceResize call).1.callers = g.callers.filter (· != call) := by
  have hstep := advanceResize_advances g call
  generalize g.advanceResize call = result at hstep ⊢
  cases hstep with
  | wait | refuse => exact .inl rfl
  | grow =>
    left
    rw [Gate.grow, addPermits_callers]
    rfl
  | retire _ hcall =>
    right; right
    exact ⟨by simp, hcall ▸ remove_line g _⟩
  | @begin r rest hres hcall hn hlt =>
    right; left
    refine ⟨rfl, ?_, ?_⟩
    · simp [resizers, beginShrink_resizes, hcall]
    · have hasks : { g with resizes := { r with begun := true } :: rest }.Counted 0 :=
        ⟨h.balance, h.idle, h.short, h.full, h.unique⟩
      rw [← hcall]
      exact hasks.request_line r.call (Nat.sub_pos_of_lt hlt)
  | @shrink r rest hres hcall hn hlt =>
    right; right
    refine ⟨by simp, ?_⟩
    have hasks : { g with resizes := { r with begun := true } :: rest }.Counted 0 :=
      ⟨h.balance, h.idle, h.short, h.full, h.unique⟩
    have hline : (g.beginShrink r rest).callers = g.callers ++ [r.call] :=
      hasks.request_line r.call (Nat.sub_pos_of_lt hlt)
    have hleft := remove_line (g.beginShrink r rest) r.call
    rw [hline, List.filter_append] at hleft
    have hover : ((g.beginShrink r rest).retire r rest).callers =
        ((g.beginShrink r rest).remove r.call).callers := rfl
    rw [← hcall, hover, hleft]
    simp

/-- Whoever has been granted its permits stands before the queue. -/
theorem before_queue {g : Gate ι} {R : ι → ι → Prop} (h : g.callers.Pairwise R) {x y : ι}
    (hx : g.isGranted x = true) (hy : y ∈ g.callers) (hg : g.isGranted y = false) : R x y := by
  obtain ⟨w, hw, rfl⟩ := isGranted_iff.mp hx
  obtain ⟨v, hv, rfl⟩ := List.mem_map.mp hy
  have hqueued : v ∈ g.queue := by
    refine (List.mem_append.mp hv).resolve_left fun hm => ?_
    rw [isGranted_iff.mpr ⟨v, hm, rfl⟩] at hg
    cases hg
  rw [callers, waiters, List.map_append, List.pairwise_append] at h
  exact h.2.2 _ (List.mem_map.mpr ⟨w, hw, rfl⟩) _ (List.mem_map.mpr ⟨v, hqueued, rfl⟩)

/-- While a call waits in the queue no permit is available. -/
theorem Counted.none_available {g : Gate ι} {n : Nat} (h : g.Counted n) {call : ι}
    (hc : call ∈ g.callers) (hg : g.isGranted call = false) : g.available = 0 := by
  apply h.idle
  intro hnil
  obtain ⟨w, hw, rfl⟩ := List.mem_map.mp hc
  rw [waiters, hnil, List.append_nil] at hw
  rw [isGranted_iff.mpr ⟨w, hw, rfl⟩] at hg
  cases hg

theorem granted_request {g : Gate ι} {c : ι} (h : g.isGranted c = true) (call : ι) (wants : Nat) :
    (g.request call wants).isGranted c = true := by
  unfold request
  split
  · obtain ⟨w, hw, hcall⟩ := isGranted_iff.mp h
    exact isGranted_iff.mpr ⟨w, List.mem_append_left _ hw, hcall⟩
  · exact h

theorem granted_addPermits {g : Gate ι} {c : ι} (h : g.isGranted c = true) (n : Nat) :
    (g.addPermits n).isGranted c = true := by
  obtain ⟨w, hw, hcall⟩ := isGranted_iff.mp h
  exact isGranted_iff.mpr ⟨w, List.mem_append_left _ hw, hcall⟩

theorem granted_remove {g : Gate ι} {c call : ι} (h : g.isGranted c = true) (hne : c ≠ call) :
    (g.remove call).isGranted c = true := by
  obtain ⟨w, hw, hcall⟩ := isGranted_iff.mp h
  exact isGranted_iff.mpr ⟨w, mem_removeCall.mpr ⟨hw, hcall ▸ hne⟩, hcall⟩

theorem granted_cancel {g : Gate ι} {c call : ι} (h : g.isGranted c = true) (hne : c ≠ call) :
    (g.cancel call).isGranted c = true :=
  granted_addPermits (granted_remove (g := { g with resizes := _ }) h hne) _

theorem granted_advanceResize {g : Gate ι} {c call : ι} (h : g.isGranted c = true)
    (hc : c ∈ (g.advanceResize call).1.callers) :
    (g.advanceResize call).1.isGranted c = true := by
  have hstep := advanceResize_advances g call
  generalize g.advanceResize call = result at hstep hc ⊢
  cases hstep with
  | wait | refuse => exact h
  | grow => exact granted_addPermits (g := { g with capacity := _, resizes := _ }) h _
  | retire => exact granted_remove h (mem_remove_callers.mp hc).2
  | @begin r rest =>
    exact granted_request (g := { g with resizes := { r with begun := true } :: rest }) h _ _
  | @shrink r rest =>
    have hasked : (g.beginShrink r rest).isGranted c = true :=
      granted_request (g := { g with resizes := { r with begun := true } :: rest }) h _ _
    exact granted_remove hasked (mem_remove_callers.mp hc).2

end MetricBatch.Gate

namespace MetricBatch.Gate.Calls

/-- What a move can do. A call that finishes is pending no more. -/
inductive Does (s : Calls) : Move → Calls → Prop where
  /-- What the move names is not there, or has nothing to do. -/
  | nothing (m : Move) : Does s m s
  | ask {m : Move} (name : String) {kind : CallKind} (hk : ∀ target, kind ≠ .resize target) :
    Does s m
      { s with
        gate := s.gate.request s.nextId 1
        nextId := s.nextId + 1
        pending := s.pending ++ [⟨s.nextId, name, kind⟩] }
  | lineUp (name : String) {target : Nat} (hv : isValidCapacity target = true) :
    Does s (.resize name target)
      { s with
        gate := s.gate.startResize s.nextId target
        nextId := s.nextId + 1
        pending := s.pending ++ [⟨s.nextId, name, .resize target⟩] }
  | askInvalid (name : String) {target : Nat} (hv : ¬isValidCapacity target = true) :
    Does s (.resize name target)
      { s with
        nextId := s.nextId + 1
        pending := s.pending ++ [⟨s.nextId, name, .resize target⟩] }
  | take {p : PendingCall} (hp : p ∈ s.pending) (ha : p.acquires = true)
    (hg : s.gate.isGranted p.id = true) :
    Does s (.poll p.id)
      { s with
        gate := s.gate.take p.id
        held := s.held ++ [p.name]
        pending := s.pending.filter (·.id != p.id) }
  | expire {p : PendingCall} {deadline : Nat} {timeout : Span} (hp : p ∈ s.pending)
    (hk : p.kind = .acquireUntil deadline timeout) (hg : s.gate.isGranted p.id = false)
    (hd : deadline ≤ s.clock) : Does s (.poll p.id) (s.drop p.id)
  | advance {p : PendingCall} {target : Nat} (hp : p ∈ s.pending) (hk : p.kind = .resize target)
    (hv : isValidCapacity target = true) :
    Does s (.poll p.id)
      { s with
        gate := (s.gate.advanceResize p.id).1
        pending :=
          if (s.gate.advanceResize p.id).2 = .pending then s.pending
          else s.pending.filter (·.id != p.id) }
  | refuse {p : PendingCall} {target : Nat} (hp : p ∈ s.pending) (hk : p.kind = .resize target)
    (hv : ¬isValidCapacity target = true) :
    Does s (.poll p.id) { s with pending := s.pending.filter (·.id != p.id) }
  | drop {p : PendingCall} (hp : p ∈ s.pending) : Does s (.drop p.id) (s.drop p.id)
  | tryAcquire (name : String) (hpos : 0 < s.gate.available) :
    Does s (.tryAcquire name)
      { s with
        gate := { s.gate with available := s.gate.available - 1 }.countHeld
        held := s.held ++ [name] }
  | release {name : String} (hname : name ∈ s.held) :
    Does s (.release name) { s with gate := s.gate.release, held := s.held.erase name }
  | wait (millis : Nat) : Does s (.advance millis) { s with clock := s.clock + millis }

theorem acquires_iff {p : PendingCall} :
    p.acquires = true ↔ ∀ target, p.kind ≠ .resize target := by
  unfold PendingCall.acquires
  split
  case h_1 hk | h_2 hk => simp [hk]
  case h_3 target hk => simp [hk]

theorem pollOne_does {s : Calls} {p : PendingCall} (hp : p ∈ s.pending) :
    Does s (.poll p.id) (pollOne (s, []) p).1 := by
  cases hk : p.kind with
  | acquire =>
    by_cases hg : s.gate.isGranted p.id = true
    · have ha : p.acquires = true := by simp [PendingCall.acquires, hk]
      rw [pollOne_granted ha hg]
      exact .take hp ha hg
    · have hsame : (pollOne (s, []) p).1 = s := by simp [pollOne, poll, hk, takeIfGranted, hg]
      rw [hsame]
      exact .nothing _
  | acquireUntil deadline timeout =>
    by_cases hg : s.gate.isGranted p.id = true
    · have ha : p.acquires = true := by simp [PendingCall.acquires, hk]
      rw [pollOne_granted ha hg]
      exact .take hp ha hg
    · by_cases hd : deadline ≤ s.clock
      · have hdrop : (pollOne (s, []) p).1 = s.drop p.id := by
          simp [pollOne, poll, hk, takeIfGranted, hg, hd, Calls.drop]
        rw [hdrop]
        exact .expire hp hk (by simpa using hg) hd
      · have hsame : (pollOne (s, []) p).1 = s := by
          simp [pollOne, poll, hk, takeIfGranted, hg, hd]
        rw [hsame]
        exact .nothing _
  | resize target =>
    by_cases hv : isValidCapacity target = true
    · rw [pollOne_resize hk hv]
      exact .advance hp hk hv
    · rw [pollOne_invalid hk hv]
      exact .refuse hp hk hv

theorem move_does (s : Calls) (m : Move) : Does s m (s.move m) := by
  cases m with
  | acquire name => exact .ask name (by simp)
  | acquireWithin name timeout => exact .ask name (by simp)
  | resize name target =>
    by_cases hv : isValidCapacity target = true
    · simp only [move, start, hv, ↓reduceIte]
      exact .lineUp name hv
    · simp only [move, start, hv]
      exact .askInvalid name hv
  | poll id =>
    simp only [move, pollById]
    split
    · rename_i p hp
      obtain rfl : p.id = id := by simpa using List.find?_some hp
      exact pollOne_does (List.mem_of_find?_eq_some hp)
    · exact .nothing _
  | drop id =>
    simp only [move]
    split
    · rename_i hany
      obtain ⟨p, hp, hid⟩ := List.any_eq_true.mp hany
      obtain rfl : p.id = id := by simpa using hid
      exact .drop hp
    · exact .nothing _
  | tryAcquire name =>
    by_cases hpos : 0 < s.gate.available
    · simp only [move, Calls.tryAcquire?, Gate.tryAcquire?, hpos, ↓reduceIte]
      exact .tryAcquire name hpos
    · simp only [move, Calls.tryAcquire?, Gate.tryAcquire?, hpos, ↓reduceIte]
      exact .nothing _
  | release name =>
    by_cases hname : name ∈ s.held
    · simp only [move, release?, List.contains_iff_mem.mpr hname, ↓reduceIte]
      exact .release hname
    · simp only [move, release?, List.contains_iff_mem, hname, ↓reduceIte]
      exact .nothing _
  | advance millis => exact .wait millis

/-- A call that is to get a permit is in the line until it is over. -/
theorem acquires_queued (capacity : Nat) (moves : List Move) {p : PendingCall}
    (hp : p ∈ (after capacity moves).pending) (ha : p.acquires = true) :
    p.id ∈ (after capacity moves).gate.callers := by
  obtain ⟨actions, hcalls, _⟩ := Threads.moves_lead capacity moves
  have hqueued := (Threads.after_counted capacity actions).queued
  rw [hcalls] at hqueued
  exact hqueued p hp ha

end MetricBatch.Gate.Calls
