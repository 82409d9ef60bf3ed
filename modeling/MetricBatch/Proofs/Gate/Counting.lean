import MetricBatch.Proofs.Gate.Waiters

namespace MetricBatch.Gate

variable {ι : Type}

/-- The permits that waiting calls have by now. -/
def assigned (g : Gate ι) : Nat := permitsOf g.waiters

/-- The calls that wait. -/
def callers (g : Gate ι) : List ι := g.waiters.map (·.call)

theorem not_mem_callers {g : Gate ι} {call : ι} :
    call ∉ g.callers ↔ call ∉ g.granted.map (·.call) ∧ call ∉ g.queue.map (·.call) := by
  simp only [callers, waiters, List.map_append, List.mem_append, not_or]

/-- The permits of a gate of which so many are loose: given back by one and not yet handed to
another. -/
structure Counted (g : Gate ι) (loose : Nat) : Prop where
  balance : g.available + g.inFlight + g.assigned + loose = g.capacity
  idle : g.queue ≠ [] → g.available = 0
  short : ∀ w ∈ g.queue, w.got < w.wants
  full : ∀ w ∈ g.granted, w.got = w.wants
  unique : g.callers.Nodup

theorem counted_new (capacity : Nat) : (new capacity : Gate ι).Counted 0 := by
  constructor <;> simp [new, assigned, callers, waiters]

theorem addPermits_eq (g : Gate ι) (n : Nat) :
    g.addPermits n =
      { g with
        queue := (hand n g.queue).2.1
        granted := g.granted ++ (hand n g.queue).1
        available := g.available + (hand n g.queue).2.2 } :=
  rfl

theorem addPermits_wants (g : Gate ι) (n : Nat) :
    (g.addPermits n).waiters.map (fun w => (w.call, w.wants)) =
      g.waiters.map (fun w => (w.call, w.wants)) := by
  simp only [waiters, addPermits_eq, List.append_assoc, List.map_append]
  rw [← List.map_append, hand_wants]

theorem addPermits_callers (g : Gate ι) (n : Nat) : (g.addPermits n).callers = g.callers := by
  simpa [callers, Function.comp_def] using congrArg (List.map Prod.fst) (addPermits_wants g n)

theorem Counted.addPermits {g : Gate ι} {n : Nat} (h : g.Counted n) :
    (g.addPermits n).Counted 0 := by
  have hp := hand_permits n g.queue
  have hb := h.balance
  refine ⟨?_, ?_, hand_queue_short h.short, ?_, ?_⟩
  · simp only [assigned, waiters, addPermits_eq, permitsOf_append] at hb ⊢
    omega
  · intro hq
    have hleft : (hand n g.queue).2.2 = 0 := hand_left hq
    have hne : g.queue ≠ [] := by
      intro he
      simp [addPermits_eq, he, hand] at hq
    simpa [addPermits_eq, hleft] using h.idle hne
  · intro w hw
    rcases List.mem_append.mp hw with hm | hm
    · exact h.full w hm
    · exact hand_served_full w hm
  · rw [addPermits_callers]
    exact h.unique

/-- A call that asks for permits joins the others with what is there for it. -/
theorem request_waiters (g : Gate ι) (call : ι) (wants : Nat) :
    ∃ w, w.call = call ∧ w.wants = wants ∧ (g.request call wants).waiters.Perm (w :: g.waiters) := by
  by_cases hw : wants ≤ g.available
  · refine ⟨⟨call, wants, wants⟩, rfl, rfl, ?_⟩
    simp [request, hw, waiters]
  · refine ⟨⟨call, wants, g.available⟩, rfl, rfl, ?_⟩
    simp only [request, hw, ↓reduceIte, waiters, ← List.append_assoc]
    exact List.perm_append_singleton _ _

theorem request_callers (g : Gate ι) (call : ι) (wants : Nat) :
    (g.request call wants).callers.Perm (call :: g.callers) := by
  obtain ⟨w, rfl, _, hp⟩ := request_waiters g call wants
  exact hp.map _

theorem request_frame (g : Gate ι) (call : ι) (wants : Nat) :
    (g.request call wants).resizes = g.resizes ∧ (g.request call wants).capacity = g.capacity ∧
      (g.request call wants).inFlight = g.inFlight ∧ (g.request call wants).peak = g.peak ∧
      (g.request call wants).total = g.total := by
  unfold request
  split <;> simp

theorem Counted.request {g : Gate ι} {n : Nat} (h : g.Counted n) {call : ι}
    (fresh : call ∉ g.callers) (wants : Nat) : (g.request call wants).Counted n := by
  have hunique : (g.request call wants).callers.Nodup := by
    rw [(request_callers g call wants).nodup_iff]
    exact List.nodup_cons.mpr ⟨fresh, h.unique⟩
  have hb := h.balance
  by_cases hw : wants ≤ g.available
  · simp only [Gate.request, hw, ↓reduceIte] at hunique ⊢
    refine ⟨?_, ?_, h.short, ?_, hunique⟩
    · simp only [assigned, waiters, permitsOf_append, permitsOf_cons, permitsOf_nil] at hb ⊢
      omega
    · intro hq
      have := h.idle hq
      dsimp only
      omega
    · intro x hx
      rcases List.mem_append.mp hx with hm | hm
      · exact h.full x hm
      · rw [List.mem_singleton.mp hm]
  · simp only [Gate.request, hw, ↓reduceIte] at hunique ⊢
    refine ⟨?_, fun _ => rfl, ?_, h.full, hunique⟩
    · simp only [assigned, waiters, permitsOf_append, permitsOf_cons, permitsOf_nil] at hb ⊢
      omega
    · intro x hx
      rcases List.mem_append.mp hx with hm | hm
      · exact h.short x hm
      · rw [List.mem_singleton.mp hm]
        exact Nat.lt_of_not_le hw

variable [DecidableEq ι]

theorem isGranted_iff {g : Gate ι} {call : ι} :
    g.isGranted call = true ↔ ∃ w ∈ g.granted, w.call = call := by
  simp [isGranted]

theorem remove_waiters (g : Gate ι) (call : ι) :
    (g.remove call).waiters = removeCall call g.waiters := by
  simp [remove, waiters, removeCall_append]

theorem mem_remove_callers {g : Gate ι} {call c : ι} :
    c ∈ (g.remove call).callers ↔ c ∈ g.callers ∧ c ≠ call := by
  simp [callers, remove_waiters, removeCall_calls]

theorem not_mem_remove_callers (g : Gate ι) (call : ι) : call ∉ (g.remove call).callers :=
  fun h => (mem_remove_callers.mp h).2 rfl

theorem collected_of_mem {g : Gate ι} (hu : g.callers.Nodup) {w : Waiter ι} (hw : w ∈ g.waiters) :
    g.collected w.call = w.got :=
  permitsOf_call hu hw

theorem remove_absent {g : Gate ι} {call : ι} (h : call ∉ g.callers) : g.remove call = g := by
  obtain ⟨hgranted, hqueue⟩ := not_mem_callers.mp h
  simp [Gate.remove, removeCall_eq_self hgranted, removeCall_eq_self hqueue]

theorem waiters_absent {g : Gate ι} {call : ι} (h : call ∉ g.callers) :
    g.waiters.filter (·.call == call) = [] := by
  apply List.filter_eq_nil_iff.mpr
  intro w hw he
  exact h (List.mem_map.mpr ⟨w, hw, by simpa using he⟩)

theorem collected_eq_zero {g : Gate ι} {call : ι} (h : call ∉ g.callers) :
    g.collected call = 0 := by
  simp [collected, waiters_absent h]

/-- What a call that leaves has collected is loose. -/
theorem Counted.remove {g : Gate ι} {n : Nat} (h : g.Counted n) (call : ι) :
    (g.remove call).Counted (n + g.collected call) := by
  have hb := h.balance
  have hp := permitsOf_removeCall call g.waiters
  refine ⟨?_, ?_, ?_, ?_, ?_⟩
  · simp only [assigned, remove_waiters, collected] at hb ⊢
    simp only [Gate.remove]
    omega
  · intro hq
    apply h.idle
    intro he
    simp [Gate.remove, he, removeCall] at hq
  · intro w hw
    exact h.short w (mem_removeCall.mp hw).1
  · intro w hw
    exact h.full w (mem_removeCall.mp hw).1
  · simp only [callers, remove_waiters, removeCall_calls]
    exact h.unique.filter _

end MetricBatch.Gate
