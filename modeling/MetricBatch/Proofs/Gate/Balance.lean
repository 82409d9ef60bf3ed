import MetricBatch.Gate.Resize
import MetricBatch.Proofs.Gate.Counting

namespace MetricBatch.Gate

variable {ι : Type}

/-- The calls that change the capacity. -/
def resizers (g : Gate ι) : List ι := g.resizes.map (·.call)

variable [DecidableEq ι]

/-- How many permits a call is to have. Only the change of the capacity that is under way collects
more than one. -/
def share (g : Gate ι) (call : ι) : Nat :=
  match g.resizes with
  | r :: _ => if r.call = call then g.capacity - r.target else 1
  | [] => 1

/-- The invariant of a gate. A change of the capacity waits for permits from the moment it is begun,
and only the first one is. -/
structure Balanced (g : Gate ι) (loose : Nat) : Prop extends Counted g loose where
  capacity_pos : 1 ≤ g.capacity
  capacity_le : g.capacity ≤ maxCapacity
  peak_ge : g.inFlight ≤ g.peak
  wants : ∀ w ∈ g.waiters, w.wants = g.share w.call
  resizes_unique : g.resizers.Nodup
  targets : ∀ r ∈ g.resizes, 1 ≤ r.target ∧ r.target ≤ maxCapacity
  turns : ∀ r ∈ g.resizes.tail, r.begun = false
  begun_iff : ∀ r ∈ g.resizes, r.begun = true ↔ r.call ∈ g.callers
  shrinks : ∀ r ∈ g.resizes, r.begun = true → r.target < g.capacity

theorem balanced_new (capacity : Nat) : (new capacity : Gate ι).Balanced 0 := by
  have hmax : 1 ≤ maxCapacity := by decide
  have hpos : 1 ≤ max 1 (min capacity maxCapacity) := by omega
  have hle : max 1 (min capacity maxCapacity) ≤ maxCapacity := by omega
  refine ⟨counted_new capacity, hpos, hle, ?_, ?_, ?_, ?_, ?_, ?_, ?_⟩
  all_goals simp [new, waiters, resizers]

theorem share_congr {g g' : Gate ι} (hres : g'.resizes = g.resizes)
    (hcap : g'.capacity = g.capacity) : g'.share = g.share := by
  funext call
  simp only [share, hres, hcap]

theorem share_eq_one {g : Gate ι} {call : ι} (h : ∀ r ∈ g.resizes.head?, r.call ≠ call) :
    g.share call = 1 := by
  unfold share
  split
  · rename_i r rest he
    have hne : r.call ≠ call := h r (by simp [he])
    simp [hne]
  · rfl

/-- A change of the capacity that has not begun wants no permits yet. -/
theorem Balanced.head_ne {g : Gate ι} {n : Nat} (h : g.Balanced n) {r : Resize ι}
    (hr : r ∈ g.resizes) (hn : r.begun = false) {call : ι} (hc : call ∈ g.callers) :
    r.call ≠ call := by
  intro he
  have hb := (h.begun_iff r hr).mpr (he ▸ hc)
  simp [hn] at hb

theorem Balanced.share_of_begun {g : Gate ι} {n : Nat} (h : g.Balanced n) {r : Resize ι}
    (hr : r ∈ g.resizes) (hbegun : r.begun = true) : g.share r.call = g.capacity - r.target := by
  have hturns := h.turns
  cases hres : g.resizes with
  | nil => simp [hres] at hr
  | cons x rest =>
    rw [hres] at hr hturns
    rcases List.mem_cons.mp hr with rfl | hm
    · simp [share, hres]
    · have hn := hturns r hm
      simp [hbegun] at hn

theorem Balanced.addPermits {g : Gate ι} {n : Nat} (h : g.Balanced n) :
    (g.addPermits n).Balanced 0 := by
  refine ⟨h.toCounted.addPermits, h.capacity_pos, h.capacity_le, h.peak_ge, ?_, h.resizes_unique,
    h.targets, h.turns, ?_, h.shrinks⟩
  · intro w hw
    have hm : (w.call, w.wants) ∈ g.waiters.map (fun w => (w.call, w.wants)) := by
      rw [← addPermits_wants g n]
      exact List.mem_map.mpr ⟨w, hw, rfl⟩
    obtain ⟨x, hx, he⟩ := List.mem_map.mp hm
    simp only [Prod.mk.injEq] at he
    rw [← he.2, ← he.1]
    exact h.wants x hx
  · intro r hr
    rw [addPermits_callers]
    exact h.begun_iff r hr

/-- A call asks for its share. The hypotheses are the invariant of the gate, but for a change of the
capacity that counts as begun already. -/
theorem balanced_request {g : Gate ι} {n : Nat} {call : ι} (h : g.Counted n)
    (fresh : call ∉ g.callers) (hpos : 1 ≤ g.capacity) (hle : g.capacity ≤ maxCapacity)
    (hpeak : g.inFlight ≤ g.peak) (hwants : ∀ w ∈ g.waiters, w.wants = g.share w.call)
    (hunique : g.resizers.Nodup)
    (htargets : ∀ r ∈ g.resizes, 1 ≤ r.target ∧ r.target ≤ maxCapacity)
    (hturns : ∀ r ∈ g.resizes.tail, r.begun = false)
    (hbegun : ∀ r ∈ g.resizes, r.begun = true ↔ r.call = call ∨ r.call ∈ g.callers)
    (hshrinks : ∀ r ∈ g.resizes, r.begun = true → r.target < g.capacity) :
    (g.request call (g.share call)).Balanced n := by
  have hcounted := h.request fresh (g.share call)
  obtain ⟨w, hc, hw, hp⟩ := request_waiters g call (g.share call)
  have hcallers := request_callers g call (g.share call)
  obtain ⟨hres, hcap, hin, hpk, _⟩ := request_frame g call (g.share call)
  have hshare := share_congr hres hcap
  refine ⟨hcounted, by rwa [hcap], by rwa [hcap], by rwa [hin, hpk], ?_,
    by rwa [resizers, hres], by rwa [hres], by rwa [hres], ?_, by rwa [hres, hcap]⟩
  · intro x hx
    rw [hshare]
    rcases List.mem_cons.mp (hp.mem_iff.mp hx) with rfl | hm
    · rw [hw, hc]
    · exact hwants x hm
  · intro r hr
    rw [hres] at hr
    rw [hcallers.mem_iff, List.mem_cons]
    exact hbegun r hr

/-- A call that is no change of the capacity wants one permit. -/
theorem share_of_not_resize {g : Gate ι} {call : ι} (hr : call ∉ g.resizers) :
    g.share call = 1 := by
  apply share_eq_one
  intro r hhead he
  exact hr (List.mem_map.mpr ⟨r, List.mem_of_mem_head? hhead, he⟩)

theorem Balanced.request {g : Gate ι} {n : Nat} (h : g.Balanced n) {call : ι}
    (fresh : call ∉ g.callers) (hr : call ∉ g.resizers) :
    (g.request call 1).Balanced n := by
  have hbegun : ∀ r ∈ g.resizes, r.begun = true ↔ r.call = call ∨ r.call ∈ g.callers := by
    intro r hm
    have hne : r.call ≠ call := fun he => hr (List.mem_map.mpr ⟨r, hm, he⟩)
    simp [h.begun_iff r hm, hne]
  have hb := balanced_request h.toCounted fresh h.capacity_pos h.capacity_le h.peak_ge h.wants
    h.resizes_unique h.targets h.turns hbegun h.shrinks
  rwa [share_of_not_resize hr] at hb

/-- A call leaves, and if it is a change of the capacity it is not carried out. -/
def leave (g : Gate ι) (call : ι) : Gate ι :=
  { g with resizes := g.resizes.filter (·.call != call) }.remove call

theorem mem_leave_resizes {g : Gate ι} {call : ι} {r : Resize ι} :
    r ∈ (g.leave call).resizes ↔ r ∈ g.resizes ∧ r.call ≠ call := by
  simp [leave, remove]

theorem mem_leave_waiters {g : Gate ι} {call : ι} {w : Waiter ι} :
    w ∈ (g.leave call).waiters ↔ w ∈ g.waiters ∧ w.call ≠ call := by
  rw [leave, remove_waiters, mem_removeCall]
  exact Iff.rfl

theorem mem_leave_callers {g : Gate ι} {call c : ι} :
    c ∈ (g.leave call).callers ↔ c ∈ g.callers ∧ c ≠ call :=
  mem_remove_callers

theorem mem_tail_filter {α : Type} {p : α → Bool} {l : List α} {a : α}
    (h : a ∈ (l.filter p).tail) : a ∈ l.tail := by
  cases l with
  | nil => simp at h
  | cons x rest =>
    by_cases hx : p x
    · simp only [List.filter_cons, hx, ↓reduceIte, List.tail_cons] at h
      exact (List.mem_filter.mp h).1
    · simp only [List.filter_cons, hx] at h
      exact (List.mem_filter.mp (List.mem_of_mem_tail h)).1

/-- Who does not leave is to have as much as before: the next change of the capacity has not begun
yet. -/
theorem Balanced.leave_share {g : Gate ι} {n : Nat} (h : g.Balanced n) {call c : ι}
    (hc : c ∈ g.callers) (hne : c ≠ call) : (g.leave call).share c = g.share c := by
  have hturns := h.turns
  cases hres : g.resizes with
  | nil => simp [share, leave, remove, hres]
  | cons r rest =>
    by_cases hr : r.call = call
    · -- The change under way leaves, and the next one has asked for nothing yet.
      have hold : g.share c = 1 := by
        apply share_eq_one
        intro x hx
        simp only [hres, List.head?_cons, Option.mem_def, Option.some.injEq] at hx
        rw [← hx, hr]
        exact hne.symm
      rw [hold]
      apply share_eq_one
      intro x hx
      have hm : x ∈ rest := by
        have hmem := List.mem_of_mem_head? hx
        simp only [leave, remove, hres, List.filter_cons, hr, bne_self_eq_false] at hmem
        exact (List.mem_filter.mp hmem).1
      rw [hres] at hturns
      exact h.head_ne (by simp [hres, hm]) (hturns x hm) hc
    · simp [share, leave, remove, hres, hr]

theorem Balanced.leave {g : Gate ι} {n : Nat} (h : g.Balanced n) (call : ι) :
    (g.leave call).Balanced (n + g.collected call) := by
  have hcounted : (g.leave call).Counted (n + g.collected call) := by
    have hc := h.toCounted.remove call
    exact ⟨hc.balance, hc.idle, hc.short, hc.full, hc.unique⟩
  refine ⟨hcounted, h.capacity_pos, h.capacity_le, h.peak_ge, ?_, ?_, ?_, ?_, ?_, ?_⟩
  · intro w hw
    obtain ⟨hm, hne⟩ := mem_leave_waiters.mp hw
    rw [h.leave_share (List.mem_map.mpr ⟨w, hm, rfl⟩) hne]
    exact h.wants w hm
  · exact h.resizes_unique.sublist (List.Sublist.map _ List.filter_sublist)
  · intro r hr
    exact h.targets r (mem_leave_resizes.mp hr).1
  · intro r hr
    exact h.turns r (mem_tail_filter hr)
  · intro r hr
    obtain ⟨hm, hne⟩ := mem_leave_resizes.mp hr
    rw [h.begun_iff r hm, mem_leave_callers]
    simp [hne]
  · intro r hr
    exact h.shrinks r (mem_leave_resizes.mp hr).1

/-- A call that changes nothing takes no change away when it leaves. -/
theorem filter_resizes {call : ι} {resizes : List (Resize ι)} (h : call ∉ resizes.map (·.call)) :
    resizes.filter (·.call != call) = resizes := by
  refine List.filter_eq_self.mpr fun x hx => ?_
  have hne : x.call ≠ call := fun he => h (List.mem_map.mpr ⟨x, hx, he⟩)
  simpa using hne

/-- A call that is no change of the capacity leaves. -/
theorem Balanced.remove {g : Gate ι} {n : Nat} (h : g.Balanced n) {call : ι}
    (hr : call ∉ g.resizers) : (g.remove call).Balanced (n + g.collected call) := by
  have hl := h.leave call
  rw [Gate.leave, filter_resizes hr] at hl
  exact hl

theorem Balanced.withdraw {g : Gate ι} (h : g.Balanced 0) {call : ι}
    (hr : call ∉ g.resizers) : (g.withdraw call).Balanced 0 := by
  have hl := h.remove hr
  rw [Nat.zero_add] at hl
  exact hl.addPermits

theorem Balanced.cancel {g : Gate ι} (h : g.Balanced 0) (call : ι) :
    (g.cancel call).Balanced 0 := by
  have hl := h.leave call
  rw [Nat.zero_add] at hl
  exact hl.addPermits

theorem mem_withdraw_callers {g : Gate ι} {call c : ι} :
    c ∈ (g.withdraw call).callers ↔ c ∈ g.callers ∧ c ≠ call := by
  rw [Gate.withdraw, addPermits_callers]
  exact mem_remove_callers

theorem mem_cancel_callers {g : Gate ι} {call c : ι} :
    c ∈ (g.cancel call).callers ↔ c ∈ g.callers ∧ c ≠ call := by
  rw [Gate.cancel, mem_withdraw_callers]
  exact Iff.rfl

theorem mem_cancel_resizes {g : Gate ι} {call : ι} {r : Resize ι} :
    r ∈ (g.cancel call).resizes ↔ r ∈ g.resizes ∧ r.call ≠ call :=
  mem_leave_resizes

/-- A loose permit is held. -/
theorem Balanced.countHeld {g : Gate ι} (h : g.Balanced 1) : g.countHeld.Balanced 0 := by
  have hb := h.balance
  have hcounted : g.countHeld.Counted 0 := by
    refine ⟨?_, h.idle, h.short, h.full, h.unique⟩
    simp only [Gate.countHeld, assigned, waiters] at hb ⊢
    omega
  have hpeak : g.countHeld.inFlight ≤ g.countHeld.peak := Nat.le_max_right _ _
  exact ⟨hcounted, h.capacity_pos, h.capacity_le, hpeak, h.wants, h.resizes_unique, h.targets,
    h.turns, h.begun_iff, h.shrinks⟩

theorem Balanced.collected_granted {g : Gate ι} {n : Nat} (h : g.Balanced n) {call : ι}
    (hg : g.isGranted call = true) : g.collected call = g.share call := by
  obtain ⟨w, hw, rfl⟩ := isGranted_iff.mp hg
  have hm : w ∈ g.waiters := List.mem_append_left _ hw
  rw [collected_of_mem h.unique hm, h.full w hw, h.wants w hm]

theorem Balanced.take {g : Gate ι} (h : g.Balanced 0) {call : ι} (hg : g.isGranted call = true)
    (hr : call ∉ g.resizers) : (g.take call).Balanced 0 := by
  have hl := h.remove hr
  rw [h.collected_granted hg, share_of_not_resize hr, Nat.zero_add] at hl
  exact hl.countHeld

theorem mem_take_callers {g : Gate ι} {call c : ι} :
    c ∈ (g.take call).callers ↔ c ∈ g.callers ∧ c ≠ call :=
  mem_remove_callers

theorem Balanced.tryAcquire {g g' : Gate ι} (h : g.Balanced 0) (ht : g.tryAcquire? = some g') :
    g'.Balanced 0 := by
  unfold tryAcquire? at ht
  split at ht
  · rename_i hpos
    cases ht
    apply Balanced.countHeld
    have hb := h.balance
    refine ⟨⟨?_, ?_, h.short, h.full, h.unique⟩, h.capacity_pos, h.capacity_le, h.peak_ge, h.wants,
      h.resizes_unique, h.targets, h.turns, h.begun_iff, h.shrinks⟩
    · simp only [assigned, waiters] at hb ⊢
      omega
    · intro hq
      have := h.idle hq
      omega
  · cases ht

theorem Balanced.release {g : Gate ι} (h : g.Balanced 0) (hpos : 0 < g.inFlight) :
    g.release.Balanced 0 := by
  have hb := h.balance
  have hloose : { g with inFlight := g.inFlight - 1 }.Balanced 1 := by
    refine ⟨⟨?_, h.idle, h.short, h.full, h.unique⟩, h.capacity_pos, h.capacity_le, ?_, h.wants,
      h.resizes_unique, h.targets, h.turns, h.begun_iff, h.shrinks⟩
    · simp only [assigned, waiters] at hb ⊢
      omega
    · have := h.peak_ge
      dsimp only
      omega
  exact hloose.addPermits

/-- A permit that is given back goes to the head of the queue. -/
theorem Balanced.release_next {g : Gate ι} (h : g.Balanced 0) {w : Waiter ι}
    {rest : List (Waiter ι)} (hq : g.queue = w :: rest) (hw : w.wants = 1) :
    g.release.queue = rest ∧ g.release.isGranted w.call = true := by
  have hshort := h.short
  rw [hq, List.forall_mem_cons] at hshort
  have hgot : w.got = 0 := by omega
  have hhand : hand 1 g.queue = ([{ w with got := w.wants }], rest, 0) := by
    simp [hq, hand, hw, hgot, hand_zero hshort.2]
  constructor
  · simp [Gate.release, addPermits_eq, hhand]
  · rw [isGranted_iff]
    exact ⟨{ w with got := w.wants }, by simp [Gate.release, addPermits_eq, hhand], rfl⟩

end MetricBatch.Gate
