import MetricBatch.Gate.Basic
import Mathlib.Data.List.Nodup

namespace MetricBatch.Gate

variable {ι : Type}

theorem tally_congr {α : Type} {f f' : α → Nat} {l : List α} (h : ∀ a ∈ l, f a = f' a) :
    tally f l = tally f' l := by
  induction l with
  | nil => rfl
  | cons a rest ih =>
    rw [tally, tally, h a (by simp), ih fun b hb => h b (List.mem_cons_of_mem _ hb)]

theorem tally_map {α β : Type} (f : β → Nat) (g : α → β) (l : List α) :
    tally f (l.map g) = tally (fun a => f (g a)) l := by
  induction l with
  | nil => rfl
  | cons a rest ih => rw [List.map_cons, tally, tally, ih]

@[simp] theorem permitsOf_nil : permitsOf ([] : List (Waiter ι)) = 0 := rfl

@[simp] theorem permitsOf_cons (w : Waiter ι) (ws : List (Waiter ι)) :
    permitsOf (w :: ws) = w.got + permitsOf ws := rfl

@[simp] theorem permitsOf_append (ws ws' : List (Waiter ι)) :
    permitsOf (ws ++ ws') = permitsOf ws + permitsOf ws' := by
  induction ws with
  | nil => simp
  | cons w rest ih => simp [ih, Nat.add_assoc]

/-- Handing out neither makes nor loses permits. -/
theorem hand_permits (n : Nat) (ws : List (Waiter ι)) :
    permitsOf (hand n ws).1 + permitsOf (hand n ws).2.1 + (hand n ws).2.2 = n + permitsOf ws := by
  induction ws generalizing n with
  | nil => simp [hand]
  | cons w rest ih =>
    by_cases hw : w.wants ≤ w.got + n
    · have hrest := ih (w.got + n - w.wants)
      rcases hh : hand (w.got + n - w.wants) rest with ⟨served, queue, left⟩
      simp only [hh] at hrest
      simp only [hand, hw, ↓reduceIte, hh, permitsOf_cons]
      omega
    · simp [hand, hw]
      omega

/-- Who wants how much, and in which order, stays as it is. -/
theorem hand_wants (n : Nat) (ws : List (Waiter ι)) :
    ((hand n ws).1 ++ (hand n ws).2.1).map (fun w => (w.call, w.wants)) =
      ws.map (fun w => (w.call, w.wants)) := by
  induction ws generalizing n with
  | nil => simp [hand]
  | cons w rest ih =>
    by_cases hw : w.wants ≤ w.got + n
    · simpa [hand, hw] using ih (w.got + n - w.wants)
    · simp [hand, hw]

theorem hand_served_full {n : Nat} {ws : List (Waiter ι)} :
    ∀ w ∈ (hand n ws).1, w.got = w.wants := by
  induction ws generalizing n with
  | nil => simp [hand]
  | cons w rest ih =>
    by_cases hw : w.wants ≤ w.got + n
    · intro x hx
      simp only [hand, hw, ↓reduceIte, List.mem_cons] at hx
      rcases hx with rfl | hx
      · rfl
      · exact ih x hx
    · simp [hand, hw]

theorem hand_queue_short {n : Nat} {ws : List (Waiter ι)} (h : ∀ w ∈ ws, w.got < w.wants) :
    ∀ w ∈ (hand n ws).2.1, w.got < w.wants := by
  induction ws generalizing n with
  | nil => simp [hand]
  | cons w rest ih =>
    have hrest : ∀ x ∈ rest, x.got < x.wants := fun x hx => h x (List.mem_cons_of_mem _ hx)
    by_cases hw : w.wants ≤ w.got + n
    · simpa [hand, hw] using ih (n := w.got + n - w.wants) hrest
    · intro x hx
      simp only [hand, hw, ↓reduceIte, List.mem_cons] at hx
      rcases hx with rfl | hx
      · exact Nat.lt_of_not_le hw
      · exact hrest x hx

/-- Permits are left over only when nobody waits any more. -/
theorem hand_left {n : Nat} {ws : List (Waiter ι)} (h : (hand n ws).2.1 ≠ []) :
    (hand n ws).2.2 = 0 := by
  induction ws generalizing n with
  | nil => simp [hand] at h
  | cons w rest ih =>
    by_cases hw : w.wants ≤ w.got + n
    · simp only [hand, hw, ↓reduceIte] at h ⊢
      exact ih h
    · simp [hand, hw]

theorem hand_zero {ws : List (Waiter ι)} (h : ∀ w ∈ ws, w.got < w.wants) :
    hand 0 ws = ([], ws, 0) := by
  cases ws with
  | nil => rfl
  | cons w rest =>
    have hw := h w (by simp)
    simp [hand, Nat.not_le_of_gt hw]

variable [DecidableEq ι]

theorem mem_removeCall {call : ι} {ws : List (Waiter ι)} {w : Waiter ι} :
    w ∈ removeCall call ws ↔ w ∈ ws ∧ w.call ≠ call := by
  simp [removeCall]

theorem removeCall_append (call : ι) (ws ws' : List (Waiter ι)) :
    removeCall call (ws ++ ws') = removeCall call ws ++ removeCall call ws' := by
  simp [removeCall]

theorem removeCall_eq_self {call : ι} {ws : List (Waiter ι)} (h : call ∉ ws.map (·.call)) :
    removeCall call ws = ws := by
  apply List.filter_eq_self.mpr
  intro w hw
  have hne : w.call ≠ call := fun he => h (List.mem_map.mpr ⟨w, hw, he⟩)
  simpa using hne

theorem removeCall_calls (call : ι) (ws : List (Waiter ι)) :
    (removeCall call ws).map (·.call) = (ws.map (·.call)).filter (· != call) := by
  simp [removeCall, List.filter_map, Function.comp_def]

theorem permitsOf_removeCall (call : ι) (ws : List (Waiter ι)) :
    permitsOf (removeCall call ws) + permitsOf (ws.filter (·.call == call)) = permitsOf ws := by
  induction ws with
  | nil => rfl
  | cons w rest ih =>
    by_cases hw : w.call = call
    · simp [removeCall, hw] at ih ⊢
      omega
    · simp [removeCall, hw] at ih ⊢
      omega

theorem filter_removeCall {call c : ι} (hne : c ≠ call) (ws : List (Waiter ι)) :
    (removeCall call ws).filter (·.call == c) = ws.filter (·.call == c) := by
  rw [removeCall, List.filter_filter]
  apply List.filter_congr
  intro w _
  by_cases hw : w.call = c
  · simp [hw, hne]
  · simp [hw]

/-- The permits of all calls are those of each call, added up. -/
theorem permitsOf_by_call {calls : List ι} (hn : calls.Nodup) {ws : List (Waiter ι)}
    (h : ∀ w ∈ ws, w.call ∈ calls) :
    tally (fun c => permitsOf (ws.filter (·.call == c))) calls = permitsOf ws := by
  induction calls generalizing ws with
  | nil =>
    have hnil : ws = [] := List.eq_nil_iff_forall_not_mem.mpr fun w hw => by simpa using h w hw
    simp [hnil, tally]
  | cons call rest ih =>
    rw [List.nodup_cons] at hn
    have hrest : ∀ w ∈ removeCall call ws, w.call ∈ rest := by
      intro w hw
      obtain ⟨hm, hne⟩ := mem_removeCall.mp hw
      simpa [hne] using h w hm
    have hsame : ∀ c ∈ rest, permitsOf ((removeCall call ws).filter (·.call == c)) =
        permitsOf (ws.filter (·.call == c)) := by
      intro c hc
      have hne : c ≠ call := fun he => hn.1 (he ▸ hc)
      rw [filter_removeCall hne]
    have hsum := ih hn.2 hrest
    rw [tally_congr hsame] at hsum
    have hsplit := permitsOf_removeCall call ws
    simp only [tally]
    omega

/-- Where no call stands twice, a call has what it stands there with. -/
theorem permitsOf_call {ws : List (Waiter ι)} (hu : (ws.map (·.call)).Nodup) {w : Waiter ι}
    (hw : w ∈ ws) : permitsOf (ws.filter (·.call == w.call)) = w.got := by
  induction ws with
  | nil => simp at hw
  | cons x rest ih =>
    simp only [List.map_cons, List.nodup_cons] at hu
    rcases List.mem_cons.mp hw with rfl | hm
    · have hnone : rest.filter (·.call == w.call) = [] := by
        apply List.filter_eq_nil_iff.mpr
        intro y hy he
        exact hu.1 (List.mem_map.mpr ⟨y, hy, by simpa using he⟩)
      simp [hnone]
    · have hne : x.call ≠ w.call := fun he => hu.1 (List.mem_map.mpr ⟨w, hm, he.symm⟩)
      simpa [hne] using ih hu.2 hm

end MetricBatch.Gate
