import Mathlib.Data.List.Basic
import Mathlib.Data.List.Induction

namespace MetricBatch

variable {α : Type}

/-- A list has been put together from some others. Each of its elements was the next one of one of
these, which keep their order. -/
inductive Merges : List (List α) → List α → Prop where
  | nil {parts : List (List α)} (h : ∀ part ∈ parts, part = []) : Merges parts []
  | cons {parts : List (List α)} {i : Nat} {a : α} {rest l : List α}
    (hi : parts[i]? = some (a :: rest)) (h : Merges (parts.set i rest) l) : Merges parts (a :: l)

namespace Merges

variable {parts : List (List α)} {l : List α}

/-- One more element comes to the end of one of the lists. -/
theorem snoc (h : Merges parts l) {i : Nat} {part : List α} (hi : parts[i]? = some part) (a : α) :
    Merges (parts.set i (part ++ [a])) (l ++ [a]) := by
  have hlt := (List.getElem?_eq_some_iff.mp hi).1
  induction h generalizing part with
  | @nil parts h =>
    obtain rfl : part = [] := h part (List.mem_of_getElem? hi)
    have hnext : (parts.set i ([] ++ [a]))[i]? = some [a] := by simp [hlt]
    refine .cons hnext (.nil fun x hx => ?_)
    rw [List.set_set] at hx
    exact (List.mem_or_eq_of_mem_set hx).elim (h x) id
  | @cons parts j b rest l hj h ih =>
    by_cases hij : i = j
    · subst hij
      obtain rfl : part = b :: rest := by simpa [hj] using hi.symm
      have hhere : (parts.set i rest)[i]? = some rest := by simp [hlt]
      have hnext : (parts.set i (b :: rest ++ [a]))[i]? = some (b :: (rest ++ [a])) := by simp [hlt]
      have hlater := ih hhere (by simpa using hlt)
      refine .cons hnext ?_
      rwa [List.set_set] at hlater ⊢
    · have hhere : (parts.set j rest)[i]? = some part := by
        rwa [List.getElem?_set_ne (Ne.symm hij)]
      have hnext : (parts.set i (part ++ [a]))[j]? = some (b :: rest) := by
        rwa [List.getElem?_set_ne hij]
      have hlater := ih hhere (by simpa using hlt)
      refine .cons hnext ?_
      rwa [List.set_comm _ _ hij]

theorem append (h : Merges parts l) {i : Nat} {part : List α} (hi : parts[i]? = some part)
    (more : List α) : Merges (parts.set i (part ++ more)) (l ++ more) := by
  obtain ⟨hlt, hget⟩ := List.getElem?_eq_some_iff.mp hi
  induction more using List.reverseRecOn with
  | nil =>
    subst hget
    simpa using h
  | append_singleton rest a ih =>
    have hhere : (parts.set i (part ++ rest))[i]? = some (part ++ rest) := by simp [hlt]
    have hnext := ih.snoc hhere a
    rwa [List.set_set, List.append_assoc, List.append_assoc] at hnext

/-- Each of some has a list. One of them goes on, and its list with it. -/
theorem set {β : Type} {xs : List β} {f : β → List α} (h : Merges (xs.map f) l) {i : Nat} {x y : β}
    (hi : xs[i]? = some x) {more : List α} (hy : f y = f x ++ more) :
    Merges ((xs.set i y).map f) (l ++ more) := by
  have hpart : (xs.map f)[i]? = some (f x) := by rw [List.getElem?_map, hi, Option.map_some]
  rw [List.map_set, hy]
  exact h.append hpart more

/-- A list that has no elements yet changes nothing. -/
theorem join (h : Merges parts l) : Merges (parts ++ [[]]) l := by
  induction h with
  | nil h => exact .nil fun part hp => by simpa using (List.mem_append.mp hp).imp_left (h part)
  | @cons parts i a rest l hi h ih =>
    have hlt := (List.getElem?_eq_some_iff.mp hi).1
    refine .cons (i := i) (by rwa [List.getElem?_append_left hlt]) ?_
    rwa [List.set_append_left i rest hlt]

/-- No element is lost, and none comes twice. -/
theorem perm (h : Merges parts l) : l.Perm parts.flatten := by
  induction h with
  | nil h => rw [List.flatten_eq_nil_iff.mpr h]
  | @cons parts i a rest l hi h ih =>
    obtain ⟨hlt, hget⟩ := List.getElem?_eq_some_iff.mp hi
    have hsplit : parts.flatten.Perm (a :: (parts.set i rest).flatten) := by
      rw [List.set_eq_take_append_cons_drop, if_pos hlt]
      nth_rewrite 1 [← List.take_append_drop i parts]
      rw [List.drop_eq_getElem_cons hlt, hget]
      simp only [List.flatten_append, List.flatten_cons, List.cons_append]
      exact List.perm_middle
    exact (ih.cons a).trans hsplit.symm

/-- Each list keeps its own order. -/
theorem sublist (h : Merges parts l) {part : List α} (hp : part ∈ parts) : part.Sublist l := by
  induction h generalizing part with
  | nil h => rw [h part hp]
  | @cons parts i a rest l hi h ih =>
    have hlt := (List.getElem?_eq_some_iff.mp hi).1
    obtain ⟨j, hj⟩ := List.mem_iff_getElem?.mp hp
    by_cases hij : i = j
    · subst hij
      obtain rfl : part = a :: rest := by simpa [hi] using hj.symm
      exact (ih (List.mem_of_getElem? (i := i) (by simp [hlt]))).cons_cons a
    · have hkept : (parts.set i rest)[j]? = some part := by rwa [List.getElem?_set_ne hij]
      exact (ih (List.mem_of_getElem? hkept)).cons a

end Merges

end MetricBatch
