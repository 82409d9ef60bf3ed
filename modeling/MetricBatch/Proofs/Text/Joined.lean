import Mathlib.Data.List.Basic

namespace MetricBatch.Text

variable {separator : Char} {parts : List (List Char)}

theorem forall_mem_intercalate {P : Char → Prop} (hs : P separator)
    (h : ∀ p ∈ parts, ∀ c ∈ p, P c) : ∀ c ∈ List.intercalate [separator] parts, P c := by
  induction parts with
  | nil => nofun
  | cons part rest ih =>
    cases rest with
    | nil => simpa using h
    | cons next rest =>
      have hrest := ih fun p hp => h p (List.mem_cons_of_mem _ hp)
      rw [List.intercalate_cons_cons]
      intro c hc
      rcases List.mem_append.mp hc with hfirst | hlater
      · rcases List.mem_append.mp hfirst with hpart | hsep
        · exact h part (by simp) c hpart
        · rwa [List.mem_singleton.mp hsep]
      · exact hrest c hlater

theorem length_le_intercalate (separator : Char) {part : List Char} (h : part ∈ parts) :
    part.length ≤ (List.intercalate [separator] parts).length := by
  induction parts with
  | nil => cases h
  | cons first more ih =>
    cases more with
    | nil =>
      have heq : List.intercalate [separator] [first] = part := by
        rw [List.mem_singleton.mp h, List.intercalate_singleton]
      exact Nat.le_of_eq (congrArg List.length heq.symm)
    | cons next more =>
      rw [List.intercalate_cons_cons, List.length_append, List.length_append]
      rcases List.mem_cons.mp h with rfl | hmore
      · omega
      · have hle := ih hmore
        omega

theorem count_le_intercalate (separator : Char) (parts : List (List Char)) :
    parts.length ≤ (List.intercalate [separator] parts).length + 1 := by
  induction parts with
  | nil => exact Nat.zero_le _
  | cons first more ih =>
    cases more with
    | nil => exact Nat.le_add_left _ _
    | cons next more =>
      simp only [List.intercalate_cons_cons, List.length_append, List.length_cons] at ih ⊢
      omega

/-- A text that puts the separator before each item but the first joins their texts. -/
theorem eq_intercalate {α : Type} {text : α → List Char} {joined : List α → List Char}
    (hnil : joined [] = []) (hone : ∀ a, joined [a] = text a)
    (hmore : ∀ a b rest, joined (a :: b :: rest) = text a ++ separator :: joined (b :: rest))
    (items : List α) : joined items = List.intercalate [separator] (items.map text) := by
  induction items with
  | nil => exact hnil
  | cons a rest ih =>
    cases rest with
    | nil => exact (hone a).trans List.intercalate_singleton.symm
    | cons b rest =>
      simp only [hmore, ih, List.map_cons, List.intercalate_cons_cons, List.append_assoc,
        List.singleton_append]

end MetricBatch.Text
