import MetricBatch.Text.Blank
import Mathlib.Data.List.DropRight

namespace MetricBatch.Text

variable {cs more pattern : List Char}

/-- What is left of a text without the blanks at its ends. -/
structure Trimmed (cs text : List Char) : Prop where
  parts : ∃ left right, cs = left ++ text ++ right ∧
    (∀ c ∈ left, isBlank c = true) ∧ ∀ c ∈ right, isBlank c = true
  first : ∀ c ∈ text.head?, isBlank c = false
  last : ∀ c ∈ text.getLast?, isBlank c = false

theorem trimRight_eq (cs : List Char) : trimRight cs = cs.rdropWhile isBlank := rfl

theorem trimRight_starts (cs : List Char) : trimRight cs <+: cs := List.rdropWhile_prefix isBlank cs

theorem trimLeft_head {c : Char} (h : (trimLeft cs).head? = some c) : isBlank c = false := by
  have hhead := List.head?_dropWhile_not isBlank cs
  rw [trimLeft] at h
  simpa [h] using hhead

theorem trimRight_last {c : Char} (h : (trimRight cs).getLast? = some c) : isBlank c = false := by
  obtain ⟨hne, rfl⟩ := List.mem_getLast?_eq_getLast h
  exact Bool.eq_false_iff.mpr (List.rdropWhile_last_not isBlank cs hne)

theorem trimmed_trim (cs : List Char) : Trimmed cs (trim cs) where
  parts := by
    have hright : trim cs ++ (trimLeft cs).rtakeWhile isBlank = trimLeft cs :=
      List.rdropWhile_append_rtakeWhile ..
    refine ⟨cs.takeWhile isBlank, (trimLeft cs).rtakeWhile isBlank, ?_, ?_, ?_⟩
    · rw [List.append_assoc, hright]
      exact List.takeWhile_append_dropWhile.symm
    · exact fun _ hc => List.mem_takeWhile_imp hc
    · exact fun _ hc => List.mem_rtakeWhile_imp hc
  first := by
    intro c hc
    obtain ⟨more, hmore⟩ := trimRight_starts (trimLeft cs)
    have hfirst : (trimLeft cs).head? = some c := by
      rw [← hmore, List.head?_append]
      exact Option.or_eq_some_iff.mpr (.inl hc)
    exact trimLeft_head hfirst
  last := fun _ hc => trimRight_last hc

/-- A pattern that does not end in a blank cannot be cut by trimming on the right. -/
theorem prefix_trimRight (hne : pattern ≠ []) (hlast : isBlank (pattern.getLast hne) = false) :
    pattern <+: trimRight cs ↔ pattern <+: cs := by
  refine ⟨fun h => h.trans (trimRight_starts cs), ?_⟩
  rintro ⟨more, rfl⟩
  rw [trimRight_eq]
  induction more using List.reverseRecOn with
  | nil =>
    have hself : pattern.rdropWhile isBlank = pattern :=
      List.rdropWhile_eq_self_iff.mpr fun _ => by simp [hlast]
    rw [List.append_nil]
    exact hself.symm ▸ List.prefix_rfl
  | append_singleton more c ih =>
    rw [← List.append_assoc, List.rdropWhile_concat]
    split
    · exact ih
    · rw [List.append_assoc]
      exact List.prefix_append ..

theorem trimLeft_append (h : trimLeft cs ≠ []) (more : List Char) :
    trimLeft (cs ++ more) = trimLeft cs ++ more := by
  unfold trimLeft at h ⊢
  rw [List.dropWhile_append, if_neg (by simpa using h)]

theorem prefix_trim_append (hne : pattern ≠ []) (hlast : isBlank (pattern.getLast hne) = false)
    (h : pattern <+: trim cs) (more : List Char) : pattern <+: trim (cs ++ more) := by
  have hleft : pattern <+: trimLeft cs := (prefix_trimRight hne hlast).mp h
  have hstarts : trimLeft cs ≠ [] := by
    intro hnil
    rw [hnil, List.prefix_nil] at hleft
    exact hne hleft
  rw [trim, prefix_trimRight hne hlast, trimLeft_append hstarts]
  exact hleft.trans (List.prefix_append ..)

theorem trim_concat {c : Char} (hc : isBlank c = true) : trim (cs ++ [c]) = trim cs := by
  by_cases h : trimLeft cs = []
  · have hall : trimLeft (cs ++ [c]) = [] := by
      unfold trimLeft at h ⊢
      rw [List.dropWhile_append, h]
      simp [hc]
    rw [trim, trim, h, hall]
  · rw [trim, trimLeft_append h]
    exact List.rdropWhile_concat_pos isBlank _ c hc

end MetricBatch.Text
