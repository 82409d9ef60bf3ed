import MetricBatch.Dictionary
import Mathlib.Data.String.Basic

namespace MetricBatch.Dictionary

variable {α : Type} {d d' : Dictionary α}

theorem get?_eq_none {key : String} (h : ∀ e ∈ d, e.1 ≠ key) : d.get? key = none := by
  induction d with
  | nil => rfl
  | cons e rest ih =>
    rw [List.forall_mem_cons] at h
    rw [get?, if_neg h.1]
    exact ih h.2

theorem mem_of_get? {key : String} {value : α} (h : d.get? key = some value) :
    (key, value) ∈ d := by
  induction d with
  | nil => cases h
  | cons e rest ih =>
    rw [get?] at h
    split at h
    · rename_i hk
      cases h
      simp [← hk]
    · exact List.mem_cons_of_mem _ (ih h)

theorem get?_put (key : String) (value : α) (d : Dictionary α) (name : String) :
    (put key value d).get? name = if key = name then some value else d.get? name := by
  induction d with
  | nil => rfl
  | cons e rest ih =>
    obtain ⟨k, v⟩ := e
    unfold put
    split
    · rfl
    · split
      · rename_i _ he
        simp only [get?, he]
        split <;> rfl
      · rename_i _ hne
        simp only [get?, ih]
        by_cases hk : k = name
        · have hother : ¬key = name := fun he => hne (he.trans hk.symm)
          simp [hk, hother]
        · simp [hk]

theorem mem_put {key : String} {value : α} {d : Dictionary α} {e : String × α}
    (h : e ∈ put key value d) : e = (key, value) ∨ e ∈ d := by
  induction d with
  | nil => exact .inl (List.mem_singleton.mp h)
  | cons x rest ih =>
    unfold put at h
    split at h
    · exact (List.mem_cons.mp h)
    · split at h
      · exact (List.mem_cons.mp h).imp_right (List.mem_cons_of_mem _)
      · rcases List.mem_cons.mp h with rfl | hm
        · exact .inr (by simp)
        · exact (ih hm).imp_right (List.mem_cons_of_mem _)

theorem Ascending.put (h : d.Ascending) (key : String) (value : α) :
    (put key value d).Ascending := by
  induction d with
  | nil => exact List.pairwise_singleton ..
  | cons e rest ih =>
    obtain ⟨k, v⟩ := e
    have hrest := List.pairwise_cons.mp h
    unfold Dictionary.put
    split
    · rename_i hlt
      refine List.pairwise_cons.mpr ⟨?_, h⟩
      intro x hx
      rcases List.mem_cons.mp hx with rfl | hm
      · exact hlt
      · exact String.lt_trans hlt (hrest.1 x hm)
    · split
      · rename_i _ he
        exact List.pairwise_cons.mpr ⟨fun x hx => he ▸ hrest.1 x hx, hrest.2⟩
      · rename_i hnlt hne
        have hlt : k < key := ((lt_trichotomy key k).resolve_left hnlt).resolve_left hne
        refine List.pairwise_cons.mpr ⟨?_, ih hrest.2⟩
        intro x hx
        rcases mem_put hx with rfl | hm
        · exact hlt
        · exact hrest.1 x hm

theorem Ascending.get?_tail {e : String × α} {rest : Dictionary α}
    (h : Ascending (e :: rest)) : rest.get? e.1 = none := by
  apply get?_eq_none
  intro x hx he
  exact String.lt_irrefl _ (he ▸ (List.pairwise_cons.mp h).1 x hx)

/-- The first key of a dictionary is the least. -/
theorem Ascending.head_le {e : String × α} {rest : Dictionary α} (h : Ascending (e :: rest))
    (key : String) (hk : (Dictionary.get? key (e :: rest)).isSome = true) : ¬key < e.1 := by
  intro hlt
  have hnone : Dictionary.get? key (e :: rest) = none := by
    apply get?_eq_none
    intro x hx he
    rcases List.mem_cons.mp hx with rfl | hm
    · exact String.lt_irrefl _ (he ▸ hlt)
    · exact String.lt_asymm hlt (he ▸ (List.pairwise_cons.mp h).1 x hm)
  simp [hnone] at hk

theorem Ascending.ext (h : d.Ascending) (h' : d'.Ascending)
    (he : ∀ key, d.get? key = d'.get? key) : d = d' := by
  induction d generalizing d' with
  | nil =>
    cases d' with
    | nil => rfl
    | cons e rest => simpa [get?] using he e.1
  | cons e rest ih =>
    cases d' with
    | nil => simpa [get?] using he e.1
    | cons e' rest' =>
      have hkey : e.1 = e'.1 := by
        have hle := h.head_le e'.1 (by rw [he]; simp [get?])
        have hle' := h'.head_le e.1 (by rw [← he]; simp [get?])
        exact ((lt_trichotomy e.1 e'.1).resolve_left hle').resolve_right hle
      have hvalue : e.2 = e'.2 := by simpa [get?, hkey] using he e.1
      have hrest : rest = rest' := by
        apply ih (List.pairwise_cons.mp h).2 (List.pairwise_cons.mp h').2
        intro key
        by_cases hk : e.1 = key
        · rw [← hk, h.get?_tail, hkey, h'.get?_tail]
        · simpa [get?, hk, hkey ▸ hk] using he key
      rw [Prod.ext hkey hvalue, hrest]

theorem put_last {key : String} (value : α) (h : ∀ e ∈ d, e.1 < key) :
    put key value d = d ++ [(key, value)] := by
  induction d with
  | nil => rfl
  | cons e rest ih =>
    obtain ⟨hfirst, hrest⟩ := List.forall_mem_cons.mp h
    rw [put, if_neg (String.lt_asymm hfirst), if_neg (fun he => String.lt_irrefl _ (he ▸ hfirst)),
      ih hrest, List.cons_append]

theorem foldl_put {sofar : Dictionary α} (h : Ascending (sofar ++ d)) :
    d.foldl (fun d (k, v) => put k v d) sofar = sofar ++ d := by
  induction d generalizing sofar with
  | nil => simp
  | cons e rest ih =>
    obtain ⟨key, value⟩ := e
    obtain ⟨-, -, hbefore⟩ := List.pairwise_append.mp h
    have hput : put key value sofar = sofar ++ [(key, value)] :=
      put_last value fun x hx => hbefore x hx (key, value) (by simp)
    have hnext : Ascending (sofar ++ [(key, value)] ++ rest) := by simpa using h
    change rest.foldl (fun d (k, v) => put k v d) (put key value sofar) = _
    rw [hput, ih hnext, List.append_assoc, List.singleton_append]

/-- Entries in order make a dictionary as they stand. -/
theorem Ascending.ofList_eq (h : d.Ascending) : ofList d = d := by
  have hempty : Ascending ([] ++ d) := h
  exact foldl_put hempty

/-- An entry of a dictionary is what is under its key. -/
theorem Ascending.mem_iff (h : d.Ascending) {key : String} {value : α} :
    (key, value) ∈ d ↔ d.get? key = some value := by
  induction d with
  | nil => simp [get?]
  | cons e rest ih =>
    have hrest := ih (List.pairwise_cons.mp h).2
    rw [List.mem_cons, hrest, get?]
    by_cases hk : e.1 = key
    · subst hk
      simp [h.get?_tail, Prod.ext_iff, eq_comm]
    · have hne : (key, value) ≠ e := fun he => hk (congrArg Prod.fst he).symm
      simp [hk, hne]

end MetricBatch.Dictionary
