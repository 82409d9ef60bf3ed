
namespace MetricBatch

variable {σ μ : Type} {move : σ → μ → σ} {allowed : μ → Prop} {s s' s'' : σ}

/-- Some moves, all of them allowed, lead from the one state to the other. -/
def Leads (move : σ → μ → σ) (allowed : μ → Prop) (s s' : σ) : Prop :=
  ∃ moves : List μ, (∀ m ∈ moves, allowed m) ∧ moves.foldl move s = s'

theorem Leads.refl (s : σ) : Leads move allowed s s := ⟨[], nofun, rfl⟩

theorem leads_move {m : μ} (h : allowed m) : Leads move allowed s (move s m) :=
  ⟨[m], by simpa using h, rfl⟩

theorem Leads.trans (h : Leads move allowed s s') (h' : Leads move allowed s' s'') :
    Leads move allowed s s'' := by
  obtain ⟨moves, hm, rfl⟩ := h
  obtain ⟨more, hm', rfl⟩ := h'
  refine ⟨moves ++ more, ?_, List.foldl_append⟩
  intro m hmem
  rcases List.mem_append.mp hmem with hm₁ | hm₂
  · exact hm m hm₁
  · exact hm' m hm₂

theorem Leads.mono {allowed' : μ → Prop} (h : Leads move allowed s s')
    (hm : ∀ m, allowed m → allowed' m) : Leads move allowed' s s' := by
  obtain ⟨moves, hmoves, he⟩ := h
  exact ⟨moves, fun m hmem => hm m (hmoves m hmem), he⟩

/-- A fold leads to where each of its steps leads. -/
theorem leads_foldl {α : Type} {f : σ → α → σ} (h : ∀ s a, Leads move allowed s (f s a))
    (l : List α) (s : σ) : Leads move allowed s (l.foldl f s) := by
  induction l generalizing s with
  | nil => exact .refl s
  | cons a rest ih => exact (h s a).trans (ih (f s a))

end MetricBatch
