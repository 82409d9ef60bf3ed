import MetricBatch.Results.Response
import Mathlib.Data.List.Forall2

namespace MetricBatch.Response

open Json

section

variable {α β : Type} {error : ResponseError}

@[simp]
theorem ok_bind (a : α) (f : α → Check β) : ((.ok a : Check α) >>= f) = f a := rfl

theorem bind_eq_ok {x : Check α} {f : α → Check β} {b : β} :
    x >>= f = .ok b ↔ ∃ a, x = .ok a ∧ f a = .ok b := by
  cases x with
  | error e => exact ⟨nofun, fun ⟨_, h, _⟩ => nomatch h⟩
  | ok a => exact ⟨fun h => ⟨a, rfl, h⟩, fun ⟨_, ha, h⟩ => Except.ok.inj ha ▸ h⟩

theorem require_eq_ok {o : Option α} {a : α} : require error o = .ok a ↔ o = some a := by
  cases o <;> simp [require]

theorem pure_eq_ok {a b : α} : (pure a : Check α) = .ok b ↔ b = a :=
  ⟨fun h => (Except.ok.inj h).symm, fun h => congrArg _ h.symm⟩

theorem mapM_eq_ok {f : α → Check β} {l : List α} {bs : List β} :
    l.mapM f = .ok bs ↔ List.Forall₂ (fun a b => f a = .ok b) l bs := by
  induction l generalizing bs with
  | nil => rw [List.mapM_nil, pure_eq_ok, List.forall₂_nil_left_iff]
  | cons a rest ih =>
    simp only [List.mapM_cons, bind_eq_ok, ih, pure_eq_ok, List.forall₂_cons_left_iff]
    constructor
    · rintro ⟨b, hb, more, hmore, rfl⟩
      exact ⟨b, more, hb, hmore, rfl⟩
    · rintro ⟨b, more, hb, hmore, rfl⟩
      exact ⟨b, hb, more, hmore, rfl⟩

theorem mapM_map {γ : Type} {f : β → Check γ} {g : α → β} {f' : α → Check γ}
    (h : ∀ a, f (g a) = f' a) (l : List α) : (l.map g).mapM f = l.mapM f' := by
  induction l with
  | nil => rfl
  | cons a rest ih => simp only [List.map_cons, List.mapM_cons, h, ih]

theorem exists_forall₂ {R : α → β → Prop} {l : List α} :
    (∃ bs, List.Forall₂ R l bs) ↔ ∀ a ∈ l, ∃ b, R a b := by
  induction l with
  | nil => simp
  | cons a rest ih =>
    rw [List.forall_mem_cons, ← ih]
    constructor
    · rintro ⟨_, h⟩
      cases h with
      | cons hb hmore => exact ⟨⟨_, hb⟩, _, hmore⟩
    · rintro ⟨⟨b, hb⟩, more, hmore⟩
      exact ⟨b :: more, .cons hb hmore⟩

end

theorem object?_eq_some {v : Value} {members : Dictionary Value} :
    v.object? = some members ↔ v = .object members := by
  cases v <;> simp [Value.object?]

theorem array?_eq_some {v : Value} {items : List Value} :
    v.array? = some items ↔ v = .array items := by
  cases v <;> simp [Value.array?]

theorem string?_eq_some {v : Value} {text : String} :
    v.string? = some text ↔ v = .string text := by
  cases v <;> simp [Value.string?]

theorem ofName?_eq_some {name : String} {kind : ResultKind} :
    ResultKind.ofName? name = some kind ↔ name = kind.name := by
  constructor
  · intro h
    unfold ResultKind.ofName? at h
    split at h <;> cases h <;> rfl
  · rintro rfl
    cases kind <;> rfl

theorem stringField_eq_ok {members : Dictionary Value} {path key text : String} :
    stringField members path key = .ok text ↔ members.get? key = some (.string text) := by
  simp only [stringField, bind_eq_ok, require_eq_ok, string?_eq_some]
  constructor
  · rintro ⟨_, h, rfl⟩
    exact h
  · exact fun h => ⟨_, h, rfl⟩

theorem objectField_eq_ok {members inner : Dictionary Value} {key : String} :
    objectField members key = .ok inner ↔ members.get? key = some (.object inner) := by
  simp only [objectField, bind_eq_ok, require_eq_ok, object?_eq_some]
  constructor
  · rintro ⟨_, h, rfl⟩
    exact h
  · exact fun h => ⟨_, h, rfl⟩

end MetricBatch.Response
