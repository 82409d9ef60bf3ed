import MetricBatch.Number.Natural

namespace MetricBatch.Natural

/-- A text for a number. -/
def Denotes (cs : List Char) (n : Nat) : Prop :=
  ∃ digits, (cs = digits ∨ cs = '+' :: digits) ∧ digits ≠ [] ∧
    (∀ c ∈ digits, c.isDigit = true) ∧ Nat.ofDigitChars 10 digits 0 = n

theorem le_ofDigitChars (cs : List Char) (sofar : Nat) : sofar ≤ Nat.ofDigitChars 10 cs sofar := by
  induction cs generalizing sofar with
  | nil => exact Nat.le_refl sofar
  | cons c cs ih =>
    have hle := ih (10 * sofar + (c.toNat - '0'.toNat))
    rw [Nat.ofDigitChars_cons]
    omega

theorem readDigits_ok_iff {bound sofar n : Nat} {cs : List Char} (h : sofar ≤ bound) :
    readDigits bound sofar cs = .ok n ↔
      (∀ c ∈ cs, c.isDigit = true) ∧ Nat.ofDigitChars 10 cs sofar = n ∧ n ≤ bound := by
  induction cs generalizing sofar with
  | nil =>
    rw [readDigits, Except.ok.injEq, Nat.ofDigitChars_nil]
    constructor
    · rintro rfl
      exact ⟨nofun, rfl, h⟩
    · exact fun hn => hn.2.1
  | cons c cs ih =>
    rw [readDigits, digit?, Nat.ofDigitChars_cons, List.forall_mem_cons, Nat.mul_comm 10 sofar]
    by_cases hc : c.isDigit = true
    · rw [if_pos hc]
      dsimp only
      split
      · rename_i hle
        rw [ih hle]
        exact ⟨fun hn => ⟨⟨hc, hn.1⟩, hn.2⟩, fun hn => ⟨hn.1.2, hn.2⟩⟩
      · rename_i hgt
        constructor
        · nofun
        · rintro ⟨_, rfl, hn⟩
          exact absurd (Nat.le_trans (le_ofDigitChars cs _) hn) hgt
    · rw [if_neg hc]
      exact ⟨nofun, fun hn => absurd hn.1.1 hc⟩

theorem read_ok_iff {bound n : Nat} {cs : List Char} :
    read bound cs = .ok n ↔ Denotes cs n ∧ n ≤ bound := by
  unfold read
  split
  · constructor
    · nofun
    · rintro ⟨⟨digits, rfl | hplus, hne, _⟩, _⟩
      · exact absurd rfl hne
      · cases hplus
  · constructor
    · nofun
    · rintro ⟨⟨digits, rfl | hplus, hne, hdigits, _⟩, _⟩
      · exact absurd (hdigits '+' (by simp)) (by decide)
      · exact absurd (List.cons.inj hplus).2.symm hne
  · rename_i rest hne
    rw [readDigits_ok_iff (Nat.zero_le bound)]
    constructor
    · rintro ⟨hdigits, hn, hle⟩
      exact ⟨⟨rest, .inr rfl, fun hnil => hne (by rw [hnil]), hdigits, hn⟩, hle⟩
    · rintro ⟨⟨digits, rfl | hplus, _, hdigits, hn⟩, hle⟩
      · exact absurd (hdigits '+' (by simp)) (by decide)
      · rw [(List.cons.inj hplus).2]
        exact ⟨hdigits, hn, hle⟩
  · rename_i hnil hplus hsigned
    rw [readDigits_ok_iff (Nat.zero_le bound)]
    constructor
    · rintro ⟨hdigits, hn, hle⟩
      exact ⟨⟨cs, .inl rfl, hnil, hdigits, hn⟩, hle⟩
    · rintro ⟨⟨digits, rfl | heq, _, hdigits, hn⟩, hle⟩
      · exact ⟨hdigits, hn, hle⟩
      · exact absurd heq (hsigned digits)

end MetricBatch.Natural
