import MetricBatch.Proofs.Number.Binary64

namespace MetricBatch.Binary64

theorem natPow_pos {b : Nat} (hb : 0 < b) (n : Nat) : 0 < Nat.pow b n := Nat.pow_pos hb

theorem natPow_add (b m n : Nat) : Nat.pow b (m + n) = Nat.pow b m * Nat.pow b n := Nat.pow_add b m n

theorem natPow_le {b m n : Nat} (hb : 0 < b) (h : m ≤ n) : Nat.pow b m ≤ Nat.pow b n :=
  Nat.pow_le_pow_right hb h

theorem significand_lt (word : Nat) : significand word < 2 * Nat.pow 2 52 := by
  unfold significand shift
  have hunit : 0 < Nat.pow 2 52 := natPow_pos (by decide) 52
  have hparts := Nat.div_add_mod' word (Nat.pow 2 52)
  have hlow := Nat.mod_lt word hunit
  rw [Nat.sub_mul, Nat.one_mul]
  omega

theorem le_significand {word : Nat} (h : 0 < shift word) :
    Nat.pow 2 52 ≤ significand word := by
  unfold shift at h
  unfold significand shift
  have hparts := Nat.div_mul_le_self word (Nat.pow 2 52)
  have hone : 1 * Nat.pow 2 52 ≤ word / Nat.pow 2 52 * Nat.pow 2 52 :=
    Nat.mul_le_mul_right _ (by omega)
  rw [Nat.sub_mul]
  omega

theorem shift_add_significand (word : Nat) :
    shift word * Nat.pow 2 52 + significand word = word := by
  unfold significand
  have hle : shift word * Nat.pow 2 52 ≤ word :=
    Nat.le_trans (Nat.mul_le_mul_right _ (Nat.sub_le _ _)) (Nat.div_mul_le_self _ _)
  omega

/-- The significand has 53 bits, so that the other bits of the magnitude are the shift. -/
theorem log2_units (word : Nat) : (units word).log2 - 52 = shift word := by
  have hdouble : Nat.pow 2 53 = 2 * Nat.pow 2 52 := by decide
  have hhigh : units word < Nat.pow 2 (53 + shift word) := by
    rw [natPow_add, hdouble]
    exact Nat.mul_lt_mul_of_pos_right (significand_lt word) (natPow_pos (by decide) _)
  by_cases hzero : units word = 0
  · have hsignificand : significand word = 0 :=
      (Nat.mul_eq_zero.mp hzero).resolve_right (Nat.ne_of_gt (natPow_pos (by decide) _))
    have hshift : shift word = 0 := by
      refine Nat.eq_zero_of_not_pos fun hpos => ?_
      have hle := le_significand hpos
      have hunit : 0 < Nat.pow 2 52 := natPow_pos (by decide) 52
      omega
    rw [hzero, hshift]
    rfl
  · have hlt : (units word).log2 < 53 + shift word := (Nat.log2_lt hzero).mpr hhigh
    by_cases hshift : shift word = 0
    · omega
    · have hlow : Nat.pow 2 (52 + shift word) ≤ units word := by
        rw [natPow_add]
        exact Nat.mul_le_mul_right _ (le_significand (Nat.pos_of_ne_zero hshift))
      have hle : 52 + shift word ≤ (units word).log2 := (Nat.le_log2 hzero).mpr hlow
      omega

theorem roundHalfEven_mul (q : Nat) {den : Nat} (h : 0 < den) : roundHalfEven (q * den) den = q := by
  simp [roundHalfEven, Nat.mul_div_cancel q h, h]

theorem div_le_roundHalfEven (num den : Nat) : num / den ≤ roundHalfEven num den := by
  unfold roundHalfEven
  dsimp only
  split
  · exact Nat.le_refl _
  · split <;> omega

/-- The magnitude of a word is rounded to the word, however its ratio is written. -/
theorem nearestWord_exact {num den word : Nat} (hden : 0 < den)
    (h : num * unitsPerOne = units word * den) : nearestWord num den = word := by
  have hdiv : units word * den / den = units word := Nat.mul_div_cancel _ hden
  have hsplit : units word * den = significand word * (den * Nat.pow 2 (shift word)) := by
    rw [units, Nat.mul_assoc, Nat.mul_comm den]
  have hpos : 0 < den * Nat.pow 2 (shift word) := Nat.mul_pos hden (natPow_pos (by decide) _)
  unfold nearestWord
  dsimp only
  rw [h, hdiv, log2_units, hsplit, roundHalfEven_mul _ hpos, shift_add_significand]

/-- A large ratio has a large word. -/
theorem le_nearestWord {num den bits : Nat} (hbits : 52 ≤ bits)
    (h : Nat.pow 2 bits ≤ num * unitsPerOne / den) :
    (bits - 51) * Nat.pow 2 52 ≤ nearestWord num den := by
  let q := num * unitsPerOne / den
  have hq : q ≠ 0 := Nat.ne_of_gt (Nat.lt_of_lt_of_le (natPow_pos (by decide) bits) h)
  have hlog : bits ≤ q.log2 := (Nat.le_log2 hq).mpr h
  let k := q.log2 - 52
  have hround : Nat.pow 2 52 ≤ roundHalfEven (num * unitsPerOne) (den * Nat.pow 2 k) := by
    refine Nat.le_trans ?_ (div_le_roundHalfEven _ _)
    rw [← Nat.div_div_eq_div_mul, Nat.le_div_iff_mul_le (natPow_pos (by decide) k), ← natPow_add]
    have hsum : 52 + k = q.log2 := by omega
    rw [hsum]
    exact Nat.log2_self_le hq
  calc (bits - 51) * Nat.pow 2 52 ≤ (k + 1) * Nat.pow 2 52 :=
        Nat.mul_le_mul_right _ (by omega)
    _ = k * Nat.pow 2 52 + Nat.pow 2 52 := by rw [Nat.add_mul, Nat.one_mul]
    _ ≤ nearestWord num den := Nat.add_le_add_left hround _

/-- Less than half of the smallest positive magnitude is zero. -/
theorem nearestWord_eq_zero {num den : Nat} (h : 2 * (num * unitsPerOne) < den) :
    nearestWord num den = 0 := by
  have hdiv : num * unitsPerOne / den = 0 := Nat.div_eq_of_lt (by omega)
  have hmod : num * unitsPerOne % den = num * unitsPerOne := Nat.mod_eq_of_lt (by omega)
  have hone : den * Nat.pow 2 0 = den := Nat.mul_one den
  have hshift : Nat.log2 0 - 52 = 0 := rfl
  simp only [nearestWord, hdiv, hshift, hone, roundHalfEven, hmod, if_pos h, Nat.zero_mul]

theorem nearestWord_zero {den : Nat} (h : 0 < den) : nearestWord 0 den = 0 :=
  nearestWord_eq_zero (by rwa [Nat.zero_mul])

/-- The word nearest to a decimal. -/
def decimalWord (digits : Nat) (exponent : Int) : Nat :=
  if 0 ≤ exponent then nearestWord (digits * Nat.pow 10 exponent.toNat) 1
  else nearestWord digits (Nat.pow 10 (-exponent).toNat)

theorem decimalWord_natCast (digits n : Nat) :
    decimalWord digits n = nearestWord (digits * Nat.pow 10 n) 1 := by
  rw [decimalWord, if_pos (Int.natCast_nonneg n), Int.toNat_natCast]

theorem decimalWord_neg (digits : Nat) {n : Nat} (h : 0 < n) :
    decimalWord digits (-n) = nearestWord digits (Nat.pow 10 n) := by
  rw [decimalWord, if_neg (by omega), Int.neg_neg, Int.toNat_natCast]

/-- Four bits are more than a decimal digit. -/
theorem pow_le_of_log2 {n : Nat} (h : n ≠ 0) : Nat.pow 10 (n.log2 / 4) ≤ n := by
  calc Nat.pow 10 (n.log2 / 4) ≤ Nat.pow 16 (n.log2 / 4) := Nat.pow_le_pow_left (by decide) _
    _ = Nat.pow 2 (4 * (n.log2 / 4)) := (Nat.pow_mul 2 4 _).symm
    _ ≤ Nat.pow 2 n.log2 := natPow_le (by decide) (Nat.mul_div_le _ _)
    _ ≤ n := Nat.log2_self_le h

/-- Three bits are less than a decimal digit. -/
theorem two_pow_le {bits n : Nat} (h : bits ≤ 3 * n) : Nat.pow 2 bits ≤ Nat.pow 10 n := by
  calc Nat.pow 2 bits ≤ Nat.pow 2 (3 * n) := natPow_le (by decide) h
    _ = Nat.pow 8 n := Nat.pow_mul 2 3 _
    _ ≤ Nat.pow 10 n := Nat.pow_le_pow_left (by decide) _

theorem lt_pow_of_log2 (n : Nat) : n < Nat.pow 10 (n.log2 / 3 + 1) := by
  have hbits : n.log2 + 1 ≤ 3 * (n.log2 / 3 + 1) := by omega
  exact Nat.lt_of_lt_of_le Nat.lt_log2_self (two_pow_le hbits)

/-- The exponent is a variable here, so that the power is never computed. -/
theorem unitsPerOne_eq {b : Nat} (h : 1074 = b) : unitsPerOne = Nat.pow 2 b := by
  delta unitsPerOne
  exact congrArg _ h

theorem infinityWord_le {num den far : Nat} (hden : 0 < den) (hfar : 401 ≤ far)
    (h : Nat.pow 10 far * den ≤ num) : infinityWord ≤ nearestWord num den := by
  obtain ⟨b, hb⟩ : ∃ b, 1074 = b := ⟨_, rfl⟩
  obtain ⟨top, htop⟩ : ∃ top, 1024 = top := ⟨_, rfl⟩
  have hlow : Nat.pow 2 (top + b) ≤ num * unitsPerOne / den := by
    rw [Nat.le_div_iff_mul_le hden, unitsPerOne_eq hb, natPow_add, Nat.mul_right_comm]
    have htwo : Nat.pow 2 top ≤ Nat.pow 10 far := two_pow_le (by omega)
    exact Nat.mul_le_mul_right _ (Nat.le_trans (Nat.mul_le_mul_right _ htwo) h)
  have hle := le_nearestWord (by omega) hlow
  have hword : top + b - 51 = 2047 := by omega
  rwa [hword] at hle

theorem decimalWord_large {digits : Nat} {exponent : Int} (hdigits : digits ≠ 0)
    (h : 400 < (digits.log2 : Int) / 4 + exponent) : infinityWord ≤ decimalWord digits exponent := by
  have hlow := pow_le_of_log2 hdigits
  unfold decimalWord
  split
  · have hfar : 401 ≤ digits.log2 / 4 + exponent.toNat := by omega
    apply infinityWord_le Nat.one_pos hfar
    rw [Nat.mul_one, natPow_add]
    exact Nat.mul_le_mul_right _ hlow
  · have hfar : 401 ≤ digits.log2 / 4 - (-exponent).toNat := by omega
    apply infinityWord_le (natPow_pos (by decide) _) hfar
    rw [← natPow_add, Nat.sub_add_cancel (by omega)]
    exact hlow

theorem decimalWord_small {digits : Nat} {exponent : Int}
    (h : (digits.log2 : Int) / 3 + 1 + exponent < -400) : decimalWord digits exponent = 0 := by
  obtain ⟨b, hb⟩ : ∃ b, 1074 = b := ⟨_, rfl⟩
  have hhigh := lt_pow_of_log2 digits
  generalize hlead : digits.log2 / 3 + 1 = lead at hhigh
  rw [decimalWord, if_neg (by omega)]
  obtain ⟨far, hfar⟩ : ∃ far, (-exponent).toNat = lead + far :=
    Nat.exists_eq_add_of_le (by omega)
  have hhalf : 2 * unitsPerOne ≤ Nat.pow 10 far := by
    rw [unitsPerOne_eq hb, Nat.mul_comm]
    exact @two_pow_le (b + 1) far (by omega)
  apply nearestWord_eq_zero
  calc 2 * (digits * unitsPerOne) = digits * (2 * unitsPerOne) := Nat.mul_left_comm ..
    _ ≤ digits * Nat.pow 10 far := Nat.mul_le_mul_left _ hhalf
    _ < Nat.pow 10 lead * Nat.pow 10 far :=
      Nat.mul_lt_mul_of_pos_right hhigh (natPow_pos (by decide) _)
    _ = Nat.pow 10 (-exponent).toNat := by rw [hfar, natPow_add]

theorem ofWord_large {negative : Bool} {word : Nat} (h : infinityWord ≤ word) :
    ofWord negative word = .infinite negative := dif_neg (Nat.not_lt.mpr h)

theorem ofWord_finite {negative : Bool} {word : Nat} (h : word < infinityWord) :
    ofWord negative word = .finite negative word h := dif_pos h

theorem ofWord_inj {negative : Bool} {word word' : Nat} (h : word < infinityWord)
    (heq : ofWord negative word' = ofWord negative word) : word' = word := by
  rw [ofWord_finite h] at heq
  unfold ofWord at heq
  split at heq
  · injection heq
  · cases heq

/-- The known answers at both ends are those of rounding. -/
theorem ofDecimal_eq (negative : Bool) (digits : Nat) (exponent : Int) :
    ofDecimal negative digits exponent = ofWord negative (decimalWord digits exponent) := by
  unfold ofDecimal
  dsimp only
  split
  · rename_i hzero
    rw [zero, hzero]
    unfold decimalWord
    split
    · rw [Nat.zero_mul, nearestWord_zero Nat.one_pos]
    · rw [nearestWord_zero (natPow_pos (by decide) _)]
  · rename_i hdigits
    split
    · rename_i hlarge
      exact (ofWord_large (decimalWord_large hdigits hlarge)).symm
    · split
      · rename_i hsmall
        rw [decimalWord_small hsmall, zero]
      · unfold decimalWord
        split <;> rfl

/-- The sign of a decimal does not matter for its word. -/
theorem ofDecimal_sign {digits : Nat} {exponent : Int} {word : Nat} (h : word < infinityWord)
    (hread : ofDecimal false digits exponent = ofWord false word) (negative : Bool) :
    ofDecimal negative digits exponent = .finite negative word h := by
  rw [ofDecimal_eq] at hread ⊢
  rw [ofWord_inj h hread, ofWord_finite h]

end MetricBatch.Binary64
