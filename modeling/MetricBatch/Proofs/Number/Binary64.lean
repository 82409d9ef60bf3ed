import MetricBatch.Json.Value

namespace MetricBatch.Binary64

def IsFinite (x : Binary64) : Prop := ∃ negative word h, x = .finite negative word h

theorem roundHalfEven_le (num den : Nat) : roundHalfEven num den ≤ num / den + 1 := by
  unfold roundHalfEven
  dsimp only
  split
  · omega
  · split <;> omega

/-- The first 53 bits of a number are the significand of its word, and the others are its shift. -/
theorem nearestWord_le {num den bits : Nat} (h : num * unitsPerOne / den < Nat.pow 2 bits) :
    nearestWord num den ≤ (bits - 53 + 2) * Nat.pow 2 52 := by
  let q := num * unitsPerOne / den
  let k := q.log2 - 52
  have hk : k ≤ bits - 53 := by
    by_cases hq : q = 0
    · simp [k, hq]
    · have hlog : q.log2 < bits := (Nat.log2_lt hq).mpr h
      omega
  have hlow : q < Nat.pow 2 k * Nat.pow 2 53 := by
    have hle : q.log2 + 1 ≤ k + 53 := by omega
    calc q < Nat.pow 2 (q.log2 + 1) := Nat.lt_log2_self
      _ ≤ Nat.pow 2 (k + 53) := Nat.pow_le_pow_right (by decide) hle
      _ = Nat.pow 2 k * Nat.pow 2 53 := Nat.pow_add 2 k 53
  have hround : roundHalfEven (num * unitsPerOne) (den * Nat.pow 2 k) ≤ Nat.pow 2 53 := by
    have hdiv : num * unitsPerOne / (den * Nat.pow 2 k) < Nat.pow 2 53 := by
      rw [← Nat.div_div_eq_div_mul]
      exact Nat.div_lt_of_lt_mul hlow
    have hle := roundHalfEven_le (num * unitsPerOne) (den * Nat.pow 2 k)
    omega
  have hdouble : Nat.pow 2 53 = 2 * Nat.pow 2 52 := by decide
  unfold nearestWord
  calc k * Nat.pow 2 52 + roundHalfEven (num * unitsPerOne) (den * Nat.pow 2 k)
      ≤ (bits - 53) * Nat.pow 2 52 + Nat.pow 2 53 :=
        Nat.add_le_add (Nat.mul_le_mul_right _ hk) hround
    _ = (bits - 53 + 2) * Nat.pow 2 52 := by rw [hdouble, Nat.add_mul]

theorem mul_pow_lt {m a b : Nat} (h : m < Nat.pow 2 a) : m * Nat.pow 2 b < Nat.pow 2 (a + b) := by
  rw [Nat.pow_eq, Nat.pow_eq, Nat.pow_add]
  exact Nat.mul_lt_mul_of_pos_right h (Nat.two_pow_pos b)

theorem ofInt_finite {n : Int} (h : Json.Number.InRange n) : (ofInt n).IsFinite := by
  have hbits : n.natAbs < Nat.pow 2 64 := by
    have hpow : Nat.pow 2 64 = 18446744073709551616 := by decide
    obtain ⟨hlow, hhigh⟩ := h
    omega
  have hunits : ∀ b, unitsPerOne = Nat.pow 2 b →
      n.natAbs * unitsPerOne / 1 < Nat.pow 2 (64 + b) := by
    intro b hb
    rw [Nat.div_one, hb]
    exact mul_pow_lt hbits
  have hword : nearestWord n.natAbs 1 < infinityWord := by
    have hmax : (64 + 1074 - 53 + 2) * Nat.pow 2 52 < infinityWord := by decide
    exact Nat.lt_of_le_of_lt (nearestWord_le (hunits 1074 rfl)) hmax
  unfold ofInt ofRatio ofWord
  rw [dif_pos hword]
  exact ⟨_, _, hword, rfl⟩

theorem toBinary64_finite (n : Json.Number) : n.toBinary64.IsFinite := by
  cases n with
  | whole value h => exact ofInt_finite h
  | real negative word h => exact ⟨negative, word, h, rfl⟩

end MetricBatch.Binary64
