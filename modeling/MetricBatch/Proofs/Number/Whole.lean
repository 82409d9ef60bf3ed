import MetricBatch.Proofs.Number.Display
import MetricBatch.Time.Span

namespace MetricBatch

namespace Binary64

/-- The first one that is not known to be exact. -/
def wholeBound : Nat := Nat.pow 2 53

variable {n word : Nat}

theorem unitsPerOne_pos : 0 < unitsPerOne := by
  obtain ⟨b, hb⟩ : ∃ b, 1074 = b := ⟨_, rfl⟩
  rw [unitsPerOne_eq hb]
  exact natPow_pos (by decide) b

theorem whole_word (h : n < wholeBound) :
    ∃ word, word < 1076 * Nat.pow 2 52 ∧ units word = n * unitsPerOne := by
  obtain rfl | hn := Nat.eq_zero_or_pos n
  · exact ⟨0, by decide, by simp [units, significand]⟩
  · have hlead : n.log2 < 53 := (Nat.log2_lt (by omega)).mpr h
    generalize hlead' : n.log2 = lead at hlead
    have hlow : Nat.pow 2 52 ≤ n * Nat.pow 2 (52 - lead) := by
      have hle : Nat.pow 2 lead ≤ n := by rw [← hlead']; exact Nat.log2_self_le (by omega)
      have hsum : lead + (52 - lead) = 52 := by omega
      calc Nat.pow 2 52 = Nat.pow 2 lead * Nat.pow 2 (52 - lead) := by rw [← natPow_add, hsum]
        _ ≤ n * Nat.pow 2 (52 - lead) := Nat.mul_le_mul_right _ hle
    have hhigh : n * Nat.pow 2 (52 - lead) < 2 * Nat.pow 2 52 := by
      have hlt : n < Nat.pow 2 (lead + 1) := by rw [← hlead']; exact Nat.lt_log2_self
      have hsum : lead + 1 + (52 - lead) = 53 := by omega
      calc n * Nat.pow 2 (52 - lead) < Nat.pow 2 (lead + 1) * Nat.pow 2 (52 - lead) :=
            Nat.mul_lt_mul_of_pos_right hlt (natPow_pos (by decide) _)
        _ = 2 * Nat.pow 2 52 := by rw [← natPow_add, hsum]
    have hshift : shift ((lead + 1022) * Nat.pow 2 52 + n * Nat.pow 2 (52 - lead)) =
        lead + 1022 := by
      rw [shift, Nat.mul_comm, Nat.mul_add_div (natPow_pos (by decide) 52),
        Nat.div_eq_of_lt_le (k := 1) (by omega) (by omega)]
      omega
    refine ⟨(lead + 1022) * Nat.pow 2 52 + n * Nat.pow 2 (52 - lead), ?_, ?_⟩
    · have hle : (lead + 1022) * Nat.pow 2 52 ≤ 1074 * Nat.pow 2 52 :=
        Nat.mul_le_mul_right _ (by omega)
      omega
    · have hbits : 1074 = 52 - lead + (lead + 1022) := by omega
      rw [units, significand, hshift, Nat.add_sub_cancel_left, unitsPerOne_eq hbits, Nat.mul_assoc,
        ← natPow_add]

theorem nearestWord_whole (hword : units word = n * unitsPerOne) : nearestWord n 1 = word :=
  nearestWord_exact Nat.one_pos (by rw [Nat.mul_one (units word), hword])

/-- No other whole number is read as the word, be it one of 53 bits or a larger one. -/
theorem nearestWord_eq_iff (hbound : word < 1076 * Nat.pow 2 52)
    (hword : units word = n * unitsPerOne) {m : Nat} : nearestWord m 1 = word ↔ m = n := by
  constructor
  · rintro rfl
    obtain ⟨b, hb⟩ : ∃ b, 1074 = b := ⟨_, rfl⟩
    obtain hm | hm := Nat.lt_or_ge m wholeBound
    · obtain ⟨word', -, hword'⟩ := whole_word hm
      rw [nearestWord_whole hword', hword'] at hword
      exact Nat.eq_of_mul_eq_mul_right unitsPerOne_pos hword
    · have hlarge : Nat.pow 2 (53 + b) ≤ m * unitsPerOne / 1 := by
        rw [Nat.div_one, unitsPerOne_eq hb, natPow_add]
        exact Nat.mul_le_mul_right _ hm
      have hle := le_nearestWord (by omega) hlarge
      have hbits : 53 + b - 51 = 1076 := by omega
      rw [hbits] at hle
      exact absurd hbound (Nat.not_lt.mpr hle)
  · rintro rfl
    exact nearestWord_whole hword

end Binary64

namespace Decimal

open Binary64

variable {n word : Nat}

/-- The value of a decimal that is a whole number. -/
def IsValue (d : Decimal) (n : Nat) : Prop := ∃ k : Nat, d.exponent = k ∧ d.digits * Nat.pow 10 k = n

theorem reads_back_iff (hbound : word < 1076 * Nat.pow 2 52) (hword : units word = n * unitsPerOne)
    {d : Decimal} {m : Nat} (hd : d.IsValue m) :
    d.toBinary64 false = ofWord false word ↔ m = n := by
  obtain ⟨k, hexponent, rfl⟩ := hd
  have hfinite : word < infinityWord :=
    Nat.lt_of_lt_of_le hbound (Nat.mul_le_mul_right _ (by decide))
  rw [toBinary64, ofDecimal_eq, hexponent, decimalWord_natCast,
    ← nearestWord_eq_iff hbound hword]
  exact ⟨ofWord_inj hfinite, congrArg _⟩

theorem lt_digitCount (n : Nat) : n < Nat.pow 10 (digitCount n) :=
  (Nat.length_toDigits_le_iff (by decide) Nat.length_toDigits_pos).mp (Nat.le_refl _)

theorem digitCount_pos (n : Nat) : 0 < digitCount n := Nat.length_toDigits_pos

theorem leadingExponent_whole {den : Nat} (hden : 0 < den) (hn : 0 < n) :
    leadingExponent (n * den) den = (digitCount n - 1 : Nat) := by
  have hle : den ≤ n * den := Nat.le_mul_of_pos_left den hn
  have hpos := digitCount_pos n
  rw [leadingExponent, if_pos hle, Nat.mul_div_cancel n hden]
  omega

/-- A whole number as a ratio, in tens, hundreds and so on. -/
theorem scale_whole (n den k : Nat) :
    scale (n * den) den (-(k : Int)) = (n * den, Nat.pow 10 k * den) := by
  have hone : Nat.pow 10 0 = 1 := rfl
  unfold scale
  split
  · obtain rfl : k = 0 := by omega
    rw [Int.natCast_zero, Int.neg_zero, Int.toNat_zero, hone, Nat.mul_one, Nat.one_mul]
  · rw [Int.neg_neg, Int.toNat_natCast, Nat.mul_comm den]

/-- On a grid that a whole number lies on it is its only neighbour. -/
theorem neighbours_of_dvd {den k i : Nat} (hden : 0 < den) (hn : 0 < n)
    (hgrid : i + k + 1 = digitCount n) (hdvd : Nat.pow 10 k ∣ n) :
    neighbours .up (n * den) den (i + 1) = [⟨n / Nat.pow 10 k, k⟩] := by
  have hunit : ((digitCount n - 1 : Nat) : Int) - (((i + 1 : Nat) : Int) - 1) = k := by omega
  unfold neighbours
  simp only [leadingExponent_whole hden hn, hunit, scale_whole]
  rw [Nat.mul_mod_mul_right, Nat.mod_eq_zero_of_dvd hdvd, Nat.zero_mul, if_pos rfl,
    Nat.mul_div_mul_right _ _ hden]

/-- On any other grid its neighbours are other whole numbers. -/
theorem neighbours_of_not_dvd {den k i : Nat} (hden : 0 < den) (hn : 0 < n)
    (hgrid : i + k + 1 = digitCount n) (hdvd : ¬Nat.pow 10 k ∣ n) :
    ∀ d ∈ neighbours .up (n * den) den (i + 1), ∃ m ≠ n, d.IsValue m := by
  have hunit : ((digitCount n - 1 : Nat) : Int) - (((i + 1 : Nat) : Int) - 1) = k := by omega
  have hlead : ((digitCount n - 1 : Nat) : Int) + 1 = (i + 1 + k : Nat) := by omega
  have hpos : 0 < Nat.pow 10 k := natPow_pos (by decide) k
  have hmod : n % Nat.pow 10 k * den ≠ 0 :=
    Nat.mul_ne_zero (fun h => hdvd (Nat.dvd_of_mod_eq_zero h)) (Nat.ne_of_gt hden)
  have hbelow : (n / Nat.pow 10 k) * Nat.pow 10 k ≠ n := fun h => hdvd ⟨_, by rw [Nat.mul_comm, h]⟩
  have habove : (n / Nat.pow 10 k + 1) * Nat.pow 10 k ≠ n :=
    Nat.ne_of_gt (by rw [Nat.mul_comm]; exact Nat.lt_mul_div_succ n hpos)
  have htop : 1 * Nat.pow 10 (i + 1 + k) ≠ n := by
    have hlt := lt_digitCount n
    have hcount : i + 1 + k = digitCount n := by omega
    rw [hcount]
    omega
  have hnext : ∃ m ≠ n, (if n / Nat.pow 10 k + 1 = Nat.pow 10 (i + 1) then
      (⟨1, (i + 1 + k : Nat)⟩ : Decimal) else ⟨n / Nat.pow 10 k + 1, k⟩).IsValue m := by
    split
    · exact ⟨_, htop, _, rfl, rfl⟩
    · exact ⟨_, habove, k, rfl, rfl⟩
  unfold neighbours
  simp only [leadingExponent_whole hden hn, hunit, scale_whole, hlead]
  rw [Nat.mul_mod_mul_right, if_neg hmod, Nat.mul_div_mul_right _ _ hden]
  generalize (if n / Nat.pow 10 k + 1 = Nat.pow 10 (i + 1) then
    (⟨1, (i + 1 + k : Nat)⟩ : Decimal) else ⟨n / Nat.pow 10 k + 1, k⟩) = above at hnext ⊢
  intro d hd
  have hcases : d = ⟨n / Nat.pow 10 k, k⟩ ∨ d = above := by
    split at hd
    · simpa using hd
    · simpa [or_comm] using hd
  rcases hcases with rfl | rfl
  · exact ⟨_, hbelow, k, rfl, rfl⟩
  · exact hnext

/-- What reads back on a grid is the whole number itself, where it lies on the grid. -/
theorem find?_neighbours (hn : 0 < n) (hbound : word < 1076 * Nat.pow 2 52)
    (hword : units word = n * unitsPerOne) {i k : Nat} (hgrid : i + k + 1 = digitCount n) :
    (neighbours .up (units word) unitsPerOne (i + 1)).find?
        (fun d => d.toBinary64 false == ofWord false word) =
      if Nat.pow 10 k ∣ n then some ⟨n / Nat.pow 10 k, k⟩ else none := by
  rw [hword]
  split
  · rename_i hdvd
    have hvalue : IsValue ⟨n / Nat.pow 10 k, k⟩ n := ⟨k, rfl, Nat.div_mul_cancel hdvd⟩
    have hback := (reads_back_iff hbound hword hvalue).mpr rfl
    rw [neighbours_of_dvd unitsPerOne_pos hn hgrid hdvd]
    exact List.find?_cons_of_pos (beq_iff_eq.mpr hback)
  · rename_i hdvd
    rw [List.find?_eq_none]
    intro d hd
    obtain ⟨m, hne, hvalue⟩ := neighbours_of_not_dvd unitsPerOne_pos hn hgrid hdvd d hd
    rw [beq_iff_eq, reads_back_iff hbound hword hvalue]
    exact hne

/-- What is found among the first numbers is found at one that comes no later than any success. -/
theorem findSome?_range {α : Type} {f : Nat → Option α} {bound k : Nat} (hk : k < bound)
    (h : f k ≠ none) : ∃ i ≤ k, ∃ a, f i = some a ∧ (List.range bound).findSome? f = some a := by
  cases hfound : (List.range bound).findSome? f with
  | none => exact absurd (List.findSome?_eq_none_iff.mp hfound k (List.mem_range.mpr hk)) h
  | some a =>
    obtain ⟨before, i, after, hsplit, hi, hbefore⟩ := List.findSome?_eq_some_iff.mp hfound
    have hmem : k ∈ before ++ i :: after := hsplit ▸ List.mem_range.mpr hk
    have horder : (before ++ i :: after).Pairwise (· < ·) := hsplit ▸ List.pairwise_lt_range
    rw [List.pairwise_append, List.pairwise_cons] at horder
    refine ⟨i, ?_, a, hi, rfl⟩
    rcases List.mem_append.mp hmem with hearly | hlate
    · exact absurd (hbefore k hearly) h
    · rcases List.mem_cons.mp hlate with rfl | hafter
      · exact Nat.le_refl k
      · exact Nat.le_of_lt (horder.2.1.1 k hafter)

/-- The first grid that reads back is the coarsest one that the whole number lies on; at the latest
it is that of the ones. -/
theorem shortest_whole (hn : 0 < n) (hlt : n < wholeBound) (hbound : word < 1076 * Nat.pow 2 52)
    (hword : units word = n * unitsPerOne) :
    ∃ k, Nat.pow 10 k ∣ n ∧ shortest .up word = ⟨n / Nat.pow 10 k, k⟩ := by
  have hpos := digitCount_pos n
  have hcount : digitCount n ≤ 16 := by
    have hle : n < Nat.pow 10 16 := Nat.lt_of_lt_of_le hlt (by decide)
    exact (Nat.length_toDigits_le_iff (by decide) (by decide)).mpr hle
  unfold shortest
  extract_lets readsBack onGrid
  have hgrid (i k : Nat) (h : i + k + 1 = digitCount n) : onGrid i =
      if Nat.pow 10 k ∣ n then some ⟨n / Nat.pow 10 k, k⟩ else none :=
    find?_neighbours hn hbound hword h
  have hones : onGrid (digitCount n - 1) ≠ none := by
    rw [hgrid _ 0 (by omega), if_pos (Nat.one_dvd n)]
    exact Option.some_ne_none _
  obtain ⟨i, hle, d, hi, hfound⟩ := @findSome?_range _ onGrid 17 _ (by omega) hones
  rw [hfound]
  rw [hgrid i (digitCount n - 1 - i) (by omega)] at hi
  split at hi
  · rename_i hdvd
    exact ⟨_, hdvd, (Option.some.inj hi).symm⟩
  · cases hi

theorem toDigits_mul_pow (hn : 0 < n) (k : Nat) :
    Nat.toDigits 10 (n * Nat.pow 10 k) = Nat.toDigits 10 n ++ List.replicate k '0' := by
  induction k with
  | zero => rw [List.replicate_zero, List.append_nil]; exact congrArg _ (Nat.mul_one n)
  | succ k ih =>
    have hpos : 0 < n * Nat.pow 10 k := Nat.mul_pos hn (natPow_pos (by decide) k)
    have hsucc : n * Nat.pow 10 (k + 1) = 10 * (n * Nat.pow 10 k) + 0 := by
      rw [natPow_add, ← Nat.mul_assoc, Nat.mul_comm]
      rfl
    rw [hsucc, ← Nat.toDigits_append_toDigits (by decide) hpos (by decide), ih, List.append_assoc,
      List.replicate_succ']
    rfl

theorem plain_whole {k : Nat} (hn : 0 < n) (hdvd : Nat.pow 10 k ∣ n) :
    plain ⟨n / Nat.pow 10 k, k⟩ = Nat.toDigits 10 n := by
  obtain ⟨m, rfl⟩ := hdvd
  have hm : 0 < m := Nat.pos_of_mul_pos_left hn
  rw [plain, if_pos (Int.natCast_nonneg k), Int.toNat_natCast,
    Nat.mul_div_cancel_left m (natPow_pos (by decide) k), Nat.mul_comm, toDigits_mul_pow hm]

end Decimal

theorem Binary64.magnitudeText_whole {n word : Nat} (h : n < wholeBound)
    (hbound : word < 1076 * Nat.pow 2 52) (hword : units word = n * unitsPerOne) :
    magnitudeText word = Nat.toDigits 10 n := by
  have hsame := nearestWord_eq_iff hbound hword (m := 0)
  rw [nearestWord_zero Nat.one_pos] at hsame
  unfold magnitudeText
  split
  · rename_i hzero
    rw [← hsame.mp hzero.symm]
    rfl
  · rename_i hne
    have hn : 0 < n := Nat.pos_of_ne_zero fun hn => hne (hsame.mpr hn.symm).symm
    obtain ⟨k, hdvd, hshortest⟩ := Decimal.shortest_whole hn h hbound hword
    rw [hshortest, Decimal.plain_whole hn hdvd]

namespace Span

open Binary64

/-- A whole number of seconds is written as its digits. -/
theorem secondsText_ofSeconds {n : Nat} (h : n < wholeBound) :
    (ofSeconds n).secondsText = toString n := by
  obtain ⟨word, hbound, hword⟩ := whole_word h
  have hfinite : word < infinityWord :=
    Nat.lt_of_lt_of_le hbound (Nat.mul_le_mul_right _ (by decide))
  have hexact : (ofSeconds n).toBinary64 = .finite false word hfinite := by
    have hnone : nearestWord 0 billion = 0 := nearestWord_zero (by decide)
    have hzero : units 0 = 0 := by simp [units, significand]
    have hsum : nearestWord (units word) unitsPerOne = word :=
      nearestWord_exact unitsPerOne_pos rfl
    calc (ofSeconds n).toBinary64
        = addMagnitudes (nearestWord n 1) (nearestWord 0 billion) := rfl
      _ = ofWord false (nearestWord (units word + units 0) unitsPerOne) := by
        rw [hnone, nearestWord_whole hword, addMagnitudes, ofRatio]
      _ = .finite false word hfinite := by
        rw [hzero, Nat.add_zero (units word), hsum, ofWord_finite hfinite]
  rw [secondsText, hexact, text_finite, if_neg Bool.false_ne_true,
    magnitudeText_whole h hbound hword, Nat.toString_eq_ofList_toDigits]

end Span

end MetricBatch
