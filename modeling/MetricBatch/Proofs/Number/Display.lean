import MetricBatch.Number.Reader
import MetricBatch.Proofs.Json.Numeral
import MetricBatch.Proofs.Number.Rounding

namespace MetricBatch

open Json

namespace Binary64

theorem digitsValue_eq (cs : List Char) : digitsValue cs = Nat.ofDigitChars 10 cs 0 := by
  simp only [digitsValue, Nat.ofDigitChars, Nat.mul_comm]

theorem digitsValue_toDigits (n : Nat) : digitsValue (Nat.toDigits 10 n) = n := by
  rw [digitsValue_eq, Nat.ofDigitChars_toDigits (by decide) (by decide)]

theorem digitsValue_zeros_append (n : Nat) (cs : List Char) :
    digitsValue (List.replicate n '0' ++ cs) = digitsValue cs := by
  rw [digitsValue_eq, digitsValue_eq, Nat.ofDigitChars_append, Nat.ofDigitChars_replicate_zero,
    Nat.mul_zero]

theorem digitsValue_append_zeros (cs : List Char) (n : Nat) :
    digitsValue (cs ++ List.replicate n '0') = digitsValue cs * Nat.pow 10 n := by
  rw [digitsValue_eq, digitsValue_eq, Nat.ofDigitChars_append, Nat.ofDigitChars_replicate_zero,
    Nat.mul_comm]
  rfl

theorem decimal?_digits {cs : List Char} (h : Digits cs) (negative : Bool) :
    decimal? negative cs = some (ofDecimal negative (digitsValue cs) 0) := by
  obtain ⟨htake, hdrop⟩ := @span_run _ _ [] h.all (by simp)
  rw [List.append_nil] at htake hdrop
  simp [decimal?, htake, hdrop, h.nonempty, exponent?]

theorem decimal?_point {cs ds : List Char} (h : Digits cs) (hd : ∀ c ∈ ds, c.isDigit = true)
    (negative : Bool) : decimal? negative (cs ++ '.' :: ds) =
      some (ofDecimal negative (digitsValue (cs ++ ds)) (-ds.length)) := by
  obtain ⟨htake, hdrop⟩ := @span_run _ _ ('.' :: ds) h.all (by simp)
  obtain ⟨htake', hdrop'⟩ := @span_run _ _ [] hd (by simp)
  rw [List.append_nil] at htake' hdrop'
  simp [decimal?, htake, hdrop, htake', hdrop', h.nonempty, exponent?]

end Binary64

namespace Decimal

open Binary64

/-- A decimal in full is digits that are its value. -/
def IsWhole (d : Decimal) (cs : List Char) : Prop :=
  Digits cs ∧ ∃ n : Nat, d.exponent = n ∧ digitsValue cs = d.digits * Nat.pow 10 n

/-- Or it has a point, with as many digits behind it as the exponent says. -/
def IsPointed (d : Decimal) (cs : List Char) : Prop :=
  ∃ front back, cs = front ++ '.' :: back ∧ Digits front ∧ (∀ c ∈ back, c.isDigit = true) ∧
    digitsValue (front ++ back) = d.digits ∧ d.exponent = -back.length

theorem plain_cases (d : Decimal) : d.IsWhole d.plain ∨ d.IsPointed d.plain := by
  have hdigits := digits_toDigits d.digits
  have hvalue := digitsValue_toDigits d.digits
  unfold plain
  split
  · rename_i hwhole
    obtain ⟨n, hn⟩ := Int.eq_ofNat_of_zero_le hwhole
    refine .inl ⟨hdigits.append (isDigit_zeros _), n, hn, ?_⟩
    rw [digitsValue_append_zeros, hvalue, hn, Int.toNat_natCast]
  · rename_i hneg
    extract_lets digits places
    refine .inr ?_
    split
    · rename_i hplaces
      refine ⟨_, _, rfl, ⟨fun hnil => ?_, fun c hc => hdigits.all c (List.mem_of_mem_take hc)⟩,
        fun c hc => hdigits.all c (List.mem_of_mem_drop hc), ?_, ?_⟩
      · rcases List.take_eq_nil_iff.mp hnil with hlen | hnone
        · omega
        · exact hdigits.nonempty hnone
      · rw [List.take_append_drop, hvalue]
      · rw [List.length_drop]
        omega
    · rename_i hplaces
      refine ⟨['0'], List.replicate (places - digits.length) '0' ++ digits, rfl,
        ⟨by simp, by simp⟩, fun c hc => ?_, ?_, ?_⟩
      · exact (List.mem_append.mp hc).elim (isDigit_zeros _ c) (hdigits.all c)
      · have hlead := digitsValue_zeros_append (1 + (places - digits.length)) digits
        rw [← List.replicate_append_replicate, List.append_assoc, hvalue] at hlead
        exact hlead
      · rw [List.length_append, List.length_replicate]
        omega

theorem plain_head (d : Decimal) : ∀ c ∈ d.plain.head?, c.isDigit = true := by
  rcases d.plain_cases with ⟨hdigits, -⟩ | ⟨front, back, heq, hdigits, -⟩
  · exact fun c hc => hdigits.all c (List.mem_of_mem_head? hc)
  · rw [heq, hdigits.head?_append]
    exact fun c hc => hdigits.all c (List.mem_of_mem_head? hc)

/-- The digits of a decimal in full are read as the decimal. -/
theorem decimal?_plain (d : Decimal) (negative : Bool) :
    decimal? negative d.plain = some (d.toBinary64 negative) := by
  rcases d.plain_cases with ⟨hdigits, n, hexponent, hvalue⟩ |
    ⟨front, back, heq, hfront, hback, hvalue, hexponent⟩
  · -- The zeros at the end are a power of ten, which the rounded ratio has as a factor.
    have hzeros := decimalWord_natCast (d.digits * Nat.pow 10 n) 0
    have hone : d.digits * Nat.pow 10 n * Nat.pow 10 0 = d.digits * Nat.pow 10 n := Nat.mul_one _
    rw [Int.natCast_zero, hone, ← decimalWord_natCast] at hzeros
    rw [decimal?_digits hdigits, hvalue, toBinary64, ofDecimal_eq, ofDecimal_eq, hzeros, hexponent]
  · rw [heq, decimal?_point hfront hback, hvalue, toBinary64, hexponent]

theorem exact_reads_back (word : Nat) : (exact word).toBinary64 false = ofWord false word := by
  obtain ⟨b, hb⟩ : ∃ b, 1074 = b := ⟨_, rfl⟩
  have hten : Nat.pow 10 b = Nat.pow 5 b * Nat.pow 2 b := Nat.mul_pow 5 2 b
  have hratio : units word * Nat.pow 5 b * unitsPerOne = units word * Nat.pow 10 b := by
    rw [unitsPerOne_eq hb, hten, Nat.mul_assoc]
  have hword : decimalWord (units word * Nat.pow 5 b) (-b) = word := by
    rw [decimalWord_neg _ (by omega)]
    exact nearestWord_exact (natPow_pos (by decide) b) hratio
  have hexponent : (-1074 : Int) = -(b : Int) := by omega
  rw [toBinary64, ofDecimal_eq, exact]
  dsimp only
  rw [hexponent, hb, hword]

/-- The digits are tried on one grid after the other until they read back, so that they do. -/
theorem shortest_reads_back (tie : TieRule) (word : Nat) :
    (shortest tie word).toBinary64 false = ofWord false word := by
  unfold shortest
  extract_lets readsBack onGrid
  cases hfound : (List.range 17).findSome? onGrid with
  | none => exact exact_reads_back word
  | some d =>
    obtain ⟨n, -, hgrid⟩ := List.exists_of_findSome?_eq_some hfound
    have hback : readsBack d = true := List.find?_some (p := readsBack) hgrid
    exact eq_of_beq hback

end Decimal

namespace Binary64

theorem ofText?_unsigned {cs : List Char} (h : ∀ c ∈ cs.head?, c.isDigit = true) {x : Binary64}
    (hread : decimal? false cs = some x) : ofText? (String.ofList cs) = some x := by
  have hsign : splitSign cs = (false, cs) := by
    unfold splitSign
    split
    · exact absurd (h '-' rfl) (by decide)
    · exact absurd (h '+' rfl) (by decide)
    · rfl
  rw [ofText?, String.toList_ofList, hsign]
  simp [hread]

theorem ofText?_negative {cs : List Char} {x : Binary64} (hread : decimal? true cs = some x) :
    ofText? (String.ofList ('-' :: cs)) = some x := by
  rw [ofText?, String.toList_ofList]
  simp [splitSign, hread]

/-- The digits of a magnitude, in full. -/
def magnitudeText (word : Nat) : List Char :=
  if word = 0 then ['0'] else (Decimal.shortest .up word).plain

theorem decimal?_magnitudeText (negative : Bool) {word : Nat} (h : word < infinityWord) :
    decimal? negative (magnitudeText word) = some (.finite negative word h) := by
  unfold magnitudeText
  split
  · rename_i hzero
    have hdigit : Digits ['0'] := ⟨by simp, by simp⟩
    have hvalue : ofDecimal negative (digitsValue ['0']) 0 = ofWord negative 0 := rfl
    subst hzero
    rw [decimal?_digits hdigit, hvalue, ofWord_finite h]
  · rw [Decimal.decimal?_plain, Decimal.toBinary64,
      ofDecimal_sign h (Decimal.shortest_reads_back .up word)]

theorem magnitudeText_head (word : Nat) : ∀ c ∈ (magnitudeText word).head?, c.isDigit = true := by
  unfold magnitudeText
  split
  · simp
  · exact Decimal.plain_head _

theorem text_finite (negative : Bool) {word : Nat} (h : word < infinityWord) :
    text (.finite negative word h) =
      String.ofList (if negative then '-' :: magnitudeText word else magnitudeText word) := by
  simp only [text, magnitudeText]

/-- The text of a finite number is read as the number, and the sign of a zero is kept. -/
theorem ofText?_text_finite (negative : Bool) {word : Nat} (h : word < infinityWord) :
    ofText? (text (.finite negative word h)) = some (.finite negative word h) := by
  have hread := decimal?_magnitudeText negative h
  rw [text_finite]
  cases negative with
  | false =>
    rw [if_neg Bool.false_ne_true]
    exact ofText?_unsigned (magnitudeText_head word) hread
  | true =>
    rw [if_pos rfl]
    exact ofText?_negative hread

end Binary64

end MetricBatch
