import MetricBatch.Json.Tree
import Mathlib.Data.List.TakeWhile

namespace MetricBatch

/-- A number other than zero has some digit. -/
theorem Decimal.shortest_digits_pos (tie : TieRule) {word : Nat} (hpos : 0 < word)
    (hlt : word < Binary64.infinityWord) : 0 < (Decimal.shortest tie word).digits := by
  have hpow (b n : Nat) (hb : 0 < b) : 0 < Nat.pow b n := Nat.pow_pos hb
  unfold Decimal.shortest
  extract_lets readsBack onGrid
  cases hfound : (List.range 17).findSome? onGrid with
  | some d =>
    obtain ⟨n, _, hgrid⟩ := List.exists_of_findSome?_eq_some hfound
    have hfound : readsBack d = true := List.find?_some (p := readsBack) hgrid
    have hback : d.toBinary64 false = Binary64.ofWord false word := eq_of_beq hfound
    refine Nat.pos_of_ne_zero fun hzero : d.digits = 0 => ?_
    have hnone : d.toBinary64 false = Binary64.ofWord false 0 := by
      rw [toBinary64, hzero]
      rfl
    rw [hnone, Binary64.ofWord, Binary64.ofWord, dif_pos hlt, dif_pos (hpos.trans hlt)] at hback
    injection hback with _ hword
    omega
  | none =>
    have hsignificand : 0 < Binary64.significand word := by
      unfold Binary64.significand Binary64.shift
      have hparts := Nat.div_mul_le_self word (Nat.pow 2 52)
      rw [Nat.sub_mul, Nat.one_mul]
      have hunit : 0 < Nat.pow 2 52 := by decide
      omega
    have hunits : 0 < Binary64.units word := Nat.mul_pos hsignificand (hpow 2 _ (by decide))
    rw [Option.getD_none, exact]
    apply Nat.mul_pos hunits
    apply hpow
    decide

namespace Json

open Json.Tree

/-- A run of characters ends where one comes that does not belong to it. -/
theorem span_run {p : Char → Bool} {run rest : List Char} (h : ∀ c ∈ run, p c = true)
    (hr : ∀ c ∈ rest.head?, p c = false) :
    (run ++ rest).takeWhile p = run ∧ (run ++ rest).dropWhile p = rest := by
  induction run with
  | nil =>
    cases rest with
    | nil => exact ⟨rfl, rfl⟩
    | cons c rest => simp [hr c rfl]
  | cons c run ih =>
    obtain ⟨htake, hdrop⟩ := ih fun x hx => h x (List.mem_cons_of_mem c hx)
    simp [h c (by simp), htake, hdrop]

structure Digits (cs : List Char) : Prop where
  nonempty : cs ≠ []
  all : ∀ c ∈ cs, c.isDigit = true

theorem digits_toDigits (n : Nat) : Digits (Nat.toDigits 10 n) :=
  ⟨Nat.toDigits_ne_nil, fun _ hc => Nat.isDigit_of_mem_toDigits (by decide) (by decide) hc⟩

theorem isDigit_zeros (n : Nat) : ∀ c ∈ List.replicate n '0', c.isDigit = true := by
  intro c hc
  rw [List.eq_of_mem_replicate hc]
  rfl

theorem Digits.append {cs ds : List Char} (h : Digits cs) (hd : ∀ c ∈ ds, c.isDigit = true) :
    Digits (cs ++ ds) :=
  ⟨List.append_ne_nil_of_left_ne_nil h.nonempty ds, fun c hc =>
    (List.mem_append.mp hc).elim (h.all c) (hd c)⟩

theorem Digits.head?_append {cs : List Char} (h : Digits cs) (ds : List Char) :
    (cs ++ ds).head? = cs.head? := by
  cases cs with
  | nil => exact absurd rfl h.nonempty
  | cons c cs => rfl

theorem toDigits_head {n : Nat} (h : 0 < n) : (Nat.toDigits 10 n).head? ≠ some '0' := by
  induction n using Nat.strongRecOn with
  | _ n ih =>
    by_cases hlt : n < 10
    · rw [Nat.toDigits_of_lt_base hlt, List.head?_cons, ne_eq, Option.some.injEq,
        Nat.digitChar_eq_zero]
      omega
    · rw [Nat.toDigits_of_base_le (by decide) (by omega),
        (digits_toDigits (n / 10)).head?_append]
      exact ih (n / 10) (by omega) (by omega)

theorem isDigitsThen_append {next : List Char → Bool} {ds rest : List Char} (h : Digits ds)
    (hr : ∀ c ∈ rest.head?, c.isDigit = false) : isDigitsThen next (ds ++ rest) = next rest := by
  obtain ⟨htake, hdrop⟩ := span_run h.all hr
  rw [isDigitsThen, htake, hdrop, List.isEmpty_eq_false_iff.mpr h.nonempty]
  rfl

theorem isExponent_signed {sign : Char} (hs : sign = '-' ∨ sign = '+') {ds : List Char}
    (h : Digits ds) : isExponent ('e' :: sign :: ds) = true := by
  have hdigits : isDigitsThen List.isEmpty (ds ++ []) = true := isDigitsThen_append h (by simp)
  rw [List.append_nil] at hdigits
  rcases hs with rfl | rfl <;> exact hdigits

theorem isExponent_head {cs : List Char} (h : isExponent cs = true) :
    ∀ c ∈ cs.head?, c = 'e' ∨ c = 'E' := by
  intro c hc
  cases cs with
  | nil => cases hc
  | cons mark rest =>
    obtain rfl := Option.some.inj hc
    simpa using (Bool.and_eq_true_iff.mp h).1

theorem isFraction_of_isExponent {cs : List Char} (h : isExponent cs = true) :
    isFraction cs = true := by
  have hhead := isExponent_head h
  unfold isFraction
  split
  · exact absurd (hhead '.' rfl) (by decide)
  · exact h

theorem isFraction_point {ds cs : List Char} (h : Digits ds) (hc : isExponent cs = true) :
    isFraction ('.' :: ds ++ cs) = true := by
  have hends : ∀ c ∈ cs.head?, c.isDigit = false := by
    intro c hmem
    rcases isExponent_head hc c hmem with rfl | rfl <;> rfl
  exact (isDigitsThen_append h hends).trans hc

theorem isFraction_head {cs : List Char} (h : isFraction cs = true) :
    ∀ c ∈ cs.head?, c.isDigit = false := by
  intro c hc
  unfold isFraction at h
  split at h
  · rw [← Option.some.inj hc]
    rfl
  · rcases isExponent_head h c hc with rfl | rfl <;> rfl

theorem isMagnitude_digits {ds cs : List Char} (h : Digits ds) (hzero : ds.head? ≠ some '0')
    (hc : isFraction cs = true) : isMagnitude (ds ++ cs) = true := by
  unfold isMagnitude
  split
  · rename_i rest heq
    rw [← h.head?_append cs, heq] at hzero
    exact absurd rfl hzero
  · exact (isDigitsThen_append h (isFraction_head hc)).trans hc

theorem isMagnitude_digit {d : Char} {cs : List Char} (h : d.isDigit = true)
    (hc : isFraction cs = true) : isMagnitude (d :: cs) = true := by
  by_cases hzero : d = '0'
  · rw [hzero]
    exact hc
  · have hone : Digits [d] := ⟨by simp, by simpa using h⟩
    exact isMagnitude_digits hone (by simpa using hzero) hc

theorem isNumeral_of_isMagnitude {cs : List Char} (h : isMagnitude cs = true) (negative : Bool) :
    isNumeral (if negative then '-' :: cs else cs) = true := by
  cases negative with
  | true => exact h
  | false =>
    change isNumeral cs = true
    unfold isNumeral
    split
    · rename_i rest
      simp [isMagnitude, isDigitsThen] at h
    · exact h

theorem Digits.isMagnitude_pointAfterFirst {ds cs : List Char} (h : Digits ds)
    (hc : isExponent cs = true) : isMagnitude (pointAfterFirst ds ++ cs) = true := by
  match ds, h with
  | [], h => exact absurd rfl h.nonempty
  | [d], h => exact isMagnitude_digit (h.all d (by simp)) (isFraction_of_isExponent hc)
  | d :: e :: rest, h =>
    have hrest : Digits (e :: rest) :=
      ⟨by simp, fun c hmem => h.all c (List.mem_cons_of_mem d hmem)⟩
    exact isMagnitude_digit (h.all d (by simp)) (isFraction_point hrest hc)

theorem Digits.withoutTrailingZeros {ds : List Char} (h : Digits ds)
    (hzero : ds.head? ≠ some '0') : Digits (withoutTrailingZeros ds) := by
  refine ⟨fun hnil => ?_, fun c hc => h.all c ?_⟩
  · rw [Json.withoutTrailingZeros, List.reverse_eq_nil_iff, List.dropWhile_eq_nil_iff] at hnil
    cases ds with
    | nil => exact h.nonempty rfl
    | cons d rest =>
      have hd := hnil d (by simp)
      exact hzero (by rw [List.head?_cons, eq_of_beq hd])
  · rw [Json.withoutTrailingZeros, List.mem_reverse] at hc
    exact List.mem_reverse.mp ((List.dropWhile_sublist _).mem hc)

/-- A decimal in full, with a fraction that is put after a whole number. -/
theorem isMagnitude_plain {d : Decimal} (hpos : 0 < d.digits) :
    isMagnitude (if 0 ≤ d.exponent then d.plain ++ ['.', '0'] else d.plain) = true := by
  have hdigits := digits_toDigits d.digits
  have hhead := toDigits_head hpos
  unfold Decimal.plain
  split
  · refine isMagnitude_digits (hdigits.append (isDigit_zeros _)) ?_ rfl
    rwa [hdigits.head?_append]
  · extract_lets digits places
    split
    · -- The point falls between two digits.
      have hfront : Digits (digits.take (digits.length - places)) := by
        refine ⟨fun hnil => ?_, fun c hc => hdigits.all c (List.mem_of_mem_take hc)⟩
        rcases List.take_eq_nil_iff.mp hnil with hlen | hnone
        · omega
        · exact hdigits.nonempty hnone
      have hback : Digits (digits.drop (digits.length - places)) := by
        refine ⟨fun hnil => ?_, fun c hc => hdigits.all c (List.mem_of_mem_drop hc)⟩
        rw [List.drop_eq_nil_iff] at hnil
        omega
      have hfraction : isFraction ('.' :: _ ++ []) = true := isFraction_point hback rfl
      rw [List.append_nil] at hfraction
      refine isMagnitude_digits hfront ?_ hfraction
      rw [← hfront.head?_append (digits.drop (digits.length - places)), List.take_append_drop]
      exact hhead
    · have hzeros : Digits (List.replicate (places - digits.length) '0' ++ digits) := by
        refine ⟨List.append_ne_nil_of_right_ne_nil _ hdigits.nonempty, fun c hc => ?_⟩
        exact (List.mem_append.mp hc).elim (isDigit_zeros _ c) (hdigits.all c)
      have hfraction : isFraction ('.' :: _ ++ []) = true := isFraction_point hzeros rfl
      rw [List.append_nil] at hfraction
      exact hfraction

theorem isMagnitude_decimalText {d : Decimal} (hpos : 0 < d.digits) :
    isMagnitude (decimalText d) = true := by
  have hdigits := digits_toDigits d.digits
  unfold decimalText
  extract_lets digits lead
  split
  · exact isMagnitude_plain hpos
  · have hsign : (if lead < 0 then '-' else '+') = '-' ∨ (if lead < 0 then '-' else '+') = '+' := by
      split
      · exact .inl rfl
      · exact .inr rfl
    exact (hdigits.withoutTrailingZeros (toDigits_head hpos)).isMagnitude_pointAfterFirst
      (isExponent_signed hsign (digits_toDigits lead.natAbs))

theorem isNumeral_realText (negative : Bool) {word : Nat} (h : word < Binary64.infinityWord) :
    isNumeral (realText negative word) = true := by
  unfold realText
  refine isNumeral_of_isMagnitude ?_ negative
  by_cases hzero : word = 0
  · rw [if_pos hzero]
    rfl
  · rw [if_neg hzero]
    exact isMagnitude_decimalText (Decimal.shortest_digits_pos .even (Nat.pos_of_ne_zero hzero) h)

theorem isMagnitude_toDigits (n : Nat) : isMagnitude (Nat.toDigits 10 n) = true := by
  cases n with
  | zero => rfl
  | succ n =>
    have hwhole : isMagnitude (Nat.toDigits 10 (n + 1) ++ []) = true :=
      isMagnitude_digits (digits_toDigits (n + 1)) (toDigits_head (Nat.succ_pos n)) rfl
    rwa [List.append_nil] at hwhole

theorem Number.isNumeral_text (n : Number) : isNumeral n.text = true := by
  cases n with
  | whole value inRange =>
    have hwhole := isNumeral_of_isMagnitude (isMagnitude_toDigits value.natAbs) (value < 0)
    simpa only [decide_eq_true_eq, Number.text] using hwhole
  | real negative word inRange => exact isNumeral_realText negative inRange

theorem isWordChar_of_isDigitsThen {next : List Char → Bool} {cs : List Char}
    (hnext : ∀ ds, next ds = true → ∀ c ∈ ds, isWordChar c = true)
    (h : isDigitsThen next cs = true) : ∀ c ∈ cs, isWordChar c = true := by
  intro c hc
  rw [← List.takeWhile_append_dropWhile (p := Char.isDigit) (l := cs), List.mem_append] at hc
  rcases hc with hdigit | hlater
  · have hd := List.mem_takeWhile_imp hdigit
    simp [isWordChar, Char.isAlphanum, hd]
  · exact hnext _ (Bool.and_eq_true_iff.mp h).2 c hlater

theorem isWordChar_of_isExponent {cs : List Char} (h : isExponent cs = true) :
    ∀ c ∈ cs, isWordChar c = true := by
  have hends : ∀ ds : List Char, ds.isEmpty = true → ∀ c ∈ ds, isWordChar c = true := by
    intro ds hnil
    rw [List.isEmpty_iff.mp hnil]
    exact fun _ hc => absurd hc List.not_mem_nil
  cases cs with
  | nil => exact fun _ hc => absurd hc List.not_mem_nil
  | cons mark rest =>
    obtain ⟨hmark, hrest⟩ := Bool.and_eq_true_iff.mp h
    have hletter : isWordChar mark = true := by
      rcases isExponent_head h mark rfl with rfl | rfl <;> rfl
    have hdigits : ∀ c ∈ rest, isWordChar c = true := by
      split at hrest
      · exact List.forall_mem_cons.mpr ⟨rfl, isWordChar_of_isDigitsThen hends hrest⟩
      · exact List.forall_mem_cons.mpr ⟨rfl, isWordChar_of_isDigitsThen hends hrest⟩
      · exact isWordChar_of_isDigitsThen hends hrest
    exact List.forall_mem_cons.mpr ⟨hletter, hdigits⟩

theorem isWordChar_of_isFraction {cs : List Char} (h : isFraction cs = true) :
    ∀ c ∈ cs, isWordChar c = true := by
  unfold isFraction at h
  split at h
  · exact List.forall_mem_cons.mpr
      ⟨rfl, isWordChar_of_isDigitsThen (fun _ => isWordChar_of_isExponent) h⟩
  · exact isWordChar_of_isExponent h

theorem isWordChar_of_isMagnitude {cs : List Char} (h : isMagnitude cs = true) :
    ∀ c ∈ cs, isWordChar c = true := by
  unfold isMagnitude at h
  split at h
  · exact List.forall_mem_cons.mpr ⟨rfl, isWordChar_of_isFraction h⟩
  · exact isWordChar_of_isDigitsThen (fun _ => isWordChar_of_isFraction) h

/-- A numeral is one word. -/
theorem isWordChar_of_isNumeral {cs : List Char} (h : isNumeral cs = true) :
    ∀ c ∈ cs, isWordChar c = true := by
  unfold isNumeral at h
  split at h
  · exact List.forall_mem_cons.mpr ⟨rfl, isWordChar_of_isMagnitude h⟩
  · exact isWordChar_of_isMagnitude h

end Json

end MetricBatch
