import MetricBatch.Proofs.Number.Display
import MetricBatch.Proofs.Time.Calendar

namespace MetricBatch

open Binary64 Calendar

structure Timestamp where
  year : Nat
  month : Nat
  day : Nat
  hour : Nat
  minute : Nat
  second : Nat
  /-- The digits after the point. -/
  fraction : List Char
  deriving DecidableEq, Repr

namespace Timestamp

/-- The value of so many digits, and what follows them. -/
def number? (width : Nat) (cs : List Char) : Option (Nat × List Char) :=
  if width ≤ cs.length && (cs.take width).all Char.isDigit then
    some (digitsValue (cs.take width), cs.drop width)
  else none

/-- What follows a character that has to stand next. -/
def past? (c : Char) : List Char → Option (List Char)
  | [] => none
  | d :: rest => if d = c then some rest else none

/-- The digits after a point, of which there is at least one, or none where there is no point. -/
def fraction? : List Char → Option (List Char × List Char)
  | '.' :: rest =>
    let digits := rest.takeWhile Char.isDigit
    if digits.isEmpty then none else some (digits, rest.dropWhile Char.isDigit)
  | rest => some ([], rest)

def read? (cs : List Char) : Option Timestamp := do
  let (year, cs) ← number? 4 cs
  let (month, cs) ← number? 2 (← past? '-' cs)
  let (day, cs) ← number? 2 (← past? '-' cs)
  let (hour, cs) ← number? 2 (← past? 'T' cs)
  let (minute, cs) ← number? 2 (← past? ':' cs)
  let (second, cs) ← number? 2 (← past? ':' cs)
  let (fraction, cs) ← fraction? cs
  if cs = ['Z'] then some { year, month, day, hour, minute, second, fraction } else none

/-- Every field is in its range. A minute can have a leap second at its end. -/
structure IsValid (t : Timestamp) : Prop where
  date : IsDate t.year t.month t.day
  hour_lt : t.hour < 24
  minute_lt : t.minute < 60
  second_le : t.second ≤ 60

instance (t : Timestamp) : Decidable t.IsValid :=
  decidable_of_iff (IsDate t.year t.month t.day ∧ t.hour < 24 ∧ t.minute < 60 ∧ t.second ≤ 60)
    ⟨fun ⟨h1, h2, h3, h4⟩ => ⟨h1, h2, h3, h4⟩, fun ⟨h1, h2, h3, h4⟩ => ⟨h1, h2, h3, h4⟩⟩

/-- Since 1970. A leap second does not count. -/
def seconds (t : Timestamp) : Int :=
  86400 * (dayNumber t.year t.month t.day - epochDay : Int) + 3600 * t.hour + 60 * t.minute +
    (min t.second 59 : Nat)

/-- A leap second goes on from the second before it. -/
def nanos (t : Timestamp) : Nat :=
  digitsValue t.fraction * Nat.pow 10 (9 - t.fraction.length) +
    if t.second = 60 then billion else 0

/-- There is no moment between two nanoseconds. -/
def moment? (t : Timestamp) : Option Moment :=
  if t.IsValid ∧ t.fraction.length ≤ 9 then Moment.of? t.seconds t.nanos else none

/-- So many digits after the point are exact, and of the lengths that are in use no shorter one is. -/
structure IsLeastPlaces (nanos places : Nat) : Prop where
  used : places ∈ [0, 3, 6, 9]
  exact : Nat.pow 10 (9 - places) ∣ nanos
  least : ∀ fewer ∈ [0, 3, 6, 9], Nat.pow 10 (9 - fewer) ∣ nanos → places ≤ fewer

theorem length_padded {width n : Nat} (hwidth : 0 < width) (h : n < Nat.pow 10 width) :
    (Moment.padded width n).length = width := by
  have hle : (Nat.toDigits 10 n).length ≤ width :=
    (Nat.length_toDigits_le_iff (by decide) hwidth).mpr h
  simp only [Moment.padded, List.length_append, List.length_replicate]
  omega

theorem isDigit_padded (width n : Nat) : ∀ c ∈ Moment.padded width n, c.isDigit = true :=
  fun c hc => (List.mem_append.mp hc).elim (Json.isDigit_zeros _ c) ((Json.digits_toDigits n).all c)

theorem digitsValue_padded (width n : Nat) : digitsValue (Moment.padded width n) = n := by
  rw [Moment.padded, digitsValue_zeros_append, digitsValue_toDigits]

theorem number?_padded {width n : Nat} (hwidth : 0 < width) (h : n < Nat.pow 10 width)
    (rest : List Char) : number? width (Moment.padded width n ++ rest) = some (n, rest) := by
  have hlength := length_padded hwidth h
  have hle : width ≤ (Moment.padded width n ++ rest).length := by
    rw [List.length_append, hlength]
    exact Nat.le_add_right _ _
  rw [number?, List.take_left' hlength, List.drop_left' hlength, digitsValue_padded,
    decide_eq_true hle, List.all_eq_true.mpr (isDigit_padded width n)]
  rfl

theorem past?_cons (c : Char) (rest : List Char) : past? c (c :: rest) = some rest := if_pos rfl

/-- Texts that are read as fields, whatever follows them, make up a timestamp. -/
theorem read?_fields {t : Timestamp} {year month day hour minute second fraction : List Char}
    (hyear : ∀ rest, number? 4 (year ++ rest) = some (t.year, rest))
    (hmonth : ∀ rest, number? 2 (month ++ rest) = some (t.month, rest))
    (hday : ∀ rest, number? 2 (day ++ rest) = some (t.day, rest))
    (hhour : ∀ rest, number? 2 (hour ++ rest) = some (t.hour, rest))
    (hminute : ∀ rest, number? 2 (minute ++ rest) = some (t.minute, rest))
    (hsecond : ∀ rest, number? 2 (second ++ rest) = some (t.second, rest))
    (hfraction : fraction? (fraction ++ ['Z']) = some (t.fraction, ['Z'])) :
    read? (year ++ '-' :: month ++ '-' :: day ++ 'T' :: hour ++ ':' :: minute ++ ':' :: second
      ++ fraction ++ ['Z']) = some t := by
  simp only [List.append_assoc, List.cons_append]
  refine Option.bind_eq_some_iff.mpr ⟨_, hyear _, ?_⟩
  refine Option.bind_eq_some_iff.mpr ⟨_, past?_cons .., ?_⟩
  refine Option.bind_eq_some_iff.mpr ⟨_, hmonth _, ?_⟩
  refine Option.bind_eq_some_iff.mpr ⟨_, past?_cons .., ?_⟩
  refine Option.bind_eq_some_iff.mpr ⟨_, hday _, ?_⟩
  refine Option.bind_eq_some_iff.mpr ⟨_, past?_cons .., ?_⟩
  refine Option.bind_eq_some_iff.mpr ⟨_, hhour _, ?_⟩
  refine Option.bind_eq_some_iff.mpr ⟨_, past?_cons .., ?_⟩
  refine Option.bind_eq_some_iff.mpr ⟨_, hminute _, ?_⟩
  refine Option.bind_eq_some_iff.mpr ⟨_, past?_cons .., ?_⟩
  refine Option.bind_eq_some_iff.mpr ⟨_, hsecond _, ?_⟩
  refine Option.bind_eq_some_iff.mpr ⟨_, hfraction, ?_⟩
  exact if_pos rfl

theorem fraction?_padded {places n : Nat} (hplaces : 0 < places) (h : n < Nat.pow 10 places) :
    fraction? ('.' :: Moment.padded places n ++ ['Z']) = some (Moment.padded places n, ['Z']) := by
  obtain ⟨htake, hdrop⟩ := @Json.span_run _ _ ['Z'] (isDigit_padded places n) (by simp)
  have hne : (Moment.padded places n).isEmpty = false := by
    rw [List.isEmpty_eq_false_iff, ← List.length_pos_iff, length_padded hplaces h]
    exact hplaces
  rw [List.cons_append, fraction?, htake, hdrop, hne, if_neg Bool.false_ne_true]

/-- Less than a second is a whole number of milliseconds, of microseconds, or of neither. -/
theorem subsecondText_cases {nanos : Nat} (h : nanos < billion) :
    nanos = 0 ∧ Moment.subsecondText nanos = [] ∧ IsLeastPlaces nanos 0 ∨
      ∃ places, 0 < places ∧ nanos / Nat.pow 10 (9 - places) < Nat.pow 10 places ∧
        Moment.subsecondText nanos =
          '.' :: Moment.padded places (nanos / Nat.pow 10 (9 - places)) ∧
        IsLeastPlaces nanos places := by
  have hbillion : Nat.pow 10 (9 - 0) = billion := rfl
  have hmillion : Nat.pow 10 (9 - 3) = 1000000 := rfl
  have hthousand : Nat.pow 10 (9 - 6) = 1000 := rfl
  unfold Moment.subsecondText
  split
  · rename_i hzero
    subst hzero
    exact .inl ⟨rfl, rfl, ⟨by simp, Nat.dvd_zero _, fun _ _ _ => Nat.zero_le _⟩⟩
  · rename_i hzero
    have hbelow : ¬Nat.pow 10 (9 - 0) ∣ nanos := fun hdvd =>
      hzero (Nat.eq_zero_of_dvd_of_lt hdvd (hbillion ▸ h))
    unfold billion at h
    refine .inr ?_
    split
    · rename_i hmillis
      refine ⟨3, by decide, ?_, rfl, ⟨by simp, Nat.dvd_of_mod_eq_zero hmillis, ?_⟩⟩
      · rw [hmillion]
        exact Nat.div_lt_of_lt_mul h
      · simp [hbelow]
    · rename_i hmillis
      have hbelow' : ¬Nat.pow 10 (9 - 3) ∣ nanos := fun hdvd =>
        hmillis (Nat.mod_eq_zero_of_dvd hdvd)
      split
      · rename_i hmicros
        refine ⟨6, by decide, ?_, rfl, ⟨by simp, Nat.dvd_of_mod_eq_zero hmicros, ?_⟩⟩
        · rw [hthousand]
          exact Nat.div_lt_of_lt_mul h
        · simp [hbelow, hbelow']
      · rename_i hmicros
        have hbelow'' : ¬Nat.pow 10 (9 - 6) ∣ nanos := fun hdvd =>
          hmicros (Nat.mod_eq_zero_of_dvd hdvd)
        refine ⟨9, by decide, ?_, ?_, ⟨by simp, Nat.one_dvd nanos, ?_⟩⟩
        · exact Nat.lt_of_le_of_lt (Nat.div_le_self _ _) h
        · rw [Nat.sub_self, Nat.div_one]
        · simp [hbelow, hbelow', hbelow'']

theorem fraction?_subsecondText {nanos : Nat} (h : nanos < billion) : ∃ digits,
    fraction? (Moment.subsecondText nanos ++ ['Z']) = some (digits, ['Z']) ∧
      digitsValue digits * Nat.pow 10 (9 - digits.length) = nanos ∧
      IsLeastPlaces nanos digits.length := by
  obtain ⟨rfl, htext, hleast⟩ | ⟨places, hplaces, hlt, htext, hleast⟩ := subsecondText_cases h
  · exact ⟨[], by rw [htext]; rfl, Nat.zero_mul _, hleast⟩
  · have hlength := length_padded hplaces hlt
    refine ⟨Moment.padded places (nanos / Nat.pow 10 (9 - places)), ?_, ?_, ?_⟩
    · rw [htext]
      exact fraction?_padded hplaces hlt
    · rw [hlength, digitsValue_padded]
      exact Nat.div_mul_cancel hleast.exact
    · rwa [hlength]

/-- A date, a second of its day, and one more in a leap second. -/
def ofParts (year month day inDay leap : Nat) (fraction : List Char) : Timestamp :=
  ⟨year, month, day, inDay / 3600, inDay / 60 % 60, inDay % 60 + leap, fraction⟩

section OfParts

variable {year month day inDay leap : Nat} {fraction : List Char}

theorem isValid_ofParts (hdate : IsDate year month day) (hlt : inDay < 86400)
    (hleap : leap = 0 ∨ leap = 1 ∧ inDay % 60 = 59) :
    (ofParts year month day inDay leap fraction).IsValid := by
  refine ⟨hdate, Nat.div_lt_of_lt_mul hlt, Nat.mod_lt _ (by decide), ?_⟩
  dsimp only [ofParts]
  omega

theorem seconds_ofParts (hleap : leap = 0 ∨ leap = 1 ∧ inDay % 60 = 59) :
    (ofParts year month day inDay leap fraction).seconds =
      86400 * (dayNumber year month day - epochDay : Int) + inDay := by
  have hsecond : min (inDay % 60 + leap) 59 = inDay % 60 := by omega
  rw [seconds, ofParts, hsecond]
  dsimp only
  omega

theorem nanos_ofParts (hleap : leap = 0 ∨ leap = 1 ∧ inDay % 60 = 59) :
    (ofParts year month day inDay leap fraction).nanos =
      digitsValue fraction * Nat.pow 10 (9 - fraction.length) + leap * billion := by
  rw [nanos, ofParts]
  dsimp only
  rcases hleap with rfl | ⟨rfl, hlast⟩
  · rw [if_neg (by omega), Nat.zero_mul]
  · rw [hlast, if_pos rfl, Nat.one_mul]

end OfParts

end Timestamp

namespace Moment

/-- The second at which a year begins. -/
def firstSecond (year : Nat) : Int := 86400 * (daysBeforeYear year - epochDay : Int)

structure WithinYears (m : Moment) (first last : Nat) : Prop where
  first_le : firstSecond first ≤ m.seconds
  lt_next : m.seconds < firstSecond (last + 1)

theorem withinYears_iff {m : Moment} : m.WithinYears 0 9999 ↔
    -62167219200 ≤ m.seconds ∧ m.seconds < 253402300800 := by
  have hfirst : firstSecond 0 = -62167219200 := rfl
  have hnext : firstSecond (9999 + 1) = 253402300800 := by
    have hdays := daysBeforeYear_eq (9999 + 1)
    unfold firstSecond epochDay
    omega
  rw [← hfirst, ← hnext]
  exact ⟨fun ⟨h, h'⟩ => ⟨h, h'⟩, fun ⟨h, h'⟩ => ⟨h, h'⟩⟩

/-- A text with four digits of year tells a moment, with the fewest digits of a fraction. -/
def IsToldBy (m : Moment) (cs : List Char) : Prop :=
  ∃ t, Timestamp.read? cs = some t ∧ t.moment? = some m ∧
    Timestamp.IsLeastPlaces (m.nanos % billion) t.fraction.length

theorem IsToldBy.unique {m m' : Moment} {cs : List Char} (h : m.IsToldBy cs)
    (h' : m'.IsToldBy cs) : m = m' := by
  obtain ⟨t, hread, hmoment, -⟩ := h
  obtain ⟨t', hread', hmoment', -⟩ := h'
  obtain rfl : t = t' := Option.some.inj (hread.symm.trans hread')
  exact Option.some.inj (hmoment.symm.trans hmoment')

/-- In a leap second there is a whole second among the nanoseconds. -/
theorem leap_cases (m : Moment) :
    m.nanos / billion = 0 ∨ m.nanos / billion = 1 ∧ m.seconds % 60 = 59 := by
  have hnanos := m.nanos_lt
  unfold billion at *
  omega

/-- The fields of a moment in a year of four digits. -/
theorem read?_chars {m : Moment} {year month day inDay : Nat} {digits : List Char}
    (hdate : Date.ofDay (m.seconds.fdiv 86400) = ⟨year, month, day⟩)
    (hinDay : m.seconds.fmod 86400 = inDay) (hyear : year < 10000) (hisDate : IsDate year month day)
    (hlt : inDay < 86400)
    (hfraction : Timestamp.fraction? (subsecondText (m.nanos % billion) ++ ['Z']) =
      some (digits, ['Z'])) :
    Timestamp.read? m.chars =
      some (.ofParts year month day inDay (m.nanos / billion) digits) := by
  have hyearText : yearText year = padded 4 year := by
    rw [yearText, if_neg (by omega), if_neg (by omega), Int.natAbs_natCast]
  have hsecond : inDay % 60 + m.nanos / billion < 100 := by
    have hleap : m.nanos / billion < 2 := Nat.div_lt_of_lt_mul (by have := m.nanos_lt; omega)
    omega
  have hlength := monthLength_le year month
  have hfields : month < 100 ∧ day < 100 := by
    have hmonth := hisDate.month_le
    have hday := hisDate.day_le
    omega
  have field {n : Nat} (h : n < 100) (rest : List Char) :
      Timestamp.number? 2 (padded 2 n ++ rest) = some (n, rest) :=
    Timestamp.number?_padded (by decide) h rest
  rw [chars, hdate, hinDay]
  dsimp only
  rw [Int.toNat_natCast, hyearText]
  exact Timestamp.read?_fields (Timestamp.number?_padded (by decide) hyear) (field hfields.1)
    (field hfields.2) (field (by omega)) (field (by omega)) (field hsecond) hfraction

theorem isToldBy_chars {m : Moment} (h : m.WithinYears 0 9999) : m.IsToldBy m.chars := by
  have hday : 86400 * m.seconds.fdiv 86400 + m.seconds.fmod 86400 = m.seconds :=
    Int.mul_fdiv_add_fmod ..
  have hpos : 0 ≤ m.seconds.fmod 86400 := Int.fmod_nonneg_of_pos _ (by decide)
  have hlt : m.seconds.fmod 86400 < 86400 := Int.fmod_lt_of_pos _ (by decide)
  obtain ⟨inDay, hinDay⟩ := Int.eq_ofNat_of_zero_le hpos
  rw [hinDay] at hday hlt
  obtain ⟨hfirst, hnext⟩ := h
  have hzero : daysBeforeYear 0 = 0 := rfl
  rw [firstSecond, hzero] at hfirst
  rw [firstSecond] at hnext
  obtain ⟨year, month, day, hdate, hisDate, hnumber⟩ :=
    ofDay_isDate (n := m.seconds.fdiv 86400) (by omega)
  have hyear : year < 9999 + 1 := @year_lt_of_dayNumber _ _ month day (by omega)
  obtain ⟨digits, hfraction, hvalue, hleast⟩ :=
    Timestamp.fraction?_subsecondText (Nat.mod_lt m.nanos (by decide : 0 < billion))
  refine ⟨_, read?_chars hdate hinDay hyear hisDate (by omega) hfraction, ?_, hleast⟩
  have hplaces : digits.length ≤ 9 := by
    have hused := hleast.used
    simp only [List.mem_cons, List.not_mem_nil, or_false] at hused
    omega
  have hleap : m.nanos / billion = 0 ∨ m.nanos / billion = 1 ∧ inDay % 60 = 59 := by
    have hcases := m.leap_cases
    omega
  have hvalid : (Timestamp.ofParts year month day inDay (m.nanos / billion) digits).IsValid :=
    Timestamp.isValid_ofParts hisDate (by omega) hleap
  have hseconds :
      (Timestamp.ofParts year month day inDay (m.nanos / billion) digits).seconds = m.seconds := by
    rw [Timestamp.seconds_ofParts hleap, hnumber]
    omega
  have hnanos :
      (Timestamp.ofParts year month day inDay (m.nanos / billion) digits).nanos = m.nanos := by
    rw [Timestamp.nanos_ofParts hleap, hvalue]
    exact Nat.mod_add_div' m.nanos billion
  rw [Timestamp.moment?, if_pos ⟨hvalid, hplaces⟩, hseconds, hnanos, of?, dif_pos m.nanos_lt]

example : (⟨-1, 1500000000, .inr (by decide)⟩ : Moment).text = "1969-12-31T23:59:60.500Z" := by cbv

end Moment

end MetricBatch
