import MetricBatch.Time.Moment
import Mathlib.Tactic.IntervalCases

namespace MetricBatch.Calendar

open Moment (Date)

def isLeap (year : Nat) : Bool := year % 4 = 0 && (year % 100 ≠ 0 || year % 400 = 0)

def leapDays (year : Nat) : Nat := if isLeap year then 1 else 0

def yearLength (year : Nat) : Nat := 365 + leapDays year

def monthLength (year : Nat) : (month : Nat) → Nat
  | 2 => 28 + leapDays year
  | 4 | 6 | 9 | 11 => 30
  | _ => 31

def daysBeforeYear : Nat → Nat
  | 0 => 0
  | year + 1 => daysBeforeYear year + yearLength year

def daysBeforeMonth (year : Nat) : (month : Nat) → Nat
  | 0 => 0
  | 1 => 0
  | month + 2 => daysBeforeMonth year (month + 1) + monthLength year (month + 1)

structure IsDate (year month day : Nat) : Prop where
  month_pos : 1 ≤ month
  month_le : month ≤ 12
  day_pos : 1 ≤ day
  day_le : day ≤ monthLength year month

instance (year month day : Nat) : Decidable (IsDate year month day) :=
  decidable_of_iff (1 ≤ month ∧ month ≤ 12 ∧ 1 ≤ day ∧ day ≤ monthLength year month)
    ⟨fun ⟨h1, h2, h3, h4⟩ => ⟨h1, h2, h3, h4⟩, fun ⟨h1, h2, h3, h4⟩ => ⟨h1, h2, h3, h4⟩⟩

def dayNumber (year month day : Nat) : Nat :=
  daysBeforeYear year + daysBeforeMonth year month + (day - 1)

/-- The first of 1970. -/
def epochDay : Nat := 719528

theorem leapDays_le (year : Nat) : leapDays year ≤ 1 := by
  unfold leapDays
  split <;> decide

theorem monthLength_le (year month : Nat) : monthLength year month ≤ 31 := by
  have hleap := leapDays_le year
  unfold monthLength
  split <;> omega

theorem leapDays_eq (year : Nat) : leapDays year =
    if year % 4 = 0 ∧ (¬year % 100 = 0 ∨ year % 400 = 0) then 1 else 0 := by
  simp [leapDays, isLeap]

theorem daysBeforeYear_eq (year : Nat) : daysBeforeYear year + (year + 99) / 100 =
    365 * year + (year + 3) / 4 + (year + 399) / 400 := by
  induction year with
  | zero => rfl
  | succ year ih =>
    have hfours : (year + 1 + 3) / 4 = (year + 3) / 4 + if year % 4 = 0 then 1 else 0 := by
      split <;> omega
    have hcenturies : (year + 1 + 99) / 100 =
        (year + 99) / 100 + if year % 100 = 0 then 1 else 0 := by split <;> omega
    have heras : (year + 1 + 399) / 400 =
        (year + 399) / 400 + if year % 400 = 0 then 1 else 0 := by split <;> omega
    have hleap : leapDays year + (if year % 100 = 0 then 1 else 0) =
        (if year % 4 = 0 then 1 else 0) + if year % 400 = 0 then 1 else 0 := by
      rw [leapDays_eq]
      split <;> split <;> split <;> split <;> omega
    rw [daysBeforeYear, yearLength, hfours, hcenturies, heras]
    omega

theorem daysBeforeYear_le {year year' : Nat} (h : year ≤ year') :
    daysBeforeYear year ≤ daysBeforeYear year' := by
  induction h with
  | refl => exact Nat.le_refl _
  | step _ ih => exact Nat.le_add_right_of_le ih

theorem year_lt_of_dayNumber {year year' month day : Nat}
    (h : dayNumber year month day < daysBeforeYear year') : year < year' := by
  refine Nat.lt_of_not_le fun hle => ?_
  have hbefore := daysBeforeYear_le hle
  unfold dayNumber at h
  omega

/-- The days before the first of March of a year, which are a multiple for every kind of cycle. The
number of the year is that of its era, century, group of four years and year. -/
theorem daysBeforeMarch {year century four one : Nat} {era : Int} (hcentury : century ≤ 3)
    (hfour : four ≤ 24) (hone : one ≤ 3)
    (h : (year : Int) = 400 * era + 100 * century + 4 * four + one) :
    (daysBeforeYear year + 59 + leapDays year : Int) =
      146097 * era + 36524 * century + 1461 * four + 365 * one + 60 := by
  have hyear := daysBeforeYear_eq year
  rw [leapDays_eq]
  split <;> omega

theorem daysBeforeNextYear {year century four one : Nat} {era : Int} (hcentury : century ≤ 3)
    (hfour : four ≤ 24) (hone : one ≤ 3)
    (h : (year : Int) = 400 * era + 100 * century + 4 * four + one + 1) :
    (daysBeforeYear year : Int) =
      146097 * era + 36524 * century + 1461 * four + 365 * one + 366 := by
  have hyear := daysBeforeYear_eq year
  omega

/-- Years that begin in March have their leap day at their end. -/
theorem leapDays_next {year century four one : Nat} {era : Int} (hfour : four ≤ 24)
    (h : (year : Int) = 400 * era + 100 * century + 4 * four + one + 1)
    (hleap : one = 3 ∧ (four < 24 ∨ century = 3)) : leapDays year = 1 := by
  rw [leapDays_eq, if_pos]
  omega

theorem eraDay_parts {n : Nat} (h : n < 146097) : ∃ century four one day : Nat,
    (century ≤ 3 ∧ four ≤ 24 ∧ one ≤ 3 ∧ day ≤ 365) ∧
      (day = 365 → one = 3 ∧ (four < 24 ∨ century = 3)) ∧
      n = 36524 * century + 1461 * four + 365 * one + day := by
  obtain ⟨century, rest, hn, hcentury, hrest⟩ : ∃ century rest, n = 36524 * century + rest ∧
      century ≤ 3 ∧ (rest ≤ 36523 ∨ century = 3 ∧ rest = 36524) :=
    ⟨min 3 (n / 36524), n - 36524 * min 3 (n / 36524), by omega, by omega, by omega⟩
  obtain ⟨four, rest', hn', hrest'⟩ : ∃ four rest', rest = 1461 * four + rest' ∧ rest' ≤ 1460 :=
    ⟨rest / 1461, rest % 1461, by omega, by omega⟩
  refine ⟨century, four, min 3 (rest' / 365), rest' - 365 * min 3 (rest' / 365), ?_, ?_, ?_⟩ <;> omega

theorem eraDay_year {n century four one day : Nat}
    (hbounds : century ≤ 3 ∧ four ≤ 24 ∧ one ≤ 3 ∧ day ≤ 365)
    (hlast : day = 365 → one = 3 ∧ (four < 24 ∨ century = 3))
    (hn : n = 36524 * century + 1461 * four + 365 * one + day) :
    (n - n / 1460 + n / 36524 - n / 146096) / 365 = 100 * century + 4 * four + one := by
  obtain ⟨hcentury, hfour, hone, hday⟩ := hbounds
  have hlong : n / 1460 = 25 * century + four +
      if 24 * century + four + 365 * one + day < 1460 then 0 else 1 := by
    split <;> omega
  by_cases hend : n = 146096
  · subst hend
    omega
  · have hcenturies : n / 36524 = century := by omega
    have heras : n / 146096 = 0 := by omega
    rw [hlong, hcenturies, heras]
    split <;> omega

theorem eraDay_day {n century four one day : Nat}
    (hbounds : century ≤ 3 ∧ four ≤ 24 ∧ one ≤ 3 ∧ day ≤ 365)
    (hn : n = 36524 * century + 1461 * four + 365 * one + day) :
    n - (365 * (100 * century + 4 * four + one) + (100 * century + 4 * four + one) / 4 -
      (100 * century + 4 * four + one) / 100) = day := by
  have hfours : (100 * century + 4 * four + one) / 4 = 25 * century + four := by omega
  have hcenturies : (100 * century + 4 * four + one) / 100 = century := by omega
  rw [hfours, hcenturies]
  omega

/-- The months from March to December. -/
theorem daysBeforeMonth_late (year : Nat) : ∀ index < 10,
    daysBeforeMonth year (index + 3) = 59 + leapDays year + (153 * index + 2) / 5 ∧
      monthLength year (index + 3) = (153 * (index + 1) + 2) / 5 - (153 * index + 2) / 5 := by
  intro index h
  interval_cases index <;> simp [daysBeforeMonth, monthLength] <;> omega

theorem isDate_late (year : Nat) {day : Nat} (h : day < 306) :
    let index := (5 * day + 2) / 153
    index < 10 ∧ ¬index + 3 ≤ 2 ∧ IsDate year (index + 3) (day - (153 * index + 2) / 5 + 1) ∧
      dayNumber year (index + 3) (day - (153 * index + 2) / 5 + 1) =
        daysBeforeYear year + 59 + leapDays year + day := by
  intro index
  have hindex : index < 10 := by omega
  obtain ⟨hbefore, hlength⟩ := daysBeforeMonth_late year index hindex
  refine ⟨hindex, by omega, ⟨by omega, by omega, by omega, by omega⟩, ?_⟩
  rw [dayNumber, hbefore]
  omega

theorem isDate_early {year day : Nat} (h : 306 ≤ day) (h' : day ≤ 365)
    (hleap : day = 365 → leapDays year = 1) :
    let index := (5 * day + 2) / 153
    ¬index < 10 ∧ index - 9 ≤ 2 ∧ IsDate year (index - 9) (day - (153 * index + 2) / 5 + 1) ∧
      dayNumber year (index - 9) (day - (153 * index + 2) / 5 + 1) =
        daysBeforeYear year + (day - 306) := by
  intro index
  obtain hindex | hindex : index = 10 ∨ index = 11 := by omega
  · refine ⟨by omega, by omega, ⟨by omega, by omega, by omega, ?_⟩, ?_⟩
    · simp only [hindex, monthLength]
      omega
    · simp only [hindex, dayNumber, Nat.reduceSub, daysBeforeMonth]
      omega
  · refine ⟨by omega, by omega, ⟨by omega, by omega, by omega, ?_⟩, ?_⟩
    · simp only [hindex, monthLength]
      omega
    · simp only [hindex, dayNumber, Nat.reduceSub, daysBeforeMonth, monthLength]
      omega

/-- Of the years that begin in March, the one in which the year zero begins ends with it. -/
theorem marchYear_nonneg {century four one day : Nat} {era : Int} (hcentury : century ≤ 3)
    (hfour : four ≤ 24) (hone : one ≤ 3) (hday : day < 306)
    (h : -60 ≤ 146097 * era + 36524 * century + 1461 * four + 365 * one + day) :
    0 ≤ 400 * era + 100 * century + 4 * four + one := by
  by_contra hneg
  obtain hera | hera : era = -1 ∨ era ≤ -2 := by omega
  · have : century = 3 := by omega
    have : four = 24 := by omega
    omega
  · omega

theorem ofDay_isDate {n : Int} (h : 0 ≤ n + epochDay) : ∃ year month day : Nat,
    Date.ofDay n = ⟨year, month, day⟩ ∧ IsDate year month day ∧
      (dayNumber year month day : Int) = n + epochDay := by
  simp only [epochDay] at h ⊢
  have hn : 146097 * (n + 719468).fdiv 146097 + (n + 719468).fmod 146097 = n + 719468 :=
    Int.mul_fdiv_add_fmod ..
  have hpos : 0 ≤ (n + 719468).fmod 146097 := Int.fmod_nonneg_of_pos _ (by decide)
  have hlt : (n + 719468).fmod 146097 < 146097 := Int.fmod_lt_of_pos _ (by decide)
  rw [Date.ofDay]
  generalize (n + 719468).fdiv 146097 = era at *
  obtain ⟨dayOfEra, hday⟩ := Int.eq_ofNat_of_zero_le hpos
  rw [hday] at hn hlt ⊢
  obtain ⟨century, four, one, day, hbounds, hlast, hparts⟩ :=
    eraDay_parts (n := dayOfEra) (by omega)
  have hyear := eraDay_year hbounds hlast hparts
  have hdayOfYear := eraDay_day hbounds hparts
  obtain ⟨hcentury, hfour, hone, hday⟩ := hbounds
  simp only [Int.toNat_natCast, hyear, hdayOfYear]
  clear hyear hdayOfYear
  by_cases hlate : day < 306
  · obtain ⟨year, hyear⟩ : ∃ year : Nat,
        (year : Int) = 400 * era + 100 * century + 4 * four + one :=
      ⟨(400 * era + 100 * century + 4 * four + one).toNat,
        Int.toNat_of_nonneg (marchYear_nonneg hcentury hfour hone hlate (by omega))⟩
    obtain ⟨hindex, hmonth, hdate, hnumber⟩ := isDate_late year hlate
    refine ⟨year, _, _, ?_, hdate, ?_⟩
    · rw [if_pos hindex, if_neg hmonth]
      congr 1
      omega
    · have hmarch := daysBeforeMarch hcentury hfour hone hyear
      omega
  · obtain ⟨year, hyear⟩ : ∃ year : Nat,
        (year : Int) = 400 * era + 100 * century + 4 * four + one + 1 :=
      ⟨(400 * era + 100 * century + 4 * four + one + 1).toNat, by omega⟩
    obtain ⟨hindex, hmonth, hdate, hnumber⟩ := @isDate_early year day (by omega) hday
      fun hlong => leapDays_next hfour hyear (hlast hlong)
    refine ⟨year, _, _, ?_, hdate, ?_⟩
    · rw [if_neg hindex, if_pos hmonth]
      congr 1
      omega
    · have hnext := daysBeforeNextYear hcentury hfour hone hyear
      omega
end MetricBatch.Calendar
