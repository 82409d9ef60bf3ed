import MetricBatch.Time.Span

namespace MetricBatch

/-- A point in time. A leap second is written as second 60; its nanoseconds are counted on from
those of second 59. -/
structure Moment where
  /-- Seconds since 1970. -/
  seconds : Int
  nanos : Nat
  nanos_lt : nanos < billion ∨ seconds % 60 = 59 ∧ nanos < 2 * billion
  deriving DecidableEq, Repr

namespace Moment

def of? (seconds : Int) (nanos : Nat) : Option Moment :=
  if h : nanos < billion ∨ seconds % 60 = 59 ∧ nanos < 2 * billion then some ⟨seconds, nanos, h⟩
  else none

theorem epoch_valid : 0 < billion ∨ (0 : Int) % 60 = 59 ∧ 0 < 2 * billion := .inl (by decide)

/-- The beginning of 1970. -/
def epoch : Moment := ⟨0, 0, epoch_valid⟩

structure Date where
  year : Int
  month : Nat
  day : Nat
  deriving DecidableEq, Repr

/-- The date of a day, counted from the first of 1970. Years are counted from March, so that a leap
day is the last of its year; four hundred years have 146097 days. -/
def Date.ofDay (n : Int) : Date :=
  let shifted := n + 719468
  let era := shifted.fdiv 146097
  let dayOfEra := (shifted.fmod 146097).toNat
  let yearOfEra := (dayOfEra - dayOfEra / 1460 + dayOfEra / 36524 - dayOfEra / 146096) / 365
  let dayOfYear := dayOfEra - (365 * yearOfEra + yearOfEra / 4 - yearOfEra / 100)
  let monthFromMarch := (5 * dayOfYear + 2) / 153
  let day := dayOfYear - (153 * monthFromMarch + 2) / 5 + 1
  let month := if monthFromMarch < 10 then monthFromMarch + 3 else monthFromMarch - 9
  ⟨era * 400 + yearOfEra + (if month ≤ 2 then 1 else 0), month, day⟩

/-- A number with zeros in front of it up to a width. -/
def padded (width n : Nat) : List Char :=
  let digits := Nat.toDigits 10 n
  List.replicate (width - digits.length) '0' ++ digits

/-- Four digits; a year that does not fit them has a sign. -/
def yearText (year : Int) : List Char :=
  if year < 0 then '-' :: padded 4 year.natAbs
  else if 9999 < year then '+' :: padded 4 year.natAbs
  else padded 4 year.natAbs

/-- Nothing, or three, six or nine digits, whichever is the shortest that is exact. -/
def subsecondText (nanos : Nat) : List Char :=
  if nanos = 0 then []
  else if nanos % 1000000 = 0 then '.' :: padded 3 (nanos / 1000000)
  else if nanos % 1000 = 0 then '.' :: padded 6 (nanos / 1000)
  else '.' :: padded 9 nanos

def chars (m : Moment) : List Char :=
  let date := Date.ofDay (m.seconds.fdiv 86400)
  let inDay := (m.seconds.fmod 86400).toNat
  yearText date.year ++ '-' :: padded 2 date.month ++ '-' :: padded 2 date.day
    ++ 'T' :: padded 2 (inDay / 3600) ++ ':' :: padded 2 (inDay / 60 % 60)
    ++ ':' :: padded 2 (inDay % 60 + m.nanos / billion)
    ++ subsecondText (m.nanos % billion) ++ ['Z']

def text (m : Moment) : String := String.ofList m.chars

/-- The first second of the year -262143; no moment lies before it. -/
def earliest : Int := -8334601228800

/-- So many seconds earlier, if there is such a moment. From within a leap second one goes back as
if from the second after it. -/
def before? (m : Moment) (seconds : Nat) : Option Moment :=
  let start := if m.nanos < billion ∨ seconds = 0 then m.seconds else m.seconds + 1
  let nanos := if seconds = 0 then m.nanos else m.nanos % billion
  if start - seconds < earliest then none else of? (start - seconds) nanos

end Moment

end MetricBatch
