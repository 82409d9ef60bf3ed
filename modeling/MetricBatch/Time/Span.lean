import MetricBatch.Number.Shortest

namespace MetricBatch

/-- A second has this many nanoseconds. -/
def billion : Nat := 1000000000

structure Span where
  seconds : Nat
  nanos : Nat
  nanos_lt : nanos < billion
  deriving DecidableEq, Repr

namespace Span

def ofSeconds (n : Nat) : Span := ⟨n, 0, by decide⟩

def ofMillis (n : Nat) : Span := ⟨n / 1000, n % 1000 * 1000000, by unfold billion; omega⟩

def totalNanos (d : Span) : Nat := d.seconds * billion + d.nanos

/-- The whole milliseconds that a span fits into. -/
def millisRoundedUp (d : Span) : Nat := (d.totalNanos + 999999) / 1000000

/-- A number of so many digits after the point, without the zeros at its end. -/
def fractionText (places part : Nat) : List Char :=
  let digits := Nat.toDigits 10 part
  let padded := List.replicate (places - digits.length) '0' ++ digits
  (padded.reverse.dropWhile (· == '0')).reverse

def withFraction (whole places part : Nat) : List Char :=
  let fraction := fractionText places part
  if fraction.isEmpty then Nat.toDigits 10 whole else Nat.toDigits 10 whole ++ '.' :: fraction

/-- The exact text in the largest unit of which there is at least one. -/
def text (d : Span) : String :=
  if d.seconds ≠ 0 then String.ofList (withFraction d.seconds 9 d.nanos) ++ "s"
  else if 1000000 ≤ d.nanos then
    String.ofList (withFraction (d.nanos / 1000000) 6 (d.nanos % 1000000)) ++ "ms"
  else if 1000 ≤ d.nanos then
    String.ofList (withFraction (d.nanos / 1000) 3 (d.nanos % 1000)) ++ "µs"
  else s!"{d.nanos}ns"

/-- The seconds as a floating-point number: the whole part and the fraction are rounded, and then
their sum. -/
def toBinary64 (d : Span) : Binary64 :=
  let whole := Binary64.nearestWord d.seconds 1
  let fraction := Binary64.nearestWord d.nanos billion
  Binary64.addMagnitudes whole fraction

/-- The number of seconds, as a parameter of a request. -/
def secondsText (d : Span) : String := d.toBinary64.text

end Span

end MetricBatch
