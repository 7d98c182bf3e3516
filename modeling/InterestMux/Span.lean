/-!
# Spans of time

A span is a number of nanoseconds. Its text has the largest unit that the span fills at least
once, and the fraction of it without trailing zeros, never rounded.
-/

namespace InterestMux

/-- A span of time, in nanoseconds. -/
structure Span where
  nanos : Nat
deriving DecidableEq, Repr, Inhabited

namespace Span

/-- The nanoseconds of a second. -/
def perSecond : Nat := 1000000000

/-- The nanoseconds of a millisecond. -/
def perMilli : Nat := 1000000

/-- The span of whole seconds and further nanoseconds. -/
def ofParts (seconds nanos : Nat) : Span :=
  ⟨seconds * perSecond + nanos⟩

/-- The span of whole milliseconds. -/
def ofMillis (millis : Nat) : Span :=
  ⟨millis * perMilli⟩

/-- The whole seconds of a span. -/
def seconds (d : Span) : Nat :=
  d.nanos / perSecond

/-- The nanoseconds of a span beyond its whole seconds. -/
def subsecond (d : Span) : Nat :=
  d.nanos % perSecond

/-- The whole milliseconds of a span. -/
def wholeMillis (d : Span) : Nat :=
  d.nanos / perMilli

/-- The milliseconds of a span, a started one counted in full. -/
def ceilMillis (d : Span) : Nat :=
  (d.nanos + (perMilli - 1)) / perMilli

/-- A fraction of `width` decimal places after the point, without trailing zeros. -/
def fraction (width value : Nat) : String :=
  let digits := Nat.toDigits 10 value
  let padded := List.replicate (width - digits.length) '0' ++ digits
  let kept := (padded.reverse.dropWhile (· == '0')).reverse
  if kept.isEmpty then "" else String.ofList ('.' :: kept)

/-- A count of nanoseconds in a unit of `10 ^ width` of them. -/
def inUnit (nanos width : Nat) (unit : String) : String :=
  let size := Nat.pow 10 width
  toString (nanos / size) ++ fraction width (nanos % size) ++ unit

/-- The text of a span. -/
def text (d : Span) : String :=
  if perSecond ≤ d.nanos then inUnit d.nanos 9 "s"
  else if perMilli ≤ d.nanos then inUnit d.nanos 6 "ms"
  else if 1000 ≤ d.nanos then inUnit d.nanos 3 "µs"
  else inUnit d.nanos 0 "ns"

end Span

end InterestMux
