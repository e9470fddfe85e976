import WordTally.Text.Numeral

set_option autoImplicit false

namespace WordTally

structure Span where
  nanos : Nat
  deriving DecidableEq, Repr, Inhabited

namespace Span

def second : Nat := 1000000000

def millisecond : Nat := 1000000

def microsecond : Nat := 1000

/-- The longest span: 64 bits of seconds and the last nanosecond after them. -/
def longest : Span := ⟨(Text.max64 + 1) * second - 1⟩

def ofMillis (millis : Nat) : Span := ⟨millis * millisecond⟩

def ofSeconds (seconds : Nat) : Span := ⟨seconds * second⟩

/-- Whole milliseconds. A timer is never early, so a part of one counts as one. -/
def millis (span : Span) : Nat := (span.nanos + (millisecond - 1)) / millisecond

/-- A multiple of a span, the longest one when that is exceeded. -/
def times (span : Span) (factor : Nat) : Span := ⟨min (span.nanos * factor) longest.nanos⟩

def shorter (a b : Span) : Span := ⟨min a.nanos b.nanos⟩

def fractionDigits (width fraction : Nat) : List Char :=
  let digits := Nat.toDigits 10 fraction
  let full := List.replicate (width - digits.length) '0' ++ digits
  (full.reverse.dropWhile (· == '0')).reverse

def decimal (width whole fraction : Nat) : String :=
  let digits := fractionDigits width fraction
  toString whole ++ if digits.isEmpty then "" else "." ++ String.ofList digits

/-- A span in the largest unit that keeps it at least one: seconds, milliseconds, microseconds or
nanoseconds. -/
def text (span : Span) : String :=
  let n := span.nanos
  if second ≤ n then decimal 9 (n / second) (n % second) ++ "s"
  else if millisecond ≤ n then decimal 6 (n / millisecond) (n % millisecond) ++ "ms"
  else if microsecond ≤ n then decimal 3 (n / microsecond) (n % microsecond) ++ "µs"
  else toString n ++ "ns"

end Span

end WordTally
