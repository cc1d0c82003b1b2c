/-!
# Spans of time

Spans of time and instants of a clock, both in whole nanoseconds; an instant is the span since the
clock started.

## Main definitions

- `Duration`, `Instant` — a span, and a point of time as the span before it
- `Duration.ofMillis`, `Duration.ofSecs` — spans from larger units
- `Duration.ages` — a span for waiting without a limit
- `Instant.horizon` — where the clock ends
- `Duration.toText` — the shortest exact text of a span

## Design notes

A span is shown in the largest of the units `s`, `ms`, `µs` and `ns` that it holds at least once,
with its exact decimal fraction and no trailing zeros.
-/

namespace PubSub

/-- A span of time in whole nanoseconds. -/
abbrev Duration := Nat

/-- A point of time, as the span since the clock started. -/
abbrev Instant := Nat

namespace Duration

/-- A span of whole milliseconds. -/
def ofMillis (n : Nat) : Duration := n * 1000000

/-- A span of whole seconds. -/
def ofSecs (n : Nat) : Duration := n * 1000000000

/-- A span longer than anybody waits. -/
def ages : Duration := ofSecs 1000000000000

/-- The last `width` decimal digits of `n`, leading zeros kept. -/
def lowDigits : Nat → Nat → List Char
  | 0, _ => []
  | width + 1, n => lowDigits width (n / 10) ++ [Nat.digitChar (n % 10)]

/-- The list without the zeros at its end. -/
def dropTrailingZeros (digits : List Char) : List Char :=
  (digits.reverse.dropWhile (· == '0')).reverse

/-- `n` in units of `10 ^ places`, with its exact fraction. -/
def inUnit (n places : Nat) (unit : String) : String :=
  let fraction := dropTrailingZeros (lowDigits places n)
  let point := if fraction.isEmpty then "" else "." ++ String.ofList fraction
  toString (n / Nat.pow 10 places) ++ point ++ unit

/-- The text of a span in the largest unit that it holds at least once. -/
def toText (d : Duration) : String :=
  if ofSecs 1 ≤ d then inUnit d 9 "s"
  else if ofMillis 1 ≤ d then inUnit d 6 "ms"
  else if 1000 ≤ d then inUnit d 3 "µs"
  else inUnit d 0 "ns"

end Duration

/-- The first instant that the clock cannot hold: it counts whole seconds in 63 bits. -/
def Instant.horizon : Instant := Duration.ofSecs (Nat.pow 2 63)

end PubSub
