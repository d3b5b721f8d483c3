import RouterOperator.Text.Blank
import RouterOperator.Text.Digits

/-!
# Durations

A span of time in nanoseconds, below 2⁶⁴ seconds. Its text is a sum of numbers, each with a unit,
such as `1h 30m`; blanks mean nothing, even between the digits of a number.
-/

namespace RouterOperator

/-- The number of nanoseconds in a second. -/
def nanosPerSecond : Nat := 1000000000

/-- The least number that does not fit 64 bits, 2⁶⁴. -/
def wordLimit : Nat := 18446744073709551616

/-- A span of time. -/
structure Duration where
  nanos : Nat
  bounded : nanos < wordLimit * nanosPerSecond
deriving DecidableEq

namespace Duration

/-- The duration of so many nanoseconds, if it is not too long. -/
def ofNanos? (nanos : Nat) : Option Duration :=
  if bounded : nanos < wordLimit * nanosPerSecond then some ⟨nanos, bounded⟩ else none

/-- The duration of so many seconds. -/
def ofSeconds (seconds : Nat) (bounded : seconds < wordLimit := by decide) : Duration :=
  ⟨seconds * nanosPerSecond, Nat.mul_lt_mul_of_pos_right bounded (by decide)⟩

/-- The whole seconds of a duration. -/
def seconds (duration : Duration) : Nat := duration.nanos / nanosPerSecond

/-- The nanoseconds of a duration beyond its whole seconds. -/
def subsecondNanos (duration : Duration) : Nat := duration.nanos % nanosPerSecond

/-- The whole milliseconds of a duration. -/
def milliseconds (duration : Duration) : Nat := duration.nanos / 1000000

/-- The nanoseconds of a unit; a year is the mean year of the seasons. -/
def unit? : String → Option Nat
  | "ns" => some 1
  | "us" => some 1000
  | "ms" => some 1000000
  | "s" => some nanosPerSecond
  | "m" => some (60 * nanosPerSecond)
  | "h" => some (3600 * nanosPerSecond)
  | "d" => some (86400 * nanosPerSecond)
  | "w" => some (604800 * nanosPerSecond)
  | "y" => some (31556926 * nanosPerSecond)
  | _ => none

/-- The nanoseconds of a number below 2⁶⁴ with its unit. -/
def term? (cs : List Char) : Option Nat := do
  let digits := cs.takeWhile Char.isDigit
  let unit ← unit? (String.ofList (cs.dropWhile Char.isDigit))
  if digits.isEmpty || wordLimit ≤ Text.digitsValue digits then none
  else some (Text.digitsValue digits * unit)

/-- The terms of a text: a new one starts where a digit follows something else. -/
def terms (cs : List Char) : List (List Char) :=
  cs.splitBy fun previous next => previous.isDigit || !next.isDigit

/-- Reads a duration, which has at least one term. -/
def parse? (text : String) : Option Duration := do
  let terms := terms (text.toList.filter fun c => !Text.isBlank c)
  if terms.isEmpty then none
  else
    let nanos ← terms.mapM term?
    ofNanos? (nanos.foldl (· + ·) 0)

end Duration

end RouterOperator
