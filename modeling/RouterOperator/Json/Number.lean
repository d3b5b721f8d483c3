import RouterOperator.Binary64.Shortest
import RouterOperator.Json.Basic
import RouterOperator.Text.Digits

/-!
# Numbers in JSON text

A number is an integer when it has neither fraction nor exponent and fits 64 bits; any other number
is a decimal, which must lie in the range of binary floating point numbers of 64 bits. A decimal is
read as its leading digits, as many as fit 64 bits, times or divided by a power of ten: both are
brought to the nearest binary number, and then their product or quotient is. It is written as the
shortest decimal of its value.
-/

namespace RouterOperator.Json

/-- The greatest integer of 64 bits. -/
def maxMagnitude : Nat := 18446744073709551615

/-- The digits of a number that are counted, and the power of ten they are multiplied with. -/
structure Scaled where
  digits : Nat
  exponent : Int
  full : Bool := false

namespace Scaled

/-- Counts a digit before the point. The first digit that does not fit and all that follow it only
raise the exponent. -/
def addWhole (scaled : Scaled) (digit : Nat) : Scaled :=
  let longer := 10 * scaled.digits + digit
  if !scaled.full && longer ≤ maxMagnitude then { scaled with digits := longer }
  else { scaled with exponent := scaled.exponent + 1, full := true }

/-- Counts a digit after the point. The first digit that does not fit and all that follow it are
left out. -/
def addFraction (scaled : Scaled) (digit : Nat) : Scaled :=
  let longer := 10 * scaled.digits + digit
  if !scaled.full && longer ≤ maxMagnitude then
    { scaled with digits := longer, exponent := scaled.exponent - 1 }
  else { scaled with full := true }

/-- The number with these digits before and after the point and this exponent. -/
def of (whole fraction : List Char) (exponent : Int) : Scaled :=
  let digit (c : Char) : Nat := c.toNat - '0'.toNat
  let counted := whole.foldl (fun scaled c => addWhole scaled (digit c)) ⟨0, 0, false⟩
  let counted := fraction.foldl (fun scaled c => addFraction scaled (digit c))
    { counted with full := false }
  { counted with exponent := counted.exponent + exponent }

end Scaled

/-- The power of ten as a binary number. -/
def powerOfTen (exponent : Nat) : Binary64 := .ofNat (Nat.pow 10 exponent)

/-- The value of a number, if it lies in the range. The greatest power of ten in the range has 308
zeros. A number times a larger one is beyond the range; a division by a larger one takes two steps,
and what two steps do not reach is zero. -/
def Scaled.value? (scaled : Scaled) : Option Binary64 :=
  let start := Binary64.ofNat scaled.digits
  let size := scaled.exponent.natAbs
  if scaled.digits = 0 then some .zero
  else if 0 ≤ scaled.exponent then
    if size ≤ 308 then some (start.mul (powerOfTen size)) |>.filter Binary64.isFinite else none
  else if size ≤ 308 then some (start.div (powerOfTen size))
  else if size ≤ 616 then
    some ((start.div (powerOfTen 308)).div (powerOfTen (size - 308)))
  else some .zero

/-- The digits of a fraction, and what follows them. Without a point there is no fraction, and after
a point there must be a digit. -/
def splitFraction? : List Char → Option (List Char × List Char)
  | '.' :: rest =>
    let digits := rest.takeWhile Char.isDigit
    if digits.isEmpty then none else some (digits, rest.dropWhile Char.isDigit)
  | rest => some ([], rest)

/-- The value of an exponent; without one it is zero. -/
def exponent? : List Char → Option Int
  | [] => some 0
  | letter :: rest =>
    let (negative, digits) := match rest with
      | '-' :: digits => (true, digits)
      | '+' :: digits => (false, digits)
      | digits => (false, digits)
    if (letter = 'e' || letter = 'E') && !digits.isEmpty && digits.all Char.isDigit then
      let value : Int := Text.digitsValue digits
      some (if negative then -value else value)
    else none

/-- The integer of this sign and magnitude. A negative zero is none, nor is one that does not fit 64
bits, signed or unsigned. -/
def whole? (negative : Bool) (magnitude : Nat) : Option Json :=
  if negative then
    if magnitude = 0 || 9223372036854775808 < magnitude then none else some (integer (-magnitude))
  else if maxMagnitude < magnitude then none
  else some (integer magnitude)

/-- A number. One beyond the range of numbers stands for no value. -/
def number? (word : List Char) : Option Json := do
  let (negative, body) := match word with
    | '-' :: rest => (true, rest)
    | _ => (false, word)
  let digits := body.takeWhile Char.isDigit
  let tail := body.dropWhile Char.isDigit
  let leadingZero := match digits with
    | '0' :: _ :: _ => true
    | _ => false
  if digits.isEmpty || leadingZero then none
  else
    let (fraction, rest) ← splitFraction? tail
    let exponent ← exponent? rest
    match if tail.isEmpty then whole? negative (Text.digitsValue digits) else none with
    | some value => return value
    | none =>
      match (Scaled.of digits fraction exponent).value? with
      | some value => return decimal negative value
      | none => return unreadable

/-- Digits with an exponent: the first digit before the point, and no point if there is no other. -/
def withExponent (digits : List Char) (lead : Int) : List Char :=
  let fraction := digits.drop 1
  digits.take 1 ++ (if fraction.isEmpty then [] else '.' :: fraction) ++
    ['e', if lead < 0 then '-' else '+'] ++ (toString lead.natAbs).toList

/-- Digits by place value: at least one digit on either side of the point. -/
def withPoint (digits : List Char) (lead : Int) : List Char :=
  if lead < 0 then ['0', '.'] ++ List.replicate (lead.natAbs - 1) '0' ++ digits
  else
    let size := lead.toNat + 1
    let fraction := digits.drop size
    digits.take size ++ List.replicate (size - digits.length) '0' ++
      '.' :: (if fraction.isEmpty then ['0'] else fraction)

/-- A decimal as it is written: by place value if the leading digit stands at most sixteen places
before or five places after the point, and otherwise with an exponent. -/
def decimalText (negative : Bool) (value : Binary64) : String :=
  let sign := if negative then ['-'] else []
  if value.mantissa = 0 then String.ofList (sign ++ ['0', '.', '0'])
  else
    let decimal := value.shortest
    let digits := (toString decimal.digits).toList
    let lead := decimal.exponent + digits.length - 1
    let significant := (digits.reverse.dropWhile (· = '0')).reverse
    String.ofList <| sign ++
      if -5 ≤ lead ∧ lead < 16 then withPoint significant lead else withExponent significant lead

end RouterOperator.Json
