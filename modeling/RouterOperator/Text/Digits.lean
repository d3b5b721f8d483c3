/-!
# Decimal digits

Natural numbers written with a fixed least number of decimal digits, and read from the start of a
text.
-/

namespace RouterOperator.Text

/-- A number with leading zeros up to this many digits. -/
def padded (width : Nat) (n : Nat) : List Char :=
  let digits := (toString n).toList
  List.replicate (width - digits.length) '0' ++ digits

/-- The value of decimal digits. -/
def digitsValue (digits : List Char) : Nat :=
  digits.foldl (fun value c => 10 * value + (c.toNat - '0'.toNat)) 0

/-- Reads at least one and at most `limit` digits, and gives the text after them. -/
def digits? (limit : Nat) (cs : List Char) : Option (Nat × List Char) :=
  let digits := (cs.take limit).takeWhile Char.isDigit
  if digits.isEmpty then none else some (digitsValue digits, cs.drop digits.length)

/-- Reads one given character, and gives the text after it. -/
def literal? (expected : Char) : List Char → Option (List Char)
  | c :: rest => if c = expected then some rest else none
  | [] => none

end RouterOperator.Text
