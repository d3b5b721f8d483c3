import RouterOperator.Binary64.Basic

/-!
# The shortest decimal of a number

The decimal that stands for a number has the fewest digits with which it still rounds to that
number, and of the decimals with as many digits it is the nearest one. It is searched for on ever
finer grids of powers of ten, by exact comparison of naturals.
-/

namespace RouterOperator

/-- A natural number times a power of ten. -/
structure Decimal where
  digits : Nat
  exponent : Int
deriving DecidableEq, Inhabited

namespace Binary64

/-- Whether a decimal rounds to this number. The reals that do reach halfway to both neighbours, and
the ends are among them if the mantissa is even. Below a power of two the neighbour is half as far
away as above it, unless the exponent is the least one. -/
def readsBack (number : Binary64) (decimal : Decimal) : Bool :=
  let isNarrow := number.mantissa = Nat.pow 2 52 && leastExponent < number.exponent
  let (num, den) := scaled 10 decimal.exponent decimal.digits 1
  let (quarter, whole) := scaled 2 (number.exponent - 2) 1 1
  let value := num * whole
  let lower := (4 * number.mantissa - if isNarrow then 1 else 2) * (quarter * den)
  let upper := (4 * number.mantissa + 2) * (quarter * den)
  if number.mantissa % 2 = 0 then lower ≤ value && value ≤ upper
  else lower < value && value < upper

/-- Whether a number is at least a power of ten. -/
def reaches (number : Binary64) (exponent : Int) : Bool :=
  let (num, den) := number.fraction
  let (power, unit) := scaled 10 exponent 1 1
  power * den ≤ num * unit

/-- The place of the leading digit: the greatest power of ten that a number above zero reaches. A
binary place is worth a little less than 0.30103 decimal ones. -/
def leadingPlace (number : Binary64) : Int :=
  let (num, den) := number.fraction
  let guess := floorLog num den * 30103 / 100000
  if number.reaches (guess + 1) then guess + 1
  else if number.reaches guess then guess
  else guess - 1

/-- The nearest decimal with its last digit in this place that rounds to the number. Only the two
next to the number can. -/
def decimalAt? (number : Binary64) (place : Int) : Option Decimal :=
  let (num, den) := number.fraction
  let (num, den) := scaled 10 (-place) num den
  let below : Decimal := ⟨num / den, place⟩
  let above : Decimal := ⟨num / den + 1, place⟩
  match number.readsBack below, number.readsBack above with
  | true, true => some ⟨nearestNat num den, place⟩
  | true, false => some below
  | false, true => some above
  | false, false => none

/-- The shortest decimal that rounds to a number above zero. A number has at most 767 digits, so it
lies itself on the last of the grids. -/
def shortest (number : Binary64) : Decimal :=
  let lead := number.leadingPlace
  ((List.range 767).findSome? fun (more : Nat) => number.decimalAt? (lead - more)).getD ⟨0, 0⟩

end Binary64

end RouterOperator
