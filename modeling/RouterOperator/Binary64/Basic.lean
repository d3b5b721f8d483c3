/-!
# Binary floating point numbers

A `Binary64` is a number that binary floating point of 64 bits can hold, without its sign: a
mantissa of at most 53 bits times a power of two that is not below the least one. Operations are
exact on naturals and give the number nearest to their result, of two equally near ones that with
the even mantissa. The result may lie beyond the range; `isFinite` tells.
-/

namespace RouterOperator

/-- A mantissa times a power of two. -/
structure Binary64 where
  mantissa : Nat
  exponent : Int
deriving DecidableEq, Inhabited

namespace Binary64

/-- The least exponent. -/
def leastExponent : Int := -1074

/-- The number zero. -/
def zero : Binary64 := ⟨0, leastExponent⟩

/-- The fraction `num / den` times a power, as a numerator and a denominator. -/
def scaled (base : Nat) (exponent : Int) (num den : Nat) : Nat × Nat :=
  (num * Nat.pow base exponent.toNat, den * Nat.pow base (-exponent).toNat)

/-- The natural number nearest to a fraction; a half goes to the even neighbour. -/
def nearestNat (num den : Nat) : Nat :=
  let quotient := num / den
  let rest := num % den
  if den < 2 * rest || (2 * rest = den && quotient % 2 = 1) then quotient + 1 else quotient

/-- The exponent of the greatest power of two that a fraction above zero reaches. -/
def floorLog (num den : Nat) : Int :=
  let guess : Int := num.log2 - den.log2
  let (num, den) := scaled 2 (-guess) num den
  if den ≤ num then guess else guess - 1

/-- The number nearest to a fraction. -/
def nearest (num den : Nat) : Binary64 :=
  if num = 0 then zero
  else
    let full := floorLog num den - 52
    let exponent := if full < leastExponent then leastExponent else full
    let (num, den) := scaled 2 (-exponent) num den
    let mantissa := nearestNat num den
    if mantissa < Nat.pow 2 53 then ⟨mantissa, exponent⟩ else ⟨Nat.pow 2 52, exponent + 1⟩

/-- The number nearest to a natural number. -/
def ofNat (n : Nat) : Binary64 := nearest n 1

/-- A number as a fraction. -/
def fraction (number : Binary64) : Nat × Nat := scaled 2 number.exponent number.mantissa 1

/-- The number nearest to a product. -/
def mul (left right : Binary64) : Binary64 :=
  let (num, den) :=
    scaled 2 (left.exponent + right.exponent) (left.mantissa * right.mantissa) 1
  nearest num den

/-- The number nearest to a quotient. -/
def div (left right : Binary64) : Binary64 :=
  let (num, den) := scaled 2 (left.exponent - right.exponent) left.mantissa right.mantissa
  nearest num den

/-- Whether a number lies in the range. -/
def isFinite (number : Binary64) : Bool := number.exponent ≤ 971

end Binary64

end RouterOperator
