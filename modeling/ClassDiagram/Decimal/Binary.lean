/-!
# Numbers with 53 significant bits

A `Binary` is a number `mantissa * 2 ^ exponent` with at most 53 bits in its mantissa and an
exponent from -1074 to 971.  `Binary.nearest?` finds the one that is nearest to a decimal, the even
one of two, by exact arithmetic.
-/

namespace ClassDiagram.Decimal

/-- The number `mantissa * 2 ^ exponent`. -/
structure Binary where
  mantissa : Nat
  exponent : Int
deriving DecidableEq, Repr

/-- A quotient rounded to the nearest integer, and half-way to the even one. -/
def divideToEven (numerator denominator : Nat) : Nat :=
  let quotient := numerator / denominator
  let twice := 2 * (numerator % denominator)
  if twice < denominator then quotient
  else if denominator < twice then quotient + 1
  else quotient + quotient % 2

/-- A number times a power of a base, as a fraction. -/
def scaled (number base : Nat) (exponent : Int) : Nat × Nat :=
  (number * base.pow exponent.toNat, base.pow (-exponent).toNat)

def decimalLength (number : Nat) : Nat :=
  (Nat.toDigits 10 number).length

namespace Binary

def zero : Binary := ⟨0, -1074⟩

/-- The number nearest to a positive fraction; none if it would be too large. -/
def nearestFraction? (numerator denominator : Nat) : Option Binary :=
  let guess : Int := (numerator.log2 : Int) - denominator.log2 - 53
  let shifted (exponent : Int) : Nat × Nat :=
    (numerator * Nat.pow 2 (-exponent).toNat, denominator * Nat.pow 2 exponent.toNat)
  let fits := (shifted guess).1 < Nat.pow 2 53 * (shifted guess).2
  let exponent := max (-1074) (if fits then guess else guess + 1)
  let mantissa := divideToEven (shifted exponent).1 (shifted exponent).2
  let rounded : Binary :=
    if mantissa = Nat.pow 2 53 then ⟨Nat.pow 2 52, exponent + 1⟩ else ⟨mantissa, exponent⟩
  if 971 < rounded.exponent then none else some rounded

/-- The number nearest to `digits * 10 ^ exponent`; none if it would be too large.  Decimals far
beyond either end are settled by their size alone. -/
def nearest? (digits : Nat) (exponent : Int) : Option Binary :=
  let magnitude := (decimalLength digits : Int) + exponent
  if digits = 0 then some zero
  else if 310 < magnitude then none
  else if magnitude < -330 then some zero
  else
    let fraction := scaled digits 10 exponent
    nearestFraction? fraction.1 fraction.2

end Binary

end ClassDiagram.Decimal
