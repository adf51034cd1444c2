import ClassDiagram.Decimal.Binary

/-!
# The fewest digits that read back

The reals that round to a `Binary` form an interval, which holds its ends exactly when the mantissa
is even.  Of the decimals in the interval `Binary.shortest` takes one with the fewest digits, and of
those the nearest: on the grids of one digit, two digits and so on it tries the two neighbours of
the number, and the first grid with a hit decides.
-/

namespace ClassDiagram.Decimal

/-- The decimal `digits * 10 ^ exponent`. -/
structure Digits where
  digits : Nat
  exponent : Int
deriving DecidableEq, Repr

namespace Binary

/-- Whether the next smaller number is only half as far away as the next larger one. -/
def isNarrowBelow (number : Binary) : Bool :=
  number.mantissa == Nat.pow 2 52 && -1074 < number.exponent

/-- Compares a decimal with `quarters` quarters of the last bit of a number. -/
def compareQuarters (number : Binary) (decimal : Digits) (quarters : Nat) : Ordering :=
  let left := scaled decimal.digits 10 decimal.exponent
  let right := scaled quarters 2 (number.exponent - 2)
  compare (left.1 * right.2) (right.1 * left.2)

/-- Whether a decimal rounds to a number. -/
def readsBack (number : Binary) (decimal : Digits) : Bool :=
  let below := 4 * number.mantissa - (if number.isNarrowBelow then 1 else 2)
  let above := 4 * number.mantissa + 2
  let closed := number.mantissa % 2 == 0
  let low := number.compareQuarters decimal below
  let high := number.compareQuarters decimal above
  (low == .gt || (closed && low == .eq)) && (high == .lt || (closed && high == .eq))

/-- The better of the two neighbours of a number among the multiples of `10 ^ exponent`, if one of
them reads back. -/
def onGrid? (number : Binary) (exponent : Int) : Option Digits :=
  let value := scaled number.mantissa 2 number.exponent
  let grid := scaled 1 10 exponent
  let numerator := value.1 * grid.2
  let denominator := value.2 * grid.1
  let low := numerator / denominator
  let nearer := divideToEven numerator denominator
  let farther := if nearer = low then low + 1 else low
  if number.readsBack ⟨nearer, exponent⟩ then some ⟨nearer, exponent⟩
  else if number.readsBack ⟨farther, exponent⟩ then some ⟨farther, exponent⟩
  else none

/-- An exponent such that the number is less than that power of ten. -/
def decimalScale (number : Binary) : Int :=
  let value := scaled number.mantissa 2 number.exponent
  if value.2 ≤ value.1 then
    decimalLength (value.1 / value.2)
  else
    2 - (decimalLength (value.2 / value.1) : Int)

end Binary

/-- Moves up to `bound` trailing zeros into the exponent. -/
def Digits.stripped : Nat → Digits → Digits
  | 0, decimal => decimal
  | bound + 1, decimal =>
    if decimal.digits ≠ 0 ∧ decimal.digits % 10 = 0 then
      stripped bound ⟨decimal.digits / 10, decimal.exponent + 1⟩
    else
      decimal

/-- A decimal with the fewest digits among those that round to a number. -/
def Binary.shortest (number : Binary) : Digits :=
  let scale := number.decimalScale
  let found := (List.range 19).findSome? fun (length : Nat) =>
    number.onGrid? (scale - ((length : Int) + 1))
  match found with
  | some decimal => decimal.stripped 20
  | none => ⟨0, 0⟩

end ClassDiagram.Decimal
