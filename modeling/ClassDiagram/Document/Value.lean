import ClassDiagram.Decimal.Shortest

/-!
# Values of a document

A `Value` is any value that a JSON document can hold.  Numbers are kept only to be told apart and
shown: an integer that fits into 64 bits is kept as such, any other number by its nearest binary
fraction.
-/

namespace ClassDiagram.Document

/-- A number of a document. -/
inductive Number where
  | integer (value : Int)
  | fraction (negative : Bool) (magnitude : Decimal.Binary)
deriving DecidableEq, Repr

/-- A value of a document. -/
inductive Value where
  | null
  | bool (value : Bool)
  | number (value : Number)
  | text (content : String)
  | list (elements : List Value)
  | object (fields : List (String × Value))
deriving Repr

/-- Digits with the point behind the first `point` of them, and zeros where digits are missing. -/
def positional (digits : List Char) (point : Int) : List Char :=
  if point ≤ 0 then
    ['0', '.'] ++ List.replicate (-point).toNat '0' ++ digits
  else if digits.length ≤ point.toNat then
    digits ++ List.replicate (point.toNat - digits.length) '0' ++ ['.', '0']
  else
    digits.take point.toNat ++ '.' :: digits.drop point.toNat

/-- Digits with the point behind the first and an exponent of at least two digits. -/
def scientific (digits : List Char) (point : Int) : List Char :=
  let exponent := point - 1
  let size := Nat.toDigits 10 exponent.natAbs
  let fraction := if digits.length ≤ 1 then [] else '.' :: digits.drop 1
  digits.take 1 ++ fraction ++ ['e', if exponent < 0 then '-' else '+'] ++
    List.replicate (2 - size.length) '0' ++ size

/-- A decimal as it is shown: with a point and without an exponent if the first digit is at most
four places behind the point or sixteen before it. -/
def shownDecimal (decimal : Decimal.Digits) : List Char :=
  let digits := Nat.toDigits 10 decimal.digits
  let point := (digits.length : Int) + decimal.exponent
  if decimal.digits = 0 then ['0', '.', '0']
  else if -4 < point ∧ point ≤ 16 then positional digits point
  else scientific digits point

def Number.description : Number → String
  | integer value => "integer `" ++ toString value ++ "`"
  | fraction negative magnitude =>
    "floating point `" ++ (if negative then "-" else "") ++
      String.ofList (shownDecimal magnitude.shortest) ++ "`"

end ClassDiagram.Document
