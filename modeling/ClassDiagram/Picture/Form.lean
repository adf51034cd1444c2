import ClassDiagram.Text.Utf8

/-!
# Form fields

The encoding `application/x-www-form-urlencoded`: letters, digits and `*-._` stand for themselves, a
space is written as a plus sign, and every other byte as a percent sign and two hexadecimal digits.
-/

namespace ClassDiagram.Picture

/-- A hexadecimal digit in upper case. -/
def upperHexDigit (n : Nat) : Char :=
  if n < 10 then Char.ofNat ('0'.toNat + n) else Char.ofNat ('A'.toNat + (n - 10))

/-- A byte as a percent sign and two digits. -/
def percentByte (byte : UInt8) : List Char :=
  ['%', upperHexDigit (byte.toNat / 16), upperHexDigit (byte.toNat % 16)]

namespace Form

/-- Whether a character stands for itself in a form field. -/
def isPlain (c : Char) : Bool :=
  c.isAlphanum || c == '*' || c == '-' || c == '.' || c == '_'

/-- A byte of a form field. -/
def encodeByte (byte : UInt8) : List Char :=
  let c := Char.ofNat byte.toNat
  if byte.toNat < 0x80 && isPlain c then [c]
  else if c = ' ' then ['+']
  else percentByte byte

/-- A text as a form field. -/
def encode (text : List Char) : List Char :=
  (Text.Utf8.encode text).flatMap encodeByte

def body (name text : List Char) : List Char :=
  encode name ++ '=' :: encode text

end Form

end ClassDiagram.Picture
