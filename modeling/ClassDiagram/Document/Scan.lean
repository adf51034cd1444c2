import ClassDiagram.Document.Reader

/-!
# Numbers and texts of a document

Readers for the numbers and the texts of a document, and for skipping either.  A number that is
skipped is not checked for its size, and in a text that is skipped the surrogates need not pair up.
-/

namespace ClassDiagram.Document

open Reader

/-- The cursor behind the decimal digits at the beginning of a text, and the digits. -/
def digitsFrom (cursor : Cursor) (taken : List Char) : List Char → List Char × Cursor
  | [] => (taken.reverse, cursor)
  | c :: rest =>
    if c.isDigit then digitsFrom (cursor.past c rest) (c :: taken) rest
    else (taken.reverse, cursor)

/-- Reads decimal digits, if there are any. -/
def digits : Reader (List Char) := fun cursor =>
  let (found, reached) := digitsFrom cursor [] cursor.rest
  .done found reached

/-- The number that decimal digits stand for. -/
def numberOf (digits : List Char) : Nat :=
  digits.foldl (fun number c => 10 * number + (c.toNat - '0'.toNat)) 0

/-- Reads the digits before the point.  A zero at the beginning stands alone. -/
def wholePart : Reader (List Char) := do
  match ← peek with
  | none => fail .endInValue
  | some c =>
    if c = '0' then
      advance
      match ← peek with
      | some next => if next.isDigit then failAhead .badNumber else pure [c]
      | none => pure [c]
    else if c.isDigit then
      digits
    else
      failAhead .badNumber

/-- Reads a point and the digits behind it, of which there has to be one, if there is a point. -/
def fractionPart (atEnd : Cause) : Reader (Option (List Char)) := do
  if (← peek) = some '.' then
    advance
    let found ← digits
    if found.isEmpty then
      match ← peek with
      | some _ => failAhead .badNumber
      | none => fail atEnd
    else
      pure (some found)
  else
    pure none

/-- Reads an exponent with its sign, if there is one. -/
def exponentPart (atEnd : Cause) : Reader (Option Int) := do
  match ← peek with
  | some 'e' | some 'E' =>
    advance
    let sign ← peek
    if sign = some '+' ∨ sign = some '-' then advance
    match ← peek with
    | none => fail atEnd
    | some c =>
      if c.isDigit then
        let size := numberOf (← digits)
        pure (some (if sign = some '-' then -(size : Int) else size))
      else
        failAhead .badNumber
  | _ => pure none

/-- The greatest integer that is kept as one. -/
def greatestInteger : Nat := Nat.pow 2 64 - 1

/-- The greatest distance below zero of an integer that is kept as one. -/
def greatestNegative : Nat := Nat.pow 2 63

/-- The number with these parts; none if it is too large.  Zero with a minus sign is a fraction, and
so is an integer that does not fit into 64 bits. -/
def Number.ofParts? (negative : Bool) (whole : List Char) (fraction : Option (List Char))
    (exponent : Option Int) : Option Number :=
  let fractionDigits := fraction.getD []
  let isInteger := fraction.isNone && exponent.isNone &&
    (if negative then 0 < numberOf whole && numberOf whole ≤ greatestNegative
      else numberOf whole ≤ greatestInteger)
  if isInteger then
    let size : Int := numberOf whole
    some (.integer (if negative then -size else size))
  else
    (Decimal.Binary.nearest? (numberOf (whole ++ fractionDigits))
      (exponent.getD 0 - fractionDigits.length)).map (.fraction negative)

/-- Reads a number behind its sign. -/
def unsignedNumber (negative : Bool) : Reader Number := do
  let whole ← wholePart
  let fraction ← fractionPart .endInValue
  let exponent ← exponentPart .endInValue
  match Number.ofParts? negative whole fraction exponent with
  | some number => pure number
  | none => fail .tooLarge

/-- Skips a number behind its sign. -/
def skipUnsignedNumber : Reader Unit := do
  match ← peek with
  | none => fail .badNumber
  | some _ =>
    let _ ← wholePart
    let _ ← fractionPart .badNumber
    let _ ← exponentPart .badNumber
    pure ()

def number : Reader Number := do
  if (← peek) = some '-' then
    advance
    unsignedNumber true
  else
    unsignedNumber false

def skipNumber : Reader Unit := do
  if (← peek) = some '-' then
    advance
  skipUnsignedNumber

/-- The value of a hexadecimal digit. -/
def hexValue? (c : Char) : Option Nat :=
  if '0' ≤ c ∧ c ≤ '9' then some (c.toNat - '0'.toNat)
  else if 'a' ≤ c ∧ c ≤ 'f' then some (c.toNat - 'a'.toNat + 10)
  else if 'A' ≤ c ∧ c ≤ 'F' then some (c.toNat - 'A'.toNat + 10)
  else none

/-- Reads the four hexadecimal digits of an escape. -/
def hexEscape : Reader Nat := fun cursor =>
  if byteCount (cursor.rest.take 4) < 4 then
    .fault ⟨.endInText, some (cursor.placeAfter 4 cursor.rest)⟩ cursor
  else
    match (cursor.rest.take 4).mapM hexValue? with
    | some values =>
      .done (values.foldl (16 * · + ·) 0)
        cursor.advance.advance.advance.advance
    | none => .fault ⟨.badEscape, some (cursor.placeAfter 4 cursor.rest)⟩ cursor

def isLeading (unit : Nat) : Bool := 0xD800 ≤ unit && unit ≤ 0xDBFF

def isTrailing (unit : Nat) : Bool := 0xDC00 ≤ unit && unit ≤ 0xDFFF

/-- Reads a given character inside the second half of a pair. -/
def pairMark (expected : Char) : Reader Unit := do
  match ← peek with
  | none => fail .endInText
  | some c => if c = expected then advance else failAhead .cutSurrogates

/-- Reads what follows the letter of a numeric escape. -/
def unitEscape : Reader Char := do
  let unit ← hexEscape
  if isTrailing unit then
    fail .loneSurrogate
  else if isLeading unit then
    pairMark '\\'
    pairMark 'u'
    let second ← hexEscape
    if isTrailing second then
      pure (Char.ofNat (0x10000 + (unit - 0xD800) * 0x400 + (second - 0xDC00)))
    else
      fail .loneSurrogate
  else
    pure (Char.ofNat unit)

/-- The character that a letter behind a backslash stands for. -/
def escaped? : Char → Option Char
  | '"' => some '"'
  | '\\' => some '\\'
  | '/' => some '/'
  | 'b' => some '\x08'
  | 'f' => some '\x0c'
  | 'n' => some '\n'
  | 'r' => some '\r'
  | 't' => some '\t'
  | _ => none

/-- Reads what follows a backslash, with a reader for what follows the letter of a numeric
escape. -/
def escape (numeric : Reader Char) : Reader Char := do
  match ← peek with
  | none => fail .endInText
  | some letter =>
    match escaped? letter with
    | some c =>
      advance
      pure c
    | none =>
      if letter = 'u' then
        advance
        numeric
      else
        failAhead .badEscape

/-- Reads one more character of a text, up to the closing quotation mark. -/
def textStep (numeric : Reader Char) (control : Reader Char) (taken : List Char) :
    Reader (Option (List Char)) := do
  match ← peek with
  | none => fail .endInText
  | some '"' => pure none
  | some '\\' =>
    advance
    let c ← escape numeric
    pure (some (c :: taken))
  | some c =>
    if c.toNat < 0x20 then
      let instead ← control
      pure (some (instead :: taken))
    else
      advance
      pure (some (c :: taken))

/-- Reads a text behind its opening quotation mark. -/
def textBody : Reader String := do
  let taken ← repeated (textStep unitEscape (failAhead .controlCharacter)) []
  advance
  pure (String.ofList taken.reverse)

/-- Skips a text behind its opening quotation mark.  Any four digits make an escape. -/
def skipTextBody : Reader Unit := do
  let numeric : Reader Char := do
    let _ ← hexEscape
    pure ' '
  let _ ← repeated (textStep numeric (fail .controlCharacter)) []
  advance

end ClassDiagram.Document
