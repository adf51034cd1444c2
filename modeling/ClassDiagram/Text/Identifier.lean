import ClassDiagram.Text.IdentifierRanges

/-!
# Characters of identifiers

An identifier begins with a letter or an underscore and goes on with letters, digits, underscores
and marks, in the sense of the Unicode properties XID_Start and XID_Continue.
-/

namespace ClassDiagram.Text

/-- Whether an identifier can begin with this character. -/
def isIdentifierStart (c : Char) : Bool :=
  if c.toNat < 0x80 then c.isAlpha || c == '_' else startRanges.contains c

/-- Whether an identifier can go on with this character. -/
def isIdentifierPart (c : Char) : Bool :=
  if c.toNat < 0x80 then
    c.isAlphanum || c == '_'
  else
    startRanges.contains c || partRanges.contains c

/-- What can begin an identifier can also go on with it. -/
theorem isIdentifierPart_of_isIdentifierStart {c : Char} (start : isIdentifierStart c = true) :
    isIdentifierPart c = true := by
  unfold isIdentifierStart at start
  unfold isIdentifierPart
  split at start
  · rename_i ascii
    simp only [Bool.or_eq_true] at start
    rcases start with letter | underscore
    · simp [ascii, Char.isAlphanum, letter]
    · simp [ascii, underscore]
  · rename_i wide
    simp [wide, start]

end ClassDiagram.Text
