import ClassDiagram.Declaration.Reader
import ClassDiagram.Text.Identifier

/-!
# Words and white space of the declaration language

White space is the space, the tab, the line feed and the carriage return; within a line it is the
space and the tab.  A comment begins with two slashes and goes to the end of its line.  Words are
taken as long as they are: a keyword is an identifier whose text is compared afterwards, so no
keyword is the beginning of a longer word, and any keyword can also be a name.
-/

namespace ClassDiagram.Declaration

open Reader

/-- The characters of white space. -/
def blankCharacters : List Char := [' ', '\t', '\n', '\r']

/-- The characters of white space within a line. -/
def inlineBlankCharacters : List Char := [' ', '\t']

/-- Reads white space, if there is any. -/
def blanks : Reader Unit := do
  let _ ← allOf blankCharacters
  pure ()

/-- Reads white space, of which there has to be some. -/
def requiredBlanks : Reader Unit := do
  let _ ← oneOf blankCharacters
  blanks

/-- Reads white space within a line, if there is any. -/
def inlineBlanks : Reader Unit := do
  let _ ← allOf inlineBlankCharacters
  pure ()

/-- Reads a comment up to the line break behind it. -/
def lineComment : Reader Unit := do
  characters ['/', '/']
  let _ ← spanning (· != '\n') .missed [.anything]
  pure ()

/-- Reads white space and comments in any order, if there are any. -/
def trivia : Reader Unit := do
  let _ ← many (either (do
    let _ ← oneOf blankCharacters
    pure ()) lineComment)
  pure ()

def identifier : Reader (List Char) := do
  let first ← satisfying Text.isIdentifierStart .judged [.identifier]
  (first :: ·) <$> spanning Text.isIdentifierPart .judged [.identifier]

/-- Reads a given word.  Another word in its place is a mistake from its first character on, and
what was remarked inside it is forgotten; otherwise what was remarked counts as one judgement. -/
def keyword (word : List Char) : Reader Unit := fun cursor =>
  let step := identifier cursor
  let judgement := ((settle step.remarks).map Remark.judged).toList
  match step.result with
  | none => ⟨judgement, none⟩
  | some (found, reached) =>
    if found = word then
      ⟨judgement, some ((), reached)⟩
    else
      ⟨[.judged ⟨cursor.offset, [.word (String.ofList word)], none⟩], none⟩

/-- Identifiers joined by dots. -/
def dotted : List (List Char) → List Char
  | [] => []
  | [only] => only
  | first :: more => first ++ '.' :: dotted more

/-- Reads the name of a type: identifiers joined by dots. -/
def typeName : Reader String := do
  let parts ← separated identifier (character '.')
  pure (String.ofList (dotted parts))

end ClassDiagram.Declaration
