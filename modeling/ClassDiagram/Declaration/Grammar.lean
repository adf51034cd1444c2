import ClassDiagram.Declaration.Lexical
import ClassDiagram.Declaration.TypeRef

/-!
# The declaration language

    interface IShiny
    class Bird extends Animal
    class Key implements IShiny, INotch {
        +shine: IShiny
        -secret: Secret;
        notches: List<INotch>
        teeth: Tooth[]
    }

A source is a sequence of declarations with white space and comments between them.  Comments are
allowed wherever a declaration or a member could begin, and nowhere else.  A member may be marked
with a visibility, and nothing has to stand between two members.
-/

namespace ClassDiagram.Declaration

open Reader

/-- A member as written. -/
structure WrittenMember where
  visibility : Option Visibility
  name : String
  type : TypeRef

/-- A declaration as written. -/
structure WrittenType where
  kind : Kind
  name : String
  base : Option String
  interfaces : List String
  members : List WrittenMember

/-- Reads an argument of a written type with the white space around it. -/
def argument (type : Reader TypeRef) : Reader TypeRef := do
  inlineBlanks
  let argument ← type
  inlineBlanks
  pure argument

/-- Reads the arguments of a written type in angle brackets. -/
def argumentList (type : Reader TypeRef) : Reader (List TypeRef) := do
  character '<'
  let arguments ← separated (argument type) (character ',')
  character '>'
  pure arguments

/-- Reads a written type in which arguments are nested less than `depth` deep. -/
def typeRefWithin : Nat → Reader TypeRef
  | 0 => refuse
  | depth + 1 => do
    let name ← typeName
    let arguments ← optional (argumentList (typeRefWithin depth))
    let brackets ← many (characters ['[', ']'])
    pure ⟨name, arguments.getD [], brackets.length⟩

/-- Reads a written type.  Each level of nesting takes a character of its own, so the characters
left bound the depth. -/
def typeRef : Reader TypeRef := fun cursor =>
  typeRefWithin (cursor.rest.length + 1) cursor

/-- The characters that mark a member's visibility. -/
def visibilityMarks : List Char := ['+', '-', '#', '~']

/-- Reads a semicolon with the white space in front of it. -/
def semicolon : Reader Unit := do
  inlineBlanks
  character ';'

def member : Reader WrittenMember := do
  let mark ← optional (oneOf visibilityMarks)
  inlineBlanks
  let name ← identifier
  inlineBlanks
  character ':'
  inlineBlanks
  let type ← typeRef
  let _ ← optional semicolon
  pure ⟨mark.bind Visibility.ofMark?, String.ofList name, type⟩

/-- Reads a clause that begins with a word of its own. -/
def clause {α : Type} (word : List Char) (reader : Reader α) : Reader α := do
  requiredBlanks
  keyword word
  requiredBlanks
  reader

/-- Reads something and the trivia behind it. -/
def trailed {α : Type} (reader : Reader α) : Reader α := do
  let value ← reader
  trivia
  pure value

/-- Reads the members between braces. -/
def body : Reader (List WrittenMember) := do
  blanks
  character '\x7b'
  trivia
  let members ← many (trailed member)
  character '\x7d'
  pure members

/-- Reads the word that opens a declaration. -/
def kind : Reader Kind :=
  either
    (do
      keyword ['c', 'l', 'a', 's', 's']
      pure .classKind)
    (do
      keyword ['i', 'n', 't', 'e', 'r', 'f', 'a', 'c', 'e']
      pure .interfaceKind)

/-- Reads a comma with white space on both sides. -/
def comma : Reader Unit := do
  blanks
  character ','
  blanks

def declaration : Reader WrittenType := do
  let kind ← kind
  requiredBlanks
  let name ← typeName
  let base ← optional (clause ['e', 'x', 't', 'e', 'n', 'd', 's'] typeName)
  let interfaces ← optional
    (clause ['i', 'm', 'p', 'l', 'e', 'm', 'e', 'n', 't', 's'] (separated typeName comma))
  let members ← optional body
  pure ⟨kind, name, base, interfaces.getD [], members.getD []⟩

/-- Reads a whole source. -/
def source : Reader (List WrittenType) := do
  trivia
  let declarations ← many (trailed declaration)
  atEnd
  pure declarations

/-- Reads a text that is nothing but a written type. -/
def wholeTypeRef : Reader TypeRef := do
  let type ← typeRef
  atEnd
  pure type

end ClassDiagram.Declaration
