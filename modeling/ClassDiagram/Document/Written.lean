import ClassDiagram.Descriptor
import ClassDiagram.Document.Types

/-!
# Writing a document

`written` is the document of a list of types: every field of every type in a fixed order, each
element and each field on a line of its own, two spaces farther in than its list or object.
-/

namespace ClassDiagram.Document

/-- A character of a text as it is written. -/
def writtenChar (c : Char) : List Char :=
  match c with
  | '"' => ['\\', '"']
  | '\\' => ['\\', '\\']
  | '\x08' => ['\\', 'b']
  | '\x0c' => ['\\', 'f']
  | '\n' => ['\\', 'n']
  | '\r' => ['\\', 'r']
  | '\t' => ['\\', 't']
  | c =>
    if c.toNat < 0x20 then
      ['\\', 'u', '0', '0', Nat.digitChar (c.toNat / 16), Nat.digitChar (c.toNat % 16)]
    else
      [c]

/-- A text as it is written. -/
def writtenText (text : List Char) : List Char :=
  '"' :: text.flatMap writtenChar ++ ['"']

/-- A new line, so many levels in. -/
def newLine (level : Nat) : List Char :=
  '\n' :: List.replicate (2 * level) ' '

/-- Parts between brackets, each on a line of its own. -/
def bracketedLines (left right : Char) (level : Nat) : List (List Char) → List Char
  | [] => [left, right]
  | first :: more =>
    left :: newLine (level + 1) ++ first ++
      more.flatMap (fun part => ',' :: newLine (level + 1) ++ part) ++ newLine level ++ [right]

mutual

/-- A value as it is written, so many levels in. -/
def Value.written (level : Nat) : Value → List Char
  | .null => ['n', 'u', 'l', 'l']
  | .bool true => ['t', 'r', 'u', 'e']
  | .bool false => ['f', 'a', 'l', 's', 'e']
  | .number (.integer size) => (toString size).toList
  | .number (.fraction negative magnitude) =>
    (if negative then ['-'] else []) ++ shownDecimal magnitude.shortest
  | .text content => writtenText content.toList
  | .list values => bracketedLines '[' ']' level (writtenValues (level + 1) values)
  | .object entries => bracketedLines '\x7b' '\x7d' level (writtenEntries (level + 1) entries)

def writtenValues (level : Nat) : List Value → List (List Char)
  | [] => []
  | first :: more => first.written level :: writtenValues level more

def writtenEntries (level : Nat) : List (String × Value) → List (List Char)
  | [] => []
  | (key, content) :: more =>
    (writtenText key.toList ++ ':' :: ' ' :: content.written level) :: writtenEntries level more

end

/-- Texts as a value. -/
def valueOfTexts (texts : List String) : Value :=
  .list (texts.map .text)

def valueOfOptional : Option String → Value
  | none => .null
  | some content => .text content

/-- A shape as a value. -/
def valueOfShape : Shape → Value
  | .single name => .object [(tagKey, .text ShapeTag.single.word), ("name", .text name)]
  | .container c => .object [
      (tagKey, .text ShapeTag.container.word),
      ("container", .text c.name),
      ("element", valueOfOptional c.element),
      ("type_arguments", valueOfTexts c.arguments),
      ("iterable", .bool c.iterable)]

def valueOfMember (member : Member) : Value :=
  .object [
    ("name", .text member.name),
    ("visibility", .text member.visibility.word),
    ("type", valueOfShape member.shape)]

def valueOfType (descriptor : Descriptor) : Value :=
  .object [
    ("name", .text descriptor.name),
    ("kind", .text descriptor.kind.word),
    ("base", valueOfOptional descriptor.base),
    ("interfaces", valueOfTexts descriptor.interfaces),
    ("members", .list (descriptor.members.map valueOfMember))]

def written (types : List Descriptor) : String :=
  String.ofList ((Value.list (types.map valueOfType)).written 0)

end ClassDiagram.Document
