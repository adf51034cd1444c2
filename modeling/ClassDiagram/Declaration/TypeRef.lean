import ClassDiagram.Descriptor

/-!
# Written types

A `TypeRef` is a type as it is written in a declaration: a name, arguments in angle brackets, and
any number of array brackets.  `TypeRef.display` writes it down again, and `TypeRef.shape` says what
a member of that type looks like.
-/

namespace ClassDiagram.Declaration

/-- A type as written. -/
structure TypeRef where
  name : String
  arguments : List TypeRef
  /-- The number of array brackets. -/
  rank : Nat
deriving Repr

mutual

/-- The text of a written type, with one space behind every comma. -/
def TypeRef.display : TypeRef → String
  | ⟨name, arguments, rank⟩ =>
    let list :=
      if arguments.isEmpty then "" else "<" ++ ", ".intercalate (displayAll arguments) ++ ">"
    name ++ list ++ String.join (List.replicate rank "[]")

def displayAll : List TypeRef → List String
  | [] => []
  | first :: more => first.display :: displayAll more

end

/-- The containers that range over their first argument unless told otherwise. -/
def usualContainers : List String :=
  ["List", "IList", "ICollection", "IEnumerable", "Vec", "VecDeque", "HashSet", "BTreeSet", "Set",
    "Collection", "Array", "Sequence", "Iterable"]

/-- The shape of a member of a written type, where `iterable` says which containers range over
their first argument.  An array ranges over the type with one pair of brackets less. -/
def TypeRef.shape (iterable : String → Bool) (type : TypeRef) : Shape :=
  match type.rank, type.arguments with
  | rank + 1, arguments => .array (TypeRef.display ⟨type.name, arguments, rank⟩)
  | 0, [] => .single type.name
  | 0, arguments =>
    let texts := displayAll arguments
    if iterable type.name then
      .container ⟨type.name, texts.head?, texts, true⟩
    else
      .wrapper type.name texts

end ClassDiagram.Declaration
