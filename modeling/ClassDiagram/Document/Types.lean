import ClassDiagram.Document.Typed
import ClassDiagram.Provider

/-!
# Types from a document

A document is a list of types.  A type has a name and can have a kind, a base, interfaces and
members; a member has a name and a shape and can have a visibility.  A shape is tagged: what kind
it is stands in a field of its own, which can come anywhere, so the other fields are kept until it
was read.
-/

namespace ClassDiagram.Document

open Reader

/-- A single shape of which some fields were read. -/
structure PartialSingle where
  name : Option String := none

structure PartialContainer where
  name : Option String := none
  element : Option (Option String) := none
  arguments : Option (List String) := none
  iterable : Option Bool := none

structure PartialMember where
  name : Option String := none
  visibility : Option Visibility := none
  shape : Option Shape := none

structure PartialType where
  name : Option String := none
  kind : Option Kind := none
  base : Option (Option String) := none
  interfaces : Option (List String) := none
  members : Option (List Member) := none

def singleFields : List (Field FromValue PartialSingle) := [
  ⟨"name", true, (·.name.isSome), fun known value => do
    pure { known with name := some (← textOf value) }⟩]

def containerFields : List (Field FromValue PartialContainer) := [
  ⟨"container", true, (·.name.isSome), fun known value => do
    pure { known with name := some (← textOf value) }⟩,
  ⟨"element", false, (·.element.isSome), fun known value => do
    pure { known with element := some (← optionalTextOf value) }⟩,
  ⟨"type_arguments", false, (·.arguments.isSome), fun known value => do
    pure { known with arguments := some (← textsOf value) }⟩,
  ⟨"iterable", false, (·.iterable.isSome), fun known value => do
    pure { known with iterable := some (← boolOf value) }⟩]

/-- The tag of a shape. -/
inductive ShapeTag where
  | single
  | container
deriving DecidableEq, Repr

def ShapeTag.word : ShapeTag → String
  | single => "single"
  | container => "container"

def tagKey : String := "shape"

/-- The shape with this tag and these other fields. -/
def shapeOf (tag : ShapeTag) (others : Value) : Except Cause Shape :=
  match tag with
  | .single => do
    let known ← recordOf "struct variant TypeShape::Single" singleFields {} others
    pure (.single (← present "name" known.name))
  | .container => do
    let known ← recordOf "struct variant TypeShape::Container" containerFields {} others
    let name ← present "container" known.name
    pure (.container ⟨name, known.element.getD none, known.arguments.getD [],
      known.iterable.getD false⟩)

/-- Reads the tag of a shape. -/
def shapeTag : Reader ShapeTag := do
  let found ← text "variant identifier"
  placed (ofExcept (pick (ShapeTag.single.word, .single) (ShapeTag.container.word, .container)
    found))

/-- Reads a tag in front of the other elements of a list. -/
def taggedElements (left : Nat) : Reader (ShapeTag × Value) := do
  if ← nextElement true then
    let tag ← shapeTag
    let others ← elements true (value left)
    pure (tag, .list others)
  else
    refuse (.missingField tagKey)

def taggedFields (left : Nat) : Reader (ShapeTag × Value) := do
  let (tag, others) ← fields (fun (known, taken) key => do
    if key = tagKey then
      if known.isSome then
        refuse (.duplicateField tagKey)
      else
        colon
        let tag ← shapeTag
        pure (some tag, taken)
    else
      colon
      let content ← value left
      pure (known, (key, content) :: taken)) (none, [])
  let tag ← ofExcept (present tagKey tag)
  pure (tag, .object others.reverse)

def shape (left : Nat) : Reader Shape := do
  let (tag, others) ← match ← valueToken with
    | '[' => descend (left - 1) (inside (taggedElements (left - 1)) closeList)
    | '\x7b' => descend (left - 1) (inside (taggedFields (left - 1)) closeObject)
    | _ => mismatch "internally tagged enum TypeShape"
  ofExcept (shapeOf tag others)

/-- The fields of a member, where so many levels are left for their values. -/
def memberFields (left : Nat) : List (Field Reader PartialMember) := [
  ⟨"name", true, (·.name.isSome), fun known => do
    pure { known with name := some (← anyText) }⟩,
  ⟨"visibility", false, (·.visibility.isSome), fun known => do
    let found ← variant left (Visibility.visible.word, .visible) (Visibility.hidden.word, .hidden)
    pure { known with visibility := some found }⟩,
  ⟨"type", true, (·.shape.isSome), fun known => do
    pure { known with shape := some (← shape left) }⟩]

/-- The member with these fields.  A member is visible unless it says otherwise. -/
def PartialMember.finish (known : PartialMember) : Except Cause Member := do
  let name ← present "name" known.name
  let shape ← present "type" known.shape
  pure ⟨name, known.visibility.getD .visible, shape⟩

def member (left : Nat) : Reader Member :=
  record left "MemberDescriptor" (memberFields (left - 1)) {} PartialMember.finish

/-- The fields of a type, where so many levels are left for their values. -/
def typeFields (left : Nat) : List (Field Reader PartialType) := [
  ⟨"name", true, (·.name.isSome), fun known => do
    pure { known with name := some (← anyText) }⟩,
  ⟨"kind", false, (·.kind.isSome), fun known => do
    let found ← variant left (Kind.classKind.word, .classKind)
      (Kind.interfaceKind.word, .interfaceKind)
    pure { known with kind := some found }⟩,
  ⟨"base", false, (·.base.isSome), fun known => do
    pure { known with base := some (← optionalText) }⟩,
  ⟨"interfaces", false, (·.interfaces.isSome), fun known => do
    pure { known with interfaces := some (← list left anyText) }⟩,
  ⟨"members", false, (·.members.isSome), fun known => do
    pure { known with members := some (← list left (member (left - 1))) }⟩]

/-- The type with these fields.  Without a kind it is a class. -/
def PartialType.finish (known : PartialType) : Except Cause Descriptor := do
  let name ← present "name" known.name
  pure {
    name
    kind := known.kind.getD .classKind
    base := known.base.getD none
    interfaces := known.interfaces.getD []
    members := known.members.getD [] }

def type (left : Nat) : Reader Descriptor :=
  record left "TypeDescriptor" (typeFields (left - 1)) {} PartialType.finish

/-- How deep the values of a document can be nested, but for those that are skipped. -/
def greatestDepth : Nat := 128

/-- Reads a whole document. -/
def types : Reader (List Descriptor) := do
  let found ← list greatestDepth (type (greatestDepth - 1))
  match ← token with
  | none => pure found
  | some _ => failAhead .trailingCharacters

def read (document : String) : Except Failure (List Descriptor) :=
  match types { rest := document.toList } with
  | .done found _ => .ok found
  | .fault fault reached => .error (fault.cause.failureAt (fault.place.getD reached.place))

def provider (document : String) : Provider :=
  ⟨"json", read document⟩

end ClassDiagram.Document
