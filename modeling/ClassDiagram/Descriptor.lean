/-!
# Descriptions of types

A `Descriptor` says what a class or an interface declares: its base, the interfaces it implements
and its members, each with the shape of its written type.  Other types are mentioned by name only;
whether such a name means anything is decided against a catalog.
-/

namespace ClassDiagram

/-- A type is a class or an interface. -/
inductive Kind where
  | classKind
  | interfaceKind
deriving DecidableEq, Repr, Inhabited

def Kind.word : Kind → String
  | classKind => "class"
  | interfaceKind => "interface"

/-- Whether a member can be seen from outside its type. -/
inductive Visibility where
  | visible
  | hidden
deriving DecidableEq, Repr, Inhabited

namespace Visibility

/-- The visibility that a mark in front of a member stands for. -/
def ofMark? : Char → Option Visibility
  | '+' => some visible
  | '-' => some hidden
  | '#' => some hidden
  | '~' => some hidden
  | _ => none

def isVisible : Visibility → Bool
  | visible => true
  | hidden => false

def word : Visibility → String
  | visible => "public"
  | hidden => "non_public"

end Visibility

/-- A generic type with its arguments, or an array. -/
structure Container where
  /-- The name of the generic type itself. -/
  name : String
  /-- What the container holds, when it is known. -/
  element : Option String
  /-- The arguments as written, from left to right. -/
  arguments : List String
  /-- Whether the container holds any number of its element. -/
  iterable : Bool
deriving DecidableEq, Repr

/-- The written type of a member. -/
inductive Shape where
  | single (name : String)
  | container (container : Container)
deriving DecidableEq, Repr

namespace Shape

/-- A collection of one element type, which is also its only argument. -/
def collection (name element : String) : Shape :=
  container ⟨name, some element, [element], true⟩

/-- An array of an element type; an array has no arguments. -/
def array (element : String) : Shape :=
  container ⟨element ++ "[]", some element, [], true⟩

/-- A generic type that does not range over its arguments. -/
def wrapper (name : String) (arguments : List String) : Shape :=
  container ⟨name, none, arguments, false⟩

def typeName : Shape → String
  | single name => name
  | container c => c.name

/-- The type as it is written: the name, and its arguments in angle brackets if it has any. -/
def display : Shape → String
  | single name => name
  | container c =>
    if c.arguments.isEmpty then c.name else c.name ++ "<" ++ ", ".intercalate c.arguments ++ ">"

end Shape

/-- A field or property that a type declares itself. -/
structure Member where
  name : String
  visibility : Visibility
  shape : Shape
deriving DecidableEq, Repr

/-- What a type declares. -/
structure Descriptor where
  name : String
  kind : Kind
  base : Option String
  interfaces : List String
  members : List Member
deriving DecidableEq, Repr

namespace Descriptor

def bare (kind : Kind) (name : String) : Descriptor :=
  ⟨name, kind, none, [], []⟩

def withBase (descriptor : Descriptor) (base : String) : Descriptor :=
  { descriptor with base := some base }

def withInterface (descriptor : Descriptor) (name : String) : Descriptor :=
  { descriptor with interfaces := descriptor.interfaces ++ [name] }

def withMember (descriptor : Descriptor) (member : Member) : Descriptor :=
  { descriptor with members := descriptor.members ++ [member] }

def isInterface (descriptor : Descriptor) : Bool :=
  descriptor.kind == .interfaceKind

end Descriptor

end ClassDiagram
