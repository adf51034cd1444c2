import ClassDiagram.Association.Index
import ClassDiagram.Relations

/-!
# The entries of a diagram

A diagram is written as a list of entries: nodes, dashed edges, inheritance edges and associations.

    [<<IBirdOfPrey>>;Eagle]         a class with an interface tag
    [<<IAnimalPrey>>]               an interface
    [Bird]^-[Eagle]                 inheritance
    [<<IAnimalPrey>>]^-.-[Swallow]  implementation
    [Eagle]->[Claw]                 an association followed one way
    [A]<->[B]                       an association followed both ways
    [Eagle]1-0..*[Wing]             one way, with a many side
    [A]<1-0..*>[B]                  both ways, with a many side

`Entry.text` writes one entry, `entriesOf` lists those of some relations and an index, and
`emit` joins their texts, each text once.
-/

namespace ClassDiagram

inductive Entry where
  | node (name : String) (kind : Kind)
  | implementation (edge : InterfaceEdge)
  | inheritance (edge : InheritanceEdge)
  | association (edge : Edge)
deriving DecidableEq, Repr

/-- A name marked as an interface. -/
def interfaceTag (name : String) : String :=
  "<<" ++ name ++ ">>"

variable (catalog : Catalog) (config : Config)

/-- The tags that a class carries in front of its name. -/
def inlineTags (descriptor : Descriptor) : List String :=
  if config.isExplicit then [] else catalog.implementedInterfaces descriptor

/-- What stands between the brackets for a name: an interface is marked, a class carries its tags,
and a name that is not in the catalog stands for itself. -/
def label (name : String) : String :=
  match catalog.get? name with
  | none => name
  | some descriptor =>
    if descriptor.isInterface then
      interfaceTag name
    else
      String.join ((inlineTags catalog config descriptor).map (interfaceTag · ++ ";")) ++ name

def bracketed (label : String) : String :=
  "[" ++ label ++ "]"

/-- What stands between the two ends of an association. -/
def Edge.connector (edge : Edge) : String :=
  let ends := edge.firstMultiplicity.display ++ "-" ++ edge.secondMultiplicity.display
  match edge.hasMany, edge.isBidirectional with
  | false, false => "->"
  | false, true => "<->"
  | true, false => ends
  | true, true => "<" ++ ends ++ ">"

def Entry.text : Entry → String
  | node name .interfaceKind => bracketed (interfaceTag name)
  | node name .classKind => bracketed (label catalog config name)
  | implementation edge =>
    bracketed (interfaceTag edge.interface) ++ "^-.-" ++
      bracketed (label catalog config edge.implementor)
  | inheritance edge =>
    bracketed (label catalog config edge.base) ++ "^-" ++
      bracketed (label catalog config edge.derived)
  | association edge =>
    bracketed (label catalog config edge.first) ++ edge.connector ++
      bracketed (label catalog config edge.second)

/-- The entries of one type: its node, its dashed edges, its base, and the associations that were
first observed from it. -/
def Relations.entries (index : Index) (relations : Relations) : List Entry :=
  (relations.node.map (Entry.node relations.name)).toList ++
    relations.interfaceEdges.map .implementation ++
    (relations.inheritance.map .inheritance).toList ++
    (index.edgesFrom relations.name).map .association

/-- The entries of several types, one type after the other. -/
def entriesOf (relations : List Relations) (index : Index) : List Entry :=
  relations.flatMap (Relations.entries index)

/-- The texts of the entries, each once, in the order of their first occurrence. -/
def entryTexts (relations : List Relations) (index : Index) : List String :=
  ((entriesOf relations index).map (Entry.text catalog config)).eraseDups

def emit (relations : List Relations) (index : Index) : String :=
  ",".intercalate (entryTexts catalog config relations index)

/-- The pieces between the commas of a text. -/
def piecesOf : List Char → List (List Char)
  | [] => [[]]
  | c :: rest =>
    if c = ',' then
      [] :: piecesOf rest
    else
      match piecesOf rest with
      | [] => [[c]]
      | piece :: pieces => (c :: piece) :: pieces

/-- The different entries of a diagram's text, found by its commas. -/
def entrySet (text : String) : List String :=
  (((piecesOf text.toList).filter (!·.isEmpty)).map String.ofList).eraseDups

end ClassDiagram
