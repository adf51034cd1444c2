import ClassDiagram.Association.Edge
import ClassDiagram.Catalog
import ClassDiagram.Config

/-!
# What one type contributes

`Relations.ofType` reads the declarations of a single type against a catalog: its node, its direct
base, the interfaces it implements, and the catalog types that its scanned members mention.  What an
ancestor declares is the ancestor's contribution.  Interfaces contribute no edges.
-/

namespace ClassDiagram

/-- A class and its direct base. -/
structure InheritanceEdge where
  base : String
  derived : String
deriving DecidableEq, Repr

/-- An interface and a class that implements it. -/
structure InterfaceEdge where
  interface : String
  implementor : String
deriving DecidableEq, Repr

/-- A catalog type named by a member, and how many of it the member holds. -/
structure Mention where
  target : String
  multiplicity : Multiplicity
deriving DecidableEq, Repr

/-- Everything that one type contributes to a diagram. -/
structure Relations where
  name : String
  /-- The node to draw, if the type has one of its own. -/
  node : Option Kind
  interfaceEdges : List InterfaceEdge
  inheritance : Option InheritanceEdge
  /-- At most one candidate for each target. -/
  candidates : List Candidate
deriving DecidableEq, Repr

/-- The names that a container mentions, in or out of the catalog: what it holds, if it ranges over
it, and otherwise all its arguments. -/
def Container.contents (container : Container) : List Mention :=
  if container.iterable then
    ((container.element.or container.arguments.head?).map (⟨·, .many⟩)).toList
  else
    container.arguments.map (⟨·, .one⟩)

/-- The catalog types that a shape mentions.  A container that is itself in the catalog is meant as
such and not opened. -/
def Shape.mentions (catalog : Catalog) : Shape → List Mention
  | single name => if catalog.contains name then [⟨name, .one⟩] else []
  | container c =>
    if catalog.contains c.name then
      [⟨c.name, .one⟩]
    else
      c.contents.filter (catalog.contains ·.target)

namespace Mention

/-- Adds a mention to a list that names each target once. -/
def addTo (mention : Mention) : List Mention → List Mention
  | [] => [mention]
  | known :: rest =>
    if known.target = mention.target then
      { known with multiplicity := known.multiplicity.merge mention.multiplicity } :: rest
    else
      known :: addTo mention rest

/-- Each target once, in the order of its first mention, with the largest multiplicity. -/
def collapse (mentions : List Mention) : List Mention :=
  mentions.foldl (fun known mention => mention.addTo known) []

end Mention

namespace Relations

variable (catalog : Catalog) (config : Config)

/-- The members of a type that are scanned. -/
def scanned (descriptor : Descriptor) : List Member :=
  descriptor.members.filter (config.scans ·.visibility)

/-- The associations that a class originates. -/
def candidatesOf (descriptor : Descriptor) : List Candidate :=
  (Mention.collapse ((scanned config descriptor).flatMap (·.shape.mentions catalog))).map
    fun mention => ⟨descriptor.name, mention.target, mention.multiplicity⟩

/-- The dashed edges of a class, which are drawn only where interfaces have nodes. -/
def interfaceEdgesOf (descriptor : Descriptor) : List InterfaceEdge :=
  if config.isExplicit then
    (catalog.implementedInterfaces descriptor).map (⟨·, descriptor.name⟩)
  else
    []

/-- The edge of a class to its base, if the base is in the catalog. -/
def inheritanceOf (descriptor : Descriptor) : Option InheritanceEdge :=
  (descriptor.base.filter catalog.contains).map (⟨·, descriptor.name⟩)

def ofType (descriptor : Descriptor) : Relations :=
  match descriptor.kind with
  | .interfaceKind =>
    ⟨descriptor.name, if config.isExplicit then some .interfaceKind else none, [], none, []⟩
  | .classKind =>
    { name := descriptor.name
      node := some .classKind
      interfaceEdges := interfaceEdgesOf catalog config descriptor
      inheritance := inheritanceOf catalog descriptor
      candidates := candidatesOf catalog config descriptor }

/-- The contributions of all types of the catalog, in order. -/
def ofCatalog : List Relations :=
  catalog.types.map (ofType catalog config)

end Relations

end ClassDiagram
