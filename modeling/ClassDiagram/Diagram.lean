import ClassDiagram.Entry

/-!
# Diagrams

A diagram is made from a catalog in three steps: every type contributes its relations, the
associations that they propose are merged in an index, and the entries are written down.  Nothing
is kept from one diagram to the next.
-/

namespace ClassDiagram

/-- A diagram before it is written. -/
structure Diagram where
  catalog : Catalog
  config : Config
  relations : List Relations
  associations : Index

namespace Diagram

/-- The index of all candidates of some relations. -/
def mergeAll (relations : List Relations) : Except Failure Index :=
  relations.foldlM (fun index each => index.observeAll each.candidates) Index.empty

def ofCatalog (catalog : Catalog) (config : Config) : Except Failure Diagram :=
  let relations := Relations.ofCatalog catalog config
  (mergeAll relations).map fun associations => { catalog, config, relations, associations }

def text (diagram : Diagram) : String :=
  emit diagram.catalog diagram.config diagram.relations diagram.associations

end Diagram

def generateCatalog (config : Config) (catalog : Catalog) : Except Failure String :=
  (Diagram.ofCatalog catalog config).map Diagram.text

/-- The text of the diagram of a list of types; of several types with one name the first counts. -/
def generate (config : Config) (types : List Descriptor) : Except Failure String :=
  generateCatalog config (Catalog.ofList types)

/-- The text of the diagram of those types of a provider that pass the filter. -/
def generateFrom (config : Config) (provider : Provider) (filter : Filter := fun _ => true) :
    Except Failure String := do
  let (_, catalog) ← Catalog.empty.addFrom provider filter
  generateCatalog config catalog

end ClassDiagram
