import ClassDiagram.Declaration.Grammar
import ClassDiagram.Provider

/-!
# Types from declarations

Reads a source text into descriptors, or reports the first mistake in it with its line and column.
Members without a mark are visible.
-/

namespace ClassDiagram.Declaration

/-- The failure for what was remarked while a text was read. -/
def failure (text : List Char) (remarks : List Remark) : Failure :=
  match settle remarks with
  | some complaint =>
    .parse complaint.message (Position.after (text.take complaint.offset))
  | none => .parse "unexpected end of input" (Position.after text)

/-- Reads a whole text. -/
def read {α : Type} (reader : Reader α) (text : String) : Except Failure α :=
  let step := reader.start text.toList
  match step.result with
  | some (value, _) => .ok value
  | none => .error (failure text.toList step.remarks)

def readTypeRef (text : String) : Except Failure TypeRef :=
  read wholeTypeRef text

/-- A source text and the containers that range over their first argument in it. -/
structure Source where
  text : String
  containers : List String := usualContainers

namespace Source

/-- The same source with one more container. -/
def withContainer (source : Source) (name : String) : Source :=
  { source with containers := name :: source.containers }

/-- Whether a container ranges over its first argument. -/
def isIterable (source : Source) (name : String) : Bool :=
  source.containers.contains name

def descriptor (source : Source) (written : WrittenType) : Descriptor where
  name := written.name
  kind := written.kind
  base := written.base
  interfaces := written.interfaces
  members := written.members.map fun member =>
    ⟨member.name, member.visibility.getD .visible, member.type.shape source.isIterable⟩

def written (source : Source) : Except Failure (List WrittenType) :=
  read Declaration.source source.text

def types (source : Source) : Except Failure (List Descriptor) :=
  source.written.map (·.map source.descriptor)

def provider (source : Source) : Provider :=
  ⟨"declaration", source.types⟩

end Source

end ClassDiagram.Declaration
