import ClassDiagram.Descriptor
import ClassDiagram.Failure

/-!
# Providers of types

A provider is anything that can describe types: a list made by hand, a source text, a document.
It has a name and either hands over all its types or fails.
-/

namespace ClassDiagram

structure Provider where
  name : String
  /-- The types in the order in which they are to be declared. -/
  types : Except Failure (List Descriptor)

namespace Provider

/-- A list of types is a provider of itself. -/
def ofList (types : List Descriptor) : Provider :=
  ⟨"static", .ok types⟩

/-- A provider that fails with a report of its own. -/
def failing (name report : String) : Provider :=
  ⟨name, .error (.other report)⟩

end Provider

abbrev Filter := Descriptor → Bool

end ClassDiagram
