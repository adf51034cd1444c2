import ClassDiagram.Declaration.Source
import ClassDiagram.Document.Types
import ClassDiagram.Journal.Activity

/-!
# The journal of reading

What is recorded while types are read from a source text or a document.
-/

namespace ClassDiagram.Journal

/-- What is recorded of reading a source.  Reading is a stage of its own, and the number of
declarations is known only if it succeeds. -/
def ofSource (source : Declaration.Source) : Activity :=
  .stage ⟨"parse_declarations", .debug, .declaration,
      [("input_len", toString source.text.utf8ByteSize)]⟩
    (match source.written with
    | .error _ => []
    | .ok declarations =>
      [noted .declaration "Parsed declarations" [("declarations", toString declarations.length)]])

/-- What is recorded of reading a document, if that succeeds. -/
def ofDocument (document : String) : List Activity :=
  match Document.read document with
  | .error _ => []
  | .ok types => [noted .document "Loaded JSON descriptors" [("types", toString types.length)]]

end ClassDiagram.Journal
