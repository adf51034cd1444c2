import ClassDiagram.Journal.Drawing
import ClassDiagram.Picture.Exchange

/-!
# The journal of an exchange

What is recorded while the drawing service is asked for an image.
-/

namespace ClassDiagram.Journal

open Picture

/-- What is recorded of an exchange: one stage, with a warning if no path was received. -/
def ofExchange (service : Service) (style : Style) (diagram : String) (posted fetched : Reply) :
    Activity :=
  let refused (failure : Failure) : List Activity :=
    [.event ⟨"yUML service rejected the diagram", .warn, .service, [("error", failure.message)]⟩]
  .stage ⟨"render_yuml", .info, .service, [
      ("style", style.word), ("dsl_len", toString diagram.utf8ByteSize)]⟩
    (match obstacle? (service.diagramUrl style) with
    | some failure => refused failure
    | none =>
      match pathOf posted with
      | .error failure => refused failure
      | .ok path =>
        noted .service "Image path received" [("image_path", path)] ::
          match imageOf path fetched with
          | .error _ => []
          | .ok image => [told .service "Diagram image downloaded"
              [("bytes", toString image.bytes.length)]])

end ClassDiagram.Journal
