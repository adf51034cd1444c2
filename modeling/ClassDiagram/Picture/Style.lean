import ClassDiagram.Choice

/-!
# Drawing styles

The styles that the drawing service offers.
-/

namespace ClassDiagram.Picture

/-- How the service draws. -/
inductive Style where
  | plain
  | scruffy
deriving DecidableEq, Repr, Inhabited

namespace Style

def word : Style → String
  | plain => "plain"
  | scruffy => "scruffy"

def ofWord (word : String) : Except UnknownWord Style :=
  choose "diagram style" [("plain", plain), ("scruffy", scruffy)] word

end Style

end ClassDiagram.Picture
