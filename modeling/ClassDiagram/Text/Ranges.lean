/-!
# Sets of characters given by ranges

A `Ranges` lists the code points of a property as closed ranges, in increasing order.
-/

namespace ClassDiagram.Text

/-- Closed ranges of code points. -/
abbrev Ranges := List (Nat × Nat)

def Ranges.contains (ranges : Ranges) (c : Char) : Bool :=
  ranges.any fun range => range.1 ≤ c.toNat && c.toNat ≤ range.2

end ClassDiagram.Text
