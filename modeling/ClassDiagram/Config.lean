import ClassDiagram.Choice
import ClassDiagram.Descriptor

/-!
# Options of a diagram

How interfaces are drawn, and whether hidden members are scanned for associations.
-/

namespace ClassDiagram

/-- How an implemented interface is drawn. -/
inductive InterfaceMode where
  /-- As a tag inside the node of the class. -/
  | inline
  /-- As a node of its own with a dashed edge to the class. -/
  | explicit
deriving DecidableEq, Repr, Inhabited

namespace InterfaceMode

def word : InterfaceMode → String
  | inline => "inline"
  | explicit => "explicit"

def ofWord (word : String) : Except UnknownWord InterfaceMode :=
  choose "interface mode" [("inline", inline), ("explicit", explicit)] word

end InterfaceMode

/-- The options of one diagram. -/
structure Config where
  interfaceMode : InterfaceMode := .inline
  /-- Whether hidden members are scanned as well. -/
  includeHidden : Bool := false
deriving DecidableEq, Repr

namespace Config

def isExplicit (config : Config) : Bool :=
  config.interfaceMode == .explicit

def scans (config : Config) (visibility : Visibility) : Bool :=
  visibility.isVisible || config.includeHidden

end Config

end ClassDiagram
