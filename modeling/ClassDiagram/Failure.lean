import ClassDiagram.Position

/-!
# Failures

What can go wrong between a description of types and a finished picture, with the text shown for
each.  A failure says which part of the library refused, and only a refusal to read has a place.
-/

namespace ClassDiagram

/-- The ways in which a request can fail. -/
inductive Failure where
  /-- A text is not a sentence of the language it was read in. -/
  | parse (message : String) (place : Position)
  /-- A provider cannot hand over its types. -/
  | provider (message : String)
  /-- The drawing service refused, or answered with something that is no picture. -/
  | service (message : String)
  /-- Two parts of a diagram contradict each other. -/
  | invariant (message : String)
  /-- A file cannot be read or written. -/
  | io (message : String)
  /-- A report of another party, handed on as it came. -/
  | other (message : String)
deriving DecidableEq, Repr

namespace Failure

def message : Failure → String
  | parse text place => "Parse error: " ++ text ++ " at " ++ place.description
  | provider text => "Provider error: " ++ text
  | service text => "Service error: " ++ text
  | invariant text => "Invariant violation: " ++ text
  | io text => "IO error: " ++ text
  | other text => text

/-- A file that has to exist does not. -/
def noSuchFile : Failure :=
  io "No such file or directory (os error 2)"

/-- The bytes of a file are no text. -/
def notText : Failure :=
  io "stream did not contain valid UTF-8"

end Failure

end ClassDiagram
