/-!
# Complaints of the declaration reader

When a source is no sentence of the declaration language, the report names the place farthest into
the text at which reading got stuck, everything that could have stood there, and the character that
stood there instead.  Every attempt that fails leaves a `Remark`, also where reading goes on with
another alternative, and `settle` draws the one `Complaint` from all of them.
-/

namespace ClassDiagram.Declaration

/-- What could have stood at a place. -/
inductive Expectation where
  | character (c : Char)
  | word (text : String)
  | identifier
  | anything
  | endOfInput
deriving DecidableEq, Repr

/-- How an expectation is written.  Characters stand in quotation marks as they are. -/
def Expectation.display : Expectation → String
  | character c => "'" ++ c.toString ++ "'"
  | word text => text
  | identifier => "identifier"
  | anything => "something else"
  | endOfInput => "end of input"

/-- Why reading got stuck. -/
structure Complaint where
  /-- The number of characters in front of the place. -/
  offset : Nat
  /-- What could have stood there, in the order in which it was tried. -/
  expected : List Expectation
  /-- The character that stood there, if there was one to be seen. -/
  found : Option Char
deriving DecidableEq, Repr

/-- Alternatives as they are listed in a sentence: `a`, then `a, or b`, then `a, b, or c`. -/
def listed : List String → String
  | [] => "something else"
  | [only] => only
  | many => ", ".intercalate many.dropLast ++ ", or " ++ many.getLastD ""

namespace Complaint

def message (complaint : Complaint) : String :=
  let found := match complaint.found with
    | some c => (Expectation.character c).display
    | none => Expectation.endOfInput.display
  "found " ++ found ++ " expected " ++ listed (complaint.expected.map Expectation.display)

/-- Adds to a list what is not in it yet. -/
def extend (known more : List Expectation) : List Expectation :=
  more.foldl (fun all each => if each ∈ all then all else all ++ [each]) known

end Complaint

/-- What a failed attempt leaves behind. -/
inductive Remark where
  /-- A character was looked at and was none of those that could have stood there. -/
  | missed (complaint : Complaint)
  /-- A longer piece was read, or a class of characters was not met. -/
  | judged (complaint : Complaint)
deriving DecidableEq, Repr

namespace Remark

def complaint : Remark → Complaint
  | missed complaint => complaint
  | judged complaint => complaint

/-- What two complaints about one place make together.  A character that was missed is listed last
and supplies the character that was found; of two judgements the one with more expectations is
listed first. -/
def join (pending : Complaint) : Remark → Complaint
  | missed new =>
    { pending with
      expected := Complaint.extend pending.expected new.expected
      found := pending.found.or new.found }
  | judged new =>
    { pending with
      expected :=
        if pending.expected.length < new.expected.length then
          Complaint.extend new.expected pending.expected
        else
          Complaint.extend pending.expected new.expected }

/-- Takes a remark into account: what lies farther on replaces the pending complaint, what lies at
the same place joins it, and what lies before it is dropped. -/
def follow (pending : Option Complaint) (remark : Remark) : Option Complaint :=
  match pending with
  | none => some remark.complaint
  | some known =>
    if known.offset < remark.complaint.offset then
      some remark.complaint
    else if known.offset = remark.complaint.offset then
      some (remark.join known)
    else
      some known

end Remark

/-- The complaint that remains of a list of remarks. -/
def settle (remarks : List Remark) : Option Complaint :=
  remarks.foldl Remark.follow none

end ClassDiagram.Declaration
