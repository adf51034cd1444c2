import ClassDiagram.Failure

/-!
# Associations between two types

A `Candidate` is one observation: a type that holds references to another.  An `Edge` joins an
unordered pair of types and collects what was observed of it: the directions in which it can be
followed, and how many of each end the other holds.
-/

namespace ClassDiagram

/-- How many references an end holds. -/
inductive Multiplicity where
  | one
  | many
deriving DecidableEq, Repr, Inhabited

namespace Multiplicity

/-- Of two multiplicities the larger one. -/
def merge : Multiplicity → Multiplicity → Multiplicity
  | one, other => other
  | many, _ => many

def isMany : Multiplicity → Bool
  | one => false
  | many => true

theorem merge_comm (left right : Multiplicity) : left.merge right = right.merge left := by
  cases left <;> cases right <;> rfl

theorem merge_assoc (first second third : Multiplicity) :
    (first.merge second).merge third = first.merge (second.merge third) := by
  cases first <;> rfl

@[simp] theorem merge_self (multiplicity : Multiplicity) :
    multiplicity.merge multiplicity = multiplicity := by
  cases multiplicity <;> rfl

@[simp] theorem isMany_merge (left right : Multiplicity) :
    (left.merge right).isMany = (left.isMany || right.isMany) := by
  cases left <;> cases right <;> rfl

/-- How a multiplicity is written at the end of an edge. -/
def display : Multiplicity → String
  | one => "1"
  | many => "0..*"

end Multiplicity

/-- An observation: the source holds references to the target. -/
structure Candidate where
  source : String
  target : String
  multiplicity : Multiplicity
deriving DecidableEq, Repr

/-- What is known of the association between two types.  The first is the source of the earliest
observation. -/
structure Edge where
  first : String
  second : String
  /-- Whether the first refers to the second. -/
  firstToSecond : Bool
  /-- Whether the second refers to the first. -/
  secondToFirst : Bool
  /-- How many of the first a second holds. -/
  firstMultiplicity : Multiplicity
  /-- How many of the second a first holds. -/
  secondMultiplicity : Multiplicity
deriving DecidableEq, Repr

namespace Edge

/-- The edge of a pair observed for the first time. -/
def ofCandidate (candidate : Candidate) : Edge where
  first := candidate.source
  second := candidate.target
  firstToSecond := true
  secondToFirst := false
  firstMultiplicity := .one
  secondMultiplicity := candidate.multiplicity

/-- Whether the edge is stored from `source` to `target`. -/
def runs (edge : Edge) (source target : String) : Bool :=
  edge.first == source && edge.second == target

/-- An edge runs from its first end to its second. -/
theorem runs_eq_true {edge : Edge} {source target : String} :
    edge.runs source target = true ↔ edge.first = source ∧ edge.second = target := by
  simp [runs]

/-- The contradiction of an observation filed under the edge of another pair. -/
def mismatch (edge : Edge) (candidate : Candidate) : Failure :=
  .invariant <| "candidate " ++ candidate.source ++ " -> " ++ candidate.target ++
    " merged into association " ++ edge.first ++ " - " ++ edge.second

/-- Adds an observation of the same pair.  One that follows the edge counts for the second end, one
against it for the first; on an edge from a type to itself every observation follows it. -/
def observe (edge : Edge) (candidate : Candidate) : Except Failure Edge :=
  if edge.runs candidate.source candidate.target then
    .ok { edge with
      firstToSecond := true
      secondMultiplicity := edge.secondMultiplicity.merge candidate.multiplicity }
  else if edge.runs candidate.target candidate.source then
    .ok { edge with
      secondToFirst := true
      firstMultiplicity := edge.firstMultiplicity.merge candidate.multiplicity }
  else
    .error (edge.mismatch candidate)

def isBidirectional (edge : Edge) : Bool :=
  edge.firstToSecond && edge.secondToFirst

/-- Whether one of the ends holds any number of the other. -/
def hasMany (edge : Edge) : Bool :=
  edge.firstMultiplicity.isMany || edge.secondMultiplicity.isMany

end Edge

end ClassDiagram
