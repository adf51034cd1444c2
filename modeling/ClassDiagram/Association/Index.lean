import ClassDiagram.Association.Edge

/-!
# The index of associations

An index keeps one edge for each unordered pair of types that was observed, in the order in which
the pairs came up.  Where an edge is kept is noted under the ends of its earliest observation only;
a pair is looked for as it is given first, then the other way round.
-/

namespace ClassDiagram

/-- Edges in the order in which their pairs were first observed, and the places of edges under
their keys. -/
structure Index where
  edges : List Edge := []
  /-- The place of an edge under the source and the target of its earliest observation. -/
  keys : List ((String × String) × Nat) := []
  keys_lt : ∀ key place, keys.lookup key = some place → place < edges.length := by
    exact fun _ _ noted => nomatch noted
deriving DecidableEq, Repr

namespace Index

/-- The index before anything is observed. -/
def empty : Index := {}

/-- The place that is noted for a source and a target. -/
def place? (index : Index) (source target : String) : Option (Fin index.edges.length) :=
  match noted : index.keys.lookup (source, target) with
  | some place => some ⟨place, index.keys_lt _ _ noted⟩
  | none => none

def edgeAt (index : Index) (place : Fin index.edges.length) : Edge :=
  index.edges.get place

/-- How an observation is filed. -/
inductive Slot (index : Index) where
  /-- Under an edge that runs the same way. -/
  | forward (place : Fin index.edges.length)
  /-- Under an edge that runs the other way. -/
  | backward (place : Fin index.edges.length)
  /-- Under an edge of its own. -/
  | fresh

/-- Where an observation belongs: an edge that runs the same way is preferred. -/
def slot (index : Index) (candidate : Candidate) : Slot index :=
  match index.place? candidate.source candidate.target with
  | some place => .forward place
  | none =>
    match index.place? candidate.target candidate.source with
    | some place => .backward place
    | none => .fresh

/-- Puts another edge in a place. -/
def replace (index : Index) (place : Fin index.edges.length) (edge : Edge) : Index where
  edges := index.edges.set place edge
  keys := index.keys
  keys_lt := fun key found noted => by simpa using index.keys_lt key found noted

def observeAt (index : Index) (candidate : Candidate) (place : Fin index.edges.length) :
    Except Failure Index :=
  ((index.edgeAt place).observe candidate).map (index.replace place)

/-- Starts an edge and notes its place under the ends of the observation. -/
def start (index : Index) (candidate : Candidate) : Index where
  edges := index.edges ++ [Edge.ofCandidate candidate]
  keys := ((candidate.source, candidate.target), index.edges.length) :: index.keys
  keys_lt := by
    intro key place noted
    rw [List.length_append, List.length_singleton]
    rw [List.lookup_cons] at noted
    split at noted
    · cases noted
      exact Nat.lt_succ_self _
    · exact Nat.lt_succ_of_lt (index.keys_lt key place noted)

/-- Adds an observation to the edge of its pair, or starts that edge. -/
def observe (index : Index) (candidate : Candidate) : Except Failure Index :=
  match index.slot candidate with
  | .forward place => index.observeAt candidate place
  | .backward place => index.observeAt candidate place
  | .fresh => .ok (index.start candidate)

def observeAll (index : Index) (candidates : List Candidate) : Except Failure Index :=
  candidates.foldlM observe index

/-- The edge of a pair, whichever way it is stored. -/
def get? (index : Index) (a b : String) : Option Edge :=
  ((index.place? a b).or (index.place? b a)).map index.edgeAt

/-- The edges whose pair was first observed from this type. -/
def edgesFrom (index : Index) (name : String) : List Edge :=
  index.edges.filter (·.first == name)

def size (index : Index) : Nat :=
  index.edges.length

end Index

end ClassDiagram
