import ClassDiagram.Association.Edge
import Mathlib.Data.List.Induction
import Mathlib.Data.Sym.Sym2

/-! # What an edge remembers

An edge can be handed observations of any types.  It refuses those of another pair and is then left
as it was (`ClassDiagram.Edge.run_file`), and of the others it keeps which way they went and
whether one of them held any number.  So what becomes of an edge is what it gathers of the
observations (`ClassDiagram.Edge.after_eq_gather`), whatever their order and however often each of
them is made (`ClassDiagram.Edge.after_remembers`).
-/

namespace ClassDiagram

/-- The unordered pair of types that an observation is about. -/
def Candidate.pair (candidate : Candidate) : Sym2 String :=
  s(candidate.source, candidate.target)

/-- The unordered pair of types that an edge joins. -/
def Edge.pair (edge : Edge) : Sym2 String :=
  s(edge.first, edge.second)

/-- Whether an observation goes from `source` to `target`. -/
def Candidate.goes (candidate : Candidate) (source target : String) : Bool :=
  candidate.source == source && candidate.target == target

/-- An observation goes from its source to its target. -/
theorem Candidate.goes_eq_true {candidate : Candidate} {source target : String} :
    candidate.goes source target = true ↔
      candidate.source = source ∧ candidate.target = target := by
  simp [goes]

/-- Whether one type was observed to refer to another. -/
def refers (observed : List Candidate) (source target : String) : Bool :=
  observed.any (·.goes source target)

/-- How many of the target the source was observed to hold. -/
def held (observed : List Candidate) (source target : String) : Multiplicity :=
  if observed.any fun each => each.goes source target && each.multiplicity.isMany then
    .many
  else
    .one

theorem refers_eq_true {observed : List Candidate} {source target : String} :
    refers observed source target = true ↔
      ∃ candidate ∈ observed, candidate.source = source ∧ candidate.target = target := by
  simp only [refers, List.any_eq_true, Candidate.goes_eq_true]

/-- Any number was observed if one of the observations that go that way is of any number. -/
theorem held_eq_many {observed : List Candidate} {source target : String} :
    held observed source target = .many ↔
      ∃ candidate ∈ observed, candidate.source = source ∧ candidate.target = target ∧
        candidate.multiplicity = .many := by
  have large (multiplicity : Multiplicity) :
      multiplicity.isMany = true ↔ multiplicity = .many := by
    cases multiplicity <;> simp [Multiplicity.isMany]
  unfold held
  split
  · rename_i found
    obtain ⟨candidate, member, goes⟩ := List.any_eq_true.mp found
    rw [Bool.and_eq_true, Candidate.goes_eq_true, large, and_assoc] at goes
    exact iff_of_true rfl ⟨candidate, member, goes⟩
  · rename_i missing
    refine iff_of_false (fun absurd => nomatch absurd) ?_
    rintro ⟨candidate, member, source, target, many⟩
    apply missing
    refine List.any_eq_true.mpr ⟨candidate, member, ?_⟩
    rw [Bool.and_eq_true, Candidate.goes_eq_true, large]
    exact ⟨⟨source, target⟩, many⟩

/-- Another observation adds to what it goes along. -/
theorem refers_concat (observed : List Candidate) (last : Candidate) (source target : String) :
    refers (observed ++ [last]) source target =
      (refers observed source target || last.goes source target) := by
  simp [refers]

/-- Another observation along the way adds its multiplicity. -/
theorem held_concat_of_goes {last : Candidate} {source target : String}
    (along : last.goes source target = true) (observed : List Candidate) :
    held (observed ++ [last]) source target =
      (held observed source target).merge last.multiplicity := by
  unfold held
  rw [List.any_append]
  cases observed.any fun each => each.goes source target && each.multiplicity.isMany with
  | true => rfl
  | false => cases many : last.multiplicity <;> simp [along, many, Multiplicity.isMany,
      Multiplicity.merge]

theorem held_concat_of_not_goes {last : Candidate} {source target : String}
    (aside : last.goes source target = false) (observed : List Candidate) :
    held (observed ++ [last]) source target = held observed source target := by
  simp [held, aside]

/-- Which way types were observed to refer to each other depends only on which observations were
made. -/
theorem refers_congr {observed other : List Candidate}
    (same : ∀ candidate, candidate ∈ other ↔ candidate ∈ observed) (source target : String) :
    refers other source target = refers observed source target := by
  rw [Bool.eq_iff_iff, refers_eq_true, refers_eq_true]
  simp only [same]

/-- How many of one type another was observed to hold depends only on which observations were made.
-/
theorem held_congr {observed other : List Candidate}
    (same : ∀ candidate, candidate ∈ other ↔ candidate ∈ observed) (source target : String) :
    held other source target = held observed source target := by
  have many : held other source target = .many ↔ held observed source target = .many := by
    rw [held_eq_many, held_eq_many]
    simp only [same]
  cases left : held other source target <;> cases right : held observed source target <;>
    simp_all

namespace Edge

/-- An edge with what was observed of its pair added.  On an edge from a type to itself nothing
counts for the first end. -/
def gather (edge : Edge) (observed : List Candidate) : Edge where
  first := edge.first
  second := edge.second
  firstToSecond := edge.firstToSecond || refers observed edge.first edge.second
  secondToFirst := edge.secondToFirst ||
    (edge.first != edge.second && refers observed edge.second edge.first)
  firstMultiplicity :=
    if edge.first = edge.second then edge.firstMultiplicity
    else edge.firstMultiplicity.merge (held observed edge.second edge.first)
  secondMultiplicity := edge.secondMultiplicity.merge (held observed edge.first edge.second)

section Gathering

variable {edge : Edge} {observed other : List Candidate} {last : Candidate}

theorem gather_nil (edge : Edge) : edge.gather [] = edge := by
  have nothing : Multiplicity.one.merge = id := rfl
  simp [gather, refers, held, Multiplicity.merge_comm _ .one, nothing]

/-- An observation of another pair does not show in an edge. -/
theorem gather_concat_of_ne (aside : last.pair ≠ edge.pair) (observed : List Candidate) :
    edge.gather (observed ++ [last]) = edge.gather observed := by
  have forward : last.goes edge.first edge.second = false := by
    rw [Bool.eq_false_iff, ne_eq, Candidate.goes_eq_true]
    rintro ⟨source, target⟩
    exact aside (by rw [Candidate.pair, Edge.pair, source, target])
  have backward : last.goes edge.second edge.first = false := by
    rw [Bool.eq_false_iff, ne_eq, Candidate.goes_eq_true]
    rintro ⟨source, target⟩
    exact aside (by rw [Candidate.pair, Edge.pair, source, target, Sym2.eq_swap])
  simp only [gather, refers_concat, forward, backward, Bool.or_false,
    held_concat_of_not_goes forward, held_concat_of_not_goes backward]

/-- One more observation of the pair of an edge is one more to gather. -/
theorem observe_gather (same : last.pair = edge.pair) (observed : List Candidate) :
    (edge.gather observed).observe last = .ok (edge.gather (observed ++ [last])) := by
  by_cases forward : last.source = edge.first ∧ last.target = edge.second
  · obtain ⟨source, target⟩ := forward
    have along : last.goes edge.first edge.second = true :=
      Candidate.goes_eq_true.mpr ⟨source, target⟩
    have runs : (edge.gather observed).runs last.source last.target = true :=
      runs_eq_true.mpr ⟨source.symm, target.symm⟩
    rw [observe, runs]
    by_cases loop : edge.first = edge.second
    · simp [gather, loop, refers_concat, held_concat_of_goes (loop ▸ along), loop ▸ along,
        Multiplicity.merge_assoc]
    · have against : last.goes edge.second edge.first = false := by
        rw [Bool.eq_false_iff, ne_eq, Candidate.goes_eq_true]
        exact fun backward => loop (source.symm.trans backward.1)
      simp [gather, loop, held_concat_of_goes along, refers_concat, along, against,
        held_concat_of_not_goes against, Multiplicity.merge_assoc]
  · have backward : last.source = edge.second ∧ last.target = edge.first := by
      rcases Sym2.eq_iff.mp same with straight | swapped
      · exact (forward straight).elim
      · exact swapped
    obtain ⟨source, target⟩ := backward
    have loop : edge.first ≠ edge.second :=
      fun equal => forward ⟨source.trans equal.symm, target.trans equal⟩
    have along : last.goes edge.second edge.first = true :=
      Candidate.goes_eq_true.mpr ⟨source, target⟩
    have against : last.goes edge.first edge.second = false := by
      rw [Bool.eq_false_iff, ne_eq, Candidate.goes_eq_true]
      exact forward
    have misses : (edge.gather observed).runs last.source last.target = false := by
      rw [Bool.eq_false_iff, ne_eq, runs_eq_true]
      exact fun ends => forward ⟨ends.1.symm, ends.2.symm⟩
    have runs : (edge.gather observed).runs last.target last.source = true :=
      runs_eq_true.mpr ⟨target.symm, source.symm⟩
    rw [observe, misses, runs]
    simp [gather, loop, held_concat_of_goes along, refers_concat, along, against,
      held_concat_of_not_goes against, Multiplicity.merge_assoc]

/-- What is gathered depends only on which observations were made. -/
theorem gather_congr (same : ∀ candidate, candidate ∈ other ↔ candidate ∈ observed) :
    edge.gather other = edge.gather observed := by
  simp only [gather, refers_congr same, held_congr same]

end Gathering

section Filing

variable {edge : Edge} {observed : List Candidate} {candidate : Candidate}

/-- Files an observation in an edge that is kept.  What is written to the edge stays there, also
where the observation is refused. -/
def file (candidate : Candidate) : ExceptT Failure (StateM Edge) Unit := do
  let edge ← get
  if edge.runs candidate.source candidate.target then
    modify fun edge => { edge with firstToSecond := true }
    modify fun edge =>
      { edge with secondMultiplicity := edge.secondMultiplicity.merge candidate.multiplicity }
  else if edge.runs candidate.target candidate.source then
    modify fun edge => { edge with secondToFirst := true }
    modify fun edge =>
      { edge with firstMultiplicity := edge.firstMultiplicity.merge candidate.multiplicity }
  else
    throw (edge.mismatch candidate)

/-- What an edge becomes when observations are filed in it one after the other.  One that is refused
stops nothing. -/
def after (edge : Edge) (observed : List Candidate) : Edge :=
  observed.foldl (fun reached candidate => ((file candidate).run.run reached).2) edge

/-- An observation of another pair is refused. -/
theorem observe_eq_error (aside : candidate.pair ≠ edge.pair) :
    edge.observe candidate = .error (edge.mismatch candidate) := by
  have misses : edge.runs candidate.source candidate.target = false := by
    rw [Bool.eq_false_iff, ne_eq, runs_eq_true]
    rintro ⟨first, second⟩
    exact aside (by rw [Candidate.pair, Edge.pair, first, second])
  have against : edge.runs candidate.target candidate.source = false := by
    rw [Bool.eq_false_iff, ne_eq, runs_eq_true]
    rintro ⟨first, second⟩
    exact aside (by rw [Candidate.pair, Edge.pair, first, second, Sym2.eq_swap])
  simp [observe, misses, against]

variable (edge candidate) in
/-- Filing an observation answers as adding it does, and one that is refused leaves the edge as it
was. -/
theorem run_file : (file candidate).run.run edge =
    match edge.observe candidate with
    | .ok next => (.ok (), next)
    | .error failure => (.error failure, edge) := by
  -- The edge that is read first is the one that the observation is filed in.
  have opened (reached : Edge → ExceptT Failure (StateM Edge) Unit) :
      (get >>= reached).run.run edge = (reached edge).run.run edge := rfl
  unfold file observe
  rw [opened]
  split
  · rfl
  · split <;> rfl

/-- The last observation is filed in what the others made of the edge. -/
theorem after_concat (edge : Edge) (observed : List Candidate) (last : Candidate) :
    edge.after (observed ++ [last]) = ((file last).run.run (edge.after observed)).2 :=
  List.foldl_concat ..

theorem after_append (edge : Edge) (front back : List Candidate) :
    edge.after (front ++ back) = (edge.after front).after back :=
  List.foldl_append

/-- Whatever is filed in an edge is gathered. -/
theorem after_eq_gather (edge : Edge) (observed : List Candidate) :
    edge.after observed = edge.gather observed := by
  induction observed using List.reverseRecOn with
  | nil => exact edge.gather_nil.symm
  | append_singleton front last ih =>
      rw [after_concat, ih, run_file]
      by_cases same : last.pair = edge.pair
      · rw [observe_gather same]
      · have aside : last.pair ≠ (edge.gather front).pair := same
        rw [observe_eq_error aside, gather_concat_of_ne same]

end Filing

/-- What never gets lost when an edge changes. -/
structure Grows (edge next : Edge) : Prop where
  first : next.first = edge.first
  second : next.second = edge.second
  firstToSecond : edge.firstToSecond = true → next.firstToSecond = true
  secondToFirst : edge.secondToFirst = true → next.secondToFirst = true
  firstMultiplicity : edge.firstMultiplicity = .many → next.firstMultiplicity = .many
  secondMultiplicity : edge.secondMultiplicity = .many → next.secondMultiplicity = .many

/-- Gathering only adds to an edge. -/
theorem grows_gather (edge : Edge) (observed : List Candidate) :
    edge.Grows (edge.gather observed) where
  first := rfl
  second := rfl
  firstToSecond known := by rw [gather, known, Bool.true_or]
  secondToFirst known := by rw [gather, known, Bool.true_or]
  firstMultiplicity many := by
    rw [gather, many]
    exact ite_self _
  secondMultiplicity many := by
    rw [gather, many]
    rfl

/-- Whatever was filed, an observation of the pair is accepted and any other contradicts the
edge. -/
theorem observe_after (edge : Edge) (observed : List Candidate) (candidate : Candidate) :
    candidate.pair = edge.pair ∧ (∃ next, (edge.after observed).observe candidate = .ok next) ∨
      candidate.pair ≠ edge.pair ∧
        ∃ text, (edge.after observed).observe candidate = .error (.invariant text) := by
  rw [after_eq_gather]
  by_cases same : candidate.pair = edge.pair
  · exact Or.inl ⟨same, _, observe_gather same observed⟩
  · have aside : candidate.pair ≠ (edge.gather observed).pair := same
    exact Or.inr ⟨same, _, observe_eq_error aside⟩

/-- What is known of an edge in which observations were filed. -/
structure Remembers (edge : Edge) (observed : List Candidate) : Prop where
  /-- The next observation is refused, as a contradiction, exactly if it is of another pair. -/
  refused_iff : ∀ candidate,
    (∃ text, (edge.after observed).observe candidate = .error (.invariant text)) ↔
      candidate.pair ≠ edge.pair
  accepted_iff : ∀ candidate, (∃ next, (edge.after observed).observe candidate = .ok next) ↔
    candidate.pair = edge.pair
  refused : ∀ candidate failure, (edge.after observed).observe candidate = .error failure →
    (file candidate).run.run (edge.after observed) = (.error failure, edge.after observed)
  accepted : ∀ candidate next, (edge.after observed).observe candidate = .ok next →
    (file candidate).run.run (edge.after observed) = (.ok (), next)
  grows : ∀ front back, observed = front ++ back → (edge.after front).Grows (edge.after observed)
  gathers : edge.after observed = edge.gather observed
  /-- Neither order nor repetition counts. -/
  same : ∀ other, (∀ candidate, candidate ∈ other ↔ candidate ∈ observed) →
    edge.after other = edge.after observed

/-- **An edge remembers a set of observations.** Whatever is filed in an edge, observations of
another pair are refused as contradictions and leave it as it is, its ends stay, no direction and no
multiplicity gets lost, and what it becomes depends only on which observations were made. -/
theorem after_remembers (edge : Edge) (observed : List Candidate) : edge.Remembers observed := by
  constructor
  case refused_iff =>
    intro candidate
    rcases observe_after edge observed candidate with ⟨same, next, accepted⟩ | ⟨aside, refused⟩
    · rw [accepted]
      exact iff_of_false (fun ⟨text, absurd⟩ => nomatch absurd) fun aside => aside same
    · exact iff_of_true refused aside
  case accepted_iff =>
    intro candidate
    rcases observe_after edge observed candidate with ⟨same, accepted⟩ | ⟨aside, text, refused⟩
    · exact iff_of_true accepted same
    · rw [refused]
      exact iff_of_false (fun ⟨next, absurd⟩ => nomatch absurd) aside
  case refused =>
    intro candidate failure refused
    rw [run_file, refused]
  case accepted =>
    intro candidate next accepted
    rw [run_file, accepted]
  case grows =>
    rintro front back rfl
    rw [after_append, after_eq_gather (edge.after front)]
    exact grows_gather _ back
  case gathers => exact edge.after_eq_gather observed
  case same =>
    intro other same
    rw [after_eq_gather, after_eq_gather, gather_congr same]

/-- The wing's observation is refused, and the two that go back and forth between the birds count
in any order. -/
example :
    let edge : Edge := ⟨"Bird", "Egg", false, false, .one, .one⟩
    let observed : List Candidate :=
      [⟨"Egg", "Bird", .one⟩, ⟨"Bird", "Wing", .many⟩, ⟨"Bird", "Egg", .many⟩]
    edge.after observed = ⟨"Bird", "Egg", true, true, .one, .many⟩ ∧
      edge.after (observed.reverse ++ observed) = edge.after observed := by
  decide

end Edge

end ClassDiagram
