import ClassDiagram.Association.Index
import ClassDiagram.Proofs.EdgeHistory
import ClassDiagram.Proofs.FirstBy

/-! # What an association index remembers

An index is determined by the history of the observations that were filed in it
(`ClassDiagram.Index.observeAll_describes`): it holds one edge for each unordered pair, in the order
in which the pairs came up, and each edge is the `Edge.ofHistory` of its earliest observation.  The
keys lead to an edge from the ends of that observation and from no others
(`ClassDiagram.Index.Linked`), so every observation finds the edge of its pair, whichever way it
goes.
-/

namespace ClassDiagram

/-- The source and the target of an observation. -/
def Candidate.ends (candidate : Candidate) : String × String :=
  (candidate.source, candidate.target)

/-- The ends of an edge as it is stored. -/
def Edge.ends (edge : Edge) : String × String :=
  (edge.first, edge.second)

namespace Edge

/-- The edge of a pair after a history of observations, given the earliest observation of the pair.
On an edge from a type to itself nothing counts for the first end. -/
def ofHistory (observed : List Candidate) (earliest : Candidate) : Edge where
  first := earliest.source
  second := earliest.target
  firstToSecond := true
  secondToFirst := earliest.source != earliest.target &&
    refers observed earliest.target earliest.source
  firstMultiplicity :=
    if earliest.source = earliest.target then .one
    else held observed earliest.target earliest.source
  secondMultiplicity := held observed earliest.source earliest.target

@[simp] theorem ends_ofHistory (observed : List Candidate) (earliest : Candidate) :
    (ofHistory observed earliest).ends = earliest.ends := rfl

@[simp] theorem pair_ofHistory (observed : List Candidate) (earliest : Candidate) :
    (ofHistory observed earliest).pair = earliest.pair := rfl

@[simp] theorem ends_ofCandidate (candidate : Candidate) :
    (ofCandidate candidate).ends = candidate.ends := rfl

/-- The edge of a pair is what an edge of which nothing is known yet gathers. -/
theorem ofHistory_eq_gather (observed : List Candidate) (earliest : Candidate) :
    ofHistory observed earliest =
      gather ⟨earliest.source, earliest.target, true, false, .one, .one⟩ observed := rfl

/-- An observation of another pair does not show in the edge of a pair. -/
theorem ofHistory_concat_of_ne {earliest last : Candidate} (other : last.pair ≠ earliest.pair)
    (observed : List Candidate) :
    ofHistory (observed ++ [last]) earliest = ofHistory observed earliest := by
  rw [ofHistory_eq_gather, ofHistory_eq_gather]
  exact gather_concat_of_ne other observed

/-- Observing the pair of an edge once more is having one more observation in its history. -/
theorem observe_ofHistory {earliest last : Candidate} (same : last.pair = earliest.pair)
    (observed : List Candidate) :
    (ofHistory observed earliest).observe last = .ok (ofHistory (observed ++ [last]) earliest) := by
  rw [ofHistory_eq_gather, ofHistory_eq_gather]
  exact observe_gather same observed

/-- The edge that starts with an observation of a new pair. -/
theorem ofHistory_concat_self {last : Candidate} {observed : List Candidate}
    (fresh : last.pair ∉ observed.map Candidate.pair) :
    ofHistory (observed ++ [last]) last = ofCandidate last := by
  have unseen (source target : String) (pair : s(source, target) = last.pair) :
      (observed.any fun each => each.goes source target) = false ∧
        held observed source target = .one := by
    have aside : ∀ each ∈ observed, each.goes source target = false := by
      intro each member
      rw [Bool.eq_false_iff, ne_eq, Candidate.goes_eq_true]
      rintro ⟨rfl, rfl⟩
      exact fresh (List.mem_map.mpr ⟨each, member, pair⟩)
    constructor
    · exact List.any_eq_false.mpr fun each member => by simp [aside each member]
    · unfold held
      rw [ite_eq_right_iff]
      intro found
      obtain ⟨each, member, goes⟩ := List.any_eq_true.mp found
      rw [aside each member] at goes
      cases goes
  have forward := unseen last.source last.target rfl
  have backward := unseen last.target last.source Sym2.eq_swap
  have along : last.goes last.source last.target = true := Candidate.goes_eq_true.mpr ⟨rfl, rfl⟩
  by_cases loop : last.source = last.target
  · simp [ofHistory, ofCandidate, loop, held_concat_of_goes (loop ▸ along),
      (loop ▸ forward).2, Multiplicity.merge]
  · have against : last.goes last.target last.source = false := by
      rw [Bool.eq_false_iff, ne_eq, Candidate.goes_eq_true]
      exact fun ends => loop ends.1
    simp [ofHistory, ofCandidate, loop, held_concat_of_goes along, forward.2, refers, against,
      held_concat_of_not_goes against, backward.1, backward.2, Multiplicity.merge]

end Edge

namespace Index

variable {index : Index} {observed : List Candidate}

/-- The keys lead to every edge from its ends as they are stored, and from nothing else. -/
def Linked (index : Index) : Prop :=
  ∀ (key : String × String) (place : Nat),
    index.keys.lookup key = some place ↔ (index.edges[place]?).map Edge.ends = some key

/-- The index of a history of observations. -/
structure Describes (index : Index) (observed : List Candidate) : Prop where
  edges : index.edges = (firstBy Candidate.pair observed).map (Edge.ofHistory observed)
  linked : index.Linked

/-- In an index whose keys are those of its edges, a key leads to the edge with these ends. -/
theorem Linked.place?_eq_some (linked : index.Linked) {source target : String}
    {place : Fin index.edges.length} :
    index.place? source target = some place ↔
      (index.edgeAt place).ends = (source, target) := by
  have atPlace := linked (source, target) place
  rw [List.getElem?_eq_getElem place.isLt, Option.map_some, Option.some.injEq] at atPlace
  refine Iff.trans ?_ atPlace
  unfold place?
  split
  · rename_i found noted
    simp only [noted, Option.some.injEq, Fin.ext_iff]
  · rename_i missing
    rw [missing]
    simp

/-- A key leads nowhere exactly if no edge has these ends. -/
theorem Linked.place?_eq_none (linked : index.Linked) {source target : String} :
    index.place? source target = none ↔ ∀ edge ∈ index.edges, edge.ends ≠ (source, target) := by
  rw [Option.eq_none_iff_forall_ne_some]
  constructor
  · intro nowhere edge member ends
    obtain ⟨place, bound, rfl⟩ := List.mem_iff_getElem.mp member
    exact nowhere ⟨place, bound⟩ (linked.place?_eq_some.mpr ends)
  · intro other place found
    exact other _ (List.getElem_mem place.isLt) (linked.place?_eq_some.mp found)

/-- Another edge with the same ends can be put in the place of an edge. -/
theorem Linked.replace (linked : index.Linked) {place : Fin index.edges.length} {edge : Edge}
    (ends : edge.ends = (index.edgeAt place).ends) : (index.replace place edge).Linked := by
  intro key other
  rw [show (index.replace place edge).keys = index.keys from rfl, linked key other]
  change _ ↔ (((index.edges.set place edge)[other]?).map Edge.ends = some key)
  by_cases same : (place : Nat) = other
  · subst same
    simp [ends, edgeAt]
  · rw [List.getElem?_set_ne same]

/-- The place of a new edge can be noted when no edge has its ends. -/
theorem Linked.start (linked : index.Linked) {candidate : Candidate}
    (fresh : ∀ edge ∈ index.edges, edge.ends ≠ candidate.ends) :
    (index.start candidate).Linked := by
  intro key place
  change List.lookup key ((candidate.ends, index.edges.length) :: index.keys) = some place ↔
    ((index.edges ++ [Edge.ofCandidate candidate])[place]?).map Edge.ends = some key
  rw [List.lookup_cons]
  by_cases new : key = candidate.ends
  · subst new
    simp only [beq_self_eq_true, Option.some.injEq]
    constructor
    · rintro rfl
      simp
    · intro found
      obtain ⟨edge, noted, ends⟩ := Option.map_eq_some_iff.mp found
      obtain ⟨bound, rfl⟩ := List.getElem?_eq_some_iff.mp noted
      by_cases old : place < index.edges.length
      · rw [List.getElem_append_left old] at ends
        exact (fresh _ (List.getElem_mem old) ends).elim
      · rw [List.length_append, List.length_singleton] at bound
        omega
  · have unlike : (key == candidate.ends) = false := beq_eq_false_iff_ne.mpr new
    simp only [unlike, linked key place]
    rcases Nat.lt_trichotomy place index.edges.length with old | last | beyond
    · rw [List.getElem?_append_left old]
    · subst last
      simp [Ne.symm new]
    · have outside : (index.edges ++ [Edge.ofCandidate candidate]).length ≤ place := by
        rw [List.length_append, List.length_singleton]
        exact beyond
      rw [List.getElem?_eq_none (Nat.le_of_lt beyond), List.getElem?_eq_none outside]

/-- An observation filed under the edge of its pair leads to the index of the longer history. -/
theorem Describes.observeAt (described : index.Describes observed) {last : Candidate}
    {place : Fin index.edges.length} (same : last.pair = (index.edgeAt place).pair) :
    ∃ next, index.observeAt last place = .ok next ∧ next.Describes (observed ++ [last]) := by
  obtain ⟨place, bound⟩ := place
  have inside : place < (firstBy Candidate.pair observed).length := by
    rwa [described.edges, List.length_map] at bound
  have atPlace : index.edgeAt ⟨place, bound⟩ =
      Edge.ofHistory observed (firstBy Candidate.pair observed)[place] := by
    simp only [edgeAt, List.get_eq_getElem, described.edges, List.getElem_map]
  have samePair : last.pair = (firstBy Candidate.pair observed)[place].pair := by
    rwa [atPlace] at same
  have known : last.pair ∈ observed.map Candidate.pair := by
    rw [samePair, ← mem_map_firstBy]
    exact List.mem_map_of_mem (List.getElem_mem inside)
  refine ⟨index.replace ⟨place, bound⟩
    (Edge.ofHistory (observed ++ [last]) (firstBy Candidate.pair observed)[place]), ?_, ?_, ?_⟩
  · simp only [Index.observeAt, atPlace, Edge.observe_ofHistory samePair]
    rfl
  · change index.edges.set place _ = _
    rw [firstBy_concat, ite_eq_left_iff.mpr fun fresh => (fresh known).elim, described.edges]
    apply List.ext_getElem (by simp)
    intro other _ otherBound
    rw [List.length_map] at otherBound
    rw [List.getElem_set, List.getElem_map, List.getElem_map]
    split
    · rename_i equal
      simp only [equal]
    · rename_i different
      -- No other edge joins the pair of this observation.
      refine (Edge.ofHistory_concat_of_ne ?_ observed).symm
      rw [samePair]
      intro equal
      have distinct := nodup_map_firstBy Candidate.pair observed
      have twice := List.inj_on_of_nodup_map distinct (List.getElem_mem inside)
        (List.getElem_mem otherBound) equal
      exact different (distinct.of_map.getElem_inj_iff.mp twice)
  · apply described.linked.replace
    rw [atPlace, Edge.ends_ofHistory, Edge.ends_ofHistory]

/-- An observation of a new pair leads to the index of the longer history. -/
theorem Describes.start (described : index.Describes observed) {last : Candidate}
    (fresh : last.pair ∉ observed.map Candidate.pair) :
    (index.start last).Describes (observed ++ [last]) := by
  have pairs {earliest : Candidate} (member : earliest ∈ firstBy Candidate.pair observed) :
      last.pair ≠ earliest.pair := by
    intro equal
    apply fresh
    rw [equal, ← mem_map_firstBy]
    exact List.mem_map_of_mem member
  constructor
  · change index.edges ++ [Edge.ofCandidate last] = _
    rw [firstBy_concat, ite_eq_right_iff.mpr fun known => (fresh known).elim, List.map_append,
      List.map_singleton, Edge.ofHistory_concat_self fresh, described.edges]
    congr 1
    apply List.map_congr_left
    intro earliest member
    exact (Edge.ofHistory_concat_of_ne (pairs member) observed).symm
  · apply described.linked.start
    intro edge member ends
    rw [described.edges] at member
    obtain ⟨earliest, first, rfl⟩ := List.mem_map.mp member
    rw [Edge.ends_ofHistory] at ends
    obtain ⟨source, target⟩ := Prod.ext_iff.mp ends
    exact pairs first (Sym2.eq_iff.mpr (Or.inl ⟨source.symm, target.symm⟩))

/-- Every observation can be filed, and leads to the index of the longer history. -/
theorem Describes.observe (described : index.Describes observed) (last : Candidate) :
    ∃ next, index.observe last = .ok next ∧ next.Describes (observed ++ [last]) := by
  unfold Index.observe slot
  cases forward : index.place? last.source last.target with
  | some place =>
      have ends := described.linked.place?_eq_some.mp forward
      obtain ⟨source, target⟩ := Prod.ext_iff.mp ends
      exact described.observeAt (Sym2.eq_iff.mpr (Or.inl ⟨source.symm, target.symm⟩))
  | none =>
      cases backward : index.place? last.target last.source with
      | some place =>
          have ends := described.linked.place?_eq_some.mp backward
          obtain ⟨target, source⟩ := Prod.ext_iff.mp ends
          exact described.observeAt (Sym2.eq_iff.mpr (Or.inr ⟨source.symm, target.symm⟩))
      | none =>
          refine ⟨_, rfl, described.start ?_⟩
          intro known
          rw [← mem_map_firstBy] at known
          obtain ⟨earliest, member, same⟩ := List.mem_map.mp known
          have stored : Edge.ofHistory observed earliest ∈ index.edges := by
            rw [described.edges]
            exact List.mem_map_of_mem member
          rcases Sym2.eq_iff.mp same with ⟨source, target⟩ | ⟨source, target⟩
          · exact described.linked.place?_eq_none.mp forward _ stored (Prod.ext source target)
          · exact described.linked.place?_eq_none.mp backward _ stored (Prod.ext source target)

/-- Every list of observations can be filed, and leads to the index of the whole history. -/
theorem Describes.observeAll (described : index.Describes observed) (more : List Candidate) :
    ∃ next, index.observeAll more = .ok next ∧ next.Describes (observed ++ more) := by
  induction more generalizing index observed with
  | nil => exact ⟨index, rfl, by rwa [List.append_nil]⟩
  | cons first rest ih =>
      obtain ⟨middle, filed, describes⟩ := described.observe first
      obtain ⟨next, reached, final⟩ := ih describes
      refine ⟨next, ?_, by rwa [List.append_assoc] at final⟩
      unfold Index.observeAll
      rw [List.foldlM_cons, filed]
      exact reached

theorem describes_empty : Index.empty.Describes [] where
  edges := rfl
  linked := by
    intro key place
    simp [empty]

/-- The index of a list of observations is determined by it as a history. -/
theorem observeAll_describes (observed : List Candidate) :
    ∃ index, Index.empty.observeAll observed = .ok index ∧ index.Describes observed :=
  describes_empty.observeAll observed

/-- The pairs of the edges are those that were observed, in the order in which they came up. -/
theorem Describes.map_pair_edges (described : index.Describes observed) :
    index.edges.map Edge.pair = (firstBy Candidate.pair observed).map Candidate.pair := by
  rw [described.edges, List.map_map]
  exact List.map_congr_left fun earliest _ => Edge.pair_ofHistory observed earliest

/-- What the keys lead to from either order of two ends joins these ends. -/
theorem Linked.pair_of_place? (linked : index.Linked) {a b : String}
    {place : Fin index.edges.length}
    (found : (index.place? a b).or (index.place? b a) = some place) :
    (index.edgeAt place).pair = s(a, b) := by
  rcases Option.or_eq_some_iff.mp found with forward | ⟨-, backward⟩
  · obtain ⟨first, second⟩ := Prod.ext_iff.mp (linked.place?_eq_some.mp forward)
    exact Sym2.eq_iff.mpr (Or.inl ⟨first, second⟩)
  · obtain ⟨first, second⟩ := Prod.ext_iff.mp (linked.place?_eq_some.mp backward)
    exact Sym2.eq_iff.mpr (Or.inr ⟨first, second⟩)

/-- A pair leads to its edge, whichever of its ends is named first. -/
theorem Describes.get?_eq_some (described : index.Describes observed) {a b : String}
    {edge : Edge} :
    index.get? a b = some edge ↔ edge ∈ index.edges ∧ edge.pair = s(a, b) := by
  constructor
  · intro found
    obtain ⟨place, noted, rfl⟩ := Option.map_eq_some_iff.mp found
    exact ⟨List.getElem_mem place.isLt, described.linked.pair_of_place? noted⟩
  · rintro ⟨member, joins⟩
    obtain ⟨place, bound, rfl⟩ := List.mem_iff_getElem.mp member
    have reachable : ((index.place? a b).or (index.place? b a)).isSome = true := by
      rw [Option.isSome_or, Bool.or_eq_true, Option.isSome_iff_exists, Option.isSome_iff_exists]
      rcases Sym2.eq_iff.mp joins with ⟨first, second⟩ | ⟨first, second⟩
      · exact Or.inl ⟨⟨place, bound⟩, described.linked.place?_eq_some.mpr (Prod.ext first second)⟩
      · exact Or.inr ⟨⟨place, bound⟩, described.linked.place?_eq_some.mpr (Prod.ext first second)⟩
    obtain ⟨other, noted⟩ := Option.isSome_iff_exists.mp reachable
    rw [get?, noted, Option.map_some, Option.some.injEq]
    -- What the keys lead to joins the same pair, and only one edge does.
    have distinct : (index.edges.map Edge.pair).Nodup := by
      rw [described.map_pair_edges]
      exact nodup_map_firstBy Candidate.pair observed
    exact List.inj_on_of_nodup_map distinct (List.getElem_mem other.isLt)
      (List.getElem_mem bound) ((described.linked.pair_of_place? noted).trans joins.symm)

/-- A pair has an edge exactly if it was observed. -/
theorem Describes.get?_isSome (described : index.Describes observed) {a b : String} :
    (index.get? a b).isSome = true ↔ ∃ candidate ∈ observed, candidate.pair = s(a, b) := by
  rw [← List.mem_map, ← mem_map_firstBy, ← described.map_pair_edges, List.mem_map,
    Option.isSome_iff_exists]
  exact exists_congr fun edge => described.get?_eq_some

/-- The edges from a type are those whose pair was first observed from it. -/
theorem Describes.edgesFrom_eq (described : index.Describes observed) (name : String) :
    index.edgesFrom name = index.edges.filter fun edge =>
      (observed.find? (·.pair == edge.pair)).any (·.source == name) := by
  apply List.filter_congr
  intro edge member
  rw [described.edges] at member
  obtain ⟨earliest, first, rfl⟩ := List.mem_map.mp member
  rw [Edge.pair_ofHistory, (mem_firstBy Candidate.pair).mp first]
  rfl

/-- What an index tells of the observations that were filed in it. -/
structure Records (index : Index) (observed : List Candidate) : Prop where
  /-- A key leads to an edge with these ends. -/
  key : ∀ ends place, index.keys.lookup ends = some place →
    ∃ edge, index.edges[place]? = some edge ∧ edge.ends = ends
  /-- There is one edge for each unordered pair that was observed, in the order in which the pairs
  came up, and its ends are those of the earliest observation. -/
  ends : index.edges.map Edge.ends = (firstBy Candidate.pair observed).map Candidate.ends
  firstToSecond : ∀ edge ∈ index.edges, edge.firstToSecond = true
  secondToFirst : ∀ edge ∈ index.edges, edge.first ≠ edge.second →
    (edge.secondToFirst = true ↔
      ∃ candidate ∈ observed, candidate.source = edge.second ∧ candidate.target = edge.first)
  secondMultiplicity : ∀ edge ∈ index.edges,
    (edge.secondMultiplicity = .many ↔
      ∃ candidate ∈ observed, candidate.source = edge.first ∧ candidate.target = edge.second ∧
        candidate.multiplicity = .many)
  firstMultiplicity : ∀ edge ∈ index.edges, edge.first ≠ edge.second →
    (edge.firstMultiplicity = .many ↔
      ∃ candidate ∈ observed, candidate.source = edge.second ∧ candidate.target = edge.first ∧
        candidate.multiplicity = .many)
  /-- On an edge from a type to itself every observation counts for the second end. -/
  loop : ∀ edge ∈ index.edges, edge.first = edge.second →
    edge.secondToFirst = false ∧ edge.firstMultiplicity = .one
  get : ∀ a b edge, index.get? a b = some edge ↔ edge ∈ index.edges ∧ edge.pair = s(a, b)
  get_isSome : ∀ a b, (index.get? a b).isSome = true ↔
    ∃ candidate ∈ observed, candidate.pair = s(a, b)
  edgesFrom : ∀ name, index.edgesFrom name = index.edges.filter fun edge =>
    (observed.find? (·.pair == edge.pair)).any (·.source == name)
  /-- Whatever comes next can be filed as well. -/
  next : ∀ candidate, ∃ reached, index.observe candidate = .ok reached

/-- **An index is the record of its history.** Filing any list of observations succeeds, and the
index that is reached holds exactly what was observed of each unordered pair. -/
theorem observeAll_records (observed : List Candidate) :
    ∃ index, Index.empty.observeAll observed = .ok index ∧ index.Records observed := by
  obtain ⟨index, filed, described⟩ := observeAll_describes observed
  have stored {edge : Edge} (member : edge ∈ index.edges) :
      ∃ earliest, edge = Edge.ofHistory observed earliest := by
    rw [described.edges] at member
    obtain ⟨earliest, -, rfl⟩ := List.mem_map.mp member
    exact ⟨earliest, rfl⟩
  refine ⟨index, filed, ?_⟩
  constructor
  case key =>
    intro ends place noted
    exact Option.map_eq_some_iff.mp ((described.linked ends place).mp noted)
  case ends =>
    rw [described.edges, List.map_map]
    rfl
  case firstToSecond =>
    intro edge member
    obtain ⟨earliest, rfl⟩ := stored member
    rfl
  case secondToFirst =>
    intro edge member different
    obtain ⟨earliest, rfl⟩ := stored member
    have apart : (earliest.source != earliest.target) = true := bne_iff_ne.mpr different
    simp only [Edge.ofHistory, apart, Bool.true_and, refers_eq_true]
  case secondMultiplicity =>
    intro edge member
    obtain ⟨earliest, rfl⟩ := stored member
    exact held_eq_many
  case firstMultiplicity =>
    intro edge member different
    obtain ⟨earliest, rfl⟩ := stored member
    simp only [Edge.ofHistory] at different ⊢
    rw [ite_eq_right_iff.mpr fun same => (different same).elim]
    exact held_eq_many
  case loop =>
    intro edge member same
    obtain ⟨earliest, rfl⟩ := stored member
    simp only [Edge.ofHistory] at same ⊢
    simp [same]
  case get => exact fun a b edge => described.get?_eq_some
  case get_isSome => exact fun a b => described.get?_isSome
  case edgesFrom => exact described.edgesFrom_eq
  case next =>
    intro candidate
    obtain ⟨reached, next, -⟩ := described.observe candidate
    exact ⟨reached, next⟩

end Index

end ClassDiagram
