import ClassDiagram.Proofs.DiagramText

/-! # Scanning hidden members

What an index tells of two types does not depend on the way in which their edge is stored: it can be
followed from one type to the other exactly if that was observed
(`ClassDiagram.Index.Describes.leads_eq`), and one type holds any number of the other exactly if
that was observed (`ClassDiagram.Index.Describes.holds_eq`).  Therefore scanning hidden members as
well adds to a diagram and takes nothing away (`ClassDiagram.exists_widens`), although edges may be
stored the other way round.
-/

namespace ClassDiagram

namespace Edge

/-- Whether an edge can be followed from one type to another. -/
def leads (edge : Edge) (source target : String) : Bool :=
  if edge.runs source target then edge.firstToSecond
  else edge.runs target source && edge.secondToFirst

/-- How many of the target the source holds by an edge.  On an edge from a type to itself this is
what stands at the second end. -/
def holds (edge : Edge) (source target : String) : Multiplicity :=
  if edge.runs source target then edge.secondMultiplicity
  else if edge.runs target source then edge.firstMultiplicity
  else .one

end Edge

namespace Index

/-- Whether the edge of two types can be followed from the first to the second. -/
def leads (index : Index) (source target : String) : Bool :=
  (index.get? source target).any (·.leads source target)

/-- How many of the second of two types the first holds by their edge. -/
def holds (index : Index) (source target : String) : Multiplicity :=
  ((index.get? source target).map (·.holds source target)).getD .one

variable {index : Index} {observed : List Candidate}

/-- The edge of two types tells what was observed between them, whichever way it is stored. -/
theorem Describes.get?_tells (described : index.Describes observed) {source target : String}
    {edge : Edge} (found : index.get? source target = some edge) :
    edge.leads source target = refers observed source target ∧
      edge.holds source target = held observed source target := by
  obtain ⟨member, joins⟩ := described.get?_eq_some.mp found
  rw [described.edges] at member
  obtain ⟨earliest, first, rfl⟩ := List.mem_map.mp member
  have observedFirst : refers observed earliest.source earliest.target = true :=
    refers_eq_true.mpr ⟨earliest, (firstBy_sublist _ _).subset first, rfl, rfl⟩
  have straight : (Edge.ofHistory observed earliest).runs earliest.source earliest.target = true :=
    Edge.runs_eq_true.mpr ⟨rfl, rfl⟩
  by_cases same : earliest.source = source ∧ earliest.target = target
  · obtain ⟨rfl, rfl⟩ := same
    simp only [Edge.leads, Edge.holds, straight, if_true]
    exact ⟨observedFirst.symm, rfl⟩
  · -- The edge is stored the other way round, and is none from a type to itself.
    obtain ⟨rfl, rfl⟩ : earliest.source = target ∧ earliest.target = source := by
      rcases Sym2.eq_iff.mp joins with forward | backward
      · exact absurd forward same
      · exact backward
    have apart : earliest.source ≠ earliest.target := fun equal => same ⟨equal, equal.symm⟩
    have turned :
        (Edge.ofHistory observed earliest).runs earliest.target earliest.source = false := by
      rw [Bool.eq_false_iff, ne_eq, Edge.runs_eq_true]
      exact same
    simp only [Edge.leads, Edge.holds, straight, turned, Bool.false_eq_true, if_true, if_false]
    simp [Edge.ofHistory, apart]

/-- Where an index has no edge of two types, nothing was observed of them. -/
theorem Describes.not_observed (described : index.Describes observed) {source target : String}
    (missing : index.get? source target = none) {candidate : Candidate}
    (member : candidate ∈ observed) :
    ¬ (candidate.source = source ∧ candidate.target = target) := by
  rintro ⟨rfl, rfl⟩
  have found := described.get?_isSome.mpr ⟨candidate, member, rfl⟩
  rw [missing] at found
  cases found

/-- An edge can be followed exactly where that was observed. -/
theorem Describes.leads_eq (described : index.Describes observed) (source target : String) :
    index.leads source target = refers observed source target := by
  unfold leads
  cases found : index.get? source target with
  | some edge => exact (described.get?_tells found).1
  | none =>
      refine (Bool.eq_false_iff.mpr fun seen => ?_).symm
      obtain ⟨candidate, member, ends⟩ := refers_eq_true.mp seen
      exact described.not_observed found member ends

/-- One type holds any number of another exactly where that was observed. -/
theorem Describes.holds_eq (described : index.Describes observed) (source target : String) :
    index.holds source target = held observed source target := by
  unfold holds
  cases found : index.get? source target with
  | some edge => exact (described.get?_tells found).2
  | none =>
      cases most : held observed source target with
      | one => rfl
      | many =>
          obtain ⟨candidate, member, source, target, -⟩ := held_eq_many.mp most
          exact absurd ⟨source, target⟩ (described.not_observed found member)

end Index

/-- One diagram has all that another has, and the same apart from associations. -/
structure Diagram.Widens (wide narrow : Diagram) : Prop where
  nodes : wide.nodes = narrow.nodes
  interfaceEdges : wide.interfaceEdges = narrow.interfaceEdges
  inheritanceEdges : wide.inheritanceEdges = narrow.inheritanceEdges
  /-- Every entry that both diagrams have is written the same way. -/
  text : ∀ entry : Entry,
    entry.text wide.catalog wide.config = entry.text narrow.catalog narrow.config
  associated : ∀ a b, (narrow.associations.get? a b).isSome = true →
    (wide.associations.get? a b).isSome = true
  leads : ∀ a b, narrow.associations.leads a b = true → wide.associations.leads a b = true
  holds : ∀ a b, narrow.associations.holds a b = .many → wide.associations.holds a b = .many

section Widening

variable {catalog : Catalog} {mode : InterfaceMode}

/-- What is scanned without hidden members is scanned with them. -/
theorem Refers.widen {source target : String} {multiplicity : Multiplicity}
    (refers : Refers catalog ⟨mode, false⟩ source target multiplicity) :
    Refers catalog ⟨mode, true⟩ source target multiplicity := by
  obtain ⟨descriptor, known, named, isClass, member, declared, -, mentions⟩ := refers
  exact ⟨descriptor, known, named, isClass, member, declared, by simp [Config.scans], mentions⟩

/-- What a class refers to by visible members it refers to by all of them. -/
theorem Mentions.widen {source target : String}
    (mentions : Mentions catalog ⟨mode, false⟩ source target) :
    Mentions catalog ⟨mode, true⟩ source target :=
  mentions.imp Refers.widen Refers.widen

variable (catalog mode) in
/-- What hidden members add to the relations of a type are candidates only. -/
theorem Relations.ofType_widen (descriptor : Descriptor) :
    ofType catalog ⟨mode, true⟩ descriptor =
      { ofType catalog ⟨mode, false⟩ descriptor with
        candidates := observationsOf catalog ⟨mode, true⟩ descriptor } := by
  unfold observationsOf ofType
  cases descriptor.kind <;> rfl

/-- A pair is observed exactly if one of its ends refers to the other. -/
theorem exists_mem_observations_pair {config : Config} {a b : String} :
    (∃ candidate ∈ observations catalog config, candidate.pair = s(a, b)) ↔
      Mentions catalog config a b ∨ Mentions catalog config b a := by
  rw [← refers_observations, ← refers_observations, refers_eq_true, refers_eq_true, ← exists_or]
  simp only [Candidate.pair, Sym2.eq_iff, ← and_or_left]

end Widening

/-- **Hidden members only add.** Whatever the types and the interface mode are, scanning hidden
members as well leaves nodes, dashed edges and inheritance as they are, keeps every association, and
takes away no direction in which an association can be followed and no end of which the other holds
any number. -/
theorem exists_widens (mode : InterfaceMode) (types : List Descriptor) :
    ∃ narrow wide,
      Diagram.ofCatalog (Catalog.ofList types) { interfaceMode := mode, includeHidden := false } =
        .ok narrow ∧
      Diagram.ofCatalog (Catalog.ofList types) { interfaceMode := mode, includeHidden := true } =
        .ok wide ∧
      wide.Widens narrow := by
  obtain ⟨few, fewDescribed, narrowMade⟩ := exists_ofCatalog (Catalog.ofList types) ⟨mode, false⟩
  obtain ⟨all, allDescribed, wideMade⟩ := exists_ofCatalog (Catalog.ofList types) ⟨mode, true⟩
  refine ⟨_, _, narrowMade, wideMade, ?_⟩
  constructor
  case nodes =>
    simp only [Diagram.nodes, Relations.ofCatalog, List.filterMap_map, Function.comp_def,
      Relations.ofType_widen]
    rfl
  case interfaceEdges =>
    simp only [Diagram.interfaceEdges, Relations.ofCatalog, List.flatMap_map,
      Relations.ofType_widen]
  case inheritanceEdges =>
    simp only [Diagram.inheritanceEdges, Relations.ofCatalog, List.filterMap_map,
      Function.comp_def, Relations.ofType_widen]
  case text =>
    intro entry
    rfl
  case associated =>
    intro a b found
    rw [fewDescribed.get?_isSome, exists_mem_observations_pair] at found
    rw [allDescribed.get?_isSome, exists_mem_observations_pair]
    exact found.imp Mentions.widen Mentions.widen
  case leads =>
    intro a b leads
    rw [fewDescribed.leads_eq, refers_observations] at leads
    rw [allDescribed.leads_eq, refers_observations]
    exact leads.widen
  case holds =>
    intro a b holds
    rw [fewDescribed.holds_eq, held_observations] at holds
    rw [allDescribed.holds_eq, held_observations]
    exact holds.widen

/-- A hidden member of an earlier type turns an edge round, which still leads where it did. -/
example :
    [false, true].map (fun hidden => generate { includeHidden := hidden }
      [⟨"Wing", .classKind, none, [], [⟨"bird", .hidden, .single "Bird"⟩]⟩,
        ⟨"Bird", .classKind, none, [], [⟨"wings", .visible, .collection "List" "Wing"⟩]⟩]) =
      [.ok "[Wing],[Bird],[Bird]1-0..*[Wing]", .ok "[Wing],[Wing]<0..*-1>[Bird],[Bird]"] := by
  rfl

end ClassDiagram
