import ClassDiagram.Diagram
import ClassDiagram.Proofs.AssociationHistory
import ClassDiagram.Proofs.CatalogNames
import ClassDiagram.Proofs.Mentions

/-! # The associations of a catalog

The index of a diagram is the record of all `observations` that are made of the types of its
catalog (`ClassDiagram.exists_ofCatalog`).  Since they are made type by type, the edges that are
stored from a type are those of its observations whose pair no earlier type has observed
(`ClassDiagram.Index.Describes.edgesFrom_name`), and the index lists the edges of one type after
those of another (`ClassDiagram.Index.Describes.edges_eq_flatMap`).
-/

namespace ClassDiagram

/-- What is chosen of the contributions of several owners is listed owner by owner. -/
theorem eq_flatMap_filter {α β : Type} {list : List α} {owners : List β} {parts : β → List α}
    {name : β → String} {owner : α → String}
    (chosen : list.Sublist (owners.flatMap parts)) (distinct : (owners.map name).Nodup)
    (owned : ∀ each ∈ owners, ∀ part ∈ parts each, owner part = name each) :
    list = owners.flatMap fun each => list.filter (owner · == name each) := by
  induction owners generalizing list with
  | nil => simpa using chosen
  | cons first rest ih =>
      rw [List.map_cons, List.nodup_cons] at distinct
      rw [List.flatMap_cons] at chosen
      obtain ⟨front, back, rfl, ofFirst, ofRest⟩ := List.sublist_append_iff.mp chosen
      have ownFront : ∀ part ∈ front, owner part = name first := fun part member =>
        owned first List.mem_cons_self part (ofFirst.subset member)
      have ownBack : ∀ part ∈ back, owner part ∈ rest.map name := by
        intro part member
        obtain ⟨each, known, inside⟩ := List.mem_flatMap.mp (ofRest.subset member)
        exact List.mem_map.mpr
          ⟨each, known, (owned each (List.mem_cons_of_mem _ known) part inside).symm⟩
      have firstOnly : (front ++ back).filter (owner · == name first) = front := by
        rw [List.filter_append, List.filter_eq_self.mpr, List.filter_eq_nil_iff.mpr,
          List.append_nil]
        · intro part member same
          exact distinct.1 (beq_iff_eq.mp same ▸ ownBack part member)
        · exact fun part member => beq_iff_eq.mpr (ownFront part member)
      have laterOnly : ∀ each ∈ rest, (front ++ back).filter (owner · == name each) =
          back.filter (owner · == name each) := by
        intro each known
        rw [List.filter_append, List.filter_eq_nil_iff.mpr, List.nil_append]
        intro part member same
        rw [ownFront part member, beq_iff_eq] at same
        exact distinct.1 (List.mem_map.mpr ⟨each, known, same.symm⟩)
      rw [List.flatMap_cons, firstOnly, List.flatMap_congr laterOnly,
        ← ih ofRest distinct.2 fun each known => owned each (List.mem_cons_of_mem _ known)]

section Observations

variable (catalog : Catalog) (config : Config)

/-- When a class of the catalog refers to a type of the catalog, with this multiplicity. -/
def Refers (source target : String) (multiplicity : Multiplicity) : Prop :=
  ∃ descriptor ∈ catalog.types, descriptor.name = source ∧ descriptor.kind = .classKind ∧
    Relations.Holds catalog config descriptor target multiplicity

instance (source target : String) (multiplicity : Multiplicity) :
    Decidable (Refers catalog config source target multiplicity) :=
  inferInstanceAs (Decidable (∃ descriptor ∈ catalog.types, descriptor.name = source ∧
    descriptor.kind = .classKind ∧ Relations.Holds catalog config descriptor target multiplicity))

/-- When a class of the catalog refers to a type of the catalog in any way. -/
def Mentions (source target : String) : Prop :=
  Refers catalog config source target .one ∨ Refers catalog config source target .many

instance (source target : String) : Decidable (Mentions catalog config source target) :=
  inferInstanceAs (Decidable (_ ∨ _))

/-- The observations that are made of a type. -/
def observationsOf (descriptor : Descriptor) : List Candidate :=
  (Relations.ofType catalog config descriptor).candidates

/-- All observations that are made of the types of a catalog, in order. -/
def observations : List Candidate :=
  catalog.types.flatMap (observationsOf catalog config)

/-- Merging what the types contribute is filing all observations in turn. -/
theorem mergeAll_eq_observeAll (relations : List Relations) (index : Index) :
    relations.foldlM (fun reached each => reached.observeAll each.candidates) index =
      index.observeAll (relations.flatMap Relations.candidates) := by
  induction relations generalizing index with
  | nil => rfl
  | cons first rest ih =>
      rw [List.foldlM_cons, List.flatMap_cons]
      unfold Index.observeAll at ih ⊢
      rw [List.foldlM_append]
      congr 1
      funext reached
      exact ih reached

/-- The diagram of any catalog can be made, and its index is that of all observations. -/
theorem exists_ofCatalog : ∃ index, index.Describes (observations catalog config) ∧
    Diagram.ofCatalog catalog config =
      .ok ⟨catalog, config, Relations.ofCatalog catalog config, index⟩ := by
  obtain ⟨index, filed, described⟩ := Index.observeAll_describes (observations catalog config)
  refine ⟨index, described, ?_⟩
  have merged : Diagram.mergeAll (Relations.ofCatalog catalog config) = .ok index := by
    unfold Diagram.mergeAll
    rw [mergeAll_eq_observeAll, Relations.ofCatalog, List.flatMap_map]
    exact filed
  unfold Diagram.ofCatalog
  simp only [merged]
  rfl

variable {catalog config} {descriptor : Descriptor}

/-- A class mentions a type if it refers to it with some multiplicity. -/
theorem mentions_iff {source target : String} :
    Mentions catalog config source target ↔
      ∃ multiplicity, Refers catalog config source target multiplicity := by
  constructor
  · rintro (one | many)
    · exact ⟨.one, one⟩
    · exact ⟨.many, many⟩
  · rintro ⟨multiplicity, refers⟩
    cases multiplicity
    · exact Or.inl refers
    · exact Or.inr refers

/-- What is observed of a type has the type as its source. -/
theorem source_of_mem_observationsOf {candidate : Candidate}
    (member : candidate ∈ observationsOf catalog config descriptor) :
    candidate.source = descriptor.name :=
  (Relations.mem_candidatesOf.mp (Relations.mem_candidates.mp member).2).1

/-- The dashed edges of a type lead to it. -/
theorem Relations.implementor_of_mem {edge : InterfaceEdge}
    (member : edge ∈ (ofType catalog config descriptor).interfaceEdges) :
    edge.implementor = descriptor.name := by
  unfold ofType interfaceEdgesOf at member
  cases kind : descriptor.kind with
  | interfaceKind =>
      rw [kind] at member
      cases member
  | classKind =>
      simp only [kind] at member
      split at member
      · obtain ⟨interface, -, rfl⟩ := List.mem_map.mp member
        rfl
      · cases member

/-- The edge of a type to its base leads to it. -/
theorem Relations.derived_of_mem {edge : InheritanceEdge}
    (member : edge ∈ (ofType catalog config descriptor).inheritance) :
    edge.derived = descriptor.name := by
  unfold ofType inheritanceOf at member
  cases kind : descriptor.kind with
  | interfaceKind =>
      rw [kind] at member
      cases member
  | classKind =>
      simp only [kind] at member
      obtain ⟨base, -, rfl⟩ := Option.map_eq_some_iff.mp member
      rfl

/-- An observation says what a class refers to, with any number if some reference does. -/
theorem mem_observations {candidate : Candidate} :
    candidate ∈ observations catalog config ↔
      Mentions catalog config candidate.source candidate.target ∧
        (candidate.multiplicity = .many ↔
          Refers catalog config candidate.source candidate.target .many) := by
  rw [observations, List.mem_flatMap, mentions_iff]
  constructor
  · rintro ⟨descriptor, member, observed⟩
    obtain ⟨isClass, candidate⟩ := Relations.mem_candidates.mp observed
    obtain ⟨source, target, many⟩ := Relations.mem_candidatesOf.mp candidate
    obtain ⟨multiplicity, holds⟩ := Relations.mem_targets.mp target
    refine ⟨⟨multiplicity, descriptor, member, source.symm, isClass, holds⟩, ?_⟩
    rw [many]
    constructor
    · exact fun holds => ⟨descriptor, member, source.symm, isClass, holds⟩
    · rintro ⟨other, otherMember, named, -, holds⟩
      have same := Catalog.eq_of_name_eq otherMember member (named.trans source)
      exact same ▸ holds
  · rintro ⟨⟨multiplicity, descriptor, member, named, isClass, holds⟩, many⟩
    refine ⟨descriptor, member, Relations.mem_candidates.mpr ⟨isClass, ?_⟩⟩
    refine Relations.mem_candidatesOf.mpr
      ⟨named.symm, Relations.mem_targets.mpr ⟨multiplicity, holds⟩, many.trans ?_⟩
    constructor
    · rintro ⟨other, otherMember, otherNamed, -, holds⟩
      have same := Catalog.eq_of_name_eq otherMember member (otherNamed.trans named.symm)
      exact same ▸ holds
    · exact fun holds => ⟨descriptor, member, named, isClass, holds⟩

/-- What a class refers to is observed. -/
theorem exists_mem_observations {source target : String}
    (mentions : Mentions catalog config source target) :
    ∃ candidate ∈ observations catalog config, candidate.source = source ∧
      candidate.target = target ∧
        (candidate.multiplicity = .many ↔ Refers catalog config source target .many) := by
  by_cases many : Refers catalog config source target .many
  · exact ⟨⟨source, target, .many⟩,
      mem_observations.mpr ⟨mentions, iff_of_true rfl many⟩, rfl, rfl, iff_of_true rfl many⟩
  · have one : ¬ Multiplicity.one = .many := fun absurd => nomatch absurd
    exact ⟨⟨source, target, .one⟩,
      mem_observations.mpr ⟨mentions, iff_of_false one many⟩, rfl, rfl, iff_of_false one many⟩

/-- One type was observed to refer to another exactly if it mentions it. -/
theorem refers_observations {source target : String} :
    refers (observations catalog config) source target = true ↔
      Mentions catalog config source target := by
  rw [refers_eq_true]
  constructor
  · rintro ⟨candidate, observed, rfl, rfl⟩
    exact (mem_observations.mp observed).1
  · intro mentions
    obtain ⟨candidate, observed, source, target, -⟩ := exists_mem_observations mentions
    exact ⟨candidate, observed, source, target⟩

/-- It was observed to hold any number of it exactly if a member refers to it so. -/
theorem held_observations {source target : String} :
    held (observations catalog config) source target = .many ↔
      Refers catalog config source target .many := by
  rw [held_eq_many]
  constructor
  · rintro ⟨candidate, observed, rfl, rfl, many⟩
    exact (mem_observations.mp observed).2.mp many
  · intro refers
    obtain ⟨candidate, observed, source, target, many⟩ := exists_mem_observations (Or.inr refers)
    exact ⟨candidate, observed, source, target, many.mpr refers⟩

variable (catalog config descriptor) in
/-- No pair is observed twice of one type. -/
theorem nodup_map_pair_observationsOf :
    ((observationsOf catalog config descriptor).map Candidate.pair).Nodup := by
  have sources : (observationsOf catalog config descriptor).map Candidate.pair =
      ((observationsOf catalog config descriptor).map Candidate.target).map
        fun target => s(descriptor.name, target) := by
    rw [List.map_map]
    apply List.map_congr_left
    intro candidate observed
    rw [Candidate.pair, source_of_mem_observationsOf observed]
    rfl
  have distinct : ((observationsOf catalog config descriptor).map Candidate.target).Nodup := by
    unfold observationsOf Relations.ofType
    cases descriptor.kind with
    | interfaceKind => exact List.nodup_nil
    | classKind =>
        change ((Relations.candidatesOf catalog config descriptor).map Candidate.target).Nodup
        rw [Relations.map_target_candidatesOf]
        exact Relations.nodup_targets
  rw [sources]
  exact distinct.map fun left right same => Sym2.congr_right.mp same

namespace Index.Describes

variable {index : Index} (described : index.Describes (observations catalog config))

include described

/-- The edges that are stored from a type are those of its own observations whose pair no earlier
type has observed. -/
theorem edgesFrom_name {before after : List Descriptor}
    (split : catalog.types = before ++ descriptor :: after) :
    index.edgesFrom descriptor.name =
      ((observationsOf catalog config descriptor).filter fun candidate =>
        candidate.pair ∉ (before.flatMap (observationsOf catalog config)).map Candidate.pair).map
          (Edge.ofHistory (observations catalog config)) := by
  obtain ⟨notBefore, notAfter⟩ := Catalog.name_apart split
  -- What other types contribute has other sources.
  have others {types : List Descriptor} (apart : descriptor.name ∉ types.map Descriptor.name) :
      ∀ candidate ∈ types.flatMap (observationsOf catalog config),
        (candidate.source == descriptor.name) = false := by
    intro candidate member
    obtain ⟨other, known, observed⟩ := List.mem_flatMap.mp member
    rw [source_of_mem_observationsOf observed, beq_eq_false_iff_ne]
    exact fun same => apart (List.mem_map.mpr ⟨other, known, same⟩)
  have parts : observations catalog config =
      before.flatMap (observationsOf catalog config) ++
        (observationsOf catalog config descriptor ++
          after.flatMap (observationsOf catalog config)) := by
    rw [observations, split, List.flatMap_append, List.flatMap_cons]
  unfold Index.edgesFrom
  rw [described.edges, List.filter_map]
  congr 1
  change (firstBy Candidate.pair (observations catalog config)).filter
    (fun candidate => candidate.source == descriptor.name) = _
  rw [parts]
  exact filter_firstBy_middle Candidate.pair (others notBefore)
    (fun candidate observed => beq_iff_eq.mpr (source_of_mem_observationsOf observed))
    (others notAfter) (nodup_map_pair_observationsOf catalog config descriptor)

/-- The edges are listed type by type. -/
theorem edges_eq_flatMap : index.edges =
    catalog.types.flatMap fun descriptor => index.edgesFrom descriptor.name := by
  have kept : ((firstBy Candidate.pair (observations catalog config)).map
      (Edge.ofHistory (observations catalog config))).Sublist
        (catalog.types.flatMap fun descriptor =>
          (observationsOf catalog config descriptor).map
            (Edge.ofHistory (observations catalog config))) := by
    rw [← List.map_flatMap]
    exact (firstBy_sublist _ _).map _
  rw [← described.edges] at kept
  apply eq_flatMap_filter kept catalog.names_nodup
  intro descriptor _ edge stored
  obtain ⟨candidate, observed, rfl⟩ := List.mem_map.mp stored
  exact source_of_mem_observationsOf observed

end Index.Describes

end Observations

end ClassDiagram
