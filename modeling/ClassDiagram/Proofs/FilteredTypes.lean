import ClassDiagram.Proofs.HiddenMembers
import ClassDiagram.Proofs.InterfaceMarks

/-! # Diagrams of some of the types

A filter leaves some of the types out of a diagram, and what is drawn of the others is what the
diagram of all types has between them (`ClassDiagram.exists_restricts`): the same edges to bases and
interfaces, and every direction in which an association can be followed.  Associations can be added
where a container is left out that was meant as such, since it is then opened; where this does not
happen, the associations are the same as well.  Each part of a diagram has its own law about
`ClassDiagram.Catalog.restrict`, and all of them are carried from the types to the diagram by
`ClassDiagram.flatMap_filter_eq`.
-/

namespace ClassDiagram

/-- What the chosen owners contribute is what is chosen of all contributions. -/
theorem flatMap_filter_eq {α β : Type} {owners : List β} {keep : β → Bool}
    {few parts : β → List α} {chosen : α → Bool}
    (kept : ∀ each ∈ owners, keep each = true → few each = (parts each).filter chosen)
    (left : ∀ each ∈ owners, keep each = false → ∀ part ∈ parts each, chosen part = false) :
    (owners.filter keep).flatMap few = (owners.flatMap parts).filter chosen := by
  induction owners with
  | nil => rfl
  | cons first rest ih =>
      have later := ih (fun each member => kept each (List.mem_cons_of_mem _ member))
        (fun each member => left each (List.mem_cons_of_mem _ member))
      rw [List.flatMap_cons, List.filter_append, ← later]
      by_cases keeps : keep first = true
      · rw [List.filter_cons_of_pos keeps, List.flatMap_cons, kept first List.mem_cons_self keeps]
      · have none : (parts first).filter chosen = [] :=
          List.filter_eq_nil_iff.mpr fun part member => by
            simp [left first List.mem_cons_self (Bool.eq_false_iff.mpr keeps) part member]
        rw [List.filter_cons_of_neg keeps, none, List.nil_append]

namespace Catalog

/-- The types of a catalog that pass a filter. -/
def restrict (catalog : Catalog) (keep : Filter) : Catalog where
  types := catalog.types.filter keep
  names_nodup := catalog.names_nodup.sublist (List.filter_sublist.map _)

variable {catalog : Catalog} {keep : Filter} {descriptor : Descriptor} {name : String}

/-- A name is kept if the type that has it is. -/
theorem contains_restrict :
    (catalog.restrict keep).contains name = true ↔
      ∃ descriptor ∈ catalog.types, descriptor.name = name ∧ keep descriptor = true := by
  rw [contains_iff]
  simp only [restrict, List.mem_filter, and_assoc]
  exact exists_congr fun descriptor => and_congr_right fun _ => and_comm

theorem contains_of_contains_restrict (kept : (catalog.restrict keep).contains name = true) :
    catalog.contains name = true := by
  obtain ⟨descriptor, member, named, -⟩ := contains_restrict.mp kept
  exact contains_iff.mpr ⟨descriptor, member, named⟩

/-- A type is kept exactly if its name is. -/
theorem contains_restrict_name (member : descriptor ∈ catalog.types) :
    (catalog.restrict keep).contains descriptor.name = keep descriptor := by
  rw [Bool.eq_iff_iff, contains_restrict]
  constructor
  · rintro ⟨other, known, same, kept⟩
    rwa [← eq_of_name_eq known member same]
  · exact fun kept => ⟨descriptor, member, rfl, kept⟩

/-- A name that is kept means the same type. -/
theorem get?_restrict (kept : (catalog.restrict keep).contains name = true) :
    (catalog.restrict keep).get? name = catalog.get? name := by
  obtain ⟨descriptor, member, rfl, keeps⟩ := contains_restrict.mp kept
  rw [get?_name member]
  exact get?_name (List.mem_filter.mpr ⟨member, keeps⟩)

variable (catalog keep) in
/-- Looking among what is kept is keeping what was looked up. -/
theorem filter_contains_restrict (names : List String) :
    names.filter (catalog.restrict keep).contains =
      (names.filter catalog.contains).filter (catalog.restrict keep).contains := by
  rw [List.filter_filter]
  apply List.filter_congr
  intro name _
  cases kept : (catalog.restrict keep).contains name with
  | false => rfl
  | true => rw [contains_of_contains_restrict kept]; rfl

variable (catalog keep descriptor) in
/-- A type implements those of its interfaces that are kept. -/
theorem implementedInterfaces_restrict :
    (catalog.restrict keep).implementedInterfaces descriptor =
      (catalog.implementedInterfaces descriptor).filter (catalog.restrict keep).contains := by
  unfold implementedInterfaces
  rw [filter_contains_restrict, eraseDups_eq_firstBy, eraseDups_eq_firstBy]
  exact firstBy_filter id (catalog.restrict keep).contains _

/-- Filtering a list whose types have different names is restricting its catalog. -/
theorem ofList_filter {types : List Descriptor} (distinct : (types.map Descriptor.name).Nodup)
    (keep : Filter) : ofList (types.filter keep) = (ofList types).restrict keep := by
  apply eq_of_types_eq
  rw [types_ofList, firstBy_eq_self _ (distinct.sublist (List.filter_sublist.map _))]
  change _ = (ofList types).types.filter keep
  rw [types_ofList, firstBy_eq_self _ distinct]

end Catalog

section Restriction

variable {catalog : Catalog} {config : Config} {keep : Filter} {descriptor : Descriptor}

/-- A dashed edge is drawn where both its ends are kept. -/
theorem Relations.interfaceEdges_restrict (member : descriptor ∈ catalog.types)
    (kept : keep descriptor = true) :
    (ofType (catalog.restrict keep) config descriptor).interfaceEdges =
      (ofType catalog config descriptor).interfaceEdges.filter fun edge =>
        (catalog.restrict keep).contains edge.interface &&
          (catalog.restrict keep).contains edge.implementor := by
  have own : (catalog.restrict keep).contains descriptor.name = true :=
    (Catalog.contains_restrict_name member).trans kept
  unfold ofType
  cases descriptor.kind with
  | interfaceKind => rfl
  | classKind =>
      simp only [interfaceEdgesOf]
      cases config.isExplicit with
      | false => rfl
      | true =>
          simp only [↓reduceIte, Catalog.implementedInterfaces_restrict, List.filter_map,
            Function.comp_def, own, Bool.and_true]

/-- A class is drawn with its base where both are kept. -/
theorem Relations.inheritance_restrict (member : descriptor ∈ catalog.types)
    (kept : keep descriptor = true) :
    (ofType (catalog.restrict keep) config descriptor).inheritance.toList =
      (ofType catalog config descriptor).inheritance.toList.filter fun edge =>
        (catalog.restrict keep).contains edge.base &&
          (catalog.restrict keep).contains edge.derived := by
  have own : (catalog.restrict keep).contains descriptor.name = true :=
    (Catalog.contains_restrict_name member).trans kept
  unfold ofType
  cases descriptor.kind with
  | interfaceKind => rfl
  | classKind =>
      simp only [inheritanceOf]
      cases descriptor.base with
      | none => rfl
      | some base =>
          cases found : (catalog.restrict keep).contains base with
          | true =>
              simp [Option.filter, found, Catalog.contains_of_contains_restrict found, own]
          | false => cases known : catalog.contains base <;> simp [Option.filter, found, known]

/-- What a shape refers to and is kept it still refers to. -/
theorem Shape.RefersTo.restrict {shape : Shape} {target : String} {multiplicity : Multiplicity}
    (refers : shape.RefersTo catalog target multiplicity)
    (kept : (catalog.restrict keep).contains target = true) :
    shape.RefersTo (catalog.restrict keep) target multiplicity := by
  have unknown {name : String} (missing : catalog.contains name = false) :
      (catalog.restrict keep).contains name = false := by
    rw [Bool.eq_false_iff] at missing ⊢
    exact fun found => missing (Catalog.contains_of_contains_restrict found)
  cases refers with
  | single _ => exact .single kept
  | container _ => exact .container kept
  | element missing ranges held _ => exact .element (unknown missing) ranges held kept
  | argument missing ranges held _ => exact .argument (unknown missing) ranges held kept

/-- What a class refers to it still refers to, if both are kept. -/
theorem Refers.restrict {source target : String} {multiplicity : Multiplicity}
    (refers : Refers catalog config source target multiplicity)
    (sourceKept : (catalog.restrict keep).contains source = true)
    (targetKept : (catalog.restrict keep).contains target = true) :
    Refers (catalog.restrict keep) config source target multiplicity := by
  obtain ⟨descriptor, known, rfl, isClass, member, listed, scanned, mentions⟩ := refers
  rw [Catalog.contains_restrict_name known] at sourceKept
  exact ⟨descriptor, List.mem_filter.mpr ⟨known, sourceKept⟩, rfl, isClass, member, listed,
    scanned, mentions.restrict targetKept⟩

/-- When no scanned member of a type has a container that is left out. -/
def KeepsContainers (catalog : Catalog) (config : Config) (keep : Filter)
    (descriptor : Descriptor) : Prop :=
  ∀ member ∈ descriptor.members, config.scans member.visibility = true →
    ∀ container, member.shape = .container container →
      catalog.contains container.name = true →
        (catalog.restrict keep).contains container.name = true

/-- Where its container is not left out, a shape mentions what is kept. -/
theorem Shape.mentions_restrict {shape : Shape}
    (keeps : ∀ container, shape = .container container →
      catalog.contains container.name = true →
        (catalog.restrict keep).contains container.name = true) :
    shape.mentions (catalog.restrict keep) =
      (shape.mentions catalog).filter fun mention =>
        (catalog.restrict keep).contains mention.target := by
  cases shape with
  | single name =>
      simp only [mentions]
      cases kept : (catalog.restrict keep).contains name with
      | true => simp [kept, Catalog.contains_of_contains_restrict kept]
      | false => cases known : catalog.contains name <;> simp [kept]
  | container c =>
      simp only [mentions]
      cases known : catalog.contains c.name with
      | true => simp [keeps c rfl known]
      | false =>
          have missing : (catalog.restrict keep).contains c.name = false := by
            rw [Bool.eq_false_iff]
            intro found
            rw [Catalog.contains_of_contains_restrict found] at known
            cases known
          simp only [missing, Bool.false_eq_true, ↓reduceIte, List.filter_filter]
          apply List.filter_congr
          intro mention _
          cases kept : (catalog.restrict keep).contains mention.target with
          | false => rfl
          | true => rw [Catalog.contains_of_contains_restrict kept]; rfl

/-- Collapsing looks at each target on its own. -/
theorem Mention.collapse_filter (accepts : String → Bool) (mentions : List Mention) :
    collapse (mentions.filter (accepts ·.target)) =
      (collapse mentions).filter (accepts ·.target) := by
  rw [collapse_eq, collapse_eq, firstBy_filter, List.filter_map]
  apply List.map_congr_left
  intro first member
  have accepted : accepts first.target = true := (List.mem_filter.mp member).2
  have same : largest (mentions.filter (accepts ·.target)) first.target = .many ↔
      largest mentions first.target = .many := by
    rw [largest_eq_many, largest_eq_many, List.mem_filter]
    exact and_iff_left accepted
  cases few : largest (mentions.filter (accepts ·.target)) first.target <;>
    cases all : largest mentions first.target <;> simp_all

/-- Where no container is left out, a class has the candidates whose targets are kept. -/
theorem Relations.candidatesOf_restrict (keeps : KeepsContainers catalog config keep descriptor) :
    candidatesOf (catalog.restrict keep) config descriptor =
      (candidatesOf catalog config descriptor).filter fun candidate =>
        (catalog.restrict keep).contains candidate.target := by
  have mentioned : (scanned config descriptor).flatMap
      (fun member => member.shape.mentions (catalog.restrict keep)) =
        ((scanned config descriptor).flatMap fun member => member.shape.mentions catalog).filter
          fun mention => (catalog.restrict keep).contains mention.target := by
    rw [List.filter_flatMap]
    apply List.flatMap_congr
    intro member listed
    obtain ⟨declared, scans⟩ := List.mem_filter.mp listed
    exact Shape.mentions_restrict fun container same => keeps member declared scans container same
  unfold candidatesOf
  rw [mentioned, Mention.collapse_filter, List.filter_map]
  rfl

/-- Where no container is left out, what is observed of a kept type is what was observed between
kept names. -/
theorem observationsOf_restrict (member : descriptor ∈ catalog.types)
    (kept : keep descriptor = true)
    (keeps : descriptor.kind = .classKind → KeepsContainers catalog config keep descriptor) :
    observationsOf (catalog.restrict keep) config descriptor =
      (observationsOf catalog config descriptor).filter fun candidate =>
        (catalog.restrict keep).contains candidate.source &&
          (catalog.restrict keep).contains candidate.target := by
  have own : (catalog.restrict keep).contains descriptor.name = true :=
    (Catalog.contains_restrict_name member).trans kept
  have sources : (observationsOf catalog config descriptor).filter (fun candidate =>
      (catalog.restrict keep).contains candidate.source &&
        (catalog.restrict keep).contains candidate.target) =
      (observationsOf catalog config descriptor).filter fun candidate =>
        (catalog.restrict keep).contains candidate.target := by
    apply List.filter_congr
    intro candidate observed
    rw [source_of_mem_observationsOf observed, own, Bool.true_and]
  rw [sources]
  unfold observationsOf Relations.ofType
  cases kind : descriptor.kind with
  | interfaceKind => rfl
  | classKind => exact Relations.candidatesOf_restrict (keeps kind)

/-- Where no container is left out, what is observed is what is kept of all observations. -/
theorem observations_restrict
    (keeps : ∀ descriptor ∈ catalog.types, keep descriptor = true →
      descriptor.kind = .classKind → KeepsContainers catalog config keep descriptor) :
    observations (catalog.restrict keep) config =
      (observations catalog config).filter fun candidate =>
        (catalog.restrict keep).contains candidate.source &&
          (catalog.restrict keep).contains candidate.target := by
  apply flatMap_filter_eq
  · intro descriptor member kept
    exact observationsOf_restrict member kept (keeps descriptor member kept)
  · intro descriptor member left candidate observed
    rw [source_of_mem_observationsOf observed, Catalog.contains_restrict_name member, left,
      Bool.false_and]

end Restriction

section History

variable {accepts : String → Bool} {observed : List Candidate}

/-- What was observed between two names does not depend on observations of others. -/
theorem refers_filter {source target : String} (sourceKept : accepts source = true)
    (targetKept : accepts target = true) :
    refers (observed.filter fun each => accepts each.source && accepts each.target) source target =
      refers observed source target := by
  rw [Bool.eq_iff_iff, refers_eq_true, refers_eq_true]
  constructor
  · rintro ⟨candidate, member, ends⟩
    exact ⟨candidate, List.mem_of_mem_filter member, ends⟩
  · rintro ⟨candidate, member, rfl, rfl⟩
    exact ⟨candidate, List.mem_filter.mpr ⟨member, by simp [sourceKept, targetKept]⟩, rfl, rfl⟩

/-- Nor does how many of one name another was observed to hold. -/
theorem held_filter {source target : String} (sourceKept : accepts source = true)
    (targetKept : accepts target = true) :
    held (observed.filter fun each => accepts each.source && accepts each.target) source target =
      held observed source target := by
  have same : held (observed.filter fun each => accepts each.source && accepts each.target)
      source target = .many ↔ held observed source target = .many := by
    rw [held_eq_many, held_eq_many]
    constructor
    · rintro ⟨candidate, member, ends⟩
      exact ⟨candidate, List.mem_of_mem_filter member, ends⟩
    · rintro ⟨candidate, member, rfl, rfl, many⟩
      exact ⟨candidate, List.mem_filter.mpr ⟨member, by simp [sourceKept, targetKept]⟩, rfl, rfl,
        many⟩
  cases few : held (observed.filter fun each => accepts each.source && accepts each.target)
      source target <;> cases all : held observed source target <;> simp_all

/-- An index of the observations between some names has the edges between them. -/
theorem Index.Describes.edges_filter {part whole : Index}
    (partDescribed : part.Describes
      (observed.filter fun each => accepts each.source && accepts each.target))
    (wholeDescribed : whole.Describes observed) :
    part.edges = whole.edges.filter fun edge => accepts edge.first && accepts edge.second := by
  -- Whether an observation is kept can be seen from its unordered pair.
  let both : Sym2 String → Bool :=
    Sym2.lift ⟨fun a b => accepts a && accepts b, fun _ _ => Bool.and_comm _ _⟩
  have earliest : firstBy Candidate.pair
      (observed.filter fun each => accepts each.source && accepts each.target) =
        (firstBy Candidate.pair observed).filter fun each =>
          accepts each.source && accepts each.target :=
    firstBy_filter Candidate.pair both observed
  rw [partDescribed.edges, wholeDescribed.edges, earliest, List.filter_map]
  apply List.map_congr_left
  intro each member
  obtain ⟨sourceKept, targetKept⟩ := Bool.and_eq_true_iff.mp (List.mem_filter.mp member).2
  simp only [Edge.ofHistory, refers_filter targetKept sourceKept,
    held_filter targetKept sourceKept, held_filter sourceKept targetKept]

end History

/-- One diagram has what another has between the names that are kept. -/
structure Diagram.Restricts (part whole : Diagram) (kept : String → Bool) : Prop where
  nodes : part.nodes = (whole.nodes.filter fun node => kept node.name).map fun node =>
    { node with tags := node.tags.filter kept }
  interfaceEdges : part.interfaceEdges = whole.interfaceEdges.filter fun edge =>
    kept edge.interface && kept edge.implementor
  inheritanceEdges : part.inheritanceEdges = whole.inheritanceEdges.filter fun edge =>
    kept edge.base && kept edge.derived
  /-- Nothing else is named, neither at the end of an edge nor by a tag. -/
  names : ∀ name ∈ part.names, kept name = true
  leads : ∀ a b, kept a = true → kept b = true → whole.associations.leads a b = true →
    part.associations.leads a b = true
  holds : ∀ a b, kept a = true → kept b = true → whole.associations.holds a b = .many →
    part.associations.holds a b = .many

section Parts

variable {catalog : Catalog} {config : Config} {keep : Filter}

/-- A type that is kept has those of its tags that are kept. -/
theorem tagsOf_restrict {name : String} (kept : (catalog.restrict keep).contains name = true) :
    tagsOf (catalog.restrict keep) config name =
      (tagsOf catalog config name).filter (catalog.restrict keep).contains := by
  unfold tagsOf inlineTags
  rw [Catalog.get?_restrict kept]
  cases catalog.get? name with
  | none => rfl
  | some descriptor =>
      cases interface : descriptor.isInterface <;> cases explicit : config.isExplicit <;>
        simp [interface, Catalog.implementedInterfaces_restrict]

/-- The node that a type contributes. -/
def nodeOf (catalog : Catalog) (config : Config) (descriptor : Descriptor) : Option Node :=
  (Relations.ofType catalog config descriptor).node.map fun kind =>
    ⟨descriptor.name, kind, tagsOf catalog config descriptor.name⟩

/-- The node of a kept type keeps those of its tags that are kept. -/
theorem nodeOf_restrict {descriptor : Descriptor} (member : descriptor ∈ catalog.types)
    (kept : keep descriptor = true) :
    nodeOf (catalog.restrict keep) config descriptor =
      (nodeOf catalog config descriptor).map fun node =>
        { node with tags := node.tags.filter (catalog.restrict keep).contains } := by
  have own : (catalog.restrict keep).contains descriptor.name = true :=
    (Catalog.contains_restrict_name member).trans kept
  have same : (Relations.ofType (catalog.restrict keep) config descriptor).node =
      (Relations.ofType catalog config descriptor).node := by
    unfold Relations.ofType
    cases descriptor.kind <;> rfl
  unfold nodeOf
  rw [same, tagsOf_restrict own, Option.map_map]
  rfl

/-- A node has the name of its type. -/
theorem name_of_mem_nodeOf {descriptor : Descriptor} {node : Node}
    (member : node ∈ nodeOf catalog config descriptor) : node.name = descriptor.name := by
  obtain ⟨kind, -, rfl⟩ := Option.map_eq_some_iff.mp member
  rfl

/-- The nodes, the dashed edges and the edges to bases are contributed by the types in turn. -/
theorem Diagram.contributions {diagram : Diagram}
    (made : Diagram.ofCatalog catalog config = .ok diagram) :
    diagram.nodes = catalog.types.flatMap (fun descriptor =>
        (nodeOf catalog config descriptor).toList) ∧
      diagram.interfaceEdges = catalog.types.flatMap (fun descriptor =>
        (Relations.ofType catalog config descriptor).interfaceEdges) ∧
      diagram.inheritanceEdges = catalog.types.flatMap (fun descriptor =>
        (Relations.ofType catalog config descriptor).inheritance.toList) := by
  obtain ⟨index, -, same⟩ := exists_ofCatalog catalog config
  cases made.symm.trans same
  simp only [nodes, interfaceEdges, inheritanceEdges, Relations.ofCatalog,
    List.filterMap_eq_flatMap_toList, List.flatMap_map]
  refine ⟨?_, trivial, trivial⟩
  apply List.flatMap_congr
  intro descriptor _
  unfold nodeOf Relations.ofType
  cases descriptor.kind <;> rfl

/-- The diagram of some types has what the diagram of all has between them. -/
theorem Diagram.restricts_of_made {part whole : Diagram}
    (partMade : Diagram.ofCatalog (catalog.restrict keep) config = .ok part)
    (wholeMade : Diagram.ofCatalog catalog config = .ok whole) :
    part.Restricts whole (catalog.restrict keep).contains := by
  obtain ⟨few, fewDescribed, fewMade⟩ := exists_ofCatalog (catalog.restrict keep) config
  obtain ⟨all, allDescribed, allMade⟩ := exists_ofCatalog catalog config
  obtain ⟨partNodes, partDashed, partBases⟩ := contributions partMade
  obtain ⟨wholeNodes, wholeDashed, wholeBases⟩ := contributions wholeMade
  have keptName {descriptor : Descriptor} (member : descriptor ∈ catalog.types) {name : String}
      (named : name = descriptor.name) :
      (catalog.restrict keep).contains name = keep descriptor := by
    rw [named, Catalog.contains_restrict_name member]
  constructor
  case nodes =>
    have nodes : (catalog.types.filter keep).flatMap
        (fun descriptor => (nodeOf catalog config descriptor).toList) =
          whole.nodes.filter fun node => (catalog.restrict keep).contains node.name := by
      rw [wholeNodes]
      apply flatMap_filter_eq
      · intro descriptor member kept
        refine (List.filter_eq_self.mpr fun node inside => ?_).symm
        rw [keptName member (name_of_mem_nodeOf (Option.mem_toList.mp inside)), kept]
      · intro descriptor member left node inside
        rw [keptName member (name_of_mem_nodeOf (Option.mem_toList.mp inside)), left]
    rw [← nodes, partNodes, List.map_flatMap]
    apply List.flatMap_congr
    intro descriptor listed
    obtain ⟨member, kept⟩ := List.mem_filter.mp listed
    rw [nodeOf_restrict member kept]
    cases nodeOf catalog config descriptor <;> rfl
  case interfaceEdges =>
    rw [partDashed, wholeDashed]
    apply flatMap_filter_eq
    · exact fun descriptor member kept => Relations.interfaceEdges_restrict member kept
    · intro descriptor member left edge inside
      rw [keptName member (Relations.implementor_of_mem inside), left, Bool.and_false]
  case inheritanceEdges =>
    rw [partBases, wholeBases]
    apply flatMap_filter_eq
    · exact fun descriptor member kept => Relations.inheritance_restrict member kept
    · intro descriptor member left edge inside
      rw [keptName member (Relations.derived_of_mem (Option.mem_toList.mp inside)), left,
        Bool.and_false]
  case names => exact fun name stands => contains_of_mem_names partMade stands
  case leads =>
    cases partMade.symm.trans fewMade
    cases wholeMade.symm.trans allMade
    intro a b aKept bKept leads
    rw [allDescribed.leads_eq, refers_observations] at leads
    rw [fewDescribed.leads_eq, refers_observations]
    exact leads.imp (·.restrict aKept bKept) (·.restrict aKept bKept)
  case holds =>
    cases partMade.symm.trans fewMade
    cases wholeMade.symm.trans allMade
    intro a b aKept bKept holds
    rw [allDescribed.holds_eq, held_observations] at holds
    rw [fewDescribed.holds_eq, held_observations]
    exact holds.restrict aKept bKept

/-- Where no container is left out, the associations are those between what is kept. -/
theorem Diagram.associations_of_made {part whole : Diagram}
    (keeps : ∀ descriptor ∈ catalog.types, keep descriptor = true →
      descriptor.kind = .classKind → KeepsContainers catalog config keep descriptor)
    (partMade : Diagram.ofCatalog (catalog.restrict keep) config = .ok part)
    (wholeMade : Diagram.ofCatalog catalog config = .ok whole) :
    part.associations.edges = whole.associations.edges.filter fun edge =>
      (catalog.restrict keep).contains edge.first &&
        (catalog.restrict keep).contains edge.second := by
  obtain ⟨few, fewDescribed, fewMade⟩ := exists_ofCatalog (catalog.restrict keep) config
  obtain ⟨all, allDescribed, allMade⟩ := exists_ofCatalog catalog config
  cases partMade.symm.trans fewMade
  cases wholeMade.symm.trans allMade
  rw [observations_restrict keeps] at fewDescribed
  exact fewDescribed.edges_filter allDescribed

end Parts

/-- Whether the type of this name passes a filter. -/
def isKept (types : List Descriptor) (keep : Filter) (name : String) : Bool :=
  types.any fun descriptor => descriptor.name == name && keep descriptor

/-- Whether the type of this name is left out by a filter. -/
def isRejected (types : List Descriptor) (keep : Filter) (name : String) : Bool :=
  types.any fun descriptor => descriptor.name == name && !keep descriptor

/-- When a filter leaves out a type that is the container of a scanned member of a class. -/
def RejectsContainer (types : List Descriptor) (config : Config) (keep : Filter) : Prop :=
  ∃ descriptor ∈ types, keep descriptor = true ∧ descriptor.kind = .classKind ∧
    ∃ member ∈ descriptor.members, config.scans member.visibility = true ∧
      ∃ container, member.shape = .container container ∧
        isRejected types keep container.name = true

section Filtered

variable {types : List Descriptor} {config : Config} {keep : Filter} {provider : Provider}

theorem isKept_eq_true {name : String} : isKept types keep name = true ↔
    ∃ descriptor ∈ types, descriptor.name = name ∧ keep descriptor = true := by
  simp [isKept]

theorem isRejected_eq_true {name : String} : isRejected types keep name = true ↔
    ∃ descriptor ∈ types, descriptor.name = name ∧ keep descriptor = false := by
  simp [isRejected]

/-- Where the names of types differ, all of them are in the catalog. -/
theorem Catalog.types_ofList_of_nodup (distinct : (types.map Descriptor.name).Nodup) :
    (ofList types).types = types := by
  rw [types_ofList, firstBy_eq_self _ distinct]

/-- Where names differ, the restricted catalog contains the names that are kept. -/
theorem contains_restrict_ofList (distinct : (types.map Descriptor.name).Nodup) :
    ((Catalog.ofList types).restrict keep).contains = isKept types keep := by
  funext name
  rw [Bool.eq_iff_iff, Catalog.contains_restrict, isKept_eq_true,
    Catalog.types_ofList_of_nodup distinct]

/-- Where the names of types differ, none is both kept and left out. -/
theorem isRejected_of_isKept (distinct : (types.map Descriptor.name).Nodup) {name : String}
    (kept : isKept types keep name = true) : isRejected types keep name = false := by
  rw [Bool.eq_false_iff]
  intro rejected
  obtain ⟨one, member, rfl, keeps⟩ := isKept_eq_true.mp kept
  obtain ⟨other, otherMember, same, leaves⟩ := isRejected_eq_true.mp rejected
  rw [List.inj_on_of_nodup_map distinct otherMember member same, keeps] at leaves
  cases leaves

/-- If no scanned member of a kept class has a container that is left out, every kept class keeps
its containers. -/
theorem keepsContainers_of_not_rejectsContainer (distinct : (types.map Descriptor.name).Nodup)
    (keeps : ¬ RejectsContainer types config keep) :
    ∀ descriptor ∈ (Catalog.ofList types).types, keep descriptor = true →
      descriptor.kind = .classKind →
      KeepsContainers (Catalog.ofList types) config keep descriptor := by
  intro descriptor listed kept isClass member declared scans container shape known
  rw [Catalog.types_ofList_of_nodup distinct] at listed
  rw [contains_restrict_ofList distinct, isKept_eq_true]
  obtain ⟨other, otherListed, named⟩ := Catalog.contains_iff.mp known
  rw [Catalog.types_ofList_of_nodup distinct] at otherListed
  refine ⟨other, otherListed, named, ?_⟩
  by_contra left
  exact keeps ⟨descriptor, listed, kept, isClass, member, declared, scans, container, shape,
    isRejected_eq_true.mpr ⟨other, otherListed, named, Bool.eq_false_iff.mpr left⟩⟩

/-- The diagram of a provider is that of the types that pass the filter. -/
theorem generateFrom_eq (offered : provider.types = .ok types) :
    generateFrom config provider keep = generate config (types.filter keep) := by
  rw [generateFrom_eq_bind, offered]
  rfl

end Filtered

/-- **A filter draws a part of the diagram.** Where the names of types differ, the diagram of the
types that pass a filter has the nodes and the edges to bases and interfaces that the diagram of all
types has between them, names no other type, and has all directions in which the associations
between them can be followed, with no fewer of each end.  If no scanned member of a class is left
without its container, it has the same associations as well. -/
theorem exists_restricts (config : Config) (keep : Filter) {types : List Descriptor}
    {provider : Provider} (offered : provider.types = .ok types)
    (distinct : (types.map Descriptor.name).Nodup) :
    ∃ part whole,
      Diagram.ofCatalog (Catalog.ofList (types.filter keep)) config = .ok part ∧
      Diagram.ofCatalog (Catalog.ofList types) config = .ok whole ∧
      generateFrom config provider keep = .ok part.text ∧
      generateFrom config provider = .ok whole.text ∧
      part.Restricts whole (isKept types keep) ∧
      (∀ name ∈ part.names, isRejected types keep name = false) ∧
      (¬ RejectsContainer types config keep →
        part.associations.edges = whole.associations.edges.filter fun edge =>
          isKept types keep edge.first && isKept types keep edge.second) := by
  obtain ⟨part, partMade⟩ := Diagram.exists_made (Catalog.ofList (types.filter keep)) config
  obtain ⟨whole, wholeMade⟩ := Diagram.exists_made (Catalog.ofList types) config
  have restricted := partMade
  rw [Catalog.ofList_filter distinct] at restricted
  have restricts := Diagram.restricts_of_made restricted wholeMade
  rw [contains_restrict_ofList distinct] at restricts
  refine ⟨part, whole, partMade, wholeMade, ?_, ?_, restricts, ?_, ?_⟩
  · rw [generateFrom_eq offered, generate_of_made partMade]
  · rw [generateFrom_eq offered, List.filter_true, generate_of_made wholeMade]
  · exact fun name stands => isRejected_of_isKept distinct (restricts.names name stands)
  · intro keeps
    have edges := Diagram.associations_of_made
      (keepsContainers_of_not_rejectsContainer distinct keeps) restricted wholeMade
    rwa [contains_restrict_ofList distinct] at edges

/-- Without animals a bird has no base, and its wings no owner. -/
theorem exists_restricts_without_animals :
    let types : List Descriptor := [
      ⟨"Animal", .classKind, none, [], []⟩,
      ⟨"Bird", .classKind, some "Animal", [], [⟨"wings", .visible, .collection "List" "Wing"⟩]⟩,
      ⟨"Wing", .classKind, none, [],
        [⟨"bird", .visible, .single "Bird"⟩, ⟨"owner", .visible, .single "Animal"⟩]⟩]
    let keep : Filter := (·.name != "Animal")
    ∃ part whole : Diagram,
      part.text = "[Bird],[Bird]<1-0..*>[Wing],[Wing]" ∧
      whole.text = "[Animal],[Bird],[Animal]^-[Bird],[Bird]<1-0..*>[Wing],[Wing],[Wing]->[Animal]" ∧
      part.Restricts whole (isKept types keep) ∧
      part.associations.edges = whole.associations.edges.filter fun edge =>
        isKept types keep edge.first && isKept types keep edge.second := by
  intro types keep
  have kept : ¬ RejectsContainer types {} keep := by
    rintro ⟨descriptor, listed, keeps, -, member, declared, -, container, shape, rejected⟩
    simp only [types, List.mem_cons, List.not_mem_nil, or_false] at listed
    rcases listed with rfl | rfl | rfl
    · cases declared
    · cases List.mem_singleton.mp declared
      cases shape
      exact absurd rejected (by decide)
    · simp only [List.mem_cons, List.not_mem_nil, or_false] at declared
      rcases declared with rfl | rfl <;> cases shape
  have distinct : (types.map Descriptor.name).Nodup := by decide
  obtain ⟨part, whole, partMade, wholeMade, -, -, restricts, -, edges⟩ :=
    @exists_restricts {} keep types (Provider.ofList types) rfl distinct
  refine ⟨part, whole, ?_, ?_, restricts, edges kept⟩
  · cases partMade
    decide +kernel
  · cases wholeMade
    decide +kernel

/-- Leaving out a container opens it, and its contents are referred to instead. -/
example :
    [fun _ => true, fun descriptor : Descriptor => descriptor.name != "Box"].map (fun keep =>
      generateFrom {} (Provider.ofList [
        ⟨"Shelf", .classKind, none, [],
          [⟨"boxes", .visible, .container ⟨"Box", none, ["Book"], true⟩⟩]⟩,
        ⟨"Box", .classKind, none, [], []⟩,
        ⟨"Book", .classKind, none, [], []⟩]) keep) =
      [.ok "[Shelf],[Shelf]->[Box],[Box],[Book]", .ok "[Shelf],[Shelf]1-0..*[Book],[Book]"] := by
  decide +kernel

end ClassDiagram
