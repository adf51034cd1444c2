import ClassDiagram.Proofs.FilteredTypes

/-! # Editing the members of one type

Giving one type of a catalog other members changes the diagram only at that type
(`ClassDiagram.exists_differsAt`).  What a type contributes is read off its own declaration and the
names in the catalog, so everything but the candidates of the edited type stays as it is; and the
index keeps what was observed of a pair apart from what was observed of others
(`ClassDiagram.Index.Describes.edges_filter`), so the edges that do not end at the type are the
same, in the same order and stored the same way.  An association that starts at another type, a
subclass for instance, can neither be added nor lost.
-/

namespace ClassDiagram

/-- The same type with other members, if it has the given name. -/
def Descriptor.redeclare (name : String) (members : List Member) (descriptor : Descriptor) :
    Descriptor :=
  if descriptor.name = name then { descriptor with members := members } else descriptor

/-- Whether one of the ends of an edge is the type of this name. -/
def Edge.endsAt (edge : Edge) (name : String) : Bool :=
  edge.first == name || edge.second == name

/-- Two diagrams differ at most in the associations of one type. -/
structure Diagram.DiffersAt (edited original : Diagram) (name : String) : Prop where
  nodes : edited.nodes = original.nodes
  interfaceEdges : edited.interfaceEdges = original.interfaceEdges
  inheritanceEdges : edited.inheritanceEdges = original.inheritanceEdges
  /-- Every entry that both diagrams have is written the same way. -/
  text : ∀ entry : Entry,
    entry.text edited.catalog edited.config = entry.text original.catalog original.config
  /-- Nothing but the candidates of the one type is replaced. -/
  relations : ∃ candidates, edited.relations = original.relations.map fun each =>
    if each.name = name then { each with candidates := candidates } else each
  edges : (edited.associations.edges.filter fun edge => !edge.endsAt name) =
    original.associations.edges.filter fun edge => !edge.endsAt name
  /-- Where the one type is not the source, edges can be followed as before, even to it. -/
  leads : ∀ source target, source ≠ name →
    edited.associations.leads source target = original.associations.leads source target
  holds : ∀ source target, source ≠ name →
    edited.associations.holds source target = original.associations.holds source target

section Descriptors

variable {name : String} {members : List Member} {descriptor : Descriptor}

@[simp] theorem Descriptor.name_redeclare :
    (descriptor.redeclare name members).name = descriptor.name := by
  unfold redeclare
  split <;> rfl

@[simp] theorem Descriptor.kind_redeclare :
    (descriptor.redeclare name members).kind = descriptor.kind := by
  unfold redeclare
  split <;> rfl

@[simp] theorem Descriptor.base_redeclare :
    (descriptor.redeclare name members).base = descriptor.base := by
  unfold redeclare
  split <;> rfl

@[simp] theorem Descriptor.interfaces_redeclare :
    (descriptor.redeclare name members).interfaces = descriptor.interfaces := by
  unfold redeclare
  split <;> rfl

theorem Descriptor.redeclare_of_ne (other : descriptor.name ≠ name) :
    descriptor.redeclare name members = descriptor :=
  ite_eq_right_iff.mpr fun same => (other same).elim

end Descriptors

namespace Catalog

/-- The catalog in which the type of this name has other members. -/
def redeclare (catalog : Catalog) (name : String) (members : List Member) : Catalog where
  types := catalog.types.map (Descriptor.redeclare name members)
  names_nodup := by
    rw [List.map_map]
    exact (List.map_congr_left fun _ _ => Descriptor.name_redeclare).symm ▸ catalog.names_nodup

variable (catalog : Catalog) (name : String) (members : List Member)

@[simp] theorem contains_redeclare :
    (catalog.redeclare name members).contains = catalog.contains := by
  funext other
  rw [Bool.eq_iff_iff, contains_iff, contains_iff]
  simp [redeclare]

/-- A name leads to the type that it led to, with its members replaced if it is the edited one. -/
theorem get?_redeclare (other : String) :
    (catalog.redeclare name members).get? other =
      (catalog.get? other).map (Descriptor.redeclare name members) := by
  rw [get?_eq_find?, get?_eq_find?]
  change (catalog.types.map (Descriptor.redeclare name members)).find? _ = _
  rw [List.find?_map]
  congr 2
  funext descriptor
  simp

/-- What a type implements is not read off its members. -/
theorem implementedInterfaces_redeclare (descriptor : Descriptor) :
    (catalog.redeclare name members).implementedInterfaces (descriptor.redeclare name members) =
      catalog.implementedInterfaces descriptor := by
  simp [implementedInterfaces]

end Catalog

section Edit

variable (catalog : Catalog) (config : Config) (name : String) (members : List Member)

/-- No label is read off the members of a type. -/
theorem label_redeclare (other : String) :
    label (catalog.redeclare name members) config other = label catalog config other := by
  unfold label inlineTags
  rw [Catalog.get?_redeclare]
  cases catalog.get? other with
  | none => rfl
  | some descriptor =>
      simp [Descriptor.isInterface, Catalog.implementedInterfaces_redeclare]

theorem tagsOf_redeclare (other : String) :
    tagsOf (catalog.redeclare name members) config other = tagsOf catalog config other := by
  unfold tagsOf inlineTags
  rw [Catalog.get?_redeclare]
  cases catalog.get? other with
  | none => rfl
  | some descriptor =>
      simp [Descriptor.isInterface, Catalog.implementedInterfaces_redeclare]

/-- An entry is written as before. -/
theorem Entry.text_redeclare (entry : Entry) :
    entry.text (catalog.redeclare name members) config = entry.text catalog config := by
  cases entry with
  | node other kind => cases kind <;> simp [text, label_redeclare]
  | _ => simp [text, label_redeclare]

/-- What a type contributes apart from candidates is not read off its members. -/
theorem Relations.ofType_redeclare (descriptor : Descriptor) :
    ofType (catalog.redeclare name members) config (descriptor.redeclare name members) =
      { ofType catalog config descriptor with
        candidates := observationsOf (catalog.redeclare name members) config
          (descriptor.redeclare name members) } := by
  unfold observationsOf ofType interfaceEdgesOf inheritanceOf
  simp only [Descriptor.kind_redeclare, Descriptor.name_redeclare, Descriptor.base_redeclare,
    Catalog.contains_redeclare, Catalog.implementedInterfaces_redeclare]
  cases descriptor.kind <;> rfl

/-- What the members of a type refer to depends on the names in the catalog only. -/
theorem observationsOf_redeclare (descriptor : Descriptor) :
    observationsOf (catalog.redeclare name members) config descriptor =
      observationsOf catalog config descriptor := by
  have mentions (shape : Shape) :
      shape.mentions (catalog.redeclare name members) = shape.mentions catalog := by
    cases shape <;> simp [Shape.mentions]
  unfold observationsOf Relations.ofType Relations.candidatesOf
  simp only [mentions]
  cases descriptor.kind <;> rfl

/-- Observations of other types are made as before. -/
theorem observationsOf_redeclare_of_ne {descriptor : Descriptor} (other : descriptor.name ≠ name) :
    observationsOf (catalog.redeclare name members) config (descriptor.redeclare name members) =
      observationsOf catalog config descriptor := by
  rw [Descriptor.redeclare_of_ne other, observationsOf_redeclare]

/-- The observations that are made of the edited type, if it is in the catalog. -/
def editedObservations : List Candidate :=
  ((catalog.get? name).map fun descriptor =>
    observationsOf (catalog.redeclare name members) config
      (descriptor.redeclare name members)).getD []

/-- In the relations of a catalog the candidates of the edited type are replaced. -/
theorem Relations.ofCatalog_redeclare :
    ofCatalog (catalog.redeclare name members) config =
      (ofCatalog catalog config).map fun each =>
        if each.name = name then
          { each with candidates := editedObservations catalog config name members }
        else
          each := by
  unfold ofCatalog
  rw [List.map_map]
  change (catalog.types.map (Descriptor.redeclare name members)).map _ = _
  rw [List.map_map]
  apply List.map_congr_left
  intro descriptor listed
  have named : (ofType catalog config descriptor).name = descriptor.name := by
    unfold ofType
    cases descriptor.kind <;> rfl
  simp only [Function.comp_apply, ofType_redeclare]
  split
  · rename_i edited
    rw [editedObservations, ← edited, named, Catalog.get?_name listed]
    rfl
  · rename_i other
    rw [observationsOf_redeclare_of_ne catalog config name members (named ▸ other)]
    rfl

/-- What is observed of other types is observed as before, and in the same order. -/
theorem filter_observations_redeclare :
    (observations (catalog.redeclare name members) config).filter (·.source != name) =
      (observations catalog config).filter (·.source != name) := by
  unfold observations
  change ((catalog.types.map (Descriptor.redeclare name members)).flatMap _).filter _ = _
  rw [List.flatMap_map, List.filter_flatMap, List.filter_flatMap]
  apply List.flatMap_congr
  intro descriptor _
  by_cases edited : descriptor.name = name
  · have none {contributed : List Candidate}
        (own : ∀ candidate ∈ contributed, candidate.source = descriptor.name) :
        contributed.filter (·.source != name) = [] :=
      List.filter_eq_nil_iff.mpr fun candidate member => by simp [own candidate member, edited]
    rw [none fun _ => source_of_mem_observationsOf, none]
    intro candidate member
    rw [source_of_mem_observationsOf member, Descriptor.name_redeclare]
  · rw [observationsOf_redeclare_of_ne catalog config name members edited]

variable {catalog config name members}

/-- Of another type the same was observed. -/
theorem mem_observations_redeclare {candidate : Candidate} (other : candidate.source ≠ name) :
    candidate ∈ observations (catalog.redeclare name members) config ↔
      candidate ∈ observations catalog config := by
  have kept (observed : List Candidate) :
      candidate ∈ observed ↔ candidate ∈ observed.filter (·.source != name) := by
    rw [List.mem_filter, bne_iff_ne]
    exact (and_iff_left other).symm
  rw [kept, filter_observations_redeclare, ← kept]

/-- Whether another type refers to something stays as it was. -/
theorem refers_redeclare {source : String} (other : source ≠ name) (target : String) :
    refers (observations (catalog.redeclare name members) config) source target =
      refers (observations catalog config) source target := by
  rw [Bool.eq_iff_iff, refers_eq_true, refers_eq_true]
  refine exists_congr fun candidate => and_congr_left fun ends => mem_observations_redeclare ?_
  rwa [ends.1]

theorem held_redeclare {source : String} (other : source ≠ name) (target : String) :
    held (observations (catalog.redeclare name members) config) source target =
      held (observations catalog config) source target := by
  have many : held (observations (catalog.redeclare name members) config) source target = .many ↔
      held (observations catalog config) source target = .many := by
    rw [held_eq_many, held_eq_many]
    refine exists_congr fun candidate => and_congr_left fun ends => mem_observations_redeclare ?_
    rwa [ends.1]
  cases edited : held (observations (catalog.redeclare name members) config) source target <;>
    cases original : held (observations catalog config) source target <;> simp_all

/-- The edges that do not end at the edited type are those of the observations that do not involve
it, which are the same before and after. -/
theorem edges_redeclare {original edited : Index}
    (described : original.Describes (observations catalog config))
    (redescribed : edited.Describes (observations (catalog.redeclare name members) config)) :
    (edited.edges.filter fun edge => !edge.endsAt name) =
      original.edges.filter fun edge => !edge.endsAt name := by
  have apart (edge : Edge) :
      (!edge.endsAt name) = (edge.first != name && edge.second != name) := by
    rw [Edge.endsAt, Bool.not_or]
    rfl
  have unchanged : ((observations (catalog.redeclare name members) config).filter fun each =>
      each.source != name && each.target != name) =
        (observations catalog config).filter fun each =>
          each.source != name && each.target != name := by
    have sourceFirst (observed : List Candidate) :
        (observed.filter fun each => each.source != name && each.target != name) =
          (observed.filter (·.source != name)).filter (·.target != name) := by
      rw [List.filter_filter]
      exact List.filter_congr fun _ _ => Bool.and_comm _ _
    rw [sourceFirst, sourceFirst, filter_observations_redeclare]
  simp only [apart]
  obtain ⟨rest, -, restDescribed⟩ := Index.observeAll_describes
    ((observations catalog config).filter fun each => each.source != name && each.target != name)
  have ofOriginal := @Index.Describes.edges_filter (· != name) _ _ _ restDescribed described
  rw [← unchanged] at restDescribed
  have ofEdited := @Index.Describes.edges_filter (· != name) _ _ _ restDescribed redescribed
  exact ofEdited.symm.trans ofOriginal

end Edit

/-- **Editing the members of a type is local.** Whatever members a type of a catalog is given
instead of its own, all nodes, dashed edges and edges to bases stay as they are, and so do the
candidates of every other type.  The associations that do not end at the type are the same, in the
same order and stored the same way, and no other type refers to more or to less than before. -/
theorem exists_differsAt (catalog : Catalog) (config : Config) (name : String)
    (members : List Member) :
    ∃ original edited, Diagram.ofCatalog catalog config = .ok original ∧
      Diagram.ofCatalog (catalog.redeclare name members) config = .ok edited ∧
      edited.DiffersAt original name := by
  obtain ⟨index, described, made⟩ := exists_ofCatalog catalog config
  obtain ⟨other, redescribed, remade⟩ := exists_ofCatalog (catalog.redeclare name members) config
  have relations := Relations.ofCatalog_redeclare catalog config name members
  refine ⟨_, _, made, remade, ?_⟩
  constructor
  case nodes =>
    simp only [Diagram.nodes, relations, List.filterMap_map, tagsOf_redeclare]
    apply List.filterMap_congr
    intro each _
    simp only [Function.comp_apply]
    split <;> rfl
  case interfaceEdges =>
    simp only [Diagram.interfaceEdges, relations, List.flatMap_map]
    apply List.flatMap_congr
    intro each _
    split <;> rfl
  case inheritanceEdges =>
    simp only [Diagram.inheritanceEdges, relations, List.filterMap_map]
    apply List.filterMap_congr
    intro each _
    simp only [Function.comp_apply]
    split <;> rfl
  case text => exact fun entry => Entry.text_redeclare catalog config name members entry
  case relations => exact ⟨_, relations⟩
  case edges => exact edges_redeclare described redescribed
  case leads =>
    intro source target other
    rw [described.leads_eq, redescribed.leads_eq, refers_redeclare other]
  case holds =>
    intro source target other
    rw [described.holds_eq, redescribed.holds_eq, held_redeclare other]

/-- What an animal holds is not held by a bird, and the bird's claw is untouched. -/
example :
    let catalog := Catalog.ofList [
      ⟨"Animal", .classKind, none, [], []⟩,
      ⟨"Bird", .classKind, some "Animal", [], [⟨"claw", .visible, .single "Claw"⟩]⟩,
      ⟨"Claw", .classKind, none, [], []⟩]
    let edited := catalog.redeclare "Animal" [⟨"claws", .visible, .collection "List" "Claw"⟩]
    [generateCatalog {} catalog, generateCatalog {} edited] =
      [.ok "[Animal],[Bird],[Animal]^-[Bird],[Bird]->[Claw],[Claw]",
        .ok "[Animal],[Animal]1-0..*[Claw],[Bird],[Animal]^-[Bird],[Bird]->[Claw],[Claw]"] := by
  decide +kernel

end ClassDiagram
