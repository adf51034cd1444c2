import ClassDiagram.Proofs.DiagramText
import Mathlib.Data.List.Forall2

/-! # Types in another order

The order in which types and their members are listed decides where entries stand and which of two
types that refer to each other stores their edge, and nothing else
(`ClassDiagram.exists_mirrors_of_rearranged`).  Catalogs of rearranged lists find the same types
under the same names (`ClassDiagram.Rearranged.alike`), so their classes refer to the same types;
and every entry of one outline is in the other, as it is or, if it can be followed both ways,
mirrored (`ClassDiagram.Catalog.Alike.mem_outline`).
-/

namespace ClassDiagram

/-- Two descriptions of one type, with its members in any order. -/
structure Descriptor.Shuffled (left right : Descriptor) : Prop where
  name : left.name = right.name
  kind : left.kind = right.kind
  base : left.base = right.base
  interfaces : left.interfaces = right.interfaces
  members : left.members.Perm right.members

theorem Descriptor.Shuffled.symm {left right : Descriptor} (shuffled : left.Shuffled right) :
    right.Shuffled left where
  name := shuffled.name.symm
  kind := shuffled.kind.symm
  base := shuffled.base.symm
  interfaces := shuffled.interfaces.symm
  members := shuffled.members.symm

/-- The same types in another order, and the members of each in another order.  Types that share a
name keep their order. -/
def Rearranged (left right : List Descriptor) : Prop :=
  ∃ middle, left.Perm middle ∧
    (∀ name, left.filter (·.name == name) = middle.filter (·.name == name)) ∧
    List.Forall₂ Descriptor.Shuffled middle right

/-- The same association, stored the other way round. -/
def Edge.mirror (edge : Edge) : Edge where
  first := edge.second
  second := edge.first
  firstToSecond := edge.secondToFirst
  secondToFirst := edge.firstToSecond
  firstMultiplicity := edge.secondMultiplicity
  secondMultiplicity := edge.firstMultiplicity

namespace Entry

/-- Whether an entry is an association that can be followed both ways. -/
def isTwoWay (entry : Entry) : Bool :=
  entry.association?.any Edge.isBidirectional

/-- An entry with its association stored the other way round, if it is one. -/
def mirror : Entry → Entry
  | association edge => association edge.mirror
  | entry => entry

@[simp] theorem mirror_mirror (entry : Entry) : entry.mirror.mirror = entry := by
  cases entry <;> rfl

@[simp] theorem isTwoWay_mirror (entry : Entry) : entry.mirror.isTwoWay = entry.isTwoWay := by
  cases entry with
  | association edge =>
      change (edge.secondToFirst && edge.firstToSecond) = (edge.firstToSecond && edge.secondToFirst)
      exact Bool.and_comm _ _
  | _ => rfl

end Entry

/-- The texts of the entries of a diagram. -/
def Diagram.texts (diagram : Diagram) : List String :=
  diagram.entries.map (Entry.text diagram.catalog diagram.config)

/-- Two diagrams show the same, but for the order of their entries and the sides on which the ends
of two-way associations stand. -/
structure Diagram.Mirrors (left right : Diagram) : Prop where
  /-- Every entry is written the same way in both diagrams. -/
  text : ∀ entry : Entry,
    entry.text left.catalog left.config = entry.text right.catalog right.config
  /-- Nodes, dashed edges, inheritance and one-way associations are the same. -/
  oneWay : (left.entries.filter (!·.isTwoWay)).Perm (right.entries.filter (!·.isTwoWay))
  /-- The two-way associations can be matched, so that each is equal to its match or mirrored. -/
  twoWay : ∃ matched, matched.Perm (right.entries.filter (·.isTwoWay)) ∧
    List.Forall₂ (fun entry other => other = entry ∨ other = entry.mirror)
      (left.entries.filter (·.isTwoWay)) matched

/-- Two catalogs that find the same types, but for the order of their members. -/
def Catalog.Alike (left right : Catalog) : Prop :=
  ∀ name, Option.Rel Descriptor.Shuffled (left.get? name) (right.get? name)

section Lookup

/-- In lists of shuffled types a name finds the same type. -/
theorem Descriptor.Shuffled.find? {left right : List Descriptor}
    (shuffled : List.Forall₂ Descriptor.Shuffled left right) (name : String) :
    Option.Rel Descriptor.Shuffled (left.find? (·.name == name))
      (right.find? (·.name == name)) := by
  induction shuffled with
  | nil => exact .none
  | cons heads _ ih =>
      rw [List.find?_cons, List.find?_cons, heads.name]
      split
      · exact .some heads
      · exact ih

/-- The catalogs of rearranged lists find the same types. -/
theorem Rearranged.alike {left right : List Descriptor} (rearranged : Rearranged left right) :
    (Catalog.ofList left).Alike (Catalog.ofList right) := by
  obtain ⟨middle, -, sameName, shuffled⟩ := rearranged
  intro name
  rw [Catalog.get?_ofList, Catalog.get?_ofList, ← List.head?_filter, sameName, List.head?_filter]
  exact Descriptor.Shuffled.find? shuffled name

/-- Rearranging types does not change which names they have. -/
theorem Rearranged.dotted {left right : List Descriptor} (rearranged : Rearranged left right)
    (dotted : ∀ descriptor ∈ left, Declaration.IsDotted descriptor.name) :
    ∀ descriptor ∈ right, Declaration.IsDotted descriptor.name := by
  obtain ⟨middle, permuted, -, shuffled⟩ := rearranged
  intro descriptor member
  obtain ⟨place, bound, rfl⟩ := List.mem_iff_getElem.mp member
  have inside : place < middle.length := shuffled.length_eq ▸ bound
  have same : middle[place].name = right[place].name := (shuffled.get inside bound).name
  rw [← same]
  exact dotted _ (permuted.mem_iff.mpr (List.getElem_mem inside))

end Lookup

namespace Catalog.Alike

variable {left right : Catalog} {config : Config}

theorem symm (alike : left.Alike right) : right.Alike left := by
  intro name
  have related := alike name
  generalize left.get? name = found, right.get? name = other at related ⊢
  cases related with
  | none => exact .none
  | some shuffled => exact .some shuffled.symm

/-- A type of one catalog is in the other. -/
theorem exists_shuffled (alike : left.Alike right) {descriptor : Descriptor}
    (member : descriptor ∈ left.types) : ∃ other ∈ right.types, descriptor.Shuffled other := by
  have related := alike descriptor.name
  rw [Catalog.get?_name member] at related
  generalize named : right.get? descriptor.name = found at related
  cases related with
  | some shuffled => exact ⟨_, (Catalog.get?_eq_some.mp named).1, shuffled⟩

/-- Alike catalogs contain the same names. -/
theorem contains_eq (alike : left.Alike right) : left.contains = right.contains := by
  have carried {one other : Catalog} (alike : one.Alike other) {name : String}
      (known : one.contains name = true) : other.contains name = true := by
    obtain ⟨descriptor, member, rfl⟩ := Catalog.contains_iff.mp known
    obtain ⟨other, otherMember, shuffled⟩ := alike.exists_shuffled member
    exact Catalog.contains_iff.mpr ⟨other, otherMember, shuffled.name.symm⟩
  funext name
  exact Bool.eq_iff_iff.mpr ⟨carried alike, carried alike.symm⟩

/-- A name is drawn the same way, whichever of the catalogs it is looked up in. -/
theorem label_eq (alike : left.Alike right) (name : String) :
    label left config name = label right config name := by
  have related := alike name
  unfold label
  generalize left.get? name = found, right.get? name = other at related ⊢
  cases related with
  | none => rfl
  | some shuffled =>
      simp only [Descriptor.isInterface, inlineTags, Catalog.implementedInterfaces, shuffled.kind,
        shuffled.interfaces, alike.contains_eq]
      rfl

/-- An entry is written the same way, whichever of the catalogs it belongs to. -/
theorem text_eq (alike : left.Alike right) (entry : Entry) :
    entry.text left config = entry.text right config := by
  cases entry with
  | node name kind => cases kind <;> simp only [Entry.text, alike.label_eq]
  | _ => simp only [Entry.text, alike.label_eq]

/-- A type refers to the same types, whatever the order of its members is. -/
theorem holds (alike : left.Alike right) {descriptor other : Descriptor}
    (shuffled : descriptor.Shuffled other) {target : String} {multiplicity : Multiplicity}
    (holds : Relations.Holds left config descriptor target multiplicity) :
    Relations.Holds right config other target multiplicity := by
  obtain ⟨member, listed, scanned, refers⟩ := holds
  have sameMentions (shape : Shape) : shape.mentions left = shape.mentions right := by
    cases shape <;> simp only [Shape.mentions, alike.contains_eq]
  refine ⟨member, shuffled.members.mem_iff.mp listed, scanned, ?_⟩
  have mentioned : (⟨target, multiplicity⟩ : Mention) ∈ member.shape.mentions left :=
    Shape.mem_mentions.mpr refers
  rw [sameMentions] at mentioned
  exact Shape.mem_mentions.mp mentioned

/-- Nor do the targets of a type depend on that order. -/
theorem targets (alike : left.Alike right) {descriptor other : Descriptor}
    (shuffled : descriptor.Shuffled other) {target : String}
    (listed : target ∈ Relations.targets left config descriptor) :
    target ∈ Relations.targets right config other := by
  obtain ⟨multiplicity, holds⟩ := Relations.mem_targets.mp listed
  exact Relations.mem_targets.mpr ⟨multiplicity, alike.holds shuffled holds⟩

/-- Classes refer to the same types in alike catalogs. -/
theorem refers_iff (alike : left.Alike right) {source target : String}
    {multiplicity : Multiplicity} :
    Refers left config source target multiplicity ↔
      Refers right config source target multiplicity := by
  have carried {one other : Catalog} (alike : one.Alike other)
      (refers : Refers one config source target multiplicity) :
      Refers other config source target multiplicity := by
    obtain ⟨descriptor, known, named, isClass, holds⟩ := refers
    obtain ⟨other, otherKnown, shuffled⟩ := alike.exists_shuffled known
    exact ⟨other, otherKnown, shuffled.name.symm.trans named, shuffled.kind.symm.trans isClass,
      alike.holds shuffled holds⟩
  exact ⟨carried alike, carried alike.symm⟩

theorem mentions_iff (alike : left.Alike right) {source target : String} :
    Mentions left config source target ↔ Mentions right config source target :=
  or_congr alike.refers_iff alike.refers_iff

/-- What an edge tells of two types does not depend on the order of the types. -/
theorem ownedEdge_eq (alike : left.Alike right) (source target : String) :
    ownedEdge left config source target = ownedEdge right config source target := by
  simp only [ownedEdge, alike.refers_iff, alike.mentions_iff]

end Catalog.Alike

section Ownership

variable {catalog : Catalog} {config : Config} {descriptor other : Descriptor}

theorem mem_of_mem_typesBefore (member : other ∈ typesBefore catalog descriptor) :
    other ∈ catalog.types :=
  (List.takeWhile_sublist _).subset member

/-- The types before another have other names. -/
theorem name_ne_of_mem_typesBefore (member : other ∈ typesBefore catalog descriptor) :
    other.name ≠ descriptor.name := by
  simpa using List.mem_takeWhile_imp member

/-- No type comes both before and after another. -/
theorem not_mem_typesBefore (member : descriptor ∈ catalog.types)
    (before : other ∈ typesBefore catalog descriptor) :
    descriptor ∉ typesBefore catalog other := by
  obtain ⟨earlier, later, split⟩ := List.append_of_mem member
  rw [typesBefore_eq split] at before
  obtain ⟨front, middle, rfl⟩ := List.append_of_mem before
  have around : catalog.types = front ++ other :: (middle ++ descriptor :: later) := by
    rw [split, List.append_assoc, List.cons_append]
  rw [typesBefore_eq around]
  intro inFront
  exact (Catalog.name_apart split).1 (List.mem_map_of_mem (List.mem_append_left _ inFront))

/-- A pair that a type does not own is owned by the other type. -/
theorem exists_owns_of_not_owns (member : descriptor ∈ catalog.types) {target : String}
    (not : ¬ Owns catalog config descriptor target) :
    ∃ other ∈ catalog.types, other.name = target ∧ other.kind = .classKind ∧
      descriptor.name ∈ Relations.targets catalog config other ∧
      Owns catalog config other descriptor.name := by
  simp only [Owns, not_forall, not_not] at not
  obtain ⟨earlier, before, rfl, mentions⟩ := not
  have known := mem_of_mem_typesBefore before
  obtain ⟨multiplicity, other, otherKnown, named, isClass, holds⟩ := mentions_iff.mp mentions
  obtain rfl := Catalog.eq_of_name_eq otherKnown known named
  refine ⟨other, known, rfl, isClass, Relations.mem_targets.mpr ⟨multiplicity, holds⟩, ?_⟩
  intro first firstBefore same
  obtain rfl := Catalog.eq_of_name_eq (mem_of_mem_typesBefore firstBefore) member same
  exact (not_mem_typesBefore member before firstBefore).elim

/-- The edge of a pair that a class owns is in the outline. -/
theorem mem_outline_association (member : descriptor ∈ catalog.types)
    (isClass : descriptor.kind = .classKind) {target : String}
    (listed : target ∈ Relations.targets catalog config descriptor)
    (owns : Owns catalog config descriptor target) :
    .association (ownedEdge catalog config descriptor.name target) ∈ outline catalog config :=
  List.mem_flatMap.mpr ⟨descriptor, member,
    (mem_outlineOf_class isClass).mpr (Or.inr (Or.inr (Or.inr ⟨target, listed, owns, rfl⟩)))⟩

/-- The edge of two types that refer to each other is that of either, mirrored. -/
theorem mirror_ownedEdge {source target : String} (apart : source ≠ target)
    (there : Mentions catalog config source target) (back : Mentions catalog config target source) :
    (ownedEdge catalog config source target).mirror = ownedEdge catalog config target source := by
  simp [ownedEdge, Edge.mirror, apart, apart.symm, there, back]

/-- The edge of two types can be followed both ways if the other one refers back. -/
theorem isTwoWay_ownedEdge {source target : String} :
    (Entry.association (ownedEdge catalog config source target)).isTwoWay = true ↔
      source ≠ target ∧ Mentions catalog config target source := by
  simp [Entry.isTwoWay, Entry.association?, Edge.isBidirectional, ownedEdge]

/-- A class and a type that it refers to have their edge in the outline, one way round. -/
theorem mem_outline_or_mirror (member : descriptor ∈ catalog.types)
    (isClass : descriptor.kind = .classKind) {target : String}
    (listed : target ∈ Relations.targets catalog config descriptor) :
    .association (ownedEdge catalog config descriptor.name target) ∈ outline catalog config ∨
      (Entry.association (ownedEdge catalog config descriptor.name target)).isTwoWay = true ∧
        (Entry.association (ownedEdge catalog config descriptor.name target)).mirror ∈
          outline catalog config := by
  by_cases owns : Owns catalog config descriptor target
  · exact Or.inl (mem_outline_association member isClass listed owns)
  · -- The other type owns the pair, and refers back to this one.
    obtain ⟨owner, ownerMember, rfl, ownerClass, ownerListed, owned⟩ :=
      exists_owns_of_not_owns member owns
    obtain ⟨there, holds⟩ := Relations.mem_targets.mp listed
    obtain ⟨back, ownerHolds⟩ := Relations.mem_targets.mp ownerListed
    have mentions : Mentions catalog config descriptor.name owner.name :=
      mentions_iff.mpr ⟨there, descriptor, member, rfl, isClass, holds⟩
    have mentioned : Mentions catalog config owner.name descriptor.name :=
      mentions_iff.mpr ⟨back, owner, ownerMember, rfl, ownerClass, ownerHolds⟩
    have apart : descriptor.name ≠ owner.name := by
      intro same
      apply owns
      intro earlier before named
      exact (name_ne_of_mem_typesBefore before (named.trans same.symm)).elim
    refine Or.inr ⟨isTwoWay_ownedEdge.mpr ⟨apart, mentioned⟩, ?_⟩
    rw [Entry.mirror, mirror_ownedEdge apart mentions mentioned]
    exact mem_outline_association ownerMember ownerClass ownerListed owned

/-- No pair of types has two associations. -/
theorem eq_of_pair_eq {left right : Edge} (leftMember : .association left ∈ outline catalog config)
    (rightMember : .association right ∈ outline catalog config) (same : left.pair = right.pair) :
    left = right := by
  obtain ⟨index, described, made⟩ := exists_ofCatalog catalog config
  obtain ⟨-, -, entries, edges⟩ := Diagram.made_eq made
  have distinct : (index.edges.map Edge.pair).Nodup := by
    rw [described.map_pair_edges]
    exact nodup_map_firstBy Candidate.pair _
  have stored {edge : Edge} (member : .association edge ∈ outline catalog config) :
      edge ∈ index.edges := by
    rw [edges, entries]
    exact List.mem_filterMap.mpr ⟨_, member, rfl⟩
  exact List.inj_on_of_nodup_map distinct (stored leftMember) (stored rightMember) same

/-- An entry that is drawn is not drawn mirrored as well. -/
theorem mirror_eq_of_mem_outline {entry : Entry} (member : entry ∈ outline catalog config)
    (mirrored : entry.mirror ∈ outline catalog config) : entry.mirror = entry := by
  cases entry with
  | association edge =>
      exact congrArg Entry.association (eq_of_pair_eq mirrored member Sym2.eq_swap)
  | _ => rfl

end Ownership

/-- An entry of one outline is in that of an alike catalog, as it is or, if it can be followed both
ways, mirrored. -/
theorem Catalog.Alike.mem_outline {left right : Catalog} (alike : left.Alike right)
    {config : Config} {entry : Entry} (member : entry ∈ outline left config) :
    entry ∈ outline right config ∨ entry.isTwoWay = true ∧ entry.mirror ∈ outline right config := by
  obtain ⟨descriptor, known, contributed⟩ := List.mem_flatMap.mp member
  obtain ⟨other, otherKnown, shuffled⟩ := alike.exists_shuffled known
  have inPart (listed : entry ∈ outlineOf right config other) : entry ∈ outline right config :=
    List.mem_flatMap.mpr ⟨other, otherKnown, listed⟩
  cases kind : descriptor.kind with
  | interfaceKind =>
      obtain ⟨explicit, rfl⟩ := (mem_outlineOf_interface kind).mp contributed
      rw [shuffled.name] at inPart ⊢
      exact Or.inl (inPart ((mem_outlineOf_interface (shuffled.kind ▸ kind)).mpr ⟨explicit, rfl⟩))
  | classKind =>
      have isClass : other.kind = .classKind := shuffled.kind ▸ kind
      have ofClass := @mem_outlineOf_class right config other isClass entry
      rw [← shuffled.name, ← shuffled.interfaces, ← shuffled.base, ← alike.contains_eq] at ofClass
      rcases (mem_outlineOf_class kind).mp contributed with
        node | implementation | inheritance | ⟨target, listed, -, rfl⟩
      · exact Or.inl (inPart (ofClass.mpr (Or.inl node)))
      · exact Or.inl (inPart (ofClass.mpr (Or.inr (Or.inl implementation))))
      · exact Or.inl (inPart (ofClass.mpr (Or.inr (Or.inr (Or.inl inheritance)))))
      · rw [alike.ownedEdge_eq, shuffled.name]
        exact mem_outline_or_mirror otherKnown isClass (alike.targets shuffled listed)

section Matching

/-- An entry as it stands in a list: mirrored, unless the entry itself is there. -/
def Entry.among (list : List Entry) (entry : Entry) : Entry :=
  if entry ∈ list then entry else entry.mirror

/-- An entry stands in a list as it is or mirrored. -/
theorem Entry.among_eq (list : List Entry) (entry : Entry) :
    entry.among list = entry ∨ entry.among list = entry.mirror := by
  unfold among
  split
  · exact Or.inl rfl
  · exact Or.inr rfl

/-- Entries none of which stands beside its mirror. -/
structure Unmirrored (list : List Entry) : Prop where
  nodup : list.Nodup
  eq : ∀ entry ∈ list, entry.mirror ∈ list → entry.mirror = entry

variable {left right : List Entry}

/-- Where no entry stands beside its mirror, no two entries stand as one in the other list. -/
theorem Unmirrored.among_injective (unmirrored : Unmirrored left) :
    ∀ one ∈ left, ∀ other ∈ left, one.among right = other.among right → one = other := by
  intro one member other otherMember same
  rcases one.among_eq right with straight | turned <;>
    rcases other.among_eq right with otherStraight | otherTurned
  · rw [← straight, same, otherStraight]
  · have facing : other.mirror = one := by rw [← straight, same, otherTurned]
    rw [← facing, unmirrored.eq other otherMember (facing ▸ member)]
  · have facing : one.mirror = other := by rw [← turned, same, otherStraight]
    rw [← facing, unmirrored.eq one member (facing ▸ otherMember)]
  · rw [← one.mirror_mirror, ← turned, same, otherTurned, Entry.mirror_mirror]

/-- Two lists that have each other's entries, as they are or mirrored, can be matched. -/
theorem Unmirrored.perm_map_among (leftOnce : Unmirrored left) (rightOnce : Unmirrored right)
    (there : ∀ entry ∈ left, entry ∈ right ∨ entry.mirror ∈ right)
    (back : ∀ entry ∈ right, entry ∈ left ∨ entry.mirror ∈ left) :
    (left.map (Entry.among right)).Perm right := by
  refine (List.perm_ext_iff_of_nodup (leftOnce.nodup.map_on leftOnce.among_injective)
    rightOnce.nodup).mpr fun entry => ?_
  rw [List.mem_map]
  constructor
  · rintro ⟨original, member, rfl⟩
    unfold Entry.among
    split
    · assumption
    · rename_i missing
      exact (there original member).resolve_left missing
  · intro member
    rcases back entry member with same | mirrored
    · exact ⟨entry, same, if_pos member⟩
    · refine ⟨entry.mirror, mirrored, ?_⟩
      unfold Entry.among
      split
      · rename_i beside
        exact rightOnce.eq entry member beside
      · exact entry.mirror_mirror

variable (catalog : Catalog) (config : Config)

/-- The two-way associations of an outline are drawn one way round. -/
theorem unmirrored_outline : Unmirrored ((outline catalog config).filter (·.isTwoWay)) where
  nodup := nodup_outline.filter _
  eq := fun _ member mirrored =>
    mirror_eq_of_mem_outline (List.mem_of_mem_filter member) (List.mem_of_mem_filter mirrored)

variable {catalog config}

/-- What cannot be followed both ways is in the other outline as it is. -/
theorem Catalog.Alike.mem_oneWay {other : Catalog} (alike : catalog.Alike other) {entry : Entry}
    (member : entry ∈ (outline catalog config).filter (!·.isTwoWay)) :
    entry ∈ (outline other config).filter (!·.isTwoWay) := by
  obtain ⟨listed, oneWay⟩ := List.mem_filter.mp member
  rcases alike.mem_outline listed with same | ⟨twoWay, -⟩
  · exact List.mem_filter.mpr ⟨same, oneWay⟩
  · simp [twoWay] at oneWay

/-- What can be followed both ways is in the other outline as it is or mirrored. -/
theorem Catalog.Alike.mem_twoWay {other : Catalog} (alike : catalog.Alike other) :
    ∀ entry ∈ (outline catalog config).filter (·.isTwoWay),
      entry ∈ (outline other config).filter (·.isTwoWay) ∨
        entry.mirror ∈ (outline other config).filter (·.isTwoWay) := by
  intro entry member
  obtain ⟨listed, twoWay⟩ := List.mem_filter.mp member
  rcases alike.mem_outline listed with same | ⟨-, mirrored⟩
  · exact Or.inl (List.mem_filter.mpr ⟨same, twoWay⟩)
  · exact Or.inr (List.mem_filter.mpr ⟨mirrored, by rwa [Entry.isTwoWay_mirror]⟩)

end Matching

/-- Diagrams of alike catalogs show the same. -/
theorem Diagram.mirrors_of_alike {left right : Catalog} {config : Config}
    {leftDiagram rightDiagram : Diagram} (alike : left.Alike right)
    (leftMade : Diagram.ofCatalog left config = .ok leftDiagram)
    (rightMade : Diagram.ofCatalog right config = .ok rightDiagram) :
    leftDiagram.Mirrors rightDiagram := by
  obtain ⟨rfl, rfl, leftEntries, -⟩ := made_eq leftMade
  obtain ⟨rfl, sameConfig, rightEntries, -⟩ := made_eq rightMade
  constructor
  case text =>
    intro entry
    rw [sameConfig]
    exact alike.text_eq entry
  case oneWay =>
    rw [leftEntries, rightEntries]
    exact (List.perm_ext_iff_of_nodup (nodup_outline.filter _) (nodup_outline.filter _)).mpr
      fun entry => ⟨alike.mem_oneWay, alike.symm.mem_oneWay⟩
  case twoWay =>
    rw [leftEntries, rightEntries]
    refine ⟨_, (unmirrored_outline _ _).perm_map_among (unmirrored_outline _ _) alike.mem_twoWay
      alike.symm.mem_twoWay, ?_⟩
    exact List.forall₂_map_right_iff.mpr (List.forall₂_same.mpr fun entry _ => entry.among_eq _)

/-- **The order of types is layout.** Where the names of types are dotted identifiers, listing the
types and their members in another order, but types that share a name in the same, leads to a
diagram with the same entries, in which two-way associations may stand mirrored.  The text of either
diagram has each of its entries once. -/
theorem exists_mirrors_of_rearranged (config : Config) {left right : List Descriptor}
    (dotted : ∀ descriptor ∈ left, Declaration.IsDotted descriptor.name)
    (rearranged : Rearranged left right) :
    ∃ leftDiagram rightDiagram,
      Diagram.ofCatalog (Catalog.ofList left) config = .ok leftDiagram ∧
      Diagram.ofCatalog (Catalog.ofList right) config = .ok rightDiagram ∧
      generate config left = .ok (",".intercalate leftDiagram.texts) ∧
      generate config right = .ok (",".intercalate rightDiagram.texts) ∧
      leftDiagram.texts.Nodup ∧ rightDiagram.texts.Nodup ∧
      leftDiagram.Mirrors rightDiagram := by
  -- The text of a diagram whose names are free of marks has all of its entries.
  have drawn {types : List Descriptor}
      (dotted : ∀ descriptor ∈ types, Declaration.IsDotted descriptor.name) :
      ∃ diagram, Diagram.ofCatalog (Catalog.ofList types) config = .ok diagram ∧
        generate config types = .ok (",".intercalate diagram.texts) ∧ diagram.texts.Nodup := by
    have free := Catalog.isPlain_ofList dotted
    obtain ⟨index, -, made⟩ := exists_ofCatalog (Catalog.ofList types) config
    obtain ⟨-, -, entries, -⟩ := Diagram.made_eq made
    refine ⟨_, made, ?_, ?_⟩
    · rw [Diagram.texts, entries]
      exact generateCatalog_eq_outline free
    · rw [Diagram.texts, entries]
      exact nodup_map_text_outline free
  obtain ⟨leftDiagram, leftMade, leftText, leftDistinct⟩ := drawn dotted
  obtain ⟨rightDiagram, rightMade, rightText, rightDistinct⟩ := drawn (rearranged.dotted dotted)
  exact ⟨leftDiagram, rightDiagram, leftMade, rightMade, leftText, rightText, leftDistinct,
    rightDistinct, Diagram.mirrors_of_alike rearranged.alike leftMade rightMade⟩

/-- A bird and its wings refer to each other, and the bird to its mate.  When the wings come first,
they store the edge that they share; the second type that is called `Wing` never counts. -/
theorem exists_mirrors_of_bird_and_wings :
    ∃ leftDiagram rightDiagram : Diagram,
      generate {} [
        ⟨"Bird", .classKind, none, [],
          [⟨"wings", .visible, .collection "List" "Wing"⟩, ⟨"mate", .visible, .single "Bird"⟩]⟩,
        ⟨"Wing", .classKind, none, [], [⟨"bird", .visible, .single "Bird"⟩]⟩,
        ⟨"Wing", .interfaceKind, none, [], []⟩] = .ok (",".intercalate leftDiagram.texts) ∧
      generate {} [
        ⟨"Wing", .classKind, none, [], [⟨"bird", .visible, .single "Bird"⟩]⟩,
        ⟨"Wing", .interfaceKind, none, [], []⟩,
        ⟨"Bird", .classKind, none, [],
          [⟨"mate", .visible, .single "Bird"⟩, ⟨"wings", .visible, .collection "List" "Wing"⟩]⟩] =
            .ok (",".intercalate rightDiagram.texts) ∧
      leftDiagram.texts = ["[Bird]", "[Bird]<1-0..*>[Wing]", "[Bird]->[Bird]", "[Wing]"] ∧
      rightDiagram.texts = ["[Wing]", "[Wing]<0..*-1>[Bird]", "[Bird]", "[Bird]->[Bird]"] ∧
      leftDiagram.Mirrors rightDiagram := by
  have bird : Declaration.IsDotted "Bird" :=
    ⟨[['B', 'i', 'r', 'd']], by decide, by decide, by decide⟩
  have wing : Declaration.IsDotted "Wing" :=
    ⟨[['W', 'i', 'n', 'g']], by decide, by decide, by decide⟩
  have rearranged : Rearranged
      [⟨"Bird", .classKind, none, [],
          [⟨"wings", .visible, .collection "List" "Wing"⟩, ⟨"mate", .visible, .single "Bird"⟩]⟩,
        ⟨"Wing", .classKind, none, [], [⟨"bird", .visible, .single "Bird"⟩]⟩,
        ⟨"Wing", .interfaceKind, none, [], []⟩]
      [⟨"Wing", .classKind, none, [], [⟨"bird", .visible, .single "Bird"⟩]⟩,
        ⟨"Wing", .interfaceKind, none, [], []⟩,
        ⟨"Bird", .classKind, none, [],
          [⟨"mate", .visible, .single "Bird"⟩,
            ⟨"wings", .visible, .collection "List" "Wing"⟩]⟩] := by
    refine ⟨[
        ⟨"Wing", .classKind, none, [], [⟨"bird", .visible, .single "Bird"⟩]⟩,
        ⟨"Wing", .interfaceKind, none, [], []⟩,
        ⟨"Bird", .classKind, none, [],
          [⟨"wings", .visible, .collection "List" "Wing"⟩, ⟨"mate", .visible, .single "Bird"⟩]⟩],
      by decide, fun name => ?_, ?_⟩
    · rcases eq_or_ne "Bird" name with rfl | other
      · decide
      · simp [List.filter_cons, other]
    · refine .cons ⟨rfl, rfl, rfl, rfl, .refl _⟩ (.cons ⟨rfl, rfl, rfl, rfl, .refl _⟩ ?_)
      exact .cons ⟨rfl, rfl, rfl, rfl, by decide⟩ .nil
  obtain ⟨leftDiagram, rightDiagram, leftMade, rightMade, leftText, rightText, -, -, mirrors⟩ :=
    exists_mirrors_of_rearranged {} (by simp [bird, wing]) rearranged
  refine ⟨leftDiagram, rightDiagram, leftText, rightText, ?_, ?_, mirrors⟩
  · cases leftMade
    rfl
  · cases rightMade
    rfl

end ClassDiagram
