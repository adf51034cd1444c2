import ClassDiagram.Proofs.EntryText
import ClassDiagram.Proofs.Observations

/-! # The outline of a diagram

What is drawn of a list of types, read directly off the types.  The outline knows nothing of an
index or of entries that are dropped: each type contributes its node, its interfaces, its base and
the pairs that it owns, and two types that refer to each other share the edge of the one that comes
first.  Its entries are spelled out letter by letter (`ClassDiagram.Entry.spelled`), without regard
to how a diagram is written.  `ClassDiagram.generate_eq_outline` says that the text of a diagram is
its outline, so spelled.
-/

namespace ClassDiagram

section Outline

variable (catalog : Catalog) (config : Config)

/-- The types that come before another in the catalog. -/
def typesBefore (descriptor : Descriptor) : List Descriptor :=
  catalog.types.takeWhile (·.name != descriptor.name)

/-- A type owns the pair that it forms with another, unless the other comes before it and refers to
it in turn. -/
def Owns (descriptor : Descriptor) (target : String) : Prop :=
  ∀ earlier ∈ typesBefore catalog descriptor, earlier.name = target →
    ¬ Mentions catalog config target descriptor.name

instance (descriptor : Descriptor) (target : String) :
    Decidable (Owns catalog config descriptor target) :=
  inferInstanceAs (Decidable (∀ earlier ∈ typesBefore catalog descriptor, earlier.name = target →
    ¬ Mentions catalog config target descriptor.name))

/-- The association of a type with another that it refers to.  A type that refers to itself has it
at the second end only. -/
def ownedEdge (source target : String) : Edge where
  first := source
  second := target
  firstToSecond := true
  secondToFirst := source ≠ target ∧ Mentions catalog config target source
  firstMultiplicity :=
    if source ≠ target ∧ Refers catalog config target source .many then .many else .one
  secondMultiplicity := if Refers catalog config source target .many then .many else .one

/-- What a type contributes to the outline. -/
def outlineOf (descriptor : Descriptor) : List Entry :=
  match descriptor.kind with
  | .interfaceKind =>
    if config.isExplicit then [.node descriptor.name .interfaceKind] else []
  | .classKind =>
    [.node descriptor.name .classKind] ++
      (if config.isExplicit then
        (descriptor.interfaces.filter catalog.contains).eraseDups.map
          fun interface => .implementation ⟨interface, descriptor.name⟩
      else []) ++
      (match descriptor.base with
      | some base =>
        if catalog.contains base then [.inheritance ⟨base, descriptor.name⟩] else []
      | none => []) ++
      ((Relations.targets catalog config descriptor).filter (Owns catalog config descriptor)).map
        fun target => .association (ownedEdge catalog config descriptor.name target)

/-- The entries of a diagram. -/
def outline : List Entry :=
  catalog.types.flatMap (outlineOf catalog config)

/-- What stands between the brackets for the name of a type: an interface in double angles, and a
class behind those interfaces of the diagram that it implements, where they have no nodes. -/
def spelledName (name : String) : String :=
  match catalog.types.find? (·.name == name) with
  | none => name
  | some descriptor =>
    match descriptor.kind, config.interfaceMode with
    | .interfaceKind, _ => "<<" ++ name ++ ">>"
    | .classKind, .explicit => name
    | .classKind, .inline =>
      String.join ((descriptor.interfaces.filter (· ∈ catalog.names)).eraseDups.map
        fun interface => "<<" ++ interface ++ ">>;") ++ name

/-- What stands between the ends of an association that can be followed from its first end: an
arrow, if neither end holds many of the other, and otherwise how many each of them holds. -/
def Edge.spelled (edge : Edge) : String :=
  match edge.secondToFirst, edge.firstMultiplicity, edge.secondMultiplicity with
  | false, .one, .one => "->"
  | false, .one, .many => "1-0..*"
  | false, .many, .one => "0..*-1"
  | false, .many, .many => "0..*-0..*"
  | true, .one, .one => "<->"
  | true, .one, .many => "<1-0..*>"
  | true, .many, .one => "<0..*-1>"
  | true, .many, .many => "<0..*-0..*>"

/-- The letters of an entry. -/
def Entry.spelled : Entry → String
  | node name _ => "[" ++ spelledName catalog config name ++ "]"
  | implementation edge =>
    "[<<" ++ edge.interface ++ ">>]^-.-[" ++ spelledName catalog config edge.implementor ++ "]"
  | inheritance edge =>
    "[" ++ spelledName catalog config edge.base ++ "]^-[" ++
      spelledName catalog config edge.derived ++ "]"
  | association edge =>
    "[" ++ spelledName catalog config edge.first ++ "]" ++ edge.spelled ++ "[" ++
      spelledName catalog config edge.second ++ "]"

variable {catalog config} {descriptor : Descriptor}

/-- The types before another are those in front of it, since no two share a name. -/
theorem typesBefore_eq {before after : List Descriptor}
    (split : catalog.types = before ++ descriptor :: after) :
    typesBefore catalog descriptor = before := by
  unfold typesBefore
  rw [split, List.takeWhile_append_of_pos, List.takeWhile_cons_of_neg, List.append_nil]
  · simp
  · intro earlier member
    exact bne_iff_ne.mpr fun same =>
      (Catalog.name_apart split).1 (List.mem_map.mpr ⟨earlier, member, same⟩)

/-- A type owns a pair exactly if no earlier type has observed it. -/
theorem owns_iff {before after : List Descriptor} {target : String}
    (split : catalog.types = before ++ descriptor :: after) :
    Owns catalog config descriptor target ↔ s(descriptor.name, target) ∉
      (before.flatMap (observationsOf catalog config)).map Candidate.pair := by
  have known {earlier : Descriptor} (member : earlier ∈ before) : earlier ∈ catalog.types := by
    rw [split]
    exact List.mem_append_left _ member
  unfold Owns
  rw [typesBefore_eq split, List.mem_map]
  constructor
  · rintro owns ⟨candidate, member, same⟩
    obtain ⟨earlier, before, observed⟩ := List.mem_flatMap.mp member
    have source := source_of_mem_observationsOf observed
    rcases Sym2.eq_iff.mp same with ⟨first, -⟩ | ⟨first, second⟩
    · exact (Catalog.name_apart split).1
        (List.mem_map.mpr ⟨earlier, before, source.symm.trans first⟩)
    · refine owns earlier before (source.symm.trans first) ?_
      rw [← first, ← second]
      exact (mem_observations.mp (List.mem_flatMap.mpr ⟨earlier, known before, observed⟩)).1
  · rintro fresh earlier member rfl mentions
    obtain ⟨candidate, listed, source, target, -⟩ := exists_mem_observations mentions
    obtain ⟨other, inCatalog, observed⟩ := List.mem_flatMap.mp listed
    obtain rfl := Catalog.eq_of_name_eq inCatalog (known member)
      ((source_of_mem_observationsOf observed).symm.trans source)
    refine fresh ⟨candidate, List.mem_flatMap.mpr ⟨other, member, observed⟩, ?_⟩
    rw [Candidate.pair, source, target, Sym2.eq_swap]

/-- What the history of a pair leads to is read off the two types. -/
theorem ofHistory_observations (earliest : Candidate) :
    Edge.ofHistory (observations catalog config) earliest =
      ownedEdge catalog config earliest.source earliest.target := by
  have chosen (source target : String) : held (observations catalog config) source target =
      if Refers catalog config source target .many then .many else .one := by
    split
    · rename_i refers
      exact held_observations.mpr refers
    · rename_i not
      cases most : held (observations catalog config) source target with
      | one => rfl
      | many => exact (not (held_observations.mp most)).elim
  have mentioned (source target : String) : refers (observations catalog config) source target =
      decide (Mentions catalog config source target) := by
    rw [Bool.eq_iff_iff, refers_observations, decide_eq_true_iff]
  unfold Edge.ofHistory ownedEdge
  rw [chosen, chosen, mentioned]
  by_cases loop : earliest.source = earliest.target <;> simp [loop]

/-- The edges that are stored from a class are those of the pairs that it owns. -/
theorem edgesFrom_eq_owned {index : Index}
    (described : index.Describes (observations catalog config))
    (member : descriptor ∈ catalog.types) (isClass : descriptor.kind = .classKind) :
    index.edgesFrom descriptor.name =
      ((Relations.targets catalog config descriptor).filter
        (Owns catalog config descriptor)).map (ownedEdge catalog config descriptor.name) := by
  obtain ⟨before, after, split⟩ := List.append_of_mem member
  have listed : observationsOf catalog config descriptor =
      Relations.candidatesOf catalog config descriptor := by
    simp [observationsOf, Relations.ofType, isClass]
  rw [described.edgesFrom_name split, listed, ← Relations.map_target_candidatesOf, List.filter_map,
    List.map_map]
  have own {candidate : Candidate}
      (candidateOf : candidate ∈ Relations.candidatesOf catalog config descriptor) :
      candidate.source = descriptor.name :=
    source_of_mem_observationsOf (listed ▸ candidateOf)
  rw [List.filter_congr
    (q := fun candidate => decide (Owns catalog config descriptor candidate.target))]
  · apply List.map_congr_left
    intro candidate kept
    rw [ofHistory_observations, own (List.mem_of_mem_filter kept)]
    rfl
  · intro candidate candidateOf
    rw [decide_eq_decide, owns_iff split, Candidate.pair, own candidateOf]

/-- No edge is stored from an interface. -/
theorem edgesFrom_eq_nil {index : Index} (described : index.Describes (observations catalog config))
    (member : descriptor ∈ catalog.types) (isInterface : descriptor.kind = .interfaceKind) :
    index.edgesFrom descriptor.name = [] := by
  obtain ⟨before, after, split⟩ := List.append_of_mem member
  have none : observationsOf catalog config descriptor = [] := by
    simp [observationsOf, Relations.ofType, isInterface]
  rw [described.edgesFrom_name split, none]
  rfl

/-- The entries of a type are its part of the outline. -/
theorem entries_ofType {index : Index} (described : index.Describes (observations catalog config))
    (member : descriptor ∈ catalog.types) :
    Relations.entries index (Relations.ofType catalog config descriptor) =
      outlineOf catalog config descriptor := by
  unfold Relations.entries Relations.ofType outlineOf
  cases kind : descriptor.kind with
  | interfaceKind =>
      rw [edgesFrom_eq_nil described member kind]
      cases config.isExplicit <;> rfl
  | classKind =>
      simp only [edgesFrom_eq_owned described member kind, Relations.interfaceEdgesOf,
        Catalog.implementedInterfaces, Relations.inheritanceOf]
      congr 1
      · congr 1
        · congr 1
          cases config.isExplicit <;> simp
        · cases descriptor.base with
          | none => rfl
          | some base => cases known : catalog.contains base <;> simp [Option.filter, known]
      · rw [List.map_map]
        rfl

/-- The entries of a diagram are those of its outline, in the same order. -/
theorem entriesOf_eq_outline {index : Index}
    (described : index.Describes (observations catalog config)) :
    entriesOf (Relations.ofCatalog catalog config) index = outline catalog config := by
  unfold entriesOf Relations.ofCatalog outline
  rw [List.flatMap_map]
  exact List.flatMap_congr fun descriptor member => entries_ofType described member

/-- The type that contributes an entry. -/
def Entry.owner : Entry → String
  | node name _ => name
  | implementation edge => edge.implementor
  | inheritance edge => edge.derived
  | association edge => edge.first

/-- What stands in the part of a class. -/
theorem mem_outlineOf_class (isClass : descriptor.kind = .classKind) {entry : Entry} :
    entry ∈ outlineOf catalog config descriptor ↔
      entry = .node descriptor.name .classKind ∨
      (∃ interface ∈ descriptor.interfaces, config.isExplicit = true ∧
        catalog.contains interface = true ∧
        entry = .implementation ⟨interface, descriptor.name⟩) ∨
      (∃ base, descriptor.base = some base ∧ catalog.contains base = true ∧
        entry = .inheritance ⟨base, descriptor.name⟩) ∨
      ∃ target ∈ Relations.targets catalog config descriptor,
        Owns catalog config descriptor target ∧
        entry = .association (ownedEdge catalog config descriptor.name target) := by
  have interfaces : entry ∈ (if config.isExplicit then
      (descriptor.interfaces.filter catalog.contains).eraseDups.map
        fun interface => Entry.implementation ⟨interface, descriptor.name⟩ else []) ↔
      ∃ interface ∈ descriptor.interfaces, config.isExplicit = true ∧
        catalog.contains interface = true ∧
        entry = .implementation ⟨interface, descriptor.name⟩ := by
    cases config.isExplicit <;> simp [List.mem_eraseDups, and_assoc, @eq_comm _ _ entry]
  have base : entry ∈ (match descriptor.base with
      | some base =>
        if catalog.contains base then [Entry.inheritance ⟨base, descriptor.name⟩] else []
      | none => []) ↔
      ∃ base, descriptor.base = some base ∧ catalog.contains base = true ∧
        entry = .inheritance ⟨base, descriptor.name⟩ := by
    cases descriptor.base with
    | none => simp
    | some base => cases known : catalog.contains base <;> simp [known]
  unfold outlineOf
  simp only [isClass, List.mem_append, interfaces, base, List.mem_singleton, List.mem_map,
    List.mem_filter, decide_eq_true_eq, or_assoc, and_assoc, eq_comm (b := entry)]

/-- What stands in the part of an interface. -/
theorem mem_outlineOf_interface (isInterface : descriptor.kind = .interfaceKind) {entry : Entry} :
    entry ∈ outlineOf catalog config descriptor ↔
      config.isExplicit = true ∧ entry = .node descriptor.name .interfaceKind := by
  unfold outlineOf
  cases config.isExplicit <;> simp [isInterface]

/-- Every entry that a type contributes names it as the owner. -/
theorem owner_of_mem_outlineOf {entry : Entry}
    (member : entry ∈ outlineOf catalog config descriptor) : entry.owner = descriptor.name := by
  cases kind : descriptor.kind with
  | interfaceKind =>
      obtain ⟨-, rfl⟩ := (mem_outlineOf_interface kind).mp member
      rfl
  | classKind =>
      rcases (mem_outlineOf_class kind).mp member with
        rfl | ⟨interface, -, -, -, rfl⟩ | ⟨base, -, -, rfl⟩ | ⟨target, -, -, rfl⟩ <;> rfl

/-- No type contributes an entry twice. -/
theorem nodup_outlineOf : (outlineOf catalog config descriptor).Nodup := by
  unfold outlineOf
  cases descriptor.kind with
  | interfaceKind => cases config.isExplicit <;> simp
  | classKind =>
      have interfaces : ((descriptor.interfaces.filter catalog.contains).eraseDups.map
          fun interface => Entry.implementation ⟨interface, descriptor.name⟩).Nodup :=
        (nodup_eraseDups _).map fun left right same => by simpa using same
      have owned : (((Relations.targets catalog config descriptor).filter
          (Owns catalog config descriptor)).map fun target =>
            Entry.association (ownedEdge catalog config descriptor.name target)).Nodup :=
        (Relations.nodup_targets.filter _).map fun left right same =>
          congrArg Edge.second (Entry.association.inj same)
      -- Entries of different forms differ.
      refine List.Nodup.append (List.Nodup.append (List.Nodup.append ?_ ?_ ?_) ?_ ?_) owned ?_
      · exact List.nodup_singleton _
      · split
        · exact interfaces
        · exact List.nodup_nil
      · cases config.isExplicit <;> simp
      · cases descriptor.base with
        | none => exact List.nodup_nil
        | some base => cases known : catalog.contains base <;> simp [known]
      · cases config.isExplicit <;> cases descriptor.base with
        | none => simp
        | some base => cases known : catalog.contains base <;> simp [known]
      · refine List.disjoint_right.mpr fun entry ofOwned => ?_
        obtain ⟨target, -, rfl⟩ := List.mem_map.mp ofOwned
        cases config.isExplicit <;> cases descriptor.base with
        | none => simp
        | some base => cases known : catalog.contains base <;> simp [known]

/-- No entry is contributed twice. -/
theorem nodup_outline : (outline catalog config).Nodup := by
  refine List.nodup_flatMap.mpr ⟨fun descriptor _ => nodup_outlineOf, ?_⟩
  refine (List.pairwise_map.mp catalog.names_nodup).imp ?_
  intro left right different entry ofLeft ofRight
  exact different ((owner_of_mem_outlineOf ofLeft).symm.trans (owner_of_mem_outlineOf ofRight))

/-- The names of the entries belong to types of the catalog. -/
theorem fits_of_mem_outline {entry : Entry} (member : entry ∈ outline catalog config) :
    entry.Fits catalog := by
  obtain ⟨descriptor, known, contributed⟩ := List.mem_flatMap.mp member
  have own := Catalog.contains_name known
  cases kind : descriptor.kind with
  | interfaceKind =>
      obtain ⟨-, rfl⟩ := (mem_outlineOf_interface kind).mp contributed
      exact ⟨descriptor, Catalog.get?_name known, kind⟩
  | classKind =>
      rcases (mem_outlineOf_class kind).mp contributed with
        rfl | ⟨interface, -, -, listed, rfl⟩ | ⟨base, -, listed, rfl⟩ | ⟨target, listed, -, rfl⟩
      · exact ⟨descriptor, Catalog.get?_name known, kind⟩
      · exact ⟨listed, own⟩
      · exact ⟨listed, own⟩
      · obtain ⟨multiplicity, member, -, -, refers⟩ := Relations.mem_targets.mp listed
        exact ⟨own, refers.contains, rfl⟩

/-- Where the names are free of marks, no two entries are written alike. -/
theorem nodup_map_text_outline (free : catalog.IsPlain) :
    ((outline catalog config).map (Entry.text catalog config)).Nodup := by
  refine nodup_outline.map_on ?_
  intro left leftMember right rightMember same
  have leftFits := fits_of_mem_outline leftMember
  have rightFits := fits_of_mem_outline rightMember
  rw [← Entry.text_drawn, ← Entry.text_drawn] at same
  exact Entry.eq_of_drawn_eq leftFits rightFits (Drawn.text_injective
    (Entry.isPlain_drawn config free leftFits) (Entry.isPlain_drawn config free rightFits) same)

/-- The text of a diagram is that of its outline. -/
theorem generateCatalog_eq_outline (free : catalog.IsPlain) :
    generateCatalog config catalog =
      .ok (",".intercalate ((outline catalog config).map (Entry.text catalog config))) := by
  obtain ⟨index, described, made⟩ := exists_ofCatalog catalog config
  unfold generateCatalog
  rw [made]
  change Except.ok (emit catalog config (Relations.ofCatalog catalog config) index) = _
  rw [emit, entryTexts, entriesOf_eq_outline described,
    eraseDups_eq_self (nodup_map_text_outline free)]

/-- A label is written as the name of its type is spelled. -/
theorem label_eq_spelledName (name : String) :
    label catalog config name = spelledName catalog config name := by
  have implemented (descriptor : Descriptor) : catalog.implementedInterfaces descriptor =
      (descriptor.interfaces.filter (· ∈ catalog.names)).eraseDups := by
    unfold Catalog.implementedInterfaces
    congr 1
    refine List.filter_congr fun interface _ => ?_
    rw [Bool.eq_iff_iff, Catalog.contains_eq_true, decide_eq_true_iff]
  have tag (interface : String) :
      "<<" ++ interface ++ ">>" ++ ";" = "<<" ++ interface ++ ">>;" := by
    rw [String.append_assoc]
    rfl
  unfold label spelledName inlineTags Config.isExplicit Descriptor.isInterface interfaceTag
  rw [Catalog.get?_eq_find?]
  cases catalog.types.find? (·.name == name) with
  | none => rfl
  | some descriptor =>
      cases kind : descriptor.kind with
      | interfaceKind => simp [kind]
      | classKind => cases mode : config.interfaceMode <;> simp [kind, implemented, tag]

/-- An association that can be followed from its first end is written as it is spelled. -/
theorem Edge.connector_eq_spelled {edge : Edge} (runs : edge.firstToSecond = true) :
    edge.connector = edge.spelled := by
  unfold spelled
  rw [connector_eq_connectorOf, isBidirectional, runs, Bool.true_and]
  cases edge.secondToFirst <;> cases edge.firstMultiplicity <;> cases edge.secondMultiplicity <;>
    rfl

/-- An entry whose names belong to the catalog is written as it is spelled. -/
theorem Entry.text_eq_spelled {entry : Entry} (fits : entry.Fits catalog) :
    entry.text catalog config = entry.spelled catalog config := by
  rw [← String.toList_inj]
  cases entry with
  | node name kind =>
      obtain ⟨descriptor, found, rfl⟩ := fits
      have labelled : text catalog config (.node name descriptor.kind) =
          bracketed (label catalog config name) := by
        cases kind : descriptor.kind <;> simp [text, label, found, Descriptor.isInterface, kind]
      rw [labelled, label_eq_spelledName]
      rfl
  | implementation edge => simp [text, spelled, label_eq_spelledName, bracketed, interfaceTag]
  | inheritance edge => simp [text, spelled, label_eq_spelledName, bracketed]
  | association edge =>
      simp [text, spelled, label_eq_spelledName, bracketed, Edge.connector_eq_spelled fits.2.2]

/-- The outline is written as it is spelled. -/
theorem map_text_outline :
    (outline catalog config).map (Entry.text catalog config) =
      (outline catalog config).map (Entry.spelled catalog config) :=
  List.map_congr_left fun _ member => Entry.text_eq_spelled (fits_of_mem_outline member)

/-- **A diagram is its outline.** Where the names of types are dotted identifiers, the diagram of
any list of types can be made; of several types with one name the first counts, and the text joins
the spelled entries of the outline, none of which stands there twice. -/
theorem generate_eq_outline (config : Config) {types : List Descriptor}
    (dotted : ∀ descriptor ∈ types, Declaration.IsDotted descriptor.name) :
    (Catalog.ofList types).types = firstBy Descriptor.name types ∧
      generate config types = .ok (",".intercalate
        ((outline (Catalog.ofList types) config).map
          (Entry.spelled (Catalog.ofList types) config))) ∧
      ((outline (Catalog.ofList types) config).map
        (Entry.spelled (Catalog.ofList types) config)).Nodup := by
  have free := Catalog.isPlain_ofList dotted
  rw [← map_text_outline]
  exact ⟨Catalog.types_ofList types, generateCatalog_eq_outline free, nodup_map_text_outline free⟩

/-- A shiny bird, its base and its wings.  The second type that is called `Wing` does not count. -/
def shinyBird : List Descriptor := [
  ⟨"Animal", .classKind, none, [], []⟩,
  ⟨"IShiny", .interfaceKind, none, [], []⟩,
  ⟨"a.Bird", .classKind, some "Animal", ["IShiny"],
    [⟨"wings", .visible, .collection "List" "Wing"⟩, ⟨"glint", .visible, .single "IShiny"⟩]⟩,
  ⟨"Wing", .classKind, none, [], [⟨"bird", .visible, .single "a.Bird"⟩]⟩,
  ⟨"Wing", .interfaceKind, none, [], []⟩]

/-- The bird and its wings refer to each other and share the edge of the bird, whose name comes
first.  Its interface is a tag of the bird or a node, and an end of an association in both modes. -/
theorem generate_bird_and_wings :
    generate {} shinyBird = .ok ("[Animal],[<<IShiny>>;a.Bird],[Animal]^-[<<IShiny>>;a.Bird]," ++
      "[<<IShiny>>;a.Bird]<1-0..*>[Wing],[<<IShiny>>;a.Bird]->[<<IShiny>>],[Wing]") ∧
    generate { interfaceMode := .explicit } shinyBird =
      .ok ("[Animal],[<<IShiny>>],[a.Bird],[<<IShiny>>]^-.-[a.Bird],[Animal]^-[a.Bird]," ++
        "[a.Bird]<1-0..*>[Wing],[a.Bird]->[<<IShiny>>],[Wing]") := by
  have animal : Declaration.IsDotted "Animal" :=
    ⟨["Animal".toList], by decide, by decide, by decide⟩
  have shiny : Declaration.IsDotted "IShiny" :=
    ⟨["IShiny".toList], by decide, by decide, by decide⟩
  have bird : Declaration.IsDotted "a.Bird" :=
    ⟨["a".toList, "Bird".toList], by decide, by decide, by decide⟩
  have wing : Declaration.IsDotted "Wing" :=
    ⟨["Wing".toList], by decide, by decide, by decide⟩
  have dotted : ∀ descriptor ∈ shinyBird, Declaration.IsDotted descriptor.name := by
    simp [shinyBird, animal, shiny, bird, wing]
  exact ⟨(generate_eq_outline {} dotted).2.1.trans (by rfl),
    (generate_eq_outline { interfaceMode := .explicit } dotted).2.1.trans (by rfl)⟩

end Outline

end ClassDiagram
