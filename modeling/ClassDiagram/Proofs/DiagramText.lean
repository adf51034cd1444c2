import ClassDiagram.Proofs.CatalogHistory
import ClassDiagram.Proofs.DeclarationLanguage
import ClassDiagram.Proofs.Outline

/-! # What the text of a diagram tells

The nodes and the edges of a diagram can be found in its text: each of them stands in one entry, and
entries of diagrams whose names are free of marks are told apart by their texts.  So two sources
with the same text have the same diagram
(`ClassDiagram.same_diagram_of_generateFrom_eq`), however they are written.
-/

namespace ClassDiagram

/-- A node as it is drawn. -/
structure Node where
  name : String
  kind : Kind
  /-- The interfaces that are shown as tags in front of the name. -/
  tags : List String
deriving DecidableEq, Repr

/-- The tags in front of a name.  Interfaces and names outside the catalog have none. -/
def tagsOf (catalog : Catalog) (config : Config) (name : String) : List String :=
  match catalog.get? name with
  | none => []
  | some descriptor =>
    if descriptor.isInterface then [] else inlineTags catalog config descriptor

namespace Diagram

/-- The nodes of a diagram, in order. -/
def nodes (diagram : Diagram) : List Node :=
  diagram.relations.filterMap fun relations => relations.node.map fun kind =>
    ⟨relations.name, kind, tagsOf diagram.catalog diagram.config relations.name⟩

/-- The edges between interfaces and classes, in order. -/
def interfaceEdges (diagram : Diagram) : List InterfaceEdge :=
  diagram.relations.flatMap Relations.interfaceEdges

/-- The edges between classes and their bases, in order. -/
def inheritanceEdges (diagram : Diagram) : List InheritanceEdge :=
  diagram.relations.filterMap Relations.inheritance

/-- The entries of a diagram. -/
def entries (diagram : Diagram) : List Entry :=
  entriesOf diagram.relations diagram.associations

end Diagram

namespace Entry

/-- The node that an entry draws. -/
def node? (catalog : Catalog) (config : Config) : Entry → Option Node
  | node name kind => some ⟨name, kind, tagsOf catalog config name⟩
  | _ => none

/-- The edge between an interface and a class that an entry draws. -/
def interfaceEdge? : Entry → Option InterfaceEdge
  | implementation edge => some edge
  | _ => none

/-- The edge between a class and its base that an entry draws. -/
def inheritanceEdge? : Entry → Option InheritanceEdge
  | inheritance edge => some edge
  | _ => none

/-- The association that an entry draws. -/
def association? : Entry → Option Edge
  | association edge => some edge
  | _ => none

end Entry

section Entries

variable {index : Index}

/-- The entries of a type that draw something are those that are made for it. -/
theorem Relations.filterMap_entries {α : Type} (relations : Relations) (drawn : Entry → Option α) :
    (relations.entries index).filterMap drawn =
      ((relations.node.map (Entry.node relations.name)).bind drawn).toList ++
        relations.interfaceEdges.filterMap (fun edge => drawn (.implementation edge)) ++
        ((relations.inheritance.map .inheritance).bind drawn).toList ++
        (index.edgesFrom relations.name).filterMap (fun edge => drawn (.association edge)) := by
  have optional (entry : Option Entry) :
      entry.toList.filterMap drawn = (entry.bind drawn).toList := by
    cases entry with
    | none => rfl
    | some entry => cases found : drawn entry <;> simp [found]
  unfold Relations.entries
  rw [List.filterMap_append, List.filterMap_append, List.filterMap_append, optional, optional,
    List.filterMap_map, List.filterMap_map]
  rfl

variable {diagram : Diagram}

/-- The nodes of a diagram are drawn by its entries. -/
theorem Diagram.nodes_eq :
    diagram.nodes = diagram.entries.filterMap (Entry.node? diagram.catalog diagram.config) := by
  unfold nodes entries entriesOf
  rw [List.filterMap_eq_flatMap_toList, List.filterMap_flatMap]
  apply List.flatMap_congr
  intro relations _
  rw [Relations.filterMap_entries]
  cases relations.node <;> cases relations.inheritance <;> simp [Entry.node?]

theorem Diagram.interfaceEdges_eq :
    diagram.interfaceEdges = diagram.entries.filterMap Entry.interfaceEdge? := by
  unfold interfaceEdges entries entriesOf
  rw [List.filterMap_flatMap]
  apply List.flatMap_congr
  intro relations _
  rw [Relations.filterMap_entries]
  cases relations.node <;> cases relations.inheritance <;> simp [Entry.interfaceEdge?]

theorem Diagram.inheritanceEdges_eq :
    diagram.inheritanceEdges = diagram.entries.filterMap Entry.inheritanceEdge? := by
  unfold inheritanceEdges entries entriesOf
  rw [List.filterMap_eq_flatMap_toList, List.filterMap_flatMap]
  apply List.flatMap_congr
  intro relations _
  rw [Relations.filterMap_entries]
  cases relations.node <;> cases relations.inheritance <;> simp [Entry.inheritanceEdge?]

/-- The associations that are drawn are those that are stored from a type. -/
theorem Diagram.flatMap_edgesFrom_eq :
    (diagram.relations.flatMap fun relations => diagram.associations.edgesFrom relations.name) =
      diagram.entries.filterMap Entry.association? := by
  unfold entries entriesOf
  rw [List.filterMap_flatMap]
  apply List.flatMap_congr
  intro relations _
  rw [Relations.filterMap_entries]
  cases relations.node <;> cases relations.inheritance <;> simp [Entry.association?]

end Entries

/-- What is chosen of two lists is the same where the elements look the same. -/
theorem filterMap_eq_of_map_eq {α β γ δ : Type} {left : List α} {right : List β}
    {leftLook : α → γ} {rightLook : β → γ} {leftChoice : α → Option δ} {rightChoice : β → Option δ}
    (same : left.map leftLook = right.map rightLook)
    (agree : ∀ a ∈ left, ∀ b ∈ right, leftLook a = rightLook b → leftChoice a = rightChoice b) :
    left.filterMap leftChoice = right.filterMap rightChoice := by
  induction left generalizing right with
  | nil =>
      cases List.map_eq_nil_iff.mp same.symm
      rfl
  | cons first rest ih =>
      cases right with
      | nil => cases same
      | cons other others =>
          obtain ⟨heads, tails⟩ := List.cons.inj same
          rw [List.filterMap_cons, List.filterMap_cons,
            agree first List.mem_cons_self other List.mem_cons_self heads,
            ih tails fun a member b inside => agree a (List.mem_cons_of_mem _ member) b
              (List.mem_cons_of_mem _ inside)]

/-- The tags of a label. -/
def Label.tags : Label → List String
  | interface _ => []
  | plain tags _ => tags

@[simp] theorem tags_labelOf (catalog : Catalog) (config : Config) (name : String) :
    (labelOf catalog config name).tags = tagsOf catalog config name := by
  unfold labelOf tagsOf
  cases catalog.get? name with
  | none => rfl
  | some descriptor => cases interface : descriptor.isInterface <;> simp [Label.tags, interface]

/-- Two diagrams have the same nodes and edges. -/
structure Diagram.Agrees (left right : Diagram) : Prop where
  nodes : left.nodes = right.nodes
  interfaceEdges : left.interfaceEdges = right.interfaceEdges
  inheritanceEdges : left.inheritanceEdges = right.inheritanceEdges
  associations : left.associations.edges = right.associations.edges

section Agreement

variable {catalog other : Catalog} {config otherConfig : Config}

/-- Entries with the same text are the same and have the same tags, even in the diagrams of two
catalogs. -/
theorem Entry.node?_eq_of_text_eq (free : catalog.IsPlain) (otherFree : other.IsPlain)
    {left right : Entry} (leftFits : left.Fits catalog) (rightFits : right.Fits other)
    (same : left.text catalog config = right.text other otherConfig) :
    left = right ∧ left.node? catalog config = right.node? other otherConfig := by
  rw [← Entry.text_drawn, ← Entry.text_drawn] at same
  have drawn := Drawn.text_injective (Entry.isPlain_drawn config free leftFits)
    (Entry.isPlain_drawn otherConfig otherFree rightFits) same
  obtain rfl := Entry.eq_of_drawn_eq leftFits rightFits drawn
  refine ⟨rfl, ?_⟩
  cases left with
  | node name kind =>
      simp only [node?, Option.some.injEq, Node.mk.injEq, true_and]
      cases kind with
      | interfaceKind =>
          obtain ⟨descriptor, found, kind⟩ := leftFits
          obtain ⟨otherDescriptor, otherFound, otherKind⟩ := rightFits
          simp [tagsOf, found, otherFound, Descriptor.isInterface, kind, otherKind]
      | classKind => simpa using congrArg Label.tags (Drawn.node.inj drawn)
  | _ => rfl

/-- The diagram of a catalog has the entries of its outline. -/
theorem Diagram.made_eq {diagram : Diagram}
    (made : Diagram.ofCatalog catalog config = .ok diagram) :
    diagram.catalog = catalog ∧ diagram.config = config ∧
      diagram.entries = outline catalog config ∧
      diagram.associations.edges = diagram.entries.filterMap Entry.association? := by
  obtain ⟨index, described, same⟩ := exists_ofCatalog catalog config
  cases made.symm.trans same
  refine ⟨rfl, rfl, entriesOf_eq_outline described, ?_⟩
  rw [← Diagram.flatMap_edgesFrom_eq, described.edges_eq_flatMap, Relations.ofCatalog,
    List.flatMap_map]
  apply List.flatMap_congr
  intro descriptor _
  cases kind : descriptor.kind <;> simp [Relations.ofType, kind]

/-- Every catalog has a diagram. -/
theorem Diagram.exists_made (catalog : Catalog) (config : Config) :
    ∃ diagram, Diagram.ofCatalog catalog config = .ok diagram := by
  obtain ⟨index, -, made⟩ := exists_ofCatalog catalog config
  exact ⟨_, made⟩

/-- The text that is generated for some types is that of their diagram. -/
theorem generate_of_made {types : List Descriptor} {diagram : Diagram}
    (made : Diagram.ofCatalog (Catalog.ofList types) config = .ok diagram) :
    generate config types = .ok diagram.text := by
  unfold generate generateCatalog
  rw [made]
  rfl

variable (config) in
/-- The texts of the entries of an outline have letters and no commas. -/
theorem text_of_mem_outline (free : catalog.IsPlain) {text : String}
    (member : text ∈ (outline catalog config).map (Entry.text catalog config)) :
    ',' ∉ text.toList ∧ text ≠ "" := by
  obtain ⟨entry, listed, rfl⟩ := List.mem_map.mp member
  rw [← Entry.text_drawn]
  exact ⟨Drawn.comma_not_mem_text (Entry.isPlain_drawn config free (fits_of_mem_outline listed)),
    Drawn.text_ne_empty _⟩

/-- Outlines with the same text have the same entries. -/
theorem map_text_outline_eq (free : catalog.IsPlain) (otherFree : other.IsPlain)
    (same : generateCatalog config catalog = generateCatalog otherConfig other) :
    (outline catalog config).map (Entry.text catalog config) =
      (outline other otherConfig).map (Entry.text other otherConfig) := by
  rw [generateCatalog_eq_outline free, generateCatalog_eq_outline otherFree,
    Except.ok.injEq] at same
  exact intercalate_comma_injective (fun _ member => (text_of_mem_outline config free member).1)
    (fun _ member => (text_of_mem_outline otherConfig otherFree member).1)
    (fun member => (text_of_mem_outline config free member).2 rfl)
    (fun member => (text_of_mem_outline otherConfig otherFree member).2 rfl) same

/-- Diagrams with the same text have the same nodes and edges. -/
theorem Diagram.agrees_of_text_eq {left right : Diagram} (free : catalog.IsPlain)
    (otherFree : other.IsPlain) (leftMade : Diagram.ofCatalog catalog config = .ok left)
    (rightMade : Diagram.ofCatalog other otherConfig = .ok right) (same : left.text = right.text) :
    left.Agrees right := by
  have generated : generateCatalog config catalog = generateCatalog otherConfig other := by
    unfold generateCatalog
    rw [leftMade, rightMade]
    exact congrArg Except.ok same
  have texts := map_text_outline_eq free otherFree generated
  obtain ⟨rfl, rfl, leftOutline, leftEdges⟩ := made_eq leftMade
  obtain ⟨rfl, rfl, rightOutline, rightEdges⟩ := made_eq rightMade
  rw [← leftOutline, ← rightOutline] at texts
  -- Two entries with one text are the same entry, and so is what is chosen of them.
  have told {leftEntry rightEntry : Entry} (leftMember : leftEntry ∈ left.entries)
      (rightMember : rightEntry ∈ right.entries)
      (looks : leftEntry.text left.catalog left.config =
        rightEntry.text right.catalog right.config) :
      leftEntry = rightEntry ∧ leftEntry.node? left.catalog left.config =
        rightEntry.node? right.catalog right.config :=
    Entry.node?_eq_of_text_eq free otherFree (fits_of_mem_outline (leftOutline ▸ leftMember))
      (fits_of_mem_outline (rightOutline ▸ rightMember)) looks
  have chosen {α : Type} (choice : Entry → Option α) :
      left.entries.filterMap choice = right.entries.filterMap choice :=
    filterMap_eq_of_map_eq texts fun _ leftMember _ rightMember looks =>
      congrArg choice (told leftMember rightMember looks).1
  constructor
  case nodes =>
    rw [nodes_eq, nodes_eq]
    exact filterMap_eq_of_map_eq texts fun _ leftMember _ rightMember looks =>
      (told leftMember rightMember looks).2
  case interfaceEdges =>
    rw [interfaceEdges_eq, interfaceEdges_eq, chosen]
  case inheritanceEdges =>
    rw [inheritanceEdges_eq, inheritanceEdges_eq, chosen]
  case associations =>
    rw [leftEdges, rightEdges, chosen]

end Agreement

/-- The diagram of a source. -/
def Diagram.ofSource (config : Config) (source : Declaration.Source) : Except Failure Diagram :=
  source.types.bind fun types => ofCatalog (Catalog.ofList types) config

/-- The text of a source is that of its diagram. -/
theorem generateFrom_provider (config : Config) (source : Declaration.Source) :
    generateFrom config source.provider = (Diagram.ofSource config source).map Diagram.text := by
  rw [generateFrom_eq_bind, Diagram.ofSource]
  change source.types.bind _ = _
  cases source.types with
  | error failure => rfl
  | ok types =>
      change generate config (types.filter fun _ => true) = generate config types
      rw [List.filter_true]

/-- **The text determines the diagram.** If two sources have the same text, whatever the options
are, their diagrams have the same nodes with the same tags, and the same edges. -/
theorem same_diagram_of_generateFrom_eq {leftConfig rightConfig : Config}
    {left right : Declaration.Source} {text : String}
    (leftText : generateFrom leftConfig left.provider = .ok text)
    (rightText : generateFrom rightConfig right.provider = .ok text) :
    ∃ leftDiagram rightDiagram, Diagram.ofSource leftConfig left = .ok leftDiagram ∧
      Diagram.ofSource rightConfig right = .ok rightDiagram ∧ leftDiagram.Agrees rightDiagram := by
  have plain {source : Declaration.Source} {types : List Descriptor}
      (accepted : source.types = .ok types) : (Catalog.ofList types).IsPlain :=
    Catalog.isPlain_ofList (Declaration.Source.isDotted_of_types accepted)
  have made {config : Config} {source : Declaration.Source}
      (generated : generateFrom config source.provider = .ok text) :
      ∃ types diagram, source.types = .ok types ∧
        Diagram.ofCatalog (Catalog.ofList types) config = .ok diagram ∧ diagram.text = text := by
    rw [generateFrom_provider] at generated
    unfold Diagram.ofSource at generated
    cases accepted : source.types with
    | error failure =>
        rw [accepted] at generated
        cases generated
    | ok types =>
        rw [accepted] at generated
        obtain ⟨index, -, made⟩ := exists_ofCatalog (Catalog.ofList types) config
        refine ⟨types, _, rfl, made, ?_⟩
        change (Diagram.ofCatalog (Catalog.ofList types) config).map Diagram.text = _ at generated
        rw [made] at generated
        exact Except.ok.inj generated
  obtain ⟨leftTypes, leftDiagram, leftAccepted, leftMade, leftSame⟩ := made leftText
  obtain ⟨rightTypes, rightDiagram, rightAccepted, rightMade, rightSame⟩ := made rightText
  refine ⟨leftDiagram, rightDiagram, ?_, ?_, Diagram.agrees_of_text_eq (plain leftAccepted)
    (plain rightAccepted) leftMade rightMade (leftSame.trans rightSame.symm)⟩
  · rw [Diagram.ofSource, leftAccepted]
    exact leftMade
  · rw [Diagram.ofSource, rightAccepted]
    exact rightMade

/-- Two ways to write down a class that refers to another, once with a hidden member that is
scanned as well. -/
theorem same_diagram_of_reference :
    ∃ leftDiagram rightDiagram,
      Diagram.ofSource {} { text := "class A\x7bb:B\x7dclass B" } = .ok leftDiagram ∧
      Diagram.ofSource { includeHidden := true }
        { text := "class A \x7b\n  -b : B; // one\n\x7d\nclass B \x7b\x7d" } = .ok rightDiagram ∧
      leftDiagram.Agrees rightDiagram := by
  have left : generateFrom {}
      (Declaration.Source.provider { text := "class A\x7bb:B\x7dclass B" }) =
        .ok "[A],[A]->[B],[B]" := by
    decide +kernel
  have right : generateFrom { includeHidden := true } (Declaration.Source.provider
      { text := "class A \x7b\n  -b : B; // one\n\x7d\nclass B \x7b\x7d" }) =
        .ok "[A],[A]->[B],[B]" := by
    decide +kernel
  exact same_diagram_of_generateFrom_eq left right

end ClassDiagram
