import ClassDiagram.Proofs.DiagramText

/-! # Names that are marked as interfaces

A name is marked where it stands as the label of an interface or as a tag in front of another name.
Nodes and the ends of edges are marked by the kind of the type, but tags and dashed edges only ask
whether a name that a class implements is in the catalog.  So a name is marked exactly if it is an
interface that is drawn, or a class that some class names among its interfaces
(`ClassDiagram.exists_marksInterfaces`); apart from the latter, what an edge leads to is drawn as a
node.
-/

namespace ClassDiagram

/-- The names that a label marks as interfaces. -/
def Label.marked : Label → List String
  | interface name => [name]
  | plain tags _ => tags

/-- The names that stand in a label. -/
def Label.names : Label → List String
  | interface name => [name]
  | plain tags name => tags ++ [name]

namespace Drawn

/-- The labels in an entry. -/
def labels : Drawn → List Label
  | node label => [label]
  | link source _ target => [source, target]

/-- The labels that an entry connects. -/
def ends : Drawn → List Label
  | node _ => []
  | link source _ target => [source, target]

theorem mem_labels_link {source target label : Label} {connector : String} :
    label ∈ (link source connector target).labels ↔ label = source ∨ label = target := by
  simp [labels]

theorem mem_ends_link {source target label : Label} {connector : String} :
    label ∈ (link source connector target).ends ↔ label = source ∨ label = target := by
  simp [ends]

end Drawn

/-- When a type is no interface, although a class names it among the interfaces it implements. -/
def Catalog.Misnamed (catalog : Catalog) (name : String) : Prop :=
  catalog.contains name = true ∧ catalog.isInterface name = false ∧
    ∃ descriptor ∈ catalog.types, descriptor.kind = .classKind ∧ name ∈ descriptor.interfaces

namespace Diagram

/-- The entries of a diagram with the labels that stand for their names. -/
def drawn (diagram : Diagram) : List Drawn :=
  diagram.entries.map (Entry.drawn diagram.catalog diagram.config)

/-- The names that are marked as interfaces anywhere in a diagram. -/
def marked (diagram : Diagram) : List String :=
  diagram.drawn.flatMap fun drawn => drawn.labels.flatMap Label.marked

/-- The names that stand anywhere in a diagram. -/
def names (diagram : Diagram) : List String :=
  diagram.drawn.flatMap fun drawn => drawn.labels.flatMap Label.names

/-- Whether a text is that of a node of the diagram. -/
def DrawsNode (diagram : Diagram) (text : String) : Prop :=
  ∃ entry ∈ diagram.entries, (entry.node? diagram.catalog diagram.config).isSome = true ∧
    entry.text diagram.catalog diagram.config = text

instance (diagram : Diagram) (text : String) : Decidable (diagram.DrawsNode text) :=
  inferInstanceAs (Decidable (∃ entry ∈ diagram.entries, _ ∧ _))

/-- What is marked as an interface in a diagram, and what its edges lead to. -/
structure MarksInterfaces (diagram : Diagram) : Prop where
  /-- A name is marked only if it is an interface, or misnamed as one. -/
  marked : ∀ name ∈ diagram.marked,
    diagram.catalog.isInterface name = true ∨ diagram.catalog.Misnamed name
  /-- Whatever is misnamed as an interface is marked. -/
  misnamed : ∀ name, diagram.catalog.Misnamed name → name ∈ diagram.marked
  /-- Where interfaces have nodes, every end of an edge is drawn as a node, unless a dashed edge
  comes from a misnamed type. -/
  explicit : diagram.config.isExplicit = true → ∀ entry ∈ diagram.entries,
    ∀ label ∈ (entry.drawn diagram.catalog diagram.config).ends,
      diagram.DrawsNode (bracketed label.text) ∨
        ∃ edge, entry = .implementation edge ∧ label = .interface edge.interface ∧
          diagram.catalog.Misnamed edge.interface
  /-- Where interfaces have no nodes, every end of an edge that is a class is drawn as the node of
  that class. -/
  inline : diagram.config.isExplicit = false → ∀ entry ∈ diagram.entries,
    ∀ label ∈ (entry.drawn diagram.catalog diagram.config).ends,
      ∀ descriptor, diagram.catalog.get? label.name = some descriptor →
        descriptor.kind = .classKind →
        Entry.node label.name .classKind ∈ diagram.entries ∧
          (Entry.node label.name .classKind).text diagram.catalog diagram.config =
            bracketed label.text

end Diagram

section Marks

variable {catalog : Catalog} {config : Config} {descriptor : Descriptor}

/-- A type of the catalog that a class names among its interfaces is one, or misnamed. -/
theorem Catalog.isInterface_or_misnamed {name : String} (known : catalog.contains name = true)
    (member : descriptor ∈ catalog.types) (isClass : descriptor.kind = .classKind)
    (listed : name ∈ descriptor.interfaces) :
    catalog.isInterface name = true ∨ catalog.Misnamed name := by
  cases marked : catalog.isInterface name with
  | true => exact Or.inl rfl
  | false => exact Or.inr ⟨known, marked, descriptor, member, isClass, listed⟩

/-- A name is an interface if it leads to one. -/
theorem Catalog.isInterface_iff {name : String} :
    catalog.isInterface name = true ↔
      ∃ descriptor, catalog.get? name = some descriptor ∧ descriptor.kind = .interfaceKind := by
  simp [isInterface, Option.any_eq_true, Descriptor.isInterface]

/-- The label that stands for a name marks interfaces, and what its class misnames. -/
theorem marked_labelOf {name tag : String} (member : tag ∈ (labelOf catalog config name).marked) :
    catalog.isInterface tag = true ∨ catalog.Misnamed tag := by
  unfold labelOf at member
  split at member
  · cases member
  · rename_i descriptor found
    split at member
    · rename_i isInterface
      obtain rfl := List.mem_singleton.mp member
      exact Or.inl (Catalog.isInterface_iff.mpr ⟨descriptor, found, by
        simpa [Descriptor.isInterface] using isInterface⟩)
    · rename_i isClass
      have kind : descriptor.kind = .classKind := by
        cases same : descriptor.kind with
        | classKind => rfl
        | interfaceKind => simp [Descriptor.isInterface, same] at isClass
      change tag ∈ inlineTags catalog config descriptor at member
      unfold inlineTags at member
      split at member
      · cases member
      · obtain ⟨listed, known⟩ := List.mem_filter.mp (List.mem_eraseDups.mp member)
        exact Catalog.isInterface_or_misnamed known (Catalog.get?_eq_some.mp found).1 kind listed

/-- The names that an entry marks are interfaces, or misnamed. -/
theorem marked_of_mem_outline {entry : Entry} (member : entry ∈ outline catalog config)
    {label : Label} (inside : label ∈ (entry.drawn catalog config).labels) {name : String}
    (marked : name ∈ label.marked) : catalog.isInterface name = true ∨ catalog.Misnamed name := by
  obtain ⟨descriptor, known, contributed⟩ := List.mem_flatMap.mp member
  cases kind : descriptor.kind with
  | interfaceKind =>
      obtain ⟨-, rfl⟩ := (mem_outlineOf_interface kind).mp contributed
      obtain rfl := List.mem_singleton.mp inside
      obtain rfl := List.mem_singleton.mp marked
      exact Or.inl (Catalog.isInterface_iff.mpr ⟨descriptor, Catalog.get?_name known, kind⟩)
  | classKind =>
      rcases (mem_outlineOf_class kind).mp contributed with
        rfl | ⟨interface, listed, -, found, rfl⟩ | ⟨base, -, -, rfl⟩ | ⟨target, -, -, rfl⟩
      · obtain rfl := List.mem_singleton.mp inside
        exact marked_labelOf marked
      · rcases Drawn.mem_labels_link.mp inside with rfl | rfl
        · obtain rfl := List.mem_singleton.mp marked
          exact Catalog.isInterface_or_misnamed found known kind listed
        · exact marked_labelOf marked
      · rcases Drawn.mem_labels_link.mp inside with rfl | rfl <;> exact marked_labelOf marked
      · rcases Drawn.mem_labels_link.mp inside with rfl | rfl <;> exact marked_labelOf marked

/-- A class has a node, and so has an interface where interfaces are drawn. -/
theorem node_mem_outline (config : Config) (member : descriptor ∈ catalog.types)
    (drawn : config.isExplicit = true ∨ descriptor.kind = .classKind) :
    Entry.node descriptor.name descriptor.kind ∈ outline catalog config := by
  refine List.mem_flatMap.mpr ⟨descriptor, member, ?_⟩
  cases kind : descriptor.kind with
  | interfaceKind =>
      rw [kind] at drawn
      exact (mem_outlineOf_interface kind).mpr ⟨drawn.resolve_right (by simp), rfl⟩
  | classKind => exact (mem_outlineOf_class kind).mpr (Or.inl rfl)

theorem labelOf_of_isInterface {name : String} (marked : catalog.isInterface name = true) :
    labelOf catalog config name = .interface name := by
  obtain ⟨descriptor, found, kind⟩ := Catalog.isInterface_iff.mp marked
  simp [labelOf, found, Descriptor.isInterface, kind]

/-- The node of a type is drawn with the label that stands for its name. -/
theorem text_node (config : Config) {name : String} (found : catalog.get? name = some descriptor) :
    (Entry.node name descriptor.kind).text catalog config =
      bracketed (labelOf catalog config name).text := by
  cases kind : descriptor.kind with
  | classKind => rw [text_labelOf]; rfl
  | interfaceKind =>
      rw [labelOf_of_isInterface (Catalog.isInterface_iff.mpr ⟨descriptor, found, kind⟩)]
      rfl

/-- The labels that an entry connects stand for names of the catalog, but for what is misnamed at
the end of a dashed edge. -/
theorem ends_of_mem_outline {entry : Entry} (member : entry ∈ outline catalog config)
    {label : Label} (inside : label ∈ (entry.drawn catalog config).ends) :
    (∃ name, catalog.contains name = true ∧ label = labelOf catalog config name) ∨
      config.isExplicit = true ∧ ∃ edge, entry = .implementation edge ∧
        label = .interface edge.interface ∧ catalog.Misnamed edge.interface := by
  obtain ⟨descriptor, known, contributed⟩ := List.mem_flatMap.mp member
  have own := Catalog.contains_name known
  cases kind : descriptor.kind with
  | interfaceKind =>
      obtain ⟨-, rfl⟩ := (mem_outlineOf_interface kind).mp contributed
      cases inside
  | classKind =>
      rcases (mem_outlineOf_class kind).mp contributed with
        rfl | ⟨interface, listed, explicit, found, rfl⟩ | ⟨base, -, found, rfl⟩ |
          ⟨target, listed, -, rfl⟩
      · cases inside
      · rcases Drawn.mem_ends_link.mp inside with rfl | rfl
        · rcases Catalog.isInterface_or_misnamed found known kind listed with marked | misnamed
          · exact Or.inl ⟨interface, found, (labelOf_of_isInterface marked).symm⟩
          · exact Or.inr ⟨explicit, _, rfl, rfl, misnamed⟩
        · exact Or.inl ⟨_, own, rfl⟩
      · rcases Drawn.mem_ends_link.mp inside with rfl | rfl
        · exact Or.inl ⟨_, found, rfl⟩
        · exact Or.inl ⟨_, own, rfl⟩
      · obtain ⟨multiplicity, member, -, -, refers⟩ := Relations.mem_targets.mp listed
        rcases Drawn.mem_ends_link.mp inside with rfl | rfl
        · exact Or.inl ⟨_, own, rfl⟩
        · exact Or.inl ⟨_, refers.contains, rfl⟩

/-- Only names of the catalog stand in the label of one of them. -/
theorem contains_of_mem_names_labelOf {name other : String} (known : catalog.contains name = true)
    (member : other ∈ (labelOf catalog config name).names) : catalog.contains other = true := by
  unfold labelOf at member
  split at member
  · rw [List.mem_singleton.mp member]
    exact known
  · rename_i descriptor found
    split at member
    · rw [List.mem_singleton.mp member]
      exact known
    · rcases List.mem_append.mp member with tag | own
      · unfold inlineTags at tag
        split at tag
        · cases tag
        · exact (List.mem_filter.mp (List.mem_eraseDups.mp tag)).2
      · rw [List.mem_singleton.mp own]
        exact known

/-- Only names of the catalog stand in an entry. -/
theorem contains_of_mem_outline {entry : Entry} (member : entry ∈ outline catalog config)
    {label : Label} (inside : label ∈ (entry.drawn catalog config).labels) {name : String}
    (stands : name ∈ label.names) : catalog.contains name = true := by
  have fits := fits_of_mem_outline member
  cases entry with
  | node own kind =>
      obtain ⟨descriptor, found, rfl⟩ := fits
      have known := Catalog.contains_of_get? found
      cases kind : descriptor.kind with
      | interfaceKind =>
          rw [kind] at inside
          rw [List.mem_singleton.mp inside] at stands
          rw [List.mem_singleton.mp stands]
          exact known
      | classKind =>
          rw [kind] at inside
          rw [List.mem_singleton.mp inside] at stands
          exact contains_of_mem_names_labelOf known stands
  | implementation edge =>
      rcases Drawn.mem_labels_link.mp inside with rfl | rfl
      · rw [List.mem_singleton.mp stands]
        exact fits.1
      · exact contains_of_mem_names_labelOf fits.2 stands
  | inheritance edge =>
      rcases Drawn.mem_labels_link.mp inside with rfl | rfl
      · exact contains_of_mem_names_labelOf fits.1 stands
      · exact contains_of_mem_names_labelOf fits.2 stands
  | association edge =>
      rcases Drawn.mem_labels_link.mp inside with rfl | rfl
      · exact contains_of_mem_names_labelOf fits.1 stands
      · exact contains_of_mem_names_labelOf fits.2.1 stands

/-- Only names of its catalog stand in a diagram. -/
theorem Diagram.contains_of_mem_names {diagram : Diagram}
    (made : Diagram.ofCatalog catalog config = .ok diagram) {name : String}
    (stands : name ∈ diagram.names) : catalog.contains name = true := by
  obtain ⟨sameCatalog, sameConfig, entries, -⟩ := made_eq made
  obtain ⟨drawn, member, inside⟩ := List.mem_flatMap.mp stands
  obtain ⟨entry, listed, rfl⟩ := List.mem_map.mp member
  obtain ⟨label, ofEntry, ofLabel⟩ := List.mem_flatMap.mp inside
  rw [sameCatalog, sameConfig] at ofEntry
  exact contains_of_mem_outline (entries ▸ listed) ofEntry ofLabel

/-- What a class misnames is marked, as a tag or at the end of a dashed edge. -/
theorem exists_mem_marked (config : Config) {name : String} (misnamed : catalog.Misnamed name) :
    ∃ entry ∈ outline catalog config, ∃ label ∈ (entry.drawn catalog config).labels,
      name ∈ label.marked := by
  obtain ⟨known, -, descriptor, member, isClass, listed⟩ := misnamed
  cases explicit : config.isExplicit with
  | true =>
      refine ⟨.implementation ⟨name, descriptor.name⟩, List.mem_flatMap.mpr ⟨descriptor, member,
        (mem_outlineOf_class isClass).mpr (Or.inr (Or.inl ⟨name, listed, explicit, known, rfl⟩))⟩,
        .interface name, List.mem_cons_self, List.mem_singleton.mpr rfl⟩
  | false =>
      refine ⟨.node descriptor.name .classKind, List.mem_flatMap.mpr ⟨descriptor, member,
        (mem_outlineOf_class isClass).mpr (Or.inl rfl)⟩, labelOf catalog config descriptor.name,
        List.mem_cons_self, ?_⟩
      rw [labelOf_eq_plain config (Catalog.get?_name member) isClass]
      simpa [Label.marked, inlineTags, explicit, Catalog.implementedInterfaces,
        List.mem_eraseDups] using ⟨listed, known⟩

/-- The text of a diagram joins what is drawn. -/
theorem Diagram.text_eq (diagram : Diagram) :
    diagram.text = ",".intercalate (diagram.drawn.map Drawn.text).eraseDups := by
  have texts : diagram.drawn.map Drawn.text =
      diagram.entries.map (Entry.text diagram.catalog diagram.config) := by
    rw [drawn, List.map_map]
    exact List.map_congr_left fun entry _ => Entry.text_drawn _ _ entry
  rw [texts]
  rfl

end Marks

/-- **Marks of interfaces.** In the diagram of any list of types, a name is marked as an interface
only if it is one, or is misnamed as one by a class; and whatever is misnamed is marked.  Apart from
this, edges lead to what is drawn as a node. -/
theorem exists_marksInterfaces (config : Config) (types : List Descriptor) :
    ∃ diagram, Diagram.ofCatalog (Catalog.ofList types) config = .ok diagram ∧
      diagram.catalog = Catalog.ofList types ∧ diagram.config = config ∧
      generate config types =
        .ok (",".intercalate (diagram.drawn.map Drawn.text).eraseDups) ∧
      diagram.MarksInterfaces := by
  obtain ⟨index, -, made⟩ := exists_ofCatalog (Catalog.ofList types) config
  obtain ⟨sameCatalog, sameConfig, entries, -⟩ := Diagram.made_eq made
  refine ⟨_, made, sameCatalog, sameConfig, ?_, ?_⟩
  · rw [← Diagram.text_eq, generate, generateCatalog, made]
    rfl
  constructor
  case marked =>
    intro name marked
    obtain ⟨drawn, member, inside⟩ := List.mem_flatMap.mp marked
    obtain ⟨entry, listed, rfl⟩ := List.mem_map.mp member
    obtain ⟨label, ofEntry, ofLabel⟩ := List.mem_flatMap.mp inside
    exact marked_of_mem_outline (entries ▸ listed) ofEntry ofLabel
  case misnamed =>
    intro name misnamed
    obtain ⟨entry, listed, label, ofEntry, ofLabel⟩ := exists_mem_marked config misnamed
    exact List.mem_flatMap.mpr ⟨_, List.mem_map_of_mem (entries ▸ listed),
      List.mem_flatMap.mpr ⟨label, ofEntry, ofLabel⟩⟩
  case explicit =>
    intro explicit entry listed label inside
    rcases ends_of_mem_outline (entries ▸ listed) inside with ⟨name, known, rfl⟩ | ⟨-, misnamed⟩
    · obtain ⟨descriptor, member, rfl⟩ := Catalog.contains_iff.mp known
      exact Or.inl ⟨.node descriptor.name descriptor.kind,
        entries ▸ node_mem_outline config member (Or.inl explicit), rfl,
        text_node config (Catalog.get?_name member)⟩
    · exact Or.inr misnamed
  case inline =>
    intro inline entry listed label inside descriptor found isClass
    rcases ends_of_mem_outline (entries ▸ listed) inside with ⟨name, -, rfl⟩ | ⟨explicit, -⟩
    · rw [name_labelOf] at found ⊢
      obtain ⟨member, rfl⟩ := Catalog.get?_eq_some.mp found
      have node := node_mem_outline config member (Or.inr isClass)
      have text := text_node config found
      rw [isClass] at node text
      exact ⟨entries ▸ node, text⟩
    · exact absurd (inline.symm.trans explicit) (by decide)

/-- A class that another class names among its interfaces is drawn as an interface, and where
interfaces have nodes its dashed edge comes from nowhere. -/
theorem misnamed_class_is_marked :
    ∃ diagram, Diagram.ofCatalog (Catalog.ofList [⟨"A", .classKind, none, ["B"], []⟩,
        ⟨"B", .classKind, none, [], []⟩]) { interfaceMode := .explicit } = .ok diagram ∧
      diagram.text = "[A],[<<B>>]^-.-[A],[B]" ∧ "B" ∈ diagram.marked ∧
      diagram.catalog.isInterface "B" = false ∧
      ¬ diagram.DrawsNode (bracketed (Label.interface "B").text) := by
  exact ⟨_, rfl, by decide +kernel, by decide +kernel, by decide +kernel, by decide +kernel⟩

end ClassDiagram
