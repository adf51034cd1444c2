import ClassDiagram.Proofs.InterfaceMarks
import ClassDiagram.Proofs.Rearrangement

/-! # Two ways of drawing interfaces

Interfaces are drawn as tags in front of the classes that implement them, or as nodes of their own
with dashed edges.  Both ways show the same diagram (`ClassDiagram.exists_showsTagged`): what is
left when nodes and dashed edges are taken out of the one list of entries is what is left when the
tags are taken out of the other, and the tags of a class are where its dashed edges come from.  That
the tags can be taken out of the finished text is due to the names, which are free of marks
(`ClassDiagram.Entry.withoutTags_text`).
-/

namespace ClassDiagram

/-- What stands behind a tag at the beginning of a text, if there is one. -/
def afterTag? : List Char → Option (List Char)
  | '<' :: '<' :: rest =>
    match rest.dropWhile (· != '>') with
    | '>' :: '>' :: ';' :: behind => some behind
    | _ => none
  | _ => none

/-- A tag takes at least its marks. -/
theorem length_afterTag? {text behind : List Char} (tagged : afterTag? text = some behind) :
    behind.length < text.length := by
  unfold afterTag? at tagged
  split at tagged
  · rename_i rest
    have shorter := (List.dropWhile_suffix (l := rest) (· != '>')).length_le
    split at tagged
    · rename_i found
      rw [found] at shorter
      cases tagged
      simp only [List.length_cons] at shorter ⊢
      omega
    · cases tagged
  · cases tagged

/-- A text from which all tags are taken out. -/
def withoutTags : List Char → List Char
  | [] => []
  | c :: rest =>
    match _ : afterTag? (c :: rest) with
    | some behind => withoutTags behind
    | none => c :: withoutTags rest
termination_by text => text.length
decreasing_by
  · exact length_afterTag? (by assumption)
  · exact Nat.lt_succ_self _

section Tags

theorem withoutTags_of_afterTag? {text behind : List Char} (tagged : afterTag? text = some behind) :
    withoutTags text = withoutTags behind := by
  cases text with
  | nil => cases tagged
  | cons c rest =>
      rw [withoutTags]
      split
      · rename_i other found
        rw [Option.some.inj (tagged.symm.trans found)]
      · rename_i none
        rw [tagged] at none
        cases none

/-- A character that begins no tag is kept. -/
theorem withoutTags_cons {c : Char} {rest : List Char} (untagged : afterTag? (c :: rest) = none) :
    withoutTags (c :: rest) = c :: withoutTags rest := by
  rw [withoutTags]
  split
  · rename_i behind found
    rw [untagged] at found
    cases found
  · rfl

/-- A tag begins with two marks. -/
theorem withoutTags_cons_of_ne {c : Char} (other : c ≠ '<') (rest : List Char) :
    withoutTags (c :: rest) = c :: withoutTags rest := by
  apply withoutTags_cons
  unfold afterTag?
  split
  · rename_i same
    exact (other (List.cons.inj same).1).elim
  · rfl

/-- One mark and another character begin no tag. -/
theorem withoutTags_cons_cons_of_ne {c : Char} (other : c ≠ '<') (rest : List Char) :
    withoutTags ('<' :: c :: rest) = '<' :: c :: withoutTags rest := by
  rw [withoutTags_cons, withoutTags_cons_of_ne other]
  unfold afterTag?
  split
  · rename_i same
    exact (other (List.cons.inj (List.cons.inj same).2).1).elim
  · rfl

/-- What has no mark at which a tag could begin is kept. -/
theorem withoutTags_append {text : List Char} (free : '<' ∉ text) (rest : List Char) :
    withoutTags (text ++ rest) = text ++ withoutTags rest := by
  induction text with
  | nil => rfl
  | cons c text ih =>
      rw [List.mem_cons, not_or] at free
      rw [List.cons_append, withoutTags_cons_of_ne (Ne.symm free.1), ih free.2, List.cons_append]

/-- A single mark begins no tag. -/
theorem withoutTags_mark {text : List Char} (free : '<' ∉ text) {mark : Char} (other : mark ≠ '<')
    (rest : List Char) :
    withoutTags ('<' :: (text ++ mark :: rest)) = '<' :: (text ++ mark :: withoutTags rest) := by
  cases text with
  | nil => exact withoutTags_cons_cons_of_ne other rest
  | cons c text =>
      rw [List.mem_cons, not_or] at free
      rw [List.cons_append, withoutTags_cons_cons_of_ne (Ne.symm free.1),
        withoutTags_append free.2, withoutTags_cons_of_ne other, List.cons_append]

/-- The closing marks of a tag are found behind its name. -/
theorem dropWhile_append_close {name : List Char} (free : '>' ∉ name) (rest : List Char) :
    (name ++ '>' :: rest).dropWhile (· != '>') = '>' :: rest := by
  rw [List.dropWhile_append_of_pos]
  · rfl
  · intro c member
    exact bne_iff_ne.mpr fun same => free (same ▸ member)

variable {name : String}

/-- A tag is taken out. -/
theorem withoutTags_tag (free : IsPlain name) (rest : List Char) :
    withoutTags ('<' :: '<' :: (name.toList ++ '>' :: '>' :: ';' :: rest)) = withoutTags rest := by
  have noClose : '>' ∉ name.toList := fun member => free '>' member (by decide)
  apply withoutTags_of_afterTag?
  simp only [afterTag?, dropWhile_append_close noClose]

/-- The name of an interface is no tag where no semicolon follows. -/
theorem withoutTags_interface (free : IsPlain name) {mark : Char} (other : mark ≠ ';')
    (rest : List Char) :
    withoutTags ('<' :: '<' :: (name.toList ++ '>' :: '>' :: mark :: rest)) =
      '<' :: '<' :: (name.toList ++ '>' :: '>' :: withoutTags (mark :: rest)) := by
  have noOpen : '<' ∉ name.toList := fun member => free '<' member (by decide)
  have noClose : '>' ∉ name.toList := fun member => free '>' member (by decide)
  rw [withoutTags_cons, withoutTags_mark noOpen (by decide), withoutTags_cons_of_ne (by decide)]
  unfold afterTag?
  simp only [dropWhile_append_close noClose]
  split
  · rename_i same
    simp only [List.cons.injEq, true_and] at same
    exact (other same.1).elim
  · rfl

end Tags

/-- A label without its tags. -/
def Label.untagged : Label → Label
  | interface name => interface name
  | plain _ name => plain [] name

/-- An entry without the tags of its labels. -/
def Drawn.untagged : Drawn → Drawn
  | node label => node label.untagged
  | link source connector target => link source.untagged connector target.untagged

/-- The tags of a label in brackets are taken out of a text. -/
theorem Label.withoutTags_text {label : Label} (free : label.IsPlain) (rest : List Char) :
    withoutTags (label.text.toList ++ ']' :: rest) =
      label.untagged.text.toList ++ ']' :: withoutTags rest := by
  have closing : withoutTags (']' :: rest) = ']' :: withoutTags rest :=
    withoutTags_cons_of_ne (by decide) rest
  cases label with
  | interface name =>
      simp only [untagged, toList_text_interface, List.cons_append, List.append_assoc,
        List.nil_append]
      rw [withoutTags_interface free (by decide), closing]
  | plain tags name =>
      obtain ⟨tagsFree, nameFree⟩ := free
      rw [untagged, toList_text_plain_nil]
      induction tags with
      | nil =>
          have noMark : '<' ∉ name.toList := fun member => nameFree '<' member (by decide)
          rw [toList_text_plain_nil, withoutTags_append noMark, closing]
      | cons tag tags ih =>
          rw [toList_text_plain_cons]
          simp only [List.cons_append, List.append_assoc]
          rw [withoutTags_tag (tagsFree tag List.mem_cons_self)]
          exact ih fun other member => tagsFree other (List.mem_cons_of_mem _ member)

/-- What connects two labels is no part of a tag. -/
theorem Edge.withoutTags_connector (edge : Edge) (rest : List Char) :
    withoutTags (edge.connector.toList ++ '[' :: rest) =
      edge.connector.toList ++ '[' :: withoutTags rest := by
  rw [connector_eq_connectorOf]
  cases edge.isBidirectional <;> cases edge.firstMultiplicity <;> cases edge.secondMultiplicity <;>
    simp [connectorOf, Edge.connector, Edge.hasMany, Edge.isBidirectional, Multiplicity.isMany,
      Multiplicity.display, withoutTags_cons_of_ne, withoutTags_cons_cons_of_ne]

/-- The tags of an entry are taken out of its text. -/
theorem Drawn.withoutTags_text {drawn : Drawn} (free : drawn.IsPlain)
    (kept : ∀ source connector target rest, drawn = link source connector target →
      withoutTags (connector.toList ++ '[' :: rest) = connector.toList ++ '[' :: withoutTags rest) :
    withoutTags drawn.text.toList = drawn.untagged.text.toList := by
  have ending : withoutTags [] = [] := by rw [withoutTags]
  cases drawn with
  | node label =>
      rw [untagged, toList_text_node, toList_text_node, withoutTags_cons_of_ne (by decide),
        Label.withoutTags_text free, ending]
  | link source connector target =>
      obtain ⟨sourceFree, -, -, targetFree⟩ := free
      rw [untagged, toList_text_link, toList_text_link, withoutTags_cons_of_ne (by decide),
        Label.withoutTags_text sourceFree, kept _ _ _ _ rfl, Label.withoutTags_text targetFree,
        ending]

section Modes

variable {catalog : Catalog} {hidden : Bool} {descriptor : Descriptor}

variable (catalog hidden) in
/-- The label of a name has tags in one way of drawing and none in the other. -/
theorem untagged_labelOf (name : String) :
    (labelOf catalog ⟨.inline, hidden⟩ name).untagged =
      labelOf catalog ⟨.explicit, hidden⟩ name := by
  unfold labelOf
  cases catalog.get? name with
  | none => rfl
  | some descriptor => cases interface : descriptor.isInterface <;> simp [Label.untagged,
      inlineTags, Config.isExplicit, interface]

variable (catalog hidden) in
/-- Without its tags an entry looks as where interfaces have nodes. -/
theorem Entry.untagged_drawn (entry : Entry) :
    (entry.drawn catalog ⟨.inline, hidden⟩).untagged = entry.drawn catalog ⟨.explicit, hidden⟩ := by
  rcases entry with ⟨name, _ | _⟩ | edge | edge | edge <;>
    simp only [drawn, Drawn.untagged, untagged_labelOf] <;> rfl

/-- Without its tags an entry is written as where interfaces have nodes. -/
theorem Entry.withoutTags_text (free : catalog.IsPlain) {entry : Entry}
    (fits : entry.Fits catalog) :
    withoutTags (entry.text catalog ⟨.inline, hidden⟩).toList =
      (entry.text catalog ⟨.explicit, hidden⟩).toList := by
  rw [← text_drawn, ← text_drawn, ← untagged_drawn]
  apply Drawn.withoutTags_text (isPlain_drawn _ free fits)
  intro source connector target rest same
  cases entry with
  | node name kind => cases kind <;> cases same
  | implementation edge =>
      cases same
      exact withoutTags_append (by decide) _ |>.trans
        (congrArg _ (withoutTags_cons_of_ne (by decide) _))
  | inheritance edge =>
      cases same
      exact withoutTags_append (by decide) _ |>.trans
        (congrArg _ (withoutTags_cons_of_ne (by decide) _))
  | association edge =>
      cases same
      exact edge.withoutTags_connector rest

/-- Whether an entry is the node of an interface or a dashed edge. -/
def Entry.isOfInterface : Entry → Bool
  | node _ kind => kind == .interfaceKind
  | implementation _ => true
  | inheritance _ => false
  | association _ => false

variable (catalog hidden descriptor) in
/-- What a type contributes is the same apart from nodes of interfaces and dashed edges. -/
theorem filter_outlineOf_explicit :
    (outlineOf catalog ⟨.explicit, hidden⟩ descriptor).filter (!·.isOfInterface) =
      outlineOf catalog ⟨.inline, hidden⟩ descriptor := by
  unfold outlineOf
  cases descriptor.kind with
  | interfaceKind => rfl
  | classKind =>
      simp only [List.filter_append]
      congr 1
      · congr 1
        · congr 1
          apply List.filter_eq_nil_iff.mpr
          intro entry member
          obtain ⟨interface, -, rfl⟩ := List.mem_map.mp member
          exact Bool.false_ne_true
        · cases descriptor.base with
          | none => rfl
          | some base => cases known : catalog.contains base <;> simp [known, Entry.isOfInterface]
      · -- Which pairs a type owns depends on the members that are scanned only.
        apply List.filter_eq_self.mpr
        intro entry member
        obtain ⟨target, -, rfl⟩ := List.mem_map.mp member
        rfl

variable (catalog hidden) in
/-- Apart from nodes of interfaces and dashed edges both ways of drawing have the same outline. -/
theorem filter_outline_explicit :
    (outline catalog ⟨.explicit, hidden⟩).filter (!·.isOfInterface) =
      outline catalog ⟨.inline, hidden⟩ := by
  unfold outline
  rw [List.filter_flatMap]
  exact List.flatMap_congr fun descriptor _ => filter_outlineOf_explicit catalog hidden descriptor

end Modes

/-- The interfaces from which dashed edges lead to a class, in the order of these edges. -/
def Diagram.interfacesOf (diagram : Diagram) (name : String) : List String :=
  ((diagram.entries.filterMap Entry.interfaceEdge?).filter (·.implementor == name)).map
    InterfaceEdge.interface

/-- Two diagrams show the same, one with tags where the other has nodes and dashed edges. -/
structure Diagram.ShowsTagged (tagged other : Diagram) : Prop where
  /-- One diagram has the entries of the other, but for nodes of interfaces and dashed edges. -/
  entries : tagged.entries = other.entries.filter (!·.isOfInterface)
  /-- These entries are written alike, apart from tags. -/
  texts : tagged.texts.map (fun text => withoutTags text.toList) =
    (other.entries.filter (!·.isOfInterface)).map fun entry =>
      (entry.text other.catalog other.config).toList
  /-- Wherever a class stands, its tags are those from which its dashed edges come. -/
  tags : ∀ entry ∈ tagged.entries, ∀ label ∈ (entry.drawn tagged.catalog tagged.config).labels,
    ∀ descriptor, tagged.catalog.get? label.name = some descriptor →
      descriptor.kind = .classKind → label.tags = other.interfacesOf label.name

section Tagging

variable {catalog : Catalog} {config : Config} {hidden : Bool} {descriptor : Descriptor}

/-- Of what several owners contribute one owner has its own contribution. -/
theorem filter_flatMap_eq {α β : Type} {owners : List β} {parts : β → List α} {name : β → String}
    {owner : α → String} (distinct : (owners.map name).Nodup)
    (owned : ∀ each ∈ owners, ∀ part ∈ parts each, owner part = name each) {chosen : β}
    (member : chosen ∈ owners) :
    (owners.flatMap parts).filter (owner · == name chosen) = parts chosen := by
  rw [List.filter_flatMap]
  obtain ⟨before, after, rfl⟩ := List.append_of_mem member
  have apart : ∀ each ∈ before ++ after, (parts each).filter (owner · == name chosen) = [] := by
    intro each other
    apply List.filter_eq_nil_iff.mpr
    intro part inside same
    rw [List.map_append, List.map_cons, List.nodup_middle, List.nodup_cons,
      ← List.map_append] at distinct
    have listed : each ∈ before ++ chosen :: after := by
      rw [List.mem_append, List.mem_cons]
      exact (List.mem_append.mp other).imp_right Or.inr
    apply distinct.1
    rw [← beq_iff_eq.mp same, owned each listed part inside]
    exact List.mem_map_of_mem other
  have own : (parts chosen).filter (owner · == name chosen) = parts chosen :=
    List.filter_eq_self.mpr fun part inside => beq_iff_eq.mpr (owned chosen member part inside)
  rw [List.flatMap_append, List.flatMap_cons, own,
    List.flatMap_eq_nil_iff.mpr fun each other => apart each (List.mem_append_left _ other),
    List.flatMap_eq_nil_iff.mpr fun each other => apart each (List.mem_append_right _ other),
    List.nil_append, List.append_nil]

/-- The dashed edges of a class come from the interfaces that it implements. -/
theorem Diagram.interfacesOf_eq {diagram : Diagram}
    (made : Diagram.ofCatalog catalog ⟨.explicit, hidden⟩ = .ok diagram)
    (member : descriptor ∈ catalog.types) (isClass : descriptor.kind = .classKind) :
    diagram.interfacesOf descriptor.name = catalog.implementedInterfaces descriptor := by
  obtain ⟨index, -, same⟩ := exists_ofCatalog catalog ⟨.explicit, hidden⟩
  cases made.symm.trans same
  let edgesOf (descriptor : Descriptor) : List InterfaceEdge :=
    (Relations.ofType catalog ⟨.explicit, hidden⟩ descriptor).interfaceEdges
  have owned : ∀ each ∈ catalog.types, ∀ edge ∈ edgesOf each, edge.implementor = each.name :=
    fun _ _ _ => Relations.implementor_of_mem
  have edges : edgesOf descriptor =
      (catalog.implementedInterfaces descriptor).map (⟨·, descriptor.name⟩) := by
    simp only [edgesOf, Relations.ofType, isClass]
    rfl
  rw [Diagram.interfacesOf, ← Diagram.interfaceEdges_eq, Diagram.interfaceEdges,
    Relations.ofCatalog, List.flatMap_map, filter_flatMap_eq catalog.names_nodup owned member,
    edges, List.map_map]
  exact List.map_id _

/-- Every label stands for a name where no dashed edges are drawn. -/
theorem exists_labelOf_of_mem_outline (inline : config.isExplicit = false) {entry : Entry}
    (member : entry ∈ outline catalog config) {label : Label}
    (inside : label ∈ (entry.drawn catalog config).labels) :
    ∃ name, label = labelOf catalog config name := by
  have ofEnds (isEnd : label ∈ (entry.drawn catalog config).ends) :
      ∃ name, label = labelOf catalog config name := by
    rcases ends_of_mem_outline member isEnd with ⟨name, -, same⟩ | ⟨explicit, -⟩
    · exact ⟨name, same⟩
    · exact absurd (inline.symm.trans explicit) Bool.false_ne_true
  cases entry with
  | node name kind =>
      obtain ⟨descriptor, found, rfl⟩ := fits_of_mem_outline member
      cases kind : descriptor.kind with
      | classKind =>
          rw [kind] at inside
          exact ⟨name, List.mem_singleton.mp inside⟩
      | interfaceKind =>
          rw [kind] at inside
          refine ⟨name, (List.mem_singleton.mp inside).trans ?_⟩
          exact (labelOf_of_isInterface (Catalog.isInterface_iff.mpr ⟨_, found, kind⟩)).symm
  | implementation edge => exact ofEnds inside
  | inheritance edge => exact ofEnds inside
  | association edge => exact ofEnds inside

/-- Where names are free of marks, the text of a diagram has all of its entries. -/
theorem Diagram.generateCatalog_eq {diagram : Diagram} (free : catalog.IsPlain)
    (made : Diagram.ofCatalog catalog config = .ok diagram) :
    generateCatalog config catalog = .ok (",".intercalate diagram.texts) ∧
      diagram.texts.Nodup := by
  obtain ⟨rfl, rfl, entries, -⟩ := made_eq made
  rw [texts, entries]
  exact ⟨generateCatalog_eq_outline free, nodup_map_text_outline free⟩

/-- The diagrams of one catalog show the same. -/
theorem Diagram.showsTagged_of_made {tagged other : Diagram} (free : catalog.IsPlain)
    (taggedMade : Diagram.ofCatalog catalog ⟨.inline, hidden⟩ = .ok tagged)
    (otherMade : Diagram.ofCatalog catalog ⟨.explicit, hidden⟩ = .ok other) :
    tagged.ShowsTagged other := by
  obtain ⟨taggedCatalog, taggedConfig, taggedEntries, -⟩ := made_eq taggedMade
  obtain ⟨otherCatalog, otherConfig, otherEntries, -⟩ := made_eq otherMade
  have entries : tagged.entries = other.entries.filter (!·.isOfInterface) := by
    rw [taggedEntries, otherEntries, filter_outline_explicit]
  constructor
  case entries => exact entries
  case texts =>
    rw [texts, ← entries, taggedCatalog, taggedConfig, otherCatalog, otherConfig, List.map_map]
    apply List.map_congr_left
    intro entry member
    exact Entry.withoutTags_text free (fits_of_mem_outline (taggedEntries ▸ member))
  case tags =>
    rw [taggedEntries, taggedCatalog, taggedConfig]
    intro entry member label inside descriptor found isClass
    obtain ⟨name, rfl⟩ := exists_labelOf_of_mem_outline rfl member inside
    rw [name_labelOf] at found ⊢
    obtain ⟨known, rfl⟩ := Catalog.get?_eq_some.mp found
    rw [interfacesOf_eq otherMade known isClass, labelOf_eq_plain _ found isClass]
    rfl

end Tagging

/-- **Tags and dashed edges show the same.** Where the names of types are dotted identifiers, a
diagram with tags has the entries of the diagram in which interfaces have nodes, in the same order
and apart from tags with the same texts, but for these nodes and the dashed edges; and the tags of a
class are where its dashed edges come from. -/
theorem exists_showsTagged (hidden : Bool) {types : List Descriptor}
    (dotted : ∀ descriptor ∈ types, Declaration.IsDotted descriptor.name) :
    ∃ tagged other,
      Diagram.ofCatalog (Catalog.ofList types) ⟨.inline, hidden⟩ = .ok tagged ∧
      Diagram.ofCatalog (Catalog.ofList types) ⟨.explicit, hidden⟩ = .ok other ∧
      generate ⟨.inline, hidden⟩ types = .ok (",".intercalate tagged.texts) ∧
      generate ⟨.explicit, hidden⟩ types = .ok (",".intercalate other.texts) ∧
      tagged.texts.Nodup ∧ other.texts.Nodup ∧ tagged.ShowsTagged other := by
  have free := Catalog.isPlain_ofList dotted
  obtain ⟨_, -, taggedMade⟩ := exists_ofCatalog (Catalog.ofList types) ⟨.inline, hidden⟩
  obtain ⟨_, -, otherMade⟩ := exists_ofCatalog (Catalog.ofList types) ⟨.explicit, hidden⟩
  obtain ⟨taggedText, taggedDistinct⟩ := Diagram.generateCatalog_eq free taggedMade
  obtain ⟨otherText, otherDistinct⟩ := Diagram.generateCatalog_eq free otherMade
  exact ⟨_, _, taggedMade, otherMade, taggedText, otherText, taggedDistinct, otherDistinct,
    Diagram.showsTagged_of_made free taggedMade otherMade⟩

/-- A key that implements two interfaces, one of which is the base of its lock. -/
theorem exists_showsTagged_key_and_lock :
    ∃ tagged other : Diagram,
      tagged.texts = ["[<<IShiny>>;<<INotch>>;Key]", "[Lock]", "[<<IShiny>>]^-[Lock]",
        "[Lock]->[<<IShiny>>;<<INotch>>;Key]"] ∧
      other.texts = ["[Key]", "[<<IShiny>>]^-.-[Key]", "[<<INotch>>]^-.-[Key]", "[<<IShiny>>]",
        "[<<INotch>>]", "[Lock]", "[<<IShiny>>]^-[Lock]", "[Lock]->[Key]"] ∧
      tagged.ShowsTagged other := by
  have key : Declaration.IsDotted "Key" := ⟨[['K', 'e', 'y']], by decide, by decide, by decide⟩
  have lock : Declaration.IsDotted "Lock" :=
    ⟨[['L', 'o', 'c', 'k']], by decide, by decide, by decide⟩
  have shiny : Declaration.IsDotted "IShiny" :=
    ⟨[['I', 'S', 'h', 'i', 'n', 'y']], by decide, by decide, by decide⟩
  have notch : Declaration.IsDotted "INotch" :=
    ⟨[['I', 'N', 'o', 't', 'c', 'h']], by decide, by decide, by decide⟩
  obtain ⟨tagged, other, taggedMade, otherMade, -, -, -, -, shows⟩ :=
    @exists_showsTagged false [
      ⟨"Key", .classKind, none, ["IShiny", "Outside", "INotch", "IShiny"], []⟩,
      ⟨"IShiny", .interfaceKind, none, ["INotch"], []⟩,
      ⟨"INotch", .interfaceKind, none, [], []⟩,
      ⟨"Lock", .classKind, some "IShiny", [], [⟨"key", .visible, .single "Key"⟩]⟩]
      (by simp [key, lock, shiny, notch])
  refine ⟨tagged, other, ?_, ?_, shows⟩
  · cases taggedMade
    rfl
  · cases otherMade
    rfl

end ClassDiagram
