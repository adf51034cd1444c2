import ClassDiagram.Diagram
import ClassDiagram.Proofs.CatalogNames
import ClassDiagram.Proofs.DottedName
import Mathlib.Data.List.Basic

/-! # Reading a diagram back

Where names are free of the marks of a diagram, its text can be read in one way only: the commas
separate the entries, the brackets separate the labels from what connects them, and a label tells
its tags from its name (`ClassDiagram.Label.text_injective`, `ClassDiagram.Drawn.text_injective`,
`ClassDiagram.intercalate_comma_injective`).  What an entry looks like is a `Drawn`, which is an
entry whose names are replaced by the labels that stand for them.
-/

namespace ClassDiagram

/-- The marks that separate the parts of a diagram. -/
def marks : List Char := ['[', ']', '<', '>', ',', ';']

/-- A name without the marks of a diagram. -/
def IsPlain (name : String) : Prop :=
  ∀ c ∈ name.toList, c ∉ marks

/-- A dotted identifier contains no mark of a diagram. -/
theorem IsPlain.of_isDotted {name : String} (dotted : Declaration.IsDotted name) :
    IsPlain name := by
  have among : marks ⊆ Declaration.punctuation := by decide
  exact fun c member mark => dotted.not_mem_punctuation c member (among mark)

/-- A mark that occurs in neither of two texts separates them from what follows. -/
theorem append_mark_injective {mark : Char} {left right leftRest rightRest : List Char}
    (leftFree : mark ∉ left) (rightFree : mark ∉ right)
    (same : left ++ mark :: leftRest = right ++ mark :: rightRest) :
    left = right ∧ leftRest = rightRest := by
  induction left generalizing right with
  | nil =>
      cases right with
      | nil => exact ⟨rfl, (List.cons.inj same).2⟩
      | cons first more =>
          exact (rightFree ((List.cons.inj same).1 ▸ List.mem_cons_self)).elim
  | cons first rest ih =>
      cases right with
      | nil => exact (leftFree ((List.cons.inj same).1 ▸ List.mem_cons_self)).elim
      | cons other more =>
          obtain ⟨rfl, tails⟩ := List.cons.inj same
          obtain ⟨rfl, rests⟩ := ih (fun member => leftFree (List.mem_cons_of_mem _ member))
            (fun member => rightFree (List.mem_cons_of_mem _ member)) tails
          exact ⟨rfl, rests⟩

/-- What stands in a pair of brackets. -/
inductive Label where
  /-- The name of an interface. -/
  | interface (name : String)
  /-- The name of anything else, with the interfaces that are shown as its tags. -/
  | plain (tags : List String) (name : String)
deriving DecidableEq, Repr

namespace Label

/-- The text of a label. -/
def text : Label → String
  | interface name => interfaceTag name
  | plain tags name => String.join (tags.map (interfaceTag · ++ ";")) ++ name

/-- The names in a label are free of marks. -/
def IsPlain : Label → Prop
  | interface name => ClassDiagram.IsPlain name
  | plain tags name => (∀ tag ∈ tags, ClassDiagram.IsPlain tag) ∧ ClassDiagram.IsPlain name

/-- An interface stands in double angles. -/
theorem toList_text_interface (name : String) :
    (interface name).text.toList = '<' :: '<' :: (name.toList ++ ['>', '>']) := by
  simp [text, interfaceTag]

theorem toList_text_plain_nil (name : String) : (plain [] name).text.toList = name.toList := by
  simp [text]

/-- A tag stands in double angles in front of what follows it. -/
theorem toList_text_plain_cons (tag : String) (tags : List String) (name : String) :
    (plain (tag :: tags) name).text.toList =
      '<' :: '<' :: (tag.toList ++ '>' :: '>' :: ';' :: (plain tags name).text.toList) := by
  simp [text, interfaceTag]

/-- A name without marks does not begin like a tag. -/
theorem toList_ne_of_isPlain {name : String} (free : ClassDiagram.IsPlain name)
    (rest : List Char) : name.toList ≠ '<' :: rest := by
  intro same
  exact free '<' (same ▸ List.mem_cons_self) (by decide)

/-- The name in a tag is what stands in front of the first closing mark. -/
theorem tagged_injective {left right : String} {leftRest rightRest : List Char}
    (leftFree : ClassDiagram.IsPlain left) (rightFree : ClassDiagram.IsPlain right)
    (same : '<' :: '<' :: (left.toList ++ '>' :: leftRest) =
      '<' :: '<' :: (right.toList ++ '>' :: rightRest)) :
    left = right ∧ leftRest = rightRest := by
  obtain ⟨names, rests⟩ := append_mark_injective
    (fun member => leftFree '>' member (by decide)) (fun member => rightFree '>' member (by decide))
    (List.cons.inj (List.cons.inj same).2).2
  exact ⟨String.toList_inj.mp names, rests⟩

/-- The tags and the name can be told from the text, tag by tag. -/
theorem plain_injective {leftTags rightTags : List String} {leftName rightName : String}
    (leftFree : (plain leftTags leftName).IsPlain) (rightFree : (plain rightTags rightName).IsPlain)
    (same : (plain leftTags leftName).text.toList = (plain rightTags rightName).text.toList) :
    leftTags = rightTags ∧ leftName = rightName := by
  induction leftTags generalizing rightTags with
  | nil =>
      cases rightTags with
      | nil =>
          rw [toList_text_plain_nil, toList_text_plain_nil] at same
          exact ⟨rfl, String.toList_inj.mp same⟩
      | cons tag tags =>
          rw [toList_text_plain_nil, toList_text_plain_cons] at same
          exact (toList_ne_of_isPlain leftFree.2 _ same).elim
  | cons leftTag leftMore ih =>
      cases rightTags with
      | nil =>
          rw [toList_text_plain_nil, toList_text_plain_cons] at same
          exact (toList_ne_of_isPlain rightFree.2 _ same.symm).elim
      | cons rightTag rightMore =>
          rw [toList_text_plain_cons, toList_text_plain_cons] at same
          obtain ⟨rfl, rests⟩ := tagged_injective (leftFree.1 leftTag List.mem_cons_self)
            (rightFree.1 rightTag List.mem_cons_self) same
          obtain ⟨rfl, names⟩ := ih
            ⟨fun tag later => leftFree.1 tag (List.mem_cons_of_mem _ later), leftFree.2⟩
            ⟨fun tag later => rightFree.1 tag (List.mem_cons_of_mem _ later), rightFree.2⟩
            (List.cons.inj (List.cons.inj rests).2).2
          exact ⟨rfl, names⟩

/-- The text of an interface is no text of anything else. -/
theorem toList_text_interface_ne {name other : String} {tags : List String}
    (free : ClassDiagram.IsPlain name) (otherFree : (plain tags other).IsPlain) :
    (interface name).text.toList ≠ (plain tags other).text.toList := by
  intro same
  cases tags with
  | nil =>
      rw [toList_text_interface, toList_text_plain_nil] at same
      exact toList_ne_of_isPlain otherFree.2 _ same.symm
  | cons tag tags =>
      rw [toList_text_interface, toList_text_plain_cons] at same
      obtain ⟨-, rests⟩ := tagged_injective free (otherFree.1 tag List.mem_cons_self) same
      cases rests

/-- A label whose names are free of marks can be read in one way only. -/
theorem text_injective {left right : Label} (leftFree : left.IsPlain) (rightFree : right.IsPlain)
    (same : left.text = right.text) : left = right := by
  rw [← String.toList_inj] at same
  cases left with
  | interface leftName =>
      cases right with
      | interface rightName =>
          rw [toList_text_interface, toList_text_interface] at same
          rw [(tagged_injective leftFree rightFree same).1]
      | plain tags rightName => exact (toList_text_interface_ne leftFree rightFree same).elim
  | plain leftTags leftName =>
      cases right with
      | interface rightName => exact (toList_text_interface_ne rightFree leftFree same.symm).elim
      | plain rightTags rightName =>
          obtain ⟨tags, names⟩ := plain_injective leftFree rightFree same
          rw [tags, names]

/-- Neither a bracket nor a comma stands in a label whose names are free of marks. -/
theorem not_mem_text {label : Label} (free : label.IsPlain) :
    ∀ mark ∈ ['[', ']', ','], mark ∉ label.text.toList := by
  have amongMarks : ['[', ']', ','] ⊆ marks := by decide
  intro mark outside
  have noTag : mark ≠ '<' ∧ mark ≠ '>' ∧ mark ≠ ';' := by
    simp only [List.mem_cons, List.not_mem_nil, or_false] at outside
    rcases outside with rfl | rfl | rfl <;> decide
  obtain ⟨notOpen, notClose, notSemicolon⟩ := noTag
  cases label with
  | interface name =>
      have inName : mark ∉ name.toList := fun member =>
        free mark member (amongMarks outside)
      rw [toList_text_interface]
      simp [notOpen, notClose, inName]
  | plain tags name =>
      induction tags with
      | nil =>
          rw [toList_text_plain_nil]
          exact fun member => free.2 mark member (amongMarks outside)
      | cons tag tags ih =>
          rw [toList_text_plain_cons]
          have later := ih ⟨fun tag later => free.1 tag (List.mem_cons_of_mem _ later), free.2⟩
          have inTag : mark ∉ tag.toList := fun member =>
            free.1 tag List.mem_cons_self mark member (amongMarks outside)
          simp [notOpen, notClose, notSemicolon, later, inTag]

end Label

/-- An entry with the labels that stand for its names. -/
inductive Drawn where
  /-- A node. -/
  | node (label : Label)
  /-- Anything that connects two labels. -/
  | link (source : Label) (connector : String) (target : Label)
deriving DecidableEq, Repr

namespace Drawn

/-- The text of an entry. -/
def text : Drawn → String
  | node label => bracketed label.text
  | link source connector target =>
    bracketed source.text ++ connector ++ bracketed target.text

/-- The names in an entry are free of marks, and what connects them is free of those that separate
it from its ends and from other entries. -/
def IsPlain : Drawn → Prop
  | node label => label.IsPlain
  | link source connector target =>
    source.IsPlain ∧ '[' ∉ connector.toList ∧ ',' ∉ connector.toList ∧ target.IsPlain

/-- A node is a label in brackets. -/
theorem toList_text_node (label : Label) :
    (node label).text.toList = '[' :: (label.text.toList ++ ']' :: []) := by
  simp [text, bracketed]

/-- A link is two labels in brackets with the connector between them. -/
theorem toList_text_link (source : Label) (connector : String) (target : Label) :
    (link source connector target).text.toList = '[' :: (source.text.toList ++ ']' ::
      (connector.toList ++ '[' :: (target.text.toList ++ ']' :: []))) := by
  simp [text, bracketed]

/-- An entry whose names are free of marks can be read in one way only. -/
theorem text_injective {left right : Drawn} (leftFree : left.IsPlain) (rightFree : right.IsPlain)
    (same : left.text = right.text) : left = right := by
  have bracket {label : Label} (free : label.IsPlain) : ']' ∉ label.text.toList :=
    Label.not_mem_text free ']' (by decide)
  rw [← String.toList_inj] at same
  cases left with
  | node leftLabel =>
      cases right with
      | node rightLabel =>
          rw [toList_text_node, toList_text_node] at same
          obtain ⟨labels, -⟩ := append_mark_injective (bracket leftFree) (bracket rightFree)
            (List.cons.inj same).2
          rw [Label.text_injective leftFree rightFree (String.toList_inj.mp labels)]
      | link source connector target =>
          rw [toList_text_node, toList_text_link] at same
          obtain ⟨-, rests⟩ := append_mark_injective (bracket leftFree) (bracket rightFree.1)
            (List.cons.inj same).2
          simp at rests
  | link leftSource leftConnector leftTarget =>
      cases right with
      | node label =>
          rw [toList_text_link, toList_text_node] at same
          obtain ⟨-, rests⟩ := append_mark_injective (bracket leftFree.1) (bracket rightFree)
            (List.cons.inj same).2
          simp at rests
      | link rightSource rightConnector rightTarget =>
          obtain ⟨leftSourceFree, leftOpen, -, leftTargetFree⟩ := leftFree
          obtain ⟨rightSourceFree, rightOpen, -, rightTargetFree⟩ := rightFree
          rw [toList_text_link, toList_text_link] at same
          obtain ⟨sources, rests⟩ := append_mark_injective (bracket leftSourceFree)
            (bracket rightSourceFree) (List.cons.inj same).2
          obtain ⟨connectors, ends⟩ := append_mark_injective leftOpen rightOpen rests
          obtain ⟨targets, -⟩ := append_mark_injective (bracket leftTargetFree)
            (bracket rightTargetFree) ends
          rw [Label.text_injective leftSourceFree rightSourceFree (String.toList_inj.mp sources),
            Label.text_injective leftTargetFree rightTargetFree (String.toList_inj.mp targets),
            String.toList_inj.mp connectors]

/-- No comma stands in an entry whose names are free of marks. -/
theorem comma_not_mem_text {drawn : Drawn} (free : drawn.IsPlain) : ',' ∉ drawn.text.toList := by
  cases drawn with
  | node label =>
      rw [toList_text_node]
      simp [Label.not_mem_text free ',' (by decide)]
  | link source connector target =>
      obtain ⟨sourceFree, -, noComma, targetFree⟩ := free
      rw [toList_text_link]
      simp [Label.not_mem_text sourceFree ',' (by decide), noComma,
        Label.not_mem_text targetFree ',' (by decide)]

theorem text_ne_empty (drawn : Drawn) : drawn.text ≠ "" := by
  intro empty
  have letters : drawn.text.toList = [] := by rw [empty]; rfl
  cases drawn with
  | node label =>
      rw [toList_text_node] at letters
      cases letters
  | link source connector target =>
      rw [toList_text_link] at letters
      cases letters

end Drawn

/-- Entries without commas can be told apart after they were joined by commas. -/
theorem intercalate_comma_injective {left right : List String}
    (leftFree : ∀ entry ∈ left, ',' ∉ entry.toList)
    (rightFree : ∀ entry ∈ right, ',' ∉ entry.toList)
    (leftFilled : "" ∉ left) (rightFilled : "" ∉ right)
    (same : ",".intercalate left = ",".intercalate right) : left = right := by
  have split {entries : List String} (free : ∀ entry ∈ entries, ',' ∉ entry.toList)
      (filled : "" ∉ entries) :
      (((",".intercalate entries).toList.splitOn ',').map String.ofList).filter (· ≠ "") =
        entries := by
    by_cases empty : entries = []
    · subst empty
      simp
    · have pieces : ([','].intercalate (entries.map String.toList)).splitOn ',' =
          entries.map String.toList := by
        apply List.splitOn_intercalate
        · intro piece member
          obtain ⟨entry, inside, rfl⟩ := List.mem_map.mp member
          exact free entry inside
        · simpa using empty
      rw [String.toList_intercalate]
      change List.filter _ (List.map _ (([','].intercalate _).splitOn ',')) = _
      rw [pieces, List.map_map]
      have same : String.ofList ∘ String.toList = id := by
        funext entry
        simp
      rw [same, List.map_id, List.filter_eq_self]
      intro entry member
      apply decide_eq_true
      rintro rfl
      exact filled member
  rw [← split leftFree leftFilled, same, split rightFree rightFilled]

namespace Edge

/-- What connects the ends of an association that can be followed from its first end. -/
def connectorOf (both : Bool) (first second : Multiplicity) : String :=
  (mk "" "" true both first second).connector

theorem connector_eq_connectorOf (edge : Edge) :
    edge.connector =
      connectorOf edge.isBidirectional edge.firstMultiplicity edge.secondMultiplicity := rfl

/-- The eight connectors are all different. -/
theorem connectorOf_injective (left right : Bool)
    (leftFirst rightFirst leftSecond rightSecond : Multiplicity) :
    connectorOf left leftFirst leftSecond = connectorOf right rightFirst rightSecond →
      left = right ∧ leftFirst = rightFirst ∧ leftSecond = rightSecond := by
  cases left <;> cases right <;> cases leftFirst <;> cases rightFirst <;>
    cases leftSecond <;> cases rightSecond <;> decide

/-- What connects the ends of an association tells all that was observed of it. -/
theorem eq_of_connector_eq {left right : Edge} (leftRuns : left.firstToSecond = true)
    (rightRuns : right.firstToSecond = true) (first : left.first = right.first)
    (second : left.second = right.second) (same : left.connector = right.connector) :
    left = right := by
  rw [connector_eq_connectorOf, connector_eq_connectorOf] at same
  obtain ⟨both, firsts, seconds⟩ := connectorOf_injective _ _ _ _ _ _ same
  cases left
  cases right
  simp only [isBidirectional] at leftRuns rightRuns first second both firsts seconds
  subst leftRuns rightRuns first second firsts seconds
  rw [Bool.true_and, Bool.true_and] at both
  rw [both]

/-- An association is connected in another way than a class and its base or its interface, and
without brackets and commas. -/
theorem connector_apart (edge : Edge) :
    edge.connector ≠ "^-" ∧ edge.connector ≠ "^-.-" ∧
      '[' ∉ edge.connector.toList ∧ ',' ∉ edge.connector.toList := by
  rw [connector_eq_connectorOf]
  cases edge.isBidirectional <;> cases edge.firstMultiplicity <;>
    cases edge.secondMultiplicity <;> decide

end Edge

section Drawing

variable (catalog : Catalog) (config : Config)

/-- What stands between the brackets for a name. -/
def labelOf (name : String) : Label :=
  match catalog.get? name with
  | none => .plain [] name
  | some descriptor =>
    if descriptor.isInterface then
      .interface name
    else
      .plain (inlineTags catalog config descriptor) name

/-- The text of a label is what is written for the name. -/
theorem text_labelOf (name : String) :
    (labelOf catalog config name).text = label catalog config name := by
  unfold labelOf label
  cases catalog.get? name with
  | none => simp [Label.text]
  | some descriptor => cases marked : descriptor.isInterface <;> simp [Label.text, marked]

/-- The name that a label stands for. -/
def Label.name : Label → String
  | interface name => name
  | plain _ name => name

@[simp] theorem name_labelOf (name : String) : (labelOf catalog config name).name = name := by
  unfold labelOf
  split
  · rfl
  · split <;> rfl

/-- An entry with the labels that stand for its names. -/
def Entry.drawn : Entry → Drawn
  | node name .interfaceKind => .node (.interface name)
  | node name .classKind => .node (labelOf catalog config name)
  | implementation edge =>
    .link (.interface edge.interface) "^-.-" (labelOf catalog config edge.implementor)
  | inheritance edge =>
    .link (labelOf catalog config edge.base) "^-" (labelOf catalog config edge.derived)
  | association edge =>
    .link (labelOf catalog config edge.first) edge.connector (labelOf catalog config edge.second)

/-- The text of what an entry looks like is what is written for it. -/
theorem Entry.text_drawn (entry : Entry) :
    (entry.drawn catalog config).text = entry.text catalog config := by
  rcases entry with ⟨name, _ | _⟩ | edge | edge | edge <;>
    simp only [drawn, Drawn.text, Entry.text, text_labelOf] <;> rfl

/-- Whether the names of an entry belong to the catalog, with the kind that the entry gives them,
and whether an association can be followed from its first end. -/
def Entry.Fits : Entry → Prop
  | node name kind => ∃ descriptor, catalog.get? name = some descriptor ∧ descriptor.kind = kind
  | implementation edge => catalog.contains edge.interface ∧ catalog.contains edge.implementor
  | inheritance edge => catalog.contains edge.base ∧ catalog.contains edge.derived
  | association edge =>
    catalog.contains edge.first ∧ catalog.contains edge.second ∧ edge.firstToSecond = true

/-- Whether the names of all types are free of marks. -/
def Catalog.IsPlain (catalog : Catalog) : Prop :=
  ∀ name, catalog.contains name = true → ClassDiagram.IsPlain name

/-- Dotted identifiers are free of marks. -/
theorem Catalog.isPlain_ofList {types : List Descriptor}
    (dotted : ∀ descriptor ∈ types, Declaration.IsDotted descriptor.name) :
    (ofList types).IsPlain := by
  intro name known
  obtain ⟨descriptor, member, rfl⟩ := contains_iff.mp known
  exact IsPlain.of_isDotted (dotted descriptor (mem_of_mem_ofList member))

variable {catalog}

/-- The label of a name in a catalog without marks is free of them. -/
theorem isPlain_labelOf (free : catalog.IsPlain) {name : String}
    (known : catalog.contains name = true) : (labelOf catalog config name).IsPlain := by
  unfold labelOf
  split
  · exact ⟨fun tag member => (List.not_mem_nil member).elim, free name known⟩
  · split
    · exact free name known
    · refine ⟨?_, free name known⟩
      intro tag member
      unfold inlineTags at member
      split at member
      · cases member
      · exact free tag (List.mem_filter.mp (List.mem_eraseDups.mp member)).2

/-- So is an entry whose names belong to the catalog. -/
theorem Entry.isPlain_drawn (free : catalog.IsPlain) {entry : Entry} (fits : entry.Fits catalog) :
    (entry.drawn catalog config).IsPlain := by
  rcases entry with ⟨name, _ | _⟩ | edge | edge | edge
  · obtain ⟨descriptor, found, -⟩ := fits
    exact isPlain_labelOf config free (Catalog.contains_of_get? found)
  · obtain ⟨descriptor, found, -⟩ := fits
    exact free name (Catalog.contains_of_get? found)
  · exact ⟨free _ fits.1, by decide, by decide, isPlain_labelOf config free fits.2⟩
  · exact ⟨isPlain_labelOf config free fits.1, by decide, by decide,
      isPlain_labelOf config free fits.2⟩
  · obtain ⟨-, -, noBracket, noComma⟩ := edge.connector_apart
    exact ⟨isPlain_labelOf config free fits.1, noBracket, noComma,
      isPlain_labelOf config free fits.2.1⟩

/-- The label of a class is no interface. -/
theorem labelOf_eq_plain {name : String} {descriptor : Descriptor}
    (found : catalog.get? name = some descriptor) (isClass : descriptor.kind = .classKind) :
    labelOf catalog config name = .plain (inlineTags catalog config descriptor) name := by
  have notInterface : descriptor.isInterface = false := by
    rw [Descriptor.isInterface, isClass]
    rfl
  simp [labelOf, found, notInterface]

/-- Entries that look alike are the same, even in the diagrams of two catalogs. -/
theorem Entry.eq_of_drawn_eq {other : Catalog} {config otherConfig : Config} {left right : Entry}
    (leftFits : left.Fits catalog) (rightFits : right.Fits other)
    (same : left.drawn catalog config = right.drawn other otherConfig) : left = right := by
  have named {leftName rightName : String}
      (labels : labelOf catalog config leftName = labelOf other otherConfig rightName) :
      leftName = rightName := by
    simpa using congrArg Label.name labels
  cases left with
  | node leftName leftKind =>
      obtain ⟨leftType, leftFound, rfl⟩ := leftFits
      cases right with
      | node rightName rightKind =>
          obtain ⟨rightType, rightFound, rfl⟩ := rightFits
          cases leftKind : leftType.kind with
          | interfaceKind =>
              cases rightKind : rightType.kind with
              | interfaceKind =>
                  rw [leftKind, rightKind] at same
                  cases same
                  rfl
              | classKind =>
                  rw [leftKind, rightKind] at same
                  simp [drawn, labelOf_eq_plain otherConfig rightFound rightKind] at same
          | classKind =>
              cases rightKind : rightType.kind with
              | interfaceKind =>
                  rw [leftKind, rightKind] at same
                  simp [drawn, labelOf_eq_plain config leftFound leftKind] at same
              | classKind =>
                  rw [leftKind, rightKind] at same
                  rw [named (Drawn.node.inj same)]
      | _ => cases leftKind : leftType.kind <;> rw [leftKind] at same <;> cases same
  | implementation leftEdge =>
      cases right with
      | node rightName rightKind => cases rightKind <;> cases same
      | implementation rightEdge =>
          obtain ⟨sources, -, targets⟩ := Drawn.link.inj same
          cases leftEdge
          cases rightEdge
          cases Label.interface.inj sources
          cases named targets
          rfl
      | inheritance rightEdge => exact absurd (Drawn.link.inj same).2.1 (by decide)
      | association rightEdge =>
          exact (rightEdge.connector_apart.2.1 (Drawn.link.inj same).2.1.symm).elim
  | inheritance leftEdge =>
      cases right with
      | node rightName rightKind => cases rightKind <;> cases same
      | implementation rightEdge => exact absurd (Drawn.link.inj same).2.1 (by decide)
      | inheritance rightEdge =>
          obtain ⟨sources, -, targets⟩ := Drawn.link.inj same
          cases leftEdge
          cases rightEdge
          cases named sources
          cases named targets
          rfl
      | association rightEdge =>
          exact (rightEdge.connector_apart.1 (Drawn.link.inj same).2.1.symm).elim
  | association leftEdge =>
      cases right with
      | node rightName rightKind => cases rightKind <;> cases same
      | implementation rightEdge =>
          exact (leftEdge.connector_apart.2.1 (Drawn.link.inj same).2.1).elim
      | inheritance rightEdge => exact (leftEdge.connector_apart.1 (Drawn.link.inj same).2.1).elim
      | association rightEdge =>
          obtain ⟨sources, connectors, targets⟩ := Drawn.link.inj same
          rw [Edge.eq_of_connector_eq leftFits.2.2 rightFits.2.2 (named sources) (named targets)
            connectors]

end Drawing

end ClassDiagram
