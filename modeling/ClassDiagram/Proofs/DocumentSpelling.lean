import ClassDiagram.Proofs.DocumentLayout
import Mathlib.Data.List.Nodup
import Mathlib.Logic.Relation

/-! # Spellings of a document

A document can be rewritten without a change of what it says.  In each of its objects the fields can
be put in another order, a field that holds its default can be left out, and a field that the format
does not know can be put in; and then white space can be changed.  A text that is reached from the
written document in this way `Spells` the types it was written for.

Whatever is rewritten in an object, each of its fields is spelled by what became of it, no field
that the format knows is there twice, and only defaults are missing
(`ClassDiagram.Document.rewritten_of_rewrites`).
-/

namespace ClassDiagram.Document

open Reader
open Relation (ReflTransGen)

section Formats

/-- A value that may stand under a key that the format does not know. -/
inductive Value.IsSimple : Value → Prop
  | null : IsSimple .null
  | bool (value : Bool) : IsSimple (.bool value)
  | text (content : String) : IsSimple (.text content)

/-- What the format says of a field of an object. -/
structure FieldFormat where
  key : String
  /-- What the field holds if it is left out, unless it has to be there. -/
  default? : Option Value := none
  /-- How the content of the field may be rewritten. -/
  Rewrites : Value → Value → Prop := fun _ _ => False

/-- One change to the fields of an object. -/
inductive RewritesFields (format : List FieldFormat) :
    List (String × Value) → List (String × Value) → Prop
  | reorder {entries others : List (String × Value)} (order : entries.Perm others) :
      RewritesFields format entries others
  | drop {field : FieldFormat} {content : Value} (front back : List (String × Value))
      (known : field ∈ format) (holds : field.default? = some content) :
      RewritesFields format (front ++ (field.key, content) :: back) (front ++ back)
  | add {key : String} {content : Value} (front back : List (String × Value))
      (unknown : key ∉ format.map FieldFormat.key) (simple : content.IsSimple) :
      RewritesFields format (front ++ back) (front ++ (key, content) :: back)
  | inside {field : FieldFormat} {content other : Value} (front back : List (String × Value))
      (known : field ∈ format) (rewrites : field.Rewrites content other) :
      RewritesFields format (front ++ (field.key, content) :: back)
        (front ++ (field.key, other) :: back)

/-- One change to an object. -/
inductive RewritesObject (format : List FieldFormat) : Value → Value → Prop
  | fields {entries others : List (String × Value)}
      (rewrites : RewritesFields format entries others) :
      RewritesObject format (.object entries) (.object others)

/-- One change to one element of a list. -/
inductive RewritesElement (Rewrites : Value → Value → Prop) : Value → Value → Prop
  | element {content other : Value} (front back : List Value) (rewrites : Rewrites content other) :
      RewritesElement Rewrites (.list (front ++ content :: back)) (.list (front ++ other :: back))

/-- The fields of a shape behind its tag. -/
def ShapeTag.otherFormat : ShapeTag → List FieldFormat
  | single => [{ key := "name" }]
  | container => [
      { key := "container" },
      { key := "element", default? := some .null },
      { key := "type_arguments", default? := some (.list []) },
      { key := "iterable", default? := some (.bool false) }]

/-- The fields of a shape with this tag. -/
def ShapeTag.format (tag : ShapeTag) : List FieldFormat :=
  { key := tagKey } :: tag.otherFormat

/-- One change to a shape.  Its tag says which fields it has. -/
inductive RewritesShape : Value → Value → Prop
  | fields {tag : ShapeTag} {entries others : List (String × Value)}
      (tagged : (tagKey, .text tag.word) ∈ entries)
      (rewrites : RewritesFields tag.format entries others) :
      RewritesShape (.object entries) (.object others)

def memberFormat : List FieldFormat := [
  { key := "name" },
  { key := "visibility", default? := some (.text Visibility.visible.word) },
  { key := "type", Rewrites := RewritesShape }]

def typeFormat : List FieldFormat := [
  { key := "name" },
  { key := "kind", default? := some (.text Kind.classKind.word) },
  { key := "base", default? := some .null },
  { key := "interfaces", default? := some (.list []) },
  { key := "members", default? := some (.list []),
    Rewrites := RewritesElement (RewritesObject memberFormat) }]

/-- The documents that say the same as the one that is written for a list of types. -/
inductive Spells (made : List Descriptor) : String → Prop
  | intro {content : Value} {front text back : List Char}
      (rewritten : ReflTransGen (RewritesElement (RewritesObject typeFormat))
        (.list (made.map valueOfType)) content)
      (laid : content.LaidOut text) (blankFront : Gap front) (blankBack : Gap back) :
      Spells made (String.ofList (front ++ (text ++ back)))

/-- The written document is one of them. -/
theorem spells_written (made : List Descriptor) : Spells made (written made) := by
  have spells : Spells made _ := .intro .refl (Value.laidOut_written 0 _) Gap.nil Gap.nil
  rw [List.append_nil] at spells
  exact spells

end Formats

section Rewriting

/-- A field of an object that was written. -/
structure WrittenField extends FieldFormat where
  content : Value

namespace WrittenField

def entry (field : WrittenField) : String × Value :=
  (field.key, field.content)

/-- When a field can have become this content. -/
def Spells (field : WrittenField) (content : Value) : Prop :=
  ReflTransGen field.Rewrites field.content content

/-- When a field can be left out. -/
def IsDefault (field : WrittenField) : Prop :=
  ∃ content, field.default? = some content ∧ field.Spells content

end WrittenField

/-- What rewriting leaves of the fields of an object. -/
structure Rewritten (fields : List WrittenField) (entries : List (String × Value)) : Prop where
  /-- Each field has become what it is, or the format does not know it. -/
  each : ∀ entry ∈ entries, (∃ field ∈ fields, field.key = entry.1 ∧ field.Spells entry.2) ∨
    entry.1 ∉ fields.map (·.key) ∧ entry.2.IsSimple
  once : ∀ field ∈ fields, (entries.map Prod.fst).count field.key ≤ 1
  kept : ∀ field ∈ fields, field.key ∈ entries.map Prod.fst ∨ field.IsDefault

variable {fields : List WrittenField}

/-- Nothing is lost before anything is rewritten. -/
theorem rewritten_entries (distinct : (fields.map (·.key)).Nodup) :
    Rewritten fields (fields.map WrittenField.entry) where
  each := by
    intro entry member
    obtain ⟨field, known, rfl⟩ := List.mem_map.mp member
    exact .inl ⟨field, known, rfl, .refl⟩
  once := by
    intro field _
    rw [List.map_map]
    exact List.nodup_iff_count_le_one.mp distinct field.key
  kept := by
    intro field known
    rw [List.map_map]
    exact .inl (List.mem_map_of_mem known)

namespace Rewritten

variable (distinct : (fields.map (·.key)).Nodup) {entries others front back : List (String × Value)}
  {field : WrittenField} (known : field ∈ fields) {key : String} {content other : Value}

include distinct known in
/-- What stands under the key of a field is what the field has become. -/
theorem spells (rewritten : Rewritten fields entries) (stands : (field.key, content) ∈ entries) :
    field.Spells content := by
  obtain ⟨other, otherKnown, named, spells⟩ | ⟨unknown, -⟩ := rewritten.each _ stands
  · obtain rfl := List.inj_on_of_nodup_map distinct otherKnown known named
    exact spells
  · exact absurd (List.mem_map_of_mem known) unknown

theorem reorder (rewritten : Rewritten fields entries) (order : entries.Perm others) :
    Rewritten fields others where
  each entry member := rewritten.each entry (order.mem_iff.mpr member)
  once field known := by
    rw [← (order.map Prod.fst).count_eq]
    exact rewritten.once field known
  kept field known := (rewritten.kept field known).imp_left (order.map Prod.fst).mem_iff.mp

include distinct known in
/-- A field that holds its default is spelled by leaving it out. -/
theorem drop (rewritten : Rewritten fields (front ++ (field.key, content) :: back))
    (holds : field.default? = some content) : Rewritten fields (front ++ back) := by
  have shorter : (front ++ back).Sublist (front ++ (field.key, content) :: back) :=
    List.Sublist.append_left (List.sublist_cons_self _ _) _
  refine ⟨fun entry member => rewritten.each entry (shorter.subset member), ?once, ?kept⟩
  case once =>
    intro other otherKnown
    exact Nat.le_trans ((shorter.map Prod.fst).count_le other.key) (rewritten.once other otherKnown)
  case kept =>
    intro other otherKnown
    -- The field itself holds its default; every other one is still there if it was.
    by_cases same : other.key = field.key
    · obtain rfl := List.inj_on_of_nodup_map distinct otherKnown known same
      exact .inr ⟨content, holds, rewritten.spells distinct known (by simp)⟩
    · refine (rewritten.kept other otherKnown).imp_left fun there => ?_
      simpa [same] using there

/-- A field that the format does not know takes no other's place. -/
theorem add (rewritten : Rewritten fields (front ++ back)) (unknown : key ∉ fields.map (·.key))
    (simple : content.IsSimple) : Rewritten fields (front ++ (key, content) :: back) := by
  refine ⟨?each, ?once, ?kept⟩
  case each =>
    intro entry member
    rw [List.mem_append, List.mem_cons] at member
    obtain inFront | rfl | inBack := member
    · exact rewritten.each entry (List.mem_append_left _ inFront)
    · exact .inr ⟨unknown, simple⟩
    · exact rewritten.each entry (List.mem_append_right _ inBack)
  case once =>
    intro field known
    have other : key ≠ field.key := fun same => unknown (same ▸ List.mem_map_of_mem known)
    have once := rewritten.once field known
    rw [List.map_append, List.count_append] at once ⊢
    rwa [List.map_cons, List.count_cons_of_ne other]
  case kept =>
    intro field known
    refine (rewritten.kept field known).imp_left fun there => ?_
    rw [List.map_append, List.mem_append] at there ⊢
    exact there.imp_right (List.mem_cons_of_mem _)

include distinct known in
/-- A change inside a field is one more step in what the field has become. -/
theorem inside (rewritten : Rewritten fields (front ++ (field.key, content) :: back))
    (rewrites : field.Rewrites content other) :
    Rewritten fields (front ++ (field.key, other) :: back) := by
  have keys : (front ++ (field.key, other) :: back).map Prod.fst =
      (front ++ (field.key, content) :: back).map Prod.fst := by
    simp
  refine ⟨?_, keys ▸ rewritten.once, keys ▸ rewritten.kept⟩
  intro entry member
  rw [List.mem_append, List.mem_cons] at member
  obtain inFront | rfl | inBack := member
  · exact rewritten.each entry (List.mem_append_left _ inFront)
  · have spelled : field.Spells content := rewritten.spells distinct known (by simp)
    exact .inl ⟨field, known, rfl, spelled.tail rewrites⟩
  · exact rewritten.each entry (List.mem_append_right _ (List.mem_cons_of_mem _ inBack))

include distinct in
/-- One more change leaves no less. -/
theorem step (rewritten : Rewritten fields entries)
    (step : RewritesFields (fields.map (·.toFieldFormat)) entries others) :
    Rewritten fields others := by
  cases step with
  | reorder order => exact rewritten.reorder order
  | drop front back listed holds =>
      obtain ⟨field, known, rfl⟩ := List.mem_map.mp listed
      exact rewritten.drop distinct known holds
  | add front back unknown simple =>
      rw [List.map_map] at unknown
      exact rewritten.add unknown simple
  | inside front back listed rewrites =>
      obtain ⟨field, known, rfl⟩ := List.mem_map.mp listed
      exact rewritten.inside distinct known rewrites

end Rewritten

/-- Whatever is rewritten in an object, it remains an object, and only defaults are missing. -/
theorem rewritten_of_rewrites (distinct : (fields.map (·.key)).Nodup) {content : Value}
    (rewrites : ReflTransGen (RewritesObject (fields.map (·.toFieldFormat)))
      (.object (fields.map WrittenField.entry)) content) :
    ∃ entries, content = .object entries ∧ Rewritten fields entries := by
  induction rewrites with
  | refl => exact ⟨_, rfl, rewritten_entries distinct⟩
  | tail _ step ih =>
      obtain ⟨entries, rfl, rewritten⟩ := ih
      obtain ⟨step⟩ := step
      exact ⟨_, rfl, rewritten.step distinct step⟩

/-- An element of a list can be replaced by one that is related to whatever it was related to. -/
theorem forall₂_replace {α β : Type} {R : α → β → Prop} {contents : List α} {element other : β}
    {front back : List β} (related : List.Forall₂ R contents (front ++ element :: back))
    (replaces : ∀ content, R content element → R content other) :
    List.Forall₂ R contents (front ++ other :: back) := by
  induction front generalizing contents with
  | nil =>
      obtain _ | ⟨first, others⟩ := related
      exact .cons (replaces _ first) others
  | cons _ _ ih =>
      obtain _ | ⟨first, others⟩ := related
      exact .cons first (ih others)

/-- What is rewritten in a list is rewritten in its elements. -/
theorem forall₂_of_rewrites {Rewrites : Value → Value → Prop} {contents : List Value}
    {content : Value}
    (rewrites : ReflTransGen (RewritesElement Rewrites) (.list contents) content) :
    ∃ others, content = .list others ∧ List.Forall₂ (ReflTransGen Rewrites) contents others := by
  induction rewrites with
  | refl => exact ⟨contents, rfl, List.forall₂_same.mpr fun _ _ => .refl⟩
  | tail _ step ih =>
      obtain ⟨others, rfl, reached⟩ := ih
      obtain ⟨front, back, step⟩ := step
      exact ⟨_, rfl, forall₂_replace reached fun _ rewrites => rewrites.tail step⟩

/-- A content that the format does not let anyone rewrite stays as it is. -/
theorem eq_of_fixed {content other : Value}
    (rewrites : ReflTransGen (fun _ _ => False) content other) : other = content := by
  induction rewrites with
  | refl => rfl
  | tail _ step _ => exact step.elim

end Rewriting

section Fields

/-- Fields with these formats and contents. -/
def writtenFields (format : List FieldFormat) (contents : List Value) : List WrittenField :=
  format.zipWith WrittenField.mk contents

def tagOfShape : Shape → ShapeTag
  | .single _ => .single
  | .container _ => .container

def tagField (tag : ShapeTag) : WrittenField :=
  ⟨{ key := tagKey }, .text tag.word⟩

/-- The fields of a shape behind its tag. -/
def otherFields (made : Shape) : List WrittenField :=
  writtenFields (tagOfShape made).otherFormat (match made with
    | .single name => [.text name]
    | .container c =>
      [.text c.name, valueOfOptional c.element, valueOfTexts c.arguments, .bool c.iterable])

def fieldsOfShape (made : Shape) : List WrittenField :=
  tagField (tagOfShape made) :: otherFields made

def fieldsOfMember (made : Member) : List WrittenField :=
  writtenFields memberFormat
    [.text made.name, .text made.visibility.word, valueOfShape made.shape]

def fieldsOfType (made : Descriptor) : List WrittenField :=
  writtenFields typeFormat [.text made.name, .text made.kind.word, valueOfOptional made.base,
    valueOfTexts made.interfaces, .list (made.members.map valueOfMember)]

/-- A shape is written field by field. -/
theorem valueOfShape_eq (made : Shape) :
    valueOfShape made = .object ((fieldsOfShape made).map WrittenField.entry) := by
  cases made <;> rfl

/-- The fields of a shape have the format that its tag asks for. -/
theorem format_fieldsOfShape (made : Shape) :
    (fieldsOfShape made).map (·.toFieldFormat) = (tagOfShape made).format := by
  cases made <;> rfl

/-- No two fields of a shape share a key. -/
theorem nodup_keys_fieldsOfShape (made : Shape) : ((fieldsOfShape made).map (·.key)).Nodup := by
  have keys : (fieldsOfShape made).map (·.key) =
      (tagOfShape made).format.map FieldFormat.key := by
    cases made <;> rfl
  rw [keys]
  cases tagOfShape made <;> decide

/-- The contents of a shape are not rewritten. -/
theorem eq_of_spells {made : Shape} {field : WrittenField} (member : field ∈ fieldsOfShape made)
    {content : Value} (spells : field.Spells content) : content = field.content := by
  have fixed : field.Rewrites = fun _ _ => False := by
    cases made <;>
      simp only [fieldsOfShape, tagField, otherFields, writtenFields, tagOfShape,
        ShapeTag.otherFormat, List.zipWith_cons_cons, List.zipWith_nil_left, List.mem_cons,
        List.not_mem_nil, or_false] at member <;>
      rcases member with rfl | rfl | rfl | rfl | rfl <;> rfl
  unfold WrittenField.Spells at spells
  rw [fixed] at spells
  exact eq_of_fixed spells

/-- Whatever is rewritten in a shape, its tag stays as it is. -/
theorem rewritten_of_rewritesShape {made : Shape} {content : Value}
    (rewrites : ReflTransGen RewritesShape (valueOfShape made) content) :
    ∃ entries, content = .object entries ∧ Rewritten (fieldsOfShape made) entries := by
  have distinct := nodup_keys_fieldsOfShape made
  induction rewrites with
  | refl => exact ⟨_, valueOfShape_eq made, rewritten_entries distinct⟩
  | tail _ step ih =>
      obtain ⟨entries, rfl, rewritten⟩ := ih
      obtain @⟨tag, _, _, tagged, step⟩ := step
      have known : tagField (tagOfShape made) ∈ fieldsOfShape made := List.mem_cons_self
      have same : Value.text tag.word = .text (tagOfShape made).word :=
        eq_of_spells known (rewritten.spells distinct known tagged)
      have sameTag : tag = tagOfShape made := by
        revert same
        cases tag <;> cases tagOfShape made <;> simp [ShapeTag.word]
      refine ⟨_, rfl, rewritten.step distinct ?_⟩
      rwa [format_fieldsOfShape, ← sameTag]

end Fields

end ClassDiagram.Document
