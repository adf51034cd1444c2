import ClassDiagram.Proofs.CatalogHistory
import ClassDiagram.Proofs.DocumentFields

/-! # Written documents

Every document that spells a list of types is read as that list
(`ClassDiagram.Document.read_spelling`), and so is the one that was written for it
(`ClassDiagram.Document.read_written`), whatever characters stand in its names.  Each reader of a
part of a type takes whatever spells that part; a shape keeps its other fields until its tag is
known (`ClassDiagram.Document.takes_shape`).
-/

namespace ClassDiagram.Document

open Reader
open Relation (ReflTransGen)

variable {α σ : Type}

section Shapes

/-- The tag of a shape is taken from its word. -/
theorem takes_shapeTag (tag : ShapeTag) : Takes shapeTag (.text tag.word) tag := by
  refine (takes_text "variant identifier" tag.word).bind fun rest => Reads.placed ?_
  have picked : pick (ShapeTag.single.word, ShapeTag.single)
      (ShapeTag.container.word, ShapeTag.container) tag.word = .ok tag := by
    cases tag <;> rfl
  rw [picked]
  exact Reads.pure

/-- What is done with a key of a shape. -/
def onShapeKey (left : Nat) (state : Option ShapeTag × List (String × Value)) (key : String) :
    Reader (Option ShapeTag × List (String × Value)) := do
  let (known, taken) := state
  if key = tagKey then
    if known.isSome then
      refuse (.duplicateField tagKey)
    else
      colon
      let tag ← shapeTag
      pure (some tag, taken)
  else
    colon
    let content ← value left
    pure (known, (key, content) :: taken)

/-- A value that was read before makes what is known of a record. -/
def Makes (source : FromValue σ) (content : Value) (state : σ) : Prop :=
  source content = .ok state

section Tagged

variable {tagField : WrittenField} {others : List WrittenField} (tagged : tagField.key = tagKey)
  (distinct : ((tagField :: others).map (·.key)).Nodup) {read last : List String}
  {entries : List (String × Value)} (gathers : Gathers (tagField :: others) read entries last)

include tagged distinct gathers

/-- The tag of a shape is read wherever it stands, and the other fields are kept. -/
theorem collects_onShapeKey {tag : ShapeTag}
    (tags : ∀ content, tagField.Spells content → content = .text tag.word) {left : Nat}
    (fits : ∀ field ∈ others, ∀ content, field.Spells content → content.Fits (left + 1))
    (taken : List (String × Value)) :
    Collects (onShapeKey (left + 1)) (if tagKey ∈ read then some tag else none, taken) entries
      (if tagKey ∈ last then some tag else none,
        (entries.filter (·.1 ≠ tagKey)).reverse ++ taken) := by
  rw [List.map_cons, List.nodup_cons, tagged] at distinct
  have kept {key : String} (other : key ≠ tagKey) {content : Value} (fit : content.Fits (left + 1))
      (known : Option ShapeTag) (taken : List (String × Value)) :
      ReadsField (onShapeKey (left + 1) (known, taken) key) content
        (known, (key, content) :: taken) := by
    simp only [onShapeKey, other, ↓reduceIte]
    exact Takes.readsField (fit.takes.bind fun _ => Reads.pure)
  induction gathers generalizing taken with
  | nil => exact .nil
  | @known read last written content entries member new spells _ ih =>
      obtain rfl | member := List.mem_cons.mp member
      · obtain rfl := tags content spells
        rw [tagged] at new ih ⊢
        rw [List.filter_cons_of_neg (by simp)]
        refine .cons ?_ (ih taken)
        simp only [onShapeKey, new, ↓reduceIte, Option.isSome_none, Bool.false_eq_true,
          List.mem_cons_self]
        exact Takes.readsField ((takes_shapeTag tag).bind fun _ => Reads.pure)
      · have other : written.key ≠ tagKey :=
          fun same => distinct.1 (same ▸ List.mem_map_of_mem member)
        rw [List.filter_cons_of_pos (by simpa using other), List.reverse_cons, List.append_assoc]
        have more := ih ((written.key, content) :: taken)
        simp only [List.mem_cons, Ne.symm other, false_or] at more
        exact .cons (kept other (fits written member content spells) _ taken) more
  | @unknown read last key content entries unknown simple _ ih =>
      have other : key ≠ tagKey := by
        rintro rfl
        exact unknown (by simp [tagged])
      rw [List.filter_cons_of_pos (by simpa using other), List.reverse_cons, List.append_assoc]
      exact .cons (kept other (simple.fits left) _ taken) (ih ((key, content) :: taken))

/-- The other fields of a shape are read in any order. -/
theorem fieldsOfObject_of_gathers {state : List String → σ} {known : List (Field FromValue σ)}
    (agree : List.Forall₂ (Field.Agrees Makes state) others known)
    (ignores : ∀ read, state (tagKey :: read) = state read) :
    fieldsOfObject known (entries.filter (·.1 ≠ tagKey)) (state read) = .ok (state last) := by
  rw [List.map_cons, List.nodup_cons, tagged] at distinct
  induction gathers with
  | nil => rfl
  | @known read last written content entries member new spells _ ih =>
      obtain rfl | member := List.mem_cons.mp member
      · rw [tagged, ignores] at ih
        rw [List.filter_cons_of_neg (by simp [tagged]), ih]
      · obtain ⟨field, found, agrees⟩ := exists_find?_of_agrees agree distinct.2 member
        have other : written.key ≠ tagKey :=
          fun same => distinct.1 (same ▸ List.mem_map_of_mem member)
        have made : field.read (state read) content = .ok (state (written.key :: read)) :=
          agrees.takes read content spells
        rw [List.filter_cons_of_pos (by simpa using other), fieldsOfObject, List.foldlM_cons]
        simp only [found, agrees.unset read new, Bool.false_eq_true, ↓reduceIte, made]
        exact ih
  | @unknown read last key content entries unknown simple _ ih =>
      rw [List.map_cons, List.mem_cons, not_or, tagged] at unknown
      rw [List.filter_cons_of_pos (by simpa using unknown.1), fieldsOfObject, List.foldlM_cons]
      simp only [find?_of_unknown agree unknown.2]
      exact ih

end Tagged

theorem textsOf_valueOfTexts (texts : List String) : textsOf (valueOfTexts texts) = .ok texts := by
  change (texts.map Value.text).mapM textOf = .ok texts
  induction texts with
  | nil => rfl
  | cons first more ih => rw [List.map_cons, List.mapM_cons, ih]; rfl

/-- A text that may be missing is found in the value that was written for it. -/
theorem optionalTextOf_valueOfOptional (content : Option String) :
    optionalTextOf (valueOfOptional content) = .ok content := by
  cases content <;> rfl

/-- The value of a text that may be missing is not nested. -/
theorem fits_valueOfOptional (left : Nat) (content : Option String) :
    (valueOfOptional content).Fits (left + 1) := by
  cases content with
  | none => exact .null
  | some content => exact .text content

theorem fits_valueOfTexts (left : Nat) (texts : List String) :
    (valueOfTexts texts).Fits (left + 2) := by
  refine .list fun value member => ?_
  obtain ⟨content, -, rfl⟩ := List.mem_map.mp member
  exact .text content

/-- No field of a shape is nested deeper than a list of texts. -/
theorem fits_otherFields (left : Nat) {made : Shape} {field : WrittenField}
    (member : field ∈ otherFields made) : field.content.Fits (left + 2) := by
  cases made with
  | single name =>
      obtain rfl := List.mem_singleton.mp member
      exact .text name
  | container c =>
      simp only [otherFields, writtenFields, tagOfShape, ShapeTag.otherFormat,
        List.zipWith_cons_cons, List.zipWith_nil_left, List.mem_cons, List.not_mem_nil,
        or_false] at member
      rcases member with rfl | rfl | rfl | rfl
      · exact .text c.name
      · exact fits_valueOfOptional _ c.element
      · exact fits_valueOfTexts _ c.arguments
      · exact .bool c.iterable

/-- A field without a default has to be there. -/
theorem not_isDefault {field : WrittenField} (required : field.default? = none) :
    ¬ field.IsDefault := by
  rintro ⟨content, holds, -⟩
  rw [required] at holds
  cases holds

/-- What is left out of a field that is not rewritten is its default. -/
theorem eq_of_isDefault {key : String} {default content : Value}
    (left : (WrittenField.mk { key, default? := some default } content).IsDefault) :
    content = default := by
  obtain ⟨other, holds, spells⟩ := left
  cases holds
  exact (eq_of_fixed spells).symm

/-- A null was written only for a text that is missing. -/
theorem eq_none_of_valueOfOptional {content : Option String}
    (null : valueOfOptional content = .null) : content = none := by
  cases content with
  | none => rfl
  | some content => cases null

theorem eq_nil_of_valueOfTexts {texts : List String} (empty : valueOfTexts texts = .list []) :
    texts = [] :=
  List.map_eq_nil_iff.mp (Value.list.inj empty)

/-- What was not read is the default. -/
theorem getD_of_present {key : String} {last : List String} {value default : α}
    (present : key ∈ last ∨ value = default) :
    (if key ∈ last then some value else none).getD default = value := by
  by_cases read : key ∈ last
  · rw [if_pos read, Option.getD_some]
  · rw [if_neg read, Option.getD_none]
    exact (present.resolve_left read).symm

/-- What is known of a single shape when some keys were read. -/
def PartialSingle.of (name : String) (read : List String) : PartialSingle where
  name := if "name" ∈ read then some name else none

/-- What is known of a container when some keys were read. -/
def PartialContainer.of (c : Container) (read : List String) : PartialContainer where
  name := if "container" ∈ read then some c.name else none
  element := if "element" ∈ read then some c.element else none
  arguments := if "type_arguments" ∈ read then some c.arguments else none
  iterable := if "iterable" ∈ read then some c.iterable else none

/-- The fields of a single shape are read from what spells them. -/
theorem agrees_single (name : String) : List.Forall₂ (Field.Agrees Makes (PartialSingle.of name))
    (otherFields (.single name)) singleFields := by
  refine .cons ⟨rfl, fun read new => ?_, fun read content spells => ?_⟩ .nil
  · exact congrArg Option.isSome (if_neg new)
  · obtain rfl := eq_of_fixed spells
    simp [Makes, PartialSingle.of, textOf, bind, Except.bind, pure, Except.pure]

theorem agrees_container (c : Container) :
    List.Forall₂ (Field.Agrees Makes (PartialContainer.of c)) (otherFields (.container c))
      containerFields := by
  refine .cons ⟨rfl, fun read new => ?_, fun read content spells => ?_⟩
    (.cons ⟨rfl, fun read new => ?_, fun read content spells => ?_⟩
      (.cons ⟨rfl, fun read new => ?_, fun read content spells => ?_⟩
        (.cons ⟨rfl, fun read new => ?_, fun read content spells => ?_⟩ .nil)))
  case refine_1 | refine_3 | refine_5 | refine_7 => exact congrArg Option.isSome (if_neg new)
  all_goals
    obtain rfl := eq_of_fixed spells
    simp [Makes, PartialContainer.of, textOf, boolOf, optionalTextOf_valueOfOptional,
      textsOf_valueOfTexts, bind, Except.bind, pure, Except.pure]

/-- A shape is made from its other fields, with the defaults of those that are left out. -/
theorem shapeOf_eq {made : Shape} {entries : List (String × Value)} {last : List String}
    (gathers : Gathers (fieldsOfShape made) [] entries last)
    (present : ∀ field ∈ fieldsOfShape made, field.key ∈ last ∨ field.IsDefault) :
    shapeOf (tagOfShape made) (.object (entries.filter (·.1 ≠ tagKey))) = .ok made := by
  have distinct := nodup_keys_fieldsOfShape made
  obtain ⟨-, present⟩ := List.forall_mem_cons.mp present
  cases made with
  | single name =>
      obtain ⟨nameField, -⟩ := List.forall_mem_cons.mp present
      have known : "name" ∈ last := nameField.resolve_right (not_isDefault rfl)
      have read : fieldsOfObject singleFields (entries.filter (·.1 ≠ tagKey)) {} =
          .ok (PartialSingle.of name last) :=
        fieldsOfObject_of_gathers rfl distinct gathers (agrees_single name) fun read => by
          simp [PartialSingle.of, tagKey]
      simp only [tagOfShape, shapeOf, recordOf, read]
      simp [PartialSingle.of, known, Document.present, bind, Except.bind, pure, Except.pure]
  | container c =>
      obtain ⟨nameField, present⟩ := List.forall_mem_cons.mp present
      obtain ⟨elementField, present⟩ := List.forall_mem_cons.mp present
      obtain ⟨argumentsField, present⟩ := List.forall_mem_cons.mp present
      obtain ⟨iterableField, -⟩ := List.forall_mem_cons.mp present
      have known : "container" ∈ last := nameField.resolve_right (not_isDefault rfl)
      have element : "element" ∈ last ∨ c.element = none := elementField.imp_right fun left =>
        eq_none_of_valueOfOptional (eq_of_isDefault left)
      have arguments : "type_arguments" ∈ last ∨ c.arguments = [] :=
        argumentsField.imp_right fun left => eq_nil_of_valueOfTexts (eq_of_isDefault left)
      have iterable : "iterable" ∈ last ∨ c.iterable = false :=
        iterableField.imp_right fun left => Value.bool.inj (eq_of_isDefault left)
      have read : fieldsOfObject containerFields (entries.filter (·.1 ≠ tagKey)) {} =
          .ok (PartialContainer.of c last) :=
        fieldsOfObject_of_gathers rfl distinct gathers (agrees_container c) fun read => by
          simp [PartialContainer.of, tagKey]
      simp only [tagOfShape, shapeOf, recordOf, read]
      simp [PartialContainer.of, known, Document.present, bind, Except.bind, pure, Except.pure,
        getD_of_present element, getD_of_present arguments, getD_of_present iterable]

/-- A shape is read from whatever spells it. -/
theorem takes_shape {left : Nat} (levels : 2 < left) {made : Shape} {content : Value}
    (rewrites : ReflTransGen RewritesShape (valueOfShape made) content) :
    Takes (shape left) content made := by
  obtain ⟨left, rfl⟩ : ∃ more, left = more + 3 := ⟨left - 3, by omega⟩
  obtain ⟨entries, rfl, rewritten⟩ := rewritten_of_rewritesShape rewrites
  obtain ⟨last, gathers, present⟩ := rewritten.gathers
  have distinct := nodup_keys_fieldsOfShape made
  have tagged : tagKey ∈ last :=
    (present _ List.mem_cons_self).resolve_right (not_isDefault rfl)
  have tags : ∀ content, (tagField (tagOfShape made)).Spells content →
      content = .text (tagOfShape made).word :=
    fun _ spells => eq_of_spells List.mem_cons_self spells
  have fits : ∀ field ∈ otherFields made, ∀ content, field.Spells content →
      content.Fits (left + 1 + 1) := by
    intro field member content spells
    rw [eq_of_spells (List.mem_cons_of_mem _ member) spells]
    exact fits_otherFields left member
  have collects := collects_onShapeKey rfl distinct gathers tags fits []
  rw [if_pos tagged, List.append_nil] at collects
  rintro _ ⟨⟩
  rename_i parts laid bracketed
  refine accepts_behind_valueToken bracketed.head? (by decide) (by decide) fun rest => ?_
  refine Reads.bind (?_ : Reads _ (tagOfShape made, .object (entries.filter (·.1 ≠ tagKey))) _ rest)
    ?_
  · refine reads_object (by omega) collects (fun text rest read => ?_) laid bracketed
    have split : Reads (taggedFields (left + 2)) (tagOfShape made,
        .object (entries.filter (·.1 ≠ tagKey)).reverse.reverse) text rest :=
      read.bind (Reads.pure.bind Reads.pure)
    rwa [List.reverse_reverse] at split
  · simp only [shapeOf_eq gathers present]
    exact Reads.pure

end Shapes

section Types

/-- What is known of a member when some keys were read. -/
def PartialMember.of (made : Member) (read : List String) : PartialMember where
  name := if "name" ∈ read then some made.name else none
  visibility := if "visibility" ∈ read then some made.visibility else none
  shape := if "type" ∈ read then some made.shape else none

/-- The fields of a member are read from what spells them, its type where there are three levels
left. -/
theorem agrees_member {left : Nat} (levels : 2 < left) (made : Member) :
    List.Forall₂ (Field.Agrees Takes (PartialMember.of made)) (fieldsOfMember made)
      (memberFields left) := by
  have visibility : pick (Visibility.visible.word, Visibility.visible)
      (Visibility.hidden.word, Visibility.hidden) made.visibility.word = .ok made.visibility := by
    cases made.visibility <;> rfl
  refine .cons ⟨rfl, fun read new => ?_, fun read content spells => ?_⟩
    (.cons ⟨rfl, fun read new => ?_, fun read content spells => ?_⟩
      (.cons ⟨rfl, fun read new => ?_, fun read content spells => ?_⟩ .nil))
  case refine_1 | refine_3 | refine_5 => exact congrArg Option.isSome (if_neg new)
  · obtain rfl := eq_of_fixed spells
    exact (takes_text _ made.name).map (by simp [PartialMember.of])
  · obtain rfl := eq_of_fixed spells
    exact (takes_variant visibility).map (by simp [PartialMember.of])
  · exact (takes_shape levels spells).map (by simp [PartialMember.of])

/-- A member is read from whatever spells it. -/
theorem takes_member {left : Nat} (levels : 3 < left) {made : Member} {content : Value}
    (rewrites : ReflTransGen (RewritesObject memberFormat) (valueOfMember made) content) :
    Takes (member left) content made := by
  have distinct : ((fieldsOfMember made).map (·.key)).Nodup :=
    show (memberFormat.map FieldFormat.key).Nodup by decide
  refine takes_record (by omega) _ (agrees_member (by omega) made) distinct
    (fun last present => ?_) rewrites
  obtain ⟨nameField, present⟩ := List.forall_mem_cons.mp present
  obtain ⟨visibilityField, present⟩ := List.forall_mem_cons.mp present
  obtain ⟨shapeField, -⟩ := List.forall_mem_cons.mp present
  have name : "name" ∈ last := nameField.resolve_right (not_isDefault rfl)
  have shape : "type" ∈ last := shapeField.resolve_right (not_isDefault rfl)
  have visibility : "visibility" ∈ last ∨ made.visibility = .visible := by
    refine visibilityField.imp_right fun left => ?_
    have same := Value.text.inj (eq_of_isDefault left)
    revert same
    cases made.visibility <;> decide
  simp [PartialMember.finish, PartialMember.of, name, shape, Document.present,
    getD_of_present visibility, bind, Except.bind, pure, Except.pure]

/-- What is known of a type when some keys were read. -/
def PartialType.of (made : Descriptor) (read : List String) : PartialType where
  name := if "name" ∈ read then some made.name else none
  kind := if "kind" ∈ read then some made.kind else none
  base := if "base" ∈ read then some made.base else none
  interfaces := if "interfaces" ∈ read then some made.interfaces else none
  members := if "members" ∈ read then some made.members else none

/-- Members are read from whatever spells them. -/
theorem takes_members {left : Nat} (levels : 4 < left) {made : List Member} {content : Value}
    (rewrites : ReflTransGen (RewritesElement (RewritesObject memberFormat))
      (.list (made.map valueOfMember)) content) :
    Takes (list left (member (left - 1))) content made := by
  obtain ⟨contents, rfl, spelled⟩ := forall₂_of_rewrites rewrites
  rw [List.forall₂_map_left_iff] at spelled
  refine takes_list (by omega) ?_
  exact (spelled.imp fun _ _ rewrites => takes_member (by omega) rewrites).flip

/-- The fields of a type are read from what spells them, its members where there are five levels
left. -/
theorem agrees_type {left : Nat} (levels : 4 < left) (made : Descriptor) :
    List.Forall₂ (Field.Agrees Takes (PartialType.of made)) (fieldsOfType made)
      (typeFields left) := by
  have kind : pick (Kind.classKind.word, Kind.classKind) (Kind.interfaceKind.word,
      Kind.interfaceKind) made.kind.word = .ok made.kind := by
    cases made.kind <;> rfl
  refine .cons ⟨rfl, fun read new => ?_, fun read content spells => ?_⟩
    (.cons ⟨rfl, fun read new => ?_, fun read content spells => ?_⟩
      (.cons ⟨rfl, fun read new => ?_, fun read content spells => ?_⟩
        (.cons ⟨rfl, fun read new => ?_, fun read content spells => ?_⟩
          (.cons ⟨rfl, fun read new => ?_, fun read content spells => ?_⟩ .nil))))
  case refine_1 | refine_3 | refine_5 | refine_7 | refine_9 =>
    exact congrArg Option.isSome (if_neg new)
  · obtain rfl := eq_of_fixed spells
    exact (takes_text _ made.name).map (by simp [PartialType.of])
  · obtain rfl := eq_of_fixed spells
    exact (takes_variant kind).map (by simp [PartialType.of])
  · obtain rfl := eq_of_fixed spells
    exact (takes_optionalText made.base).map (by simp [PartialType.of])
  · obtain rfl := eq_of_fixed spells
    exact (takes_texts (by omega) made.interfaces).map (by simp [PartialType.of])
  · exact (takes_members levels spells).map (by simp [PartialType.of])

/-- A type is read from whatever spells it. -/
theorem takes_type {left : Nat} (levels : 5 < left) {made : Descriptor} {content : Value}
    (rewrites : ReflTransGen (RewritesObject typeFormat) (valueOfType made) content) :
    Takes (type left) content made := by
  have distinct : ((fieldsOfType made).map (·.key)).Nodup :=
    show (typeFormat.map FieldFormat.key).Nodup by decide
  refine takes_record (by omega) _ (agrees_type (by omega) made) distinct
    (fun last present => ?_) rewrites
  obtain ⟨nameField, present⟩ := List.forall_mem_cons.mp present
  obtain ⟨kindField, present⟩ := List.forall_mem_cons.mp present
  obtain ⟨baseField, present⟩ := List.forall_mem_cons.mp present
  obtain ⟨interfacesField, present⟩ := List.forall_mem_cons.mp present
  obtain ⟨membersField, -⟩ := List.forall_mem_cons.mp present
  have name : "name" ∈ last := nameField.resolve_right (not_isDefault rfl)
  have kind : "kind" ∈ last ∨ made.kind = .classKind := by
    refine kindField.imp_right fun left => ?_
    have same := Value.text.inj (eq_of_isDefault left)
    revert same
    cases made.kind <;> decide
  have base : "base" ∈ last ∨ made.base = none := baseField.imp_right fun left =>
    eq_none_of_valueOfOptional (eq_of_isDefault left)
  have interfaces : "interfaces" ∈ last ∨ made.interfaces = [] :=
    interfacesField.imp_right fun left => eq_nil_of_valueOfTexts (eq_of_isDefault left)
  have members : "members" ∈ last ∨ made.members = [] := by
    refine membersField.imp_right ?_
    rintro ⟨content, holds, rewrites⟩
    cases holds
    obtain ⟨contents, same, rewritten⟩ := forall₂_of_rewrites rewrites
    cases same
    exact List.map_eq_nil_iff.mp (List.forall₂_nil_right_iff.mp rewritten)
  simp [PartialType.finish, PartialType.of, name, Document.present, getD_of_present kind,
    getD_of_present base, getD_of_present interfaces, getD_of_present members, bind, Except.bind,
    pure, Except.pure]

end Types

section Documents

/-- A document that spells a list of types is read up to its end. -/
theorem Spells.reads {made : List Descriptor} {document : String}
    (spells : Spells made document) : Reads types made document.toList [] := by
  obtain @⟨content, front, text, back, rewritten, laid, blankFront, blankBack⟩ := spells
  obtain ⟨contents, rfl, spelled⟩ := forall₂_of_rewrites rewritten
  rw [List.forall₂_map_left_iff] at spelled
  have levels : 1 < greatestDepth := by decide
  have inner : 5 < greatestDepth - 1 := by decide
  have takes : Takes (list greatestDepth (type (greatestDepth - 1))) (.list contents) made :=
    takes_list levels (spelled.imp fun _ _ rewrites => takes_type inner rewrites).flip
  have list := (takes laid).reads front back blankFront
  have ends : Reads token ([] : List Char).head? (back ++ []) [] :=
    reads_token_head blankBack fun _ absurd => nomatch absurd
  rw [List.append_nil] at ends
  rw [String.toList_ofList]
  exact list.bind (ends.bind Reads.pure)

/-- What the reader of types reads from a whole document is what the document is read as. -/
theorem read_of_reads {made : List Descriptor} {document : String}
    (reads : Reads types made document.toList []) : read document = .ok made := by
  obtain ⟨line, column, reached⟩ := reads 1 0
  rw [read, reached]

/-- **Written documents are read back.** Whatever characters stand in the names of a list of types,
the document that is written for it is read as that list, and so it has the same diagram. -/
theorem read_written (made : List Descriptor) :
    read (written made) = .ok made ∧
      ∀ (config : Config) (filter : Filter),
        generateFrom config (provider (written made)) filter =
            generateFrom config (Provider.ofList made) filter ∧
          generateFrom config (provider (written made)) filter =
            generate config (made.filter filter) := by
  have back : read (written made) = .ok made := read_of_reads (spells_written made).reads
  refine ⟨back, fun config filter => ?_⟩
  have offered : (provider (written made)).types = .ok made := back
  have drawn : generateFrom config (provider (written made)) filter =
      generate config (made.filter filter) := by
    rw [generateFrom_eq_bind, offered]
    rfl
  refine ⟨drawn.trans ?_, drawn⟩
  rw [generateFrom_eq_bind]
  rfl

/-- **Every spelling of a document is read back.** Starting with the document that is written for a
list of types, fields of objects can be put in another order, fields that hold their defaults can be
left out, fields that the format does not know can be put in, and white space can be changed: the
document is still read as that list. -/
theorem read_spelling {made : List Descriptor} {document : String}
    (spells : Spells made document) : read document = .ok made :=
  read_of_reads spells.reads

/-- A class of which only the name and a member are told, with a note, in another order. -/
theorem read_eagle :
    read ("[\x7b\"note\":null,\"members\":[\x7b\"type\":\x7b\"name\":\"Claw\"," ++
        "\"shape\":\"single\"\x7d,\"name\":\"claw\"\x7d],\"name\" : \"Eagle\"\x7d ]\n") =
      .ok [⟨"Eagle", .classKind, none, [], [⟨"claw", .visible, .single "Claw"⟩]⟩] := by
  let shape : Value := .object [("name", .text "Claw"), ("shape", .text "single")]
  let member : Value := .object [("type", shape), ("name", .text "claw")]
  let type : Value :=
    .object [("note", .null), ("members", .list [member]), ("name", .text "Eagle")]
  have shapeStep : RewritesShape (valueOfShape (.single "Claw")) shape :=
    .fields List.mem_cons_self (.reorder (.swap _ _ _))
  have memberSteps : ReflTransGen (RewritesObject memberFormat)
      (valueOfMember ⟨"claw", .visible, .single "Claw"⟩) member := by
    refine .head (.fields (.inside [_, _] [] (.tail _ (.tail _ (.head _))) shapeStep)) ?_
    refine .head (.fields (.drop [_] [_] (.tail _ (.head _)) rfl)) ?_
    exact .single (.fields (.reorder (.swap _ _ _)))
  have typeSteps : ReflTransGen (RewritesObject typeFormat)
      (valueOfType ⟨"Eagle", .classKind, none, [], [⟨"claw", .visible, .single "Claw"⟩]⟩) type := by
    have inMember := memberSteps.lift
      (fun member => Value.object [("name", .text "Eagle"), ("kind", .text "class"),
        ("base", .null), ("interfaces", .list []), ("members", .list [member])])
      fun _ _ step => show RewritesObject typeFormat _ _ from
        .fields (.inside [_, _, _, _] [] (.tail _ (.tail _ (.tail _ (.tail _ (.head _)))))
          (.element [] [] step))
    refine inMember.trans ?_
    refine .head (.fields (.drop [_] [_, _, _] (.tail _ (.head _)) rfl)) ?_
    refine .head (.fields (.drop [_] [_, _] (.tail _ (.tail _ (.head _))) rfl)) ?_
    refine .head (.fields (.drop [_] [_] (.tail _ (.tail _ (.tail _ (.head _)))) rfl)) ?_
    refine .head (.fields (.reorder (.swap _ _ _))) ?_
    exact .single (.fields (.add [] [_, _] (by decide) .null))
  have steps := typeSteps.lift (fun type => Value.list [type]) fun _ _ step =>
    RewritesElement.element [] [] step
  have line : Gap ['\n'] := by simp [Gap, isBlank]
  have one {part : List Char} : LaterParts [part] (',' :: (part ++ [])) :=
    .cons Gap.nil Gap.nil (.nil Gap.nil)
  have shapeLaid : shape.LaidOut _ :=
    .object (.cons (.intro Gap.nil Gap.nil (.text _))
      (.cons (.intro Gap.nil Gap.nil (.text _)) .nil)) (.cons Gap.nil one)
  have memberLaid : member.LaidOut _ :=
    .object (.cons (.intro Gap.nil Gap.nil shapeLaid)
      (.cons (.intro Gap.nil Gap.nil (.text _)) .nil)) (.cons Gap.nil one)
  have typeLaid : type.LaidOut _ :=
    .object (.cons (.intro Gap.nil Gap.nil .null) (.cons (.intro Gap.nil Gap.nil
      (.list (.cons memberLaid .nil) (.cons Gap.nil (.nil Gap.nil))))
        (.cons (.intro gap_space gap_space (.text _)) .nil)))
      (.cons Gap.nil (.cons Gap.nil Gap.nil one))
  have laid : Value.LaidOut (.list [type]) _ :=
    .list (.cons typeLaid .nil) (.cons Gap.nil (.nil gap_space))
  have spells : Spells [⟨"Eagle", .classKind, none, [], [⟨"claw", .visible, .single "Claw"⟩]⟩] _ :=
    .intro steps laid Gap.nil line
  refine read_spelling (Eq.subst (motive := Spells _) ?_ spells)
  apply String.toList_injective
  rw [String.toList_ofList]
  decide +kernel

end Documents

end ClassDiagram.Document
