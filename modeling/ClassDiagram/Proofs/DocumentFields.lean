import ClassDiagram.Proofs.DocumentSpelling

/-! # Fields in any order

What is known while an object is read depends only on the keys that were read so far, so its fields
can come in any order.  They are gathered one after the other (`ClassDiagram.Document.Gathers`), and
where every field of a record is taken from whatever spells it, the record is
(`ClassDiagram.Document.takes_record`).
-/

namespace ClassDiagram.Document

open Reader
open Relation (ReflTransGen)

variable {α σ : Type}

section Values

theorem takes_text (expected content : String) :
    Takes (text expected) (.text content) content := by
  rintro _ ⟨⟩
  exact accepts_behind_valueToken rfl (by decide) (by decide) (reads_writtenText content)

/-- A text that may be missing is taken from a null or from the text. -/
theorem takes_optionalText (content : Option String) :
    Takes optionalText (valueOfOptional content) content := by
  cases content with
  | none =>
      rintro _ ⟨⟩
      refine accepts_behind_token rfl (by decide) (by decide) fun rest => ?_
      exact reads_advance.bind ((reads_word _).bind Reads.pure)
  | some content =>
      rintro text laid
      cases laid
      refine accepts_behind_token rfl (by decide) (by decide) fun rest => ?_
      have read := (takes_text "a string" content (.text content)).reads [] rest Gap.nil
      exact read.map some

/-- One of two words is taken for what it stands for. -/
theorem takes_variant {left : Nat} {first second : String × α} {word : String} {value : α}
    (picked : pick first second word = .ok value) :
    Takes (variant left first second) (.text word) value := by
  rintro _ ⟨⟩
  refine accepts_behind_token rfl (by decide) (by decide) fun rest => ?_
  have chosen : Reads (placed (ofExcept (pick first second word))) value rest rest := by
    rw [picked]
    exact Reads.pure.placed
  exact (reads_writtenText word rest).bind chosen

/-- A list is taken element by element. -/
theorem takes_list {reader : Reader α} {left : Nat} (levels : 1 < left) {contents : List Value}
    {values : List α} (takes : List.Forall₂ (Takes reader) contents values) :
    Takes (list left reader) (.list contents) values := by
  rintro _ ⟨⟩
  rename_i parts laid bracketed
  exact accepts_behind_valueToken bracketed.head? (by decide) (by decide)
    fun rest => reads_list (by omega) (forall₂_accepts laid takes) bracketed

theorem takes_texts {left : Nat} (levels : 1 < left) (texts : List String) :
    Takes (list left anyText) (valueOfTexts texts) texts := by
  refine takes_list levels ?_
  rw [List.forall₂_map_left_iff, List.forall₂_same]
  exact fun content _ => takes_text "a string" content

/-- A value under a key that the format does not know is skipped. -/
theorem Value.IsSimple.takes_skipValue {content : Value} (simple : content.IsSimple) :
    Takes skipValue content () := by
  suffices skips : Takes skipOrOpen content none from skips.bind fun _ => Reads.pure
  cases simple with
  | null =>
      rintro _ ⟨⟩
      refine accepts_behind_valueToken rfl (by decide) (by decide) fun rest => ?_
      exact reads_advance.bind ((reads_word _).bind Reads.pure)
  | bool value =>
      rintro _ ⟨⟩
      cases value <;>
        exact accepts_behind_valueToken rfl (by decide) (by decide) fun rest =>
          reads_advance.bind ((reads_word _).bind Reads.pure)
  | text content =>
      rintro _ ⟨⟩
      refine accepts_behind_valueToken rfl (by decide) (by decide) fun rest => ?_
      have parts : (Value.text content).written 0 ++ rest =
          '"' :: (content.toList.flatMap writtenChar ++ '"' :: rest) := by
        simp [Value.written, writtenText]
      rw [parts]
      exact reads_advance.bind ((reads_skipTextBody _ _).bind Reads.pure)

/-- A simple value is not nested at all. -/
theorem Value.IsSimple.fits {content : Value} (simple : content.IsSimple) (left : Nat) :
    content.Fits (left + 1) := by
  cases simple with
  | null => exact .null
  | bool value => exact .bool value
  | text content => exact .text content

end Values

section Order

variable {fields : List WrittenField}

/-- The fields of an object in the order in which they stand, from some keys that were read before
to all that are read; keys that the format does not know are not counted. -/
inductive Gathers (fields : List WrittenField) :
    List String → List (String × Value) → List String → Prop
  | nil {read : List String} : Gathers fields read [] read
  | known {read last : List String} {field : WrittenField} {content : Value}
      {others : List (String × Value)} (known : field ∈ fields) (new : field.key ∉ read)
      (spells : field.Spells content) (more : Gathers fields (field.key :: read) others last) :
      Gathers fields read ((field.key, content) :: others) last
  | unknown {read last : List String} {key : String} {content : Value}
      {others : List (String × Value)} (unknown : key ∉ fields.map (·.key))
      (simple : content.IsSimple) (more : Gathers fields read others last) :
      Gathers fields read ((key, content) :: others) last

/-- Entries that spell the fields of a record, each field at most once, are gathered in the order in
which they stand, whatever unknown keys stand among them. -/
theorem exists_gathers {entries : List (String × Value)} {read : List String}
    (each : ∀ entry ∈ entries, (∃ field ∈ fields, field.key = entry.1 ∧ field.Spells entry.2) ∨
      entry.1 ∉ fields.map (·.key) ∧ entry.2.IsSimple)
    (once : ∀ field ∈ fields, (read ++ entries.map Prod.fst).count field.key ≤ 1) :
    ∃ last, Gathers fields read entries last ∧
      ∀ field ∈ fields, field.key ∈ read ++ entries.map Prod.fst → field.key ∈ last := by
  induction entries generalizing read with
  | nil => exact ⟨read, .nil, by simp⟩
  | cons entry entries ih =>
      obtain ⟨key, content⟩ := entry
      have others := fun entry member => each entry (List.mem_cons_of_mem _ member)
      have moved : (read ++ key :: entries.map Prod.fst).Perm
          (key :: read ++ entries.map Prod.fst) := List.perm_middle
      rw [List.map_cons] at once ⊢
      obtain ⟨field, known, rfl, spells⟩ | ⟨unknown, simple⟩ := each _ List.mem_cons_self
      · simp only [moved.count_eq] at once
        simp only [moved.mem_iff]
        obtain ⟨last, gathers, reached⟩ := ih others once
        have new : field.key ∉ read := by
          have counted := once field known
          rw [List.cons_append, List.count_cons_self, List.count_append] at counted
          exact List.count_eq_zero.mp (by omega)
        exact ⟨last, .known known new spells gathers, reached⟩
      · have foreign : ∀ field ∈ fields, key ≠ field.key :=
          fun field known same => unknown (same ▸ List.mem_map_of_mem known)
        obtain ⟨last, gathers, reached⟩ := ih others fun field known => by
          have counted := once field known
          rwa [moved.count_eq, List.cons_append, List.count_cons_of_ne (foreign field known)]
            at counted
        refine ⟨last, .unknown unknown simple gathers, fun field known there => ?_⟩
        rw [moved.mem_iff, List.cons_append, List.mem_cons] at there
        exact reached field known (there.resolve_left (foreign field known).symm)

/-- What was rewritten is read field by field; what is not read is left out. -/
theorem Rewritten.gathers {entries : List (String × Value)} (rewritten : Rewritten fields entries) :
    ∃ last, Gathers fields [] entries last ∧
      ∀ field ∈ fields, field.key ∈ last ∨ field.IsDefault := by
  have once : ∀ field ∈ fields, ([] ++ entries.map Prod.fst).count field.key ≤ 1 := rewritten.once
  obtain ⟨last, gathers, reached⟩ := exists_gathers rewritten.each once
  exact ⟨last, gathers, fun field known =>
    (rewritten.kept field known).imp_left (reached field known)⟩

end Order

section Fields

/-- A field of a record is read from whatever spells it, where `state` is what is known when some
keys were read. -/
structure Field.Agrees {F : Type → Type} (takes : F σ → Value → σ → Prop) (state : List String → σ)
    (written : WrittenField) (field : Field F σ) : Prop where
  key : field.key = written.key
  unset : ∀ read, written.key ∉ read → field.isSet (state read) = false
  takes : ∀ read content, written.Spells content →
    takes (field.read (state read)) content (state (written.key :: read))

variable {F : Type → Type} {takes : F σ → Value → σ → Prop} {state : List String → σ}
  {fields : List WrittenField}

/-- A field that the format knows is found by its key. -/
theorem exists_find?_of_agrees {known : List (Field F σ)}
    (agree : List.Forall₂ (Field.Agrees takes state) fields known)
    (distinct : (fields.map (·.key)).Nodup) {written : WrittenField} (member : written ∈ fields) :
    ∃ field, known.find? (·.key == written.key) = some field ∧
      field.Agrees takes state written := by
  induction agree with
  | nil => cases member
  | @cons first field _ _ agrees _ ih =>
      rw [List.map_cons, List.nodup_cons] at distinct
      obtain rfl | later := List.mem_cons.mp member
      · exact ⟨field, List.find?_cons_of_pos (beq_iff_eq.mpr agrees.key), agrees⟩
      · obtain ⟨found, isFound, foundAgrees⟩ := ih distinct.2 later
        refine ⟨found, ?_, foundAgrees⟩
        rw [List.find?_cons_of_neg, isFound]
        rw [beq_iff_eq, agrees.key]
        exact fun same => distinct.1 (same ▸ List.mem_map_of_mem later)

/-- No field is found by a key that the format does not know. -/
theorem find?_of_unknown {known : List (Field F σ)}
    (agree : List.Forall₂ (Field.Agrees takes state) fields known) {key : String}
    (unknown : key ∉ fields.map (·.key)) : known.find? (·.key == key) = none := by
  induction agree with
  | nil => rfl
  | cons agrees _ ih =>
      rw [List.map_cons, List.mem_cons, not_or] at unknown
      rw [List.find?_cons_of_neg, ih unknown.2]
      rw [beq_iff_eq, agrees.key]
      exact Ne.symm unknown.1

end Fields

section Records

variable {state : List String → σ} {fields : List WrittenField}

/-- What is done with a key of a record. -/
def onField (known : List (Field Reader σ)) (state : σ) (key : String) : Reader σ :=
  match known.find? (·.key == key) with
  | some field =>
    if field.isSet state then
      refuse (.duplicateField key)
    else do
      colon
      field.read state
  | none => do
    colon
    skipValue
    pure state

/-- The fields of a record are read in any order. -/
theorem collects_onField {known : List (Field Reader σ)}
    (agree : List.Forall₂ (Field.Agrees Takes state) fields known)
    (distinct : (fields.map (·.key)).Nodup) {read last : List String}
    {entries : List (String × Value)} (gathers : Gathers fields read entries last) :
    Collects (onField known) (state read) entries (state last) := by
  induction gathers with
  | nil => exact .nil
  | @known read last written content others member new spells _ ih =>
      obtain ⟨field, found, agrees⟩ := exists_find?_of_agrees agree distinct member
      refine .cons ?_ ih
      simp only [onField, found, agrees.unset read new, Bool.false_eq_true, ↓reduceIte]
      exact (agrees.takes read content spells).readsField
  | unknown unknown simple _ ih =>
      refine .cons ?_ ih
      simp only [onField, find?_of_unknown agree unknown]
      exact Takes.readsField (simple.takes_skipValue.bind fun _ => Reads.pure)

/-- A record is read from whatever spells it. -/
theorem takes_record {left : Nat} (levels : 1 < left) (name : String)
    {known : List (Field Reader σ)} {finish : σ → Except Cause α} {made : α}
    (agree : List.Forall₂ (Field.Agrees Takes state) fields known)
    (distinct : (fields.map (·.key)).Nodup)
    (finishes : ∀ last, (∀ field ∈ fields, field.key ∈ last ∨ field.IsDefault) →
      finish (state last) = .ok made) {content : Value}
    (rewrites : ReflTransGen (RewritesObject (fields.map (·.toFieldFormat)))
      (.object (fields.map WrittenField.entry)) content) :
    Takes (record left name known (state []) finish) content made := by
  obtain ⟨entries, rfl, rewritten⟩ := rewritten_of_rewrites distinct rewrites
  obtain ⟨last, gathers, present⟩ := rewritten.gathers
  rintro _ ⟨⟩
  rename_i parts laid bracketed
  refine accepts_behind_valueToken bracketed.head? (by decide) (by decide) fun rest => ?_
  refine reads_object (by omega) (collects_onField agree distinct gathers)
    (fun text rest read => ?_) laid bracketed
  refine read.bind ?_
  rw [finishes last present]
  exact Reads.pure

end Records

end ClassDiagram.Document
