import ClassDiagram.Proofs.WrittenTexts
import Mathlib.Data.List.Forall2

/-! # Layouts of a document

White space can stand around every mark of a document, so a value is `LaidOut` as many texts; the
one that is `written` is one of them (`ClassDiagram.Document.Value.laidOut_written`).  A reader
`Takes` a value from a content if it accepts every text that the content is laid out as.  A list is
taken if its elements are (`ClassDiagram.Document.reads_list`), and an object if its keys and what
is done with them are (`ClassDiagram.Document.reads_object`).  So every value without numbers is
read back, as long as it is not nested too deep (`ClassDiagram.Document.Value.Fits.takes`).
-/

namespace ClassDiagram.Document

open Reader

variable {α β σ : Type}

section Layouts

/-- Parts behind the first, each behind a comma, and what stands in front of the end. -/
inductive LaterParts : List (List Char) → List Char → Prop
  | nil {gap : List Char} (blank : Gap gap) : LaterParts [] gap
  | cons {gap behind part text : List Char} {parts : List (List Char)} (blank : Gap gap)
      (blankBehind : Gap behind) (others : LaterParts parts text) :
      LaterParts (part :: parts) (gap ++ ',' :: (behind ++ (part ++ text)))

/-- Parts between brackets, with any white space around them. -/
inductive Bracketed (left right : Char) : List (List Char) → List Char → Prop
  | nil {gap : List Char} (blank : Gap gap) : Bracketed left right [] (left :: (gap ++ [right]))
  | cons {gap part text : List Char} {parts : List (List Char)} (blank : Gap gap)
      (others : LaterParts parts text) :
      Bracketed left right (part :: parts) (left :: (gap ++ (part ++ (text ++ [right]))))

mutual

/-- The texts of a value that differ in white space only. -/
inductive Value.LaidOut : Value → List Char → Prop
  | null : Value.LaidOut .null (Value.null.written 0)
  | bool (value : Bool) : Value.LaidOut (.bool value) ((Value.bool value).written 0)
  | number (size : Number) : Value.LaidOut (.number size) ((Value.number size).written 0)
  | text (content : String) : Value.LaidOut (.text content) ((Value.text content).written 0)
  | list {values : List Value} {parts : List (List Char)} {text : List Char}
      (laid : List.Forall₂ Value.LaidOut values parts) (bracketed : Bracketed '[' ']' parts text) :
      Value.LaidOut (.list values) text
  | object {entries : List (String × Value)} {parts : List (List Char)} {text : List Char}
      (laid : List.Forall₂ EntryLaidOut entries parts)
      (bracketed : Bracketed '\x7b' '\x7d' parts text) : Value.LaidOut (.object entries) text

/-- The texts of a field of an object. -/
inductive EntryLaidOut : String × Value → List Char → Prop
  | intro {key : String} {content : Value} {gap behind text : List Char} (blank : Gap gap)
      (blankBehind : Gap behind) (laid : content.LaidOut text) :
      EntryLaidOut (key, content) (writtenText key.toList ++ (gap ++ ':' :: (behind ++ text)))

end

theorem gap_newLine (level : Nat) : Gap (newLine level) := by
  intro c member
  rcases List.mem_cons.mp member with rfl | space
  · decide
  · rw [List.eq_of_mem_replicate space]
    decide

theorem gap_space : Gap [' '] := by
  intro c member
  rw [List.mem_singleton.mp member]
  decide

/-- Parts on lines of their own stand between brackets. -/
theorem bracketed_bracketedLines (left right : Char) (level : Nat) (parts : List (List Char)) :
    Bracketed left right parts (bracketedLines left right level parts) := by
  cases parts with
  | nil => exact .nil Gap.nil
  | cons first more =>
      have later : LaterParts more
          (more.flatMap (fun part => ',' :: newLine (level + 1) ++ part) ++ newLine level) := by
        induction more with
        | nil => exact .nil (gap_newLine level)
        | cons part parts ih =>
            rw [List.flatMap_cons, List.append_assoc, List.cons_append, List.cons_append,
              List.append_assoc]
            exact .cons Gap.nil (gap_newLine (level + 1)) ih
      have bracketed : Bracketed left right (first :: more) _ :=
        .cons (gap_newLine (level + 1)) later
      simp only [bracketedLines, List.cons_append, List.append_assoc] at bracketed ⊢
      exact bracketed

mutual

/-- What is written of a value is one of its layouts. -/
theorem Value.laidOut_written (level : Nat) : (content : Value) →
    content.LaidOut (content.written level)
  | .null => .null
  | .bool true => .bool true
  | .bool false => .bool false
  | .number (.integer size) => .number (.integer size)
  | .number (.fraction negative magnitude) => .number (.fraction negative magnitude)
  | .text content => .text content
  | .list values =>
    .list (forall₂_writtenValues (level + 1) values) (bracketed_bracketedLines ..)
  | .object entries =>
    .object (forall₂_writtenEntries (level + 1) entries) (bracketed_bracketedLines ..)

/-- So are the elements of a list, each by itself. -/
theorem forall₂_writtenValues (level : Nat) : (values : List Value) →
    List.Forall₂ Value.LaidOut values (writtenValues level values)
  | [] => .nil
  | first :: more => .cons (first.laidOut_written level) (forall₂_writtenValues level more)

/-- So are the fields of an object, each with its key. -/
theorem forall₂_writtenEntries (level : Nat) : (entries : List (String × Value)) →
    List.Forall₂ EntryLaidOut entries (writtenEntries level entries)
  | [] => .nil
  | (_, content) :: more =>
    .cons (.intro Gap.nil gap_space (content.laidOut_written level))
      (forall₂_writtenEntries level more)

end

/-- What stands between brackets begins with the left one. -/
theorem Bracketed.head? {left right : Char} {parts : List (List Char)} {text : List Char}
    (bracketed : Bracketed left right parts text) : text.head? = some left := by
  cases bracketed <;> rfl

end Layouts

/-- The reader takes the value from a content, whatever the content is laid out as. -/
def Takes (reader : Reader α) (content : Value) (value : α) : Prop :=
  ∀ ⦃text : List Char⦄, content.LaidOut text → Accepts reader text value

/-- The reader reads the value behind the key of a field with this content. -/
def ReadsField (reader : Reader α) (content : Value) (value : α) : Prop :=
  ∀ ⦃gap behind text : List Char⦄ (rest : List Char), Gap gap → Gap behind →
    content.LaidOut text → Reads reader value (gap ++ ':' :: (behind ++ (text ++ rest))) rest

section Takes

variable {reader : Reader α} {content : Value} {value : α}

/-- What is taken can be made into something else. -/
theorem Takes.bind {next : α → Reader β} {made : β} (takes : Takes reader content value)
    (makes : ∀ rest, Reads (next value) made rest rest) :
    Takes (reader >>= next) content made :=
  fun _ laid => (takes laid).bind makes

theorem Takes.map {change : α → β} {made : β} (takes : Takes reader content value)
    (makes : change value = made) :
    Takes (reader >>= fun value => pure (change value)) content made :=
  takes.bind fun _ => makes ▸ Reads.pure

/-- What is taken is taken behind the colon of a field. -/
theorem Takes.readsField (takes : Takes reader content value) :
    ReadsField (colon >>= fun _ => reader) content value :=
  fun _ _ _ _ blank blankBehind laid => (takes laid).reads_behind_colon blank blankBehind

end Takes

section Lists

variable {reader : Reader α} {rest : List Char}

/-- One round of reading the elements of a list. -/
def elementStep (reader : Reader α) (taken : List α) : Reader (Option (List α)) := do
  if ← nextElement (!false && taken.isEmpty) then
    let element ← reader
    pure (some (element :: taken))
  else
    pure none

/-- The elements of a list behind the first are read one after the other. -/
theorem runs_elementStep {parts : List (List Char)} {values : List α}
    (accepts : List.Forall₂ (Accepts reader) parts values) {text : List Char}
    (later : LaterParts parts text) (last : α) (taken : List α) :
    Runs (elementStep reader) (last :: taken) (text ++ ']' :: rest)
      (values.reverse ++ last :: taken) (']' :: rest) := by
  induction accepts generalizing text last taken with
  | nil =>
      obtain ⟨blank⟩ := later
      exact .ends ((reads_nextElement_end _ blank).bind Reads.pure)
  | @cons part value parts values first others ih =>
      obtain _ | ⟨blank, blankBehind, later⟩ := later
      rw [List.reverse_cons, List.append_assoc values.reverse, List.singleton_append]
      refine .more ?_ ?_ (ih later value (last :: taken))
      · rw [List.append_assoc, List.cons_append, List.append_assoc, List.append_assoc]
        refine (first.reads_later blank blankBehind).bind ?_
        exact (first.reads [] _ Gap.nil).bind Reads.pure
      · simp only [List.length_append, List.length_cons]
        omega

/-- A list is read from its opening bracket on. -/
theorem reads_list {left : Nat} (levels : 0 < left) {parts : List (List Char)} {values : List α}
    (accepts : List.Forall₂ (Accepts reader) parts values) {text : List Char}
    (bracketed : Bracketed '[' ']' parts text) :
    Reads (descend left (inside (elements false reader) closeList)) values (text ++ rest) rest := by
  cases bracketed with
  | nil blank =>
      cases accepts
      rw [List.cons_append, List.append_assoc]
      refine Reads.descend levels (Reads.inside ?_ (reads_closeList Gap.nil))
      have runs : Runs (elementStep reader) [] (_ ++ ']' :: rest) [] (']' :: rest) :=
        .ends ((reads_nextElement_end _ blank).bind Reads.pure)
      exact runs.reads.bind Reads.pure
  | @cons gap part text parts blank later =>
      obtain _ | ⟨first, others⟩ := accepts
      rename_i value values
      rw [List.cons_append, List.append_assoc, List.append_assoc, List.append_assoc]
      refine Reads.descend levels (Reads.inside ?_ (reads_closeList Gap.nil))
      have runs : Runs (elementStep reader) [] (gap ++ (part ++ (text ++ ']' :: rest)))
          (values.reverse ++ [value]) (']' :: rest) := by
        refine .more ?_ ?_ (runs_elementStep others later value [])
        · refine (first.reads_first blank).bind ?_
          exact (first.reads [] _ Gap.nil).bind Reads.pure
        · obtain ⟨c, more, rfl, -, -⟩ := first.begins
          simp only [List.length_append, List.length_cons]
          omega
      have reversed : value :: values = (values.reverse ++ [value]).reverse := by simp
      rw [reversed]
      exact runs.reads.bind Reads.pure

/-- The elements of a list are accepted if they are taken. -/
theorem forall₂_accepts {contents : List Value} {values : List α} {parts : List (List Char)}
    (laid : List.Forall₂ Value.LaidOut contents parts)
    (takes : List.Forall₂ (Takes reader) contents values) :
    List.Forall₂ (Accepts reader) parts values := by
  induction laid generalizing values with
  | nil =>
      cases takes
      exact .nil
  | cons first _ ih =>
      obtain _ | ⟨takesFirst, takesOthers⟩ := takes
      exact .cons (takesFirst first) (ih takesOthers)

end Lists

section Objects

variable {onKey : σ → String → Reader σ} {rest : List Char}

/-- What is done with the fields of an object one after the other. -/
inductive Collects (onKey : σ → String → Reader σ) : σ → List (String × Value) → σ → Prop
  | nil {state : σ} : Collects onKey state [] state
  | cons {state next last : σ} {key : String} {content : Value} {others : List (String × Value)}
      (read : ReadsField (onKey state key) content next) (more : Collects onKey next others last) :
      Collects onKey state ((key, content) :: others) last

/-- One round of reading the fields of an object. -/
def fieldStep (onKey : σ → String → Reader σ) (known : Bool × σ) : Reader (Option (Bool × σ)) := do
  match ← nextKey known.1 with
  | none => pure none
  | some key =>
    let state ← onKey known.2 key
    pure (some (false, state))

/-- At the closing brace there is no key left. -/
theorem reads_nextKey_end (first : Bool) {gap : List Char} (blank : Gap gap) :
    Reads (nextKey first) none (gap ++ '\x7d' :: rest) ('\x7d' :: rest) :=
  (reads_token blank (by decide)).bind Reads.pure

theorem reads_nextKey_key (key : String) :
    Reads nextKey.key (some key) (writtenText key.toList ++ rest) rest :=
  (reads_writtenText key rest).map some

/-- The first key stands behind the opening brace and a gap. -/
theorem reads_nextKey_first (key : String) {gap : List Char} (blank : Gap gap) :
    Reads (nextKey true) (some key) (gap ++ (writtenText key.toList ++ rest)) rest :=
  (reads_token blank (by decide)).bind (reads_nextKey_key key)

/-- Any other key stands behind a comma with gaps around it. -/
theorem reads_nextKey_later (key : String) {gap behind : List Char} (blank : Gap gap)
    (blankBehind : Gap behind) :
    Reads (nextKey false) (some key) (gap ++ ',' :: (behind ++ (writtenText key.toList ++ rest)))
      rest := by
  refine (reads_token blank (by decide)).bind (reads_advance.bind ?_)
  exact (reads_token blankBehind (by decide)).bind (reads_nextKey_key key)

/-- The fields of an object behind the first are read one after the other. -/
theorem runs_fieldStep {entries : List (String × Value)} {state last : σ}
    (collects : Collects onKey state entries last) {parts : List (List Char)}
    (laid : List.Forall₂ EntryLaidOut entries parts) {text : List Char}
    (later : LaterParts parts text) :
    Runs (fieldStep onKey) (false, state) (text ++ '\x7d' :: rest) (false, last)
      ('\x7d' :: rest) := by
  induction collects generalizing parts text with
  | nil =>
      cases laid
      obtain ⟨blank⟩ := later
      exact .ends ((reads_nextKey_end _ blank).bind Reads.pure)
  | cons read more ih =>
      obtain _ | ⟨⟨colonBlank, contentBlank, laidFirst⟩, laidOthers⟩ := laid
      obtain _ | ⟨blank, blankBehind, later⟩ := later
      refine .more ?_ ?_ (ih laidOthers later)
      · simp only [List.append_assoc, List.cons_append]
        refine (reads_nextKey_later _ blank blankBehind).bind ?_
        exact (read _ colonBlank contentBlank laidFirst).bind Reads.pure
      · simp only [List.length_append, List.length_cons]
        omega

/-- An object is read from its opening bracket on, where its contents are made of its fields. -/
theorem reads_object {contents : Reader α} {left : Nat} (levels : 0 < left)
    {entries : List (String × Value)} {start last : σ}
    (collects : Collects onKey start entries last) {value : α}
    (finishes : ∀ text rest, Reads (fields onKey start) last text rest →
      Reads contents value text rest) {parts : List (List Char)}
    (laid : List.Forall₂ EntryLaidOut entries parts) {text : List Char}
    (bracketed : Bracketed '\x7b' '\x7d' parts text) :
    Reads (descend left (inside contents closeObject)) value (text ++ rest) rest := by
  cases bracketed with
  | nil blank =>
      cases laid
      cases collects
      rw [List.cons_append, List.append_assoc]
      refine Reads.descend levels (Reads.inside (finishes _ _ ?_) (reads_closeObject Gap.nil))
      have runs : Runs (fieldStep onKey) (true, start) (_ ++ '\x7d' :: rest) (true, start)
          ('\x7d' :: rest) :=
        .ends ((reads_nextKey_end _ blank).bind Reads.pure)
      exact runs.reads.bind Reads.pure
  | @cons gap part text parts blank later =>
      rw [List.cons_append, List.append_assoc, List.append_assoc, List.append_assoc]
      obtain _ | ⟨laidFirst, laidOthers⟩ := laid
      obtain _ | @⟨_, next, _, key, content, others, read, more⟩ := collects
      obtain @⟨_, _, before, behind, body, colonBlank, contentBlank, laidFirst⟩ := laidFirst
      refine Reads.descend levels (Reads.inside (finishes _ _ ?_) (reads_closeObject Gap.nil))
      have runs : Runs (fieldStep onKey) (true, start) (gap ++ ((writtenText key.toList ++
          (before ++ ':' :: (behind ++ body))) ++ (text ++ '\x7d' :: rest))) (false, last)
          ('\x7d' :: rest) := by
        refine .more ?_ ?_ (runs_fieldStep more laidOthers later)
        · simp only [List.append_assoc, List.cons_append]
          refine (reads_nextKey_first _ blank).bind ?_
          exact (read _ colonBlank contentBlank laidFirst).bind Reads.pure
        · simp only [List.length_append, List.length_cons]
          omega
      exact runs.reads.bind Reads.pure

end Objects

section Values

/-- Values without numbers that are not nested deeper than so many levels. -/
inductive Value.Fits : Nat → Value → Prop
  | null {left : Nat} : Fits (left + 1) .null
  | bool {left : Nat} (value : Bool) : Fits (left + 1) (.bool value)
  | text {left : Nat} (content : String) : Fits (left + 1) (.text content)
  | list {left : Nat} {values : List Value} (fits : ∀ value ∈ values, Fits (left + 1) value) :
      Fits (left + 2) (.list values)
  | object {left : Nat} {entries : List (String × Value)}
      (fits : ∀ entry ∈ entries, Fits (left + 1) entry.2) : Fits (left + 2) (.object entries)

/-- The fields of an object whose contents are values are kept in order. -/
theorem collects_values {reader : Reader Value} {entries : List (String × Value)}
    (takes : ∀ entry ∈ entries, Takes reader entry.2 entry.2) (taken : List (String × Value)) :
    Collects (fun taken key => do
        colon
        let content ← reader
        pure ((key, content) :: taken)) taken entries (entries.reverse ++ taken) := by
  induction entries generalizing taken with
  | nil => exact .nil
  | cons entry entries ih =>
      obtain ⟨key, content⟩ := entry
      rw [List.reverse_cons, List.append_assoc]
      have first := takes (key, content) List.mem_cons_self
      exact .cons (Takes.readsField (first.bind fun _ => Reads.pure))
        (ih (fun other member => takes other (List.mem_cons_of_mem _ member)) _)

/-- A value is read back from whatever it is laid out as. -/
theorem Value.Fits.takes {left : Nat} {content : Value} (fits : content.Fits left) :
    Takes (value left) content content := by
  induction fits with
  | null =>
      rintro _ ⟨⟩
      refine accepts_behind_valueToken rfl (by decide) (by decide) fun rest => ?_
      exact reads_advance.bind ((reads_word _).bind Reads.pure)
  | bool content =>
      rintro _ ⟨⟩
      cases content <;>
        exact accepts_behind_valueToken rfl (by decide) (by decide) fun rest =>
          reads_advance.bind ((reads_word _).bind Reads.pure)
  | text content =>
      rintro _ ⟨⟩
      refine accepts_behind_valueToken rfl (by decide) (by decide) fun rest => ?_
      exact (reads_writtenText content rest).map Value.text
  | @list left values fits ih =>
      rintro _ ⟨⟩
      rename_i parts laid bracketed
      have takes : List.Forall₂ (Takes (value (left + 1))) values values :=
        List.forall₂_same.mpr fun each member => ih each member
      refine accepts_behind_valueToken bracketed.head? (by decide) (by decide) fun rest => ?_
      exact (reads_list (Nat.succ_pos left) (forall₂_accepts laid takes) bracketed).map Value.list
  | @object left entries fits ih =>
      rintro _ ⟨⟩
      rename_i parts laid bracketed
      have collects := collects_values (fun entry member => ih entry member) []
      rw [List.append_nil] at collects
      refine accepts_behind_valueToken bracketed.head? (by decide) (by decide) fun rest => ?_
      have read : Reads _ _ (_ ++ rest) rest :=
        reads_object (Nat.succ_pos left) collects (fun _ _ read => read) laid bracketed
      have object := read.map fun entries => Value.object entries.reverse
      rw [List.reverse_reverse] at object
      exact object

end Values

end ClassDiagram.Document
