import ClassDiagram.Proofs.DeclarationLanguage

/-! # Texts of written types

A text is read as a written type exactly if it is the text of that type, whatever white space stands
around its arguments (`ClassDiagram.Declaration.readTypeRef_eq_ok_iff`).  Reading and writing meet
in the grammar: a phrase that is a written type is spelled like it, and what is spelled like it is
such a phrase wherever no identifier goes on behind it.  A member has the same text as its written
type, so no two written types have the same shape
(`ClassDiagram.Declaration.shape_determines_type`).
-/

namespace ClassDiagram.Declaration

open Reader Phrase

/-- Every name in a written type is one or more identifiers joined by dots. -/
inductive TypeRef.WellFormed : TypeRef → Prop
  | mk {name : String} {arguments : List TypeRef} {rank : Nat} (named : IsDotted name)
      (each : ∀ argument ∈ arguments, argument.WellFormed) : WellFormed ⟨name, arguments, rank⟩

/-- Spaces and tabs, if any. -/
def IsMargin (text : String) : Prop :=
  text.toList ⊆ lineSpace

mutual

/-- A text that differs from `TypeRef.display` at most in the margins of the arguments, at any
depth.  There an argument has no margins but for the space behind a comma. -/
def TypeRef.Spells : TypeRef → String → Prop
  | ⟨name, arguments, rank⟩, text =>
    ∃ parts, SpellsAll arguments parts ∧
      text = name ++ (if arguments.isEmpty then "" else "<" ++ ",".intercalate parts ++ ">") ++
        String.join (List.replicate rank "[]")

/-- The texts of some written types, each with margins on both sides. -/
def SpellsAll : List TypeRef → List String → Prop
  | [], parts => parts = []
  | first :: more, parts =>
    ∃ before text after others, IsMargin before ∧ first.Spells text ∧ IsMargin after ∧
      SpellsAll more others ∧ parts = (before ++ text ++ after) :: others

end

section Display

/-- What is joined by commas and spaces is joined by commas, if every part but the first begins with
a space. -/
theorem intercalate_comma_space (first : String) (more : List String) :
    ", ".intercalate (first :: more) = ",".intercalate (first :: more.map (" " ++ ·)) := by
  induction more generalizing first with
  | nil => rfl
  | cons second others ih =>
      have mark : ", " = "," ++ " " := rfl
      rw [String.intercalate_cons_cons, List.map_cons, String.intercalate_cons_cons, ih,
        String.intercalate_cons_append, mark]
      simp only [String.append_assoc]

/-- A space in front of every argument is a margin. -/
theorem spellsAll_of_space {more : List TypeRef} (each : ∀ type ∈ more, type.Spells type.display) :
    SpellsAll more ((displayAll more).map (" " ++ ·)) := by
  have space : IsMargin " " := by simp [IsMargin, lineSpace]
  induction more with
  | nil => rfl
  | cons first others ih =>
      exact ⟨" ", first.display, "", _, space, each first List.mem_cons_self, List.nil_subset _,
        ih fun type later => each type (List.mem_cons_of_mem _ later), by simp [displayAll]⟩

mutual

/-- A written type is spelled the way it is displayed. -/
theorem TypeRef.spells_display : (type : TypeRef) → type.Spells type.display
  | ⟨name, [], rank⟩ => ⟨[], rfl, rfl⟩
  | ⟨name, first :: more, rank⟩ => by
      have each := spells_displayAll more
      refine ⟨first.display :: (displayAll more).map (" " ++ ·), ⟨"", first.display, "", _,
        List.nil_subset _, first.spells_display, List.nil_subset _, spellsAll_of_space each,
        by simp⟩, ?_⟩
      rw [← intercalate_comma_space]
      rfl

/-- So is each of its arguments. -/
theorem spells_displayAll : (types : List TypeRef) → ∀ type ∈ types, type.Spells type.display
  | [] => fun _ member => nomatch member
  | first :: more => List.forall_mem_cons.mpr ⟨first.spells_display, spells_displayAll more⟩

end

end Display

section Grammar

variable {name : String} {type : TypeRef} {arguments : List TypeRef} {rank : Nat}
  {text rest : List Char} {parts : List (List Char)}

/-- Words with dots between them are spelled like that. -/
theorem eq_of_joined_dot (words : Joined Word Dot parts text rest) :
    text = ['.'].intercalate parts ++ rest := by
  induction words with
  | last only =>
      rw [List.intercalate_singleton]
      exact only.spelled
  | @more word words _ _ _ _ first gap others ih =>
      cases words with
      | nil => cases others
      | cons second more =>
          rw [first.spelled, show _ = _ from gap, ih, List.intercalate_cons_cons]
          simp only [List.append_assoc, List.cons_append, List.nil_append]

/-- Identifiers with dots between them are words, unless an identifier goes on behind them. -/
theorem joined_dot_of_isIdentifier (nonempty : parts ≠ [])
    (identifiers : ∀ part ∈ parts, IsIdentifier part) (ends : EndsWord rest) :
    Joined Word Dot parts (['.'].intercalate parts ++ rest) rest := by
  induction parts with
  | nil => exact (nonempty rfl).elim
  | cons first more ih =>
      obtain ⟨identifier, others⟩ := List.forall_mem_cons.mp identifiers
      cases more with
      | nil =>
          rw [List.intercalate_singleton]
          exact .last ⟨identifier, rfl, ends⟩
      | cons second more =>
          rw [List.intercalate_cons_cons, List.append_assoc, List.append_assoc]
          exact .more ⟨identifier, rfl, endsWord_cons (by decide)⟩ rfl
            (ih (List.cons_ne_nil _ _) others)

theorem Phrase.Name.spelled (read : Name name text rest) : text = name.toList ++ rest := by
  cases read with
  | mk words => rw [String.toList_ofList, eq_of_joined_dot words]

/-- A dotted name is read as one where no identifier goes on behind it. -/
theorem name_of_isDotted (dotted : IsDotted name) (ends : EndsWord rest) :
    Name name (name.toList ++ rest) rest := by
  obtain ⟨parts, nonempty, identifiers, spelled⟩ := dotted
  obtain rfl := String.toList_inj.mp (spelled.trans String.toList_ofList.symm)
  rw [spelled]
  exact .mk (joined_dot_of_isIdentifier nonempty identifiers ends)

/-- Pairs of brackets are as many as the rank. -/
theorem Phrase.Brackets.spelled (read : Brackets rank text rest) :
    text = (String.join (List.replicate rank "[]")).toList ++ rest := by
  induction read with
  | none => rfl
  | pair _ ih =>
      rw [List.replicate_succ, String.join_cons, ih]
      simp

variable (rank rest) in
/-- As many pairs of brackets as the rank are the brackets of that rank. -/
theorem brackets_join :
    Brackets rank ((String.join (List.replicate rank "[]")).toList ++ rest) rest := by
  induction rank with
  | zero => exact .none
  | succ rank ih =>
      rw [List.replicate_succ, String.join_cons]
      simpa using ih.pair

/-- There are as many texts as arguments. -/
theorem ne_nil_of_spellsAll {texts : List String} (spells : SpellsAll arguments texts)
    (filled : arguments ≠ []) : texts ≠ [] := by
  cases arguments with
  | nil => exact (filled rfl).elim
  | cons first more =>
      obtain ⟨_, _, _, _, _, _, _, _, rfl⟩ := spells
      exact List.cons_ne_nil _ _

/-- Spaces and tabs in front of a text are a margin. -/
theorem Phrase.Run.exists_margin (run : Run lineSpace text rest) :
    ∃ margin, IsMargin margin ∧ text = margin.toList ++ rest := by
  obtain ⟨taken, spelled, among⟩ := run.exists_taken
  exact ⟨String.ofList taken, by rwa [IsMargin, String.toList_ofList],
    by rwa [String.toList_ofList]⟩

mutual

/-- A phrase that is a written type is spelled like it. -/
theorem Phrase.Ref.spelled {type : TypeRef} {text rest : List Char} : Ref type text rest →
    type.WellFormed ∧ ∃ spelled, type.Spells spelled ∧ text = spelled.toList ++ rest
  | .mk named listed ranked => by
      obtain ⟨each, parts, spelled, inside⟩ := listed.spelled
      refine ⟨.mk named.isDotted each, _, ⟨parts, spelled, rfl⟩, ?_⟩
      rw [named.spelled, inside, ranked.spelled]
      simp only [String.toList_append, List.append_assoc]

/-- Its arguments are spelled in angle brackets, if there are any. -/
theorem Phrase.Arguments.spelled {arguments : List TypeRef} {text rest : List Char} :
    Arguments arguments text rest → (∀ argument ∈ arguments, argument.WellFormed) ∧
      ∃ parts, SpellsAll arguments parts ∧
        text = (if arguments.isEmpty then "" else "<" ++ ",".intercalate parts ++ ">").toList ++
          rest
  | .none => ⟨List.forall_mem_nil _, [], rfl, rfl⟩
  | .some inside => by
      obtain ⟨filled, each, parts, spelled, rfl⟩ := inside.spelled
      refine ⟨each, parts, spelled, ?_⟩
      rw [List.isEmpty_eq_false_iff.mpr filled]
      simp

/-- Between the brackets each argument is spelled with its margins. -/
theorem Phrase.ArgumentList.spelled {arguments : List TypeRef} {text rest : List Char} :
    ArgumentList arguments text rest → arguments ≠ [] ∧
      (∀ argument ∈ arguments, argument.WellFormed) ∧
      ∃ parts, SpellsAll arguments parts ∧ text = (",".intercalate parts).toList ++ rest
  | .last before only after => by
      obtain ⟨formed, spelled, spells, rfl⟩ := only.spelled
      obtain ⟨left, leftMargin, rfl⟩ := before.exists_margin
      obtain ⟨right, rightMargin, rfl⟩ := after.exists_margin
      refine ⟨List.cons_ne_nil _ _, List.forall_mem_singleton.mpr formed,
        [left ++ spelled ++ right],
        ⟨left, spelled, right, [], leftMargin, spells, rightMargin, rfl, rfl⟩, ?_⟩
      simp
  | .more before first after others => by
      obtain ⟨formed, spelled, spells, rfl⟩ := first.spelled
      obtain ⟨left, leftMargin, rfl⟩ := before.exists_margin
      obtain ⟨right, rightMargin, rfl⟩ := after.exists_margin
      obtain ⟨filled, each, parts, spellsAll, rfl⟩ := others.spelled
      refine ⟨List.cons_ne_nil _ _, List.forall_mem_cons.mpr ⟨formed, each⟩,
        (left ++ spelled ++ right) :: parts,
        ⟨left, spelled, right, parts, leftMargin, spells, rightMargin, spellsAll, rfl⟩, ?_⟩
      rw [String.intercalate_cons_of_ne_nil (ne_nil_of_spellsAll spellsAll filled)]
      simp

end

/-- No identifier goes on with a mark. -/
theorem EndsWord.append {front : List Char} (ends : EndsWord rest)
    (marks : front ⊆ punctuation) : EndsWord (front ++ rest) := by
  cases front with
  | nil => exact ends
  | cons c more =>
      exact endsWord_cons (isIdentifierPart_of_mem_punctuation c (marks List.mem_cons_self))

/-- No identifier goes on with a margin. -/
theorem EndsWord.margin {margin : String} (ends : EndsWord rest) (blank : IsMargin margin) :
    EndsWord (margin.toList ++ rest) :=
  ends.append (List.Subset.trans blank (by decide))

variable (rank) in
theorem EndsWord.brackets (ends : EndsWord rest) :
    EndsWord ((String.join (List.replicate rank "[]")).toList ++ rest) := by
  refine ends.append fun c member => ?_
  rw [String.toList_join] at member
  obtain ⟨pair, among, inside⟩ := List.mem_flatMap.mp member
  rw [List.eq_of_mem_replicate among] at inside
  have marks : "[]".toList ⊆ punctuation := by decide
  exact marks inside

/-- Arguments that are spelled with margins and commas are an argument list, if each of them is a
written type. -/
theorem argumentList_of_spellsAll {texts : List String} (spells : SpellsAll arguments texts)
    (filled : arguments ≠ []) (ends : EndsWord rest)
    (each : ∀ argument ∈ arguments, ∀ spelled rest, argument.Spells spelled → EndsWord rest →
      Ref argument (spelled.toList ++ rest) rest) :
    ArgumentList arguments ((",".intercalate texts).toList ++ rest) rest := by
  induction arguments generalizing texts with
  | nil => exact (filled rfl).elim
  | cons first more ih =>
      obtain ⟨before, spelled, after, others, beforeMargin, spelling, afterMargin, spells, rfl⟩ :=
        spells
      have read := fun rest => each first List.mem_cons_self spelled rest spelling
      cases more with
      | nil =>
          obtain rfl : others = [] := spells
          simp only [String.intercalate_singleton, String.toList_append, List.append_assoc]
          exact .last (run_append beforeMargin) (read _ (ends.margin afterMargin))
            (run_append afterMargin)
      | cons second more =>
          have behind := ih spells (List.cons_ne_nil _ _)
            fun argument member => each argument (List.mem_cons_of_mem _ member)
          rw [String.intercalate_cons_of_ne_nil (ne_nil_of_spellsAll spells (List.cons_ne_nil _ _))]
          simp only [String.toList_append, List.append_assoc]
          have comma : EndsWord (',' :: ((",".intercalate others).toList ++ rest)) :=
            endsWord_cons (by decide)
          exact .more (run_append beforeMargin) (read _ (comma.margin afterMargin))
            (run_append afterMargin) behind

/-- What is spelled like a written type is one where no identifier goes on behind it. -/
theorem TypeRef.WellFormed.ref (formed : type.WellFormed) {spelled : String}
    (spells : type.Spells spelled) (ends : EndsWord rest) :
    Ref type (spelled.toList ++ rest) rest := by
  induction formed generalizing spelled rest with
  | @mk name arguments rank named each ih =>
      obtain ⟨parts, spellsAll, rfl⟩ := spells
      have ranked := brackets_join rank rest
      simp only [String.toList_append, List.append_assoc]
      cases arguments with
      | nil => exact .mk (name_of_isDotted named (ends.brackets rank)) .none ranked
      | cons first more =>
          have close :
              EndsWord ('>' :: ((String.join (List.replicate rank "[]")).toList ++ rest)) :=
            endsWord_cons (by decide)
          have listed := argumentList_of_spellsAll spellsAll (List.cons_ne_nil _ _) close
            fun argument member _ _ => ih argument member
          have angled : (if (first :: more).isEmpty then "" else
              "<" ++ ",".intercalate parts ++ ">").toList =
                '<' :: ((",".intercalate parts).toList ++ ['>']) := by
            simp
          rw [angled, List.cons_append, List.append_assoc]
          exact .mk (name_of_isDotted named (endsWord_cons (by decide))) (.some listed) ranked

end Grammar

/-- What is read as a written type is the whole text. -/
theorem readTypeRef_eq_ok {text : String} {type : TypeRef} :
    readTypeRef text = .ok type ↔ Ref type text.toList [] := by
  unfold readTypeRef
  rw [read_eq_ok]
  constructor
  · rintro ⟨reached, result⟩
    exact (sound_wholeTypeRef result).1
  · intro read
    obtain ⟨behind, result⟩ := reads_wholeTypeRef read 0
    exact ⟨_, result⟩

/-- A text is read as a written type exactly if it is spelled like one whose names can be
written. -/
theorem readTypeRef_eq_ok_iff_spells {text : String} {type : TypeRef} :
    readTypeRef text = .ok type ↔ type.WellFormed ∧ type.Spells text := by
  rw [readTypeRef_eq_ok]
  constructor
  · intro read
    obtain ⟨formed, spelled, spells, same⟩ := read.spelled
    rw [List.append_nil, String.toList_inj] at same
    exact ⟨formed, same ▸ spells⟩
  · rintro ⟨formed, spells⟩
    have read : Ref type (text.toList ++ []) [] := formed.ref spells fun _ head => nomatch head
    rwa [List.append_nil] at read

/-- **Written types are read back.** A text is read as a written type exactly if the names in that
type are identifiers joined by dots and the text is that of the type, with any spaces and tabs
around its arguments.  So the text of a type is read as that type, and no text is that of two
types. -/
theorem readTypeRef_eq_ok_iff :
    (∀ text type, readTypeRef text = .ok type ↔ type.WellFormed ∧ type.Spells text) ∧
      (∀ type, readTypeRef type.display = .ok type ↔ type.WellFormed) ∧
      ∀ text, {type : TypeRef | type.WellFormed ∧ type.Spells text}.Subsingleton := by
  refine ⟨fun _ _ => readTypeRef_eq_ok_iff_spells, fun type => ?_, fun text => ?_⟩
  · rw [readTypeRef_eq_ok_iff_spells]
    exact and_iff_left type.spells_display
  · rintro left leftSpelled right rightSpelled
    have leftRead := readTypeRef_eq_ok_iff_spells.mpr leftSpelled
    have rightRead := readTypeRef_eq_ok_iff_spells.mpr rightSpelled
    exact Except.ok.inj (leftRead.symm.trans rightRead)

/-- Margins can be as wide as one likes, but not stand in front of an array bracket. -/
example :
    ["Map< String ,List<\tWing >>[]", "Map<String, List<Wing>> []"].map
        (fun text => (readTypeRef text).toOption.map TypeRef.display) =
      [some "Map<String, List<Wing>>[]", none] := by
  decide +kernel

section Shapes

variable {iterable : String → Bool} {type : TypeRef}

/-- A member is displayed like its written type. -/
theorem display_shape (iterable : String → Bool) (type : TypeRef) :
    (type.shape iterable).display = type.display := by
  obtain ⟨name, arguments, rank⟩ := type
  cases rank with
  | succ rank =>
      have last : String.join (List.replicate (rank + 1) "[]") =
          String.join (List.replicate rank "[]") ++ "[]" := by
        simp [List.replicate_succ', String.join_append]
      simp only [TypeRef.shape, Shape.array, Shape.display, TypeRef.display, last,
        List.isEmpty_nil, ↓reduceIte, String.append_assoc]
  | zero =>
      cases arguments with
      | nil => simp [TypeRef.shape, Shape.display, TypeRef.display]
      | cons first more =>
          have listed : (displayAll (first :: more)).isEmpty = false := rfl
          simp only [TypeRef.shape, TypeRef.display]
          split
          · simp [Shape.display, listed, String.append_assoc]
          · simp [Shape.wrapper, Shape.display, listed, String.append_assoc]

/-- The text of a shape is read back as the type that it was made from. -/
theorem readTypeRef_display_shape :
    readTypeRef (type.shape iterable).display = .ok type ↔ type.WellFormed := by
  rw [display_shape, readTypeRef_eq_ok_iff_spells]
  exact and_iff_left type.spells_display

/-- **A shape keeps the written type.** Whichever containers range over their arguments, a member is
displayed like its written type.  If the names in the type are identifiers joined by dots, and only
then, the display of its shape is read as the type again, which has the same shape again; and no
other such type has that shape, even where other containers range over their arguments. -/
theorem shape_determines_type (iterable : String → Bool) (type : TypeRef) :
    (type.shape iterable).display = type.display ∧
      (readTypeRef (type.shape iterable).display = .ok type ↔ type.WellFormed) ∧
      (type.WellFormed → (readTypeRef (type.shape iterable).display).map (·.shape iterable) =
        .ok (type.shape iterable)) ∧
      ∀ (other : TypeRef) (otherIterable : String → Bool), type.WellFormed → other.WellFormed →
        other.shape otherIterable = type.shape iterable → other = type := by
  refine ⟨display_shape iterable type, readTypeRef_display_shape, fun formed => ?_, ?_⟩
  · rw [readTypeRef_display_shape.mpr formed]
    rfl
  · intro other otherIterable formed otherFormed same
    have read : readTypeRef (other.shape otherIterable).display = .ok other :=
      readTypeRef_display_shape.mpr otherFormed
    rw [same] at read
    exact Except.ok.inj (read.symm.trans (readTypeRef_display_shape.mpr formed))

/-- An array of maps to lists, where lists range over their arguments or nothing does. -/
theorem shape_determines_array_of_maps :
    let text := "Map<String, List<zoo.Wing[]>>[]"
    let type : TypeRef := ⟨"Map", [⟨"String", [], 0⟩, ⟨"List", [⟨"zoo.Wing", [], 1⟩], 0⟩], 1⟩
    (type.shape (· == "List")).display = text ∧
      readTypeRef (type.shape (· == "List")).display = .ok type ∧
      (readTypeRef (type.shape (· == "List")).display).map (·.shape (· == "List")) =
        .ok (.array "Map<String, List<zoo.Wing[]>>") ∧
      ∀ other : TypeRef, other.WellFormed →
        other.shape (fun _ => false) = .array "Map<String, List<zoo.Wing[]>>" → other = type := by
  intro text type
  have formed : type.WellFormed := by
    have map : IsDotted "Map" := ⟨[['M', 'a', 'p']], by decide, by decide, by decide⟩
    have string : IsDotted "String" :=
      ⟨[['S', 't', 'r', 'i', 'n', 'g']], by decide, by decide, by decide⟩
    have list : IsDotted "List" := ⟨[['L', 'i', 's', 't']], by decide, by decide, by decide⟩
    have wing : IsDotted "zoo.Wing" :=
      ⟨[['z', 'o', 'o'], ['W', 'i', 'n', 'g']], by decide, by decide, by decide⟩
    have wings : TypeRef.WellFormed ⟨"zoo.Wing", [], 1⟩ := .mk wing (List.forall_mem_nil _)
    have inner : TypeRef.WellFormed ⟨"List", [⟨"zoo.Wing", [], 1⟩], 0⟩ :=
      .mk list (List.forall_mem_singleton.mpr wings)
    exact .mk map (List.forall_mem_cons.mpr
      ⟨.mk string (List.forall_mem_nil _), List.forall_mem_singleton.mpr inner⟩)
  obtain ⟨displayed, read, again, only⟩ := shape_determines_type (· == "List") type
  exact ⟨displayed.trans (by decide), read.mpr formed, again formed,
    fun other otherFormed same => only other _ formed otherFormed same⟩

end Shapes

end ClassDiagram.Declaration
