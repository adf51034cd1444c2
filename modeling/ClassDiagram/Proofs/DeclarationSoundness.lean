import ClassDiagram.Proofs.ReaderLaws
import Mathlib.Data.List.TakeWhile

/-! # What is read from a declaration source

Every reader of the declaration language reads the phrase of the grammar that it is named for, so a
source that is accepted is one of the grammar (`ClassDiagram.Declaration.sound_source`).
-/

namespace ClassDiagram.Declaration

open Reader Phrase

/-- What is read is the next character, and it is accepted. -/
theorem sound_satisfying {accepts : Char → Bool} {remark : Complaint → Remark}
    {expected : List Expectation} : Sound (Reader.satisfying accepts remark expected)
      fun c text rest => accepts c = true ∧ text = c :: rest := by
  rintro ⟨text, offset⟩ c reached result
  cases text with
  | nil => cases result
  | cons first more =>
      unfold Reader.satisfying at result
      simp only at result
      split at result
      · rename_i accepted
        cases result
        exact ⟨accepted, rfl⟩
      · cases result

theorem sound_oneOf {among : List Char} :
    Sound (oneOf among) fun c text rest => c ∈ among ∧ text = c :: rest :=
  sound_satisfying.mono fun _ _ _ ⟨accepted, spelled⟩ =>
    ⟨List.contains_iff_mem.mp accepted, spelled⟩

theorem sound_character {c : Char} : Sound (character c) fun _ text rest => text = c :: rest := by
  intro cursor value reached result
  obtain ⟨found, middle, read, rest⟩ := bind_eq_some.mp result
  obtain ⟨-, rfl⟩ := pure_eq_some.mp rest
  obtain ⟨among, spelled⟩ := sound_oneOf read
  rwa [List.mem_singleton.mp among] at spelled

/-- The characters that are read stand there in this order. -/
theorem sound_characters {word : List Char} :
    Sound (characters word) fun _ text rest => text = word ++ rest := by
  induction word with
  | nil =>
      intro cursor value reached result
      obtain ⟨-, rfl⟩ := pure_eq_some.mp result
      rfl
  | cons c more ih =>
      intro cursor value reached result
      obtain ⟨found, middle, read, rest⟩ := bind_eq_some.mp result
      rw [sound_character read, ih rest]
      rfl

/-- What is read are accepted characters, and the next is none of them. -/
theorem sound_spanning {accepts : Char → Bool} {remark : Complaint → Remark}
    {expected : List Expectation} : Sound (spanning accepts remark expected)
      fun taken text rest => text = taken ++ rest ∧ (∀ c ∈ taken, accepts c = true) ∧
        ∀ c ∈ rest.head?, accepts c = false := by
  intro cursor taken reached result
  cases result
  refine ⟨List.takeWhile_append_dropWhile.symm, fun c => List.mem_takeWhile_imp, ?_⟩
  intro c head
  have stopped := List.head?_dropWhile_not accepts cursor.rest
  rw [Option.mem_def.mp head] at stopped
  simpa using stopped

/-- Characters from some in front of a text are a run of them. -/
theorem run_append {among taken rest : List Char} (accepted : taken ⊆ among) :
    Run among (taken ++ rest) rest := by
  induction taken with
  | nil => exact .stop
  | cons c more ih =>
      exact .step (accepted List.mem_cons_self)
        (ih fun later member => accepted (List.mem_cons_of_mem _ member))

/-- What is read of some characters is a run of them. -/
theorem sound_allOf {among : List Char} : Sound (allOf among) fun _ => Run among := by
  intro cursor taken reached result
  obtain ⟨spelled, accepted, -⟩ := sound_spanning result
  rw [spelled]
  exact run_append fun c member => List.contains_iff_mem.mp (accepted c member)

/-- What is read as white space is a run of its characters. -/
theorem sound_blanks : Sound blanks fun _ => Run whiteSpace := by
  intro cursor value reached result
  obtain ⟨taken, middle, read, rest⟩ := bind_eq_some.mp result
  obtain ⟨-, rfl⟩ := pure_eq_some.mp rest
  exact sound_allOf read

theorem sound_inlineBlanks : Sound inlineBlanks fun _ => Run lineSpace := by
  intro cursor value reached result
  obtain ⟨taken, middle, read, rest⟩ := bind_eq_some.mp result
  obtain ⟨-, rfl⟩ := pure_eq_some.mp rest
  exact sound_allOf read

/-- Where white space has to be there is some. -/
theorem sound_requiredBlanks : Sound requiredBlanks fun _ => Blanks := by
  intro cursor value reached result
  obtain ⟨c, middle, read, more⟩ := bind_eq_some.mp result
  obtain ⟨among, spelled⟩ := sound_oneOf read
  rw [spelled]
  exact .mk among (sound_blanks more)

/-- A comment that is read goes up to a line break or to the end. -/
theorem sound_lineComment : Sound lineComment fun _ text rest =>
    ∃ remark, text = '/' :: '/' :: (remark ++ rest) ∧ '\n' ∉ remark ∧
      ∀ c ∈ rest.head?, c = '\n' := by
  intro cursor value reached result
  obtain ⟨_, opened, slashes, rest⟩ := bind_eq_some.mp result
  obtain ⟨remark, middle, read, rest⟩ := bind_eq_some.mp rest
  obtain ⟨-, rfl⟩ := pure_eq_some.mp rest
  obtain ⟨spelled, line, ends⟩ := sound_spanning read
  refine ⟨remark, ?_, fun inside => ?_, fun c head => ?_⟩
  · rw [sound_characters slashes, spelled]
    rfl
  · simpa using line '\n' inside
  · simpa using ends c head

/-- Each piece that is read as trivia is white space or a comment. -/
theorem sound_trivia : Sound trivia fun _ => Trivia := by
  intro cursor value reached result
  obtain ⟨pieces, middle, read, rest⟩ := bind_eq_some.mp result
  obtain ⟨-, rfl⟩ := pure_eq_some.mp rest
  have piece : Sound (either (do
      let _ ← oneOf blankCharacters
      pure ()) lineComment) fun _ text rest =>
        ∀ behind, Trivia rest behind → Trivia text behind := by
    intro cursor value reached result behind more
    rcases either_eq_some.mp result with blank | ⟨-, comment⟩
    · obtain ⟨c, middle, read, rest⟩ := bind_eq_some.mp blank
      obtain ⟨-, rfl⟩ := pure_eq_some.mp rest
      obtain ⟨among, spelled⟩ := sound_oneOf read
      rw [spelled]
      exact .blank among more
    · obtain ⟨remark, spelled, line, ends⟩ := sound_lineComment comment
      rw [spelled]
      exact .comment line ends more
  exact piece.many (fun _ => Trivia) (fun text => .stop)
    (fun _ _ _ _ rest first more => first rest more) read

/-- An identifier that is read is not the beginning of a longer one. -/
theorem sound_identifier : Sound identifier Word := by
  intro cursor word reached result
  obtain ⟨first, middle, read, rest⟩ := bind_eq_some.mp result
  obtain ⟨others, more, rfl⟩ := map_eq_some.mp rest
  obtain ⟨begins, spelled⟩ := sound_satisfying read
  obtain ⟨followed, parts, longest⟩ := sound_spanning more
  exact ⟨⟨begins, parts⟩, by rw [spelled, followed]; rfl, longest⟩

/-- A keyword is read only where it stands as a word. -/
theorem sound_keyword {word : List Char} : Sound (keyword word) fun _ => Word word := by
  intro cursor value reached result
  unfold keyword at result
  simp only at result
  split at result
  · cases result
  · rename_i found middle read
    split at result
    · rename_i same
      cases result
      exact same ▸ sound_identifier read
    · cases result

/-- The name that is read joins the words that stand there by dots. -/
theorem sound_typeName : Sound typeName Name := by
  intro cursor name reached result
  obtain ⟨parts, middle, read, rest⟩ := bind_eq_some.mp result
  obtain ⟨rfl, rfl⟩ := pure_eq_some.mp rest
  rw [dotted_eq_intercalate]
  exact .mk (sound_identifier.separated sound_character read)

/-- An argument is read with the gaps around it. -/
theorem sound_argument {type : Reader TypeRef} (sound : Sound type Ref) :
    Sound (argument type) fun argument text rest => ∃ start behind,
      Run lineSpace text start ∧ Ref argument start behind ∧
        Run lineSpace behind rest := by
  intro cursor argument reached result
  obtain ⟨_, start, before, result⟩ := bind_eq_some.mp result
  obtain ⟨found, behind, read, result⟩ := bind_eq_some.mp result
  obtain ⟨_, rest, after, result⟩ := bind_eq_some.mp result
  obtain ⟨rfl, rfl⟩ := pure_eq_some.mp result
  exact ⟨start.rest, behind.rest, sound_inlineBlanks before, sound read, sound_inlineBlanks after⟩

/-- Arguments with gaps around them and commas between them are an argument list. -/
theorem argumentList_of_joined {arguments : List TypeRef} {text rest : List Char}
    (joined : Joined (fun argument text rest => ∃ start behind,
      Run lineSpace text start ∧ Ref argument start behind ∧
        Run lineSpace behind rest) (fun text rest => text = ',' :: rest)
      arguments text rest) : ArgumentList arguments text rest := by
  induction joined with
  | last only =>
      obtain ⟨start, behind, before, read, after⟩ := only
      exact .last before read after
  | more first gap _ ih =>
      obtain ⟨start, behind, before, read, after⟩ := first
      exact .more before read (gap ▸ after) ih

/-- The arguments that are read stand between angle brackets. -/
theorem sound_argumentList {type : Reader TypeRef} (sound : Sound type Ref) :
    Sound (argumentList type) fun arguments text rest =>
      ∃ inside, text = '<' :: inside ∧ ArgumentList arguments inside ('>' :: rest) := by
  intro cursor arguments reached result
  obtain ⟨_, inside, opened, result⟩ := bind_eq_some.mp result
  obtain ⟨found, ending, read, result⟩ := bind_eq_some.mp result
  obtain ⟨_, behind, closed, result⟩ := bind_eq_some.mp result
  obtain ⟨rfl, rfl⟩ := pure_eq_some.mp result
  have joined := (sound_argument sound).separated sound_character read
  rw [sound_character closed] at joined
  exact ⟨inside.rest, sound_character opened, argumentList_of_joined joined⟩

/-- Pairs of brackets that are read are counted by what is read of them. -/
theorem brackets_of_many : Sound (many (characters ['[', ']'])) fun pairs text rest =>
    Brackets pairs.length text rest :=
  sound_characters.many _ (fun _ => .none) fun _ _ _ _ _ spelled more => by
    rw [spelled]
    exact .pair more

/-- Within any depth, what is read is the written type. -/
theorem sound_typeRefWithin {depth : Nat} : Sound (typeRefWithin depth) Ref := by
  induction depth with
  | zero => exact fun _ _ _ result => nomatch result
  | succ depth ih =>
      intro cursor type reached result
      obtain ⟨name, behindName, named, result⟩ := bind_eq_some.mp result
      obtain ⟨arguments, behindArguments, listed, result⟩ := bind_eq_some.mp result
      obtain ⟨pairs, behind, ranked, result⟩ := bind_eq_some.mp result
      obtain ⟨rfl, rfl⟩ := pure_eq_some.mp result
      have maybe {arguments : Option (List TypeRef)} {text rest : List Char}
          (there : Maybe (fun arguments text rest => ∃ inside, text = '<' :: inside ∧
            ArgumentList arguments inside ('>' :: rest)) arguments text rest) :
          Arguments (arguments.getD []) text rest := by
        cases there with
        | absent => exact .none
        | present there =>
            obtain ⟨inside, rfl, read⟩ := there
            exact .some read
      exact .mk (sound_typeName named) (maybe ((sound_argumentList ih).optional listed))
        (brackets_of_many ranked)

theorem sound_typeRef : Sound typeRef Ref :=
  fun _ _ _ result => sound_typeRefWithin result

theorem sound_semicolon : Sound semicolon Semicolon := by
  intro cursor value reached result
  obtain ⟨_, middle, before, closed⟩ := bind_eq_some.mp result
  exact .mk (sound_character closed ▸ sound_inlineBlanks before)

/-- Every character that is read as a mark stands for a visibility. -/
theorem exists_ofMark? {c : Char} (among : c ∈ visibilityMarks) :
    ∃ visibility, Visibility.ofMark? c = some visibility := by
  simp only [visibilityMarks, List.mem_cons, List.not_mem_nil, or_false] at among
  obtain rfl | rfl | rfl | rfl := among <;> exact ⟨_, rfl⟩

/-- The reader knows the marks of the grammar and what they mean. -/
theorem mark_iff {c : Char} {visibility : Visibility} {rest : List Char} :
    Mark visibility (c :: rest) rest ↔
      c ∈ visibilityMarks ∧ Visibility.ofMark? c = some visibility := by
  constructor
  · intro mark
    cases mark with
    | plus | minus | hash | tilde => exact ⟨by decide, rfl⟩
  · rintro ⟨among, meant⟩
    simp only [visibilityMarks, List.mem_cons, List.not_mem_nil, or_false] at among
    obtain rfl | rfl | rfl | rfl := among <;> cases meant
    · exact .plus
    · exact .minus
    · exact .hash
    · exact .tilde

/-- What a mark that may be absent means is read as such. -/
theorem sound_mark : Sound (optional (oneOf visibilityMarks)) fun mark =>
    Maybe Mark (mark.bind Visibility.ofMark?) := by
  refine Sound.mono (Sound.optional sound_oneOf) fun mark text rest read => ?_
  cases read with
  | absent => exact .absent
  | @present c _ _ there =>
      obtain ⟨among, spelled⟩ := there
      obtain ⟨visibility, meant⟩ := exists_ofMark? among
      rw [Option.bind_some, meant, spelled]
      exact .present (mark_iff.mpr ⟨among, meant⟩)

/-- A member that is read has the mark, the name and the type that are written there. -/
theorem sound_member : Sound member Phrase.Member := by
  intro cursor written reached result
  obtain ⟨mark, behindMark, marked, result⟩ := bind_eq_some.mp result
  obtain ⟨_, start, beforeWord, result⟩ := bind_eq_some.mp result
  obtain ⟨word, behindWord, named, result⟩ := bind_eq_some.mp result
  obtain ⟨_, colon, beforeColon, result⟩ := bind_eq_some.mp result
  obtain ⟨_, behindColon, divided, result⟩ := bind_eq_some.mp result
  obtain ⟨_, typeStart, afterColon, result⟩ := bind_eq_some.mp result
  obtain ⟨type, behindType, typed, result⟩ := bind_eq_some.mp result
  obtain ⟨ended, behind, ends, result⟩ := bind_eq_some.mp result
  obtain ⟨rfl, rfl⟩ := pure_eq_some.mp result
  exact .mk (sound_mark marked) (sound_inlineBlanks beforeWord) (sound_identifier named)
    (sound_character divided ▸ sound_inlineBlanks beforeColon) (sound_inlineBlanks afterColon)
    (sound_typeRef typed) (sound_semicolon.optional ends)

/-- A clause that is read begins with its word, behind white space. -/
theorem sound_clause {α : Type} {reader : Reader α} {phrase : α → List Char → List Char → Prop}
    (sound : Sound reader phrase) (word : String) :
    Sound (clause word.toList reader) (Clause word phrase) := by
  intro cursor value reached result
  obtain ⟨_, start, before, result⟩ := bind_eq_some.mp result
  obtain ⟨_, behind, opened, result⟩ := bind_eq_some.mp result
  obtain ⟨_, next, after, read⟩ := bind_eq_some.mp result
  exact .mk (sound_requiredBlanks before) (sound_keyword opened) (sound_requiredBlanks after)
    (sound read)

/-- What is read has trivia behind it. -/
theorem sound_trailed {α : Type} {reader : Reader α} {phrase : α → List Char → List Char → Prop}
    (sound : Sound reader phrase) :
    Sound (trailed reader) fun value text rest =>
      ∃ behind, phrase value text behind ∧ Trivia behind rest := by
  intro cursor value reached result
  obtain ⟨found, behind, read, result⟩ := bind_eq_some.mp result
  obtain ⟨_, next, gap, result⟩ := bind_eq_some.mp result
  obtain ⟨rfl, rfl⟩ := pure_eq_some.mp result
  exact ⟨behind.rest, sound read, sound_trivia gap⟩

/-- What is read as often as it is there is a series. -/
theorem sound_series {α : Type} {reader : Reader α} {phrase : α → List Char → List Char → Prop}
    (sound : Sound reader phrase) : Sound (many (trailed reader)) (Series phrase) :=
  (sound_trailed sound).many _ (fun _ => .stop)
    fun _ _ _ _ _ ⟨_, read, gap⟩ others => .more read gap others

/-- The members that are read stand between braces. -/
theorem sound_body : Sound body Body := by
  intro cursor members reached result
  obtain ⟨_, brace, before, result⟩ := bind_eq_some.mp result
  obtain ⟨_, inside, opened, result⟩ := bind_eq_some.mp result
  obtain ⟨_, start, gap, result⟩ := bind_eq_some.mp result
  obtain ⟨found, ending, read, result⟩ := bind_eq_some.mp result
  obtain ⟨_, behind, closed, result⟩ := bind_eq_some.mp result
  obtain ⟨rfl, rfl⟩ := pure_eq_some.mp result
  exact .mk (sound_character opened ▸ sound_blanks before) (sound_trivia gap)
    (sound_character closed ▸ sound_series sound_member read)

/-- The kind that is read is that of the word that stands there. -/
theorem sound_kind : Sound kind fun kind => Word (opening kind).toList := by
  intro cursor kind reached result
  rcases either_eq_some.mp result with isClass | ⟨-, isInterface⟩
  · obtain ⟨_, middle, read, result⟩ := bind_eq_some.mp isClass
    obtain ⟨rfl, rfl⟩ := pure_eq_some.mp result
    exact sound_keyword read
  · obtain ⟨_, middle, read, result⟩ := bind_eq_some.mp isInterface
    obtain ⟨rfl, rfl⟩ := pure_eq_some.mp result
    exact sound_keyword read

theorem sound_comma : Sound comma fun _ => Comma := by
  intro cursor value reached result
  obtain ⟨_, start, before, result⟩ := bind_eq_some.mp result
  obtain ⟨_, behind, read, after⟩ := bind_eq_some.mp result
  exact .mk (sound_character read ▸ sound_blanks before) (sound_blanks after)

/-- A declaration that is read says what is written there. -/
theorem sound_declaration : Sound declaration Declared := by
  intro cursor written reached result
  obtain ⟨kind, behindKind, opened, result⟩ := bind_eq_some.mp result
  obtain ⟨_, start, gap, result⟩ := bind_eq_some.mp result
  obtain ⟨name, behindName, named, result⟩ := bind_eq_some.mp result
  obtain ⟨base, behindBase, based, result⟩ := bind_eq_some.mp result
  obtain ⟨interfaces, behindInterfaces, implementing, result⟩ := bind_eq_some.mp result
  obtain ⟨members, behind, bodied, result⟩ := bind_eq_some.mp result
  obtain ⟨rfl, rfl⟩ := pure_eq_some.mp result
  exact .mk (sound_kind opened) (sound_requiredBlanks gap) (sound_typeName named)
    ((sound_clause sound_typeName "extends").optional based)
    ((sound_clause (sound_typeName.separated sound_comma) "implements").optional implementing)
    (sound_body.optional bodied)

theorem sound_atEnd : Sound atEnd fun _ text rest => text = [] ∧ rest = [] := by
  intro cursor value reached result
  unfold atEnd at result
  split at result
  · rename_i empty
    cases result
    exact ⟨empty, empty⟩
  · cases result

/-- What is read of a whole source is all of it. -/
theorem sound_source : Sound source fun written text rest => File written text ∧ rest = [] := by
  intro cursor written reached result
  obtain ⟨_, start, gap, result⟩ := bind_eq_some.mp result
  obtain ⟨found, ending, read, result⟩ := bind_eq_some.mp result
  obtain ⟨_, behind, ended, result⟩ := bind_eq_some.mp result
  obtain ⟨rfl, rfl⟩ := pure_eq_some.mp result
  obtain ⟨empty, finished⟩ := sound_atEnd ended
  exact ⟨⟨start.rest, sound_trivia gap, empty ▸ sound_series sound_declaration read⟩, finished⟩

/-- What is read of a whole text as a written type is all of it. -/
theorem sound_wholeTypeRef :
    Sound wholeTypeRef fun type text rest => Ref type text [] ∧ rest = [] := by
  intro cursor type reached result
  obtain ⟨found, ending, read, result⟩ := bind_eq_some.mp result
  obtain ⟨_, behind, ended, result⟩ := bind_eq_some.mp result
  obtain ⟨rfl, rfl⟩ := pure_eq_some.mp result
  obtain ⟨empty, finished⟩ := sound_atEnd ended
  exact ⟨empty ▸ sound_typeRef read, finished⟩

end ClassDiagram.Declaration
