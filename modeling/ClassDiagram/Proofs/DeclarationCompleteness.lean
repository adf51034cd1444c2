import ClassDiagram.Proofs.DeclarationSoundness
import ClassDiagram.Proofs.PhraseEdges

/-! # What a declaration source may say

Every phrase of the grammar is read by the reader that is named for it, if what stands behind it
cannot be taken for a part of it.  No choice of a reader has to be taken back: a clause or a body
that is absent cannot be read in its place (`ClassDiagram.Declaration.Stops`), and white space in
front of a member that has already been read as trivia is not missed
(`ClassDiagram.Declaration.exists_trimmed`).  So a source of the grammar is accepted
(`ClassDiagram.Declaration.reads_source`).
-/

namespace ClassDiagram.Declaration

open Reader Phrase

section Characters

variable {among word text rest : List Char}

theorem reads_satisfying {accepts : Char → Bool} {remark : Complaint → Remark}
    {expected : List Expectation} {c : Char} (accepted : accepts c = true) :
    Reads (Reader.satisfying accepts remark expected) c (c :: rest) rest := by
  intro offset
  refine ⟨offset + 1, ?_⟩
  unfold Reader.satisfying
  simp only [accepted, ↓reduceIte]

/-- Nothing is read in front of a character that is not, or at the end. -/
theorem fails_satisfying {accepts : Char → Bool} {remark : Complaint → Remark}
    {expected : List Expectation} (rejected : ∀ c ∈ text.head?, accepts c = false) :
    Fails (Reader.satisfying accepts remark expected) text := by
  intro offset
  unfold Reader.satisfying
  cases text with
  | nil => rfl
  | cons c more => simp [rejected c rfl]

theorem reads_oneOf {c : Char} (member : c ∈ among) : Reads (oneOf among) c (c :: rest) rest :=
  reads_satisfying (List.contains_iff_mem.mpr member)

/-- None of some characters is read where none of them stands. -/
theorem fails_oneOf (apart : Apart among text) : Fails (oneOf among) text := by
  refine fails_satisfying fun c head => ?_
  simpa using apart c head

theorem reads_character {c : Char} : Reads (character c) () (c :: rest) rest :=
  (reads_oneOf List.mem_cons_self).bind Reads.pure

theorem fails_character {c : Char} (apart : Apart [c] text) : Fails (character c) text :=
  (fails_oneOf apart).bind

/-- Characters are read where they stand in this order. -/
theorem reads_characters : Reads (characters word) () (word ++ rest) rest := by
  induction word with
  | nil => exact Reads.pure
  | cons c more ih => exact reads_character.bind ih

theorem fails_characters (other : ∀ more, text ≠ word ++ more) : Fails (characters word) text := by
  induction word generalizing text with
  | nil => exact (other text rfl).elim
  | cons c others ih =>
      cases text with
      | nil => exact (fails_character apart_nil).bind
      | cons d more =>
          by_cases same : d = c
          · subst same
            refine reads_character.bind_fails (ih fun rest spelled => other rest ?_)
            rw [spelled]
            rfl
          · exact (fails_character (by simpa using same)).bind

/-- All characters up to the first that is not accepted are taken. -/
theorem reads_spanning {accepts : Char → Bool} {remark : Complaint → Remark}
    {expected : List Expectation} {taken : List Char} (accepted : ∀ c ∈ taken, accepts c = true)
    (stops : ∀ c ∈ rest.head?, accepts c = false) :
    Reads (spanning accepts remark expected) taken (taken ++ rest) rest := by
  have behind : rest.takeWhile accepts = [] ∧ rest.dropWhile accepts = rest := by
    cases rest with
    | nil => exact ⟨rfl, rfl⟩
    | cons c more => simp [stops c rfl]
  intro offset
  refine ⟨offset + taken.length, ?_⟩
  unfold spanning
  simp only [List.takeWhile_append_of_pos accepted, List.dropWhile_append_of_pos accepted, behind,
    List.append_nil]

/-- A run of characters is a text in front of what follows. -/
theorem Phrase.Run.exists_taken (run : Run among text rest) :
    ∃ taken, text = taken ++ rest ∧ taken ⊆ among := by
  induction run with
  | stop => exact ⟨[], rfl, List.nil_subset _⟩
  | @step c _ _ member _ ih =>
      obtain ⟨taken, rfl, accepted⟩ := ih
      exact ⟨c :: taken, rfl, List.cons_subset.mpr ⟨member, accepted⟩⟩

/-- A run of characters is read if none of them follows it. -/
theorem reads_allOf (run : Run among text rest) (apart : Apart among rest) :
    ∃ taken, Reads (allOf among) taken text rest := by
  obtain ⟨taken, rfl, accepted⟩ := run.exists_taken
  refine ⟨taken, reads_spanning (fun c member => List.contains_iff_mem.mpr (accepted member)) ?_⟩
  intro c head
  simpa using apart c head

theorem reads_blanks (run : Run whiteSpace text rest) (apart : Apart whiteSpace rest) :
    Reads blanks () text rest := by
  obtain ⟨taken, reads⟩ := reads_allOf run apart
  exact reads.bind Reads.pure

theorem reads_inlineBlanks (run : Run lineSpace text rest)
    (apart : Apart lineSpace rest) : Reads inlineBlanks () text rest := by
  obtain ⟨taken, reads⟩ := reads_allOf run apart
  exact reads.bind Reads.pure

/-- White space that has to be there is read where there is some. -/
theorem reads_requiredBlanks (read : Blanks text rest) (apart : Apart whiteSpace rest) :
    Reads requiredBlanks () text rest := by
  cases read with
  | mk member more => exact (reads_oneOf member).bind (reads_blanks more apart)

/-- A comment is read up to the end of its line. -/
theorem reads_lineComment {remark : List Char} (line : '\n' ∉ remark)
    (ends : ∀ c ∈ rest.head?, c = '\n') :
    Reads lineComment () ('/' :: '/' :: (remark ++ rest)) rest := by
  have slashes : Reads (characters ['/', '/']) () ('/' :: '/' :: (remark ++ rest))
      (remark ++ rest) := reads_characters
  refine slashes.bind (Reads.bind (reads_spanning ?_ ?_) Reads.pure)
  · intro c member
    exact bne_iff_ne.mpr fun same => line (same ▸ member)
  · intro c head
    simp [ends c head]

/-- Trivia are read up to what is neither white space nor a comment. -/
theorem reads_trivia (read : Trivia text rest) (apart : Apart whiteSpace rest)
    (noComment : ∀ more, rest ≠ '/' :: '/' :: more) : Reads trivia () text rest := by
  have repeats : ∃ pieces, Repeats (either (do
      let _ ← oneOf blankCharacters
      pure ()) lineComment) pieces text rest := by
    induction read with
    | stop =>
        exact ⟨[], .stop (Fails.either (fails_oneOf apart).bind (fails_characters noComment).bind)⟩
    | blank member _ ih =>
        obtain ⟨pieces, others⟩ := ih apart noComment
        refine ⟨() :: pieces, .step (Reads.either_left ?_) (Nat.lt_succ_self _) others⟩
        exact (reads_oneOf member).bind Reads.pure
    | @comment remark text _ line ends _ ih =>
        obtain ⟨pieces, others⟩ := ih apart noComment
        have noBlank : Apart whiteSpace ('/' :: '/' :: (remark ++ text)) :=
          apart_head
        refine ⟨() :: pieces, .step (Reads.either_right (fails_oneOf noBlank).bind
          (reads_lineComment line ends)) ?_ others⟩
        rw [List.length_cons, List.length_cons, List.length_append]
        omega
  obtain ⟨pieces, repeats⟩ := repeats
  exact repeats.reads.bind Reads.pure

/-- Trivia are read up to what begins neither white space nor a comment. -/
theorem reads_trivia_of_apart (read : Trivia text rest)
    (apart : Apart ('/' :: whiteSpace) rest) : Reads trivia () text rest := by
  refine reads_trivia read (apart.mono (List.subset_cons_self _ _)) ?_
  rintro more rfl
  exact apart_cons.mp apart List.mem_cons_self

/-- Something is read with the trivia behind it, up to what cannot be a part of them. -/
theorem reads_trailed {α : Type} {reader : Reader α} {value : α} {behind : List Char}
    (read : Reads reader value text behind) (gap : Trivia behind rest)
    (apart : Apart ('/' :: whiteSpace) rest) : Reads (trailed reader) value text rest :=
  read.bind ((reads_trivia_of_apart gap apart).bind Reads.pure)

end Characters

section Words

variable {word text rest : List Char}

/-- An identifier is read as a whole. -/
theorem reads_identifier (read : Word word text rest) : Reads identifier word text rest := by
  obtain ⟨identifier, rfl, longest⟩ := read
  cases word with
  | nil => exact identifier.elim
  | cons c more =>
      exact (reads_satisfying identifier.1).bind (reads_spanning identifier.2 longest).map

/-- Nothing is read as an identifier where none begins. -/
theorem fails_identifier (none : ∀ c ∈ text.head?, Text.isIdentifierStart c = false) :
    Fails identifier text :=
  (fails_satisfying none).bind

/-- A keyword is read where it stands as a word. -/
theorem reads_keyword (read : Word word text rest) : Reads (keyword word) () text rest := by
  intro offset
  obtain ⟨behind, found⟩ := reads_identifier read offset
  refine ⟨behind, ?_⟩
  unfold keyword
  simp only [found, ↓reduceIte]

/-- No keyword is read where no word begins. -/
theorem fails_keyword (none : ∀ c ∈ text.head?, Text.isIdentifierStart c = false) :
    Fails (keyword word) text := by
  intro offset
  unfold keyword
  simp only [fails_identifier none offset]

/-- Another word is not taken for a keyword. -/
theorem fails_keyword_of_ne {other : List Char} (read : Word other text rest) (ne : other ≠ word) :
    Fails (keyword word) text := by
  intro offset
  obtain ⟨behind, found⟩ := reads_identifier read offset
  unfold keyword
  simp only [found, ne, ↓reduceIte]

/-- One thing or more are read with what stands between them, if none of them goes beyond its
end. -/
theorem reads_joined {α : Type} {reader : Reader α} {separator : Reader Unit}
    {phrase : α → List Char → List Char → Prop} {between : List Char → List Char → Prop}
    {values : List α} (follows : List Char → Prop) (joined : Joined phrase between values text rest)
    (reading : ∀ value text rest, phrase value text rest → follows rest →
      Reads reader value text rest)
    (shorter : ∀ value text rest, phrase value text rest → rest.length < text.length)
    (parted : ∀ text rest, between text rest → follows text ∧ rest.length ≤ text.length)
    (gap : ∀ text next value rest, between text next → phrase value next rest →
      Reads separator () text next)
    (ends : follows rest) (stops : Fails (do
      let _ ← separator
      reader) rest) :
    Reads (separated reader separator) values text rest := by
  have pieces : ∃ first others middle, values = first :: others ∧
      Reads reader first text middle ∧ middle.length < text.length ∧ Repeats (do
        let _ ← separator
        reader) others middle rest := by
    induction joined with
    | last only =>
        exact ⟨_, [], _, rfl, reading _ _ _ only ends, shorter _ _ _ only, .stop stops⟩
    | @more value _ text behind next rest first between others ih =>
        obtain ⟨second, more, middle, rfl, reads, less, repeats⟩ := ih ends stops
        obtain ⟨_, there⟩ := others.exists_first
        have separate := gap _ _ _ _ between there
        have beyond := parted _ _ between
        exact ⟨value, second :: more, behind, rfl, reading _ _ _ first beyond.1,
          shorter _ _ _ first, .step (separate.bind reads) (less.trans_le beyond.2) repeats⟩
  obtain ⟨first, others, middle, rfl, reads, -, repeats⟩ := pieces
  exact Reads.separated reads repeats

/-- The name of a type is read unless a dot goes on with it. -/
theorem reads_typeName {name : String} (read : Name name text rest) (apart : Apart ['.'] rest) :
    Reads typeName name text rest := by
  cases read with
  | mk words =>
      rw [← dotted_eq_intercalate]
      refine (reads_joined (fun _ => True) words (fun _ _ _ read _ => reads_identifier read)
        (fun _ _ _ => Word.length_lt) ?_ ?_ trivial (fails_character apart).bind).bind Reads.pure
      · rintro text rest rfl
        exact ⟨trivial, Nat.le_succ _⟩
      · rintro text next word rest rfl -
        exact reads_character

end Words

section Types

/-- Pairs of brackets are read up to what opens no other pair, and counted. -/
theorem reads_brackets {rank : Nat} {text rest : List Char} (read : Brackets rank text rest)
    (apart : Apart ['['] rest) :
    Reads (many (characters ['[', ']'])) (List.replicate rank ()) text rest := by
  have repeats : Repeats (characters ['[', ']']) (List.replicate rank ()) text rest := by
    induction read with
    | none =>
        refine .stop (fails_characters ?_)
        rintro more rfl
        exact apart_cons.mp apart List.mem_cons_self
    | pair _ ih =>
        rw [List.replicate_succ]
        exact .step reads_characters (Nat.lt_succ_of_lt (Nat.lt_succ_self _)) (ih apart)
  exact repeats.reads

/-- An argument is read with the white space around it. -/
theorem reads_argument {reader : Reader TypeRef} {type : TypeRef}
    {text start behind rest : List Char} (before : Run lineSpace text start) (begins : Begins start)
    (read : Reads reader type start behind) (after : Run lineSpace behind rest)
    (ends : Apart lineSpace rest) : Reads (argument reader) type text rest :=
  (reads_inlineBlanks before begins.apart).bind
    (read.bind ((reads_inlineBlanks after ends).bind Reads.pure))

/-- The characters that would go on with a written type. -/
def typeMarks : List Char := ['.', '<', '[']

mutual

/-- A written type is read within any depth beyond its length.  The three readers are followed
together along the phrase, whose parts are shorter than the whole. -/
theorem reads_typeRefWithin {type : TypeRef} {text rest : List Char} {depth : Nat} :
    Ref type text rest → Apart typeMarks rest → text.length < depth →
      Reads (typeRefWithin depth) type text rest
  | .mk named listed ranked, apart, deep => by
      obtain ⟨depth, rfl⟩ := Nat.exists_eq_succ_of_ne_zero (Nat.ne_zero_of_lt deep)
      have behindArguments : Apart ['.', '<'] _ :=
        ranked.apart apart.mono
      have behindName : Apart ['.'] _ :=
        listed.apart behindArguments.mono
      obtain ⟨arguments, reads, rfl⟩ := reads_arguments listed behindArguments.mono
        (Nat.le_of_lt_succ (named.length_lt.trans deep))
      unfold typeRefWithin
      refine Reads.bind (reads_typeName named behindName) (Reads.bind reads
        (Reads.bind (reads_brackets ranked apart.mono) ?_))
      rw [List.length_replicate]
      exact Reads.pure

/-- Its arguments are read where there are some, and left out where there are none. -/
theorem reads_arguments {arguments : List TypeRef} {text rest : List Char} {depth : Nat} :
    Arguments arguments text rest → Apart ['<'] rest → text.length ≤ depth →
      ∃ found, Reads (optional (argumentList (typeRefWithin depth))) found text rest ∧
        found.getD [] = arguments
  | .none, apart, _ => ⟨none, (fails_character apart).bind.optional, rfl⟩
  | .some listed, _, deep => by
      obtain ⟨first, others, middle, rfl, reads, -, repeats⟩ :=
        reads_argumentList listed apart_head deep
      refine ⟨some (first :: others), Reads.optional ?_, rfl⟩
      refine reads_character.bind (Reads.bind (Reads.separated reads repeats) ?_)
      exact reads_character.bind Reads.pure

/-- The arguments between the brackets are read one after the other. -/
theorem reads_argumentList {arguments : List TypeRef} {text rest : List Char} {depth : Nat} :
    ArgumentList arguments text rest →
      Apart (',' :: lineSpace ++ typeMarks) rest → text.length < depth →
      ∃ first others middle, arguments = first :: others ∧
        Reads (argument (typeRefWithin depth)) first text middle ∧ middle.length < text.length ∧
        Repeats (do
          let _ ← character ','
          argument (typeRefWithin depth)) others middle rest
  | .last before only after, ends, deep => by
      have reads := reads_typeRefWithin only
        (after.apart ends.mono) (before.length_le.trans_lt deep)
      refine ⟨_, [], _, rfl, reads_argument before only.begins reads after ends.mono,
        after.length_le.trans_lt (only.length_lt.trans_le before.length_le), .stop ?_⟩
      exact (fails_character ends.mono).bind
  | .more before first after others, ends, deep => by
      have reads := reads_typeRefWithin first
        (after.apart apart_head) (before.length_le.trans_lt deep)
      have shorter := after.length_le.trans_lt (first.length_lt.trans_le before.length_le)
      have less := (Nat.lt_succ_self _).trans shorter
      obtain ⟨second, more, middle, rfl, next, nextLess, repeats⟩ :=
        reads_argumentList others ends (less.trans deep)
      exact ⟨_, second :: more, _, rfl,
        reads_argument before first.begins reads after apart_head, shorter,
        .step (reads_character.bind next) (Nat.lt_succ_of_lt nextLess) repeats⟩

end

/-- The depth that the text allows is enough for every written type in it. -/
theorem reads_typeRef {type : TypeRef} {text rest : List Char} (read : Ref type text rest)
    (apart : Apart typeMarks rest) : Reads typeRef type text rest := by
  intro offset
  unfold typeRef
  exact reads_typeRefWithin read apart (Nat.lt_succ_self _) offset

theorem reads_atEnd : Reads atEnd () [] [] :=
  fun offset => ⟨offset, rfl⟩

/-- A text that is nothing but a written type is read as a whole. -/
theorem reads_wholeTypeRef {type : TypeRef} {text : List Char} (read : Ref type text []) :
    Reads wholeTypeRef type text [] :=
  (reads_typeRef read apart_nil).bind (reads_atEnd.bind Reads.pure)

end Types

section Members

theorem reads_semicolon {ended : Unit} {text rest : List Char} (read : Semicolon ended text rest) :
    Reads semicolon ended text rest := by
  cases read with
  | mk before => exact (reads_inlineBlanks before apart_head).bind reads_character

/-- It is not read where something else stands behind the white space. -/
theorem fails_semicolon {text : List Char}
    (apart : Apart [';'] (text.dropWhile lineSpace.contains)) : Fails semicolon text :=
  (reads_inlineBlanks (run_dropWhile _ text) (apart_dropWhile _ text)).bind_fails
    (fails_character apart)

/-- A mark is read as the character that it is, and so is its absence. -/
theorem reads_mark {visibility : Option Visibility} {text rest : List Char}
    (marked : Maybe Mark visibility text rest) (apart : Apart visibilityMarks rest) :
    ∃ mark : Option Char, mark.bind Visibility.ofMark? = visibility ∧
      Reads (optional (oneOf visibilityMarks)) mark text rest := by
  cases marked with
  | absent => exact ⟨none, rfl, (fails_oneOf apart).optional⟩
  | present there =>
      obtain ⟨c, -, rfl⟩ := there.exists_cons
      obtain ⟨among, meant⟩ := mark_iff.mp there
      exact ⟨some c, meant, (reads_oneOf among).optional⟩

/-- A member is read unless what follows goes on with its type or ends it once more. -/
theorem reads_member {written : WrittenMember} {text rest : List Char}
    (read : Phrase.Member written text rest) (apart : Apart typeMarks rest)
    (ended : Apart [';'] (rest.dropWhile lineSpace.contains)) :
    Reads member written text rest := by
  cases read with
  | @mk visibility word type ending _ behindMark start behindWord behindColon typeStart behindType _
      marked beforeWord named beforeColon afterColon typed ends =>
      obtain ⟨mark, rfl, marks⟩ := reads_mark marked (beforeWord.apart named.begins.apart)
      have closed : Apart typeMarks behindType ∧
          Reads (optional semicolon) ending behindType rest := by
        cases ends with
        | absent => exact ⟨apart, (fails_semicolon ended).optional⟩
        | present there =>
            refine ⟨?_, (reads_semicolon there).optional⟩
            cases there with
            | mk before => exact before.apart apart_head
      refine Reads.bind marks ?_
      refine Reads.bind (reads_inlineBlanks beforeWord named.begins.apart) ?_
      refine Reads.bind (reads_identifier named) ?_
      refine Reads.bind (reads_inlineBlanks beforeColon apart_head) ?_
      refine Reads.bind reads_character ?_
      refine Reads.bind (reads_inlineBlanks afterColon typed.begins.apart) ?_
      refine Reads.bind (reads_typeRef typed closed.1) ?_
      exact Reads.bind closed.2 Reads.pure

/-- The characters that neither a member nor the end of a body begins with, and that would go on
with the member or the trivia in front. -/
def memberMarks : List Char := '/' :: ';' :: whiteSpace ++ typeMarks

/-- White space in front of a member may be left to the trivia before it. -/
theorem exists_trimmed {members : List WrittenMember} {text rest : List Char}
    (series : Series Phrase.Member members text ('\x7d' :: rest)) :
    ∃ start, Run lineSpace text start ∧
      Series Phrase.Member members start ('\x7d' :: rest) ∧ Apart memberMarks start := by
  cases series with
  | stop => exact ⟨_, .stop, .stop, apart_head⟩
  | more first gap others =>
      cases first with
      | mk marked beforeWord named beforeColon afterColon typed ends =>
          cases marked with
          | absent =>
              exact ⟨_, beforeWord,
                .more (.mk .absent .stop named beforeColon afterColon typed ends) gap others,
                named.begins.apart⟩
          | present there =>
              exact ⟨_, .stop, .more (.mk (.present there) beforeWord named beforeColon afterColon
                typed ends) gap others, there.apart⟩

/-- No semicolon is next where trivia lead to another member or to the end of a body. -/
theorem apart_semicolon {text rest : List Char} (read : Trivia text rest)
    (apart : Apart memberMarks rest) :
    Apart [';'] (text.dropWhile lineSpace.contains) := by
  induction read with
  | stop =>
      rw [apart.mono.dropWhile_eq]
      exact apart.mono
  | @blank c _ _ among _ ih =>
      by_cases inside : c ∈ lineSpace
      · rw [List.dropWhile_cons_of_pos (List.contains_iff_mem.mpr inside)]
        exact ih apart
      · have other : Foreign whiteSpace [';'] := by decide
        rw [(apart_cons.mpr inside).dropWhile_eq]
        exact apart_cons.mpr (other c among)
  | comment _ _ _ _ =>
      rw [(apart_head).dropWhile_eq]
      exact apart_head

/-- No member is read where neither a mark nor a word begins. -/
theorem fails_member {text : List Char} (apart : Apart (visibilityMarks ++ lineSpace) text)
    (none : ∀ c ∈ text.head?, Text.isIdentifierStart c = false) : Fails member text :=
  (fails_oneOf apart.mono).optional.bind_fails
    ((reads_inlineBlanks .stop apart.mono).bind_fails (fails_identifier none).bind)

/-- Members are read one after the other up to the end of a body. -/
theorem repeats_member {members : List WrittenMember} {text rest : List Char}
    (series : Series Phrase.Member members text ('\x7d' :: rest)) :
    Repeats (trailed member) members text ('\x7d' :: rest) := by
  induction members generalizing text with
  | nil =>
      cases series with
      | stop =>
          refine .stop (Fails.bind (fails_member apart_head ?_))
          intro c head
          cases Option.mem_some_iff.mp head
          decide
  | cons written others ih =>
      cases series with
      | more first gap others =>
          obtain ⟨start, run, trimmed, apart⟩ := exists_trimmed others
          have trivia := gap.trans run.trivia
          have reads := reads_member first (trivia.apart apart.mono)
            (apart_semicolon trivia apart)
          exact .step (reads_trailed reads trivia apart.mono)
            (trivia.length_le.trans_lt first.length_lt) (ih trimmed)

/-- A body is read as a whole. -/
theorem reads_body {members : List WrittenMember} {text rest : List Char}
    (read : Body members text rest) : Reads body members text rest := by
  cases read with
  | mk before gap series =>
      obtain ⟨start, run, trimmed, apart⟩ := exists_trimmed series
      refine Reads.bind (reads_blanks before apart_head) ?_
      refine Reads.bind reads_character ?_
      refine Reads.bind (reads_trivia_of_apart (gap.trans run.trivia) apart.mono) ?_
      refine Reads.bind (repeats_member trimmed).reads ?_
      exact Reads.bind reads_character Reads.pure

end Members

section Declarations

/-- What is behind the white space that a text begins with. -/
def ahead (text : List Char) : List Char :=
  text.dropWhile whiteSpace.contains

/-- Behind the white space that a text begins with there is neither one of some characters nor one
of some words. -/
structure Stops (marks : List Char) (words : List String) (text : List Char) : Prop where
  marks : Apart marks (ahead text)
  words : ∀ word ∈ words, Fails (keyword word.toList) (ahead text)

section Stops

variable {marks : List Char} {words : List String} {text rest : List Char}

/-- What is not found behind white space is not found in front of it either, unless it is white
space itself. -/
theorem Stops.apart (stops : Stops marks words text) {fewer : List Char}
    (among : fewer ⊆ marks := by decide) (noBlank : Foreign whiteSpace fewer := by decide) :
    Apart fewer text :=
  (run_dropWhile whiteSpace text).apart (stops.marks.mono among) noBlank

theorem Stops.mono {fewerMarks : List Char} {fewerWords : List String}
    (stops : Stops marks words text) (marksAmong : fewerMarks ⊆ marks := by decide)
    (wordsAmong : fewerWords ⊆ words := by decide) : Stops fewerMarks fewerWords text :=
  ⟨stops.marks.mono marksAmong, fun word member => stops.words word (wordsAmong member)⟩

/-- White space in front makes no difference. -/
theorem Stops.run (run : Run whiteSpace text rest) (stops : Stops marks words rest) :
    Stops marks words text := by
  have same : ahead text = ahead rest := run.dropWhile_eq
  exact ⟨same ▸ stops.marks, same ▸ stops.words⟩

theorem stops_nil : Stops marks words [] :=
  ⟨apart_nil, fun _ _ => fails_keyword fun _ head => nomatch head⟩

/-- Neither a mark that is sought nor a word is found at another mark. -/
theorem stops_mark {c : Char} (noBlank : c ∉ whiteSpace) (noMark : c ∉ marks)
    (noStart : Text.isIdentifierStart c = false) : Stops marks words (c :: rest) := by
  have here : ahead (c :: rest) = c :: rest := (apart_cons.mpr noBlank).dropWhile_eq
  constructor
  · rw [here]
    exact apart_cons.mpr noMark
  · intro word _
    rw [here]
    refine fails_keyword fun d head => ?_
    cases Option.mem_some_iff.mp head
    exact noStart

/-- Neither a mark nor a word that is sought is found at another word. -/
theorem stops_word {word : List Char} (read : Word word text rest)
    (noMarks : NoStart marks)
    (others : ∀ other ∈ words, word ≠ other.toList) : Stops marks words text := by
  have here : ahead text = text := Apart.dropWhile_eq read.begins.apart
  constructor
  · rw [here]
    exact read.begins.apart noMarks
  · intro other member
    rw [here]
    exact fails_keyword_of_ne read (others other member)

/-- Nothing that is sought behind white space is found behind trivia. -/
theorem Stops.trivia (read : Trivia text rest) (noSlash : '/' ∉ marks)
    (stops : Stops marks words rest) : Stops marks words text := by
  induction read with
  | stop => exact stops
  | blank among _ ih => exact (ih stops).run (.step among .stop)
  | comment _ _ _ _ => exact stops_mark (by decide) noSlash (by decide)

/-- A clause is not read where its word is not found. -/
theorem fails_clause {α : Type} {reader : Reader α} {word : String} (stops : Stops marks words text)
    (member : word ∈ words) : Fails (clause word.toList reader) text := by
  have keyword := stops.words word member
  cases text with
  | nil => exact (fails_oneOf apart_nil).bind.bind
  | cons c more =>
      by_cases among : c ∈ whiteSpace
      · have blanks : Reads requiredBlanks () (c :: more) (ahead (c :: more)) := by
          refine reads_requiredBlanks ?_ (apart_dropWhile _ _)
          rw [ahead, List.dropWhile_cons_of_pos (List.contains_iff_mem.mpr among)]
          exact .mk among (run_dropWhile _ _)
        exact blanks.bind_fails keyword.bind
      · exact (fails_oneOf (apart_cons.mpr among)).bind.bind

/-- A body is not read where its brace is not found. -/
theorem fails_body (stops : Stops marks words text) (member : '\x7b' ∈ marks) : Fails body text :=
  (reads_blanks (run_dropWhile _ text) (apart_dropWhile _ text)).bind_fails
    (fails_character (stops.marks.mono (by simpa using member))).bind

theorem fails_comma (stops : Stops marks words text) (member : ',' ∈ marks) : Fails comma text :=
  (reads_blanks (run_dropWhile _ text) (apart_dropWhile _ text)).bind_fails
    (fails_character (stops.marks.mono (by simpa using member))).bind

end Stops

/-- A clause is read if what stands behind its word is. -/
theorem reads_clause {α : Type} {reader : Reader α} {word : String}
    {phrase : α → List Char → List Char → Prop} {value : α} {text rest : List Char}
    (read : Clause word phrase value text rest)
    (begins : ∀ text, phrase value text rest → Begins text)
    (reading : ∀ text, phrase value text rest → Reads reader value text rest) :
    Reads (clause word.toList reader) value text rest := by
  cases read with
  | mk before keyword after there =>
      refine Reads.bind (reads_requiredBlanks before keyword.begins.apart) ?_
      refine Reads.bind (reads_keyword keyword) ?_
      refine Reads.bind (reads_requiredBlanks after (begins _ there).apart) ?_
      exact reading _ there

/-- A clause is seen by the word that it begins with. -/
theorem stops_clause {α : Type} {word : String} {phrase : α → List Char → List Char → Prop}
    {value : α} {marks : List Char} {words : List String} {text rest : List Char}
    (read : Clause word phrase value text rest)
    (noMarks : NoStart marks)
    (others : ∀ other ∈ words, word.toList ≠ other.toList) : Stops marks words text := by
  cases read with
  | mk before keyword _ _ => exact (stops_word keyword noMarks others).run before.run

/-- No declaration that could end in front of the text goes on with it, unless with a body. -/
structure Halts (text : List Char) : Prop where
  apart : Apart ['.'] text
  extending : Fails (clause "extends".toList typeName) text
  implementing : Fails (clause "implements".toList (separated typeName comma)) text
  listing : Fails (do
    let _ ← comma
    typeName) text

/-- A declaration ends where neither a clause, nor a dot, nor a comma is found. -/
theorem Stops.halts {text : List Char} (stops : Stops ['.', ','] ["extends", "implements"] text) :
    Halts text where
  apart := stops.apart
  extending := fails_clause stops (by decide)
  implementing := fails_clause stops (by decide)
  listing := (fails_comma stops (by decide)).bind

/-- A list of names is read up to where a declaration can end. -/
theorem reads_names {names : List String} {text rest : List Char}
    (read : Joined Name Comma names text rest) (halts : Halts rest) :
    Reads (separated typeName comma) names text rest := by
  refine reads_joined (Apart ['.']) read (fun _ _ _ => reads_typeName) (fun _ _ _ => Name.length_lt)
    ?_ ?_ halts.apart halts.listing
  · intro text rest comma
    refine ⟨?_, comma.length_le⟩
    cases comma with
    | mk before _ => exact before.apart apart_head
  · intro text next name rest comma named
    cases comma with
    | mk before after =>
        refine Reads.bind (reads_blanks before apart_head) ?_
        exact Reads.bind reads_character (reads_blanks after named.begins.apart)

theorem reads_kind {kind : Kind} {text rest : List Char}
    (read : Word (opening kind).toList text rest) :
    Reads Declaration.kind kind text rest := by
  cases kind with
  | classKind =>
      refine Reads.either_left ?_
      exact Reads.bind (reads_keyword read) Reads.pure
  | interfaceKind =>
      refine Reads.either_right (fails_keyword_of_ne read (by decide)).bind ?_
      exact Reads.bind (reads_keyword read) Reads.pure

/-- What a declaration says before its members. -/
inductive Phrase.Heading (kind : Kind) (name : String) (base : Option String)
    (interfaces : Option (List String)) (text rest : List Char) : Prop
  | mk {behindKind start behindName behindBase : List Char}
      (opened : Word (opening kind).toList text behindKind) (gap : Blanks behindKind start)
      (named : Name name start behindName)
      (based : Maybe (Clause "extends" Name) base behindName behindBase)
      (implementing : Maybe (Clause "implements" (Joined Name Comma)) interfaces behindBase rest)

/-- A heading begins a declaration, with a body or without one. -/
theorem Phrase.Heading.declared {kind : Kind} {name : String} {base : Option String}
    {interfaces : Option (List String)} {members : Option (List WrittenMember)}
    {text behind rest : List Char} (heading : Heading kind name base interfaces text behind)
    (bodied : Maybe Body members behind rest) :
    Declared ⟨kind, name, base, interfaces.getD [], members.getD []⟩ text rest := by
  cases heading with
  | mk opened gap named based implementing =>
      exact .mk opened gap named based implementing bodied

/-- A declaration is read from its heading and from what is read as its body, if the heading could
end where it does. -/
theorem reads_heading {kind : Kind} {name : String} {base : Option String}
    {interfaces : Option (List String)} {members : Option (List WrittenMember)}
    {text behind rest : List Char} (heading : Heading kind name base interfaces text behind)
    (halts : Halts behind) (bodies : Reads (optional body) members behind rest) :
    Reads declaration ⟨kind, name, base, interfaces.getD [], members.getD []⟩ text rest := by
  cases heading with
  | @mk behindKind start behindName behindBase opened gap named based implementing =>
      have implemented : Reads (optional (clause "implements".toList (separated typeName comma)))
          interfaces behindBase behind ∧ Apart ['.'] behindBase ∧
            Fails (clause "extends".toList typeName) behindBase := by
        cases implementing with
        | absent =>
            exact ⟨halts.implementing.optional, halts.apart, halts.extending⟩
        | present there =>
            have stops : Stops ['.'] ["extends"] behindBase :=
              stops_clause there (by decide) (by decide)
            refine ⟨(reads_clause there (fun _ names => names.begins fun _ _ _ => Name.begins)
              fun _ names => reads_names names halts).optional, stops.apart, ?_⟩
            exact fails_clause stops (by decide)
      have extended : Reads (optional (clause "extends".toList typeName)) base behindName
          behindBase ∧ Apart ['.'] behindName := by
        cases based with
        | absent => exact ⟨implemented.2.2.optional, implemented.2.1⟩
        | present there =>
            have stops : Stops ['.'] [] behindName := stops_clause there (by decide) (by decide)
            exact ⟨(reads_clause there (fun _ => Name.begins)
              fun _ name => reads_typeName name implemented.2.1).optional, stops.apart⟩
      refine Reads.bind (reads_kind opened) ?_
      refine Reads.bind (reads_requiredBlanks gap named.begins.apart) ?_
      refine Reads.bind (reads_typeName named extended.2) ?_
      refine Reads.bind extended.1 ?_
      refine Reads.bind implemented.1 ?_
      exact Reads.bind bodies Reads.pure

/-- A declaration is read unless what follows goes on with it. -/
theorem reads_declaration {written : WrittenType} {text rest : List Char}
    (read : Declared written text rest)
    (stops : Stops ['.', ',', '\x7b'] ["extends", "implements"] rest) :
    Reads declaration written text rest := by
  cases read with
  | mk opened gap named based implementing bodied =>
      have heading := Heading.mk opened gap named based implementing
      cases bodied with
      | absent =>
          have outside : Stops ['.', ','] ["extends", "implements"] rest := stops.mono
          exact reads_heading heading outside.halts (fails_body stops (by decide)).optional
      | present there =>
          refine reads_heading heading (Stops.halts ?_) (reads_body there).optional
          cases there with
          | mk before _ _ => exact (stops_mark (by decide) (by decide) (by decide)).run before

/-- Declarations up to the end of a source begin with a word of their own. -/
theorem stops_series {declarations : List WrittenType} {marks : List Char} {words : List String}
    {text : List Char} (series : Series Declared declarations text [])
    (noMarks : NoStart marks)
    (others : ∀ kind : Kind, ∀ other ∈ words, (opening kind).toList ≠ other.toList) :
    Stops marks words text := by
  cases series with
  | stop => exact stops_nil
  | more first _ _ =>
      cases first with
      | mk opened _ _ _ _ _ => exact stops_word opened noMarks (others _)

/-- Declarations up to the end of a source begin with no character that begins no word. -/
theorem apart_series {declarations : List WrittenType} {characters text : List Char}
    (series : Series Declared declarations text [])
    (none : NoStart characters) : Apart characters text := by
  cases series with
  | stop => exact apart_nil
  | more first _ _ => exact first.begins.apart none

/-- Declarations are read one after the other up to the end of a source. -/
theorem repeats_declaration {declarations : List WrittenType} {text : List Char}
    (series : Series Declared declarations text []) :
    Repeats (trailed declaration) declarations text [] := by
  induction declarations generalizing text with
  | nil =>
      cases series with
      | stop =>
          have none (word : List Char) : Fails (keyword word) [] :=
            fails_keyword fun c head => by cases head
          have kinds : Fails kind [] := Fails.either (none _).bind (none _).bind
          exact .stop kinds.bind.bind
  | cons written others ih =>
      cases series with
      | more first gap others =>
          have kinds : ∀ kind : Kind, ∀ other ∈ ["extends", "implements"],
              (opening kind).toList ≠ other.toList := by
            intro kind
            cases kind <;> decide
          have stops : Stops ['.', ',', '\x7b'] ["extends", "implements"] _ :=
            (stops_series others (by decide) kinds).trivia gap (by decide)
          exact .step
            (reads_trailed (reads_declaration first stops) gap (apart_series others (by decide)))
            (gap.length_le.trans_lt first.length_lt) (ih others)

/-- A source of the grammar is read as a whole. -/
theorem reads_source {written : List WrittenType} {text : List Char} (file : File written text) :
    Reads source written text [] := by
  obtain ⟨start, gap, series⟩ := file
  refine Reads.bind (reads_trivia_of_apart gap (apart_series series (by decide))) ?_
  refine Reads.bind (repeats_declaration series).reads ?_
  exact Reads.bind reads_atEnd Reads.pure

end Declarations

end ClassDiagram.Declaration
