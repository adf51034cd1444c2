import ClassDiagram.Proofs.DeclarationGrammar
import Mathlib.Data.Nat.Basic
import Mathlib.Order.Basic

/-! # Where phrases begin and end

Whether a phrase ends at some place depends on the character that follows.  Names, types and
declarations begin with an identifier and take at least one character; what a run of characters or
trivia lead to is told from the first character behind them (`Phrase.Run.dropWhile_eq`).
-/

namespace ClassDiagram.Declaration.Phrase

/-- The text does not begin with one of the characters. -/
def Apart (characters text : List Char) : Prop :=
  ∀ c ∈ text.head?, c ∉ characters

/-- No character belongs to both. -/
def Foreign (characters others : List Char) : Prop :=
  ∀ c ∈ characters, c ∉ others

instance (characters others : List Char) : Decidable (Foreign characters others) :=
  List.decidableBAll (· ∉ others) characters

/-- None of the characters can begin an identifier. -/
def NoStart (characters : List Char) : Prop :=
  ∀ c ∈ characters, Text.isIdentifierStart c = false

instance (characters : List Char) : Decidable (NoStart characters) :=
  List.decidableBAll (Text.isIdentifierStart · = false) characters

/-- The text begins like an identifier. -/
def Begins (text : List Char) : Prop :=
  ∃ c more, text = c :: more ∧ Text.isIdentifierStart c = true

section Edges

variable {characters text rest : List Char}

@[simp] theorem apart_nil : Apart characters [] :=
  fun _ head => nomatch head

@[simp] theorem apart_cons {c : Char} : Apart characters (c :: rest) ↔ c ∉ characters := by
  simp [Apart]

/-- The text begins with another character. -/
theorem apart_head {c : Char} (outside : c ∉ characters := by decide) :
    Apart characters (c :: rest) :=
  apart_cons.mpr outside

/-- What begins with none of some characters begins with none of fewer. -/
theorem Apart.mono {fewer : List Char} (apart : Apart characters text)
    (among : fewer ⊆ characters := by decide) : Apart fewer text :=
  fun c head member => apart c head (among member)

/-- Nothing is dropped from a text that begins with another character. -/
theorem Apart.dropWhile_eq (apart : Apart characters text) :
    text.dropWhile characters.contains = text := by
  cases text with
  | nil => rfl
  | cons c more =>
      rw [List.dropWhile_cons_of_neg]
      rw [List.contains_iff_mem]
      exact apart_cons.mp apart

/-- A text that begins like an identifier begins with no mark. -/
theorem Begins.apart (begins : Begins text) (none : NoStart characters := by decide) :
    Apart characters text := by
  obtain ⟨c, more, rfl, start⟩ := begins
  rw [apart_cons]
  intro member
  rw [none c member] at start
  cases start

/-- A run leads to where the longest run leads. -/
theorem Run.dropWhile_eq (run : Run characters text rest) :
    text.dropWhile characters.contains = rest.dropWhile characters.contains := by
  induction run with
  | stop => rfl
  | step among _ ih =>
      rw [List.dropWhile_cons_of_pos (List.contains_iff_mem.mpr among)]
      exact ih

variable (characters text) in
/-- The characters that a text begins with are a run of them. -/
theorem run_dropWhile : Run characters text (text.dropWhile characters.contains) := by
  induction text with
  | nil => exact .stop
  | cons c more ih =>
      by_cases among : c ∈ characters
      · rw [List.dropWhile_cons_of_pos (List.contains_iff_mem.mpr among)]
        exact .step among ih
      · rw [Apart.dropWhile_eq (apart_cons.mpr among)]
        exact .stop

variable (characters text) in
/-- Behind the characters that a text begins with stands none of them. -/
theorem apart_dropWhile : Apart characters (text.dropWhile characters.contains) := by
  induction text with
  | nil => exact apart_nil
  | cons c more ih =>
      by_cases among : c ∈ characters
      · rwa [List.dropWhile_cons_of_pos (List.contains_iff_mem.mpr among)]
      · rw [Apart.dropWhile_eq (apart_cons.mpr among)]
        exact apart_cons.mpr among

/-- What is behind a run of characters is no longer than the text. -/
theorem Run.length_le (run : Run characters text rest) : rest.length ≤ text.length := by
  induction run with
  | stop => exact Nat.le_refl _
  | step _ _ ih => exact Nat.le_succ_of_le ih

/-- What neither a run nor what follows begins with does not stand in front. -/
theorem Run.apart {others : List Char} (run : Run characters text rest)
    (apart : Apart others rest) (none : Foreign characters others := by decide) :
    Apart others text := by
  cases run with
  | stop => exact apart
  | step among _ => exact apart_head (none _ among)

/-- Nor is what is behind trivia, by induction on them. -/
theorem Trivia.length_le (trivia : Trivia text rest) : rest.length ≤ text.length := by
  induction trivia with
  | stop => exact Nat.le_refl _
  | blank _ _ ih => exact Nat.le_succ_of_le ih
  | comment _ _ _ ih =>
      rw [List.length_cons, List.length_cons, List.length_append]
      omega

/-- Trivia can be followed by more of them. -/
theorem Trivia.trans {behind : List Char} (trivia : Trivia text rest) (more : Trivia rest behind) :
    Trivia text behind := by
  induction trivia with
  | stop => exact more
  | blank among _ ih => exact .blank among (ih more)
  | comment line ends _ ih => exact .comment line ends (ih more)

/-- White space is trivia. -/
theorem Run.trivia (run : Run characters text rest)
    (white : characters ⊆ whiteSpace := by decide) : Trivia text rest := by
  induction run with
  | stop => exact .stop
  | step among _ ih => exact .blank (white among) ih

/-- What neither trivia nor what follows them begin with does not stand in front. -/
theorem Trivia.apart {others : List Char} (trivia : Trivia text rest)
    (apart : Apart others rest) (none : Foreign ('/' :: whiteSpace) others := by decide) :
    Apart others text := by
  cases trivia with
  | stop => exact apart
  | blank among _ => exact apart_head (none _ (List.mem_cons_of_mem _ among))
  | comment _ _ _ => exact apart_head (none _ List.mem_cons_self)

theorem Blanks.run (blanks : Blanks text rest) : Run whiteSpace text rest := by
  cases blanks with
  | mk among more => exact .step among more

theorem Blanks.length_lt (blanks : Blanks text rest) : rest.length < text.length := by
  cases blanks with
  | mk _ more => exact Nat.lt_succ_of_le more.length_le

/-- A word begins like an identifier. -/
theorem Word.begins {word : List Char} (read : Word word text rest) : Begins text := by
  obtain ⟨identifier, rfl, -⟩ := read
  cases word with
  | nil => exact identifier.elim
  | cons c more => exact ⟨c, more ++ rest, rfl, identifier.1⟩

/-- A word takes a character at least. -/
theorem Word.length_lt {word : List Char} (read : Word word text rest) :
    rest.length < text.length := by
  obtain ⟨identifier, rfl, -⟩ := read
  cases word with
  | nil => exact identifier.elim
  | cons c more =>
      rw [List.cons_append, List.length_cons, List.length_append]
      omega

section Joined

variable {α : Type} {phrase : α → List Char → List Char → Prop}
  {between : List Char → List Char → Prop} {values : List α}

/-- Things that are joined begin with the first of them. -/
theorem Joined.exists_first {value : α}
    (joined : Joined phrase between (value :: values) text rest) :
    ∃ behind, phrase value text behind := by
  cases joined with
  | last only => exact ⟨_, only⟩
  | more first _ _ => exact ⟨_, first⟩

/-- Things that are joined begin like an identifier if each of them does. -/
theorem Joined.begins (joined : Joined phrase between values text rest)
    (each : ∀ value text rest, phrase value text rest → Begins text) : Begins text := by
  cases joined with
  | last only => exact each _ _ _ only
  | more first _ _ => exact each _ _ _ first

/-- Things that are joined take a character at least if each of them does. -/
theorem Joined.length_lt (joined : Joined phrase between values text rest)
    (each : ∀ value text rest, phrase value text rest → rest.length < text.length)
    (gap : ∀ text rest, between text rest → rest.length ≤ text.length) :
    rest.length < text.length := by
  induction joined with
  | last only => exact each _ _ _ only
  | more first parted _ ih => exact ih.trans ((gap _ _ parted).trans_lt (each _ _ _ first))

end Joined

/-- What is behind a phrase that may be absent is no longer than the text, if it is so where the
phrase is present. -/
theorem Maybe.length_le {α : Type} {phrase : α → List Char → List Char → Prop} {value : Option α}
    (maybe : Maybe phrase value text rest)
    (each : ∀ value text rest, phrase value text rest → rest.length ≤ text.length) :
    rest.length ≤ text.length := by
  cases maybe with
  | absent => exact Nat.le_refl _
  | present there => exact each _ _ _ there

theorem Name.begins {name : String} (read : Name name text rest) : Begins text := by
  cases read with
  | mk words => exact words.begins fun _ _ _ => Word.begins

/-- A name takes a character at least, that of its first word. -/
theorem Name.length_lt {name : String} (read : Name name text rest) :
    rest.length < text.length := by
  cases read with
  | mk words =>
      refine words.length_lt (fun _ _ _ => Word.length_lt) ?_
      rintro text rest rfl
      exact Nat.le_succ _

/-- The words of a name are identifiers. -/
theorem Name.isDotted {name : String} (read : Name name text rest) : IsDotted name := by
  cases read with
  | @mk parts _ _ words =>
      have identifiers : parts ≠ [] ∧ ∀ part ∈ parts, IsIdentifier part := by
        induction words with
        | last only =>
            refine ⟨List.cons_ne_nil _ _, ?_⟩
            rintro part member
            exact List.mem_singleton.mp member ▸ only.identifier
        | more first _ _ ih =>
            refine ⟨List.cons_ne_nil _ _, ?_⟩
            intro part member
            rcases List.mem_cons.mp member with rfl | later
            · exact first.identifier
            · exact ih.2 part later
      exact ⟨parts, identifiers.1, identifiers.2, String.toList_ofList⟩

theorem Brackets.length_le {rank : Nat} (brackets : Brackets rank text rest) :
    rest.length ≤ text.length := by
  induction brackets with
  | none => exact Nat.le_refl _
  | pair _ ih => exact Nat.le_succ_of_le (Nat.le_succ_of_le ih)

/-- What is no bracket and does not follow them does not stand in front. -/
theorem Brackets.apart {rank : Nat} (brackets : Brackets rank text rest)
    (apart : Apart characters rest) (none : '[' ∉ characters := by decide) :
    Apart characters text := by
  cases brackets with
  | none => exact apart
  | pair _ => exact apart_head none

theorem Ref.begins {type : TypeRef} (read : Ref type text rest) : Begins text := by
  cases read with
  | mk named _ _ => exact named.begins

/-- What is no angle bracket and does not follow the arguments does not stand in front. -/
theorem Arguments.apart {arguments : List TypeRef} (listed : Arguments arguments text rest)
    (apart : Apart characters rest) (none : '<' ∉ characters := by decide) :
    Apart characters text := by
  cases listed with
  | none => exact apart
  | some _ => exact apart_head none

end Edges

mutual

/-- A written type takes a character at least, since its name does. -/
theorem Ref.length_lt {type : TypeRef} {text rest : List Char} :
    Ref type text rest → rest.length < text.length
  | .mk named listed ranked =>
      (ranked.length_le.trans listed.length_le).trans_lt named.length_lt

theorem Arguments.length_le {arguments : List TypeRef} {text rest : List Char} :
    Arguments arguments text rest → rest.length ≤ text.length
  | .none => Nat.le_refl _
  | .some inside => by
      have shorter := inside.length_lt
      rw [List.length_cons] at shorter ⊢
      omega

/-- The arguments between the brackets take a character at least. -/
theorem ArgumentList.length_lt {arguments : List TypeRef} {text rest : List Char} :
    ArgumentList arguments text rest → rest.length < text.length
  | .last before only after =>
      after.length_le.trans_lt (only.length_lt.trans_le before.length_le)
  | .more before first after others => by
      have behind := after.length_le.trans_lt (first.length_lt.trans_le before.length_le)
      rw [List.length_cons] at behind
      exact others.length_lt.trans ((Nat.lt_succ_self _).trans behind)

end

/-- A mark is one of four characters. -/
theorem Mark.exists_cons {visibility : Visibility} {text rest : List Char}
    (mark : Mark visibility text rest) : ∃ c ∈ ['+', '-', '#', '~'], text = c :: rest := by
  cases mark with
  | plus => exact ⟨'+', by decide, rfl⟩
  | minus => exact ⟨'-', by decide, rfl⟩
  | hash => exact ⟨'#', by decide, rfl⟩
  | tilde => exact ⟨'~', by decide, rfl⟩

theorem Mark.length_le {visibility : Visibility} {text rest : List Char}
    (mark : Mark visibility text rest) : rest.length ≤ text.length := by
  obtain ⟨c, -, rfl⟩ := mark.exists_cons
  exact Nat.le_succ _

/-- What is no mark does not stand in front of one. -/
theorem Mark.apart {characters : List Char} {visibility : Visibility} {text rest : List Char}
    (mark : Mark visibility text rest)
    (none : Foreign ['+', '-', '#', '~'] characters := by decide) : Apart characters text := by
  obtain ⟨c, among, rfl⟩ := mark.exists_cons
  exact apart_cons.mpr (none c among)

/-- A member takes a character at least, that of its name. -/
theorem Member.length_lt {written : WrittenMember} {text rest : List Char}
    (read : Phrase.Member written text rest) : rest.length < text.length := by
  cases read with
  | mk marked beforeWord named beforeColon afterColon typed ends =>
      have mark := marked.length_le fun _ _ _ => Mark.length_le
      have ending := ends.length_le fun _ _ _ ⟨before⟩ =>
        (Nat.le_succ _).trans before.length_le
      have colon := beforeColon.length_le
      have word := named.length_lt
      rw [List.length_cons] at colon
      have gaps := beforeWord.length_le
      have type := typed.length_lt
      have gap := afterColon.length_le
      omega

/-- A clause takes a character at least, that of its word. -/
theorem Clause.length_lt {α : Type} {word : String} {phrase : α → List Char → List Char → Prop}
    {value : α} {text rest : List Char} (read : Clause word phrase value text rest)
    (each : ∀ value text rest, phrase value text rest → rest.length < text.length) :
    rest.length < text.length := by
  cases read with
  | mk before keyword after there =>
      exact (each _ _ _ there).trans
        (after.length_lt.trans (keyword.length_lt.trans before.length_lt))

theorem Comma.length_le {text rest : List Char} (read : Comma text rest) :
    rest.length ≤ text.length := by
  cases read with
  | mk before after => exact (after.length_le.trans (Nat.le_succ _)).trans before.length_le

theorem Series.length_le {α : Type} {phrase : α → List Char → List Char → Prop} {values : List α}
    {text rest : List Char} (series : Series phrase values text rest)
    (each : ∀ value text rest, phrase value text rest → rest.length < text.length) :
    rest.length ≤ text.length := by
  induction series with
  | stop => exact Nat.le_refl _
  | more first gap _ ih => exact (ih.trans gap.length_le).trans (each _ _ _ first).le

theorem Body.length_le {members : List WrittenMember} {text rest : List Char}
    (read : Body members text rest) : rest.length ≤ text.length := by
  cases read with
  | mk before gap series =>
      have inside := series.length_le fun _ _ _ => Member.length_lt
      have start := gap.length_le
      have brace := before.length_le
      rw [List.length_cons] at inside brace
      omega

/-- A declaration begins with the word that opens it. -/
theorem Declared.begins {written : WrittenType} {text rest : List Char}
    (read : Declared written text rest) : Begins text := by
  cases read with
  | mk opened _ _ _ _ _ => exact opened.begins

/-- A declaration takes a character at least, so reading one after the other ends. -/
theorem Declared.length_lt {written : WrittenType} {text rest : List Char}
    (read : Declared written text rest) : rest.length < text.length := by
  cases read with
  | mk opened gap named based implementing bodied =>
      have names {values : List String} {text rest : List Char}
          (joined : Joined Name Comma values text rest) : rest.length < text.length :=
        joined.length_lt (fun _ _ _ => Name.length_lt) fun _ _ => Comma.length_le
      have base := based.length_le fun _ _ _ clause =>
        (clause.length_lt fun _ _ _ => Name.length_lt).le
      have interfaces := implementing.length_le fun _ _ _ clause =>
        (clause.length_lt fun _ _ _ => names).le
      have body := bodied.length_le fun _ _ _ => Body.length_le
      exact (body.trans (interfaces.trans base)).trans_lt
        (named.length_lt.trans (gap.length_lt.trans opened.length_lt))

/-- The name of a declaration is a dotted identifier. -/
theorem Declared.isDotted {written : WrittenType} {text rest : List Char}
    (read : Declared written text rest) : IsDotted written.name := by
  cases read with
  | mk _ _ named _ _ _ => exact named.isDotted

/-- What holds of all that a phrase can mean holds throughout a series. -/
theorem Series.forall {α : Type} {phrase : α → List Char → List Char → Prop} {values : List α}
    {text rest : List Char} (series : Series phrase values text rest) {holds : α → Prop}
    (each : ∀ value text rest, phrase value text rest → holds value) :
    ∀ value ∈ values, holds value := by
  induction series with
  | stop => exact fun value member => nomatch member
  | more first _ _ ih =>
      intro value member
      rcases List.mem_cons.mp member with rfl | later
      · exact each _ _ _ first
      · exact ih value later

/-- The names that a source declares are dotted identifiers. -/
theorem File.isDotted {written : List WrittenType} {text : List Char} (file : File written text) :
    ∀ declaration ∈ written, IsDotted declaration.name := by
  obtain ⟨start, -, series⟩ := file
  exact series.forall fun _ _ _ => Declared.isDotted

end ClassDiagram.Declaration.Phrase
