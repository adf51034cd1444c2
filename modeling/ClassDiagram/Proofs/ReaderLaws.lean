import ClassDiagram.Proofs.DeclarationGrammar

/-! # What readers read

A reader is `Sound` for a phrase if all that it reads is that phrase.  It `Reads` a value from a
text, or `Fails` on it, if it does so wherever the text stands.  Each way to put readers together
has its own law, so that what a whole reader reads is settled part by part; a repetition goes as far
as its reader does (`ClassDiagram.Declaration.Reader.Repeats`).
-/

namespace ClassDiagram.Declaration.Reader

open Phrase

variable {α β : Type}

/-- All that the reader reads is the phrase. -/
def Sound (reader : Reader α) (phrase : α → List Char → List Char → Prop) : Prop :=
  ∀ ⦃cursor : Cursor⦄ ⦃value : α⦄ ⦃reached : Cursor⦄,
    (reader cursor).result = some (value, reached) → phrase value cursor.rest reached.rest

/-- The reader reads the value, and leaves the rest. -/
def Reads (reader : Reader α) (value : α) (text rest : List Char) : Prop :=
  ∀ offset, ∃ behind, (reader ⟨text, offset⟩).result = some (value, ⟨rest, behind⟩)

/-- The reader does not read anything. -/
def Fails (reader : Reader α) (text : List Char) : Prop :=
  ∀ offset, (reader ⟨text, offset⟩).result = none

/-- What a reader reads is settled by the text. -/
theorem Reads.unique {reader : Reader α} {text : List Char} {left right : α}
    {leftRest rightRest : List Char} (first : Reads reader left text leftRest)
    (second : Reads reader right text rightRest) : left = right ∧ leftRest = rightRest := by
  obtain ⟨leftBehind, leftResult⟩ := first 0
  obtain ⟨rightBehind, rightResult⟩ := second 0
  rw [leftResult, Option.some.injEq, Prod.mk.injEq, Cursor.mk.injEq] at rightResult
  exact ⟨rightResult.1, rightResult.2.1⟩

section Laws

variable {reader : Reader α} {value : α} {text middle rest : List Char}

/-- Two readers read something one after the other if both do. -/
theorem bind_eq_some {first : Reader α} {next : α → Reader β} {cursor reached : Cursor}
    {value : β} : ((first >>= next) cursor).result = some (value, reached) ↔
      ∃ found between, (first cursor).result = some (found, between) ∧
        (next found between).result = some (value, reached) := by
  rw [bind_result, Option.bind_eq_some_iff, Prod.exists]

/-- What is read is changed where something is read. -/
theorem map_eq_some {change : α → β} {cursor reached : Cursor} {value : β} :
    ((change <$> reader) cursor).result = some (value, reached) ↔
      ∃ found, (reader cursor).result = some (found, reached) ∧ change found = value := by
  rw [map_result, Option.map_eq_some_iff]
  constructor
  · rintro ⟨⟨found, between⟩, result, same⟩
    cases same
    exact ⟨found, result, rfl⟩
  · rintro ⟨found, result, rfl⟩
    exact ⟨(found, reached), result, rfl⟩

/-- A reader that is given its value reads it and takes nothing. -/
theorem pure_eq_some {cursor reached : Cursor} {found : α} :
    ((pure value : Reader α) cursor).result = some (found, reached) ↔
      found = value ∧ reached = cursor := by
  rw [pure_result, Option.some.injEq, Prod.mk.injEq, eq_comm, @eq_comm _ cursor]

/-- The second of two readers is asked only where the first fails. -/
theorem either_eq_some {left right : Reader α} {cursor reached : Cursor} :
    ((either left right) cursor).result = some (value, reached) ↔
      (left cursor).result = some (value, reached) ∨
        (left cursor).result = none ∧ (right cursor).result = some (value, reached) := by
  rw [either_result, Option.or_eq_some_iff]

/-- What reads a phrase reads a weaker one. -/
theorem Sound.mono {phrase weaker : α → List Char → List Char → Prop} (sound : Sound reader phrase)
    (implied : ∀ value text rest, phrase value text rest → weaker value text rest) :
    Sound reader weaker :=
  fun _ _ _ result => implied _ _ _ (sound result)

/-- What may be left out is read as a phrase that may be absent. -/
theorem Sound.optional {phrase : α → List Char → List Char → Prop} (sound : Sound reader phrase) :
    Sound (optional reader) (Maybe phrase) := by
  intro cursor value reached result
  rcases either_eq_some.mp result with present | ⟨-, absent⟩
  · obtain ⟨found, read, rfl⟩ := map_eq_some.mp present
    exact .present (sound read)
  · obtain ⟨rfl, rfl⟩ := pure_eq_some.mp absent
    exact .absent

/-- What is read repeatedly is made of what is read once. -/
theorem Sound.many {phrase : α → List Char → List Char → Prop} (sound : Sound reader phrase)
    (series : List α → List Char → List Char → Prop) (stop : ∀ text, series [] text text)
    (step : ∀ value values text middle rest, phrase value text middle →
      series values middle rest → series (value :: values) text rest) :
    Sound (many reader) series := by
  have within (bound : Nat) : Sound (manyWithin reader bound) series := by
    induction bound with
    | zero =>
        intro cursor values reached result
        obtain ⟨rfl, rfl⟩ := pure_eq_some.mp result
        exact stop _
    | succ bound ih =>
        intro cursor values reached result
        rcases either_eq_some.mp result with more | ⟨-, none⟩
        · obtain ⟨first, between, read, others⟩ := bind_eq_some.mp more
          obtain ⟨found, repeated, rfl⟩ := map_eq_some.mp others
          exact step _ _ _ _ _ (sound read) (ih repeated)
        · obtain ⟨rfl, rfl⟩ := pure_eq_some.mp none
          exact stop _
  exact fun _ _ _ result => within _ result

/-- Things with a separator between them are read as joined phrases. -/
theorem Sound.separated {phrase : α → List Char → List Char → Prop} (sound : Sound reader phrase)
    {separator : Reader β} {between : List Char → List Char → Prop}
    (parting : Sound separator fun _ => between) :
    Sound (separated reader separator) (Joined phrase between) := by
  intro cursor values reached result
  obtain ⟨first, middle, read, others⟩ := bind_eq_some.mp result
  obtain ⟨more, repeated, rfl⟩ := map_eq_some.mp others
  have pieces : Sound (do
      let _ ← separator
      reader) fun value text rest => ∃ next, between text next ∧ phrase value next rest := by
    intro cursor value reached result
    obtain ⟨_, next, parted, read⟩ := bind_eq_some.mp result
    exact ⟨next.rest, parting parted, sound read⟩
  have joined := pieces.many (fun values text rest => ∀ value before,
    phrase value before text → Joined phrase between (value :: values) before rest)
    (fun text value before only => .last only)
    (fun value values text middle rest ⟨next, gap, there⟩ others first before begins =>
      .more begins gap (others value next there))
  exact joined repeated first cursor.rest (sound read)

theorem Reads.pure : Reads (pure value : Reader α) value text text :=
  fun offset => ⟨offset, rfl⟩

/-- What two readers read one after the other is read by both together. -/
theorem Reads.bind {next : α → Reader β} {other : β} (first : Reads reader value text middle)
    (second : Reads (next value) other middle rest) :
    Reads (reader >>= next) other text rest := by
  intro offset
  obtain ⟨between, found⟩ := first offset
  obtain ⟨behind, reached⟩ := second between
  exact ⟨behind, bind_eq_some.mpr ⟨value, _, found, reached⟩⟩

theorem Reads.map {change : α → β} (read : Reads reader value text rest) :
    Reads (change <$> reader) (change value) text rest := by
  intro offset
  obtain ⟨behind, found⟩ := read offset
  exact ⟨behind, map_eq_some.mpr ⟨value, found, rfl⟩⟩

/-- Two readers fail together where the first fails. -/
theorem Fails.bind {next : α → Reader β} (first : Fails reader text) :
    Fails (reader >>= next) text := by
  intro offset
  rw [bind_result, first offset, Option.bind_none]

/-- They fail as well where the second fails behind what the first has read. -/
theorem Reads.bind_fails {next : α → Reader β} (first : Reads reader value text middle)
    (second : Fails (next value) middle) : Fails (reader >>= next) text := by
  intro offset
  obtain ⟨between, found⟩ := first offset
  rw [bind_result, found, Option.bind_some]
  exact second between

theorem Fails.map {change : α → β} (fails : Fails reader text) :
    Fails (change <$> reader) text := by
  intro offset
  rw [map_result, fails offset, Option.map_none]

theorem Reads.either_left {other : Reader α} (read : Reads reader value text rest) :
    Reads (either reader other) value text rest := by
  intro offset
  obtain ⟨behind, found⟩ := read offset
  exact ⟨behind, either_eq_some.mpr (Or.inl found)⟩

/-- What the second of two readers reads is read where the first fails. -/
theorem Reads.either_right {other : Reader α} (fails : Fails other text)
    (read : Reads reader value text rest) : Reads (either other reader) value text rest := by
  intro offset
  obtain ⟨behind, found⟩ := read offset
  exact ⟨behind, either_eq_some.mpr (Or.inr ⟨fails offset, found⟩)⟩

/-- Nothing is read where both of two readers fail. -/
theorem Fails.either {other : Reader α} (left : Fails reader text) (right : Fails other text) :
    Fails (either reader other) text := by
  intro offset
  rw [either_result, left offset, Option.none_or, right offset]

/-- What may be left out is read where it stands. -/
theorem Reads.optional (read : Reads reader value text rest) :
    Reads (optional reader) (some value) text rest :=
  Reads.either_left read.map

theorem Fails.optional (fails : Fails reader text) : Reads (optional reader) none text text :=
  Reads.either_right fails.map Reads.pure

/-- A reader that is repeated reads one value after the other, each time taking a character or more,
until it fails. -/
inductive Repeats (reader : Reader α) : List α → List Char → List Char → Prop
  | stop {text : List Char} (fails : Fails reader text) : Repeats reader [] text text
  | step {value : α} {values : List α} {text middle rest : List Char}
      (first : Reads reader value text middle) (shorter : middle.length < text.length)
      (others : Repeats reader values middle rest) : Repeats reader (value :: values) text rest

/-- A repetition is read to its end within any bound beyond the length of the text. -/
theorem Repeats.reads_within {values : List α} (repeats : Repeats reader values text rest)
    {bound : Nat} (enough : text.length < bound) :
    Reads (manyWithin reader bound) values text rest := by
  induction repeats generalizing bound with
  | stop fails =>
      obtain ⟨bound, rfl⟩ := Nat.exists_eq_succ_of_ne_zero (Nat.ne_zero_of_lt enough)
      exact Reads.either_right fails.bind Reads.pure
  | step first shorter _ ih =>
      obtain ⟨bound, rfl⟩ := Nat.exists_eq_succ_of_ne_zero (Nat.ne_zero_of_lt enough)
      exact Reads.either_left (first.bind (ih (by omega)).map)

/-- As many characters as there are bound the repetition. -/
theorem Repeats.reads {values : List α} (repeats : Repeats reader values text rest) :
    Reads (many reader) values text rest :=
  repeats.reads_within (Nat.lt_succ_self _)

/-- One thing is read, and then others as long as something stands between them. -/
theorem Reads.separated {separator : Reader β} {values : List α}
    (first : Reads reader value text middle)
    (others : Repeats (do
      let _ ← separator
      reader) values middle rest) :
    Reads (separated reader separator) (value :: values) text rest :=
  first.bind others.reads.map

end Laws

end ClassDiagram.Declaration.Reader
