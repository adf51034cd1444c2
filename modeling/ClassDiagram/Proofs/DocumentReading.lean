import ClassDiagram.Document.Structure

/-! # What readers of documents read

A reader of documents `Reads` a value from a text if it does so wherever the text stands in the
document.  Each way to put readers together has its own law.  Every reader of a whole value skips
the white space in front of it, so such a reader `Accepts` a text in front of which any `Gap` may
stand.  The contents of lists and objects are read step by step
(`ClassDiagram.Document.Reader.Runs`), which is bounded by the text as long as each step takes a
character.
-/

namespace ClassDiagram.Document.Reader

variable {α β σ : Type}

/-- The reader reads the value, and leaves the rest. -/
def Reads (reader : Reader α) (value : α) (text rest : List Char) : Prop :=
  ∀ line column, ∃ behindLine behindColumn,
    reader ⟨text, line, column⟩ = .done value ⟨rest, behindLine, behindColumn⟩

/-- White space between the parts of a document. -/
def Gap (text : List Char) : Prop :=
  ∀ c ∈ text, isBlank c = true

/-- The text begins a value, and the reader reads the value from it, whatever stands behind it and
whatever white space stands in front of it. -/
structure Accepts (reader : Reader α) (text : List Char) (value : α) : Prop where
  begins : ∃ c more, text = c :: more ∧ isBlank c = false ∧ c ≠ ']'
  reads : ∀ gap rest, Gap gap → Reads reader value (gap ++ (text ++ rest)) rest

section Laws

variable {reader : Reader α} {value : α} {text middle rest gap : List Char}

theorem Reads.pure : Reads (pure value : Reader α) value text text :=
  fun line column => ⟨line, column, rfl⟩

/-- What two readers read one after the other is read by both together. -/
theorem Reads.bind {next : α → Reader β} {other : β} (first : Reads reader value text middle)
    (second : Reads (next value) other middle rest) : Reads (reader >>= next) other text rest := by
  intro line column
  obtain ⟨middleLine, middleColumn, found⟩ := first line column
  obtain ⟨behindLine, behindColumn, reached⟩ := second middleLine middleColumn
  refine ⟨behindLine, behindColumn, ?_⟩
  change Reader.bind reader next ⟨text, line, column⟩ = _
  unfold Reader.bind
  rw [found]
  exact reached

theorem Reads.map (change : α → β) (read : Reads reader value text rest) :
    Reads (change <$> reader) (change value) text rest :=
  read.bind Reads.pure

/-- Where a mistake would be placed makes no difference to what is read. -/
theorem Reads.placed (read : Reads reader value text rest) :
    Reads (placed reader) value text rest := by
  intro line column
  obtain ⟨behindLine, behindColumn, found⟩ := read line column
  refine ⟨behindLine, behindColumn, ?_⟩
  unfold Reader.placed
  rw [found]

theorem reads_peek : Reads peek text.head? text text :=
  fun line column => ⟨line, column, rfl⟩

/-- The cursor behind the next character leaves what follows it. -/
theorem exists_advance (c : Char) (rest : List Char) (line column : Nat) :
    ∃ behindLine behindColumn, (Cursor.mk (c :: rest) line column).advance =
      ⟨rest, behindLine, behindColumn⟩ := by
  simp only [Cursor.advance, Cursor.past]
  split
  · exact ⟨_, _, rfl⟩
  · exact ⟨_, _, rfl⟩

/-- The next character is passed, be it a line break or not. -/
theorem reads_advance {c : Char} : Reads advance () (c :: rest) rest := by
  intro line column
  obtain ⟨behindLine, behindColumn, passed⟩ := exists_advance c rest line column
  exact ⟨behindLine, behindColumn, congrArg (Outcome.done ()) passed⟩

theorem Gap.nil : Gap [] :=
  fun _ member => nomatch member

/-- Skipping white space leads to what follows it. -/
theorem exists_pastBlanks (blank : Gap gap) (solid : ∀ c ∈ rest.head?, isBlank c = false)
    (cursor : Cursor) (there : cursor.rest = gap ++ rest) :
    ∃ line column, pastBlanks cursor (gap ++ rest) = ⟨rest, line, column⟩ := by
  induction gap generalizing cursor with
  | nil =>
      obtain ⟨text, line, column⟩ := cursor
      obtain rfl : text = rest := there
      refine ⟨line, column, ?_⟩
      cases text with
      | nil => rfl
      | cons c more => simp [pastBlanks, solid c rfl]
  | cons c gap ih =>
      have skipped : isBlank c = true := blank c List.mem_cons_self
      simp only [List.cons_append, pastBlanks, skipped, ↓reduceIte]
      refine ih (fun other member => blank other (List.mem_cons_of_mem _ member)) _ ?_
      unfold Cursor.past
      split <;> rfl

/-- Behind white space stands what follows it, if anything does. -/
theorem reads_token_head (blank : Gap gap) (solid : ∀ c ∈ rest.head?, isBlank c = false) :
    Reads token rest.head? (gap ++ rest) rest := by
  intro line column
  obtain ⟨behindLine, behindColumn, skipped⟩ :=
    exists_pastBlanks blank solid ⟨gap ++ rest, line, column⟩ rfl
  exact ⟨behindLine, behindColumn, by rw [token, skipped]; rfl⟩

/-- Behind white space the next character is seen. -/
theorem reads_token {c : Char} (blank : Gap gap) (solid : isBlank c = false) :
    Reads token (some c) (gap ++ c :: rest) (c :: rest) := by
  refine reads_token_head blank ?_
  rintro _ ⟨⟩
  exact solid

/-- So it is where a value has to begin. -/
theorem reads_valueToken {c : Char} (blank : Gap gap) (solid : isBlank c = false) :
    Reads valueToken c (gap ++ c :: rest) (c :: rest) :=
  (reads_token blank solid).bind Reads.pure

theorem reads_word (letters : List Char) : Reads (word letters) () (letters ++ rest) rest := by
  induction letters with
  | nil => exact Reads.pure
  | cons letter more ih =>
      refine reads_peek.bind ?_
      simp only [List.cons_append, List.head?_cons, ↓reduceIte]
      exact reads_advance.bind ih

/-- What a repeated step does from one state and text to another, taking a character or more each
time but the last. -/
inductive Runs (step : σ → Reader (Option σ)) : σ → List Char → σ → List Char → Prop
  | ends {state : σ} {text rest : List Char} (read : Reads (step state) none text rest) :
      Runs step state text state rest
  | more {state next last : σ} {text middle rest : List Char}
      (read : Reads (step state) (some next) text middle) (shorter : middle.length < text.length)
      (others : Runs step next middle last rest) : Runs step state text last rest

/-- A run is read to its end within any bound beyond the length of the text. -/
theorem Runs.reads_within {step : σ → Reader (Option σ)} {state last : σ}
    (runs : Runs step state text last rest) {bound : Nat} (enough : text.length < bound) :
    Reads (repeatWithin step bound state) last text rest := by
  intro line column
  induction runs generalizing bound line column with
  | ends read =>
      obtain ⟨bound, rfl⟩ := Nat.exists_eq_succ_of_ne_zero (Nat.ne_zero_of_lt enough)
      obtain ⟨behindLine, behindColumn, found⟩ := read line column
      refine ⟨behindLine, behindColumn, ?_⟩
      rw [repeatWithin]
      simp only [found]
  | more read shorter _ ih =>
      obtain ⟨bound, rfl⟩ := Nat.exists_eq_succ_of_ne_zero (Nat.ne_zero_of_lt enough)
      obtain ⟨middleLine, middleColumn, found⟩ := read line column
      rw [repeatWithin]
      simp only [found]
      exact ih (by omega) middleLine middleColumn

/-- The bound of a repetition is never reached. -/
theorem Runs.reads {step : σ → Reader (Option σ)} {state last : σ}
    (runs : Runs step state text last rest) : Reads (repeated step state) last text rest :=
  fun line column => runs.reads_within (by omega : text.length < text.length + 2) line column

/-- What stands behind an opening bracket is read one level deeper, if there is a level left. -/
theorem Reads.descend {c : Char} {left : Nat} (levels : 0 < left)
    (read : Reads reader value text rest) : Reads (descend left reader) value (c :: text) rest := by
  unfold Document.descend
  rw [ite_eq_right_iff.mpr fun none => absurd none (Nat.ne_of_gt levels)]
  exact reads_advance.bind read

/-- The contents of a bracket are read up to what closes it. -/
theorem Reads.inside {close : Reader Unit} (contents : Reads reader value text middle)
    (closes : Reads close () middle rest) : Reads (inside reader close) value text rest := by
  intro line column
  obtain ⟨middleLine, middleColumn, found⟩ := contents line column
  obtain ⟨behindLine, behindColumn, reached⟩ := closes middleLine middleColumn
  refine ⟨behindLine, behindColumn, ?_⟩
  unfold Document.inside
  simp only [found, reached]

theorem reads_closeList (blank : Gap gap) : Reads closeList () (gap ++ ']' :: rest) rest :=
  (reads_token blank (by decide)).bind reads_advance

theorem reads_closeObject (blank : Gap gap) : Reads closeObject () (gap ++ '\x7d' :: rest) rest :=
  (reads_token blank (by decide)).bind reads_advance

/-- A colon is read behind white space. -/
theorem reads_colon (blank : Gap gap) : Reads colon () (gap ++ ':' :: rest) rest :=
  (reads_token blank (by decide)).bind reads_advance

/-- A reader that goes by the next character accepts what it reads from there. -/
theorem accepts_behind_token {next : Option Char → Reader α} {c : Char}
    (begins : text.head? = some c) (solid : isBlank c = false) (notEnd : c ≠ ']')
    (read : ∀ rest, Reads (next (some c)) value (text ++ rest) rest) :
    Accepts (token >>= next) text value := by
  obtain ⟨more, rfl⟩ := List.head?_eq_some_iff.mp begins
  exact ⟨⟨c, more, rfl, solid, notEnd⟩, fun gap rest blank =>
    (reads_token blank solid).bind (read rest)⟩

/-- A reader that goes by the character with which a value begins accepts what it reads from there.
-/
theorem accepts_behind_valueToken {next : Char → Reader α} {c : Char}
    (begins : text.head? = some c) (solid : isBlank c = false) (notEnd : c ≠ ']')
    (read : ∀ rest, Reads (next c) value (text ++ rest) rest) :
    Accepts (valueToken >>= next) text value := by
  obtain ⟨more, rfl⟩ := List.head?_eq_some_iff.mp begins
  exact ⟨⟨c, more, rfl, solid, notEnd⟩, fun gap rest blank =>
    (reads_valueToken blank solid).bind (read rest)⟩

/-- What is accepted can be made into something else. -/
theorem Accepts.bind {next : α → Reader β} {made : β} (accepts : Accepts reader text value)
    (makes : ∀ rest, Reads (next value) made rest rest) : Accepts (reader >>= next) text made where
  begins := accepts.begins
  reads := fun gap rest blank => (accepts.reads gap rest blank).bind (makes rest)

/-- What stands behind a key is read behind the colon. -/
theorem Accepts.reads_behind_colon {behind : List Char} (accepts : Accepts reader text value)
    (blank : Gap gap) (blankBehind : Gap behind) :
    Reads (colon >>= fun _ => reader) value (gap ++ ':' :: (behind ++ (text ++ rest))) rest :=
  (reads_colon blank).bind (accepts.reads behind rest blankBehind)

/-- At the closing bracket there is no element left. -/
theorem reads_nextElement_end (first : Bool) (blank : Gap gap) :
    Reads (nextElement first) false (gap ++ ']' :: rest) (']' :: rest) :=
  (reads_token blank (by decide)).bind Reads.pure

/-- The first element of a list stands behind white space. -/
theorem Accepts.reads_first (accepts : Accepts reader text value) (blank : Gap gap) :
    Reads (nextElement true) true (gap ++ (text ++ rest)) (text ++ rest) := by
  obtain ⟨c, more, rfl, solid, notEnd⟩ := accepts.begins
  refine (reads_token blank solid).bind ?_
  simp only [↓reduceIte]
  exact Reads.pure

/-- Any other element stands behind a comma. -/
theorem Accepts.reads_later {behind : List Char} (accepts : Accepts reader text value)
    (blank : Gap gap) (blankBehind : Gap behind) :
    Reads (nextElement false) true (gap ++ ',' :: (behind ++ (text ++ rest))) (text ++ rest) := by
  obtain ⟨c, more, rfl, solid, notEnd⟩ := accepts.begins
  refine (reads_token blank (by decide)).bind (reads_advance.bind ?_)
  refine (reads_token blankBehind solid).bind ?_
  simp only
  exact Reads.pure

end Laws

end ClassDiagram.Document.Reader
