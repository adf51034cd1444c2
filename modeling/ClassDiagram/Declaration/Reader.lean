import ClassDiagram.Declaration.Complaint

/-!
# Readers

A `Reader` takes a cursor into a text.  It either reads a value and moves on or fails, and in both
cases leaves remarks about the attempts that failed on the way.  What is read never depends on the
remarks.  Repetition stops at the first failure, which does not count as one of the whole, and goes
back to where the failed attempt began.
-/

namespace ClassDiagram.Declaration

/-- A place in a text. -/
structure Cursor where
  rest : List Char
  offset : Nat
deriving DecidableEq, Repr

/-- What reading from a place amounts to. -/
structure Step (α : Type) where
  remarks : List Remark
  result : Option (α × Cursor)

/-- Reads a value at the beginning of what is left of a text. -/
def Reader (α : Type) : Type := Cursor → Step α

namespace Reader

variable {α β : Type}

protected def pure (value : α) : Reader α := fun cursor =>
  ⟨[], some (value, cursor)⟩

protected def bind (first : Reader α) (next : α → Reader β) : Reader β := fun cursor =>
  let step := first cursor
  match step.result with
  | none => ⟨step.remarks, none⟩
  | some (value, reached) =>
    let rest := next value reached
    ⟨step.remarks ++ rest.remarks, rest.result⟩

protected def map (change : α → β) (reader : Reader α) : Reader β := fun cursor =>
  let step := reader cursor
  ⟨step.remarks, step.result.map fun (value, reached) => (change value, reached)⟩

instance : Monad Reader where
  map := Reader.map
  pure := Reader.pure
  bind := Reader.bind

@[simp] theorem pure_result (value : α) (cursor : Cursor) :
    ((pure value : Reader α) cursor).result = some (value, cursor) := rfl

/-- What one reader after the other reads is settled by what each of them reads. -/
theorem bind_result (first : Reader α) (next : α → Reader β) (cursor : Cursor) :
    ((first >>= next) cursor).result =
      (first cursor).result.bind fun reached => (next reached.1 reached.2).result := by
  change (Reader.bind first next cursor).result = _
  cases read : (first cursor).result with
  | none => simp [Reader.bind, read]
  | some reached => simp [Reader.bind, read]

@[simp] theorem map_result (change : α → β) (reader : Reader α) (cursor : Cursor) :
    ((change <$> reader) cursor).result =
      (reader cursor).result.map fun reached => (change reached.1, reached.2) := rfl

/-- Fails without a remark. -/
def refuse : Reader α := fun _ => ⟨[], none⟩

/-- Tries one reader and, if it fails, another from the same place. -/
def either (left right : Reader α) : Reader α := fun cursor =>
  let step := left cursor
  match step.result with
  | some _ => step
  | none =>
    let other := right cursor
    ⟨step.remarks ++ other.remarks, other.result⟩

/-- The second reader counts only where the first fails. -/
theorem either_result (left right : Reader α) (cursor : Cursor) :
    (either left right cursor).result = (left cursor).result.or (right cursor).result := by
  cases read : (left cursor).result with
  | none => simp [either, read]
  | some reached => simp [either, read]

def optional (reader : Reader α) : Reader (Option α) :=
  either (some <$> reader) (pure none)

/-- Reads something at most `bound` times, as often as it is there. -/
def manyWithin (reader : Reader α) : Nat → Reader (List α)
  | 0 => pure []
  | bound + 1 =>
    either (do
      let first ← reader
      (first :: ·) <$> manyWithin reader bound) (pure [])

/-- Reads something as often as it is there.  A reader that never succeeds without taking a
character succeeds at most once for every character left. -/
def many (reader : Reader α) : Reader (List α) := fun cursor =>
  manyWithin reader (cursor.rest.length + 1) cursor

/-- Reads one thing or more, with something between any two. -/
def separated (reader : Reader α) (separator : Reader β) : Reader (List α) := do
  let first ← reader
  (first :: ·) <$> many (do
    let _ ← separator
    reader)

/-- Looks at the next character. -/
def peek (cursor : Cursor) : Option Char :=
  cursor.rest.head?

/-- Reads a character of some class, and leaves a remark of its own if there is none. -/
def satisfying (accepts : Char → Bool) (remark : Complaint → Remark)
    (expected : List Expectation) : Reader Char := fun cursor =>
  match cursor.rest with
  | [] => ⟨[remark ⟨cursor.offset, expected, none⟩], none⟩
  | c :: rest =>
    if accepts c then
      ⟨[], some (c, ⟨rest, cursor.offset + 1⟩)⟩
    else
      ⟨[remark ⟨cursor.offset, expected, some c⟩], none⟩

/-- Reads all characters of some class that follow, and leaves the remark about the one behind
them. -/
def spanning (accepts : Char → Bool) (remark : Complaint → Remark)
    (expected : List Expectation) : Reader (List Char) := fun cursor =>
  let taken := cursor.rest.takeWhile accepts
  let rest := cursor.rest.dropWhile accepts
  let offset := cursor.offset + taken.length
  ⟨[remark ⟨offset, expected, rest.head?⟩], some (taken, ⟨rest, offset⟩)⟩

def oneOf (characters : List Char) : Reader Char :=
  satisfying characters.contains .missed (characters.map .character)

/-- Reads all characters that are among some. -/
def allOf (characters : List Char) : Reader (List Char) :=
  spanning characters.contains .missed (characters.map .character)

def character (c : Char) : Reader Unit := do
  let _ ← oneOf [c]
  pure ()

def characters : List Char → Reader Unit
  | [] => pure ()
  | c :: rest => do
    character c
    characters rest

/-- Reads nothing, and only at the end of the text. -/
def atEnd : Reader Unit := fun cursor =>
  match cursor.rest with
  | [] => ⟨[], some ((), cursor)⟩
  | c :: _ => ⟨[.missed ⟨cursor.offset, [.endOfInput], some c⟩], none⟩

def start (reader : Reader α) (text : List Char) : Step α :=
  reader ⟨text, 0⟩

end Reader

end ClassDiagram.Declaration
