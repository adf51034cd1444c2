import ClassDiagram.Document.Fault

/-!
# Reading a document

A `Reader` takes a cursor into a document and ends, with a value or a fault, at another cursor.
The cursor is known after a fault as well, because a list or object whose contents were refused is
still looked at for its closing bracket.  Places count bytes; most faults are placed behind the
byte that is wrong, so `failAhead` places them one byte farther than the cursor.
-/

namespace ClassDiagram.Document

/-- A place in a document and what follows it. -/
structure Cursor where
  rest : List Char
  line : Nat := 1
  /-- The bytes of the line in front of the place. -/
  column : Nat := 0

namespace Cursor

def place (cursor : Cursor) : Position :=
  ⟨cursor.line, cursor.column⟩

def past (cursor : Cursor) (c : Char) (rest : List Char) : Cursor :=
  if c = '\n' then ⟨rest, cursor.line + 1, 0⟩ else ⟨rest, cursor.line, cursor.column + c.utf8Size⟩

/-- The cursor behind the next character, if there is one. -/
def advance (cursor : Cursor) : Cursor :=
  match cursor.rest with
  | [] => cursor
  | c :: rest => cursor.past c rest

/-- The place some bytes farther on, which may be inside a character, or the end of the document. -/
def placeAfter (cursor : Cursor) : Nat → List Char → Position
  | 0, _ => cursor.place
  | _ + 1, [] => cursor.place
  | bytes + 1, c :: rest =>
    if c.utf8Size ≤ bytes + 1 then
      placeAfter (cursor.past c rest) (bytes + 1 - c.utf8Size) rest
    else
      ⟨cursor.line, cursor.column + (bytes + 1)⟩

/-- The place one byte farther on. -/
def placeAhead (cursor : Cursor) : Position :=
  cursor.placeAfter 1 cursor.rest

end Cursor

/-- The end of reading: a value or a fault, and where reading stopped. -/
inductive Outcome (α : Type) where
  | done (value : α) (cursor : Cursor)
  | fault (fault : Fault) (cursor : Cursor)

namespace Outcome

variable {α : Type}

/-- Where reading stopped. -/
def cursor : Outcome α → Cursor
  | done _ cursor => cursor
  | fault _ cursor => cursor

end Outcome

/-- Reads a value at a cursor. -/
def Reader (α : Type) : Type := Cursor → Outcome α

namespace Reader

variable {α β σ : Type}

protected def pure (value : α) : Reader α := fun cursor => .done value cursor

/-- Reads one thing after the other; a fault ends it. -/
protected def bind (first : Reader α) (next : α → Reader β) : Reader β := fun cursor =>
  match first cursor with
  | .done value reached => next value reached
  | .fault fault reached => .fault fault reached

instance : Monad Reader where
  pure := Reader.pure
  bind := Reader.bind

/-- A fault without a place. -/
def refuse (cause : Cause) : Reader α := fun cursor =>
  .fault ⟨cause, none⟩ cursor

def fail (cause : Cause) : Reader α := fun cursor =>
  .fault ⟨cause, some cursor.place⟩ cursor

/-- A fault one byte behind the cursor, or at the end of the document. -/
def failAhead (cause : Cause) : Reader α := fun cursor =>
  .fault ⟨cause, some cursor.placeAhead⟩ cursor

/-- The fault, placed at a cursor unless it has a place. -/
def place (fault : Fault) (cursor : Cursor) : Fault :=
  { fault with place := fault.place.or (some cursor.place) }

/-- Places a fault where reading stopped. -/
def placed (reader : Reader α) : Reader α := fun cursor =>
  match reader cursor with
  | .done value reached => .done value reached
  | .fault fault reached => .fault (place fault reached) reached

/-- What was worked out, or a fault without a place. -/
def ofExcept : Except Cause α → Reader α
  | .ok value => pure value
  | .error cause => refuse cause

def peek : Reader (Option Char) := fun cursor =>
  .done cursor.rest.head? cursor

def advance : Reader Unit := fun cursor =>
  .done () cursor.advance

/-- Repeats a step that says with `none` when it is over, at most `bound` times. -/
def repeatWithin (step : σ → Reader (Option σ)) : Nat → σ → Reader σ
  | 0, state => pure state
  | bound + 1, state => fun cursor =>
    match step state cursor with
    | .done none reached => .done state reached
    | .done (some next) reached => repeatWithin step bound next reached
    | .fault fault reached => .fault fault reached

/-- Repeats a step that takes at least one character each time, until it says that it is over. -/
def repeated (step : σ → Reader (Option σ)) (state : σ) : Reader σ := fun cursor =>
  repeatWithin step (cursor.rest.length + 2) state cursor

/-- Whether a character is white space of a document. -/
def isBlank (c : Char) : Bool :=
  c == ' ' || c == '\n' || c == '\t' || c == '\r'

/-- The cursor behind the white space at the beginning of a text. -/
def pastBlanks (cursor : Cursor) : List Char → Cursor
  | [] => cursor
  | c :: rest => if isBlank c then pastBlanks (cursor.past c rest) rest else cursor

/-- Skips white space and looks at what follows. -/
def token : Reader (Option Char) := fun cursor =>
  peek (pastBlanks cursor cursor.rest)

/-- Skips white space and looks at the beginning of a value, which has to be there. -/
def valueToken : Reader Char := do
  match ← token with
  | some c => pure c
  | none => failAhead .endInValue

/-- Reads the rest of one of the words of a document. -/
def word : List Char → Reader Unit
  | [] => pure ()
  | expected :: more => do
    match ← peek with
    | none => fail .endInValue
    | some c =>
      if c = expected then
        advance
        word more
      else
        failAhead .unknownWord

end Reader

end ClassDiagram.Document
