import ClassDiagram.Document.Scan

/-!
# Lists and objects of a document

Readers for the marks between the parts of lists and objects.  Nesting is limited: a reader is told
how many levels are left, and `descend` refuses to open the last one.  Values that nobody asked for
are skipped by `skipValue`, at any depth.
-/

namespace ClassDiagram.Document

open Reader

variable {α σ : Type}

/-- Opens a list or an object and reads what is in it, unless no level is left. -/
def descend (left : Nat) (reader : Reader α) : Reader α :=
  if left = 0 then
    failAhead .tooDeep
  else do
    advance
    reader

/-- Reads the contents of a list or an object and its end.  The end is looked for even if the
contents were refused; then the fault of the contents counts, and without a place of its own it is
placed behind the end. -/
def inside (contents : Reader α) (close : Reader Unit) : Reader α := fun cursor =>
  match contents cursor with
  | .done value reached =>
    match close reached with
    | .done _ closed => .done value closed
    | .fault fault stopped => .fault (place fault stopped) stopped
  | .fault fault reached =>
    let stopped := (close reached).cursor
    .fault (place fault stopped) stopped

def closeList : Reader Unit := do
  match ← token with
  | none => failAhead .endInList
  | some ']' => advance
  | some ',' =>
    advance
    if (← token) = some ']' then failAhead .trailingComma else failAhead .trailingCharacters
  | some _ => failAhead .trailingCharacters

def closeObject : Reader Unit := do
  match ← token with
  | none => failAhead .endInObject
  | some '\x7d' => advance
  | some ',' => failAhead .trailingComma
  | some _ => failAhead .trailingCharacters

/-- Goes to the next element of a list and says whether there is one.  A comma stands in front of
every element but the first. -/
def nextElement (first : Bool) : Reader Bool := do
  match ← token with
  | none => failAhead .endInList
  | some ']' => pure false
  | some c =>
    if first then
      pure true
    else if c = ',' then
      advance
      match ← token with
      | none => failAhead .endInValue
      | some ']' => failAhead .trailingComma
      | some _ => pure true
    else
      failAhead .noListSeparator

/-- Reads the next key of an object, if there is one. -/
def nextKey (first : Bool) : Reader (Option String) := do
  match ← token with
  | none => failAhead .endInObject
  | some '\x7d' => pure none
  | some c =>
    if first then
      if c = '"' then key else failAhead .keyNoText
    else if c = ',' then
      advance
      match ← token with
      | none => failAhead .endInValue
      | some '\x7d' => failAhead .trailingComma
      | some '"' => key
      | some _ => failAhead .keyNoText
    else
      failAhead .noObjectSeparator
where
  key : Reader (Option String) := do
    advance
    some <$> textBody

def colon : Reader Unit := do
  match ← token with
  | none => failAhead .endInObject
  | some ':' => advance
  | some _ => failAhead .noColon

/-- Reads the elements of a list up to its end.  If some were read before, a comma stands in front
of the next one. -/
def elements (started : Bool) (reader : Reader α) : Reader (List α) := do
  let taken ← repeated (fun taken => do
    if ← nextElement (!started && taken.isEmpty) then
      let element ← reader
      pure (some (element :: taken))
    else
      pure none) []
  pure taken.reverse

/-- Reads the fields of an object up to its end.  What is done with a key also reads the mark and
the value behind it. -/
def fields (onKey : σ → String → Reader σ) (start : σ) : Reader σ := do
  let (_, reached) ← repeated (fun (first, state) => do
    match ← nextKey first with
    | none => pure none
    | some key =>
      let state ← onKey state key
      pure (some (false, state))) (true, start)
  pure reached

/-- A list or an object that is open. -/
inductive Bracket where
  | list
  | object
deriving DecidableEq

/-- Skips a value, or opens it if it is a list or an object. -/
def skipOrOpen : Reader (Option Bracket) := do
  match ← valueToken with
  | 'n' => advance; word ['u', 'l', 'l']; pure none
  | 't' => advance; word ['r', 'u', 'e']; pure none
  | 'f' => advance; word ['a', 'l', 's', 'e']; pure none
  | '"' => advance; skipTextBody; pure none
  | '[' => advance; pure (some .list)
  | '\x7b' => advance; pure (some .object)
  | c =>
    if c = '-' || c.isDigit then
      skipNumber
      pure none
    else
      failAhead .noValue

/-- The brackets that are open, the innermost first, each with whether nothing was read in it. -/
abbrev Brackets := List (Bracket × Bool)

/-- Skips one more value inside the innermost bracket. -/
def skipInto (bracket : Bracket) (outer : Brackets) : Reader (Option Brackets) := do
  match ← skipOrOpen with
  | none => pure (some ((bracket, false) :: outer))
  | some inner => pure (some ((inner, true) :: (bracket, false) :: outer))

/-- Skips the next element or field of the innermost bracket, or closes it. -/
def skipStep : Brackets → Reader (Option Brackets)
  | [] => pure none
  | (.list, first) :: outer => do
    match ← token with
    | none => failAhead .endInList
    | some ']' => advance; pure (some outer)
    | some c =>
      if first then
        skipInto .list outer
      else if c = ',' then
        advance
        skipInto .list outer
      else
        failAhead .noListSeparator
  | (.object, first) :: outer => do
    match ← token with
    | none => failAhead .endInObject
    | some '\x7d' => advance; pure (some outer)
    | some c =>
      if first then
        field outer
      else if c = ',' then
        advance
        field outer
      else
        failAhead .noObjectSeparator
where
  field (outer : Brackets) : Reader (Option Brackets) := do
    match ← token with
    | none => failAhead .endInObject
    | some '"' =>
      advance
      skipTextBody
      colon
      skipInto .object outer
    | some _ => failAhead .keyNoText

def skipValue : Reader Unit := do
  match ← skipOrOpen with
  | none => pure ()
  | some bracket =>
    let _ ← repeated skipStep [(bracket, true)]
    pure ()

/-- The reader of a value that begins with a character and is neither a list nor an object. -/
def scalar? : Char → Option (Reader Value)
  | 'n' => some do
    advance
    word ['u', 'l', 'l']
    pure .null
  | 't' => some do
    advance
    word ['r', 'u', 'e']
    pure (.bool true)
  | 'f' => some do
    advance
    word ['a', 'l', 's', 'e']
    pure (.bool false)
  | '"' => some do
    advance
    .text <$> textBody
  | c => if c = '-' || c.isDigit then some (.number <$> number) else none

/-- Reads any value, where so many levels are left. -/
def value : Nat → Reader Value
  | 0 => failAhead .tooDeep
  | left + 1 => do
    match ← valueToken with
    | '[' => .list <$> descend left (inside (elements false (value left)) closeList)
    | '\x7b' =>
      let read := fields (fun taken key => do
        colon
        let content ← value left
        pure ((key, content) :: taken)) []
      (.object ·.reverse) <$> descend left (inside read closeObject)
    | c =>
      match scalar? c with
      | some reader => reader
      | none => failAhead .noValue

/-- Refuses a value of another type than the one expected.  The value is read if it is neither a
list nor an object. -/
def mismatch (expected : String) : Reader α := placed do
  match ← valueToken with
  | '[' => refuse (.unexpected (.list []) expected)
  | '\x7b' => refuse (.unexpected (.object []) expected)
  | c =>
    match scalar? c with
    | some reader =>
      let found ← reader
      refuse (.unexpected found expected)
    | none => failAhead .noValue

end ClassDiagram.Document
