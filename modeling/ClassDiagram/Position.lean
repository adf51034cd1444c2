/-!
# Places in a text

A place is a line and a column, both counted from one; a column counts characters.
`Position.after` gives the place that follows a piece of text, and `lineColumn?` gives the place
of a byte offset, which exists unless the offset cuts a character in two.
-/

namespace ClassDiagram

/-- A line and a column of a text. -/
structure Position where
  line : Nat
  column : Nat
deriving DecidableEq, Repr

namespace Position

/-- The place behind `before`: its line breaks are counted for the line, and the characters behind
its last line break for the column. -/
def after (before : List Char) : Position where
  line := before.count '\n' + 1
  column := (before.reverse.takeWhile (· != '\n')).length + 1

@[simp] theorem after_nil : after [] = ⟨1, 1⟩ := rfl

/-- A line break goes to the first column of the next line. -/
theorem after_concat_newline (before : List Char) :
    after (before ++ ['\n']) = ⟨(after before).line + 1, 1⟩ := by
  simp [after]

/-- Any other character goes one column farther. -/
theorem after_concat_of_ne {c : Char} (other : c ≠ '\n') (before : List Char) :
    after (before ++ [c]) = ⟨(after before).line, (after before).column + 1⟩ := by
  simp [after, other]

def description (place : Position) : String :=
  "line " ++ toString place.line ++ ", column " ++ toString place.column

end Position

/-- The longest beginning of a text that takes `size` bytes, or the whole of a shorter text.  There
is none when the cut would fall inside a character. -/
def takeBytes? : Nat → List Char → Option (List Char)
  | 0, _ => some []
  | _ + 1, [] => some []
  | size + 1, c :: rest =>
    if c.utf8Size ≤ size + 1 then
      (takeBytes? (size + 1 - c.utf8Size) rest).map (c :: ·)
    else
      none

/-- The place of a byte offset; an offset beyond the end stands for the end. -/
def lineColumn? (text : List Char) (offset : Nat) : Option Position :=
  (takeBytes? offset text).map Position.after

def byteCount : List Char → Nat
  | [] => 0
  | c :: rest => c.utf8Size + byteCount rest

@[simp] theorem byteCount_append (left right : List Char) :
    byteCount (left ++ right) = byteCount left + byteCount right := by
  induction left with
  | nil => exact (Nat.zero_add _).symm
  | cons c more ih => rw [List.cons_append, byteCount, byteCount, ih, Nat.add_assoc]

/-- Every character takes a byte. -/
theorem byteCount_eq_zero {text : List Char} : byteCount text = 0 ↔ text = [] := by
  cases text with
  | nil => exact iff_of_true rfl rfl
  | cons c rest =>
    have taken := c.utf8Size_pos
    rw [byteCount]
    exact iff_of_false (by omega) (List.cons_ne_nil c rest)

end ClassDiagram
