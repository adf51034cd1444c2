import ClassDiagram.Declaration.Lexical

/-! # Dotted names

The names that can be written in a declaration: identifiers joined by dots.  No character that the
declaration language or a diagram uses as a mark belongs to such a name.
-/

namespace ClassDiagram.Declaration

/-- An identifier: a character that can begin one and characters that can go on with it. -/
def IsIdentifier : List Char → Prop
  | [] => False
  | first :: rest =>
    Text.isIdentifierStart first = true ∧ ∀ c ∈ rest, Text.isIdentifierPart c = true

instance : DecidablePred IsIdentifier
  | [] => isFalse id
  | first :: rest => decidable_of_iff
      (Text.isIdentifierStart first = true ∧ rest.all Text.isIdentifierPart = true)
      (and_congr_right fun _ => List.all_eq_true)

/-- Identifiers joined by dots. -/
def IsDotted (name : String) : Prop :=
  ∃ parts, parts ≠ [] ∧ (∀ part ∈ parts, IsIdentifier part) ∧ name.toList = ['.'].intercalate parts

/-- The marks of the declaration language other than the dot, and its white space. -/
def punctuation : List Char :=
  [' ', '\t', '\n', '\r', '/', ',', ':', ';', '+', '-', '#', '~', '<', '>', '[', ']', '\x7b',
    '\x7d']

/-- No mark belongs to an identifier. -/
theorem isIdentifierPart_of_mem_punctuation :
    ∀ c ∈ punctuation, Text.isIdentifierPart c = false := by
  have none : punctuation.all (!Text.isIdentifierPart ·) = true := by decide
  intro c mark
  simpa using List.all_eq_true.mp none c mark

/-- No identifier in front of the text goes on with it. -/
def EndsWord (text : List Char) : Prop :=
  ∀ c ∈ text.head?, Text.isIdentifierPart c = false

/-- A mark goes on with no word. -/
theorem endsWord_cons {c : Char} {rest : List Char}
    (mark : Text.isIdentifierPart c = false) : EndsWord (c :: rest) := by
  rintro _ ⟨⟩
  exact mark

/-- Every character of an identifier can go on with one. -/
theorem IsIdentifier.part {word : List Char} (identifier : IsIdentifier word) :
    ∀ c ∈ word, Text.isIdentifierPart c = true := by
  cases word with
  | nil => exact identifier.elim
  | cons first rest =>
      intro c member
      rcases List.mem_cons.mp member with rfl | later
      · exact Text.isIdentifierPart_of_isIdentifierStart identifier.1
      · exact identifier.2 c later

/-- What is joined by dots when a name is read are the words with a dot between any two. -/
theorem dotted_eq_intercalate (parts : List (List Char)) :
    dotted parts = ['.'].intercalate parts := by
  induction parts with
  | nil => rfl
  | cons first more ih =>
      cases more with
      | nil => simp [dotted]
      | cons second others =>
          rw [List.intercalate_cons_cons, ← ih, List.append_assoc]
          rfl

/-- A dotted name consists of dots and of characters of identifiers. -/
theorem isIdentifierPart_of_mem_intercalate {parts : List (List Char)}
    (identifiers : ∀ part ∈ parts, IsIdentifier part) :
    ∀ c ∈ ['.'].intercalate parts, c = '.' ∨ Text.isIdentifierPart c = true := by
  induction parts with
  | nil => exact fun c member => nomatch member
  | cons first more ih =>
      have firstPart := (identifiers first List.mem_cons_self).part
      cases more with
      | nil =>
          rw [List.intercalate_singleton]
          exact fun c member => Or.inr (firstPart c member)
      | cons second rest =>
          intro c member
          rw [List.intercalate_cons_cons, List.append_assoc, List.mem_append, List.mem_append,
            List.mem_singleton] at member
          rcases member with inFirst | rfl | inMore
          · exact Or.inr (firstPart c inFirst)
          · exact Or.inl rfl
          · exact ih (fun part later => identifiers part (List.mem_cons_of_mem _ later)) c inMore

/-- No mark belongs to a dotted name. -/
theorem IsDotted.not_mem_punctuation {name : String} (dotted : IsDotted name) :
    ∀ c ∈ name.toList, c ∉ punctuation := by
  obtain ⟨parts, -, identifiers, spelled⟩ := dotted
  intro c member mark
  rw [spelled] at member
  rcases isIdentifierPart_of_mem_intercalate identifiers c member with rfl | part
  · exact absurd mark (by decide)
  · rw [isIdentifierPart_of_mem_punctuation c mark] at part
    cases part

end ClassDiagram.Declaration
