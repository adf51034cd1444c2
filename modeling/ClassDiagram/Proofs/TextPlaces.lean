import ClassDiagram.Position
import Mathlib.Data.List.Infix
import Mathlib.Order.Basic

/-! # The places of byte offsets

A byte offset has a place unless it cuts a character in two (`ClassDiagram.takeBytes?_eq_none_iff`),
and the place is that of the text in front of it.  Every character moves the place on, a line break
to the next line and any other character to the next column (`ClassDiagram.Position.past`), so no
two offsets between characters share a place (`ClassDiagram.codesPlaces_text`).
-/

namespace ClassDiagram

namespace Position

/-- The place behind one more character: a line break goes to the first column of the next line,
any other character one column farther. -/
def past (place : Position) (c : Char) : Position :=
  if c = '\n' then ⟨place.line + 1, 1⟩ else ⟨place.line, place.column + 1⟩

/-- An earlier line, or an earlier column of the same line. -/
def Precedes (place other : Position) : Prop :=
  place.line < other.line ∨ place.line = other.line ∧ place.column < other.column

/-- A place before one that precedes a third precedes it as well. -/
theorem Precedes.trans {first second third : Position} (left : first.Precedes second)
    (right : second.Precedes third) : first.Precedes third := by
  unfold Precedes at *
  omega

theorem not_precedes_self (place : Position) : ¬ place.Precedes place := by
  unfold Precedes
  omega

/-- A character moves a place on. -/
theorem precedes_past (place : Position) (c : Char) : place.Precedes (place.past c) := by
  unfold Precedes past
  split
  · exact Or.inl (Nat.lt_succ_self _)
  · exact Or.inr ⟨rfl, Nat.lt_succ_self _⟩

/-- Both scans of a text agree on what a character does to the place. -/
theorem after_concat (before : List Char) (c : Char) :
    after (before ++ [c]) = (after before).past c := by
  unfold past
  split
  · rename_i lineBreak
    rw [lineBreak, after_concat_newline]
  · rename_i other
    exact after_concat_of_ne other before

/-- A longer text leads farther. -/
theorem precedes_after_append (before : List Char) {more : List Char} (some : more ≠ []) :
    (after before).Precedes (after (before ++ more)) := by
  induction more using List.reverseRecOn with
  | nil => exact (some rfl).elim
  | append_singleton front c ih =>
      rw [← List.append_assoc, after_concat]
      by_cases empty : front = []
      · rw [empty, List.append_nil]
        exact precedes_past _ c
      · exact (ih empty).trans (precedes_past _ c)

end Position

section Offsets

variable {text before : List Char} {offset : Nat} {place : Position}

/-- The beginning that is cut off ends where the offset is, or with the text. -/
theorem takeBytes?_eq_some_iff : takeBytes? offset text = some before ↔
    before <+: text ∧ byteCount before = min offset (byteCount text) := by
  fun_induction takeBytes? offset text generalizing before with
  | case1 text =>
      rw [Option.some.injEq, Nat.zero_min, byteCount_eq_zero, eq_comm]
      exact ⟨fun empty => ⟨empty ▸ List.nil_prefix, empty⟩, And.right⟩
  | case2 size =>
      rw [Option.some.injEq, List.prefix_nil, eq_comm]
      refine ⟨fun empty => ⟨empty, ?_⟩, And.left⟩
      rw [empty]
      exact (Nat.min_zero _).symm
  | case3 size c rest fits ih =>
      rw [Option.map_eq_some_iff]
      constructor
      · rintro ⟨front, cut, rfl⟩
        obtain ⟨begins, bytes⟩ := ih.mp cut
        refine ⟨List.prefix_cons_iff.mpr (Or.inr ⟨front, rfl, begins⟩), ?_⟩
        rw [byteCount, byteCount, bytes]
        omega
      · rintro ⟨begins, bytes⟩
        rcases List.prefix_cons_iff.mp begins with rfl | ⟨front, rfl, inner⟩
        · have taken := c.utf8Size_pos
          rw [byteCount, byteCount] at bytes
          omega
        · rw [byteCount, byteCount] at bytes
          exact ⟨front, ih.mpr ⟨inner, by omega⟩, rfl⟩
  | case4 size c rest wide =>
      refine iff_of_false (Option.some_ne_none _).symm ?_
      rintro ⟨begins, bytes⟩
      rw [byteCount] at bytes
      rcases List.prefix_cons_iff.mp begins with rfl | ⟨front, rfl, -⟩ <;>
        rw [byteCount] at bytes <;> omega

/-- A beginning of a text is cut off where its bytes end. -/
theorem takeBytes?_append (before behind : List Char) :
    takeBytes? (byteCount before) (before ++ behind) = some before := by
  refine takeBytes?_eq_some_iff.mpr ⟨List.prefix_append _ _, ?_⟩
  rw [byteCount_append]
  omega

/-- When an offset falls inside the bytes of a character. -/
def Cuts (text : List Char) (offset : Nat) : Prop :=
  ∃ before c behind, text = before ++ c :: behind ∧
    byteCount before < offset ∧ offset < byteCount before + c.utf8Size

/-- Nothing is cut off exactly where a character would be cut in two. -/
theorem takeBytes?_eq_none_iff : takeBytes? offset text = none ↔ Cuts text offset := by
  fun_induction takeBytes? offset text with
  | case1 text =>
      refine iff_of_false (Option.some_ne_none _) ?_
      rintro ⟨before, c, behind, -, positive, -⟩
      exact Nat.not_lt_zero _ positive
  | case2 size =>
      refine iff_of_false (Option.some_ne_none _) ?_
      rintro ⟨before, c, behind, spelled, -⟩
      cases before <;> cases spelled
  | case3 size c rest fits ih =>
      rw [Option.map_eq_none_iff, ih]
      constructor
      · rintro ⟨before, inside, behind, rfl, above, below⟩
        refine ⟨c :: before, inside, behind, rfl, ?_, ?_⟩ <;> rw [byteCount] <;> omega
      · rintro ⟨before, inside, behind, spelled, above, below⟩
        cases before with
        | nil =>
            cases spelled
            rw [byteCount] at below
            omega
        | cons first before =>
            cases spelled
            rw [byteCount] at above below
            exact ⟨before, inside, behind, rfl, by omega, by omega⟩
  | case4 size c rest wide =>
      refine iff_of_true rfl ⟨[], c, rest, rfl, Nat.succ_pos size, ?_⟩
      rw [byteCount]
      omega

/-- An offset beyond the end of a text cuts nothing. -/
theorem cuts_min : Cuts text (min offset (byteCount text)) ↔ Cuts text offset := by
  refine exists_congr fun before => exists_congr fun c => exists_congr fun behind =>
    and_congr_right ?_
  rintro rfl
  rw [byteCount_append, byteCount]
  have taken := c.utf8Size_pos
  omega

/-- An offset has the place of the beginning that ends there, or of the whole text if it is beyond.
-/
theorem lineColumn?_eq_some_iff : lineColumn? text offset = some place ↔
    ∃ before, before <+: text ∧ byteCount before = min offset (byteCount text) ∧
      Position.after before = place := by
  rw [lineColumn?, Option.map_eq_some_iff]
  simp only [takeBytes?_eq_some_iff, and_assoc]

/-- An offset has no place exactly if it cuts a character in two. -/
theorem lineColumn?_eq_none_iff : lineColumn? text offset = none ↔ Cuts text offset := by
  rw [lineColumn?, Option.map_eq_none_iff, takeBytes?_eq_none_iff]

/-- Of two beginnings of a text the one with fewer bytes is the shorter one, so its place comes
first. -/
theorem precedes_of_byteCount_lt {other : List Char} (begins : before <+: text)
    (otherBegins : other <+: text) (fewer : byteCount before < byteCount other) :
    (Position.after before).Precedes (Position.after other) := by
  rcases List.prefix_or_prefix_of_prefix begins otherBegins with ⟨more, rfl⟩ | ⟨more, rfl⟩
  · refine Position.precedes_after_append before ?_
    rintro rfl
    rw [List.append_nil] at fewer
    exact Nat.lt_irrefl _ fewer
  · rw [byteCount_append] at fewer
    omega

/-- Up to the end of a text later offsets have later places. -/
theorem precedes_of_lt {left right : Nat} {other : Position} (less : left < right)
    (within : right ≤ byteCount text) (leftPlace : lineColumn? text left = some place)
    (rightPlace : lineColumn? text right = some other) : place.Precedes other := by
  obtain ⟨before, begins, bytes, rfl⟩ := lineColumn?_eq_some_iff.mp leftPlace
  obtain ⟨longer, longerBegins, longerBytes, rfl⟩ := lineColumn?_eq_some_iff.mp rightPlace
  exact precedes_of_byteCount_lt begins longerBegins (by omega)

end Offsets

/-- The bytes that are counted are those of the text as it is stored. -/
theorem byteCount_toList (text : String) : byteCount text.toList = text.utf8ByteSize := by
  have ofList (letters : List Char) : byteCount letters = (String.ofList letters).utf8ByteSize := by
    induction letters with
    | nil => rfl
    | cons c rest ih =>
        have split : String.ofList (c :: rest) = String.singleton c ++ String.ofList rest := by
          rw [String.singleton_eq_ofList, ← String.ofList_append]
          rfl
        rw [byteCount, ih, split, String.utf8ByteSize_append, String.utf8ByteSize_singleton]
  rw [ofList, String.ofList_toList]

/-- The offsets between the characters of a text are those of its beginnings. -/
theorem isValid_iff_exists_beginning {text : String} {offset : Nat} :
    String.Pos.Raw.IsValid text ⟨offset⟩ ↔
      ∃ before, before <+: text.toList ∧ byteCount before = offset := by
  rw [String.Pos.Raw.isValid_iff_exists_append]
  constructor
  · rintro ⟨front, back, rfl, ends⟩
    refine ⟨front.toList, ?_, ?_⟩
    · rw [String.toList_append]
      exact List.prefix_append _ _
    · rw [byteCount_toList]
      exact (congrArg String.Pos.Raw.byteIdx ends).symm
  · rintro ⟨before, ⟨behind, spelled⟩, rfl⟩
    refine ⟨String.ofList before, String.ofList behind, ?_, ?_⟩
    · rw [← String.ofList_append, spelled, String.ofList_toList]
    · rw [String.rawEndPos, ← byteCount_toList, String.toList_ofList]

/-- What the places of the byte offsets of a text tell. -/
structure CodesPlaces (text : String) : Prop where
  /-- An offset has no place exactly if it, or the end for one beyond it, is inside a character. -/
  none_iff : ∀ offset, lineColumn? text.toList offset = none ↔
    Cuts text.toList (min offset text.utf8ByteSize)
  isSome_iff : ∀ offset, (lineColumn? text.toList offset).isSome = true ↔
    String.Pos.Raw.IsValid text ⟨min offset text.utf8ByteSize⟩
  start : lineColumn? text.toList 0 = some ⟨1, 1⟩
  step : ∀ before c behind, text.toList = before ++ c :: behind → ∃ place,
    lineColumn? text.toList (byteCount before) = some place ∧
      lineColumn? text.toList (byteCount before + c.utf8Size) = some (place.past c)
  increasing : ∀ left right place other, left < right → right ≤ text.utf8ByteSize →
    lineColumn? text.toList left = some place → lineColumn? text.toList right = some other →
      place.Precedes other
  injective : ∀ left right place, left ≤ text.utf8ByteSize → right ≤ text.utf8ByteSize →
    lineColumn? text.toList left = some place → lineColumn? text.toList right = some place →
      left = right
  beyond : ∀ offset, text.utf8ByteSize ≤ offset →
    lineColumn? text.toList offset = some (Position.after text.toList)

/-- **A place is a code of its offset.** An offset of a text has a place exactly if it stands
between two characters or at an end.  The first place is the first column of the first line, every
character moves the place on, and later offsets have later places up to that of the end, which all
offsets beyond the end share. -/
theorem codesPlaces_text (text : String) : CodesPlaces text := by
  have size : byteCount text.toList = text.utf8ByteSize := byteCount_toList text
  constructor
  case none_iff =>
    intro offset
    rw [← size, cuts_min, lineColumn?_eq_none_iff]
  case isSome_iff =>
    intro offset
    rw [isValid_iff_exists_beginning, ← size, Option.isSome_iff_exists]
    simp only [lineColumn?_eq_some_iff]
    constructor
    · rintro ⟨place, before, begins, bytes, -⟩
      exact ⟨before, begins, bytes⟩
    · rintro ⟨before, begins, bytes⟩
      exact ⟨_, before, begins, bytes, rfl⟩
  case start => exact lineColumn?_eq_some_iff.mpr ⟨[], List.nil_prefix, (Nat.zero_min _).symm, rfl⟩
  case step =>
    intro before c behind spelled
    have longer : text.toList = (before ++ [c]) ++ behind := by
      rw [spelled, List.append_assoc, List.singleton_append]
    have bytes : byteCount (before ++ [c]) = byteCount before + c.utf8Size := by
      rw [byteCount_append, byteCount, byteCount, Nat.add_zero]
    refine ⟨Position.after before, ?_, ?_⟩
    · rw [lineColumn?, spelled, takeBytes?_append, Option.map_some]
    · rw [← bytes, lineColumn?, longer, takeBytes?_append, Option.map_some, Position.after_concat]
  case increasing =>
    intro left right place other less within
    exact precedes_of_lt less (size ▸ within)
  case injective =>
    intro left right place leftWithin rightWithin leftPlace rightPlace
    rcases Nat.lt_trichotomy left right with less | same | more
    · exact (place.not_precedes_self
        (precedes_of_lt less (size ▸ rightWithin) leftPlace rightPlace)).elim
    · exact same
    · exact (place.not_precedes_self
        (precedes_of_lt more (size ▸ leftWithin) rightPlace leftPlace)).elim
  case beyond =>
    intro offset outside
    refine lineColumn?_eq_some_iff.mpr ⟨text.toList, List.prefix_rfl, ?_, rfl⟩
    omega

/-- A carriage return is a character like any other, and the euro sign takes three bytes. -/
example : (List.range 8).map (lineColumn? ['a', '\r', '\n', '€', 'b']) =
    [some ⟨1, 1⟩, some ⟨1, 2⟩, some ⟨1, 3⟩, some ⟨2, 1⟩, none, none, some ⟨2, 2⟩, some ⟨2, 3⟩] := by
  decide

end ClassDiagram
