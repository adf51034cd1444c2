import ClassDiagram.Document.Written
import ClassDiagram.Proofs.DocumentReading
import Mathlib.Tactic.Choose

/-! # Reading written texts

What is written of a text is read back character by character
(`ClassDiagram.Document.reads_textBody`), and can be skipped as well
(`ClassDiagram.Document.reads_skipTextBody`).
-/

namespace ClassDiagram.Document

open Reader

section Text

variable {control : Reader Char} {taken rest : List Char}

/-- Each digit is read as the number that it was written for. -/
theorem hexValue?_digitChar {n : Nat} (small : n < 16) : hexValue? (Nat.digitChar n) = some n := by
  have all : ∀ n < 16, hexValue? (Nat.digitChar n) = some n := by decide
  exact all n small

/-- The digits of an escape are single bytes. -/
theorem utf8Size_digitChar {n : Nat} (small : n < 16) : (Nat.digitChar n).utf8Size = 1 := by
  have all : ∀ n < 16, (Nat.digitChar n).utf8Size = 1 := by decide
  exact all n small

/-- Four digits are read as the number that they were written for. -/
theorem reads_hexEscape {n : Nat} (small : n < 0x20) :
    Reads hexEscape n
      ('0' :: '0' :: Nat.digitChar (n / 16) :: Nat.digitChar (n % 16) :: rest) rest := by
  have high : n / 16 < 16 := by omega
  have low : n % 16 < 16 := by omega
  have number : 16 * (n / 16) + n % 16 = n := by omega
  generalize n / 16 = left, n % 16 = right at high low number
  have zeroValue : hexValue? '0' = some 0 := by decide
  have zeroSize : ('0' : Char).utf8Size = 1 := by decide
  have values : ['0', '0', Nat.digitChar left, Nat.digitChar right].mapM hexValue? =
      some [0, 0, left, right] := by
    simp [zeroValue, hexValue?_digitChar high, hexValue?_digitChar low]
  have bytes : byteCount ['0', '0', Nat.digitChar left, Nat.digitChar right] = 4 := by
    simp [byteCount, zeroSize, utf8Size_digitChar high, utf8Size_digitChar low]
  intro line column
  obtain ⟨line, column, first⟩ :=
    exists_advance '0' ('0' :: Nat.digitChar left :: Nat.digitChar right :: rest) line column
  obtain ⟨line, column, second⟩ :=
    exists_advance '0' (Nat.digitChar left :: Nat.digitChar right :: rest) line column
  obtain ⟨line, column, third⟩ :=
    exists_advance (Nat.digitChar left) (Nat.digitChar right :: rest) line column
  obtain ⟨line, column, fourth⟩ := exists_advance (Nat.digitChar right) rest line column
  refine ⟨line, column, ?_⟩
  simp [hexEscape, bytes, values, first, second, third, fourth, number]

/-- A character is written as itself, as a letter behind a backslash, or by its number. -/
theorem writtenChar_cases (c : Char) :
    (c ≠ '"' ∧ c ≠ '\\' ∧ ¬ c.toNat < 0x20 ∧ writtenChar c = [c]) ∨
      (∃ letter, escaped? letter = some c ∧ writtenChar c = ['\\', letter]) ∨
      (c.toNat < 0x20 ∧ writtenChar c = ['\\', 'u', '0', '0', Nat.digitChar (c.toNat / 16),
        Nat.digitChar (c.toNat % 16)]) := by
  unfold writtenChar
  split
  case h_8 c noQuote noSlash _ _ _ _ _ =>
    split
    case isTrue small => exact .inr (.inr ⟨small, rfl⟩)
    case isFalse printed => exact .inl ⟨noQuote, noSlash, printed, rfl⟩
  all_goals exact .inr (.inl ⟨_, rfl, rfl⟩)

/-- Something is written for every character. -/
theorem length_writtenChar_pos (c : Char) : 0 < (writtenChar c).length := by
  obtain ⟨-, -, -, written⟩ | ⟨letter, -, written⟩ | ⟨-, written⟩ := writtenChar_cases c <;>
    rw [written] <;> exact Nat.succ_pos _

section Steps

variable {numeric : Reader Char}

theorem reads_textStep_plain {c : Char} (noQuote : c ≠ '"') (noSlash : c ≠ '\\')
    (printed : ¬ c.toNat < 0x20) :
    Reads (textStep numeric control taken) (some (c :: taken)) (c :: rest) rest := by
  refine reads_peek.bind ?_
  simp only [List.head?_cons, printed, ↓reduceIte]
  exact reads_advance.bind Reads.pure

/-- A letter behind a backslash is read as the character that it stands for. -/
theorem reads_textStep_escaped {letter c : Char} (stands : escaped? letter = some c) :
    Reads (textStep numeric control taken) (some (c :: taken)) ('\\' :: letter :: rest) rest := by
  refine reads_peek.bind (reads_advance.bind (Reads.bind ?_ Reads.pure))
  refine reads_peek.bind ?_
  simp only [List.head?_cons, stands]
  exact reads_advance.bind Reads.pure

/-- What is read behind a backslash and a `u` is left to the reader of numbers. -/
theorem reads_textStep_unit {c : Char} {unit : List Char} (read : Reads numeric c unit rest) :
    Reads (textStep numeric control taken) (some (c :: taken)) ('\\' :: 'u' :: unit) rest := by
  refine reads_peek.bind (reads_advance.bind (Reads.bind ?_ Reads.pure))
  exact reads_peek.bind (reads_advance.bind read)

/-- The characters of a written text are read one after the other, if each of them is. -/
theorem runs_textStep {shown : Char → Char} (reads : ∀ c taken rest, Reads
      (textStep numeric control taken) (some (shown c :: taken)) (writtenChar c ++ rest) rest)
    (text taken : List Char) :
    Runs (textStep numeric control) taken (text.flatMap writtenChar ++ '"' :: rest)
      ((text.map shown).reverse ++ taken) ('"' :: rest) := by
  induction text generalizing taken with
  | nil => exact .ends (reads_peek.bind Reads.pure)
  | cons c text ih =>
      rw [List.flatMap_cons, List.append_assoc, List.map_cons, List.reverse_cons,
        List.append_assoc]
      refine .more (reads c taken _) ?_ (ih (shown c :: taken))
      have nonempty := length_writtenChar_pos c
      have longer : (writtenChar c ++ (text.flatMap writtenChar ++ '"' :: rest)).length =
          (writtenChar c).length + (text.flatMap writtenChar ++ '"' :: rest).length :=
        List.length_append
      omega

end Steps

/-- The number of a control character is read as that character. -/
theorem reads_unitEscape {n : Nat} (small : n < 0x20) (rest : List Char) :
    Reads unitEscape (Char.ofNat n)
      ('0' :: '0' :: Nat.digitChar (n / 16) :: Nat.digitChar (n % 16) :: rest) rest := by
  refine (reads_hexEscape small).bind ?_
  have noTrailing : isTrailing n = false := by simp [isTrailing]; omega
  have noLeading : isLeading n = false := by simp [isLeading]; omega
  rw [noTrailing, noLeading]
  exact Reads.pure

/-- A written character is read as that character. -/
theorem reads_textStep (control : Reader Char) (c : Char) (taken rest : List Char) :
    Reads (textStep unitEscape control taken) (some (c :: taken)) (writtenChar c ++ rest) rest := by
  obtain ⟨noQuote, noSlash, printed, written⟩ | ⟨letter, stands, written⟩ | ⟨small, written⟩ :=
    writtenChar_cases c <;> rw [written]
  · exact reads_textStep_plain noQuote noSlash printed
  · exact reads_textStep_escaped stands
  · have read := reads_unitEscape small rest
    rw [Char.ofNat_toNat] at read
    exact reads_textStep_unit read

/-- A written character can be skipped; what its number is taken for does not matter. -/
theorem exists_reads_textStep_skipping (control : Reader Char) (c : Char) :
    ∃ instead, ∀ taken rest,
    Reads (textStep (hexEscape >>= fun _ => pure ' ') control taken) (some (instead :: taken))
      (writtenChar c ++ rest) rest := by
  obtain ⟨noQuote, noSlash, printed, written⟩ | ⟨letter, stands, written⟩ | ⟨small, written⟩ :=
    writtenChar_cases c <;> rw [written]
  · exact ⟨c, fun _ _ => reads_textStep_plain noQuote noSlash printed⟩
  · exact ⟨c, fun _ _ => reads_textStep_escaped stands⟩
  · exact ⟨' ', fun _ _ => reads_textStep_unit ((reads_hexEscape small).bind Reads.pure)⟩

/-- A text is read behind its first quotation mark. -/
theorem reads_textBody (text rest : List Char) :
    Reads textBody (String.ofList text) (text.flatMap writtenChar ++ '"' :: rest) rest := by
  have whole : text = ((text.map id).reverse ++ []).reverse := by simp
  conv => arg 2; rw [whole]
  exact (runs_textStep (reads_textStep _) text []).reads.bind (reads_advance.bind Reads.pure)

/-- A text is skipped behind its first quotation mark. -/
theorem reads_skipTextBody (text rest : List Char) :
    Reads skipTextBody () (text.flatMap writtenChar ++ '"' :: rest) rest := by
  choose shown reads using exists_reads_textStep_skipping (fail .controlCharacter)
  exact (runs_textStep reads text []).reads.bind reads_advance

/-- A text is read from its first quotation mark on. -/
theorem reads_writtenText (content : String) (rest : List Char) :
    Reads (advance >>= fun _ => textBody) content (writtenText content.toList ++ rest) rest := by
  have parts : writtenText content.toList ++ rest =
      '"' :: (content.toList.flatMap writtenChar ++ '"' :: rest) := by
    simp [writtenText]
  have read := reads_textBody content.toList rest
  rw [String.ofList_toList] at read
  rw [parts]
  exact reads_advance.bind read

end Text

end ClassDiagram.Document
