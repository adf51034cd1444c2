/-!
# UTF-8

Bytes are read one at a time.  A byte that cannot go on with the character begun so far ends it as
ill-formed and is then looked at afresh, so every longest piece that begins a character without
completing it counts once.  `decode?` refuses ill-formed bytes and `decodeLossy` puts U+FFFD in the
place of each such piece.  No other form of a character than the shortest is accepted, and no
surrogate.
-/

namespace ClassDiagram.Text.Utf8

/-- A character that was begun. -/
structure Begun where
  /-- The bits read so far. -/
  bits : Nat
  /-- How many bytes are missing after the next one. -/
  missing : Nat
  /-- The least and the greatest byte that can come next. -/
  low : Nat
  high : Nat

/-- The beginning of a character that takes several bytes. -/
def lead? (byte : Nat) : Option Begun :=
  if 0xC2 ≤ byte ∧ byte ≤ 0xDF then some ⟨byte - 0xC0, 0, 0x80, 0xBF⟩
  else if byte = 0xE0 then some ⟨0, 1, 0xA0, 0xBF⟩
  else if byte = 0xED then some ⟨0xD, 1, 0x80, 0x9F⟩
  else if 0xE1 ≤ byte ∧ byte ≤ 0xEF then some ⟨byte - 0xE0, 1, 0x80, 0xBF⟩
  else if byte = 0xF0 then some ⟨0, 2, 0x90, 0xBF⟩
  else if byte = 0xF4 then some ⟨4, 2, 0x80, 0x8F⟩
  else if 0xF1 ≤ byte ∧ byte ≤ 0xF3 then some ⟨byte - 0xF0, 2, 0x80, 0xBF⟩
  else none

/-- Reads a byte where a character begins: what is complete, and what was begun. -/
def fresh (byte : Nat) : List (Option Char) × Option Begun :=
  if byte < 0x80 then
    ([some (Char.ofNat byte)], none)
  else
    match lead? byte with
    | some begun => ([], some begun)
    | none => ([none], none)

/-- Reads the next byte. -/
def feed (begun : Option Begun) (byte : Nat) : List (Option Char) × Option Begun :=
  match begun with
  | none => fresh byte
  | some state =>
    if state.low ≤ byte ∧ byte ≤ state.high then
      let bits := state.bits * 64 + (byte - 0x80)
      match state.missing with
      | 0 => ([some (Char.ofNat bits)], none)
      | missing + 1 => ([], some ⟨bits, missing, 0x80, 0xBF⟩)
    else
      let (complete, reached) := fresh byte
      (none :: complete, reached)

/-- The characters of some bytes, with `none` for each ill-formed piece. -/
def piecesFrom : Option Begun → List UInt8 → List (Option Char)
  | none, [] => []
  | some _, [] => [none]
  | begun, byte :: rest =>
    let (complete, reached) := feed begun byte.toNat
    complete ++ piecesFrom reached rest

def decode? (bytes : List UInt8) : Option (List Char) :=
  (piecesFrom none bytes).mapM id

/-- The text of some bytes, with U+FFFD for each ill-formed piece. -/
def decodeLossy (bytes : List UInt8) : List Char :=
  (piecesFrom none bytes).map (·.getD '\uFFFD')

def encode (text : List Char) : List UInt8 :=
  text.flatMap String.utf8EncodeChar

end ClassDiagram.Text.Utf8
