/-!
# Options chosen by a word

Several settings are chosen by one of a few words, written in any mixture of upper and lower case.
Nothing is trimmed.  The words hold letters of ASCII only and no `k`, and apart from the Kelvin
sign, which becomes `k`, no other letter has a lower-case form within ASCII; so lowering the ASCII
letters decides every comparison.
-/

namespace ClassDiagram

/-- A word that is not among those of a setting. -/
structure UnknownWord where
  /-- What was to be chosen. -/
  setting : String
  /-- The word as it was given. -/
  word : String
deriving DecidableEq, Repr

def UnknownWord.message (unknown : UnknownWord) : String :=
  "Unknown " ++ unknown.setting ++ ": " ++ unknown.word

def lowered (text : String) : String :=
  text.map Char.toLower

/-- The value that a word stands for, in any case of its letters. -/
def choose {α : Type} (setting : String) (words : List (String × α)) (word : String) :
    Except UnknownWord α :=
  match words.lookup (lowered word) with
  | some value => .ok value
  | none => .error ⟨setting, word⟩

end ClassDiagram
