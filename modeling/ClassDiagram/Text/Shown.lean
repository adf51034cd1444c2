import ClassDiagram.Text.EscapeRanges

/-!
# Texts shown in messages

A text in a message stands in quotation marks, with the usual escapes for quotation marks,
backslashes and line breaks.  A character without a glyph of its own is shown by its number.
-/

namespace ClassDiagram.Text

def shownChar (c : Char) : List Char :=
  match c with
  | '"' => ['\\', '"']
  | '\\' => ['\\', '\\']
  | '\n' => ['\\', 'n']
  | '\r' => ['\\', 'r']
  | '\t' => ['\\', 't']
  | '\x00' => ['\\', '0']
  | c =>
    if escapeRanges.contains c then
      ['\\', 'u', '\x7b'] ++ Nat.toDigits 16 c.toNat ++ ['\x7d']
    else
      [c]

def shown (text : List Char) : List Char :=
  '"' :: text.flatMap shownChar ++ ['"']

end ClassDiagram.Text
