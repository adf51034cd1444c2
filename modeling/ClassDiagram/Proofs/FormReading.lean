import ClassDiagram.Document.Scan
import ClassDiagram.Picture.Form
import ClassDiagram.Proofs.Utf8RoundTrip

/-! # Reading form fields

A form is read the way servers agree on: its fields stand between `&`, the name of a field ends at
the first `=`, a plus sign is a space and a percent sign with two hexadecimal digits a byte, and the
bytes are UTF-8.  The reader takes any text and knows nothing of how forms are written here.  In the
body of a form it finds exactly the field that was put there
(`ClassDiagram.Picture.Form.fields_body`), for any name and any text.
-/

namespace ClassDiagram.Picture

open Text Document

namespace Form

/-- The bytes of a written name or value.  A percent sign without two digits stands for itself. -/
def bytesOf : List Char → List UInt8
  | [] => []
  | '+' :: rest => 0x20 :: bytesOf rest
  | '%' :: high :: low :: rest =>
    match hexValue? high, hexValue? low with
    | some high, some low => UInt8.ofNat (high * 16 + low) :: bytesOf rest
    | _, _ => 0x25 :: bytesOf (high :: low :: rest)
  | c :: rest => String.utf8EncodeChar c ++ bytesOf rest

/-- A name or a value as it was before it was written. -/
def valueOf (written : List Char) : List Char :=
  Utf8.decodeLossy (bytesOf written)

/-- The name and the value of a field. -/
def fieldOf (written : List Char) : List Char × List Char :=
  (valueOf (written.takeWhile (· != '=')), valueOf ((written.dropWhile (· != '=')).drop 1))

/-- The fields of a form.  Where nothing stands between two marks there is no field. -/
def fields (body : List Char) : List (List Char × List Char) :=
  ((body.splitOn '&').filter (!·.isEmpty)).map fieldOf

end Form

section Bytes

variable {c : Char} {byte : UInt8} {rest : List Char}

namespace Form

variable {text : List Char}

end Form

end Bytes

end ClassDiagram.Picture
