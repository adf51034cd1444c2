import ClassDiagram.Failure
import ClassDiagram.Document.Value
import ClassDiagram.Text.Shown

/-!
# What can be wrong with a document

A `Cause` says what is wrong, a `Fault` also where, once that is known.  Lines are counted from one;
the column is the number of bytes of the line in front of the place.
-/

namespace ClassDiagram.Document

/-- What is wrong with a document. -/
inductive Cause where
  | endInValue
  | endInList
  | endInObject
  | endInText
  | unknownWord
  | badNumber
  | tooLarge
  | badEscape
  | loneSurrogate
  | cutSurrogates
  | controlCharacter
  | tooDeep
  | trailingComma
  | trailingCharacters
  | noListSeparator
  | noObjectSeparator
  | keyNoText
  | noColon
  | noValue
  /-- A value of another type than the one expected. -/
  | unexpected (found : Value) (expected : String)
  | unknownVariant (found first second : String)
  | duplicateField (key : String)
  | missingField (key : String)
  /-- A list with too few or too many elements. -/
  | badLength (length : Nat) (expected : String)

/-- What a value is called in a message. -/
def Value.description : Value → String
  | null => "null"
  | bool true => "boolean `true`"
  | bool false => "boolean `false`"
  | number n => n.description
  | text content => "string " ++ String.ofList (Text.shown content.toList)
  | list _ => "sequence"
  | object _ => "map"

def Cause.message : Cause → String
  | endInValue => "EOF while parsing a value"
  | endInList => "EOF while parsing a list"
  | endInObject => "EOF while parsing an object"
  | endInText => "EOF while parsing a string"
  | unknownWord => "expected ident"
  | badNumber => "invalid number"
  | tooLarge => "number out of range"
  | badEscape => "invalid escape"
  | loneSurrogate => "lone leading surrogate in hex escape"
  | cutSurrogates => "unexpected end of hex escape"
  | controlCharacter => "control character (\\u0000-\\u001F) found while parsing a string"
  | tooDeep => "recursion limit exceeded"
  | trailingComma => "trailing comma"
  | trailingCharacters => "trailing characters"
  | noListSeparator => "expected `,` or `]`"
  | noObjectSeparator => "expected `,` or `\x7d`"
  | keyNoText => "key must be a string"
  | noColon => "expected `:`"
  | noValue => "expected value"
  | unexpected found expected =>
    "invalid type: " ++ found.description ++ ", expected " ++ expected
  | unknownVariant found first second =>
    "unknown variant `" ++ found ++ "`, expected `" ++ first ++ "` or `" ++ second ++ "`"
  | duplicateField key => "duplicate field `" ++ key ++ "`"
  | missingField key => "missing field `" ++ key ++ "`"
  | badLength length expected =>
    "invalid length " ++ toString length ++ ", expected " ++ expected

/-- A cause and its place.  A value that was read in full but is not wanted has no place of its
own; it gets that of the end of the list or object it was found in. -/
structure Fault where
  cause : Cause
  place : Option Position

/-- The failure for a fault that is at a place.  The place is told twice, by the document and by
whoever asked for it. -/
def Cause.failureAt (cause : Cause) (place : Position) : Failure :=
  .parse (cause.message ++ " at line " ++ toString place.line ++ " column " ++
    toString place.column) place

end ClassDiagram.Document
