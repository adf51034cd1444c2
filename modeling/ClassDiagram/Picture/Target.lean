import ClassDiagram.Picture.Form

/-!
# What is asked of a server

A URL is taken apart as its standard says: controls and spaces around it, and tabs and line breaks
in it, are dropped, a backslash counts as a slash, the fragment is not sent, segments that stand for
the same or the next higher level are resolved, and characters that cannot be sent are written as
percent signs and digits.  `targetOf` is the path and the query that are sent.
-/

namespace ClassDiagram.Picture

/-- The beginning of a text up to the first character of some kind, and the rest. -/
def cutAt (stops : Char → Bool) (text : List Char) : List Char × List Char :=
  (text.takeWhile (!stops ·), text.dropWhile (!stops ·))

/-- A URL without the controls and spaces around it and the tabs and line breaks in it. -/
def cleaned (url : List Char) : List Char :=
  let isOuter (c : Char) : Bool := c.toNat ≤ 0x20
  let inner := ((url.dropWhile isOuter).reverse.dropWhile isOuter).reverse
  inner.filter fun c => c != '\t' && c != '\n' && c != '\r'

/-- Whether a character can be part of the name of a scheme. -/
def isSchemeChar (c : Char) : Bool :=
  c.isAlphanum || c == '+' || c == '-' || c == '.'

/-- The scheme of a URL in lower case and what follows its colon. -/
def schemeOf? (url : List Char) : Option (List Char × List Char) :=
  match cleaned url with
  | [] => none
  | first :: more =>
    match cutAt (!isSchemeChar ·) (first :: more) with
    | (scheme, ':' :: rest) =>
      if first.isAlpha then some (scheme.map Char.toLower, rest) else none
    | _ => none

/-- Whether a character of a path is written by its bytes. -/
def isPathEscaped (c : Char) : Bool :=
  c.toNat ≤ 0x20 || 0x7F ≤ c.toNat || ['"', '#', '<', '>', '?', '`', '\x7b', '\x7d'].contains c

/-- Whether a character of a query is written by its bytes. -/
def isQueryEscaped (c : Char) : Bool :=
  c.toNat ≤ 0x20 || 0x7F ≤ c.toNat || ['"', '#', '<', '>', '\''].contains c

/-- A text in which some characters are written by their bytes. -/
def percentEncode (escaped : Char → Bool) (text : List Char) : List Char :=
  text.flatMap fun c => if escaped c then (String.utf8EncodeChar c).flatMap percentByte else [c]

/-- A segment in which the code of a dot is written as a dot. -/
def plainDots : List Char → List Char
  | '%' :: '2' :: 'e' :: rest => '.' :: plainDots rest
  | '%' :: '2' :: 'E' :: rest => '.' :: plainDots rest
  | c :: rest => c :: plainDots rest
  | [] => []

/-- The parts of a text between slashes. -/
def segmentsOf : List Char → List (List Char)
  | [] => [[]]
  | c :: rest =>
    if c = '/' || c = '\\' then
      [] :: segmentsOf rest
    else
      match segmentsOf rest with
      | [] => [[c]]
      | segment :: more => (c :: segment) :: more

/-- Resolves the segments behind those taken so far, which are in reverse order.  One dot stays on
the level and two go one level up; at the end both leave a slash. -/
def resolve (taken : List (List Char)) : List (List Char) → List (List Char)
  | [] => taken.reverse
  | segment :: more =>
    let dots := plainDots segment
    let reached :=
      if dots = ['.', '.'] then taken.drop 1
      else if dots = ['.'] then taken
      else segment :: taken
    if more.isEmpty && (dots = ['.', '.'] || dots = ['.']) then
      ([] :: reached).reverse
    else
      resolve reached more

/-- The path that is sent for what stands between the host and the query of a URL. -/
def sentPath (path : List Char) : List Char :=
  let below := match path with
    | '/' :: rest => rest
    | '\\' :: rest => rest
    | other => other
  (resolve [] (segmentsOf below)).flatMap fun segment =>
    '/' :: percentEncode isPathEscaped segment

/-- The path and query that are sent for a URL with a scheme and a host. -/
def targetOf (url : String) : String :=
  let afterScheme := match schemeOf? url.toList with
    | some (_, rest) => rest
    | none => cleaned url.toList
  let afterSlashes := afterScheme.dropWhile fun c => c == '/' || c == '\\'
  let fromPath := (cutAt (['/', '\\', '?', '#'].contains ·) afterSlashes).2
  let (path, behind) := cutAt (['?', '#'].contains ·) fromPath
  let query := match behind with
    | '?' :: rest => '?' :: percentEncode isQueryEscaped (cutAt (· == '#') rest).1
    | _ => []
  String.ofList (sentPath path ++ query)

end ClassDiagram.Picture
