import ClassDiagram.Diagram
import ClassDiagram.Picture.Status
import ClassDiagram.Picture.Style
import ClassDiagram.Picture.Target
import ClassDiagram.Text.Blank

/-!
# The exchange with the drawing service

The text of a diagram is posted as a form; the service answers with the path of an image, which is
then fetched.  Each request is made once, and the first failure ends the exchange.  `render` gives
the requests that are made and the result, for any replies.
-/

namespace ClassDiagram.Picture

/-- A service, known by its address without slashes at the end. -/
structure Service where
  base : String
deriving DecidableEq, Repr

/-- A text without the slashes at its end. -/
def trimEndSlashes (text : List Char) : List Char :=
  (text.reverse.dropWhile (· == '/')).reverse

/-- A text without the slashes at its beginning. -/
def trimStartSlashes (text : List Char) : List Char :=
  text.dropWhile (· == '/')

namespace Service

/-- The service at an address. -/
def ofAddress (address : String) : Service :=
  ⟨String.ofList (trimEndSlashes address.toList)⟩

/-- The service that is used unless another is named. -/
def usual : Service :=
  ofAddress "https://yuml.me"

def diagramUrl (service : Service) (style : Style) : String :=
  service.base ++ "/diagram/" ++ style.word ++ "/class/"

def imageUrl (service : Service) (path : String) : String :=
  service.base ++ "/" ++ String.ofList (trimStartSlashes path.toList)

end Service

/-- How a request asks. -/
inductive Method where
  | post
  | get
deriving DecidableEq, Repr

def Method.word : Method → String
  | post => "POST"
  | get => "GET"

structure Request where
  method : Method
  url : String
  contentType : Option String
  body : String
deriving DecidableEq, Repr

structure Reply where
  status : Nat
  body : List UInt8
deriving DecidableEq, Repr

structure Image where
  path : String
  bytes : List UInt8
deriving DecidableEq, Repr

/-- The requests that were made, and how it ended. -/
structure Exchange where
  requests : List Request
  result : Except Failure Image

/-- The path of an image in the reply of the service.  A reply that does not end like one is a
message. -/
def imagePath (body : List Char) : Except Failure String :=
  let path := Text.trim body
  if ['.', 'p', 'n', 'g'].isSuffixOf path then
    .ok (String.ofList path)
  else
    .error (.service ("Path to image was not received: " ++ String.ofList path))

/-- Why nothing can be sent to a URL, if that is so: it has no scheme, or one that is not spoken. -/
def obstacle? (url : String) : Option Failure :=
  match schemeOf? url.toList with
  | none => some (.other "yUML request failed: builder error")
  | some (scheme, rest) =>
    if scheme = "http".toList ∨ scheme = "https".toList then
      none
    else
      some (.other ("yUML request failed: builder error for url (" ++
        String.ofList (scheme ++ ':' :: rest) ++ ")"))

/-- The request that posts a diagram. -/
def postRequest (service : Service) (style : Style) (diagram : String) : Request where
  method := .post
  url := service.diagramUrl style
  contentType := some "application/x-www-form-urlencoded"
  body := String.ofList (Form.body "dsl_text".toList diagram.toList)

/-- The request that fetches an image. -/
def fetchRequest (service : Service) (path : String) : Request where
  method := .get
  url := service.imageUrl path
  contentType := none
  body := ""

/-- The path that a reply to a posted diagram holds. -/
def pathOf (reply : Reply) : Except Failure String :=
  let body := Text.Utf8.decodeLossy reply.body
  if isSuccess reply.status then
    imagePath body
  else
    .error (.other ("yUML error (" ++ statusLine reply.status ++ "): " ++ String.ofList body))

/-- The image that a reply to a request for it holds. -/
def imageOf (path : String) (reply : Reply) : Except Failure Image :=
  if isSuccess reply.status then
    .ok ⟨path, reply.body⟩
  else
    .error (.other ("Image download failed (" ++ statusLine reply.status ++ ")"))

/-- The exchange for the text of a diagram, with what the server replies to the first request and
what it replies to the second. -/
def render (service : Service) (style : Style) (diagram : String) (posted fetched : Reply) :
    Exchange :=
  match obstacle? (service.diagramUrl style) with
  | some failure => ⟨[], .error failure⟩
  | none =>
    let post := postRequest service style diagram
    match pathOf posted with
    | .error failure => ⟨[post], .error failure⟩
    | .ok path => ⟨[post, fetchRequest service path], imageOf path fetched⟩

/-- The exchange for a list of types.  Their diagram is finished before anything is sent. -/
def renderTypes (service : Service) (config : Config) (style : Style) (types : List Descriptor)
    (posted fetched : Reply) : Exchange :=
  match generate config types with
  | .error failure => ⟨[], .error failure⟩
  | .ok diagram => render service style diagram posted fetched

end ClassDiagram.Picture
