import JobDispatch.Http.Target
import JobDispatch.Json.Record

/-!
# Requests and responses

A request has a method, a target, headers and a body; the values of headers and the body are any
bytes. A response has a status, may name the methods that its target allows, and may have a body of
a content type. A body counts as JSON when its type is `application/json` or ends in `+json`,
whatever the parameters.
-/

namespace JobDispatch.Http

/-- A text stands for its bytes. -/
instance textBytes : Coe String ByteArray := ⟨String.toUTF8⟩

/-- Texts as the values of headers stand for their bytes. -/
instance headerBytes : Coe (List (String × String)) (List (String × ByteArray)) :=
  ⟨fun headers => headers.map fun (name, value) => (name, value.toUTF8)⟩

/-- A request. -/
structure Request where
  /-- The method, as it is written. -/
  method : String
  /-- The target. -/
  target : Target
  /-- The headers in their order. -/
  headers : List (String × ByteArray)
  /-- The body. -/
  body : ByteArray

/-- A response. -/
structure Response where
  /-- The status. -/
  status : Nat
  /-- The methods that the target allows. -/
  allow : Option String
  /-- The type of the body, if there is a type. -/
  contentType : Option String
  /-- The body. -/
  body : String
deriving DecidableEq, Repr

namespace Response

/-- A response without a body. -/
def bare (status : Nat) : Response := ⟨status, none, none, ""⟩

/-- A response with a JSON body. -/
def json (status : Nat) (body : Json) : Response :=
  ⟨status, none, some "application/json", body.compact⟩

/-- A response with a text. -/
def text (status : Nat) (body : String) : Response :=
  ⟨status, none, some "text/plain; charset=utf-8", body⟩

/-- The response for a method that the target does not allow. -/
def methodNotAllowed (allowed : String) : Response := ⟨405, some allowed, none, ""⟩

/-- The status says success. -/
def isSuccess (response : Response) : Bool := 200 ≤ response.status && response.status < 300

end Response

/-- Characters of tokens in headers. -/
def isTokenChar (char : Char) : Bool :=
  char.isAlphanum || "!#$%&'*+-.^_`|~".toList.contains char

/-- Reads the value of a parameter in quotes, after its opening quote. It has a first character,
which may be a quote. -/
def afterQuoted? (chars : List Char) : Option (List Char) :=
  let value := chars.take 1 ++ (chars.drop 1).takeWhile (· ≠ '"')
  if value.isEmpty ∨ value.any (fun char => char.toNat < 0x20 ∨ char.toNat = 0x7F) then none
  else
    match chars.drop value.length with
    | _ :: rest =>
      match rest.dropWhile (· = ' ') with
      | [] => some []
      | ';' :: more => some more
      | _ => none
    | [] => none

/-- The parameters of a media type are well formed: names with values, each a token or quoted,
between semicolons. The fuel is the length. -/
def areParameters : Nat → List Char → Bool
  | 0, chars => chars.isEmpty
  | _ + 1, [] => true
  | fuel + 1, ' ' :: rest => areParameters fuel rest
  | fuel + 1, chars =>
    let name := chars.takeWhile isTokenChar
    match name, chars.drop name.length with
    | _ :: _, '=' :: '"' :: value =>
      match afterQuoted? value with
      | some rest => areParameters fuel rest
      | none => false
    | _ :: _, '=' :: rest =>
      let value := rest.takeWhile isTokenChar
      match rest.drop value.length with
      | [] => true
      | ';' :: more => !value.isEmpty && areParameters fuel more
      | _ => false
    | _, _ => false

/-- A subtype without its suffix, and the suffix: what follows the last plus sign, unless that comes
first. -/
def splitSuffix (subtype : List Char) : List Char × Option (List Char) :=
  if (subtype.drop 1).contains '+' then
    let suffix := (subtype.reverse.takeWhile (· ≠ '+')).reverse
    (subtype.take (subtype.length - suffix.length - 1), some suffix)
  else (subtype, none)

/-- A content type of JSON. -/
def isJsonText (text : List Char) : Bool :=
  let chars := text.map Char.toLower
  let main := chars.takeWhile isTokenChar
  match chars.drop main.length with
  | '/' :: rest =>
    let subtype := rest.takeWhile isTokenChar
    let after := rest.drop subtype.length
    let (name, suffix) := splitSuffix subtype
    let parameters := match after with
      | [] => true
      | ';' :: more => areParameters more.length more
      | _ => false
    main = "application".toList && !subtype.isEmpty && parameters &&
      (name = "json".toList || suffix = some "json".toList)
  | _ => false

/-- A byte of a header that is a visible character, a space or a tab. -/
def isVisible (byte : UInt8) : Bool := byte = 9 || (0x20 ≤ byte && byte < 0x7F)

/-- The value of a header that names a content type of JSON. -/
def isJsonType (value : ByteArray) : Bool :=
  let bytes := value.toList
  bytes.all isVisible && isJsonText (bytes.map fun byte => .ofNat byte.toNat)

/-- The greatest length of a body, in bytes. -/
def longestBody : Nat := 2097152

/-- The first value of a header. -/
def Request.header? (request : Request) (name : String) : Option ByteArray :=
  (request.headers.find? fun header => header.1.toLower = name).map (·.2)

/-- Reads the body of a request: its type, its length, its form and its shape are checked in this
order. -/
def Request.read {α : Type} (request : Request) (format : Json.Format α) :
    Except Response α :=
  if ¬ (request.header? "content-type").any isJsonType then
    .error (.text 415 "Expected request with `Content-Type: application/json`")
  else if longestBody < request.body.size then
    .error (.text 413 "Failed to buffer the request body: length limit exceeded")
  else
    match format.readBytes request.body with
    | .ok value => .ok value
    | .error flaw =>
      match flaw.cause with
      | .form _ =>
        .error (.text 400 ("Failed to parse the request body as JSON: " ++ flaw.located))
      | .shape _ =>
        .error (.text 422
          ("Failed to deserialize the JSON body into the target type: " ++ flaw.located))

end JobDispatch.Http
