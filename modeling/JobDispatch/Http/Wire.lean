import JobDispatch.Http.Message
import JobDispatch.Text.Utf8

/-!
# Messages as bytes

A request is written as a line, headers, an empty line and a body whose length a header gives. It
asks for the connection to be closed, so a response ends with the bytes that arrive. The body of a
response comes in chunks with their lengths in front, or has a length, or is all that follows.
-/

namespace JobDispatch.Http

/-- A line with its end. -/
def wireLine (text : String) : String := text ++ "\x0d\n"

/-- A request to a host as bytes. -/
def Request.wire (request : Request) (host : String) : List UInt8 :=
  let target := request.target.path ++ request.target.query.elim "" ("?" ++ ·)
  let fixed : List (String × ByteArray) := [("host", host), ("accept", "*/*"),
    ("connection", "close"), ("content-length", toString request.body.size)]
  let header (field : String × ByteArray) : List UInt8 :=
    Text.toUtf8 (field.1 ++ ": ").toList ++ field.2.toList ++ Text.toUtf8 (wireLine "").toList
  Text.toUtf8 (wireLine (request.method ++ " " ++ target ++ " HTTP/1.1")).toList ++
    (fixed ++ request.headers).flatMap header ++ Text.toUtf8 (wireLine "").toList ++
    request.body.toList

/-- The line at the start of bytes and the bytes after its end. -/
def takeLine : List UInt8 → List UInt8 × List UInt8
  | [] => ([], [])
  | 13 :: 10 :: rest => ([], rest)
  | byte :: rest =>
    let (line, after) := takeLine rest
    (byte :: line, after)

/-- The headers at the start of bytes, up to an empty line, with their names in lower case. The
fuel is the number of bytes. -/
def takeHeaders : Nat → List UInt8 → List (String × String) × List UInt8
  | 0, bytes => ([], bytes)
  | fuel + 1, bytes =>
    match takeLine bytes with
    | ([], rest) => ([], rest)
    | (line, rest) =>
      let chars := Text.ofUtf8Lossy line
      let name := chars.takeWhile (· ≠ ':')
      let value := (chars.drop (name.length + 1)).dropWhile (· = ' ')
      let (headers, after) := takeHeaders fuel rest
      ((String.ofList (name.map Char.toLower), String.ofList value) :: headers, after)

/-- The bytes of chunks, up to one without bytes. The fuel is the number of bytes. -/
def joinChunks? : Nat → List UInt8 → Option (List UInt8)
  | 0, _ => none
  | fuel + 1, bytes => do
    let (line, rest) := takeLine bytes
    let digits := (Text.ofUtf8Lossy line).takeWhile fun char => (Text.hexValue? char).isSome
    if digits.isEmpty then none
    let size ← Text.readDigits? 16 digits 0
    if size = 0 then some []
    else if rest.length < size then none
    else return rest.take size ++ (← joinChunks? fuel (takeLine (rest.drop size)).2)

/-- Reads a response. -/
def Response.ofWire? (bytes : List UInt8) : Option Response := do
  let (line, rest) := takeLine bytes
  let status ← match (String.ofList (Text.ofUtf8Lossy line)).splitOn " " with
    | _ :: code :: _ => Text.readNat? code.toList
    | _ => none
  let (headers, after) := takeHeaders rest.length rest
  let header? (name : String) : Option String :=
    (headers.find? fun header => header.1 = name).map (·.2)
  let body ← match header? "transfer-encoding", header? "content-length" with
    | some "chunked", _ => joinChunks? (after.length + 1) after
    | _, some length => do
      let length ← Text.readNat? length.toList
      if after.length < length then none else some (after.take length)
    | _, none => some after
  return ⟨status, header? "allow", header? "content-type", String.ofList (Text.ofUtf8Lossy body)⟩

end JobDispatch.Http
