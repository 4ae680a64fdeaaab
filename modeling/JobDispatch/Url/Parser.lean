import JobDispatch.Url.Basic

/-!
# Reading URLs

A text is read from left to right: scheme, authority, path, query, fragment. Controls and spaces at
its ends and tabs and line ends within it do not count. Web schemes have an authority whatever
slashes stand before it, and files have one only after two.
-/

namespace JobDispatch.Url

/-- Splits a text before the first character with a property. -/
def breakAt (stop : Char → Bool) (chars : List Char) : List Char × List Char :=
  (chars.takeWhile fun char => !stop char, chars.dropWhile fun char => !stop char)

/-- The end of an authority. -/
def endsAuthority (special : Bool) (char : Char) : Bool :=
  char = '/' || char = '?' || char = '#' || (special && char = '\\')

/-- Splits the scheme from a text; the scheme is in lower case. -/
def readScheme (chars : List Char) : Option (String × List Char) :=
  let isSchemeChar (char : Char) : Bool :=
    char.isAlphanum || char = '+' || char = '-' || char = '.'
  let (scheme, rest) := breakAt (fun char => !isSchemeChar char) chars
  match scheme, rest with
  | first :: _, ':' :: after =>
    if first.isAlpha then some (String.ofList (scheme.map Char.toLower), after) else none
  | _, _ => none

/-- The characters before the last at sign and those after it. -/
def splitUser (chars : List Char) : Option (List Char × List Char) :=
  if chars.contains '@' then
    let after := (chars.reverse.takeWhile (· ≠ '@')).reverse
    some (chars.take (chars.length - after.length - 1), after)
  else none

/-- The user name and password before an at sign. -/
def readUser (chars : List Char) : String × Option String :=
  let (name, rest) := breakAt (· = ':') chars
  let encode (part : List Char) : String :=
    String.ofList (Text.percentEncode isEncodedInUser part)
  (encode name, if rest.length ≤ 1 then none else some (encode (rest.drop 1)))

/-- The length of a host: up to a colon outside brackets. -/
def hostLength : Bool → List Char → Nat
  | _, [] => 0
  | inside, char :: rest =>
    if char = ':' ∧ ¬ inside then 0
    else hostLength (if char = '[' then true else if char = ']' then false else inside) rest + 1

/-- Reads a port; the usual one of the scheme and an empty one do not count. A backslash may end
it. -/
def readPort (scheme : String) (chars : List Char) : Except UrlFlaw (Option Nat × List Char) :=
  let (digits, rest) := breakAt (fun char => !char.isDigit) chars
  match Text.readDigits? 10 digits 0 with
  | none => .error .invalidPort
  | some port =>
    if 65535 < port then .error .invalidPort
    else if ¬ rest.isEmpty ∧ rest.head? ≠ some '\\' then .error .invalidPort
    else .ok (if digits.isEmpty ∨ usualPort? scheme = some port then none else some port, rest)

/-- Reads the authority of a scheme that is not `file`. Returns what a backslash left over. -/
def readAuthority (scheme : String) (chars : List Char) :
    Except UrlFlaw (Authority × List Char) := do
  let special := isSpecialScheme scheme
  let ((username, password), hostPort, hasUser) ← match splitUser chars with
    | none => pure (("", none), chars, false)
    | some (user, after) => do
      let (username, password) := readUser user
      pure ((username, password), after, username ≠ "" ∨ password.isSome)
  let length := hostLength false hostPort
  let hostChars := hostPort.take length
  let afterHost := hostPort.drop length
  if special ∧ hostChars.isEmpty then throw .emptyHost
  let host ← if special then Host.read hostChars else Host.readVerbatim hostChars
  if hostChars.isEmpty ∧ ¬ afterHost.isEmpty then throw .emptyHost
  let (port, rest) ← match afterHost with
    | ':' :: digits => readPort scheme digits
    | _ => pure (none, [])
  if hostChars.isEmpty ∧ hasUser then throw .emptyHost
  return (⟨username, password, if hostChars.isEmpty then none else some host, port⟩, rest)

/-- The path, query and fragment of a text. -/
def splitTail (chars : List Char) : List Char × Option (List Char) × Option (List Char) :=
  let (beforeFragment, fragment) := breakAt (· = '#') chars
  let (path, query) := breakAt (· = '?') beforeFragment
  let dropped (part : List Char) : Option (List Char) :=
    if part.isEmpty then none else some (part.drop 1)
  (path, dropped query, dropped fragment)

/-- The segments of a path that may start with a slash. -/
def readPath (special : Bool) (path : List Char) : List String :=
  let isSlash (char : Char) : Bool := char = '/' || (special && char = '\\')
  if path.isEmpty ∧ ¬ special then []
  else
    let relative := if (path.head?.map isSlash).getD false then path.drop 1 else path
    appendSegments [] (Host.splitAt isSlash relative)

/-- A URL of the parts that have been read and the text after them. -/
def finish (scheme : String) (authority : Option Authority) (isVerbatim : Bool)
    (chars : List Char) : Url :=
  let special := isSpecialScheme scheme
  let (path, query, fragment) := splitTail chars
  { scheme, authority
    path := if isVerbatim then
        .verbatim (String.ofList (Text.percentEncode (fun _ => false) path))
      else .segments (readPath special path)
    query := query.map (String.ofList ∘ Text.percentEncode (isEncodedInQuery special))
    fragment := fragment.map (String.ofList ∘ Text.percentEncode isEncodedInFragment) }

/-- Reads the text after a scheme and the slashes of its authority. -/
def afterSlashes (scheme : String) (chars : List Char) : Except UrlFlaw Url := do
  let (authorityChars, rest) := breakAt (endsAuthority (isSpecialScheme scheme)) chars
  if authorityChars.getLast? = some '@' ∧ authorityChars.length = 1 ∧ ¬ rest.isEmpty then
    throw .emptyHost
  let (authority, left) ← readAuthority scheme authorityChars
  return finish scheme (some authority) false (left ++ rest)

/-- A letter and a colon or bar, which names a drive and no host. -/
def isDriveLetter : List Char → Bool
  | [letter, mark] => letter.isAlpha && (mark = ':' || mark = '|')
  | _ => false

/-- Reads the text after the scheme `file`. -/
def readFile (chars : List Char) : Except UrlFlaw Url := do
  let isSlash (char : Char) : Bool := char = '/' || char = '\\'
  let local_ (host : Option Host) : Option Authority := some ⟨"", none, host, none⟩
  match chars with
  | first :: second :: rest =>
    if isSlash first ∧ isSlash second then
      let (hostChars, after) := breakAt (endsAuthority true) rest
      if hostChars.isEmpty then return finish "file" (local_ none) false after
      if isDriveLetter hostChars then return finish "file" (local_ none) false rest
      let host ← Host.read hostChars
      let host := if host = .name "localhost" then none else some host
      return finish "file" (local_ host) false after
    else return finish "file" (local_ none) false chars
  | _ => return finish "file" (local_ none) false chars

/-- Reads a URL. -/
def read (text : String) : Except UrlFlaw Url :=
  let isEdge (char : Char) : Bool := char.toNat ≤ 0x20
  let trimmed := ((text.toList.dropWhile isEdge).reverse.dropWhile isEdge).reverse
  let chars := trimmed.filter fun char => char ≠ '\t' ∧ char ≠ '\n' ∧ char ≠ '\r'
  match readScheme chars with
  | none => .error .relativeWithoutBase
  | some ("file", rest) => readFile rest
  | some (scheme, rest) =>
    if isSpecialScheme scheme then
      afterSlashes scheme (rest.dropWhile fun char => char = '/' || char = '\\')
    else
      match rest with
      | '/' :: '/' :: after => afterSlashes scheme after
      | '/' :: _ => .ok (finish scheme none false rest)
      | _ => .ok (finish scheme none true rest)

end JobDispatch.Url
