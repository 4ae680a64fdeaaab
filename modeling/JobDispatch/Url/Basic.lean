import JobDispatch.Url.Host

/-!
# URLs

A URL has a scheme and a path, and may have an authority, a query and a fragment. A path is either a
list of segments or a verbatim text, to which nothing can be relative. Six web schemes are special:
they always have a path, take a backslash for a slash, and leave out their usual port.
-/

namespace JobDispatch

/-- Who serves a URL. -/
structure Authority where
  /-- The user, percent-encoded; empty for none. -/
  username : String
  /-- The password, percent-encoded. -/
  password : Option String
  /-- The host; missing when its text is empty. -/
  host : Option Host
  /-- The port, where it is not the usual one of the scheme. -/
  port : Option Nat
deriving DecidableEq, Repr

/-- The path of a URL. -/
inductive UrlPath
  | verbatim (text : String)
  | segments (names : List String)
deriving DecidableEq, Repr

/-- A URL. -/
structure Url where
  /-- The scheme, in lower case. -/
  scheme : String
  /-- Who serves it. -/
  authority : Option Authority
  /-- The path. -/
  path : UrlPath
  /-- The query, percent-encoded. -/
  query : Option String
  /-- The fragment, percent-encoded. -/
  fragment : Option String
deriving DecidableEq, Repr

namespace Url

/-- The usual port of a scheme. -/
def usualPort? : String → Option Nat
  | "http" | "ws" => some 80
  | "https" | "wss" => some 443
  | "ftp" => some 21
  | _ => none

/-- The scheme is one of the web schemes. -/
def isSpecialScheme (scheme : String) : Bool := scheme = "file" || (usualPort? scheme).isSome

/-- The text of a path. -/
def pathText : UrlPath → String
  | .verbatim text => text
  | .segments names => String.join (names.map ("/" ++ ·))

/-- The host, if the URL has one. -/
def host? (url : Url) : Option Host := url.authority.bind (·.host)

/-- The authority without user and password. -/
def authorityText (authority : Authority) : String :=
  (authority.host.elim "" Host.text) ++ authority.port.elim "" fun port => ":" ++ toString port

/-- The text of a URL without user and password. -/
def text (url : Url) : String :=
  let path := pathText url.path
  let guarded := if url.authority.isNone ∧ path.startsWith "//" then "/." ++ path else path
  url.scheme ++ ":" ++ (url.authority.elim "" fun authority => "//" ++ authorityText authority) ++
    guarded ++ (url.query.elim "" ("?" ++ ·)) ++ url.fragment.elim "" ("#" ++ ·)

/-- Characters encoded in paths. -/
def isEncodedInPath (char : Char) : Bool := " \"<>`#?\x7b\x7d".toList.contains char

/-- Characters encoded in queries, of web schemes or of others. -/
def isEncodedInQuery (special : Bool) (char : Char) : Bool :=
  " \"#<>".toList.contains char || (special && char = '\'')

/-- Characters encoded in fragments. -/
def isEncodedInFragment (char : Char) : Bool := " \"<>`".toList.contains char

/-- Characters encoded in user names and passwords. -/
def isEncodedInUser (char : Char) : Bool :=
  "\x20\"<>`#?\x7b\x7d/:;=@[\\]^|".toList.contains char

/-- A segment that stands for the place itself. -/
def isSingleDot (segment : List Char) : Bool :=
  [".", "%2e"].contains (String.ofList (segment.map Char.toLower))

/-- A segment that stands for the place above. -/
def isDoubleDot (segment : List Char) : Bool :=
  ["..", "%2e.", ".%2e", "%2e%2e"].contains (String.ofList (segment.map Char.toLower))

/-- Appends the segments of a path to those before it: dots are resolved, and a path that ends in
dots ends in a slash. -/
def appendSegments : List String → List (List Char) → List String
  | names, [] => names
  | names, segment :: rest =>
    let atEnd (names : List String) : List String := if rest.isEmpty then names ++ [""] else names
    if isDoubleDot segment then appendSegments (atEnd names.dropLast) rest
    else if isSingleDot segment then appendSegments (atEnd names) rest
    else
      let encoded := Text.percentEncode isEncodedInPath segment
      appendSegments (names ++ [String.ofList encoded]) rest

/-- The URL with a path that ends in a slash; a verbatim path stays. -/
def withSlash (url : Url) : Url :=
  match url.path with
  | .verbatim _ => url
  | .segments names =>
    if names.getLast? = some "" then url else { url with path := .segments (names ++ [""]) }

/-- The URL of a path and query that are relative to a URL: the last segment gives way to the
path. -/
def resolve (base : Url) (path : String) (query : Option String) : Except UrlFlaw Url :=
  match base.path with
  | .verbatim _ => .error .relativeToVerbatim
  | .segments names =>
    let added := appendSegments names.dropLast (Host.splitAt (· = '/') path.toList)
    .ok { base with path := .segments added, query, fragment := none }

end Url

end JobDispatch
