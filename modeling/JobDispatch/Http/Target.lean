import JobDispatch.Text.Percent
import JobDispatch.Url.Host

/-!
# Request targets

A request names its target by a path with a query, by a whole URI, by an authority alone or by a
star. A target with a character that may not stand where it stands is no target. Only the path and
the query decide what is served.
-/

namespace JobDispatch.Http

/-- The target of a request. -/
structure Target where
  /-- The path as it is written; empty for an authority alone. -/
  path : String
  /-- The query as it is written. -/
  query : Option String
deriving DecidableEq, Repr

namespace Target

/-- The greatest length of a target, in bytes. -/
def longest : Nat := 65534

/-- Characters that may stand in a path. -/
def isPathChar (char : Char) : Bool :=
  let code := char.toNat
  code = 0x21 || code = 0x22 || (0x24 ≤ code && code ≤ 0x3B) || code = 0x3D ||
    (0x40 ≤ code && code ≤ 0x5F) || (0x61 ≤ code && code ≤ 0x7A) || 0x7B ≤ code

/-- Characters that may stand in a query. -/
def isQueryChar (char : Char) : Bool :=
  let code := char.toNat
  code = 0x21 || (0x24 ≤ code && code ≤ 0x3B) || code = 0x3D || 0x3F ≤ code

/-- Characters that may stand in an authority. -/
def isAuthorityChar (char : Char) : Bool :=
  char.isAlphanum || "!$&'()*+,-.:;=@[]_~".toList.contains char

/-- The path and the query of a text; what follows a number sign does not count. -/
def ofPath? (chars : List Char) : Option Target :=
  let body := chars.takeWhile (· ≠ '#')
  let path := body.takeWhile (· ≠ '?')
  let query := (body.drop path.length).drop 1
  if path.all isPathChar ∧ query.all isQueryChar then
    some ⟨if path.isEmpty then "/" else String.ofList path,
      if path.length < body.length then some (String.ofList query) else none⟩
  else none

/-- What has been seen of an authority. -/
structure AuthorityScan where
  /-- Colons since the last bracket or at sign. -/
  colons : Nat
  /-- A bracket has been opened. -/
  opened : Bool
  /-- The bracket has been closed. -/
  closed : Bool
  /-- A percent sign stands since the last bracket or at sign. -/
  percent : Bool
  /-- The last character was an at sign. -/
  atEnd : Bool

/-- Goes on by one character. -/
def AuthorityScan.step? (scan : AuthorityScan) (char : Char) : Option AuthorityScan :=
  let scan := { scan with atEnd := char = '@' }
  match char with
  | ':' => if 8 ≤ scan.colons then none else some { scan with colons := scan.colons + 1 }
  | '[' => if scan.percent ∨ scan.opened then none else some { scan with opened := true }
  | ']' =>
    if ¬ scan.opened ∨ scan.closed then none
    else some { scan with closed := true, colons := 0, percent := false }
  | '@' => some { scan with colons := 0, percent := false }
  | '%' => some { scan with percent := true }
  | _ => if isAuthorityChar char then some scan else none

/-- A text is an authority: one port at most, brackets in pairs, percent signs only in front of an
at sign. -/
def isAuthority (chars : List Char) : Bool :=
  match chars.foldlM AuthorityScan.step? ⟨0, false, false, false, false⟩ with
  | some scan =>
    scan.opened = scan.closed && scan.colons ≤ 1 && !scan.percent && !scan.atEnd
  | none => false

/-- The text after the scheme of a whole URI. -/
def afterScheme? (chars : List Char) : Option (List Char) :=
  let scheme := chars.takeWhile fun char =>
    char.isAlphanum || char = '+' || char = '-' || char = '.'
  match chars.drop scheme.length with
  | ':' :: '/' :: '/' :: rest => if 64 < scheme.length then none else some rest
  | _ => none

/-- Reads a target. -/
def read? (text : String) : Option Target :=
  let chars := text.toList
  if longest < text.utf8ByteSize ∨ chars.isEmpty then none
  else if chars = ['*'] then some ⟨"*", none⟩
  else if chars.head? = some '/' then ofPath? chars
  else
    match afterScheme? chars with
    | some rest =>
      let authority := rest.takeWhile fun char => char ≠ '/' && char ≠ '?' && char ≠ '#'
      if authority.isEmpty ∨ ¬ isAuthority authority then none
      else ofPath? (rest.drop authority.length)
    | none => if isAuthority chars then some ⟨"", none⟩ else none

/-- The text of a percent-encoded part, where a plus sign is a space and bytes that are not UTF-8
are replaced. -/
def formText (chars : List Char) : String :=
  let spaced := chars.map fun char => if char = '+' then ' ' else char
  String.ofList (Text.ofUtf8Lossy (Text.percentDecode (Text.toUtf8 spaced)))

/-- The pairs of a query, in their order; empty parts do not count. -/
def pairs (query : String) : List (String × String) :=
  let parts := (Host.splitAt (· = '&') query.toList).filter (!·.isEmpty)
  parts.map fun part =>
    let key := part.takeWhile (· ≠ '=')
    (formText key, formText (part.drop (key.length + 1)))

/-- The text of a path segment; bytes that are not UTF-8 have none. -/
def segmentText? (segment : List Char) : Option String :=
  (Text.ofUtf8? (Text.percentDecode (Text.toUtf8 segment))).map String.ofList

end Target

end JobDispatch.Http
