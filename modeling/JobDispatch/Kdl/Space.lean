/-!
# Blanks and comments in KDL

Within a line stand spaces, block comments, which nest, and a backslash that continues the line on
the next one. Between lines stand line ends and line comments as well.
-/

namespace JobDispatch.Kdl

/-- Spaces, other than line ends. -/
def isSpace (char : Char) : Bool :=
  let code := char.toNat
  code = 0x09 || code = 0x20 || code = 0xA0 || code = 0x1680 || (0x2000 ≤ code && code ≤ 0x200A) ||
    code = 0x202F || code = 0x205F || code = 0x3000

/-- Line ends; a carriage return and a line feed together are one. -/
def isLineEnd (char : Char) : Bool :=
  let code := char.toNat
  (0x0A ≤ code && code ≤ 0x0D) || code = 0x85 || code = 0x2028 || code = 0x2029

/-- Characters that may not be written literally: controls, and marks that change the direction
of text or the order of bytes. -/
def isDisallowed (char : Char) : Bool :=
  let code := char.toNat
  code ≤ 0x08 || (0x0E ≤ code && code ≤ 0x1F) || code = 0x7F || code = 0x200E || code = 0x200F ||
    (0x202A ≤ code && code ≤ 0x202E) || (0x2066 ≤ code && code ≤ 0x2069) || code = 0xFEFF

/-- The text after a line end, if it starts with one. -/
def afterLineEnd? : List Char → Option (List Char)
  | '\r' :: '\n' :: rest => some rest
  | char :: rest => if isLineEnd char then some rest else none
  | [] => none

/-- The text after a block comment of which the given number are open. -/
def afterBlock? : Nat → List Char → Option (List Char)
  | 0, chars => some chars
  | depth + 1, '*' :: '/' :: rest => afterBlock? depth rest
  | depth + 1, '/' :: '*' :: rest => afterBlock? (depth + 2) rest
  | depth + 1, _ :: rest => afterBlock? (depth + 1) rest
  | _ + 1, [] => none
termination_by _ chars => chars.length

/-- The text after a line comment, its line end included. -/
def afterLine (chars : List Char) : List Char :=
  let rest := chars.dropWhile fun char => !isLineEnd char
  (afterLineEnd? rest).getD rest

/-- The text after the spaces and block comments at its start. The fuel is the length. -/
def skipSpace : Nat → List Char → Option (List Char)
  | 0, chars => some chars
  | fuel + 1, '/' :: '*' :: rest => do skipSpace fuel (← afterBlock? 1 rest)
  | fuel + 1, char :: rest => if isSpace char then skipSpace fuel rest else some (char :: rest)
  | _ + 1, [] => some []

/-- The text after a backslash that continues the line. -/
def afterContinuation? (chars : List Char) : Option (List Char) := do
  match ← skipSpace chars.length chars with
  | [] => some []
  | '/' :: '/' :: rest => some (afterLine rest)
  | rest => afterLineEnd? rest

/-- The text after the blanks within a line, continuations included. The fuel is the length. -/
def skipWithin : Nat → List Char → Option (List Char)
  | 0, chars => some chars
  | fuel + 1, chars => do
    match ← skipSpace chars.length chars with
    | '\\' :: rest =>
      match afterContinuation? rest with
      | some after => skipWithin fuel after
      | none => some ('\\' :: rest)
    | rest => some rest

/-- The text after all blanks and comments. The fuel is the length. -/
def skipBetween : Nat → List Char → Option (List Char)
  | 0, chars => some chars
  | fuel + 1, chars => do
    match ← skipWithin chars.length chars with
    | '/' :: '/' :: rest => skipBetween fuel (afterLine rest)
    | rest =>
      match afterLineEnd? rest with
      | some after => skipBetween fuel after
      | none => some rest

end JobDispatch.Kdl
