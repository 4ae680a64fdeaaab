import JobDispatch.Kdl.Literal

/-!
# Reading KDL documents

A node is a name and then arguments and properties with blanks between them, a block of children,
and the end of the line or a semicolon; the last node of a block needs no end. A slash and a dash
in front of a node, an argument, a property or a block comment it out. There is one answer for all
mistakes: the text is no document.
-/

namespace JobDispatch.Kdl

/-- The text after the blanks within a line, and whether there were any. -/
def blanks (chars : List Char) : Option (Bool × List Char) := do
  let rest ← skipWithin (chars.length + 1) chars
  some (decide (rest.length < chars.length), rest)

/-- The text after all blanks and comments. -/
def between (chars : List Char) : Option (List Char) := skipBetween (chars.length + 1) chars

/-- The text after a type annotation, if it starts with one. -/
def afterType (chars : List Char) : Option (List Char) :=
  match chars with
  | '(' :: rest => do
    let (_, inner) ← blanks rest
    let (_, afterName) ← readString inner
    match ← blanks afterName with
    | (_, ')' :: after) => (blanks after).map (·.2)
    | _ => none
  | _ => some chars

/-- Reads an argument or a property. -/
def readEntry (chars : List Char) : Option (Entry × List Char) := do
  if chars.head? = some '(' then
    let (value, after) ← readValue (← afterType chars)
    return (⟨none, value⟩, after)
  let (value, after) ← readValue chars
  match value, ← blanks after with
  | .string name, (_, '=' :: rest) =>
    let (_, inner) ← blanks rest
    let (value, after) ← readValue (← afterType inner)
    return (⟨some name, value⟩, after)
  | _, _ => return (⟨none, value⟩, after)

/-- The text ends a node here, before what ends it. -/
def atNodeEnd : List Char → Bool
  | [] => true
  | ';' :: _ | '\x7d' :: _ => true
  | '/' :: '/' :: _ => true
  | char :: _ => isLineEnd char

/-- The text after the end of a node; a closing brace ends one without being taken. -/
def afterNodeEnd? : List Char → Option (List Char)
  | [] => some []
  | ';' :: rest => some rest
  | '/' :: '/' :: rest => some (afterLine rest)
  | '\x7d' :: rest => some ('\x7d' :: rest)
  | chars => afterLineEnd? chars

mutual

/-- Reads nodes up to the end of the text or a closing brace. -/
def readNodes : Nat → List Char → List Node → Option (List Node × List Char)
  | 0, _, _ => none
  | fuel + 1, chars, nodes => do
    let rest ← between chars
    match rest with
    | [] => some (nodes.reverse, [])
    | '\x7d' :: _ => some (nodes.reverse, rest)
    | '/' :: '-' :: hidden =>
      let (_, after) ← readNode fuel (← between hidden)
      readNodes fuel after nodes
    | _ =>
      let (node, after) ← readNode fuel rest
      readNodes fuel after (node :: nodes)

/-- Reads a node with its end. -/
def readNode : Nat → List Char → Option (Node × List Char)
  | 0, _ => none
  | fuel + 1, chars => do
    let (name, after) ← readString (← afterType chars)
    let (entries, children, rest) ← readBody fuel after []
    let after ← afterNodeEnd? rest
    some (.mk name entries children, after)

/-- Reads the arguments, properties and children of a node; the entries before are given in
reverse. -/
def readBody : Nat → List Char → List Entry → Option (List Entry × Option (List Node) × List Char)
  | 0, _, _ => none
  | fuel + 1, chars, entries => do
    let (spaced, rest) ← blanks chars
    match rest with
    | '\x7b' :: _ =>
      let (children, after) ← readBlock fuel rest
      let final ← readHidden fuel after
      some (entries.reverse, some children, final)
    | '/' :: '-' :: hidden =>
      let inner ← between hidden
      if inner.head? = some '\x7b' then
        let (_, after) ← readBlock fuel inner
        let (children, final) ← readBlocks fuel after
        some (entries.reverse, children, final)
      else
        let (_, after) ← readEntry inner
        readBody fuel after entries
    | _ =>
      if atNodeEnd rest then some (entries.reverse, none, rest)
      else if spaced then
        let (entry, after) ← readEntry rest
        readBody fuel after (entry :: entries)
      else none

/-- Reads a block of children from its opening brace. -/
def readBlock : Nat → List Char → Option (List Node × List Char)
  | 0, _ => none
  | fuel + 1, chars => do
    let (nodes, rest) ← readNodes fuel (chars.drop 1) []
    match rest with
    | '\x7d' :: after => some (nodes, after)
    | _ => none

/-- Reads what follows a block that is commented out: other such blocks and at most one block that
is not. -/
def readBlocks : Nat → List Char → Option (Option (List Node) × List Char)
  | 0, _ => none
  | fuel + 1, chars => do
    let (_, rest) ← blanks chars
    match rest with
    | '\x7b' :: _ =>
      let (children, after) ← readBlock fuel rest
      let final ← readHidden fuel after
      some (some children, final)
    | '/' :: '-' :: hidden =>
      let inner ← between hidden
      if inner.head? ≠ some '\x7b' then none
      let (_, after) ← readBlock fuel inner
      readBlocks fuel after
    | _ => if atNodeEnd rest then some (none, rest) else none

/-- Reads what follows a block: only blocks that are commented out. -/
def readHidden : Nat → List Char → Option (List Char)
  | 0, _ => none
  | fuel + 1, chars => do
    let (_, rest) ← blanks chars
    match rest with
    | '/' :: '-' :: hidden =>
      let inner ← between hidden
      if inner.head? ≠ some '\x7b' then none
      let (_, after) ← readBlock fuel inner
      readHidden fuel after
    | _ => if atNodeEnd rest then some rest else none

end

/-- The nodes of a text, if it is a document. A byte order mark may stand in front. -/
def read? (text : String) : Option (List Node) := do
  let chars := text.toList
  let body := if chars.head? = some '\ufeff' then chars.drop 1 else chars
  match ← readNodes (2 * body.length + 2) body [] with
  | (nodes, []) => some nodes
  | _ => none

end JobDispatch.Kdl
