import JobDispatch.Json.Printer
import JobDispatch.Text.Quoted

/-!
# What can be wrong with a JSON text

A text that cannot be read as a record has a flaw of form, when it is no JSON text, or of shape,
when a value is not what the record needs. A flaw carries the path of the field that holds it.
-/

namespace JobDispatch.Json

/-- Why a text is no JSON text. -/
inductive FormFlaw
  | endInList
  | endInObject
  | endInString
  | endInValue
  | expectedColon
  | expectedListEnd
  | expectedObjectEnd
  | expectedWord
  | expectedValue
  | invalidEscape
  | invalidNumber
  | numberOutOfRange
  | controlCharacter
  | keyNotString
  | loneSurrogate
  | endInEscape
  | notUnicode
  | trailingComma
  | trailingText
  | tooDeep
deriving DecidableEq, Repr

/-- The wording of a flaw of form. -/
def FormFlaw.message : FormFlaw → String
  | .endInList => "EOF while parsing a list"
  | .endInObject => "EOF while parsing an object"
  | .endInString => "EOF while parsing a string"
  | .endInValue => "EOF while parsing a value"
  | .expectedColon => "expected `:`"
  | .expectedListEnd => "expected `,` or `]`"
  | .expectedObjectEnd => "expected `,` or `\x7d`"
  | .expectedWord => "expected ident"
  | .expectedValue => "expected value"
  | .invalidEscape => "invalid escape"
  | .invalidNumber => "invalid number"
  | .numberOutOfRange => "number out of range"
  | .controlCharacter =>
    "control character (\\u0000-\\u001F) found while parsing a string"
  | .keyNotString => "key must be a string"
  | .loneSurrogate => "lone leading surrogate in hex escape"
  | .endInEscape => "unexpected end of hex escape"
  | .notUnicode => "invalid unicode code point"
  | .trailingComma => "trailing comma"
  | .trailingText => "trailing characters"
  | .tooDeep => "recursion limit exceeded"

/-- What stands where a value of another type is needed. -/
inductive Found
  | null
  | boolean (value : Bool)
  | whole (value : Int)
  | binary (value : Binary64)
  | string (text : String)
  | sequence
  | map
deriving Repr

/-- What a JSON value is, for a message about it. -/
def Found.ofJson : Json → Found
  | .null => .null
  | .boolean value => .boolean value
  | .whole value => .whole value.value
  | .binary value => .binary value
  | .string text => .string text
  | .array _ => .sequence
  | .object _ => .map

/-- The wording of what was found. -/
def Found.text : Found → String
  | .null => "null"
  | .boolean value => "boolean `" ++ toString value ++ "`"
  | .whole value => "integer `" ++ toString value ++ "`"
  | .binary value => "floating point `" ++ NumberText.render NumberText.json value ++ "`"
  | .string text => "string " ++ Text.quoted text
  | .sequence => "sequence"
  | .map => "map"

/-- Why a JSON value is not what a record needs. -/
inductive ShapeFlaw
  | type (found : Found) (expected : String)
  | value (found : Found) (expected : String)
  | length (count : Nat) (expected : String)
  | missing (field : String)
  | duplicate (field : String)
  | unknownField (field expected : String)
  | unknownVariant (variant expected : String)
  | reading (message : String)
deriving Repr

/-- The wording of a flaw of shape. -/
def ShapeFlaw.message : ShapeFlaw → String
  | .type found expected => "invalid type: " ++ found.text ++ ", expected " ++ expected
  | .value found expected => "invalid value: " ++ found.text ++ ", expected " ++ expected
  | .length count expected => "invalid length " ++ toString count ++ ", expected " ++ expected
  | .missing field => "missing field `" ++ field ++ "`"
  | .duplicate field => "duplicate field `" ++ field ++ "`"
  | .unknownField field expected => "unknown field `" ++ field ++ "`, expected " ++ expected
  | .unknownVariant variant expected =>
    "unknown variant `" ++ variant ++ "`, expected " ++ expected
  | .reading message => message

/-- Alternatives in a message: the names in backticks, two joined by `or`, more after
`one of`. -/
def alternatives : List String → String
  | [] => "nothing"
  | [only] => "`" ++ only ++ "`"
  | [first, second] => "`" ++ first ++ "` or `" ++ second ++ "`"
  | names => "one of " ++ ", ".intercalate (names.map fun name => "`" ++ name ++ "`")

/-- One step from a value to a value in it. -/
inductive PathStep
  | key (name : String)
  | item (index : Nat)
deriving DecidableEq, Repr

/-- The written form of a path: keys joined by points, items by their index in brackets. -/
def pathText : List PathStep → String
  | [] => ""
  | .key name :: rest => name ++ tail rest
  | .item index :: rest => "[" ++ toString index ++ "]" ++ tail rest
where
  tail : List PathStep → String
    | [] => ""
    | .key name :: rest => "." ++ name ++ tail rest
    | .item index :: rest => "[" ++ toString index ++ "]" ++ tail rest

/-- The two kinds of flaw. -/
inductive Cause
  | form (flaw : FormFlaw)
  | shape (flaw : ShapeFlaw)
deriving Repr

/-- A flaw at its place. -/
structure Flaw where
  /-- The way from the whole value to the one with the flaw. -/
  path : List PathStep
  /-- What is wrong there. -/
  cause : Cause
deriving Repr

namespace Flaw

/-- A flaw of form, at the value that is read. -/
def form (flaw : FormFlaw) : Flaw := ⟨[], .form flaw⟩

/-- A flaw of shape, at the value that is read. -/
def shape (flaw : ShapeFlaw) : Flaw := ⟨[], .shape flaw⟩

/-- The same flaw seen from a value one step out. -/
def within (step : PathStep) (flaw : Flaw) : Flaw := { flaw with path := step :: flaw.path }

/-- The wording of a flaw without its place. -/
def message (flaw : Flaw) : String :=
  match flaw.cause with
  | .form cause => cause.message
  | .shape cause => cause.message

/-- The wording of a flaw after the path of its field. -/
def located (flaw : Flaw) : String :=
  if flaw.path.isEmpty then flaw.message else pathText flaw.path ++ ": " ++ flaw.message

end Flaw

end JobDispatch.Json
