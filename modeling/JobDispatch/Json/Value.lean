import JobDispatch.Number.Binary64

/-!
# JSON values

Payloads are JSON values that the orchestrator stores and returns without reading them. A number is
an integer of sixty-four bits, with or without sign, or a binary number; `1` and `1.0` differ. The
fields of an object are kept in the order of their keys, each key once, so that two objects with
the same fields are equal.
-/

namespace JobDispatch

/-- An integer that fits sixty-four bits, with or without sign. -/
structure Json.Whole where
  /-- The integer. -/
  value : Int
  /-- It lies between the least signed and the greatest unsigned integer. -/
  fits : -0x8000000000000000 ≤ value ∧ value < UInt64.size
deriving DecidableEq, Repr

/-- A JSON value. -/
inductive Json
  | null
  | boolean (value : Bool)
  | whole (value : Json.Whole)
  | binary (value : Binary64)
  | string (value : String)
  | array (items : List Json)
  | object (fields : List (String × Json))
deriving Repr, BEq

namespace Json

instance : Inhabited Json := ⟨.null⟩

/-- An integer as a JSON value; beyond sixty-four bits it becomes a binary number. -/
def ofInt (value : Int) : Json :=
  if fits : -0x8000000000000000 ≤ value ∧ value < UInt64.size then .whole ⟨value, fits⟩
  else .binary (.ofInt value)

/-- A natural number as a JSON value. -/
def ofNat (value : Nat) : Json := ofInt value

/-- Adds a field at its place in the order of keys; a key that is there takes the new value. -/
def insertField (key : String) (value : Json) : List (String × Json) → List (String × Json)
  | [] => [(key, value)]
  | (other, held) :: rest =>
    if key < other then (key, value) :: (other, held) :: rest
    else if key = other then (key, value) :: rest
    else (other, held) :: insertField key value rest

/-- The object of a list of fields, of which the last with a key counts. -/
def ofFields (fields : List (String × Json)) : Json :=
  .object (fields.foldl (fun sorted field => insertField field.1 field.2 sorted) [])

/-- The value of a key in an object. -/
def field? (key : String) : Json → Option Json
  | .object fields => (fields.find? fun field => field.1 = key).map (·.2)
  | _ => none

end Json

end JobDispatch
