/-!
# KDL documents

A document is a list of nodes. A node has a name, arguments and properties in their order, and may
have children. Type annotations, comments and everything that is commented out by a slash and a
dash leave no trace.
-/

namespace JobDispatch.Kdl

/-- A value of an argument or property. -/
inductive Value
  | string (text : String)
  | integer (value : Int)
  /-- A number with decimals, an exponent or the name of no finite number, as it is written. -/
  | real (text : String)
  | boolean (value : Bool)
  | null
deriving DecidableEq, Repr

/-- An argument, or a property if it has a name. -/
structure Entry where
  /-- The name of a property. -/
  name : Option String
  /-- The value. -/
  value : Value
deriving DecidableEq, Repr

/-- A node. -/
inductive Node
  | mk (name : String) (entries : List Entry) (children : Option (List Node))
deriving Repr, Inhabited

namespace Node

/-- The name. -/
def name : Node → String
  | .mk name _ _ => name

/-- The arguments and properties. -/
def entries : Node → List Entry
  | .mk _ entries _ => entries

/-- The children, if there is a block of them. -/
def children : Node → Option (List Node)
  | .mk _ _ children => children

/-- The first argument. -/
def firstArgument? (node : Node) : Option Value :=
  (node.entries.find? fun entry => entry.name.isNone).map (·.value)

end Node

end JobDispatch.Kdl
