/-!
# JSON values

The values that settings are read from and written as. Only whole numbers matter here; any other
number is known to be one and no more. A string may spell half of a surrogate pair, and then it
stands for no text.
-/

namespace ClusterBatch

inductive Json where
  | null
  | boolean (value : Bool)
  /-- A number written as an integer. Minus zero is not among them. -/
  | integer (value : Int)
  /-- A number written in any other way. -/
  | otherNumber
  /-- A string, with its text if it stands for one. -/
  | string (text : Option String)
  | array (items : List Json)
  /-- Names and values in the order they were written. -/
  | object (members : List (Option String × Json))
  deriving Inhabited

namespace Json

def ofText (text : String) : Json := .string (some text)

def ofMembers (members : List (String × Json)) : Json :=
  .object (members.map fun (name, value) => (some name, value))

def ofOption {α : Type} (f : α → Json) : Option α → Json
  | some a => f a
  | none => .null

end Json

end ClusterBatch
