/-!
Contract: JSON documents as values.

Owns the value type and member lookup. An object keeps its members in the order of the text,
repeated names included; the last one of a name counts.
-/

namespace ImportBoundary.Json

/-- A JSON document. A number is kept as it is written. -/
inductive Value where
  | null
  | boolean (value : Bool)
  | number (literal : String)
  | text (characters : String)
  | list (elements : List Value)
  | object (members : List (String × Value))
deriving Repr, Inhabited

/-- The member of an object: the last one of that name. -/
def Value.member? (value : Value) (name : String) : Option Value :=
  match value with
  | .object members => members.reverse.lookup name
  | _ => none

end ImportBoundary.Json
