/-
  JSON values.

  The members of an object stand in the order in which their names first arrived, each name once.
-/
import ApiProto.Json.Number
import ApiProto.OrderedMap

namespace ApiProto

/-- A JSON value. -/
inductive Json where
  | null
  | bool (b : Bool)
  | number (n : Json.Number)
  | string (s : String)
  | array (items : List Json)
  | object (members : List (String × Json))
  deriving Repr

instance : Inhabited Json := ⟨.null⟩

/-- The value of a member of an object. -/
def Json.member? (name : String) : Json → Option Json
  | .object members => members.lookup name
  | _ => none

end ApiProto
