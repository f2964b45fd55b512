/-
  Drafts: definitions whose types are still the JSON values that declare them.

  A draft has the shape of the text it was read from, so everything that can be wrong with a draft
  is wrong with one of its types.
-/
import ApiProto.Json.Value
import ApiProto.OrderedMap

namespace ApiProto.Draft

/-- A parameter; a missing type is null. -/
structure Parameter where
  name : String
  type : Json

/-- An operation; a response without a type has no body. -/
structure Operation where
  parameters : List Parameter
  responses : OrderedMap String (Option Json)

end ApiProto.Draft

namespace ApiProto

/-- A definition whose types are JSON values. -/
structure Draft where
  services : OrderedMap String (OrderedMap String Draft.Operation)
  models : OrderedMap String (OrderedMap String Json)
  enums : OrderedMap String (List String)

end ApiProto
