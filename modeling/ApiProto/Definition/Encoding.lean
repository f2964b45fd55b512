/-
  Definitions as JSON texts.

  A definition is written in its documented shape, with all members in the order in which it holds
  them: the services as objects of operations under their names, each with its parameters and its
  responses, the models as objects of types, and the enumerations as arrays.  The text is compact.
-/
import ApiProto.Definition.Basic
import ApiProto.Json.Printer

namespace ApiProto

/-! ## Types -/

/-- The members that say what a type refers to. -/
def Reference.members : Reference → List (String × Json)
  | .primitive kind none => [("primitive", .string kind.name)]
  | .primitive kind (some subType) => [("primitive", .string kind.name), ("subType", .string subType)]
  | .model name => [("complex", .string name)]
  | .enumeration name => [("enum", .string name)]

/-- A type. -/
def DataType.toJson (t : DataType) : Json :=
  .object (t.reference.members ++ [("isArray", .bool t.isArray)])

/-! ## Operations and definitions -/

/-- A parameter. -/
def Parameter.toJson (p : Parameter) : Json :=
  .object [("name", .string p.name), ("dataType", p.type.toJson)]

/-- A response; one without a body has no members. -/
def responseToJson : Option DataType → Json
  | none => .object []
  | some type => .object [("dataType", type.toJson)]

/-- An operation, without its name. -/
def Operation.toJson (o : Operation) : Json :=
  .object [("parameters", .array (o.parameters.map Parameter.toJson)),
    ("responses", .object (o.responses.entries.map fun r => (r.1, responseToJson r.2)))]

/-- A service. -/
def Service.toJson (s : Service) : Json := .object (s.map fun o => (o.name, o.toJson))

/-- A model. -/
def Model.toJson (m : Model) : Json := .object (m.entries.map fun p => (p.1, p.2.toJson))

/-- An enumeration. -/
def Enumeration.toJson (e : Enumeration) : Json := .array (e.map Json.string)

/-- A definition. -/
def Definition.toJson (d : Definition) : Json :=
  .object [("services", .object (d.services.entries.map fun s => (s.1, Service.toJson s.2))),
    ("models", .object (d.models.entries.map fun m => (m.1, Model.toJson m.2))),
    ("enums", .object (d.enums.entries.map fun e => (e.1, Enumeration.toJson e.2)))]

/-- The text of a definition. -/
def Definition.encode (d : Definition) : String := d.toJson.compact

example : (Definition.empty.withModel "Pet"
      (.ofList [("id", ⟨.primitive .integer (some "int64"), true⟩)])).encode
    = "\x7b\"services\":\x7b\x7d,\"models\":\x7b\"Pet\":\x7b\"id\":\x7b\"primitive\":\"integer\"," ++
      "\"subType\":\"int64\",\"isArray\":true\x7d\x7d\x7d,\"enums\":\x7b\x7d\x7d" := by decide

/-! ## What can be encoded -/

/-- Whether every name in a type is there: an empty name counts as a missing one. -/
def DataType.hasNames (t : DataType) : Bool :=
  match t.reference with
  | .primitive _ subType => subType != some ""
  | .model name => name != ""
  | .enumeration name => name != ""

/-- The types of an operation. -/
def Operation.types (o : Operation) : List DataType :=
  o.parameters.map Parameter.type ++ o.responses.values.filterMap id

/-- The types of a definition. -/
def Definition.types (d : Definition) : List DataType :=
  d.models.values.flatMap OrderedMap.values
    ++ d.services.values.flatMap fun s => s.flatMap Operation.types

/-- The definition can be told from its text: the operations of a service have different names, and
no name in a type is empty. -/
structure Definition.IsEncodable (d : Definition) : Prop where
  nodup_operations : ∀ s ∈ d.services.values, (s.map Operation.name).Nodup
  hasNames : ∀ t ∈ d.types, t.hasNames

end ApiProto
