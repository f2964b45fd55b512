/-
  Renaming a definition.

  The names of services, operations, parameters, models and properties go through the chain of
  their kind, and every reference to a model through the chain of the models.  Enumerations and
  status keys stay as they are.  Where two names of one map come to the same name, the entry stays
  in the place of the first and has the content of the last.
-/
import ApiProto.Definition.Basic
import ApiProto.Naming.Transform

namespace ApiProto

namespace Transforms

/-- The new type of a place. -/
def onType (t : Transforms) (type : DataType) : DataType :=
  type.mapModel (Transform.applyAll t.model)

/-- The new form of a parameter. -/
def onParameter (t : Transforms) (p : Parameter) : Parameter :=
  ⟨Transform.applyAll t.parameter p.name, t.onType p.type⟩

/-- The new form of an operation. -/
def onOperation (t : Transforms) (o : Operation) : Operation :=
  ⟨Transform.applyAll t.operation o.name, o.parameters.map t.onParameter,
    o.responses.mapValues fun _ body => body.map t.onType⟩

/-- The new form of a model. -/
def onModel (t : Transforms) (m : Model) : Model :=
  OrderedMap.ofList (m.entries.map fun (name, type) =>
    (Transform.applyAll t.property name, t.onType type))

end Transforms

/-- Renames everything in a definition. -/
def Definition.rename (d : Definition) (t : Transforms) : Definition where
  services := OrderedMap.ofList (d.services.entries.map fun (name, service) =>
    (Transform.applyAll t.service name, service.map t.onOperation))
  models := OrderedMap.ofList (d.models.entries.map fun (name, model) =>
    (Transform.applyAll t.model name, t.onModel model))
  enums := d.enums

end ApiProto
