/-
  Wrapper messages: one for each primitive body of a successful response, of the name of its
  operation.
-/
import ApiProto.Definition.Basic

namespace ApiProto.Proto

/-- A message with a single value of a primitive kind. -/
structure Wrapper where
  name : String
  kind : Primitive
  deriving DecidableEq, Repr

/-- The primitive kind of a successful response with a body. -/
def wrappedKind? : String × Option DataType → Option Primitive
  | (status, some ⟨.primitive kind _, _⟩) => if Status.isSuccess status then some kind else none
  | _ => none

/-- The wrappers of an operation, or only the first of them. -/
def operationWrappers (deduplicate : Bool) (o : Operation) : List Wrapper :=
  let ws := (o.responses.entries.filterMap wrappedKind?).map fun kind => ⟨o.name, kind⟩
  if deduplicate then ws.take 1 else ws

/-- The wrappers of each service that has any. -/
def wrapperGroups (services : List (String × Service)) (deduplicate : Bool) : List (List Wrapper) :=
  (services.map fun s => s.2.flatMap (operationWrappers deduplicate)).filter (!·.isEmpty)

end ApiProto.Proto
