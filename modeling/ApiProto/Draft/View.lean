/-
  The draft that a JSON value holds.

  This is the reading of drafts without texts: each part of a draft is a view of the value that
  stands for it, and none if some value is not of the kind that its place asks for.
-/
import ApiProto.Draft.Reader
import ApiProto.Json.View

namespace ApiProto.Draft

open ApiProto.Json (textOf? listOf? objectOf? dictOf? optionalOf? memberOf?)

/-- The parameter that a value holds. -/
def parameterOf? : Json → Option Parameter :=
  objectOf? fun ms => do
    let name ← memberOf? textOf? "name" ms
    let type ← memberOf? some "dataType" ms
    (⟨name, type⟩ : ParameterParts).finish.toOption

/-- The response that a value holds. -/
def responseOf? : Json → Option (Option Json) :=
  objectOf? fun ms => do
    let type ← memberOf? (optionalOf? some) "dataType" ms
    some (type.getD none)

/-- The operation that a value holds. -/
def operationOf? : Json → Option Operation :=
  objectOf? fun ms => do
    let parameters ← memberOf? (listOf? parameterOf?) "parameters" ms
    let responses ← memberOf? (dictOf? responseOf?) "responses" ms
    (⟨parameters, responses⟩ : OperationParts).finish.toOption

/-- The draft that a value holds. -/
def draftOf? : Json → Option Draft :=
  objectOf? fun ms => do
    let services ← memberOf? (dictOf? (dictOf? operationOf?)) "services" ms
    let models ← memberOf? (dictOf? (dictOf? some)) "models" ms
    let enums ← memberOf? (dictOf? (listOf? textOf?)) "enums" ms
    (⟨services, models, enums⟩ : Parts).finish.toOption

end ApiProto.Draft
