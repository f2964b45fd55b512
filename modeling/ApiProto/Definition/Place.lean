/-
  Places of types in a definition: a property of a model, a parameter or a response of an
  operation.  `Place.path` writes one as the dotted path that error messages show.
-/

namespace ApiProto

/-- A place where a definition declares a type. -/
inductive Place where
  | property (model property : String)
  | parameter (service operation : String) (index : Nat)
  | response (service operation status : String)
  deriving DecidableEq, Repr

/-- The dotted path of a place. -/
def Place.path : Place → String
  | .property model name => "models." ++ model ++ "." ++ name
  | .parameter service operation index =>
    "services." ++ service ++ "." ++ operation ++ ".parameters[" ++ toString index ++ "].dataType"
  | .response service operation status =>
    "services." ++ service ++ "." ++ operation ++ ".responses." ++ status ++ ".dataType"

end ApiProto
