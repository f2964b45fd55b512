/-
  Signatures of operations: the messages that an operation takes and gives.

  An operation whose only parameter refers to a model takes that model; any other takes a message
  of its own name with `Request` behind it.  The first successful response with a body decides what
  an operation gives: the model or enumeration that it refers to, or, if it is primitive, a message
  of the operation's own name.
-/
import ApiProto.Definition.Basic

namespace ApiProto.Proto

/-- The message that an operation takes. -/
def requestType (o : Operation) : String :=
  match o.parameters with
  | [p] => p.type.model?.getD (o.name ++ "Request")
  | _ => o.name ++ "Request"

/-- The message that an operation gives for a response of the given type. -/
def responseType (operation : String) (t : DataType) : String :=
  match t.reference with
  | .primitive .. => operation
  | .model name => name
  | .enumeration name => name

/-- The message that an operation gives, if there is one. -/
def returnType (o : Operation) : Option String :=
  match o.successTypes with
  | [] => none
  | t :: _ => some (responseType o.name t)

/-- The line that declares an operation. -/
def rpcLine (o : Operation) : String :=
  match returnType o with
  | some response =>
    "rpc " ++ o.name ++ "(" ++ requestType o ++ ") returns (" ++ response ++ ") \x7b\x7d"
  | none => "rpc " ++ o.name ++ "(" ++ requestType o ++ ") returns \x7b\x7d"

end ApiProto.Proto
