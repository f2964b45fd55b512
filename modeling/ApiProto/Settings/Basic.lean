/-
  Settings of the output.
-/

namespace ApiProto

/-- The number of spaces of a level of indentation, unless the settings say otherwise. -/
def defaultIndentWidth : Nat := 4

/-- How the output is laid out: the spaces of a level of indentation, and whether an operation gets
at most one wrapper message.  The width is any number, also one whose spaces no memory could hold;
what can be allocated is not modelled. -/
structure Settings where
  indentWidth : Nat := defaultIndentWidth
  deduplicate : Bool := false
  deriving DecidableEq, Repr

end ApiProto
