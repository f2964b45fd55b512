/-
  Values of a TOML document.

  Tables remember how they came to be, since that decides whether the document may add to them
  later: a header defines a table once, a header through it or a dotted key only implies it, and an
  inline table is complete where it is written.
-/
import ApiProto.Number.Shortest

namespace ApiProto.Toml

/-- How a table came to be. -/
inductive Origin where
  /-- Named by a header of its own, or the document itself. -/
  | header
  /-- On the way to a table that a header names. -/
  | implied
  /-- On the way to a dotted key. -/
  | dotted
  /-- Written between braces. -/
  | inlined
  deriving DecidableEq, Repr

/-- A number with a point or an exponent. -/
inductive Real where
  | finite (negative : Bool) (magnitude : Decimal)
  | infinite (negative : Bool)
  | nan
  deriving DecidableEq, Repr

/-- A value. -/
inductive Value where
  | string (s : String)
  | integer (n : Int)
  /-- Spelled like an integer, but of no value. -/
  | noInteger
  | real (x : Real)
  | boolean (b : Bool)
  | dateTime
  | array (items : List Value)
  | table (origin : Origin) (entries : List (String × Value))
  /-- An array of tables whose elements headers name. -/
  | tables (elements : List (List (String × Value)))
  deriving Repr

/-- The entries of a table. -/
abbrev Entries := List (String × Value)

end ApiProto.Toml
