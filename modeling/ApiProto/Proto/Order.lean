/-
  The order of the blocks.

  Services stand in the order of their names, by code point.  Enumerations and models stand in
  dictionary order: letter case does not count, punctuation comes before numbers and numbers before
  letters, and names with equal keys keep the order of their declaration.
-/
import ApiProto.Definition.Basic
import ApiProto.Text.Alphabetic
import ApiProto.Text.CaseMap
import ApiProto.Text.Numeric

namespace ApiProto.Proto

/-- The class of a character in dictionary order. -/
def collationClass (c : Char) : Nat :=
  if Text.isAlphabetic c then 2 else if Text.isNumeric c then 1 else 0

/-- The weight of a character: its class, then its code point. -/
def collationWeight (c : Char) : Nat := collationClass c * 0x110000 + c.toNat

/-- The key by which names are compared in dictionary order. -/
def collationKey (name : String) : List Nat :=
  (Text.lowerText name.toList).map collationWeight

/-- Whether the first key does not come after the second: weights are compared one by one, and a key
comes before those that go on behind it. -/
def keyLE : List Nat → List Nat → Bool
  | [], _ => true
  | _ :: _, [] => false
  | a :: as, b :: bs => if a = b then keyLE as bs else decide (a < b)

/-- The entries in dictionary order of their names. -/
def inDictionaryOrder {α : Type} (entries : List (String × α)) : List (String × α) :=
  entries.mergeSort fun a b => keyLE (collationKey a.1) (collationKey b.1)

/-- The services in the order of the output. -/
def sortedServices (d : Definition) : List (String × Service) :=
  d.services.entries.mergeSort fun a b => decide (a.1 ≤ b.1)

/-- The enumerations in the order of the output. -/
def sortedEnums (d : Definition) : List (String × Enumeration) := inDictionaryOrder d.enums.entries

/-- The models in the order of the output. -/
def sortedModels (d : Definition) : List (String × Model) := inDictionaryOrder d.models.entries

end ApiProto.Proto
