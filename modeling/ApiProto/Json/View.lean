/-
  What a JSON value comes to where a text, an array or an object of a given kind is asked for.

  Each view is none for a value of another kind.
-/
import ApiProto.Json.Value

namespace ApiProto.Json

variable {α : Type}

/-- The string that a value is. -/
def textOf? : Json → Option String
  | .string s => some s
  | _ => none

/-- The list that an array is, if each item has a view. -/
def listOf? (item : Json → Option α) : Json → Option (List α)
  | .array items => items.mapM item
  | _ => none

/-- What the members of an object come to. -/
def objectOf? (members : List (String × Json) → Option α) : Json → Option α
  | .object ms => members ms
  | _ => none

/-- The map that an object is, if each member's value has a view. -/
def dictOf? (item : Json → Option α) : Json → Option (OrderedMap String α) :=
  objectOf? fun ms => (ms.mapM fun m => (item m.2).map (m.1, ·)).map OrderedMap.ofList

/-- A value that may be null. -/
def optionalOf? (item : Json → Option α) : Json → Option (Option α)
  | .null => some none
  | v => (item v).map some

/-- What the member of a name comes to, if there is one. -/
def memberOf? (item : Json → Option α) (name : String) (ms : List (String × Json)) :
    Option (Option α) :=
  match ms.lookup name with
  | none => some none
  | some v => (item v).map some

theorem lookup_eq_none_of_notMem {name : String} {ms : List (String × Json)}
    (h : name ∉ ms.map Prod.fst) : ms.lookup name = none := by
  rw [List.lookup_eq_none_iff]
  intro m hm
  rw [bne_iff_ne]
  rintro rfl
  exact h (List.mem_map_of_mem hm)

theorem memberOf?_of_lookup {item : Json → Option α} {name : String} {ms : List (String × Json)}
    {v : Json} {a : α} (h : ms.lookup name = some v) (hv : item v = some a) :
    memberOf? item name ms = some (some a) := by
  simp only [memberOf?, h, hv, Option.map_some]

theorem memberOf?_of_notMem {item : Json → Option α} {name : String} {ms : List (String × Json)}
    (h : name ∉ ms.map Prod.fst) : memberOf? item name ms = some none := by
  rw [memberOf?, lookup_eq_none_of_notMem h]

theorem memberOf?_cons_self {item : Json → Option α} {name : String} {v : Json}
    {ms : List (String × Json)} :
    memberOf? item name ((name, v) :: ms) = (item v).map some := by
  rw [memberOf?, List.lookup_cons_self]

theorem memberOf?_cons_ne {item : Json → Option α} {name name' : String} {v : Json}
    {ms : List (String × Json)} (h : name ≠ name') :
    memberOf? item name ((name', v) :: ms) = memberOf? item name ms := by
  rw [memberOf?, memberOf?, List.lookup_cons, beq_false_of_ne h]

end ApiProto.Json
