/-
  Settings files: TOML documents with the tables `emit` (with `indent_width`) and `messages` (with
  `deduplicate`), of which each may be missing.

  An array in place of one of these tables gives the values in order, and what follows them in the
  array is not looked at.  Other keys do not count, but their numbers have to be numbers and to fit:
  integers 128 bits, all others the range of doubles.
-/
import ApiProto.Settings.Basic
import ApiProto.Toml.Document

namespace ApiProto.Settings

open Toml (Value Entries)

/-! ## Keys that do not count -/

/-- Whether a number with a point or an exponent is within the range of doubles. -/
def fitsDouble : Toml.Real → Bool
  | .infinite _ | .nan => true
  | .finite _ d =>
    let places : Int := Int.ofNat (Nat.toDigits 10 d.digits).length + d.exponent
    if d.digits = 0 ∨ places < -400 then true
    else if 400 < places then false
    else if 0 ≤ d.exponent then
      (Magnitude.roundRatio (d.digits * Nat.pow 10 d.exponent.toNat) 1).isSome
    else (Magnitude.roundRatio d.digits (Nat.pow 10 (-d.exponent).toNat)).isSome

/-- The smallest integer. -/
def minInteger : Int := -Int.ofNat (Nat.pow 2 127)

/-- The largest integer. -/
def maxInteger : Int := Int.ofNat (Nat.pow 2 128 - 1)

mutual

/-- Whether all numbers in a value fit. -/
def fits : Value → Bool
  | .integer n => minInteger ≤ n && n ≤ maxInteger
  | .noInteger => false
  | .real x => fitsDouble x
  | .array items => allFit items
  | .table _ entries => entriesFit entries
  | .tables elements => elementsFit elements
  | .string _ | .boolean _ | .dateTime => true

/-- Whether all numbers in some values fit. -/
def allFit : List Value → Bool
  | [] => true
  | v :: rest => fits v && allFit rest

/-- Whether all numbers in a table fit. -/
def entriesFit : List (String × Value) → Bool
  | [] => true
  | (_, v) :: rest => fits v && entriesFit rest

/-- Whether all numbers in some tables fit. -/
def elementsFit : List (List (String × Value)) → Bool
  | [] => true
  | es :: rest => entriesFit es && elementsFit rest

end

/-! ## Keys that count -/

/-- The widest indentation. -/
def maxIndentWidth : Nat := Nat.pow 2 64 - 1

/-- A width of indentation. -/
def readWidth : Value → Option Nat
  | .integer n => if 0 ≤ n ∧ n ≤ maxIndentWidth then some n.toNat else none
  | _ => none

/-- A truth value. -/
def readFlag : Value → Option Bool
  | .boolean b => some b
  | _ => none

/-- The value of a key of a table; a missing key gives the default. -/
def readKey {α : Type} (key : String) (read : Value → Option α) (default : α) (entries : Entries) :
    Option α :=
  if entriesFit (entries.filter (·.1 ≠ key)) then
    match entries.lookup key with
    | none => some default
    | some v => read v
  else none

/-- The value of the only key of a section.  A date in place of the section has no key. -/
def readSection {α : Type} (key : String) (read : Value → Option α) (default : α) :
    Value → Option α
  | .table _ entries => readKey key read default entries
  | .array [] => some default
  | .array (v :: _) => read v
  | .dateTime => some default
  | _ => none

/-- The settings of a document. -/
def ofEntries (entries : Entries) : Option Settings :=
  if entriesFit (entries.filter fun e => e.1 ≠ "emit" && e.1 ≠ "messages") then do
    let width ← match entries.lookup "emit" with
      | none => some defaultIndentWidth
      | some v => readSection "indent_width" readWidth defaultIndentWidth v
    let flag ← match entries.lookup "messages" with
      | none => some false
      | some v => readSection "deduplicate" readFlag false v
    some ⟨width, flag⟩
  else none

/-- The settings that a text holds. -/
def read (source : String) : Option Settings := (Toml.read source).bind ofEntries

end ApiProto.Settings
