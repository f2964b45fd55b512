/-
  Text of JSON values, compact and indented.

  The compact text has no blanks.  The indented text puts every item and member on a line of its
  own, two spaces deeper than what holds it; an array or object without any stays `[]` or `{}`.
-/
import ApiProto.Json.Value

namespace ApiProto.Json

/-- A digit of a code point's four-digit hexadecimal form. -/
def hexDigit (n : Nat) (place : Nat) : Char := Nat.digitChar (n / Nat.pow 16 place % 16)

/-- How a character is written inside a string: quotes, backslashes and controls are escaped. -/
def escapeChar (c : Char) : List Char :=
  if c = '"' ∨ c = '\\' then ['\\', c]
  else if c.toNat = 0x08 then ['\\', 'b']
  else if c.toNat = 0x09 then ['\\', 't']
  else if c.toNat = 0x0A then ['\\', 'n']
  else if c.toNat = 0x0C then ['\\', 'f']
  else if c.toNat = 0x0D then ['\\', 'r']
  else if c.toNat < 0x20 then ['\\', 'u', '0', '0', hexDigit c.toNat 1, hexDigit c.toNat 0]
  else [c]

/-- The text of a string. -/
def writeString (s : String) : List Char := '"' :: s.toList.flatMap escapeChar ++ ['"']

/-- The items between two brackets, with commas. -/
def bracket (opening closing : Char) (items : List (List Char)) : List Char :=
  opening :: [','].intercalate items ++ [closing]

mutual

/-- The compact text of a value. -/
def write : Json → List Char
  | .null => "null".toList
  | .bool true => "true".toList
  | .bool false => "false".toList
  | .number n => n.text.toList
  | .string s => writeString s
  | .array items => bracket '[' ']' (writeItems items)
  | .object members => bracket '\x7b' '\x7d' (writeMembers members)

/-- The compact texts of items. -/
def writeItems : List Json → List (List Char)
  | [] => []
  | v :: rest => write v :: writeItems rest

/-- The compact texts of members. -/
def writeMembers : List (String × Json) → List (List Char)
  | [] => []
  | (k, v) :: rest => (writeString k ++ ':' :: write v) :: writeMembers rest

end

/-- A line break and the indentation of a depth. -/
def breakLine (depth : Nat) : List Char := '\n' :: List.replicate (2 * depth) ' '

/-- The items between two brackets, each on a line of its own. -/
def bracketLines (depth : Nat) (opening closing : Char) : List (List Char) → List Char
  | [] => [opening, closing]
  | item :: items =>
    opening :: breakLine (depth + 1) ++ (',' :: breakLine (depth + 1)).intercalate (item :: items)
      ++ breakLine depth ++ [closing]

mutual

/-- The indented text of a value that stands at a depth. -/
def writeIndented (depth : Nat) : Json → List Char
  | .array items => bracketLines depth '[' ']' (indentedItems (depth + 1) items)
  | .object members => bracketLines depth '\x7b' '\x7d' (indentedMembers (depth + 1) members)
  | v => write v

/-- The indented texts of items. -/
def indentedItems (depth : Nat) : List Json → List (List Char)
  | [] => []
  | v :: rest => writeIndented depth v :: indentedItems depth rest

/-- The indented texts of members. -/
def indentedMembers (depth : Nat) : List (String × Json) → List (List Char)
  | [] => []
  | (k, v) :: rest =>
    (writeString k ++ ':' :: ' ' :: writeIndented depth v) :: indentedMembers depth rest

end

/-- The compact text of a value. -/
def compact (v : Json) : String := String.ofList (write v)

/-- The indented text of a value. -/
def pretty (v : Json) : String := String.ofList (writeIndented 0 v)

end ApiProto.Json
