/-
  Text between double quotes, as messages show it.

  Quotes, backslashes and the common controls are escaped by a backslash; any other character that
  cannot be shown as it is appears as its code point, `\u{301}`.
-/
import ApiProto.Text.Visible

namespace ApiProto.Text

/-- A number in lower-case hexadecimal digits. -/
def hexDigits (n : Nat) : List Char := Nat.toDigits 16 n

/-- How a character appears between quotes. -/
def quoteChar (c : Char) : List Char :=
  if c.toNat = 0 then ['\\', '0']
  else if c = '\t' then ['\\', 't']
  else if c = '\r' then ['\\', 'r']
  else if c = '\n' then ['\\', 'n']
  else if c = '\\' ∨ c = '"' then ['\\', c]
  else if isVisible c then [c]
  else ['\\', 'u', '{'] ++ hexDigits c.toNat ++ ['}']

/-- The text between double quotes. -/
def quoted (s : List Char) : List Char := '"' :: s.flatMap quoteChar ++ ['"']

end ApiProto.Text
