/-
  Status keys of responses, and which of them mean success.

  A key means success if, without the white space at its ends, it is a decimal number of 16 bits
  from 200 to 299; a plus sign may come first.
-/
import ApiProto.Text.Blank

namespace ApiProto.Status

/-- The largest status. -/
def maxStatus : Nat := 65535

/-- Appends a decimal digit to a number; none if the character is no digit or the number grows
beyond the largest status. -/
def appendDigit (n : Nat) (c : Char) : Option Nat :=
  if c.isDigit then
    let m := 10 * n + (c.toNat - '0'.toNat)
    if m ≤ maxStatus then some m else none
  else none

/-- The number that a text of digits, and nothing else, stands for. -/
def ofDigits? : List Char → Option Nat
  | [] => none
  | ds => ds.foldlM appendDigit 0

/-- The number that a key stands for. -/
def ofKey? (key : List Char) : Option Nat :=
  match Text.trim key with
  | '+' :: ds => ofDigits? ds
  | ds => ofDigits? ds

/-- Whether the key means success. -/
def isSuccess (key : String) : Bool := (ofKey? key.toList).any fun n => 200 ≤ n && n < 300

end ApiProto.Status
