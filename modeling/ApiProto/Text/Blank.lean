/-
  White space: the characters that do not count at either end of a text, those with the Unicode
  property White_Space, and the removal of them.
-/
import ApiProto.Text.CodeRun

namespace ApiProto.Text

/-- Code points from U+0080 on with the property White_Space. -/
def blankRuns : List CodeRun :=
  [⟨0x85, 0x85, 1⟩, ⟨0xA0, 0xA0, 1⟩, ⟨0x1680, 0x1680, 1⟩, ⟨0x2000, 0x200A, 1⟩,
   ⟨0x2028, 0x2029, 1⟩, ⟨0x202F, 0x202F, 1⟩, ⟨0x205F, 0x205F, 1⟩, ⟨0x3000, 0x3000, 1⟩]

/-- Whether the character is white space: below U+0080 the space and the controls from the
horizontal tab to the carriage return. -/
def isBlank (c : Char) : Bool :=
  if c.toNat < 0x80 then c == ' ' || (0x09 ≤ c.toNat && c.toNat ≤ 0x0D)
  else inRuns blankRuns c.toNat

/-- The text without the white space at its two ends. -/
def trim (s : List Char) : List Char :=
  ((s.dropWhile isBlank).reverse.dropWhile isBlank).reverse

end ApiProto.Text
