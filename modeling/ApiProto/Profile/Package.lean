/-
  Package names: one or more identifiers with dots between them.

  An identifier starts with a Latin letter or an underscore, and goes on with these and digits.
-/
import ApiProto.Profile.Basic

namespace ApiProto.Package

/-- Whether an identifier may start with the character. -/
def isStart (c : Char) : Bool := c.isAlpha || c == '_'

/-- Whether an identifier may go on with the character. -/
def isPart (c : Char) : Bool := c.isAlphanum || c == '_'

/-- Whether the text is an identifier. -/
def isIdentifier : List Char → Bool
  | [] => false
  | c :: rest => isStart c && rest.all isPart

/-- The texts between dots. -/
def splitDots : List Char → List (List Char)
  | [] => [[]]
  | c :: rest =>
    if c = '.' then [] :: splitDots rest
    else match splitDots rest with
      | [] => [[c]]
      | s :: ss => (c :: s) :: ss

/-- Whether the text is a package name. -/
def isValid (package : String) : Bool := (splitDots package.toList).all isIdentifier

end ApiProto.Package
