/-
  The words of a name, and the four ways to write them together.

  A name is cut at every character that is neither letter nor number.  Within a segment a word
  ends between a lower-case letter (digits may follow it) and a capital, and before the last
  capital of a run of capitals that a lower-case letter follows: `getHTTPResponse2` has the words
  `get`, `HTTP` and `Response2`.  The joined forms keep the words and change only their case and
  what stands between them.
-/
import ApiProto.Text.Alphabetic
import ApiProto.Text.Numeric
import ApiProto.Text.CaseMap

namespace ApiProto.Text

/-- Whether the character can be part of a word. -/
def isWordChar (c : Char) : Bool := isAlphabetic c || isNumeric c

/-! ## Segments -/

/-- Puts a character in front of the first segment. -/
def extendFirst (c : Char) : List (List Char) → List (List Char)
  | [] => [[c]]
  | w :: ws => (c :: w) :: ws

/-- The longest stretches of word characters, in order. -/
def segments : List Char → List (List Char)
  | [] => []
  | c :: rest =>
    if isWordChar c then
      if rest.head?.any isWordChar then extendFirst c (segments rest) else [c] :: segments rest
    else segments rest

/-! ## Words -/

/-- The case of the last cased character of the word that is being read. -/
inductive Hump where
  | none
  | lower
  | upper
  deriving DecidableEq, Repr

/-- The hump after one more character. -/
def Hump.next (h : Hump) (c : Char) : Hump :=
  if isLower c then .lower else if isUpper c then .upper else h

/-- Cuts the rest of a segment into words, `word` being what has been read of the first. -/
def splitHumps : Hump → List Char → List Char → List (List Char)
  | _, word, [] => [word]
  | _, word, [c] => [word ++ [c]]
  | h, word, c :: d :: rest =>
    if h.next c = .lower ∧ isUpper d then (word ++ [c]) :: splitHumps .none [] (d :: rest)
    else if h = .upper ∧ isUpper c ∧ isLower d then word :: splitHumps .none [c] (d :: rest)
    else splitHumps (h.next c) (word ++ [c]) (d :: rest)

/-- The words of a name. -/
def words (s : List Char) : List (List Char) :=
  (segments s).flatMap (splitHumps .none [])

/-! ## Words written together -/

/-- A word in lower case; a capital sigma at its very end takes the final form. -/
def lowerWord : List Char → List Char
  | [] => []
  | [c] => if c = 'Σ' then ['ς'] else lowerChar c
  | c :: rest => lowerChar c ++ lowerWord rest

/-- A word in lower case but for its first character. -/
def capitalize : List Char → List Char
  | [] => []
  | c :: rest => upperChar c ++ lowerWord rest

/-- The words capitalized, with nothing between them. -/
def pascalCase (s : List Char) : List Char := (words s).flatMap capitalize

/-- As `pascalCase`, with the first word in lower case. -/
def camelCase (s : List Char) : List Char :=
  match words s with
  | [] => []
  | w :: ws => lowerWord w ++ ws.flatMap capitalize

/-- The words in lower case with a separator between them. -/
def joinLower (sep : Char) (s : List Char) : List Char :=
  [sep].intercalate ((words s).map lowerWord)

/-- The words in lower case, joined by underscores. -/
def snakeCase (s : List Char) : List Char := joinLower '_' s

/-- The words in lower case, joined by hyphens. -/
def kebabCase (s : List Char) : List Char := joinLower '-' s

end ApiProto.Text
