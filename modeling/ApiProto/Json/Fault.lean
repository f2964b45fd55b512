/-
  Faults of a JSON text: what is wrong, and after how many bytes that was seen.

  A fault is one of the shape if the text is JSON as far as it was read but a value is not of the
  kind that its place asks for; every other fault is one of the spelling.
-/
import ApiProto.Json.Value
import ApiProto.Text.Quoted
import ApiProto.Text.Place

namespace ApiProto.Json

/-- The kind of a value that was found, with the value itself if it is a scalar. -/
inductive Found where
  | null
  | boolean (b : Bool)
  | number (n : Number)
  | string (s : String)
  | sequence
  | map
  deriving DecidableEq, Repr

/-- The kind of a value. -/
def found : Json → Found
  | .null => .null
  | .bool b => .boolean b
  | .number n => .number n
  | .string s => .string s
  | .array _ => .sequence
  | .object _ => .map

/-- The kind of value that a place asks for: an object with fixed members, one with any members, an
array, a string or a truth value. -/
inductive Expected where
  | object
  | map
  | sequence
  | string
  | boolean
  deriving DecidableEq, Repr

/-- What is wrong. -/
inductive Cause where
  | endInArray
  | endInObject
  | endInString
  | endInValue
  | expectedColon
  | expectedCommaOrBracket
  | expectedCommaOrBrace
  | expectedWord
  | expectedValue
  | badEscape
  | badNumber
  | numberOutOfRange
  | controlInString
  | nameNotString
  | loneSurrogate
  | halfPair
  | trailingComma
  | trailingText
  | tooDeep
  | mismatch (seen : Found) (expected : Expected)
  | repeatedMember (name : String)
  | missingMember (name : String)
  deriving DecidableEq, Repr

/-- A cause and the number of bytes of the text that had been read. -/
structure Fault where
  cause : Cause
  offset : Nat
  deriving DecidableEq, Repr

/-! ## Wording -/

/-- A text between backquotes. -/
def backquoted (s : String) : String := "`" ++ s ++ "`"

/-- The wording of a kind that was found. -/
def Found.text : Found → String
  | .null => "null"
  | .boolean b => "boolean " ++ backquoted (if b then "true" else "false")
  | .number (.integer n) => "integer " ++ backquoted (Number.text (.integer n))
  | .number (.float x) => "floating point " ++ backquoted (Number.text (.float x))
  | .string s => "string " ++ String.ofList (Text.quoted s.toList)
  | .sequence => "sequence"
  | .map => "map"

/-- The wording of a kind that is asked for. -/
def Expected.text : Expected → String
  | .object => "a JSON object"
  | .map => "a map"
  | .sequence => "a sequence"
  | .string => "a string"
  | .boolean => "a boolean"

/-- The wording of a value of the wrong kind. -/
def mismatchText (seen : Found) (expected : Expected) : String :=
  "invalid type: " ++ seen.text ++ ", expected " ++ expected.text

/-- The wording of a cause. -/
def Cause.text : Cause → String
  | .endInArray => "EOF while parsing a list"
  | .endInObject => "EOF while parsing an object"
  | .endInString => "EOF while parsing a string"
  | .endInValue => "EOF while parsing a value"
  | .expectedColon => "expected `:`"
  | .expectedCommaOrBracket => "expected `,` or `]`"
  | .expectedCommaOrBrace => "expected `,` or `\x7d`"
  | .expectedWord => "expected ident"
  | .expectedValue => "expected value"
  | .badEscape => "invalid escape"
  | .badNumber => "invalid number"
  | .numberOutOfRange => "number out of range"
  | .controlInString => "control character (\\u0000-\\u001F) found while parsing a string"
  | .nameNotString => "key must be a string"
  | .loneSurrogate => "lone leading surrogate in hex escape"
  | .halfPair => "unexpected end of hex escape"
  | .trailingComma => "trailing comma"
  | .trailingText => "trailing characters"
  | .tooDeep => "recursion limit exceeded"
  | .mismatch seen expected => mismatchText seen expected
  | .repeatedMember name => "duplicate field " ++ backquoted name
  | .missingMember name => "missing field " ++ backquoted name

/-- Whether the fault is one of the shape. -/
def Cause.isShape : Cause → Bool
  | .mismatch .. | .repeatedMember _ | .missingMember _ => true
  | _ => false

/-- The wording of a cause with the position at which it was seen. -/
def Cause.textAt (cause : Cause) (p : Text.Position) : String :=
  cause.text ++ " at line " ++ toString p.line ++ " column " ++ toString p.column

end ApiProto.Json
