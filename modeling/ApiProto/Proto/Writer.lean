/-
  Writers of nested blocks.

  A `BlockSink` takes lines and may open and close blocks.  A `Writer` gathers the lines: each line
  that is not empty is indented by the depth of the block it stands in; a block opens with a header
  and a brace, and closes with a brace at the depth of its header.  Closing a block that was never
  opened leaves the depth at zero.  A `StrictWriter` gathers the same lines as long as every block
  is closed from depth one, and is lost otherwise.
-/
import ApiProto.Settings.Basic

namespace ApiProto.Proto

/-- What a text is written to, line by line and block by block. -/
class BlockSink (W : Type) where
  /-- Appends a line. -/
  line : W → String → W
  /-- Appends an empty line if the condition holds. -/
  blank : W → Bool → W
  /-- Opens a block. -/
  openBlock : W → String → W
  /-- Closes the innermost block. -/
  closeBlock : W → W

namespace BlockSink

variable {W α : Type}

/-- Writes every item with its index, counted from `i`. -/
def eachFrom (w : W) (emit : W → Nat → α → W) : Nat → List α → W
  | _, [] => w
  | i, x :: rest => eachFrom (emit w i x) emit (i + 1) rest

/-- Writes every item with its index, counted from zero. -/
def each (w : W) (items : List α) (emit : W → Nat → α → W) : W := eachFrom w emit 0 items

end BlockSink

/-- Lines written so far, and the depth of the block that is open. -/
structure Writer where
  width : Nat
  depth : Nat
  lines : Array String
  deriving DecidableEq, Repr

namespace Writer

/-- A writer without lines.  Every width is taken, and a width alone makes no spaces: that spaces
might not fit into memory is not modelled. -/
def start (width : Nat) : Writer := ⟨width, 0, #[]⟩

/-- `n` spaces, however many they are; no limit is set to the length of a text. -/
def spaces (n : Nat) : String := String.ofList (List.replicate n ' ')

/-- A text as a line of the open block; an empty one is not indented. -/
def indented (w : Writer) (text : String) : String :=
  if text = "" then "" else spaces (w.depth * w.width) ++ text

/-- Appends a line. -/
def line (w : Writer) (text : String) : Writer := { w with lines := w.lines.push (w.indented text) }

/-- Appends an empty line if the condition holds. -/
def blank (w : Writer) (condition : Bool) : Writer := if condition then w.line "" else w

/-- Opens a block. -/
def openBlock (w : Writer) (header : String) : Writer :=
  { w.line (header ++ " \x7b") with depth := w.depth + 1 }

/-- Closes the innermost block. -/
def closeBlock (w : Writer) : Writer :=
  ({ w with depth := w.depth - 1 } : Writer).line "\x7d"

instance : BlockSink Writer := ⟨line, blank, openBlock, closeBlock⟩

/-- Writes every item with its index, counted from zero. -/
def each {α : Type} (w : Writer) (items : List α) (emit : Writer → Nat → α → Writer) : Writer :=
  BlockSink.each w items emit

/-- The text: every line with a line break behind it. -/
def text (w : Writer) : String := w.lines.foldl (fun s l => s ++ l ++ "\n") ""

end Writer

/-! ## Strict writers -/

/-- A writer that is lost, for good, once a block is closed while the depth is not one. -/
def StrictWriter := Option Writer

namespace StrictWriter

/-- The strict writer that has gathered what a writer has. -/
def ofWriter (w : Writer) : StrictWriter := some w

/-- Closes the block at depth one. -/
def closeBlock (w : StrictWriter) : StrictWriter :=
  Option.bind w fun w => if w.depth = 1 then some w.closeBlock else none

instance : BlockSink StrictWriter where
  line w text := Option.map (·.line text) w
  blank w condition := Option.map (·.blank condition) w
  openBlock w header := Option.map (·.openBlock header) w
  closeBlock := closeBlock

end StrictWriter

end ApiProto.Proto
