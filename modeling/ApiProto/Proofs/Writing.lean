/-
  What writing adds.

  Every step of a writer amounts to appending lines at the depth of the open block: `Writer.write`
  is that append.  `Writes` says of a step that it appends given lines, and has one rule for each
  way in which steps are put together: a line, an optional empty line, two steps in a row, a
  block, and a loop.

  The rules hold of every sink that follows the writer (`Follows`): the writer itself, and the
  strict writer, which is lost where a block is closed at another depth than one.  A text that is
  put together by these rules is therefore the same from both.
-/
import ApiProto.Proofs.Lines

namespace ApiProto.Proto

open BlockSink

namespace Writer

/-- Appends lines at the depth of the open block. -/
def write (w : Writer) (ls : List String) : Writer :=
  { w with lines := w.lines ++ (ls.map w.indented).toArray }

theorem lines_write (w : Writer) (ls : List String) :
    (w.write ls).lines = w.lines ++ (ls.map w.indented).toArray := rfl

@[simp] theorem write_nil (w : Writer) : w.write [] = w := by
  simp [write]

/-- Lines that are appended in two portions are appended at once. -/
theorem write_write (w : Writer) (ls ms : List String) :
    (w.write ls).write ms = w.write (ls ++ ms) := by
  have hind : (w.write ls).indented = w.indented := rfl
  have hlines : ((w.write ls).write ms).lines = (w.write (ls ++ ms)).lines := by
    rw [lines_write, lines_write, lines_write, hind, List.map_append, ← List.append_toArray,
      Array.append_assoc]
  exact congrArg (Writer.mk w.width w.depth) hlines

theorem line_eq_write (w : Writer) (text : String) : w.line text = w.write [text] := by
  simp [line, write]

theorem blank_eq_write (w : Writer) (condition : Bool) :
    w.blank condition = w.write (if condition then [""] else []) := by
  cases condition with
  | false => simp [blank]
  | true => simp [blank, line_eq_write]

theorem text_eq_join (w : Writer) : w.text = String.join (w.lines.toList.map (· ++ "\n")) := by
  rw [text, String.join, List.foldl_map, ← Array.foldl_toList]
  simp only [String.append_assoc]

theorem spaces_add (m n : Nat) : spaces (m + n) = spaces m ++ spaces n := by
  rw [spaces, spaces, spaces, ← String.ofList_append, List.replicate_append_replicate]

/-- One level deeper, a line gets the spaces of the level above and those of its body. -/
theorem indented_deeper (w : Writer) (l : String) :
    ({ w with depth := w.depth + 1 } : Writer).indented l = w.indented (bodyLine w.width l) := by
  by_cases h : l = ""
  · simp [indented, bodyLine, h]
  · have hb : bodyLine w.width l ≠ "" := by simpa using h
    rw [indented, indented, if_neg h, if_neg hb, bodyLine, if_neg h]
    rw [Nat.succ_mul, spaces_add, String.append_assoc]

/-- A body between its header and the closing brace is a block. -/
theorem closeBlock_write_openBlock (w : Writer) (header : String) (body : List String) :
    ((w.openBlock header).write body).closeBlock = w.write (block w.width header body) := by
  have hbody : body.map (w.openBlock header).indented
      = (body.map (bodyLine w.width)).map w.indented := by
    rw [List.map_map]
    exact List.map_congr_left fun l _ => indented_deeper w l
  have hopen : (w.openBlock header).lines = w.lines.push (w.indented (header ++ " \x7b")) := rfl
  have hclose : ((w.openBlock header).write body).closeBlock.lines
      = ((w.openBlock header).write body).lines.push (w.indented "\x7d") := rfl
  have hlines : ((w.openBlock header).write body).closeBlock.lines
      = (w.write (block w.width header body)).lines := by
    rw [hclose, lines_write, lines_write, hbody, hopen, block]
    apply Array.toList_inj.mp
    simp
  -- the depth is back at that of the header
  exact congrArg (Writer.mk w.width w.depth) hlines

end Writer

/-! ## Sinks that follow the writer -/

/-- A sink does what the writer does, as long as blocks are closed at depth one. -/
structure Follows {W : Type} [BlockSink W] (ret : Writer → W) : Prop where
  line : ∀ w text, line (ret w) text = ret (w.line text)
  blank : ∀ w condition, blank (ret w) condition = ret (w.blank condition)
  openBlock : ∀ w header, openBlock (ret w) header = ret (w.openBlock header)
  closeBlock : ∀ w : Writer, w.depth = 1 → closeBlock (ret w) = ret w.closeBlock

theorem follows_writer : Follows (fun w : Writer => w) where
  line _ _ := rfl
  blank _ _ := rfl
  openBlock _ _ := rfl
  closeBlock _ _ := rfl

theorem follows_strictWriter : Follows StrictWriter.ofWriter where
  line _ _ := rfl
  blank _ _ := rfl
  openBlock _ _ := rfl
  closeBlock w hw := by
    show (if w.depth = 1 then some w.closeBlock else none) = some w.closeBlock
    rw [if_pos hw]

/-! ## Steps and the lines they append -/

/-- A step appends the lines, wherever it is taken at the depth. -/
def Writes {W : Type} (ret : Writer → W) (width depth : Nat) (step : W → W) (ls : List String) :
    Prop :=
  ∀ w : Writer, w.width = width → w.depth = depth → step (ret w) = ret (w.write ls)

namespace Writes

variable {W α : Type} [BlockSink W] {ret : Writer → W} {width depth : Nat} {f g : W → W}
  {ls ms : List String}

theorem line (h : Follows ret) (text : String) :
    Writes ret width depth (BlockSink.line · text) [text] := by
  intro w _ _
  show BlockSink.line (ret w) text = _
  rw [h.line, Writer.line_eq_write]

theorem blank (h : Follows ret) (condition : Bool) :
    Writes ret width depth (BlockSink.blank · condition) (if condition then [""] else []) := by
  intro w _ _
  show BlockSink.blank (ret w) condition = _
  rw [h.blank, Writer.blank_eq_write]

omit [BlockSink W] in
theorem comp (hf : Writes ret width depth f ls) (hg : Writes ret width depth g ms) :
    Writes ret width depth (fun s => g (f s)) (ls ++ ms) := by
  intro w hwidth hdepth
  show g (f (ret w)) = _
  rw [hf w hwidth hdepth, hg (w.write ls) hwidth hdepth, Writer.write_write]

/-- A block at depth zero is closed at depth one, whatever its body writes. -/
theorem block (h : Follows ret) (header : String) (hf : Writes ret width 1 f ls) :
    Writes ret width 0 (fun s => closeBlock (f (openBlock s header))) (block width header ls) := by
  intro w hwidth hdepth
  have hopen : (w.openBlock header).depth = 1 := congrArg (· + 1) hdepth
  have hbody := hf (w.openBlock header) hwidth hopen
  show closeBlock (f (openBlock (ret w) header)) = _
  rw [h.openBlock, hbody, h.closeBlock ((w.openBlock header).write ls) hopen,
    Writer.closeBlock_write_openBlock, hwidth]

omit [BlockSink W] in
/-- A loop appends what its rounds append, one after the other. -/
theorem eachFrom {emit : W → Nat → α → W} {lines : Nat → α → List String}
    (h : ∀ i x, Writes ret width depth (emit · i x) (lines i x)) (i : Nat) (items : List α) :
    Writes ret width depth (BlockSink.eachFrom · emit i items)
      ((items.zipIdx i).flatMap fun p => lines p.2 p.1) := by
  induction items generalizing i with
  | nil =>
      intro w _ _
      simp [BlockSink.eachFrom]
  | cons x rest ih =>
      rw [List.zipIdx_cons, List.flatMap_cons]
      exact (h i x).comp (ih (i + 1))

omit [BlockSink W] in
theorem each {emit : W → Nat → α → W} {lines : Nat → α → List String}
    (h : ∀ i x, Writes ret width depth (emit · i x) (lines i x)) (items : List α) :
    Writes ret width depth (BlockSink.each · items emit)
      (items.zipIdx.flatMap fun p => lines p.2 p.1) :=
  eachFrom h 0 items

/-- A loop that writes one line a round. -/
theorem eachLine (h : Follows ret) (text : Nat → α → String) (items : List α) :
    Writes ret width depth (BlockSink.each · items fun s i x => BlockSink.line s (text i x))
      (items.zipIdx.map fun p => text p.2 p.1) := by
  have hround : ∀ i x, Writes ret width depth (fun s => BlockSink.line s (text i x)) [text i x] :=
    fun i x => line h (text i x)
  have heach := each hround items
  rwa [← List.map_eq_flatMap] at heach

end Writes

/-! ## Loops that set their parts apart -/

/-- Rounds behind the first begin with an empty line. -/
theorem flatMap_zipIdx_blank {α : Type} (part : α → List String) (items : List α) :
    (items.zipIdx.flatMap fun p => (if 0 < p.2 then [""] else []) ++ part p.1)
      = spaced (items.map part) := by
  have hrest : ∀ (rest : List α) (i : Nat), 0 < i →
      ((rest.zipIdx i).flatMap fun p => (if 0 < p.2 then [""] else []) ++ part p.1)
        = (rest.map part).flatMap fun p => "" :: p := by
    intro rest
    induction rest with
    | nil => intro i _; rfl
    | cons y ys ih =>
        intro i hi
        rw [List.zipIdx_cons, List.flatMap_cons, ih (i + 1) (Nat.succ_pos i)]
        simp [hi]
  cases items with
  | nil => rfl
  | cons x rest =>
      rw [List.zipIdx_cons, List.flatMap_cons, hrest rest 1 Nat.one_pos, List.map_cons, spaced_cons]
      simp

/-- A loop whose rounds begin with an empty line, but for the first, sets its parts apart. -/
theorem Writes.spaced {W α : Type} [BlockSink W] {ret : Writer → W} {width depth : Nat}
    (h : Follows ret) {emit : α → W → W} {part : α → List String}
    (hemit : ∀ x, Writes ret width depth (emit x) (part x)) (items : List α) :
    Writes ret width depth
      (BlockSink.each · items fun s i x => emit x (BlockSink.blank s (0 < i)))
      (spaced (items.map part)) := by
  have hround : ∀ i x, Writes ret width depth (fun s => emit x (BlockSink.blank s (0 < i)))
      ((if 0 < i then [""] else []) ++ part x) := by
    intro i x
    have hblank : Writes ret width depth (BlockSink.blank · (decide (0 < i)))
        (if decide (0 < i) then [""] else []) := Writes.blank h (decide (0 < i))
    simp only [decide_eq_true_eq] at hblank
    exact hblank.comp (hemit x)
  have heach := Writes.each hround items
  rwa [flatMap_zipIdx_blank] at heach

end ApiProto.Proto
