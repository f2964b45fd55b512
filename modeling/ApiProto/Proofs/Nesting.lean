/-
  Calls on a writer, at any depth.

  A call (`SinkCall`) is a step or a loop whose rounds make calls of their own, so calls amount to
  steps (`runAll_eq_runAll`), and one lemma says all that a step does to a writer (`run_writer`).
  Where steps never close more blocks than they opened, a writer at any depth does what a fresh one
  does, further in: `placed` puts what a fresh writer has gathered behind that of another one, and
  every step commutes with it (`run_placed`).  A closing that has nothing to close leaves the depth
  at zero, so the depth is the most that a suffix of the steps opens and does not close
  (`isGreatest_depth`).  Lines, once there, stay.
-/
import ApiProto.Proofs.Writing
import Mathlib.Data.List.Infix
import Mathlib.Order.Bounds.Basic
import Mathlib.Order.MinMax

namespace ApiProto.Proto

/-! ## Calls -/

/-- What a sink is asked to do at once. -/
inductive SinkStep where
  | line (text : String)
  | blank (condition : Bool)
  | openBlock (header : String)
  | closeBlock
  deriving DecidableEq, Repr

/-- A call on a sink: a step, or a loop over items.  A round of it makes calls that depend on the
index and the item. -/
inductive SinkCall : Type 1 where
  | step (s : SinkStep)
  | each {α : Type} (items : List α) (round : Nat → α → List SinkCall)

namespace SinkStep

/-- Takes the step. -/
def run {W : Type} [BlockSink W] : SinkStep → W → W
  | .line text, w => BlockSink.line w text
  | .blank condition, w => BlockSink.blank w condition
  | .openBlock header, w => BlockSink.openBlock w header
  | .closeBlock, w => BlockSink.closeBlock w

/-- Takes the steps in order. -/
def runAll {W : Type} [BlockSink W] (ss : List SinkStep) (w : W) : W :=
  ss.foldl (fun w s => s.run w) w

/-- Whether the step opens a block. -/
def isOpening : SinkStep → Bool
  | .openBlock _ => true
  | _ => false

/-- Whether the step closes a block. -/
def isClosing : SinkStep → Bool
  | .closeBlock => true
  | _ => false

end SinkStep

namespace SinkCall

mutual

/-- Makes a call. -/
def run {W : Type} [BlockSink W] : SinkCall → W → W
  | .step s, w => s.run w
  | .each items round, w => BlockSink.each w items fun w i x => runAll (round i x) w

/-- Makes the calls in order. -/
def runAll {W : Type} [BlockSink W] : List SinkCall → W → W
  | [], w => w
  | c :: cs, w => runAll cs (run c w)

end

mutual

/-- The steps of a call: those of a loop are the steps of its rounds. -/
def steps : SinkCall → List SinkStep
  | .step s => [s]
  | .each items round => items.zipIdx.flatMap fun p => stepsAll (round p.2 p.1)

/-- The steps of calls in order. -/
def stepsAll : List SinkCall → List SinkStep
  | [] => []
  | c :: cs => steps c ++ stepsAll cs

end

end SinkCall

/-! ## Calls as steps -/

theorem SinkStep.runAll_append {W : Type} [BlockSink W] (ss ts : List SinkStep) (w : W) :
    runAll (ss ++ ts) w = runAll ts (runAll ss w) :=
  List.foldl_append

/-- A loop takes the steps of its rounds, if each round takes its own. -/
theorem eachFrom_eq_runAll {W α : Type} [BlockSink W] {emit : W → Nat → α → W}
    {steps : Nat → α → List SinkStep}
    (h : ∀ i x w, emit w i x = SinkStep.runAll (steps i x) w) (i : Nat) (items : List α) (w : W) :
    BlockSink.eachFrom w emit i items
      = SinkStep.runAll ((items.zipIdx i).flatMap fun p => steps p.2 p.1) w := by
  induction items generalizing i w with
  | nil => rfl
  | cons x rest ih =>
      rw [BlockSink.eachFrom, h, ih, List.zipIdx_cons, List.flatMap_cons, SinkStep.runAll_append]

namespace SinkCall

variable {W : Type} [BlockSink W]

mutual

theorem run_eq_runAll (c : SinkCall) (w : W) : c.run w = SinkStep.runAll c.steps w := by
  match c with
  | .step s => rfl
  | .each items round =>
      rw [run, steps]
      exact eachFrom_eq_runAll (fun i x w => runAll_eq_runAll (round i x) w) 0 items w

/-- Calls do what their steps do. -/
theorem runAll_eq_runAll (cs : List SinkCall) (w : W) :
    runAll cs w = SinkStep.runAll (stepsAll cs) w := by
  match cs with
  | [] => rfl
  | c :: cs =>
      rw [runAll, stepsAll, SinkStep.runAll_append, ← run_eq_runAll c w, runAll_eq_runAll cs]

end

end SinkCall

/-! ## Steps of a writer -/

namespace SinkStep

/-- The line that a step writes, if it writes one. -/
def text? : SinkStep → Option String
  | .line text => some text
  | .blank condition => if condition then some "" else none
  | .openBlock header => some (header ++ " \x7b")
  | .closeBlock => some "\x7d"

/-- The depth at which that line stands, by the depth before the step. -/
def lineDepth : SinkStep → Nat → Nat
  | .closeBlock, depth => depth - 1
  | _, depth => depth

/-- The depth behind a step, by the depth before it. -/
def depthAfter : SinkStep → Nat → Nat
  | .openBlock _, depth => depth + 1
  | .closeBlock, depth => depth - 1
  | _, depth => depth

/-- All that a step does to a writer: it may set the depth, and it may append a line. -/
theorem run_writer (s : SinkStep) (w : Writer) :
    s.run w = ⟨w.width, s.depthAfter w.depth, w.lines
      ++ (s.text?.map (Writer.mk w.width (s.lineDepth w.depth) w.lines).indented).toArray⟩ := by
  cases s with
  | line text => exact congrArg (Writer.mk w.width w.depth) (Array.push_eq_append ..)
  | blank condition =>
      cases condition with
      | false => exact congrArg (Writer.mk w.width w.depth) Array.append_empty.symm
      | true => exact congrArg (Writer.mk w.width w.depth) (Array.push_eq_append ..)
  | openBlock header => exact congrArg (Writer.mk w.width (w.depth + 1)) (Array.push_eq_append ..)
  | closeBlock => exact congrArg (Writer.mk w.width (w.depth - 1)) (Array.push_eq_append ..)

theorem depth_runAll_append_singleton (ss : List SinkStep) (s : SinkStep) (w : Writer) :
    (runAll (ss ++ [s]) w).depth = s.depthAfter (runAll ss w).depth := by
  rw [runAll_append]
  exact congrArg Writer.depth (s.run_writer (runAll ss w))

theorem width_runAll (ss : List SinkStep) (w : Writer) : (runAll ss w).width = w.width := by
  induction ss generalizing w with
  | nil => rfl
  | cons s ss ih =>
      have hstep : (s.run w).width = w.width := by rw [run_writer]
      exact (ih (s.run w)).trans hstep

/-- What has been written stays in front of what steps add. -/
theorem lines_prefix_runAll (ss : List SinkStep) (w : Writer) :
    w.lines.toList <+: (runAll ss w).lines.toList := by
  induction ss generalizing w with
  | nil => exact List.prefix_rfl
  | cons s ss ih =>
      have hstep : w.lines.toList <+: (s.run w).lines.toList := by
        rw [run_writer, Array.toList_append]
        exact List.prefix_append _ _
      exact hstep.trans (ih (s.run w))

end SinkStep

theorem Writer.text_prefix {v w : Writer} (h : v.lines.toList <+: w.lines.toList) :
    v.text.toList <+: w.text.toList := by
  obtain ⟨ls, hls⟩ := h
  rw [text_eq_join, text_eq_join, ← hls, List.map_append, String.join_append, String.toList_append]
  exact List.prefix_append _ _

/-! ## The depth behind steps -/

/-- How many blocks steps open. -/
def opens (ss : List SinkStep) : Nat := ss.countP SinkStep.isOpening

/-- How many blocks steps close. -/
def closes (ss : List SinkStep) : Nat := ss.countP SinkStep.isClosing

theorem opens_append (ss ts : List SinkStep) : opens (ss ++ ts) = opens ss + opens ts :=
  List.countP_append

theorem closes_append (ss ts : List SinkStep) : closes (ss ++ ts) = closes ss + closes ts :=
  List.countP_append

/-- A step moves the depth as it opens or closes, but not below zero. -/
theorem natCast_depthAfter (s : SinkStep) (depth : Nat) :
    (s.depthAfter depth : ℤ) = max 0 (depth + (opens [s] : ℤ) - closes [s]) := by
  rw [opens, closes, List.countP_singleton, List.countP_singleton]
  cases s with
  | line | blank => simp [SinkStep.depthAfter, SinkStep.isOpening, SinkStep.isClosing]
  | openBlock | closeBlock =>
      simp [SinkStep.depthAfter, SinkStep.isOpening, SinkStep.isClosing]
      omega

/-- What the suffixes of steps open, less what they close. -/
def balances (ss : List SinkStep) : Set ℤ :=
  {n | ∃ t, t <:+ ss ∧ n = (opens t : ℤ) - closes t}

/-- The depth behind steps on a fresh writer is the greatest balance of their suffixes. -/
theorem isGreatest_depth (width : Nat) (ss : List SinkStep) :
    IsGreatest (balances ss) (SinkStep.runAll ss (Writer.start width)).depth := by
  -- by the last step: it moves the depth and the balance of every suffix but the empty one alike
  induction ss using List.reverseRecOn with
  | nil =>
      refine ⟨⟨[], List.suffix_rfl, rfl⟩, ?_⟩
      rintro n ⟨t, ht, rfl⟩
      rw [List.suffix_nil.mp ht]
      rfl
  | append_singleton ss s ih =>
      obtain ⟨⟨t, ht, hdepth⟩, hgreatest⟩ := ih
      rw [SinkStep.depth_runAll_append_singleton, natCast_depthAfter]
      constructor
      · rcases max_choice 0 (((SinkStep.runAll ss (Writer.start width)).depth : ℤ)
          + (opens [s] : ℤ) - closes [s]) with hmax | hmax
        · exact ⟨[], List.nil_suffix, hmax⟩
        · refine ⟨t ++ [s], List.suffix_concat_iff.mpr (.inr ⟨t, rfl, ht⟩), ?_⟩
          rw [hmax, hdepth, opens_append, closes_append]
          omega
      · rintro n ⟨u, hu, rfl⟩
        rcases List.suffix_concat_iff.mp hu with rfl | ⟨v, rfl, hv⟩
        · exact le_max_left _ _
        · have hle := hgreatest ⟨v, hv, rfl⟩
          rw [opens_append, closes_append]
          omega

/-- At no point have more blocks been closed than opened. -/
def NeverOverclosed (ss : List SinkStep) : Prop := ∀ p, p <+: ss → closes p ≤ opens p

instance (ss : List SinkStep) : Decidable (NeverOverclosed ss) :=
  decidable_of_iff (∀ p ∈ ss.inits, closes p ≤ opens p) <| by
    simp only [List.mem_inits, NeverOverclosed]

theorem NeverOverclosed.of_prefix {ss ts : List SinkStep} (h : NeverOverclosed ts)
    (hbefore : ss <+: ts) : NeverOverclosed ss :=
  fun p hp => h p (hp.trans hbefore)

/-- Where a block is closed, one is open. -/
theorem NeverOverclosed.depth_pos {ss : List SinkStep} {s : SinkStep}
    (h : NeverOverclosed (ss ++ [s])) (hs : s.isClosing) (width : Nat) :
    0 < (SinkStep.runAll ss (Writer.start width)).depth := by
  have hle := (isGreatest_depth width ss).2 ⟨ss, List.suffix_rfl, rfl⟩
  have hbalance := h (ss ++ [s]) List.prefix_rfl
  obtain rfl : s = .closeBlock := by
    cases s with
    | closeBlock => rfl
    | line | blank | openBlock => cases hs
  have hopens : opens [SinkStep.closeBlock] = 0 := rfl
  have hcloses : closes [SinkStep.closeBlock] = 1 := rfl
  rw [opens_append, closes_append] at hbalance
  omega

/-! ## A fresh writer behind another one -/

namespace Writer

/-- What a writer has gathered, behind what another one has and in its open block. -/
def placed (w v : Writer) : Writer :=
  ⟨w.width, w.depth + v.depth, w.lines ++ v.lines.map w.indented⟩

theorem placed_start (w : Writer) : w.placed (start w.width) = w := by
  simp [placed, start]

/-- A line gets the spaces for the blocks of the outer writer and those for the inner one's. -/
theorem indented_add (width outer inner : Nat) (ls ms ns : Array String) :
    (mk width (outer + inner) ls).indented
      = (mk width outer ms).indented ∘ (mk width inner ns).indented := by
  funext l
  by_cases h : l = ""
  · simp [indented, h]
  · simp [indented, h, Nat.add_mul, spaces_add, String.append_assoc]

/-- A step that closes no block of the outer writer does to both what it does to the inner one. -/
theorem run_placed {w v : Writer} (hwidth : v.width = w.width) {s : SinkStep}
    (hs : s.isClosing → 0 < v.depth) : s.run (w.placed v) = w.placed (s.run v) := by
  -- only a closing step looks at the depth, and there the inner one is not zero
  obtain ⟨hafter, hline⟩ : s.depthAfter (w.depth + v.depth) = w.depth + s.depthAfter v.depth ∧
      s.lineDepth (w.depth + v.depth) = w.depth + s.lineDepth v.depth := by
    cases s with
    | line | blank | openBlock => exact ⟨rfl, rfl⟩
    | closeBlock =>
        have hsub := Nat.add_sub_assoc (hs rfl) w.depth
        exact ⟨hsub, hsub⟩
  rw [SinkStep.run_writer, SinkStep.run_writer, hwidth]
  show mk w.width (s.depthAfter (w.depth + v.depth)) (w.lines ++ v.lines.map w.indented
    ++ (s.text?.map (mk w.width (s.lineDepth (w.depth + v.depth)) _).indented).toArray) = _
  rw [hafter, hline, indented_add w.width w.depth (s.lineDepth v.depth) _ w.lines v.lines]
  cases s.text? <;> simp [placed]

/-- Steps that close only their own blocks do at any depth what they do on a fresh writer. -/
theorem runAll_eq_placed (w : Writer) {ss : List SinkStep} (h : NeverOverclosed ss) :
    SinkStep.runAll ss w = w.placed (SinkStep.runAll ss (start w.width)) := by
  induction ss using List.reverseRecOn with
  | nil => exact w.placed_start.symm
  | append_singleton ss s ih =>
      rw [SinkStep.runAll_append, ih (NeverOverclosed.of_prefix h (List.prefix_append ss [s])),
        SinkStep.runAll_append]
      have hwidth : (SinkStep.runAll ss (start w.width)).width = w.width :=
        SinkStep.width_runAll ss (start w.width)
      exact run_placed hwidth fun hs => h.depth_pos hs w.width

end Writer

/-- **Calls on a writer compose.**  Calls that never close more blocks than they opened append, at
any depth, the lines that they give on a fresh writer, each that is not empty with the spaces of that
depth in front.  Whatever the calls are, the depth behind them on a fresh writer is the greatest
balance of what a suffix of their steps opens and closes, and neither lines nor text from before them
change. -/
theorem Writer.calls_compose :
    (∀ (w : Writer) (cs : List SinkCall), NeverOverclosed (SinkCall.stepsAll cs) →
      SinkCall.runAll cs w =
        { width := w.width
          depth := w.depth + (SinkCall.runAll cs (start w.width)).depth
          lines := w.lines ++ (SinkCall.runAll cs (start w.width)).lines.map fun l =>
            if l = "" then "" else spaces (w.depth * w.width) ++ l }) ∧
      (∀ (width : Nat) (cs : List SinkCall), IsGreatest (balances (SinkCall.stepsAll cs))
        ((SinkCall.runAll cs (start width)).depth : ℤ)) ∧
      ∀ (w : Writer) (cs : List SinkCall),
        w.lines.toList <+: (SinkCall.runAll cs w).lines.toList ∧
          w.text.toList <+: (SinkCall.runAll cs w).text.toList := by
  refine ⟨fun w cs h => ?_, fun width cs => ?_, fun w cs => ?_⟩
  · rw [SinkCall.runAll_eq_runAll, SinkCall.runAll_eq_runAll]
    exact w.runAll_eq_placed h
  · rw [SinkCall.runAll_eq_runAll]
    exact isGreatest_depth width (SinkCall.stepsAll cs)
  · have hlines := SinkStep.lines_prefix_runAll (SinkCall.stepsAll cs) w
    rw [SinkCall.runAll_eq_runAll]
    exact ⟨hlines, text_prefix hlines⟩

/-- An enumeration whose values are written by a loop, with blocks of their own. -/
def paletteCalls : List SinkCall :=
  [.step (.openBlock "enum Palette"),
    .each ["RED", "BLUE"] fun i name =>
      [.step (.blank (0 < i)), .step (.openBlock name),
        .each (List.range (i + 1)) fun j shade => [.step (.line (toString (i + j * shade)))],
        .step .closeBlock],
    .step .closeBlock]

theorem Writer.calls_compose_palette :
    NeverOverclosed (SinkCall.stepsAll paletteCalls) ∧
      SinkCall.runAll paletteCalls (⟨2, 1, #["message Card \x7b", ""]⟩ : Writer) =
        ⟨2, 1, #["message Card \x7b", "", "  enum Palette \x7b",
          "    RED \x7b", "      0", "    \x7d", "",
          "    BLUE \x7b", "      1", "      2", "    \x7d", "  \x7d"]⟩ := by
  have hcalls : NeverOverclosed (SinkCall.stepsAll paletteCalls) := by decide
  refine ⟨hcalls, (calls_compose.1 _ paletteCalls hcalls).trans ?_⟩
  decide +kernel

-- a block that is closed before any is open does not count against the one that is opened next
example : (SinkCall.runAll [.step .closeBlock, .step (.openBlock "enum Palette")]
    (Writer.start 2)).depth = 1 := rfl

end ApiProto.Proto
