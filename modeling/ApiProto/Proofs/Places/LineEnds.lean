/-
  Columns behind the end of a line.

  A column counts on from the start of its line, whether or not the line has so many bytes.  Behind
  the end of the last line a position is drawn back to it; behind the end of any other line it runs
  on into the lines that follow (`spanAt_isIn_iff`).
-/
import ApiProto.Proofs.Places.Spans
import Mathlib.Data.List.Basic

namespace ApiProto.Text

/-! ## Lines -/

/-- The lines of a text, each with the newline that ends it. -/
def lines : List Char → List (List Char)
  | [] => []
  | c :: rest =>
    if c = '\n' then [c] :: lines rest
    else match lines rest with
      | [] => [[c]]
      | l :: ls => (c :: l) :: ls

/-- The bytes of the first lines are those of these lines put together. -/
theorem linesLength_eq (s : List Char) (n : Nat) :
    linesLength s n = byteLength ((lines s).take n).flatten := by
  induction s generalizing n with
  | nil => rw [lines, List.take_nil, List.flatten_nil, linesLength, byteLength]
  | cons c rest ih =>
      cases n with
      | zero => rw [linesLength, if_pos rfl, List.take_zero, List.flatten_nil, byteLength]
      | succ n =>
          rw [linesLength, if_neg (Nat.succ_ne_zero n), lines]
          by_cases hc : c = '\n'
          · rw [if_pos hc, if_pos hc, ih, List.take_succ_cons, List.flatten_cons,
              List.singleton_append, byteLength, Nat.add_sub_cancel]
          · rw [if_neg hc, if_neg hc, ih]
            -- the first character belongs to the first line of the rest, if there is one
            cases lines rest with
            | nil => simp [byteLength]
            | cons l ls =>
                rw [List.take_succ_cons, List.take_succ_cons, List.flatten_cons, List.flatten_cons,
                  List.cons_append, byteLength]

theorem flatten_lines (s : List Char) : (lines s).flatten = s := by
  induction s with
  | nil => rfl
  | cons c rest ih =>
      rw [lines]
      by_cases hc : c = '\n'
      · rw [if_pos hc, List.flatten_cons, ih]
        rfl
      · rw [if_neg hc]
        cases hrest : lines rest with
        | nil =>
            rw [hrest] at ih
            rw [← ih]
            rfl
        | cons l ls =>
            rw [hrest] at ih
            rw [← ih]
            rfl

theorem ne_nil_of_mem_lines {s l : List Char} (h : l ∈ lines s) : l ≠ [] := by
  induction s generalizing l with
  | nil => exact absurd h List.not_mem_nil
  | cons c rest ih =>
      rw [lines] at h
      by_cases hc : c = '\n'
      · rw [if_pos hc] at h
        rcases List.mem_cons.mp h with rfl | h
        · exact List.cons_ne_nil _ _
        · exact ih h
      · rw [if_neg hc] at h
        cases hrest : lines rest with
        | nil =>
            rw [hrest] at h
            rw [List.mem_singleton.mp h]
            exact List.cons_ne_nil _ _
        | cons l' ls =>
            rw [hrest] at h
            rcases List.mem_cons.mp h with rfl | h
            · exact List.cons_ne_nil _ _
            · exact ih (by rw [hrest]; exact List.mem_cons_of_mem _ h)

/-! ## Characters of a line -/

/-- A span covers a character of a line, which may be the newline that ends it. -/
def Span.IsIn (span : Span) (s : List Char) (line : Nat) : Prop :=
  ∃ ls l ls', lines s = ls ++ l :: ls' ∧ ls.length + 1 = line ∧
    ∃ before c after, l = before ++ c :: after ∧ span = spanBehind (ls.flatten ++ before) c

section Line

variable {s l : List Char} {ls ls' : List (List Char)} (hlines : lines s = ls ++ l :: ls')

include hlines

theorem linesLength_before : linesLength s ls.length = byteLength ls.flatten := by
  rw [linesLength_eq, hlines, List.take_left]

theorem byteLength_eq_of_lines :
    byteLength s = byteLength ls.flatten + byteLength l + byteLength ls'.flatten := by
  rw [← flatten_lines s, hlines, List.flatten_append, List.flatten_cons, byteLength_append,
    byteLength_append, Nat.add_assoc]

/-- What covers a character of a line does not reach beyond the line. -/
theorem Span.IsIn.stop_le {span : Span} (h : span.IsIn s (ls.length + 1)) :
    span.offset + span.length ≤ byteLength ls.flatten + byteLength l := by
  obtain ⟨ms, m, ms', hlines', hlength, before, c, after, rfl, rfl⟩ := h
  have hparts := List.append_inj (hlines'.symm.trans hlines) (Nat.add_right_cancel hlength)
  obtain ⟨rfl, htail⟩ := hparts
  obtain ⟨rfl, -⟩ := List.cons_eq_cons.mp htail
  unfold spanBehind
  dsimp only
  rw [byteLength_append, byteLength_append, byteLength]
  omega

/-- What holds a byte of a line is a character of the line. -/
theorem exists_holds_line {k : Nat} (hk : k < byteLength l) : ∃ before c after,
    Holds s (byteLength ls.flatten + k) before c after ∧
      (spanBehind before c).IsIn s (ls.length + 1) := by
  obtain ⟨before, c, after, h⟩ := exists_holds hk
  have hstart := h.start_le
  have hstop := h.lt_stop
  refine ⟨ls.flatten ++ before, c, after ++ ls'.flatten, ⟨?_, ?_, ?_⟩,
    ls, l, ls', hlines, rfl, before, c, after, h.split, rfl⟩
  · rw [← flatten_lines s, hlines, List.flatten_append, List.flatten_cons, h.split,
      List.append_assoc, List.append_assoc]
    rfl
  · rw [byteLength_append]
    omega
  · rw [byteLength_append]
    omega

theorem askedByte_line (column : Nat) :
    askedByte s (ls.length + 1) column = byteLength ls.flatten + (column - 1) := by
  rw [askedByte, Nat.add_sub_cancel, linesLength_before hlines]

/-- A column within a line leads to a character of the line, and so does any column of the last
line. -/
theorem isIn_spanAt (column : Nat) (h : column ≤ byteLength l ∨ ls' = []) :
    (spanAt s (ls.length + 1) column).IsIn s (ls.length + 1) := by
  have hl : 0 < byteLength l := by
    have hmem : l ∈ lines s := by
      rw [hlines]
      exact List.mem_append_right _ List.mem_cons_self
    exact byteLength_pos (ne_nil_of_mem_lines hmem)
  have htotal := byteLength_eq_of_lines hlines
  obtain ⟨before, c, after, hholds, hin⟩ := exists_holds_line hlines
    (k := min (column - 1) (byteLength l - 1)) (by omega)
  have hshown : shownByte s (ls.length + 1) column
      = byteLength ls.flatten + min (column - 1) (byteLength l - 1) := by
    rw [shownByte, askedByte_line hlines]
    rcases h with hcolumn | rfl
    · omega
    · -- the line ends where the text ends
      rw [List.flatten_nil, byteLength] at htotal
      omega
  rw [spanAt_eq (hshown ▸ hholds)]
  exact hin

/-- A column behind the end of a line runs on into the lines that follow. -/
theorem not_isIn_spanAt (column : Nat) (hcolumn : byteLength l < column) (hlast : ls' ≠ []) :
    ¬ (spanAt s (ls.length + 1) column).IsIn s (ls.length + 1) := by
  intro hin
  have hrest : 0 < byteLength ls'.flatten := by
    obtain ⟨m, ms, rfl⟩ := List.exists_cons_of_ne_nil hlast
    have hmem : m ∈ lines s := by
      rw [hlines]
      exact List.mem_append_right _ (List.mem_cons_of_mem _ List.mem_cons_self)
    have hm := byteLength_pos (ne_nil_of_mem_lines hmem)
    rw [List.flatten_cons, byteLength_append]
    omega
  have htotal := byteLength_eq_of_lines hlines
  have hs : s ≠ [] := by
    rintro rfl
    rw [byteLength] at htotal
    omega
  obtain ⟨before, c, after, hholds⟩ := exists_holds_shown hs (ls.length + 1) column
  have hreach := hholds.lt_stop
  have hstop := hin.stop_le hlines
  rw [shownByte, askedByte_line hlines] at hreach
  rw [spanAt_eq hholds, spanBehind] at hstop
  dsimp only at hstop
  omega

end Line

/-- **A column is drawn back to its line where that is the last one, and nowhere else.**  On a line of
a text the span at a column covers a character of the line exactly if the line has so many bytes, or
no other line follows. -/
theorem spanAt_isIn_iff (s : List Char) {line : Nat} (hpos : 1 ≤ line)
    (hle : line ≤ (lines s).length) (column : Nat) :
    ∃ l, (lines s)[line - 1]? = some l ∧
      ((spanAt s line column).IsIn s line ↔ column ≤ byteLength l ∨ line = (lines s).length) := by
  obtain ⟨n, rfl⟩ := Nat.exists_eq_succ_of_ne_zero (Nat.ne_of_gt hpos)
  have hn : n < (lines s).length := hle
  have hlines : lines s = (lines s).take n ++ (lines s)[n] :: (lines s).drop (n + 1) := by
    rw [← List.drop_eq_getElem_cons hn, List.take_append_drop]
  have hlength : ((lines s).take n).length = n := List.length_take_of_le (Nat.le_of_lt hn)
  refine ⟨(lines s)[n], List.getElem?_eq_getElem hn, ?_⟩
  have hlast : (lines s).drop (n + 1) = [] ↔ n + 1 = (lines s).length := by
    rw [List.drop_eq_nil_iff]
    omega
  have hin := isIn_spanAt hlines column
  have hnot := not_isIn_spanAt hlines column
  rw [hlength, hlast] at hin
  rw [hlength, ne_eq, hlast] at hnot
  refine ⟨fun h => ?_, hin⟩
  by_contra hor
  rw [not_or, Nat.not_le] at hor
  exact hnot hor.1 hor.2 h

theorem spanAt_isIn_iff_secondLine :
    1 ≤ 2 ∧ 2 ≤ (lines ['a', '\n', 'é', '\n']).length ∧
      (spanAt ['a', '\n', 'é', '\n'] 2 9).IsIn ['a', '\n', 'é', '\n'] 2 := by
  have hle : 2 ≤ (lines ['a', '\n', 'é', '\n']).length := by decide
  have hpos : 1 ≤ 2 := by decide
  obtain ⟨l, -, hin⟩ := spanAt_isIn_iff ['a', '\n', 'é', '\n'] hpos hle 9
  exact ⟨hpos, hle, hin.mpr (.inr (by decide))⟩

/-- Columns are not always drawn back: the third byte of the first line of `a` and `b` is that of the
second line. -/
theorem not_forall_spanAt_isIn : ¬ ∀ (s : List Char) (line column : Nat), 1 ≤ line →
    line ≤ (lines s).length → (spanAt s line column).IsIn s line := by
  intro h
  have hlines : lines ['a', '\n', 'b'] = [] ++ ['a', '\n'] :: [['b']] := rfl
  have hin := h ['a', '\n', 'b'] 1 3 (by decide) (by decide)
  have hstop := hin.stop_le hlines
  exact absurd hstop (by decide)

end ApiProto.Text
