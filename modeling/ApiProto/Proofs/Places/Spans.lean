/-
  A span is always a place of its text.

  Every byte of a text is held by one character (`Holds`).  A position asks for a byte, and the span
  at it is the character that holds this byte, or the last byte if the text has no such byte
  (`spanAt_eq`).  The same span is found by walking through the text in machine words (`walkSpan`):
  each step of the walk may fail, by a sum that no word holds, by an offset below zero or by a cut
  inside a character, and none of them does (`walkSpan_eq`).
-/
import ApiProto.Text.Place

namespace ApiProto.Text

/-! ## Bytes of characters -/

theorem byteLength_append (s t : List Char) :
    byteLength (s ++ t) = byteLength s + byteLength t := by
  induction s with
  | nil => exact (Nat.zero_add _).symm
  | cons c rest ih => rw [List.cons_append, byteLength, byteLength, ih, Nat.add_assoc]

theorem byteLength_pos {s : List Char} (h : s ≠ []) : 0 < byteLength s := by
  cases s with
  | nil => exact absurd rfl h
  | cons c rest => exact Nat.add_pos_left c.utf8Size_pos _

/-- The character `c` of a text holds the byte at an offset, which counts from zero. -/
structure Holds (s : List Char) (offset : Nat) (before : List Char) (c : Char)
    (after : List Char) : Prop where
  split : s = before ++ c :: after
  start_le : byteLength before ≤ offset
  lt_stop : offset < byteLength before + c.utf8Size

theorem exists_holds {s : List Char} {offset : Nat} (h : offset < byteLength s) :
    ∃ before c after, Holds s offset before c after := by
  induction s generalizing offset with
  | nil => exact absurd h (Nat.not_lt_zero _)
  | cons c rest ih =>
      by_cases hc : offset < c.utf8Size
      · refine ⟨[], c, rest, rfl, Nat.zero_le _, ?_⟩
        rwa [byteLength, Nat.zero_add]
      · -- the byte is one of the characters behind
        have hrest : offset - c.utf8Size < byteLength rest := by
          rw [byteLength] at h
          omega
        obtain ⟨before, d, after, hsplit, hstart, hstop⟩ := ih hrest
        refine ⟨c :: before, d, after, by rw [hsplit]; rfl, ?_, ?_⟩
        · rw [byteLength]
          omega
        · rw [byteLength]
          omega

namespace Holds

variable {s before after : List Char} {offset : Nat} {c : Char}

/-- The first byte of a character is held by it. -/
theorem first (h : Holds s offset before c after) : Holds s (byteLength before) before c after where
  split := h.split
  start_le := Nat.le_refl _
  lt_stop := Nat.lt_add_of_pos_right c.utf8Size_pos

theorem stop_le (h : Holds s offset before c after) :
    byteLength before + c.utf8Size ≤ byteLength s := by
  rw [h.split, byteLength_append, byteLength]
  omega

theorem charStart_eq (h : Holds s offset before c after) :
    charStart s offset = byteLength before := by
  obtain ⟨rfl, hstart, hstop⟩ := h
  induction before generalizing offset with
  | nil =>
      rw [byteLength, Nat.zero_add] at hstop
      rw [List.nil_append, charStart, if_pos hstop, byteLength]
  | cons d before ih =>
      rw [byteLength] at hstart hstop
      have hd : ¬ offset < d.utf8Size := by omega
      rw [List.cons_append, charStart, if_neg hd, byteLength, ih (by omega) (by omega)]

theorem charLength_eq (h : Holds s offset before c after) : charLength s offset = c.utf8Size := by
  obtain ⟨rfl, hstart, hstop⟩ := h
  induction before generalizing offset with
  | nil =>
      rw [byteLength, Nat.zero_add] at hstop
      rw [List.nil_append, charLength, if_pos hstop]
  | cons d before ih =>
      rw [byteLength] at hstart hstop
      have hd : ¬ offset < d.utf8Size := by omega
      rw [List.cons_append, charLength, if_neg hd, ih (by omega) (by omega)]

/-- The last byte of a text is held by its last character. -/
theorem after_eq_nil (h : Holds s offset before c after) (hlast : byteLength s ≤ offset + 1) :
    after = [] := by
  have hstop := h.lt_stop
  rw [h.split, byteLength_append, byteLength] at hlast
  cases after with
  | nil => rfl
  | cons d after =>
      have hpos := d.utf8Size_pos
      rw [byteLength] at hlast
      omega

end Holds

theorem charStart_of_le {s : List Char} {offset : Nat} (h : byteLength s ≤ offset) :
    charStart s offset = byteLength s := by
  induction s generalizing offset with
  | nil => rfl
  | cons c rest ih =>
      rw [byteLength] at h
      have hc : ¬ offset < c.utf8Size := by omega
      rw [charStart, if_neg hc, byteLength, ih (by omega)]

/-! ## The character at a position -/

/-- The span of a character behind a text. -/
def spanBehind (before : List Char) (c : Char) : Span := ⟨byteLength before, c.utf8Size⟩

/-- The offset of the byte that a position asks for, whether or not the text has it. -/
def askedByte (s : List Char) (line column : Nat) : Nat :=
  linesLength s (line - 1) + (column - 1)

/-- The offset of the byte that is shown for a position: the one it asks for, or the last one. -/
def shownByte (s : List Char) (line column : Nat) : Nat :=
  min (askedByte s line column) (byteLength s - 1)

/-- The span at a position is the character that holds the byte that is shown. -/
theorem spanAt_eq {s before after : List Char} {c : Char} {line column : Nat}
    (h : Holds s (shownByte s line column) before c after) :
    spanAt s line column = spanBehind before c := by
  have hstart := h.charStart_eq
  have hlength := h.first.charLength_eq
  have hinside : byteLength before ≠ byteLength s := by
    have hstop := h.stop_le
    have hpos := c.utf8Size_pos
    omega
  rw [shownByte, askedByte] at hstart
  unfold spanAt
  by_cases hend : byteLength s ≤ linesLength s (line - 1) + (column - 1)
  · -- the walk stops at the end of the text first, and goes back to the last character from there
    rw [Nat.min_eq_right (by omega)] at hstart
    rw [Nat.min_eq_right hend, charStart_of_le (Nat.le_refl _)]
    dsimp only
    rw [if_pos rfl, hstart, hlength, spanBehind]
  · rw [Nat.min_eq_left (by omega)] at hstart
    rw [Nat.min_eq_left (by omega), hstart]
    dsimp only
    rw [if_neg hinside, hlength, spanBehind]

theorem spanAt_nil (line column : Nat) : spanAt [] line column = ⟨0, 0⟩ := rfl

theorem exists_holds_shown {s : List Char} (hs : s ≠ []) (line column : Nat) :
    ∃ before c after, Holds s (shownByte s line column) before c after := by
  have hpos := byteLength_pos hs
  refine exists_holds ?_
  rw [shownByte]
  omega

/-! ## Boundaries -/

/-- Characters end or start at the offset. -/
def IsBoundary (s : List Char) (offset : Nat) : Prop :=
  ∃ before after, s = before ++ after ∧ byteLength before = offset

/-- Whether characters end or start at the offset. -/
def isBoundary : List Char → Nat → Bool
  | [], offset => offset == 0
  | c :: rest, offset =>
    offset == 0 || (decide (c.utf8Size ≤ offset) && isBoundary rest (offset - c.utf8Size))

theorem isBoundary_iff {s : List Char} {offset : Nat} :
    isBoundary s offset ↔ IsBoundary s offset := by
  induction s generalizing offset with
  | nil =>
      rw [isBoundary, beq_iff_eq]
      constructor
      · rintro rfl
        exact ⟨[], [], rfl, rfl⟩
      · rintro ⟨before, after, hsplit, rfl⟩
        rw [(List.append_eq_nil_iff.mp hsplit.symm).1, byteLength]
  | cons c rest ih =>
      rw [isBoundary, Bool.or_eq_true, Bool.and_eq_true, beq_iff_eq, decide_eq_true_iff, ih]
      constructor
      · rintro (rfl | ⟨hle, before, after, rfl, hlength⟩)
        · exact ⟨[], c :: rest, rfl, rfl⟩
        · refine ⟨c :: before, after, rfl, ?_⟩
          rw [byteLength, hlength]
          omega
      · rintro ⟨before, after, hsplit, rfl⟩
        cases before with
        | nil => exact .inl rfl
        | cons d before =>
            obtain ⟨rfl, rfl⟩ := List.cons_eq_cons.mp hsplit
            refine .inr ⟨Nat.le_add_right _ _, before, after, rfl, ?_⟩
            rw [byteLength, Nat.add_sub_cancel_left]

theorem IsBoundary.charStart_eq {s : List Char} {offset : Nat} (h : IsBoundary s offset) :
    charStart s offset = offset := by
  obtain ⟨before, after, rfl, rfl⟩ := h
  cases after with
  | nil =>
      rw [List.append_nil]
      exact charStart_of_le (Nat.le_refl _)
  | cons c after =>
      have hholds : Holds (before ++ c :: after) (byteLength before) before c after :=
        ⟨rfl, Nat.le_refl _, Nat.lt_add_of_pos_right c.utf8Size_pos⟩
      exact hholds.charStart_eq

/-- Inside a character the byte before an offset belongs to the same one. -/
theorem charStart_succ {s : List Char} {offset : Nat} (h : ¬ IsBoundary s (offset + 1))
    (hle : offset + 1 ≤ byteLength s) : charStart s (offset + 1) = charStart s offset := by
  have hend : offset + 1 ≠ byteLength s := by
    intro heq
    exact h ⟨s, [], (List.append_nil s).symm, heq.symm⟩
  obtain ⟨before, c, after, hholds⟩ := exists_holds (Nat.lt_of_le_of_ne hle hend)
  have hinside : byteLength before ≠ offset + 1 :=
    fun heq => h ⟨before, c :: after, hholds.split, heq⟩
  have hstart := hholds.start_le
  have hstop := hholds.lt_stop
  have hbefore : Holds s offset before c after := ⟨hholds.split, by omega, by omega⟩
  rw [hholds.charStart_eq, hbefore.charStart_eq]

/-! ## Walking to the character -/

/-- The sum of two machine words, if it is one. -/
def addWords (m n : Nat) : Option Nat := if m + n < UInt64.size then some (m + n) else none

/-- The machine word before another one; none before zero. -/
def predWord : Nat → Option Nat
  | 0 => none
  | n + 1 => some n

/-- Goes back from an offset, one byte at a time, until characters end or start there.  There is
nothing before zero to go back to. -/
def stepBack (s : List Char) : Nat → Option Nat
  | 0 => if isBoundary s 0 then some 0 else none
  | offset + 1 => if isBoundary s (offset + 1) then some (offset + 1) else stepBack s offset

/-- The text from an offset on; none where that is beyond the text or inside a character. -/
def sliceFrom : List Char → Nat → Option (List Char)
  | s, 0 => some s
  | [], _ + 1 => none
  | c :: rest, offset + 1 =>
    if c.utf8Size ≤ offset + 1 then sliceFrom rest (offset + 1 - c.utf8Size) else none

/-- Finds the offset of the character at a position.  From the byte that is asked for, or from the
end of the text, the walk goes back to a boundary; if that is the end, it goes back once more. -/
def walkOffset (s : List Char) (line column : Nat) : Option Nat := do
  let asked ← addWords (linesLength s (line - 1)) (column - 1)
  let boundary ← stepBack s (min asked (byteLength s))
  if boundary = byteLength s ∧ 0 < boundary then predWord boundary >>= stepBack s
  else some boundary

/-- Finds the span at a position, whose length is that of the first character from its offset on. -/
def walkSpan (s : List Char) (line column : Nat) : Option Span := do
  let offset ← walkOffset s line column
  let rest ← sliceFrom s offset
  some ⟨offset, rest.head?.elim 0 Char.utf8Size⟩

theorem stepBack_eq {s : List Char} {offset : Nat} (hle : offset ≤ byteLength s) :
    stepBack s offset = some (charStart s offset) := by
  induction offset with
  | zero =>
      have hzero : IsBoundary s 0 := ⟨[], s, rfl, rfl⟩
      rw [stepBack, if_pos (isBoundary_iff.mpr hzero), hzero.charStart_eq]
  | succ offset ih =>
      rw [stepBack]
      by_cases h : IsBoundary s (offset + 1)
      · rw [if_pos (isBoundary_iff.mpr h), h.charStart_eq]
      · rw [if_neg (mt isBoundary_iff.mp h), ih (by omega), charStart_succ h hle]

theorem sliceFrom_append (before after : List Char) :
    sliceFrom (before ++ after) (byteLength before) = some after := by
  induction before with
  | nil => rw [List.nil_append, byteLength, sliceFrom]
  | cons c before ih =>
      have hpos := c.utf8Size_pos
      obtain ⟨n, hn⟩ : ∃ n, byteLength (c :: before) = n + 1 :=
        Nat.exists_eq_succ_of_ne_zero (by rw [byteLength]; omega)
      have hrest : n + 1 - c.utf8Size = byteLength before := by
        rw [← hn, byteLength, Nat.add_sub_cancel_left]
      have hle : c.utf8Size ≤ n + 1 := by
        rw [← hn, byteLength]
        omega
      rw [List.cons_append, hn, sliceFrom, if_pos hle, hrest, ih]

theorem walkOffset_eq {s : List Char} {line column : Nat}
    (hfits : linesLength s (line - 1) + column < UInt64.size) :
    walkOffset s line column = some (spanAt s line column).offset := by
  have hsum : addWords (linesLength s (line - 1)) (column - 1)
      = some (linesLength s (line - 1) + (column - 1)) := if_pos (by omega)
  unfold walkOffset spanAt
  simp only [hsum, Option.bind_eq_bind, Option.bind_some, stepBack_eq (Nat.min_le_right _ _)]
  generalize charStart s (min (linesLength s (line - 1) + (column - 1)) (byteLength s)) = boundary
  by_cases hend : boundary = byteLength s
  · rw [if_pos hend]
    cases boundary with
    | zero =>
        -- an empty text has nothing to go back to
        have hzero : IsBoundary s 0 := ⟨[], s, rfl, rfl⟩
        rw [if_neg (fun h => Nat.lt_irrefl 0 h.2), ← hend, Nat.zero_sub, hzero.charStart_eq]
    | succ n =>
        rw [if_pos ⟨hend, Nat.succ_pos n⟩, predWord, Option.bind_some, stepBack_eq (by omega),
          ← hend, Nat.add_sub_cancel]
  · rw [if_neg hend, if_neg (fun h => hend h.1)]

/-- No step of the walk fails, and it finds the span. -/
theorem walkSpan_eq {s : List Char} {line column : Nat}
    (hfits : linesLength s (line - 1) + column < UInt64.size) :
    walkSpan s line column = some (spanAt s line column) := by
  rw [walkSpan, walkOffset_eq hfits, Option.bind_eq_bind, Option.bind_some]
  by_cases hs : s = []
  · rw [hs]
    rfl
  · obtain ⟨before, c, after, h⟩ := exists_holds_shown hs line column
    have hslice : sliceFrom s (byteLength before) = some (c :: after) := by
      rw [h.split, sliceFrom_append]
    rw [spanAt_eq h, spanBehind, hslice]
    rfl

/-! ## Spans as places -/

/-- A span is a place of a text: its ends are boundaries within the text, and it covers one
character, or nothing if there is none. -/
structure Span.IsPlaceOf (span : Span) (s : List Char) : Prop where
  offset : IsBoundary s span.offset
  stop : IsBoundary s (span.offset + span.length)
  stop_le : span.offset + span.length ≤ byteLength s
  covers : s ≠ [] → ∃ before c after, s = before ++ c :: after ∧ span = spanBehind before c
  empty_iff : span = ⟨0, 0⟩ ↔ s = []
  length_eq_zero_iff : span.length = 0 ↔ s = []

theorem isPlaceOf_nil : Span.IsPlaceOf ⟨0, 0⟩ [] where
  offset := ⟨[], [], rfl, rfl⟩
  stop := ⟨[], [], rfl, rfl⟩
  stop_le := Nat.le_refl _
  covers h := absurd rfl h
  empty_iff := iff_of_true rfl rfl
  length_eq_zero_iff := iff_of_true rfl rfl

theorem isPlaceOf_spanBehind (before : List Char) (c : Char) (after : List Char) :
    (spanBehind before c).IsPlaceOf (before ++ c :: after) := by
  have hpos := c.utf8Size_pos
  have hne : before ++ c :: after ≠ [] := by simp
  have hstop : byteLength (before ++ [c]) = byteLength before + c.utf8Size := by
    rw [byteLength_append, byteLength, byteLength, Nat.add_zero]
  have hbehind : IsBoundary (before ++ c :: after) (byteLength before + c.utf8Size) :=
    ⟨before ++ [c], after, by rw [List.append_assoc]; rfl, hstop⟩
  constructor
  · exact ⟨before, c :: after, rfl, rfl⟩
  · exact hbehind
  · rw [byteLength_append, byteLength]
    exact Nat.add_le_add_left (Nat.le_add_right _ _) _
  · exact fun _ => ⟨before, c, after, rfl, rfl⟩
  · refine iff_of_false (fun h => ?_) hne
    have hlength : c.utf8Size = 0 := congrArg Span.length h
    omega
  · exact iff_of_false (Nat.ne_of_gt hpos) hne

/-- **A span is always a place of its text.**  Whatever the position, the walk to it never fails
where the sum it forms is a machine word, and its span has boundaries within the text as its ends and
covers one character: the last one if no byte of the text is behind the one that is asked for.  Only
an empty text has an empty span, which is at its start. -/
theorem spanAt_isPlaceOf (s : List Char) (line column : Nat)
    (hfits : linesLength s (line - 1) + column < UInt64.size) :
    walkSpan s line column = some (spanAt s line column) ∧ (spanAt s line column).IsPlaceOf s ∧
      (s ≠ [] → byteLength s ≤ linesLength s (line - 1) + column →
        ∃ before c, s = before ++ [c] ∧ spanAt s line column = spanBehind before c) := by
  refine ⟨walkSpan_eq hfits, ?_, fun hs hend => ?_⟩
  · by_cases hs : s = []
    · rw [hs, spanAt_nil]
      exact isPlaceOf_nil
    · obtain ⟨before, c, after, h⟩ := exists_holds_shown hs line column
      rw [spanAt_eq h, h.split]
      exact isPlaceOf_spanBehind before c after
  · obtain ⟨before, c, after, h⟩ := exists_holds_shown hs line column
    have hpos := byteLength_pos hs
    have hlast : after = [] := h.after_eq_nil (by rw [shownByte, askedByte]; omega)
    exact ⟨before, c, by rw [h.split, hlast], spanAt_eq h⟩

theorem spanAt_isPlaceOf_pastEnd :
    linesLength ['a', 'é'] 6 + 9 < UInt64.size ∧
      byteLength ['a', 'é'] ≤ linesLength ['a', 'é'] 6 + 9 ∧
      walkSpan ['a', 'é'] 7 9 = some ⟨1, 2⟩ ∧ Span.IsPlaceOf ⟨1, 2⟩ ['a', 'é'] ∧
      ∃ before c, ['a', 'é'] = before ++ [c] ∧ ⟨1, 2⟩ = spanBehind before c := by
  have hfits : linesLength ['a', 'é'] 6 + 9 < UInt64.size := by decide
  have hend : byteLength ['a', 'é'] ≤ linesLength ['a', 'é'] 6 + 9 := by decide
  have hspan : spanAt ['a', 'é'] 7 9 = ⟨1, 2⟩ := rfl
  obtain ⟨hwalk, hplace, hlast⟩ := spanAt_isPlaceOf ['a', 'é'] 7 9 hfits
  rw [hspan] at hwalk hplace hlast
  exact ⟨hfits, hend, hwalk, hplace, hlast (List.cons_ne_nil _ _) hend⟩

-- The second byte of a character gives the same span as its first one.
example : spanAt ['a', 'é'] 1 3 = spanAt ['a', 'é'] 1 2 := by decide

end ApiProto.Text
