/-
  The span at a position is the character that the reader has come to.

  A position tells the bytes that have been read by their newlines and by what is behind the last of
  these (`Position.behind`).  Its line and column lead back to the number of these bytes
  (`linesLength_positionAfter`), so the span at it is that of the last byte that has been read, but
  for a newline with text behind it: there the column is zero, and the span is the first character of
  the next line.
-/
import ApiProto.Command.Report
import ApiProto.Proofs.ByteOrder
import ApiProto.Proofs.Places.Spans

namespace ApiProto.Text

/-! ## Positions behind bytes -/

/-- The byte that ends a line. -/
def newlineByte : UInt8 := 10

/-- The position behind some bytes: the line is one more than their newlines, and the column is the
number of bytes behind the last of these. -/
def Position.behind (bs : List UInt8) : Position :=
  ⟨1 + bs.count newlineByte, (bs.reverse.takeWhile (· != newlineByte)).length⟩

theorem Position.behind_append_newline (bs : List UInt8) :
    behind (bs ++ [newlineByte]) = ⟨(behind bs).line + 1, 0⟩ := by
  have hline : 1 + (bs ++ [newlineByte]).count newlineByte = 1 + bs.count newlineByte + 1 := by
    rw [List.count_append, List.count_singleton_self, Nat.add_assoc]
  rw [behind, hline, List.reverse_append, List.reverse_singleton, List.singleton_append,
    List.takeWhile_cons_of_neg (by decide), List.length_nil, behind]

theorem Position.behind_append_of_notMem (bs : List UInt8) {cs : List UInt8}
    (h : newlineByte ∉ cs) :
    behind (bs ++ cs) = ⟨(behind bs).line, (behind bs).column + cs.length⟩ := by
  have hline : (bs ++ cs).count newlineByte = bs.count newlineByte := by
    rw [List.count_append, List.count_eq_zero_of_not_mem h, Nat.add_zero]
  have hall : ∀ b ∈ cs.reverse, (b != newlineByte) = true := by
    intro b hb
    rw [bne_iff_ne]
    rintro rfl
    exact h (List.mem_reverse.mp hb)
  rw [behind, hline, List.reverse_append, List.takeWhile_append_of_pos hall, List.length_append,
    List.length_reverse, behind, Nat.add_comm cs.length]

/-- All bytes of a character but the newline are other ones. -/
theorem newlineByte_notMem {c : Char} (h : c ≠ '\n') : newlineByte ∉ String.utf8EncodeChar c := by
  have hval : c.val.toNat ≠ 10 := fun heq => h (Char.ext (UInt32.toNat_inj.mp heq))
  have hten : (10 : UInt8).toNat = 10 := rfl
  unfold String.utf8EncodeChar newlineByte
  generalize c.val.toNat = n at hval
  dsimp only
  -- each byte of a longer character is at least 128
  repeat' split
  all_goals
    simp only [List.mem_cons, List.not_mem_nil, or_false, ← UInt8.toNat_inj, UInt8.toNat_ofNat',
      hten]
    omega

theorem Position.advance_zero (p : Position) (s : List Char) : p.advance s 0 = p := by
  cases s with
  | nil => rfl
  | cons c rest => rw [advance, if_pos rfl]

/-- Reading on from the position behind some bytes leads to the position behind all of them. -/
theorem Position.advance_behind (bs : List UInt8) (s : List Char) (n : Nat) :
    (behind bs).advance s n = behind (bs ++ (s.flatMap String.utf8EncodeChar).take n) := by
  induction s generalizing bs n with
  | nil => rw [advance, List.flatMap_nil, List.take_nil, List.append_nil]
  | cons c rest ih =>
      by_cases hn : n = 0
      · rw [hn, advance_zero, List.take_zero, List.append_nil]
      · rw [List.flatMap_cons, List.take_append, ← List.append_assoc, advance, if_neg hn]
        by_cases hc : c = '\n'
        · have htake : (String.utf8EncodeChar '\n').take n = [newlineByte] := by
            rw [List.take_of_length_le (Nat.one_le_iff_ne_zero.mpr hn)]
            rfl
          have hstep := behind_append_newline bs
          rw [if_pos hc, hc, htake, ← hstep, ih]
          rfl
        · have htake : newlineByte ∉ (String.utf8EncodeChar c).take n :=
            fun hmem => newlineByte_notMem hc (List.mem_of_mem_take hmem)
          have hstep := behind_append_of_notMem bs htake
          rw [List.length_take, String.length_utf8EncodeChar] at hstep
          rw [if_neg hc, ← hstep, ih, String.length_utf8EncodeChar]

theorem positionAfter_eq (source : String) (n : Nat) :
    positionAfter source.toList n = .behind ((bytes source).take n) := by
  rw [bytes_eq_flatMap]
  exact Position.advance_behind [] source.toList n

theorem length_flatMap_utf8EncodeChar (s : List Char) :
    (s.flatMap String.utf8EncodeChar).length = byteLength s := by
  induction s with
  | nil => rfl
  | cons c rest ih =>
      rw [List.flatMap_cons, List.length_append, String.length_utf8EncodeChar, ih, byteLength]

theorem length_bytes (source : String) : (bytes source).length = byteLength source.toList := by
  rw [bytes_eq_flatMap, length_flatMap_utf8EncodeChar]

/-! ## From a position back to the bytes -/

theorem Position.le_line_advance (p : Position) (s : List Char) (n : Nat) :
    p.line ≤ (p.advance s n).line := by
  induction s generalizing p n with
  | nil => exact Nat.le_refl _
  | cons c rest ih =>
      rw [advance]
      split
      · exact Nat.le_refl _
      · split
        · exact Nat.le_trans (Nat.le_succ _) (ih ⟨p.line + 1, 0⟩ (n - 1))
        · exact ih ⟨p.line, p.column + min n c.utf8Size⟩ (n - c.utf8Size)

/-- The lines that have been passed and the column make up what has been read.  On the line of the
start the column goes on from there. -/
theorem Position.linesLength_advance (p : Position) {s : List Char} {n : Nat}
    (h : n ≤ byteLength s) :
    linesLength s ((p.advance s n).line - p.line) + (p.advance s n).column
      = n + if (p.advance s n).line = p.line then p.column else 0 := by
  induction s generalizing p n with
  | nil =>
      obtain rfl := Nat.le_zero.mp h
      rw [advance, if_pos rfl, linesLength]
  | cons c rest ih =>
      rw [byteLength] at h
      by_cases hn : n = 0
      · rw [hn, advance_zero, if_pos rfl, Nat.sub_self, linesLength, if_pos rfl]
      · rw [advance, if_neg hn]
        by_cases hc : c = '\n'
        · -- the newline is one byte and ends the line
          have hsize : c.utf8Size = 1 := by rw [hc]; rfl
          have hline := le_line_advance ⟨p.line + 1, 0⟩ rest (n - 1)
          have hrest := ih ⟨p.line + 1, 0⟩ (n := n - 1) (by omega)
          rw [if_pos hc]
          dsimp only at hline hrest ⊢
          generalize advance ⟨p.line + 1, 0⟩ rest (n - 1) = q at hline hrest ⊢
          have hne : q.line - p.line ≠ 0 := by omega
          have hpred : q.line - p.line - 1 = q.line - (p.line + 1) := by omega
          rw [ite_self] at hrest
          rw [linesLength, if_neg hne, if_pos hc, hpred, if_neg (by omega), hsize]
          omega
        · have hrest := ih ⟨p.line, p.column + min n c.utf8Size⟩ (n := n - c.utf8Size) (by omega)
          rw [if_neg hc]
          dsimp only at hrest ⊢
          by_cases hline : (advance ⟨p.line, p.column + min n c.utf8Size⟩ rest
              (n - c.utf8Size)).line = p.line
          · -- nothing but this line has been read
            rw [if_pos hline, hline, Nat.sub_self] at hrest ⊢
            have hzero : linesLength rest 0 = 0 := by cases rest <;> rfl
            rw [hzero] at hrest
            rw [linesLength, if_pos rfl]
            omega
          · have hwhole : c.utf8Size < n := by
              by_contra hlt
              rw [Nat.sub_eq_zero_of_le (Nat.not_lt.mp hlt), advance_zero] at hline
              exact hline rfl
            have hle := le_line_advance ⟨p.line, p.column + min n c.utf8Size⟩ rest (n - c.utf8Size)
            rw [if_neg hline] at hrest ⊢
            rw [linesLength, if_neg (by dsimp only at hle; omega), if_neg hc]
            omega

/-- The line and the column of a position lead back to the number of bytes. -/
theorem linesLength_positionAfter {s : List Char} {n : Nat} (h : n ≤ byteLength s) :
    linesLength s ((positionAfter s n).line - 1) + (positionAfter s n).column = n := by
  have hread := Position.start.linesLength_advance h
  have hcolumn : (if (Position.start.advance s n).line = Position.start.line
      then Position.start.column else 0) = 0 := ite_self _
  rwa [hcolumn] at hread

/-! ## Bytes and the characters that hold them -/

theorem getElem?_flatMap_of_holds {s before after : List Char} {offset : Nat} {c : Char}
    (h : Holds s offset before c after) : ∃ b ∈ String.utf8EncodeChar c,
      (s.flatMap String.utf8EncodeChar)[offset]? = some b := by
  have hstart := h.start_le
  have hlt : offset - byteLength before < (String.utf8EncodeChar c).length := by
    have hstop := h.lt_stop
    rw [String.length_utf8EncodeChar]
    omega
  refine ⟨_, List.getElem_mem hlt, ?_⟩
  rw [h.split, List.flatMap_append, List.flatMap_cons,
    List.getElem?_append_right (by rw [length_flatMap_utf8EncodeChar]; exact hstart),
    length_flatMap_utf8EncodeChar, List.getElem?_append_left hlt, List.getElem?_eq_getElem hlt]

/-- A newline byte is held by a newline. -/
theorem Holds.eq_newline {source : String} {before after : List Char} {offset : Nat} {c : Char}
    (h : Holds source.toList offset before c after)
    (hbyte : (bytes source)[offset]? = some newlineByte) :
    c = '\n' ∧ byteLength before = offset := by
  obtain ⟨b, hmem, hb⟩ := getElem?_flatMap_of_holds h
  rw [← bytes_eq_flatMap, hbyte, Option.some_inj] at hb
  have hc : c = '\n' := by
    by_contra hc
    exact newlineByte_notMem hc (hb ▸ hmem)
  have hsize : c.utf8Size = 1 := by rw [hc]; rfl
  have hstart := h.start_le
  have hstop := h.lt_stop
  exact ⟨hc, by omega⟩

/-- The column is zero just behind a newline. -/
theorem column_eq_zero_iff {source : String} {n : Nat} (hlt : n < (bytes source).length) :
    (positionAfter source.toList (n + 1)).column = 0 ↔
      (bytes source)[n]? = some newlineByte := by
  rw [positionAfter_eq, List.take_add_one, List.getElem?_eq_getElem hlt, Option.toList_some,
    Option.some_inj]
  by_cases hb : (bytes source)[n] = newlineByte
  · rw [hb, Position.behind_append_newline]
    exact iff_of_true rfl rfl
  · have hmem : newlineByte ∉ [(bytes source)[n]] := by
      rw [List.mem_singleton]
      exact Ne.symm hb
    rw [Position.behind_append_of_notMem _ hmem]
    exact iff_of_false (Nat.succ_ne_zero _) hb

/-! ## Spans at positions -/

/-- The span at the position after some bytes. -/
def spanAfter (s : List Char) (n : Nat) : Span :=
  spanAt s (positionAfter s n).line (positionAfter s n).column

/-- The byte that is shown for the position after some bytes is the last of these, or the next one
if the last one is a newline with more behind it. -/
theorem shownByte_positionAfter {source : String} {n : Nat} (hlt : n < (bytes source).length) :
    shownByte source.toList (positionAfter source.toList (n + 1)).line
        (positionAfter source.toList (n + 1)).column
      = if (bytes source)[n]? = some newlineByte ∧ n + 1 < (bytes source).length then n + 1
        else n := by
  have hback := linesLength_positionAfter (s := source.toList) (n := n + 1)
    (by rw [← length_bytes]; exact hlt)
  rw [shownByte, askedByte, ← length_bytes]
  by_cases hbyte : (bytes source)[n]? = some newlineByte
  · have hcolumn := (column_eq_zero_iff hlt).mpr hbyte
    by_cases hmore : n + 1 < (bytes source).length
    · rw [if_pos ⟨hbyte, hmore⟩]
      omega
    · -- there is no next byte to show
      rw [if_neg (fun h => hmore h.2)]
      omega
  · have hcolumn := mt (column_eq_zero_iff hlt).mp hbyte
    rw [if_neg (fun h => hbyte h.1)]
    omega

/-- What is shown of the place at which a reader has stopped after some bytes. -/
structure PointsAt (source : String) (n : Nat) : Prop where
  position : positionAfter source.toList n = .behind ((bytes source).take n)
  /-- The last byte that has been read is shown, with the character that holds it. -/
  last : (bytes source)[n - 1]? ≠ some newlineByte ∨ n = (bytes source).length →
    ∃ before c after, Holds source.toList (n - 1) before c after ∧
      spanAfter source.toList n = spanBehind before c
  /-- Behind a newline the first character of the next line is shown. -/
  next : (bytes source)[n - 1]? = some newlineByte → n < (bytes source).length →
    ∃ before c after, source.toList = before ++ '\n' :: c :: after ∧ byteLength before + 1 = n ∧
      spanAfter source.toList n = spanBehind (before ++ ['\n']) c
  /-- The report of a fault that is seen after these bytes has that span. -/
  report : ∀ fault : Json.Fault, fault.offset = n →
    ∃ text, (Command.loadReport (.ofFault fault source) source).label
      = some ⟨text, spanAfter source.toList n⟩

theorem spanAfter_last {source : String} {n : Nat} (hlt : n < (bytes source).length)
    (h : (bytes source)[n]? ≠ some newlineByte ∨ n + 1 = (bytes source).length) :
    ∃ before c after, Holds source.toList n before c after ∧
      spanAfter source.toList (n + 1) = spanBehind before c := by
  have hwithin : n < byteLength source.toList := by rwa [← length_bytes]
  obtain ⟨before, c, after, hholds⟩ := exists_holds hwithin
  have hshown := shownByte_positionAfter hlt
  rw [if_neg] at hshown
  · exact ⟨before, c, after, hholds, spanAt_eq (hshown.symm ▸ hholds)⟩
  · -- behind the last newline there is nothing, so it is shown itself
    rintro ⟨hbyte, hmore⟩
    exact Nat.ne_of_lt hmore (h.resolve_left (fun hne => hne hbyte))

theorem spanAfter_next {source : String} {n : Nat}
    (hbyte : (bytes source)[n]? = some newlineByte) (hlt : n + 1 < (bytes source).length) :
    ∃ before c after, source.toList = before ++ '\n' :: c :: after ∧ byteLength before + 1 = n + 1 ∧
      spanAfter source.toList (n + 1) = spanBehind (before ++ ['\n']) c := by
  have hwithin : n < byteLength source.toList := by
    rw [← length_bytes]
    omega
  obtain ⟨before, d, rest, hholds⟩ := exists_holds hwithin
  obtain ⟨rfl, hbefore⟩ := hholds.eq_newline hbyte
  have hsplit := hholds.split
  have hlength : byteLength (before ++ ['\n']) = n + 1 := by
    rw [byteLength_append, hbefore]
    rfl
  cases rest with
  | nil =>
      rw [length_bytes, hsplit, hlength] at hlt
      exact absurd hlt (Nat.lt_irrefl _)
  | cons c after =>
      have hnext : Holds source.toList (n + 1) (before ++ ['\n']) c after := by
        rw [← hlength]
        refine ⟨?_, Nat.le_refl _, Nat.lt_add_of_pos_right c.utf8Size_pos⟩
        rw [hsplit, List.append_assoc]
        rfl
      have hshown := shownByte_positionAfter (Nat.lt_of_succ_lt hlt)
      rw [if_pos ⟨hbyte, hlt⟩] at hshown
      exact ⟨before, c, after, hsplit, by rw [hbefore], spanAt_eq (hshown.symm ▸ hnext)⟩

/-- **A label points at the byte that the reader has stopped at.**  After some bytes of a text the
span at the position behind them is the character that holds the last of these bytes; only a newline
with text behind it gives way to the first character of the next line.  The first character also
stands for a reader that has not read a byte. -/
theorem label_pointsAt (source : String) :
    (∀ n, 1 ≤ n → n ≤ (bytes source).length → PointsAt source n) ∧
      (source ≠ "" → ∃ c rest, source.toList = c :: rest ∧
        spanAt source.toList 1 0 = spanBehind [] c) := by
  constructor
  · intro n hpos hle
    obtain ⟨n, rfl⟩ := Nat.exists_eq_succ_of_ne_zero (Nat.ne_of_gt hpos)
    exact {
      position := positionAfter_eq source _
      last := spanAfter_last hle
      next := spanAfter_next
      report := by
        rintro fault hoffset
        exact ⟨_, by rw [← hoffset]; rfl⟩ }
  · intro hne
    have hlist : source.toList ≠ [] := fun h => hne (String.toList_eq_nil_iff.mp h)
    obtain ⟨c, rest, hsource⟩ := List.exists_cons_of_ne_nil hlist
    have hshown : shownByte source.toList 1 0 = 0 := by
      rw [shownByte, askedByte, hsource, linesLength, if_pos rfl]
      exact Nat.zero_min _
    have hfirst : Holds source.toList 0 [] c rest :=
      ⟨hsource, Nat.le_refl _, Nat.lt_add_of_pos_right c.utf8Size_pos⟩
    exact ⟨c, rest, hsource, spanAt_eq (hshown.symm ▸ hfirst)⟩

/-- A newline before a character of two bytes. -/
theorem label_pointsAt_newline :
    PointsAt "a\né" 2 ∧ spanAfter "a\né".toList 2 = ⟨2, 2⟩ ∧ PointsAt "a\né" 4 ∧
      spanAfter "a\né".toList 4 = ⟨2, 2⟩ ∧ spanAt "a\né".toList 1 0 = ⟨0, 1⟩ := by
  have hlength : (bytes "a\né").length = 4 := by decide
  obtain ⟨hpoints, hstart⟩ := label_pointsAt "a\né"
  obtain ⟨c, rest, hsource, hspan⟩ := hstart (by decide)
  obtain rfl : 'a' = c := (List.cons_eq_cons.mp hsource).1
  exact ⟨hpoints 2 (by decide) (by rw [hlength]; decide), by decide,
    hpoints 4 (by decide) (by rw [hlength]), by decide, hspan⟩

end ApiProto.Text
