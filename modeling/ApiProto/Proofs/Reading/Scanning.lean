/-
  Leaves of a JSON text are read as they are spelled.

  Each scanner is put before a text that its part of the grammar derives, with something behind it
  that cannot go on with that part.  It then ends right behind the text, at an offset that no later
  step looks at.
-/
import ApiProto.Json.Grammar
import Mathlib.Data.List.Basic

namespace ApiProto.Json

@[simp] theorem ok_bind {ε α β : Type} (a : α) (f : α → Except ε β) :
    (Except.ok a >>= f) = f a := rfl

@[simp] theorem error_bind {ε α β : Type} (e : ε) (f : α → Except ε β) :
    (Except.error e >>= f) = .error e := rfl

/-! ## What stands behind a value -/

/-- What follows ends a value: a blank, a comma, a closing bracket or brace, or nothing. -/
def EndsValue (rest : List Char) : Prop :=
  ∀ x ∈ rest.head?, isSpace x ∨ x = ',' ∨ x = ']' ∨ x = '\x7d'

theorem endsValue_nil : EndsValue [] := by
  intro x hx
  cases hx

theorem endsValue_cons {x : Char} {rest : List Char}
    (h : isSpace x ∨ x = ',' ∨ x = ']' ∨ x = '\x7d') : EndsValue (x :: rest) := by
  intro y hy
  cases hy
  exact h

/-- Blanks end a value as well. -/
theorem EndsValue.blank_append {b rest : List Char} (hb : Blank b) (h : EndsValue rest) :
    EndsValue (b ++ rest) := by
  cases b with
  | nil => exact h
  | cons x b => exact endsValue_cons (.inl (hb x List.mem_cons_self))

/-- The characters that go on with a number do not end a value. -/
theorem EndsValue.head_ne {rest : List Char} (h : EndsValue rest) {x : Char} {t : List Char}
    (hrest : rest = x :: t) : ¬ x.isDigit ∧ x ≠ '.' ∧ x ≠ 'e' ∧ x ≠ 'E' := by
  subst hrest
  have hx := h x rfl
  simp only [isSpace, Bool.or_eq_true, beq_iff_eq] at hx
  rcases hx with (((rfl | rfl) | rfl) | rfl) | rfl | rfl | rfl <;> decide

/-! ## Blanks and words -/

theorem skipFrom_append {b rest : List Char} (hb : Blank b) (hrest : ∀ x ∈ rest.head?, ¬ isSpace x)
    (offset : Nat) : skipFrom (b ++ rest) offset = ⟨rest, offset + b.length⟩ := by
  induction b generalizing offset with
  | nil =>
      cases rest with
      | nil => rfl
      | cons x rest => exact if_neg (hrest x rfl)
  | cons x b ih =>
      obtain ⟨hx, hb⟩ := List.forall_mem_cons.mp hb
      have hstep : skipFrom (x :: (b ++ rest)) offset = skipFrom (b ++ rest) (offset + 1) :=
        if_pos hx
      rw [List.cons_append, hstep, ih hb, List.length_cons, Nat.add_right_comm, Nat.add_assoc]

/-- Blanks are skipped up to the character behind them. -/
theorem skipBlanks_append {b t : List Char} {x : Char} (hb : Blank b) (hx : ¬ isSpace x)
    (offset : Nat) :
    (Cursor.mk (b ++ x :: t) offset).skipBlanks = ⟨x :: t, offset + b.length⟩ :=
  skipFrom_append hb (fun y hy => by cases hy; exact hx) offset

theorem skipBlanks_of_blank {b : List Char} (hb : Blank b) (offset : Nat) :
    (Cursor.mk b offset).skipBlanks = ⟨[], offset + b.length⟩ := by
  have h : skipFrom (b ++ []) offset = ⟨[], offset + b.length⟩ :=
    skipFrom_append hb (fun x hx => by cases hx) offset
  rwa [List.append_nil] at h

theorem readWord_append (word rest : List Char) (offset : Nat) :
    readWord word ⟨word ++ rest, offset⟩ = .ok ⟨rest, offset + word.length⟩ := by
  induction word generalizing offset with
  | nil => rfl
  | cons x word ih =>
      have hstep : readWord (x :: word) ⟨x :: (word ++ rest), offset⟩
          = readWord word ⟨word ++ rest, offset + 1⟩ := if_pos rfl
      rw [List.cons_append, hstep, ih, List.length_cons, Nat.add_right_comm, Nat.add_assoc]

/-! ## Numbers -/

/-- What follows does not go on with digits. -/
def NoDigit (rest : List Char) : Prop := ∀ x ∈ rest.head?, ¬ x.isDigit

theorem takeDigits_append {ds rest : List Char} (hds : Digits ds) (hrest : NoDigit rest)
    (offset : Nat) : takeDigits (ds ++ rest) offset = (ds, ⟨rest, offset + ds.length⟩) := by
  induction ds generalizing offset with
  | nil =>
      cases rest with
      | nil => rfl
      | cons x rest => exact if_neg (hrest x rfl)
  | cons d ds ih =>
      obtain ⟨hd, hds⟩ := List.forall_mem_cons.mp hds
      have hstep : takeDigits (d :: (ds ++ rest)) offset
          = (d :: (takeDigits (ds ++ rest) (offset + 1)).1,
            (takeDigits (ds ++ rest) (offset + 1)).2) := if_pos hd
      rw [List.cons_append, hstep, ih hds, List.length_cons, Nat.add_right_comm, Nat.add_assoc]

theorem scanWhole_append {whole rest : List Char} (h : SpellsWhole whole) (hrest : NoDigit rest)
    (atEnd : Cause) (offset : Nat) :
    ∃ offset', scanWhole atEnd ⟨whole ++ rest, offset⟩ = .ok (whole, ⟨rest, offset'⟩) := by
  cases h with
  | zero =>
      have hnone : ¬ rest.head?.any Char.isDigit := by
        rw [Option.any_eq_true]
        rintro ⟨x, hx, hdigit⟩
        exact hrest x hx hdigit
      refine ⟨offset + 1, ?_⟩
      simp only [scanWhole, List.cons_append, List.nil_append, if_true, if_neg hnone]
  | @digits d ds hd hne hds =>
      refine ⟨offset + (d :: ds).length, ?_⟩
      have hdigits : Digits (d :: ds) := List.forall_mem_cons.mpr ⟨hd, hds⟩
      have htake := takeDigits_append hdigits hrest offset
      simp only [scanWhole, List.cons_append, if_neg hne, if_pos hd]
      rw [← List.cons_append, htake]

theorem scanFraction_append {fraction : Option (List Char)} {f rest : List Char}
    (h : SpellsFraction fraction f) (hrest : NoDigit rest) (hpoint : ∀ x ∈ rest.head?, x ≠ '.')
    (atEnd : Cause) (offset : Nat) :
    ∃ offset', scanFraction atEnd ⟨f ++ rest, offset⟩ = .ok (fraction, ⟨rest, offset'⟩) := by
  cases h with
  | absent =>
      refine ⟨offset, ?_⟩
      unfold scanFraction
      split
      · rename_i t ht
        exact absurd rfl (hpoint '.' (congrArg List.head? ht))
      · rfl
  | @present ds hne hds =>
      refine ⟨offset + 1 + ds.length, ?_⟩
      simp only [scanFraction, List.cons_append, takeDigits_append hds hrest, if_neg hne]

theorem scanSign_append {down : Bool} {sign ds rest : List Char} (h : SpellsSign down sign)
    (hne : ds ≠ []) (hds : Digits ds) (offset : Nat) :
    scanSign ⟨sign ++ (ds ++ rest), offset⟩ = (down, ⟨ds ++ rest, offset + sign.length⟩) := by
  cases h with
  | absent =>
      obtain ⟨d, ds, rfl⟩ := List.exists_cons_of_ne_nil hne
      have hd : d.isDigit := hds d List.mem_cons_self
      unfold scanSign
      split
      · rename_i t ht
        cases ht
        exact absurd hd (by decide)
      · rename_i t ht
        cases ht
        exact absurd hd (by decide)
      · rfl
  | plus => rfl
  | minus => rfl

theorem scanExponent_append {exponent : Option (Bool × List Char)} {e rest : List Char}
    (h : SpellsExponent exponent e) (hrest : NoDigit rest)
    (hletter : ∀ x ∈ rest.head?, x ≠ 'e' ∧ x ≠ 'E') (atEnd : Cause) (offset : Nat) :
    ∃ offset', scanExponent atEnd ⟨e ++ rest, offset⟩ = .ok (exponent, ⟨rest, offset'⟩) := by
  cases h with
  | absent =>
      refine ⟨offset, ?_⟩
      cases rest with
      | nil => rfl
      | cons x t =>
          obtain ⟨hlower, hupper⟩ := hletter x rfl
          exact if_neg (not_or.mpr ⟨hlower, hupper⟩)
  | @present x down sign ds hx hsign hne hds =>
      refine ⟨offset + 1 + sign.length + ds.length, ?_⟩
      have htake := takeDigits_append hds hrest (offset + 1 + sign.length)
      obtain ⟨d, ds', rfl⟩ := List.exists_cons_of_ne_nil hne
      have hd : d.isDigit := hds d List.mem_cons_self
      have hscan : scanSign ⟨sign ++ (d :: ds' ++ rest), offset + 1⟩
          = (down, ⟨d :: ds' ++ rest, offset + 1 + sign.length⟩) :=
        scanSign_append hsign hne hds (offset + 1)
      simp only [scanExponent, List.cons_append, List.append_assoc, if_pos hx] at hscan htake ⊢
      simp only [hscan, if_pos hd, htake]

/-- What follows an exponent or the lack of one does not go on with the fraction. -/
theorem head_exponent {exponent : Option (Bool × List Char)} {e rest : List Char}
    (h : SpellsExponent exponent e) (hrest : EndsValue rest) :
    ∀ x ∈ (e ++ rest).head?, ¬ x.isDigit ∧ x ≠ '.' := by
  intro x hx
  cases h with
  | absent =>
      obtain ⟨t, ht⟩ := List.head?_eq_some_iff.mp hx
      exact ⟨(hrest.head_ne ht).1, (hrest.head_ne ht).2.1⟩
  | present hletter _ _ _ =>
      cases hx
      rcases hletter with rfl | rfl <;> decide

theorem head_fraction {fraction : Option (List Char)} {f rest : List Char}
    (h : SpellsFraction fraction f) (hrest : NoDigit rest) : NoDigit (f ++ rest) := by
  cases h with
  | absent => exact hrest
  | present _ _ =>
      intro x hx
      cases hx
      decide

theorem SpellsWhole.exists_cons {whole : List Char} (h : SpellsWhole whole) :
    ∃ d ds, whole = d :: ds ∧ d.isDigit := by
  cases h with
  | zero => exact ⟨_, _, rfl, by decide⟩
  | digits hd _ _ => exact ⟨_, _, rfl, hd⟩

/-- A spelled number is scanned in full, whatever the fault of a text that ends too early. -/
theorem scanNumber_append {t : NumberText} {text rest : List Char} (h : SpellsNumber t text)
    (hrest : EndsValue rest) (atEnd : Cause) (offset : Nat) :
    ∃ offset', scanNumber atEnd ⟨text ++ rest, offset⟩ = .ok (t, ⟨rest, offset'⟩) := by
  obtain @⟨negative, whole, fraction, exponent, f, e, hwhole, hfraction, hexponent⟩ := h
  have hhead := head_exponent hexponent hrest
  have hbehind : NoDigit (e ++ rest) := fun x hx => (hhead x hx).1
  have hdigit : NoDigit rest := by
    intro x hx
    obtain ⟨t, ht⟩ := List.head?_eq_some_iff.mp hx
    exact (hrest.head_ne ht).1
  have hletter : ∀ x ∈ rest.head?, x ≠ 'e' ∧ x ≠ 'E' := by
    intro x hx
    obtain ⟨t, ht⟩ := List.head?_eq_some_iff.mp hx
    exact (hrest.head_ne ht).2.2
  -- the parts behind the sign, from wherever they start
  have hparts : ∀ o, ∃ o', (scanWhole atEnd ⟨whole ++ (f ++ (e ++ rest)), o⟩ >>= fun w =>
      scanFraction atEnd w.2 >>= fun x => scanExponent atEnd x.2 >>= fun y =>
        Except.ok ((⟨negative, w.1, x.1, y.1⟩ : NumberText), y.2))
      = .ok (⟨negative, whole, fraction, exponent⟩, ⟨rest, o'⟩) := by
    intro o
    obtain ⟨o₁, h₁⟩ := scanWhole_append hwhole (head_fraction hfraction hbehind) atEnd o
    obtain ⟨o₂, h₂⟩ := scanFraction_append hfraction hbehind (fun x hx => (hhead x hx).2) atEnd o₁
    obtain ⟨o₃, h₃⟩ := scanExponent_append hexponent hdigit hletter atEnd o₂
    exact ⟨o₃, by rw [h₁, ok_bind, h₂, ok_bind, h₃, ok_bind]⟩
  simp only [List.append_assoc]
  cases negative with
  | true => exact hparts (offset + 1)
  | false =>
      -- no sign: the first digit is not taken for one
      obtain ⟨d, ds, rfl, hd⟩ := hwhole.exists_cons
      obtain ⟨o, ho⟩ := hparts offset
      refine ⟨o, Eq.trans ?_ ho⟩
      unfold scanNumber
      simp only [Bool.false_eq_true, if_false, List.nil_append, List.cons_append]
      split
      · rename_i t ht
        cases ht
        exact absurd hd (by decide)
      · rfl

theorem readNumber_append {t : NumberText} {n : Number} {text rest : List Char}
    (h : SpellsNumber t text) (hvalue : t.value = .value n) (hrest : EndsValue rest) (offset : Nat) :
    ∃ offset', readNumber ⟨text ++ rest, offset⟩ = .ok (n, ⟨rest, offset'⟩) := by
  obtain ⟨o, ho⟩ := scanNumber_append h hrest .endInValue offset
  refine ⟨o, ?_⟩
  simp only [readNumber, ho, ok_bind, hvalue]

/-! ## Fuel -/

/-- The fuel of a loop is a text.  One unit of it is spent, and what is left still suffices. -/
theorem exists_cons_of_succ_lt {n : Nat} {fuel : List Char} (h : n + 1 < fuel.length) :
    ∃ f rest, fuel = f :: rest ∧ n < rest.length := by
  obtain ⟨f, rest, rfl⟩ := List.exists_cons_of_length_pos (Nat.zero_lt_of_lt h)
  exact ⟨f, rest, rfl, Nat.lt_of_succ_lt_succ h⟩

/-! ## Characters of strings -/

/-- Four digits are read as the number that they stand for. -/
theorem readHex_append {n : Nat} {ds : List Char} (h : SpellsUnit n ds) (rest : List Char)
    (offset : Nat) : readHex ⟨ds ++ rest, offset⟩ = .ok (n, ⟨rest, offset + 4⟩) := by
  obtain @⟨w, x, y, z, a, b, c, d, hw, hx, hy, hz⟩ := h
  -- there are four bytes left, since every character takes one
  have hlength : ¬ Text.byteLength ([w, x, y, z] : List Char) < 4 := by
    have := w.utf8Size_pos
    have := x.utf8Size_pos
    have := y.utf8Size_pos
    have := z.utf8Size_pos
    simp only [Text.byteLength]
    omega
  simp only [readHex, List.cons_append, List.nil_append, List.take_succ_cons, List.take_zero,
    if_neg hlength, hw, hx, hy, hz]

theorem shortEscape?_of_mem {x c : Char} (h : (x, c) ∈ shortEscapes) :
    shortEscape? x = some c ∧ x ≠ 'u' := by
  simp only [shortEscapes, List.mem_cons, List.not_mem_nil, or_false, Prod.mk.injEq] at h
  rcases h with ⟨rfl, rfl⟩ | ⟨rfl, rfl⟩ | ⟨rfl, rfl⟩ | ⟨rfl, rfl⟩ | ⟨rfl, rfl⟩ | ⟨rfl, rfl⟩ |
    ⟨rfl, rfl⟩ | ⟨rfl, rfl⟩ <;> decide

/-- No character has the code of half of a surrogate pair. -/
theorem not_surrogate (c : Char) : ¬ isLowSurrogate c.toNat ∧ ¬ isHighSurrogate c.toNat := by
  have hvalid : c.toNat < 0xD800 ∨ 0xDFFF < c.toNat ∧ c.toNat < 0x110000 := c.valid
  simp only [isLowSurrogate, isHighSurrogate, Bool.and_eq_true, decide_eq_true_eq]
  omega

theorem readEscape_append {c : Char} {t : List Char} (h : SpellsChar c ('\\' :: t)) (rest : List Char)
    (offset : Nat) : ∃ offset', readEscape ⟨t ++ rest, offset⟩ = .ok (c, ⟨rest, offset'⟩) := by
  cases h with
  | plain _ ne_backslash _ => exact absurd rfl ne_backslash
  | short hescape =>
      obtain ⟨hshort, hne⟩ := shortEscape?_of_mem hescape
      refine ⟨offset + 1, ?_⟩
      simp only [readEscape, List.cons_append, List.nil_append, if_neg hne, hshort]
  | unit hdigits =>
      obtain ⟨hlow, hhigh⟩ := not_surrogate c
      refine ⟨offset + 1 + 4, ?_⟩
      simp only [readEscape, List.cons_append, if_true, readHex_append hdigits, ok_bind, hlow, hhigh,
        Char.ofNat_toNat, if_false, Bool.false_eq_true]
  | @pair _ high low ds es hds hes hhigh hlow hcode =>
      refine ⟨offset + 1 + 4 + 1 + 1 + 4, ?_⟩
      -- the first half is no second half, so that another one is read behind it
      have hnotLow : isLowSurrogate high = false := by
        simp only [isHighSurrogate, isLowSurrogate, Bool.and_eq_true, decide_eq_true_eq,
          Bool.and_eq_false_iff, decide_eq_false_iff_not] at hhigh ⊢
        omega
      simp only [readEscape, List.cons_append, List.append_assoc, if_true, readHex_append hds,
        ok_bind, hnotLow, hhigh, if_false, Bool.false_eq_true, readPair, readHex_append hes, hlow,
        ← hcode, Char.ofNat_toNat]

/-- A character is spelled by itself or behind a backslash. -/
theorem SpellsChar.plain_or_escape {c : Char} {t : List Char} (h : SpellsChar c t) :
    (t = [c] ∧ c ≠ '"' ∧ c ≠ '\\' ∧ ¬ c.toNat < 0x20) ∨ ∃ t', t = '\\' :: t' := by
  cases h with
  | plain hquote hbackslash hvisible =>
      exact .inl ⟨rfl, hquote, hbackslash, Nat.not_lt.mpr hvisible⟩
  | _ => exact .inr ⟨_, rfl⟩

theorem readChars_char {c : Char} {t : List Char} (h : SpellsChar c t) (f : Char)
    (fuel done rest : List Char) (offset : Nat) :
    ∃ offset', readChars (f :: fuel) done ⟨t ++ rest, offset⟩
      = readChars fuel (c :: done) ⟨rest, offset'⟩ := by
  rcases h.plain_or_escape with ⟨rfl, hquote, hbackslash, hvisible⟩ | ⟨t, rfl⟩
  · refine ⟨offset + c.utf8Size, ?_⟩
    simp only [readChars, List.cons_append, List.nil_append, if_neg hquote, if_neg hbackslash,
      if_neg hvisible]
  · obtain ⟨o, ho⟩ := readEscape_append h rest (offset + 1)
    refine ⟨o, ?_⟩
    have hne : '\\' ≠ '"' := by decide
    simp only [readChars, List.cons_append, if_neg hne, if_true, ho, ok_bind]

theorem SpellsChar.length_pos {c : Char} {t : List Char} (h : SpellsChar c t) : 0 < t.length := by
  rcases h.plain_or_escape with ⟨rfl, -⟩ | ⟨t, rfl⟩ <;> exact Nat.succ_pos _

/-- One character takes one unit of fuel, and each is at least as long. -/
theorem readChars_append {cs body : List Char} (h : SpellsChars cs body) (rest : List Char)
    (fuel done : List Char) (hfuel : body.length < fuel.length) (offset : Nat) :
    ∃ offset', readChars fuel done ⟨body ++ '"' :: rest, offset⟩
      = .ok (done.reverse ++ cs, ⟨rest, offset'⟩) := by
  induction h generalizing fuel done offset with
  | nil =>
      -- the quote that ends the string takes the last unit
      obtain ⟨f, fuel, rfl⟩ := List.exists_cons_of_length_pos hfuel
      refine ⟨offset + 1, ?_⟩
      rw [List.append_nil]
      rfl
  | @cons c cs t ts hc _ ih =>
      have hpos := hc.length_pos
      rw [List.length_append] at hfuel
      have hroom : ts.length + 1 < fuel.length := by omega
      obtain ⟨f, fuel, rfl, hlength⟩ := exists_cons_of_succ_lt hroom
      obtain ⟨o, ho⟩ := readChars_char hc f fuel done (ts ++ '"' :: rest) offset
      obtain ⟨o', ho'⟩ := ih fuel (c :: done) hlength o
      refine ⟨o', ?_⟩
      rw [List.append_assoc, ho, ho', List.reverse_cons, List.append_assoc, List.singleton_append]

/-- A string is read behind its first quote. -/
theorem readString_append {s : String} {body : List Char} (h : SpellsChars s.toList body)
    (rest : List Char) (offset : Nat) :
    ∃ offset', readString ⟨body ++ '"' :: rest, offset⟩ = .ok (s, ⟨rest, offset'⟩) := by
  have hfuel : body.length < (body ++ '"' :: rest).length := by
    rw [List.length_append, List.length_cons]
    omega
  obtain ⟨o, ho⟩ := readChars_append h rest _ [] hfuel offset
  refine ⟨o, ?_⟩
  simp only [readString, ho, ok_bind, List.reverse_nil, List.nil_append, String.ofList_toList]

/-! ## Strings that nobody asks for -/

theorem skipChars_unit {n : Nat} {ds : List Char} (h : SpellsUnit n ds) (f : Char)
    (fuel rest : List Char) (offset : Nat) :
    ∃ offset', skipChars (f :: fuel) ⟨'\\' :: 'u' :: (ds ++ rest), offset⟩
      = skipChars fuel ⟨rest, offset'⟩ := by
  refine ⟨offset + 1 + 1 + 4, ?_⟩
  have hne : '\\' ≠ '"' := by decide
  simp only [skipChars, if_neg hne, if_true, skipEscape, readHex_append h, ok_bind]

theorem SpellsUnit.length_eq {n : Nat} {ds : List Char} (h : SpellsUnit n ds) : ds.length = 4 := by
  cases h
  rfl

/-- A character is skipped.  A surrogate pair is skipped half by half, so how much fuel that takes
depends on the spelling; it is never more than its length. -/
theorem skipChars_char {c : Char} {t : List Char} (h : SpellsChar c t) (fuel rest : List Char)
    (hfuel : t.length ≤ fuel.length) (offset : Nat) :
    ∃ fuel' offset', skipChars fuel ⟨t ++ rest, offset⟩ = skipChars fuel' ⟨rest, offset'⟩ ∧
      fuel.length ≤ fuel'.length + t.length := by
  obtain ⟨f, fuel, rfl⟩ := List.exists_cons_of_length_pos (Nat.lt_of_lt_of_le h.length_pos hfuel)
  cases h with
  | plain hquote hbackslash hvisible =>
      refine ⟨fuel, offset + c.utf8Size, ?_, by simp⟩
      simp only [skipChars, List.cons_append, List.nil_append, if_neg hquote, if_neg hbackslash,
        if_neg (Nat.not_lt.mpr hvisible)]
  | short hescape =>
      obtain ⟨hshort, hne⟩ := shortEscape?_of_mem hescape
      have hquote : '\\' ≠ '"' := by decide
      refine ⟨fuel, offset + 1 + 1, ?_, by simp⟩
      simp only [skipChars, skipEscape, List.cons_append, List.nil_append, if_neg hquote, if_true,
        if_neg hne, hshort, Option.isSome_some, ok_bind]
  | unit hdigits =>
      obtain ⟨o, ho⟩ := skipChars_unit hdigits f fuel rest offset
      exact ⟨fuel, o, ho, by simp⟩
  | @pair _ high low ds es hds hes _ _ _ =>
      -- four digits are left behind the first half, so there is fuel for the second
      have hlength := hds.length_eq
      simp only [List.length_cons, List.length_append] at hfuel
      obtain ⟨g, fuel, rfl⟩ := List.exists_cons_of_length_pos (show 0 < fuel.length by omega)
      obtain ⟨o, ho⟩ := skipChars_unit hds f (g :: fuel) ('\\' :: 'u' :: (es ++ rest)) offset
      obtain ⟨o', ho'⟩ := skipChars_unit hes g fuel rest o
      refine ⟨fuel, o', ?_, by simp only [List.length_cons, List.length_append]; omega⟩
      rw [← ho', ← ho]
      simp only [List.cons_append, List.append_assoc]

theorem skipChars_append {cs body : List Char} (h : SpellsChars cs body) (rest fuel : List Char)
    (hfuel : body.length < fuel.length) (offset : Nat) :
    ∃ offset', skipChars fuel ⟨body ++ '"' :: rest, offset⟩ = .ok ⟨rest, offset'⟩ := by
  induction h generalizing fuel offset with
  | nil =>
      obtain ⟨f, fuel, rfl⟩ := List.exists_cons_of_length_pos hfuel
      exact ⟨offset + 1, rfl⟩
  | @cons c cs t ts hc _ ih =>
      rw [List.length_append] at hfuel
      obtain ⟨fuel', o, ho, hlength⟩ :=
        skipChars_char hc fuel (ts ++ '"' :: rest) (by omega) offset
      obtain ⟨o', ho'⟩ := ih fuel' (by omega) o
      exact ⟨o', by rw [List.append_assoc, ho, ho']⟩

/-- A string is skipped behind its first quote. -/
theorem skipString_append {s : String} {body : List Char} (h : SpellsChars s.toList body)
    (rest : List Char) (offset : Nat) :
    ∃ offset', skipString ⟨body ++ '"' :: rest, offset⟩ = .ok ⟨rest, offset'⟩ := by
  refine skipChars_append h rest _ ?_ offset
  rw [List.length_append, List.length_cons]
  omega

end ApiProto.Json
