/-
  Values that nobody asks for are passed over as they are spelled, however deep they nest.

  The fuel of `skipNested` is a text; one that is at least as long as the spelling suffices, since
  an item is shorter than the array or object that it stands in.
-/
import ApiProto.Json.Reader
import ApiProto.Proofs.Reading.Scanning

namespace ApiProto.Json

/-! ## How a value begins -/

/-- Whether a spelling of the value may begin with the character. -/
def mayBegin : Json → Char → Bool
  | .null, x => x == 'n'
  | .bool true, x => x == 't'
  | .bool false, x => x == 'f'
  | .number _, x => x == '-' || x.isDigit
  | .string _, x => x == '"'
  | .array _, x => x == '['
  | .object _, x => x == '\x7b'

theorem Spells.exists_cons {v : Json} {text : List Char} (h : Spells v text) :
    ∃ x t, text = x :: t ∧ v.mayBegin x := by
  cases h with
  | number hspelled _ =>
      obtain @⟨negative, whole, fraction, exponent, f, e, hwhole, -, -⟩ := hspelled
      cases negative with
      | true => exact ⟨_, _, rfl, rfl⟩
      | false =>
          obtain ⟨d, ds, rfl, hd⟩ := hwhole.exists_cons
          exact ⟨d, _, rfl, by simp [mayBegin, hd]⟩
  | string hspelled =>
      cases hspelled
      exact ⟨_, _, rfl, rfl⟩
  | _ => exact ⟨_, _, rfl, rfl⟩

theorem Spells.length_pos {v : Json} {text : List Char} (h : Spells v text) : 0 < text.length := by
  obtain ⟨x, t, rfl, -⟩ := h.exists_cons
  exact Nat.succ_pos _

/-- No value begins with a blank, a separator or a closing bracket. -/
theorem mayBegin_ne {v : Json} {x : Char} (h : v.mayBegin x) :
    ¬ isSpace x ∧ x ≠ ',' ∧ x ≠ ']' ∧ x ≠ '\x7d' := by
  have hfalse : ∀ y, isSpace y ∨ y = ',' ∨ y = ']' ∨ y = '\x7d' → v.mayBegin y = false := by
    intro y hy
    simp only [isSpace, Bool.or_eq_true, beq_iff_eq] at hy
    rcases hy with (((rfl | rfl) | rfl) | rfl) | rfl | rfl | rfl <;>
      (cases v with
      | bool b => cases b <;> rfl
      | _ => rfl)
  have hx := mt (hfalse x)
  simpa [h, not_or] using hx

/-- A number begins like no other value. -/
theorem mayBegin_number {n : Number} {x : Char} (h : (Json.number n).mayBegin x) :
    (x = '-' ∨ x.isDigit) ∧ x ≠ 'n' ∧ x ≠ 't' ∧ x ≠ 'f' ∧ x ≠ '"' ∧ x ≠ '[' ∧ x ≠ '\x7b' := by
  simp only [mayBegin, Bool.or_eq_true, beq_iff_eq] at h
  refine ⟨h, ?_, ?_, ?_, ?_, ?_, ?_⟩ <;> (rintro rfl; revert h; decide)

/-- What stands behind the blanks of a value. -/
theorem Spells.skipBlanks_append {v : Json} {text b : List Char} (h : Spells v text) (hb : Blank b)
    (rest : List Char) (offset : Nat) :
    (Cursor.mk (b ++ (text ++ rest)) offset).skipBlanks = ⟨text ++ rest, offset + b.length⟩ := by
  obtain ⟨x, t, rfl, hx⟩ := h.exists_cons
  exact Json.skipBlanks_append hb (mayBegin_ne hx).1 offset

/-! ## Colons -/

theorem readColon_append {b : List Char} (hb : Blank b) (rest : List Char) (offset : Nat) :
    ∃ offset', readColon ⟨b ++ ':' :: rest, offset⟩ = .ok ⟨rest, offset'⟩ := by
  refine ⟨offset + b.length + 1, ?_⟩
  simp only [readColon, Json.skipBlanks_append hb (show ¬ isSpace ':' by decide)]

/-! ## Items and members -/

/-- What stands before the next part: nothing before the first, else blanks and a comma. -/
inductive Lead : Bool → List Char → Prop
  | first : Lead true []
  | next {b : List Char} (blank : Blank b) : Lead false (b ++ [','])

/-- A reader passes over every part whose spelling is at most as long as a bound, with blanks before
it. -/
def Skips {α : Type} (Part : α → List Char → Prop) (bound : Nat)
    (skip : Cursor → Except Fault Cursor) : Prop :=
  ∀ {a : α} {text b : List Char}, Part a text → Blank b → text.length ≤ bound →
    ∀ rest offset, EndsValue rest →
      ∃ offset', skip ⟨b ++ (text ++ rest), offset⟩ = .ok ⟨rest, offset'⟩

variable {α : Type} {Part : α → List Char → Prop} {bound : Nat} {skip : Cursor → Except Fault Cursor}

/-- A loop takes one unit of fuel for each part and one for the closing bracket. -/
structure SkipsParts (Part : α → List Char → Prop) (bound : Nat) (close : Char)
    (loop : List Char → Bool → Cursor → Except Fault Cursor) : Prop where
  step : ∀ {a : α} {first : Bool} {lead b t rest : List Char}, Lead first lead → Blank b →
    Part a t → t.length ≤ bound → EndsValue rest → ∀ f fuel offset, ∃ offset',
      loop (f :: fuel) first ⟨lead ++ (b ++ (t ++ rest)), offset⟩ = loop fuel false ⟨rest, offset'⟩
  last : ∀ {b fuel : List Char}, Blank b → 0 < fuel.length → ∀ first rest offset, ∃ offset',
    loop fuel first ⟨b ++ close :: rest, offset⟩ = .ok ⟨rest, offset'⟩
  ends : ∀ rest, EndsValue (close :: rest)
  length_pos : ∀ {a : α} {t : List Char}, Part a t → 0 < t.length

/-- Parts are skipped one by one, up to the bracket behind them. -/
theorem SkipsParts.loop_append {close : Char}
    {loop : List Char → Bool → Cursor → Except Fault Cursor}
    (hloop : SkipsParts Part bound close loop) {as : List α} {text : List Char} (h : Joined Part as text) (hbound : text.length ≤ bound)
    {fuel : List Char} (hfuel : text.length < fuel.length) {first : Bool} {lead : List Char}
    (hlead : Lead first lead) (rest : List Char) (offset : Nat) :
    ∃ offset', loop fuel first ⟨lead ++ (text ++ close :: rest), offset⟩ = .ok ⟨rest, offset'⟩ := by
  induction h generalizing fuel first lead offset with
  | @single a b t b' hb ht hb' =>
      have hpos := hloop.length_pos ht
      simp only [List.length_append] at hbound hfuel
      have hroom : 0 + 1 < fuel.length := by omega
      obtain ⟨f, fuel, rfl, hlast⟩ := exists_cons_of_succ_lt hroom
      have hrest : EndsValue (b' ++ close :: rest) := (hloop.ends rest).blank_append hb'
      obtain ⟨o, ho⟩ := hloop.step hlead hb ht (by omega) hrest f fuel offset
      obtain ⟨o', ho'⟩ := hloop.last hb' hlast false rest o
      exact ⟨o', by rw [List.append_assoc, List.append_assoc, ho, ho']⟩
  | @cons a as b t b' text hb ht hb' _ ih =>
      simp only [List.length_append, List.length_cons] at hbound hfuel
      -- the part and the comma behind it take one unit, and they are at least as long
      have hroom : text.length + 1 < fuel.length := by omega
      obtain ⟨f, fuel, rfl, hlength⟩ := exists_cons_of_succ_lt hroom
      have hrest : EndsValue (b' ++ ',' :: (text ++ close :: rest)) :=
        (endsValue_cons (by simp)).blank_append hb'
      obtain ⟨o, ho⟩ := hloop.step hlead hb ht (by omega) hrest f fuel offset
      obtain ⟨o', ho'⟩ := ih (by omega) hlength (.next hb') o
      refine ⟨o', ?_⟩
      rw [← ho']
      simp only [List.append_assoc, List.cons_append, List.nil_append, ho]

/-- The parts between two brackets are skipped, with the text itself as the fuel. -/
theorem SkipsParts.enclosed_append {close : Char}
    {loop : List Char → Bool → Cursor → Except Fault Cursor}
    (hloop : SkipsParts Part bound close loop) {as : List α} {text : List Char} (h : Enclosed Part as text) (hbound : text.length ≤ bound)
    (rest : List Char) (offset : Nat) :
    ∃ offset', loop (text ++ ([close] ++ rest)) true ⟨text ++ ([close] ++ rest), offset⟩
      = .ok ⟨rest, offset'⟩ := by
  have hlength : text.length < (text ++ ([close] ++ rest)).length := by simp
  cases h with
  | empty hblank =>
      exact hloop.last hblank (Nat.zero_lt_of_lt hlength) true rest offset
  | parts hjoined => exact hloop.loop_append hjoined hbound hlength .first rest offset

theorem skipsParts_skipItems (hskip : Skips Spells bound skip) :
    SkipsParts Spells bound ']' (skipItems skip) where
  step := by
    intro v first lead b t rest hlead hb ht hbound hrest f fuel offset
    cases hlead with
    | first =>
        obtain ⟨o, ho⟩ := hskip ht blank_nil hbound rest (offset + b.length) hrest
        obtain ⟨x, t, rfl, hx⟩ := ht.exists_cons
        obtain ⟨hspace, hcomma, hbracket, -⟩ := mayBegin_ne hx
        refine ⟨o, ?_⟩
        have hblank := Json.skipBlanks_append (t := t ++ rest) hb hspace offset
        rw [List.nil_append, List.cons_append] at ho ⊢
        rw [skipItems, hblank]
        split
        · rename_i heq
          cases heq
        · rename_i heq
          cases heq
          exact absurd rfl hbracket
        · rename_i heq
          cases heq
          exact absurd rfl hcomma
        · rw [if_pos rfl, ho, ok_bind]
    | @next b' hb' =>
        obtain ⟨o, ho⟩ := hskip ht hb hbound rest (offset + b'.length + 1) hrest
        refine ⟨o, ?_⟩
        have hcomma : ¬ isSpace ',' := by decide
        rw [skipItems, List.append_assoc, List.singleton_append, Json.skipBlanks_append hb' hcomma]
        simp only [Bool.false_eq_true, if_false, ho, ok_bind]
  last := by
    intro b fuel hb hfuel first rest offset
    obtain ⟨f, fuel, rfl⟩ := List.exists_cons_of_length_pos hfuel
    refine ⟨offset + b.length + 1, ?_⟩
    rw [skipItems, Json.skipBlanks_append hb (by decide)]
    rfl
  ends _ := endsValue_cons (by simp)
  length_pos ht := ht.length_pos

theorem SpellsMember.exists_cons {m : String × Json} {t : List Char}
    (h : SpellsMember Spells m t) : ∃ t', t = '"' :: t' := by
  obtain @⟨name, v, n, b, b', t, hname, -, -, -⟩ := h
  cases hname
  exact ⟨_, rfl⟩

theorem skipsParts_skipMembers (hskip : Skips (SpellsMember Spells) bound (skipMember skip)) :
    SkipsParts (SpellsMember Spells) bound '\x7d' (skipMembers skip) where
  step := by
    intro m first lead b t rest hlead hb ht hbound hrest f fuel offset
    have hquote : ¬ isSpace '"' := by decide
    cases hlead with
    | first =>
        obtain ⟨o, ho⟩ := hskip ht blank_nil hbound rest (offset + b.length) hrest
        obtain ⟨t, rfl⟩ := ht.exists_cons
        refine ⟨o, ?_⟩
        rw [List.nil_append, List.cons_append] at ho ⊢
        rw [skipMembers, Json.skipBlanks_append hb hquote]
        simp only [if_true, ho, ok_bind]
        rfl
    | @next b' hb' =>
        obtain ⟨o, ho⟩ := hskip ht hb hbound rest (offset + b'.length + 1) hrest
        refine ⟨o, ?_⟩
        have hcomma : ¬ isSpace ',' := by decide
        rw [skipMembers, List.append_assoc, List.singleton_append, Json.skipBlanks_append hb' hcomma]
        simp only [Bool.false_eq_true, if_false, ho, ok_bind]
  last := by
    intro b fuel hb hfuel first rest offset
    obtain ⟨f, fuel, rfl⟩ := List.exists_cons_of_length_pos hfuel
    refine ⟨offset + b.length + 1, ?_⟩
    rw [skipMembers, Json.skipBlanks_append hb (by decide)]
    rfl
  ends _ := endsValue_cons (by simp)
  length_pos ht := by
    obtain ⟨t, rfl⟩ := ht.exists_cons
    exact Nat.succ_pos _

/-- A member is skipped if its value is. -/
theorem skips_skipMember (hskip : Skips Spells bound skip) :
    Skips (SpellsMember Spells) bound (skipMember skip) := by
  intro m text b hm hb hbound rest offset hrest
  obtain @⟨name, v, _, b₁, b₂, t, ⟨hchars⟩, hb₁, hb₂, hv⟩ := hm
  rename_i body
  simp only [List.length_append, List.length_cons] at hbound
  obtain ⟨o₁, h₁⟩ := skipString_append hchars (b₁ ++ ':' :: (b₂ ++ (t ++ rest)))
    (offset + b.length + 1)
  obtain ⟨o₂, h₂⟩ := readColon_append hb₁ (b₂ ++ (t ++ rest)) o₁
  obtain ⟨o₃, h₃⟩ := hskip hv hb₂ (by omega) rest o₂ hrest
  refine ⟨o₃, ?_⟩
  have hquote : ¬ isSpace '"' := by decide
  simp only [List.cons_append, List.append_assoc, List.nil_append]
  rw [skipMember, Json.skipBlanks_append hb hquote]
  simp only [h₁, h₂, h₃, ok_bind]

/-! ## Values -/

/-- Values whose spelling is at most as long as the fuel are skipped: one unit is spent for each level
of nesting, and what stands inside an array or object is shorter than it. -/
theorem skips_skipNested (fuel : List Char) : Skips Spells fuel.length (skipNested fuel) := by
  induction fuel with
  | nil =>
      -- there is nothing to skip: no value has an empty spelling
      intro v text b hv _ hbound
      obtain ⟨x, t, rfl, -⟩ := hv.exists_cons
      cases hbound
  | cons f fuel ih =>
      intro v text b hv hb hbound rest offset hrest
      rw [skipNested, hv.skipBlanks_append hb]
      cases hv with
      | null => exact ⟨_, readWord_append "null".toList rest _⟩
      | boolTrue => exact ⟨_, readWord_append "true".toList rest _⟩
      | boolFalse => exact ⟨_, readWord_append "false".toList rest _⟩
      | number hspelled hvalue =>
          obtain ⟨o, ho⟩ := scanNumber_append hspelled hrest .badNumber (offset + b.length)
          obtain ⟨x, t, rfl, hx⟩ := (Spells.number hspelled hvalue).exists_cons
          obtain ⟨hnumber, hn, ht, hf, -⟩ := mayBegin_number hx
          refine ⟨o, ?_⟩
          rw [List.cons_append] at ho ⊢
          simp only [if_neg hn, if_neg ht, if_neg hf, if_pos hnumber, ho, ok_bind]
      | string hspelled =>
          obtain @⟨body, hchars⟩ := hspelled
          rw [List.cons_append, List.append_assoc]
          exact skipString_append hchars rest (offset + b.length + 1)
      | array hitems =>
          rw [List.cons_append, List.append_assoc]
          simp only [List.length_cons, List.length_append] at hbound
          have hloop := skipsParts_skipItems ih
          exact hloop.enclosed_append hitems (by omega) rest _
      | object hmembers _ =>
          rw [List.cons_append, List.append_assoc]
          simp only [List.length_cons, List.length_append] at hbound
          have hloop := skipsParts_skipMembers (skips_skipMember ih)
          exact hloop.enclosed_append hmembers (by omega) rest _

/-- A value is skipped up to what ends it. -/
theorem skipValue_append {v : Json} {text b rest : List Char} (h : Spells v text) (hb : Blank b)
    (hrest : EndsValue rest) (offset : Nat) :
    ∃ offset', skipValue ⟨b ++ (text ++ rest), offset⟩ = .ok ⟨rest, offset'⟩ := by
  refine skips_skipNested (b ++ (text ++ rest)) h hb ?_ rest offset hrest
  simp only [List.length_append]
  omega

end ApiProto.Json
