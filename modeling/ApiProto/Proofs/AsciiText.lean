/-
  Texts of ASCII characters.

  In ASCII a letter has one letter of the other case, and it has that whatever stands beside it.  So
  the case mappings of texts and words are those of their characters, a word can be capitalized or
  brought to lower case before or after the other, and the words of a text hold nothing but its
  characters.
-/
import ApiProto.Text.Words
import Mathlib

namespace ApiProto.Text

/-- All characters of a text are ASCII. -/
def IsAscii (s : List Char) : Prop := ∀ c ∈ s, c.toNat < 0x80

instance (s : List Char) : Decidable (IsAscii s) :=
  List.decidableBAll (fun c : Char => c.toNat < 0x80) s

theorem isAscii_cons {c : Char} {s : List Char} :
    IsAscii (c :: s) ↔ c.toNat < 0x80 ∧ IsAscii s :=
  List.forall_mem_cons

theorem isAscii_append {s t : List Char} : IsAscii (s ++ t) ↔ IsAscii s ∧ IsAscii t :=
  List.forall_mem_append

/-- What holds of the characters of a separator and of parts holds of those of the whole. -/
theorem forall_mem_intercalate {p : Char → Prop} {sep : List Char} (hsep : ∀ c ∈ sep, p c)
    {ss : List (List Char)} (hss : ∀ s ∈ ss, ∀ c ∈ s, p c) : ∀ c ∈ sep.intercalate ss, p c := by
  induction ss with
  | nil => exact List.forall_mem_nil _
  | cons s ss ih =>
      obtain ⟨hs, hrest⟩ := List.forall_mem_cons.mp hss
      cases ss with
      | nil => rwa [List.intercalate_singleton]
      | cons r rs =>
          rw [List.intercalate_cons_cons]
          exact List.forall_mem_append.mpr ⟨List.forall_mem_append.mpr ⟨hs, hsep⟩, ih hrest⟩

/-! ## Characters -/

/-- What holds of each code point below U+0080 holds of each ASCII character. -/
theorem ascii_forall {p : Char → Prop} (h : ∀ n < 0x80, p (Char.ofNat n)) {c : Char}
    (hc : c.toNat < 0x80) : p c := by
  have hp := h c.toNat hc
  rwa [Char.ofNat_toNat] at hp

theorem toNat_toLower_lt {c : Char} (h : c.toNat < 0x80) : c.toLower.toNat < 0x80 :=
  ascii_forall (p := fun c => c.toLower.toNat < 0x80) (by decide) h

theorem toNat_toUpper_lt {c : Char} (h : c.toNat < 0x80) : c.toUpper.toNat < 0x80 :=
  ascii_forall (p := fun c => c.toUpper.toNat < 0x80) (by decide) h

theorem isAlphanum_toLower {c : Char} (hlt : c.toNat < 0x80) (h : c.isAlphanum) :
    c.toLower.isAlphanum :=
  ascii_forall (p := fun c => c.isAlphanum → c.toLower.isAlphanum) (by decide) hlt h

theorem isWordChar_of_lt {c : Char} (h : c.toNat < 0x80) : isWordChar c = c.isAlphanum := by
  rw [isWordChar, isAlphabetic_of_lt h, isNumeric_of_lt h]
  rfl

/-- The only letter whose lower case depends on its neighbours is not ASCII. -/
theorem ne_sigma {c : Char} (h : c.toNat < 0x80) : c ≠ 'Σ' := by
  rintro rfl
  exact absurd h (by decide)

/-! ## Texts and words -/

section Words

variable {s w : List Char}

theorem isAscii_map_toLower (h : IsAscii s) : IsAscii (s.map Char.toLower) :=
  List.forall_mem_map.mpr fun c hc => toNat_toLower_lt (h c hc)

theorem isAscii_map_toUpper (h : IsAscii s) : IsAscii (s.map Char.toUpper) :=
  List.forall_mem_map.mpr fun c hc => toNat_toUpper_lt (h c hc)

theorem upperText_eq_map (h : IsAscii s) : upperText s = s.map Char.toUpper := by
  have hupper : ∀ c ∈ s, upperChar c = [c.toUpper] := fun c hc => upperChar_of_lt (h c hc)
  rw [upperText, List.flatMap_congr hupper, List.map_eq_flatMap]

theorem lowerText_eq_map (h : IsAscii s) : lowerText s = s.map Char.toLower := by
  have hafter : ∀ before, lowerAfter before s = s.map Char.toLower := by
    induction s with
    | nil => exact fun _ => rfl
    | cons c s ih =>
        intro before
        obtain ⟨hc, hs⟩ := isAscii_cons.mp h
        rw [lowerAfter, if_neg (ne_sigma hc), lowerChar_of_lt hc, ih hs]
        rfl
  exact hafter []

theorem lowerWord_eq_map (h : IsAscii w) : lowerWord w = w.map Char.toLower := by
  induction w with
  | nil => rfl
  | cons c w ih =>
      obtain ⟨hc, hw⟩ := isAscii_cons.mp h
      cases w with
      | nil => rw [lowerWord, if_neg (ne_sigma hc), lowerChar_of_lt hc, List.map_singleton]
      | cons d w =>
          rw [lowerWord, lowerChar_of_lt hc, ih hw]
          · rfl
          · exact List.cons_ne_nil d w

theorem isAscii_lowerWord (h : IsAscii w) : IsAscii (lowerWord w) := by
  rw [lowerWord_eq_map h]
  exact isAscii_map_toLower h

theorem lowerWord_lowerWord (h : IsAscii w) : lowerWord (lowerWord w) = lowerWord w := by
  rw [lowerWord_eq_map (isAscii_lowerWord h), lowerWord_eq_map h, List.map_map]
  exact List.map_congr_left fun c _ => c.toLower_toLower_eq_toLower

theorem capitalize_eq_cons {c : Char} (h : IsAscii (c :: w)) :
    capitalize (c :: w) = c.toUpper :: w.map Char.toLower := by
  obtain ⟨hc, hw⟩ := isAscii_cons.mp h
  rw [capitalize, upperChar_of_lt hc, lowerWord_eq_map hw]
  rfl

theorem isAscii_capitalize (h : IsAscii w) : IsAscii (capitalize w) := by
  cases w with
  | nil => exact h
  | cons c w =>
      obtain ⟨hc, hw⟩ := isAscii_cons.mp h
      rw [capitalize_eq_cons h]
      exact isAscii_cons.mpr ⟨toNat_toUpper_lt hc, isAscii_map_toLower hw⟩

theorem capitalize_lowerWord (h : IsAscii w) : capitalize (lowerWord w) = capitalize w := by
  cases w with
  | nil => rfl
  | cons c w =>
      have hlower := isAscii_lowerWord h
      rw [lowerWord_eq_map h, List.map_cons] at hlower ⊢
      rw [capitalize_eq_cons hlower, capitalize_eq_cons h, c.toUpper_toLower_eq_toUpper,
        List.map_map]
      congr 1
      exact List.map_congr_left fun d _ => d.toLower_toLower_eq_toLower

theorem lowerWord_capitalize (h : IsAscii w) : lowerWord (capitalize w) = lowerWord w := by
  cases w with
  | nil => rfl
  | cons c w =>
      rw [lowerWord_eq_map (isAscii_capitalize h), capitalize_eq_cons h, lowerWord_eq_map h,
        List.map_cons, List.map_cons, c.toLower_toUpper_eq_toLower, List.map_map]
      congr 1
      exact List.map_congr_left fun d _ => d.toLower_toLower_eq_toLower

/-! ## The words of a text -/

theorem flatten_extendFirst (c : Char) (ss : List (List Char)) :
    (extendFirst c ss).flatten = c :: ss.flatten := by
  cases ss <;> rfl

/-- The segments of a text are its word characters. -/
theorem flatten_segments (s : List Char) : (segments s).flatten = s.filter isWordChar := by
  induction s with
  | nil => rfl
  | cons c s ih =>
      rw [segments]
      by_cases hc : isWordChar c
      · rw [if_pos hc, List.filter_cons_of_pos hc, ← ih]
        split
        · exact flatten_extendFirst c _
        · rfl
      · rw [if_neg hc, List.filter_cons_of_neg hc, ih]

/-- Cutting a segment into words loses no character. -/
theorem flatten_splitHumps (hump : Hump) (word s : List Char) :
    (splitHumps hump word s).flatten = word ++ s := by
  fun_induction splitHumps hump word s with
  | case1 => simp
  | case2 => simp
  | case3 _ _ _ _ _ _ ih => simp [ih]
  | case4 _ _ _ _ _ _ _ ih => simp [ih]
  | case5 _ _ _ _ _ _ _ ih => simp [ih]

/-- The words of a text hold its word characters, and nothing else. -/
theorem flatten_words (s : List Char) : (words s).flatten = s.filter isWordChar := by
  rw [words, ← flatten_segments]
  induction segments s with
  | nil => rfl
  | cons seg segs ih =>
      rw [List.flatMap_cons, List.flatten_append, flatten_splitHumps, ih]
      rfl

theorem mem_and_isWordChar_of_mem_words {c : Char} (hw : w ∈ words s) (hc : c ∈ w) :
    c ∈ s ∧ isWordChar c := by
  have hmem : c ∈ (words s).flatten := List.mem_flatten.mpr ⟨w, hw, hc⟩
  rwa [flatten_words, List.mem_filter] at hmem

theorem isAscii_of_mem_words (h : IsAscii s) (hw : w ∈ words s) : IsAscii w := fun c hc =>
  h c (mem_and_isWordChar_of_mem_words hw hc).1

theorem isAlphanum_of_mem_words {c : Char} (h : IsAscii s) (hw : w ∈ words s) (hc : c ∈ w) :
    c.isAlphanum := by
  obtain ⟨hmem, hword⟩ := mem_and_isWordChar_of_mem_words hw hc
  rwa [isWordChar_of_lt (h c hmem)] at hword

end Words

end ApiProto.Text
