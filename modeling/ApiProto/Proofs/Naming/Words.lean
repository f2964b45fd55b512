/-
  The words of a name, and names that can be read back from their joined form.

  The words of a text are those before a separator and those behind it, and a stretch without
  capitals is one word.  So the words of a snake-case name are what stands between its underscores.
  Capitalized and put together they can still be told apart, since each starts with the only capital
  that it has: neither the Pascal nor the camel form brings two such names together.
-/
import ApiProto.Text.Words

namespace ApiProto.Text

/-! ## Segments -/

theorem extendFirst_append {ss : List (List Char)} (h : ss ≠ []) (c : Char)
    (ts : List (List Char)) : extendFirst c (ss ++ ts) = extendFirst c ss ++ ts := by
  cases ss with
  | nil => exact absurd rfl h
  | cons w ws => rfl

theorem segments_ne_nil {c : Char} (h : isWordChar c) (s : List Char) : segments (c :: s) ≠ [] := by
  rw [segments, if_pos h]
  split
  · cases segments s <;> exact List.cons_ne_nil _ _
  · exact List.cons_ne_nil _ _

/-- A separator parts the segments before it from those behind it. -/
theorem segments_append_separator {sep : Char} (hsep : ¬ isWordChar sep) (s rest : List Char) :
    segments (s ++ sep :: rest) = segments s ++ segments rest := by
  induction s with
  | nil => simp only [List.nil_append, segments, if_neg hsep]
  | cons c s ih =>
      rw [List.cons_append, segments, segments]
      by_cases hc : isWordChar c
      · rw [if_pos hc, if_pos hc, ih]
        -- whether the segment of the first character goes on is decided before the separator
        cases s with
        | nil => simp [hsep]
        | cons d s =>
            by_cases hd : isWordChar d
            · simpa [hd] using extendFirst_append (segments_ne_nil hd s) c (segments rest)
            · simp [hd]
      · rw [if_neg hc, if_neg hc, ih]

theorem segments_eq_singleton {w : List Char} (hne : w ≠ []) (hw : ∀ c ∈ w, isWordChar c) :
    segments w = [w] := by
  induction w with
  | nil => exact absurd rfl hne
  | cons c w ih =>
      obtain ⟨hc, hrest⟩ := List.forall_mem_cons.mp hw
      rw [segments, if_pos hc]
      cases w with
      | nil => rfl
      | cons d w =>
          have hd : isWordChar d := hrest d List.mem_cons_self
          have hsegments : segments (d :: w) = [d :: w] := ih (List.cons_ne_nil d w) hrest
          rw [hsegments]
          simp [hd, extendFirst]

theorem ne_nil_of_mem_segments {s w : List Char} (hw : w ∈ segments s) : w ≠ [] := by
  induction s generalizing w with
  | nil => cases hw
  | cons c s ih =>
      rw [segments] at hw
      split at hw
      · split at hw
        · -- the first segment has one character more, the others are those of the rest
          cases hrest : segments s with
          | nil =>
              rw [hrest, extendFirst, List.mem_singleton] at hw
              exact hw ▸ List.cons_ne_nil c []
          | cons v vs =>
              rw [hrest, extendFirst] at hw
              rcases List.mem_cons.mp hw with rfl | hw
              · exact List.cons_ne_nil c v
              · exact ih (hrest ▸ List.mem_cons_of_mem v hw)
        · rcases List.mem_cons.mp hw with rfl | hw
          · exact List.cons_ne_nil c []
          · exact ih hw
      · exact ih hw

/-! ## Words -/

/-- A cut leaves something on both sides: before the last capital of a run stands another one. -/
theorem ne_nil_of_mem_splitHumps {hump : Hump} {word s w : List Char} (hs : s ≠ [])
    (hword : hump = .upper → word ≠ []) (hw : w ∈ splitHumps hump word s) : w ≠ [] := by
  fun_induction splitHumps hump word s with
  | case1 => exact absurd rfl hs
  | case2 _ word c =>
      rw [List.mem_singleton] at hw
      exact hw ▸ List.concat_ne_nil c word
  | case3 _ word c _ _ _ ih =>
      rcases List.mem_cons.mp hw with rfl | hw
      · exact List.concat_ne_nil c word
      · exact ih (List.cons_ne_nil _ _) (fun h => by cases h) hw
  | case4 _ _ c _ _ _ hcut ih =>
      rcases List.mem_cons.mp hw with rfl | hw
      · exact hword hcut.1
      · exact ih (List.cons_ne_nil _ _) (fun _ => List.cons_ne_nil c []) hw
  | case5 _ word c _ _ _ _ ih =>
      exact ih (List.cons_ne_nil _ _) (fun _ => List.concat_ne_nil c word) hw

theorem ne_nil_of_mem_words {s w : List Char} (hw : w ∈ words s) : w ≠ [] := by
  obtain ⟨segment, hsegment, hw⟩ := List.mem_flatMap.mp hw
  exact ne_nil_of_mem_splitHumps (ne_nil_of_mem_segments hsegment) (fun h => by cases h) hw

/-- Without capitals a segment is not cut. -/
theorem splitHumps_of_forall_not_isUpper (hump : Hump) (word s : List Char)
    (h : ∀ c ∈ s, ¬ isUpper c) : splitHumps hump word s = [word ++ s] := by
  fun_induction splitHumps hump word s with
  | case1 _ word => rw [List.append_nil]
  | case2 => rfl
  | case3 hump word c d rest hcut _ =>
      have hd : ¬ isUpper d := h d (by simp)
      exact absurd hcut.2 hd
  | case4 hump word c d rest _ hcut _ =>
      have hc : ¬ isUpper c := h c List.mem_cons_self
      exact absurd hcut.2.1 hc
  | case5 hump word c d rest _ _ ih =>
      rw [ih fun x hx => h x (List.mem_cons_of_mem c hx), List.append_assoc]
      rfl

theorem words_append_separator {sep : Char} (hsep : ¬ isWordChar sep) (s rest : List Char) :
    words (s ++ sep :: rest) = words s ++ words rest := by
  rw [words, segments_append_separator hsep, List.flatMap_append]
  rfl

theorem words_eq_singleton {w : List Char} (hne : w ≠ []) (hw : ∀ c ∈ w, isWordChar c)
    (hupper : ∀ c ∈ w, ¬ isUpper c) : words w = [w] := by
  rw [words, segments_eq_singleton hne hw, List.flatMap_singleton,
    splitHumps_of_forall_not_isUpper .none [] w hupper, List.nil_append]

/-- Words without capitals, with separators between them, are the words of the whole. -/
theorem words_intercalate {sep : Char} (hsep : ¬ isWordChar sep) {ws : List (List Char)}
    (hws : ∀ w ∈ ws, w ≠ [] ∧ ∀ c ∈ w, isWordChar c ∧ ¬ isUpper c) :
    words ([sep].intercalate ws) = ws := by
  induction ws with
  | nil => rfl
  | cons w ws ih =>
      obtain ⟨⟨hne, hw⟩, hrest⟩ := List.forall_mem_cons.mp hws
      have hword : words w = [w] :=
        words_eq_singleton hne (fun c hc => (hw c hc).1) fun c hc => (hw c hc).2
      cases ws with
      | nil => rw [List.intercalate_singleton, hword]
      | cons v vs =>
          rw [List.intercalate_cons_cons, List.append_assoc, List.singleton_append,
            words_append_separator hsep, hword, ih hrest]
          rfl

/-! ## Characters of snake-case names -/

/-- A Latin lower-case letter or a digit. -/
def isSnakeChar (c : Char) : Bool := c.isLower || c.isDigit

/-- The values of the characters between two characters are the numbers between theirs. -/
theorem val_mem_range_iff {c lo hi : Char} :
    lo.val ≤ c.val ∧ c.val ≤ hi.val ↔ lo.toNat ≤ c.toNat ∧ c.toNat ≤ hi.toNat := by
  rw [UInt32.le_iff_toNat_le, UInt32.le_iff_toNat_le, Char.toNat_val, Char.toNat_val, Char.toNat_val]

theorem char_isLower_iff {c : Char} : c.isLower ↔ 97 ≤ c.toNat ∧ c.toNat ≤ 122 := by
  show (decide ('a'.val ≤ c.val) && decide (c.val ≤ 'z'.val)) = true ↔ _
  rw [Bool.and_eq_true, decide_eq_true_iff, decide_eq_true_iff]
  exact val_mem_range_iff

theorem char_isDigit_iff {c : Char} : c.isDigit ↔ 48 ≤ c.toNat ∧ c.toNat ≤ 57 := by
  show (decide ('0'.val ≤ c.val) && decide (c.val ≤ '9'.val)) = true ↔ _
  rw [Bool.and_eq_true, decide_eq_true_iff, decide_eq_true_iff]
  exact val_mem_range_iff

theorem char_isUpper_iff {c : Char} : c.isUpper ↔ 65 ≤ c.toNat ∧ c.toNat ≤ 90 := by
  show decide ('A'.val ≤ c.val ∧ c.val ≤ 'Z'.val) = true ↔ _
  rw [decide_eq_true_iff]
  exact val_mem_range_iff

theorem isSnakeChar_iff {c : Char} :
    isSnakeChar c ↔ 97 ≤ c.toNat ∧ c.toNat ≤ 122 ∨ 48 ≤ c.toNat ∧ c.toNat ≤ 57 := by
  rw [isSnakeChar, Bool.or_eq_true, char_isLower_iff, char_isDigit_iff]

theorem isSnakeChar_of_isLower {c : Char} (h : c.isLower) : isSnakeChar c := by
  rw [isSnakeChar, h, Bool.true_or]

theorem forall_isSnakeChar_cons {c : Char} {rest : List Char} (hc : c.isLower)
    (hrest : ∀ d ∈ rest, isSnakeChar d) : ∀ d ∈ c :: rest, isSnakeChar d :=
  List.forall_mem_cons.mpr ⟨isSnakeChar_of_isLower hc, hrest⟩

theorem toNat_lt_of_isSnakeChar {c : Char} (h : isSnakeChar c) : c.toNat < 0x80 := by
  rw [isSnakeChar_iff] at h
  omega

theorem isWordChar_of_isSnakeChar {c : Char} (h : isSnakeChar c) : isWordChar c := by
  have hlt := toNat_lt_of_isSnakeChar h
  rw [isWordChar, isAlphabetic_of_lt hlt, isNumeric_of_lt hlt]
  show (c.isUpper || c.isLower || c.isDigit) = true
  rw [isSnakeChar] at h
  rw [Bool.or_assoc, h, Bool.or_true]

theorem not_isUpper_of_isSnakeChar {c : Char} (h : isSnakeChar c) : ¬ c.isUpper := by
  rw [isSnakeChar_iff] at h
  rw [char_isUpper_iff]
  omega

theorem not_textIsUpper_of_isSnakeChar {c : Char} (h : isSnakeChar c) : ¬ isUpper c := by
  rw [isUpper_of_lt (toNat_lt_of_isSnakeChar h)]
  exact not_isUpper_of_isSnakeChar h

theorem lowerChar_of_isSnakeChar {c : Char} (h : isSnakeChar c) : lowerChar c = [c] := by
  have hrange : ¬ ('A'.val ≤ c.val ∧ c.val ≤ 'Z'.val) := by
    rw [val_mem_range_iff]
    exact fun hupper => not_isUpper_of_isSnakeChar h (char_isUpper_iff.mpr hupper)
  have hlower : c.toLower = c := dif_neg hrange
  rw [lowerChar_of_lt (toNat_lt_of_isSnakeChar h), hlower]

theorem lowerWord_of_forall_isSnakeChar {w : List Char} (hw : ∀ c ∈ w, isSnakeChar c) :
    lowerWord w = w := by
  fun_induction lowerWord w with
  | case1 => rfl
  | case2 =>
      have hsigma : ¬ isSnakeChar 'Σ' := by decide
      exact absurd (hw 'Σ' List.mem_cons_self) hsigma
  | case3 c _ => exact lowerChar_of_isSnakeChar (hw c List.mem_cons_self)
  | case4 c rest _ ih =>
      obtain ⟨hc, hrest⟩ := List.forall_mem_cons.mp hw
      rw [lowerChar_of_isSnakeChar hc, ih hrest]
      rfl

/-! ## Snake-case names -/

/-- A word of a snake-case name: a Latin lower-case letter, then such letters and digits. -/
def isSnakeWord : List Char → Bool
  | [] => false
  | c :: rest => c.isLower && rest.all isSnakeChar

/-- A text of one or more words with underscores between them. -/
def IsSnake (s : List Char) : Prop :=
  ∃ ws, ws ≠ [] ∧ (∀ w ∈ ws, isSnakeWord w) ∧ s = ['_'].intercalate ws

theorem isSnakeWord_iff {w : List Char} :
    isSnakeWord w ↔ ∃ c rest, w = c :: rest ∧ c.isLower ∧ ∀ d ∈ rest, isSnakeChar d := by
  cases w with
  | nil => simp [isSnakeWord]
  | cons c rest =>
      rw [isSnakeWord, Bool.and_eq_true, List.all_eq_true]
      constructor
      · rintro ⟨hc, hrest⟩
        exact ⟨c, rest, rfl, hc, hrest⟩
      · rintro ⟨_, _, heq, hc, hrest⟩
        cases heq
        exact ⟨hc, hrest⟩

theorem forall_isSnakeChar_of_isSnakeWord {w : List Char} (h : isSnakeWord w) :
    ∀ c ∈ w, isSnakeChar c := by
  obtain ⟨c, rest, rfl, hc, hrest⟩ := isSnakeWord_iff.mp h
  exact forall_isSnakeChar_cons hc hrest

/-- Whether a text is a snake-case name is decided by what stands between its underscores. -/
theorem isSnake_iff {s : List Char} : IsSnake s ↔ ∀ w ∈ s.splitOn '_', isSnakeWord w := by
  constructor
  · rintro ⟨ws, hne, hws, rfl⟩
    have hnot : ∀ w ∈ ws, '_' ∉ w := by
      intro w hw hmem
      have hsep : ¬ isSnakeChar '_' := by decide
      exact hsep (forall_isSnakeChar_of_isSnakeWord (hws w hw) '_' hmem)
    rwa [List.splitOn_intercalate '_' hnot hne]
  · intro h
    exact ⟨s.splitOn '_', List.splitOn_ne_nil '_' s, h, (List.intercalate_splitOn '_').symm⟩

instance (s : List Char) : Decidable (IsSnake s) := decidable_of_iff _ isSnake_iff.symm

/-- The words of snake-case names come back from between any separators. -/
theorem words_intercalate_of_isSnakeWord {sep : Char} (hsep : ¬ isWordChar sep)
    {ws : List (List Char)} (hws : ∀ w ∈ ws, isSnakeWord w) :
    words ([sep].intercalate ws) = ws := by
  refine words_intercalate hsep fun w hw => ?_
  have hchars := forall_isSnakeChar_of_isSnakeWord (hws w hw)
  refine ⟨?_, fun c hc => ⟨isWordChar_of_isSnakeChar (hchars c hc),
    not_textIsUpper_of_isSnakeChar (hchars c hc)⟩⟩
  rintro rfl
  exact absurd (hws [] hw) Bool.false_ne_true

theorem words_intercalate_snake {ws : List (List Char)} (hws : ∀ w ∈ ws, isSnakeWord w) :
    words (['_'].intercalate ws) = ws := by
  have hsep : ¬ isWordChar '_' := by decide
  exact words_intercalate_of_isSnakeWord hsep hws

/-! ## Capitalized words -/

/-- A capitalized word is its only capital and what stands behind it. -/
theorem capitalize_cons {c : Char} {rest : List Char} (hc : c.isLower)
    (hrest : ∀ d ∈ rest, isSnakeChar d) : capitalize (c :: rest) = c.toUpper :: rest := by
  have hlt : c.toNat < 0x80 := toNat_lt_of_isSnakeChar (isSnakeChar_of_isLower hc)
  rw [capitalize, upperChar_of_lt hlt, lowerWord_of_forall_isSnakeChar hrest]
  rfl

theorem toNat_toUpper {c : Char} (h : c.isLower) : c.toUpper.toNat = c.toNat - 32 := by
  obtain ⟨ha, hz⟩ := char_isLower_iff.mp h
  have hrange : 'a'.val ≤ c.val ∧ c.val ≤ 'z'.val := val_mem_range_iff.mpr ⟨ha, hz⟩
  have hval : c.toUpper.val = c.val + ('A'.val - 'a'.val) := by
    delta Char.toUpper
    rw [dif_pos hrange]
  -- the distance between the cases is added as a machine word, which wraps
  have hdistance : ('A'.val - 'a'.val).toNat = 2 ^ 32 - 32 := rfl
  rw [← Char.toNat_val, hval, UInt32.toNat_add, hdistance, Char.toNat_val]
  omega

theorem isUpper_toUpper {c : Char} (h : c.isLower) : c.toUpper.isUpper := by
  rw [char_isUpper_iff, toNat_toUpper h]
  rw [char_isLower_iff] at h
  omega

theorem toUpper_inj_of_isLower {c d : Char} (hc : c.isLower) (hd : d.isLower)
    (h : c.toUpper = d.toUpper) : c = d := by
  have hnat : c.toUpper.toNat = d.toUpper.toNat := congrArg Char.toNat h
  rw [toNat_toUpper hc, toNat_toUpper hd] at hnat
  rw [char_isLower_iff] at hc hd
  have hval : c.toNat = d.toNat := by omega
  exact Char.toNat_inj.mp hval

/-- What is put together from words starts with a capital, if it is not empty. -/
theorem head_flatMap_capitalize {ws : List (List Char)} (hws : ∀ w ∈ ws, isSnakeWord w) :
    ∀ c ∈ (ws.flatMap capitalize).head?, c.isUpper := by
  cases ws with
  | nil =>
      intro c hc
      cases hc
  | cons w ws =>
      obtain ⟨c, rest, rfl, hc, hrest⟩ := isSnakeWord_iff.mp (hws w List.mem_cons_self)
      intro x hx
      rw [List.flatMap_cons, capitalize_cons hc hrest] at hx
      cases hx
      exact isUpper_toUpper hc

/-- Two texts that go on with something else from the same kind of place on agree before and behind
it. -/
theorem append_inj_of_head {α : Type} {p : α → Bool} {s s' r r' : List α}
    (hs : ∀ a ∈ s, ¬ p a) (hs' : ∀ a ∈ s', ¬ p a) (hr : ∀ a ∈ r.head?, p a)
    (hr' : ∀ a ∈ r'.head?, p a) (h : s ++ r = s' ++ r') : s = s' ∧ r = r' := by
  induction s generalizing s' with
  | nil =>
      cases s' with
      | nil => exact ⟨rfl, h⟩
      | cons a s' =>
          -- the rest on the left would start with what cannot start it
          have hhead : a ∈ r.head? := by rw [show r = a :: (s' ++ r') from h, List.head?_cons]; rfl
          exact absurd (hr a hhead) (hs' a List.mem_cons_self)
  | cons a s ih =>
      cases s' with
      | nil =>
          have hhead : a ∈ r'.head? := by
            rw [show r' = a :: (s ++ r) from h.symm, List.head?_cons]; rfl
          exact absurd (hr' a hhead) (hs a List.mem_cons_self)
      | cons b s' =>
          obtain ⟨rfl, htail⟩ := List.cons.inj h
          obtain ⟨rfl, hrest⟩ := ih (fun x hx => hs x (List.mem_cons_of_mem a hx))
            (fun x hx => hs' x (List.mem_cons_of_mem a hx)) htail
          exact ⟨rfl, hrest⟩

/-- Words that are capitalized and put together behind a text without capitals can be told apart. -/
theorem append_flatMap_capitalize_inj {s s' : List Char} {ws ws' : List (List Char)}
    (hs : ∀ c ∈ s, isSnakeChar c) (hs' : ∀ c ∈ s', isSnakeChar c)
    (hws : ∀ w ∈ ws, isSnakeWord w) (hws' : ∀ w ∈ ws', isSnakeWord w)
    (h : s ++ ws.flatMap capitalize = s' ++ ws'.flatMap capitalize) : s = s' ∧ ws = ws' := by
  -- by the words of the first text: each capital ends what stands before it in both texts
  induction ws generalizing s s' ws' with
  | nil =>
      obtain ⟨rfl, hflat⟩ := append_inj_of_head (fun c hc => not_isUpper_of_isSnakeChar (hs c hc))
        (fun c hc => not_isUpper_of_isSnakeChar (hs' c hc)) (head_flatMap_capitalize hws)
        (head_flatMap_capitalize hws') h
      cases ws' with
      | nil => exact ⟨rfl, rfl⟩
      | cons v vs =>
          obtain ⟨c, rest, rfl, hc, hrest⟩ := isSnakeWord_iff.mp (hws' v List.mem_cons_self)
          rw [List.flatMap_cons, capitalize_cons hc hrest] at hflat
          cases hflat
  | cons w ws ih =>
      obtain ⟨rfl, hflat⟩ := append_inj_of_head (fun c hc => not_isUpper_of_isSnakeChar (hs c hc))
        (fun c hc => not_isUpper_of_isSnakeChar (hs' c hc)) (head_flatMap_capitalize hws)
        (head_flatMap_capitalize hws') h
      obtain ⟨hw, hrestWords⟩ := List.forall_mem_cons.mp hws
      obtain ⟨c, rest, rfl, hc, hrest⟩ := isSnakeWord_iff.mp hw
      rw [List.flatMap_cons, capitalize_cons hc hrest] at hflat
      cases ws' with
      | nil => cases hflat
      | cons v vs =>
          obtain ⟨hv, hrestWords'⟩ := List.forall_mem_cons.mp hws'
          obtain ⟨d, rest', rfl, hd, hrest'⟩ := isSnakeWord_iff.mp hv
          rw [List.flatMap_cons, capitalize_cons hd hrest'] at hflat
          obtain ⟨hcapital, htail⟩ := List.cons.inj hflat
          -- behind the capital stands the rest of the word, again without capitals
          obtain ⟨rfl, rfl⟩ := ih hrest hrest' hrestWords hrestWords' htail
          obtain rfl := toUpper_inj_of_isLower hc hd hcapital
          exact ⟨rfl, rfl⟩

/-! ## Joined forms -/

theorem pascalCase_inj {s s' : List Char} (hs : IsSnake s) (hs' : IsSnake s')
    (h : pascalCase s = pascalCase s') : s = s' := by
  obtain ⟨ws, -, hws, rfl⟩ := hs
  obtain ⟨ws', -, hws', rfl⟩ := hs'
  rw [pascalCase, pascalCase, words_intercalate_snake hws, words_intercalate_snake hws'] at h
  have hnil : ∀ c ∈ ([] : List Char), isSnakeChar c := List.forall_mem_nil _
  obtain ⟨-, rfl⟩ := append_flatMap_capitalize_inj hnil hnil hws hws' h
  rfl

theorem camelCase_inj {s s' : List Char} (hs : IsSnake s) (hs' : IsSnake s')
    (h : camelCase s = camelCase s') : s = s' := by
  obtain ⟨ws, hne, hws, rfl⟩ := hs
  obtain ⟨ws', hne', hws', rfl⟩ := hs'
  obtain ⟨w, ws, rfl⟩ := List.exists_cons_of_ne_nil hne
  obtain ⟨w', ws', rfl⟩ := List.exists_cons_of_ne_nil hne'
  rw [camelCase, camelCase, words_intercalate_snake hws, words_intercalate_snake hws'] at h
  obtain ⟨hw, hrest⟩ := List.forall_mem_cons.mp hws
  obtain ⟨hw', hrest'⟩ := List.forall_mem_cons.mp hws'
  have hchars := forall_isSnakeChar_of_isSnakeWord hw
  have hchars' := forall_isSnakeChar_of_isSnakeWord hw'
  simp only [lowerWord_of_forall_isSnakeChar hchars, lowerWord_of_forall_isSnakeChar hchars'] at h
  obtain ⟨rfl, rfl⟩ := append_flatMap_capitalize_inj hchars hchars' hrest hrest' h
  rfl

end ApiProto.Text
