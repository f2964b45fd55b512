/-
  The words of a name under chains of word forms.

  Pascal, camel, snake and kebab case write the words of a name together, each in its own way
  (`onText_eq_write`).  From what they write of words that start with two letters the same words are
  read again (`lowerWords_write`), so in a chain each form undoes the one before it, and only the
  last of them is seen.  The second letter is what makes a capitalized word end at the next capital:
  `a_b` becomes `AB`, and that is one word.
-/
import ApiProto.Naming.Transform
import ApiProto.Proofs.AsciiText
import ApiProto.Proofs.Naming.Words

namespace ApiProto

namespace Text

/-! ## Humps -/

/-- A word that ends before the next capital, wherever it stands: its second character is a Latin
lower-case letter, and behind it stand such letters and digits. -/
def IsHump (w : List Char) : Prop :=
  ∃ c d rest, w = c :: d :: rest ∧ d.isLower ∧ ∀ e ∈ rest, isSnakeChar e

/-- Digits leave a hump that goes down as it is. -/
theorem lower_next {c : Char} (h : isSnakeChar c) : Hump.lower.next c = .lower := by
  rw [Hump.next, if_neg (not_textIsUpper_of_isSnakeChar h), ite_self]

theorem next_eq_lower {c : Char} (h : c.isLower) (hump : Hump) : hump.next c = .lower := by
  have hlower : isLower c := by
    rwa [isLower_of_lt (toNat_lt_of_isSnakeChar (isSnakeChar_of_isLower h))]
  rw [Hump.next, if_pos hlower]

/-- Once the hump has gone down, the word ends before the next capital. -/
theorem splitHumps_append_capital {hump : Hump} {c u : Char} {s : List Char}
    (hs : ∀ d ∈ c :: s, isSnakeChar d) (hc : hump.next c = .lower) (hu : isUpper u)
    (word rest : List Char) :
    splitHumps hump word (c :: s ++ u :: rest)
      = (word ++ c :: s) :: splitHumps .none [] (u :: rest) := by
  -- by the characters before the capital: none of them raises the hump again
  induction s generalizing hump c word with
  | nil =>
      rw [List.cons_append, List.nil_append, splitHumps, if_pos ⟨hc, hu⟩]
  | cons d s ih =>
      obtain ⟨hsnake, hs⟩ := List.forall_mem_cons.mp hs
      have hd : isSnakeChar d := hs d List.mem_cons_self
      -- no capital follows, and none is being read: both cuts are out
      have hnot : ¬ (hump.next c = .lower ∧ isUpper d) := fun h =>
        not_textIsUpper_of_isSnakeChar hd h.2
      have hnot' : ¬ (hump = .upper ∧ isUpper c ∧ isLower d) := fun h =>
        not_textIsUpper_of_isSnakeChar hsnake h.2.1
      have hnext : (hump.next c).next d = .lower := by rw [hc, lower_next hd]
      rw [List.cons_append, List.cons_append, splitHumps, if_neg hnot, if_neg hnot',
        ← List.cons_append, ih hs hnext, List.append_assoc]
      rfl

/-- The second letter of a word is read with the first behind it, whatever that is. -/
theorem splitHumps_cons_lower {c d : Char} (hd : d.isLower) (rest : List Char) :
    splitHumps .none [] (c :: d :: rest) = splitHumps (Hump.none.next c) [c] (d :: rest) := by
  have hnot : ¬ (Hump.none.next c = .lower ∧ isUpper d) := fun h =>
    not_textIsUpper_of_isSnakeChar (isSnakeChar_of_isLower hd) h.2
  -- the cut before a run's last capital needs a capital before that
  have hnot' : ¬ (Hump.none = .upper ∧ isUpper c ∧ isLower d) := fun h => by cases h.1
  rw [splitHumps, if_neg hnot, if_neg hnot']
  rfl

theorem splitHumps_of_isHump {w : List Char} (h : IsHump w) : splitHumps .none [] w = [w] := by
  obtain ⟨c, d, rest, rfl, hd, hrest⟩ := h
  have hchars := forall_isSnakeChar_cons hd hrest
  rw [splitHumps_cons_lower hd, splitHumps_of_forall_not_isUpper _ _ _ fun e he =>
    not_textIsUpper_of_isSnakeChar (hchars e he)]
  rfl

theorem splitHumps_append_of_isHump {w : List Char} (h : IsHump w) {u : Char} (hu : isUpper u)
    (rest : List Char) :
    splitHumps .none [] (w ++ u :: rest) = w :: splitHumps .none [] (u :: rest) := by
  obtain ⟨c, d, tail, rfl, hd, htail⟩ := h
  have hchars := forall_isSnakeChar_cons hd htail
  have hcut := splitHumps_append_capital hchars (next_eq_lower hd (Hump.none.next c)) hu [c] rest
  rw [List.cons_append, List.cons_append, splitHumps_cons_lower hd, ← List.cons_append, hcut]
  rfl

/-- Humps that stand behind each other, each from the second on with a capital in front, are the
words of the whole. -/
theorem splitHumps_append_flatten {w : List Char} {ws : List (List Char)} (hw : IsHump w)
    (hws : ∀ v ∈ ws, IsHump v ∧ ∃ u rest, v = u :: rest ∧ isUpper u) :
    splitHumps .none [] (w ++ ws.flatten) = w :: ws := by
  -- by the humps: each is cut off where the next one starts, and there reading starts anew
  induction ws generalizing w with
  | nil => rw [List.flatten_nil, List.append_nil, splitHumps_of_isHump hw]
  | cons v vs ih =>
      obtain ⟨⟨hv, u, rest, rfl, hu⟩, hvs⟩ := List.forall_mem_cons.mp hws
      rw [List.flatten_cons, List.cons_append, splitHumps_append_of_isHump hw hu, ← List.cons_append,
        ih hv hvs]

theorem words_append_flatten {w : List Char} {ws : List (List Char)} (hw : IsHump w)
    (hws : ∀ v ∈ ws, IsHump v ∧ ∃ u rest, v = u :: rest ∧ isUpper u)
    (hchars : ∀ v ∈ w :: ws, ∀ c ∈ v, isWordChar c) : words (w ++ ws.flatten) = w :: ws := by
  have hne : w ++ ws.flatten ≠ [] := by
    obtain ⟨c, d, rest, rfl, -, -⟩ := hw
    exact List.cons_ne_nil _ _
  have hall : ∀ c ∈ w ++ ws.flatten, isWordChar c := by
    rw [← List.flatten_cons, List.forall_mem_flatten]
    exact hchars
  rw [words, segments_eq_singleton hne hall, List.flatMap_singleton,
    splitHumps_append_flatten hw hws]

/-! ## Words that start with two letters -/

/-- A word of two Latin lower-case letters and then such letters and digits. -/
def isLongWord : List Char → Bool
  | c :: d :: rest => c.isLower && d.isLower && rest.all isSnakeChar
  | _ => false

/-- A text of such words with underscores between them. -/
def IsLongSnake (s : List Char) : Prop :=
  ∃ ws, (∀ w ∈ ws, isLongWord w) ∧ s = ['_'].intercalate ws

theorem isLongWord_iff {w : List Char} :
    isLongWord w ↔
      ∃ c d rest, w = c :: d :: rest ∧ c.isLower ∧ d.isLower ∧ ∀ e ∈ rest, isSnakeChar e := by
  constructor
  · intro h
    match w, h with
    | c :: d :: rest, h =>
      rw [isLongWord, Bool.and_eq_true, Bool.and_eq_true, List.all_eq_true] at h
      exact ⟨c, d, rest, rfl, h.1.1, h.1.2, h.2⟩
  · rintro ⟨c, d, rest, rfl, hc, hd, hrest⟩
    rw [isLongWord, hc, hd, List.all_eq_true.mpr hrest]
    rfl

theorem isSnakeWord_of_isLongWord {w : List Char} (h : isLongWord w) : isSnakeWord w := by
  obtain ⟨c, d, rest, rfl, hc, hd, hrest⟩ := isLongWord_iff.mp h
  exact isSnakeWord_iff.mpr ⟨c, d :: rest, rfl, hc, forall_isSnakeChar_cons hd hrest⟩

theorem forall_isSnakeChar_of_isLongWord {w : List Char} (h : isLongWord w) :
    ∀ c ∈ w, isSnakeChar c :=
  forall_isSnakeChar_of_isSnakeWord (isSnakeWord_of_isLongWord h)

theorem isAscii_of_isLongWord {w : List Char} (h : isLongWord w) : IsAscii w := fun c hc =>
  toNat_lt_of_isSnakeChar (forall_isSnakeChar_of_isLongWord h c hc)

theorem isHump_of_isLongWord {w : List Char} (h : isLongWord w) : IsHump w := by
  obtain ⟨c, d, rest, rfl, -, hd, hrest⟩ := isLongWord_iff.mp h
  exact ⟨c, d, rest, rfl, hd, hrest⟩

/-- A capitalized word is a hump that starts with a capital. -/
theorem isHump_capitalize {w : List Char} (h : isLongWord w) :
    IsHump (capitalize w) ∧ ∃ u rest, capitalize w = u :: rest ∧ isUpper u := by
  have hchars := forall_isSnakeChar_of_isLongWord h
  obtain ⟨c, d, rest, rfl, hc, hd, hrest⟩ := isLongWord_iff.mp h
  rw [capitalize_cons hc (List.forall_mem_cons.mp hchars).2]
  refine ⟨⟨c.toUpper, d, rest, rfl, hd, hrest⟩, c.toUpper, d :: rest, rfl, ?_⟩
  rw [isUpper_of_lt (toNat_toUpper_lt (toNat_lt_of_isSnakeChar (hchars c List.mem_cons_self)))]
  exact isUpper_toUpper hc

theorem isWordChar_of_mem_capitalize {w : List Char} (h : isLongWord w) :
    ∀ c ∈ capitalize w, isWordChar c := by
  have hchars := forall_isSnakeChar_of_isLongWord h
  obtain ⟨c, d, rest, rfl, hc, -, -⟩ := isLongWord_iff.mp h
  obtain ⟨hfirst, htail⟩ := List.forall_mem_cons.mp hchars
  have hupper : isWordChar c.toUpper := by
    rw [isWordChar, isAlphabetic_of_lt (toNat_toUpper_lt (toNat_lt_of_isSnakeChar hfirst)),
      Char.isAlpha, isUpper_toUpper hc]
    rfl
  rw [capitalize_cons hc htail]
  exact List.forall_mem_cons.mpr ⟨hupper, fun e he => isWordChar_of_isSnakeChar (htail e he)⟩

/-- Behind a hump the capitalized words are words again. -/
theorem words_append_flatMap_capitalize {w : List Char} {ws : List (List Char)} (hw : IsHump w)
    (hchars : ∀ c ∈ w, isWordChar c) (hws : ∀ v ∈ ws, isLongWord v) :
    words (w ++ ws.flatMap capitalize) = w :: ws.map capitalize := by
  rw [List.flatMap_def]
  refine words_append_flatten hw ?_ (List.forall_mem_cons.mpr ⟨hchars, ?_⟩)
  · exact List.forall_mem_map.mpr fun v hv => isHump_capitalize (hws v hv)
  · exact List.forall_mem_map.mpr fun v hv => isWordChar_of_mem_capitalize (hws v hv)

/-! ## Words in lower case -/

/-- The words of a text in lower case. -/
def lowerWords (s : List Char) : List (List Char) := (words s).map lowerWord

theorem isAscii_of_mem_lowerWords {s : List Char} (h : IsAscii s) :
    ∀ w ∈ lowerWords s, IsAscii w :=
  List.forall_mem_map.mpr fun _ hw => isAscii_lowerWord (isAscii_of_mem_words h hw)

theorem map_lowerWord {ws : List (List Char)} (hws : ∀ w ∈ ws, isLongWord w) :
    ws.map lowerWord = ws := by
  have hword : ∀ w ∈ ws, lowerWord w = id w := fun w hw =>
    lowerWord_of_forall_isSnakeChar (forall_isSnakeChar_of_isLongWord (hws w hw))
  rw [List.map_congr_left hword, List.map_id]

theorem map_lowerWord_map_capitalize {ws : List (List Char)} (hws : ∀ w ∈ ws, isLongWord w) :
    (ws.map capitalize).map lowerWord = ws := by
  have hword : ∀ w ∈ ws, (lowerWord ∘ capitalize) w = lowerWord w := fun w hw =>
    lowerWord_capitalize (isAscii_of_isLongWord (hws w hw))
  rw [List.map_map, List.map_congr_left hword, map_lowerWord hws]

end Text

open Text

/-! ## Word forms -/

/-- The ways to write words together. -/
inductive WordForm where
  | pascal
  | camel
  | snake
  | kebab
  deriving DecidableEq, Repr

namespace WordForm

/-- The transform that writes the words of a name in this form. -/
def transform : WordForm → Transform
  | .pascal => .pascalCase
  | .camel => .camelCase
  | .snake => .snakeCase
  | .kebab => .kebabCase

/-- Words that are in lower case, written together. -/
def write : WordForm → List (List Char) → List Char
  | .pascal, ws => ws.flatMap capitalize
  | .camel, [] => []
  | .camel, w :: ws => w ++ ws.flatMap capitalize
  | .snake, ws => ['_'].intercalate ws
  | .kebab, ws => ['-'].intercalate ws

/-- What a transform makes of an ASCII text depends on the lower case of its words only. -/
theorem onText_eq_write {s : List Char} (h : IsAscii s) (f : WordForm) :
    f.transform.onText s = f.write (lowerWords s) := by
  have hcapitalize : ∀ ws : List (List Char), (∀ w ∈ ws, w ∈ words s) →
      ws.flatMap capitalize = (ws.map lowerWord).flatMap capitalize := by
    intro ws hws
    rw [List.flatMap_map]
    exact List.flatMap_congr fun w hw =>
      (capitalize_lowerWord (isAscii_of_mem_words h (hws w hw))).symm
  cases f with
  | pascal => exact hcapitalize (words s) fun _ hw => hw
  | camel =>
      show camelCase s = write .camel (lowerWords s)
      rw [camelCase, lowerWords]
      cases hwords : words s with
      | nil => rfl
      | cons w ws =>
          show lowerWord w ++ ws.flatMap capitalize = _
          rw [hcapitalize ws fun v hv => hwords ▸ List.mem_cons_of_mem w hv]
          rfl
  | snake => rfl
  | kebab => rfl

variable {ws : List (List Char)}

/-- The words that were written together are the words of what is written. -/
theorem lowerWords_write (hws : ∀ w ∈ ws, isLongWord w) (f : WordForm) :
    lowerWords (f.write ws) = ws := by
  have hsnake : ∀ w ∈ ws, isSnakeWord w := fun w hw => isSnakeWord_of_isLongWord (hws w hw)
  rw [lowerWords]
  cases f with
  | pascal =>
      cases ws with
      | nil => rfl
      | cons w ws =>
          obtain ⟨hw, hrest⟩ := List.forall_mem_cons.mp hws
          rw [write, List.flatMap_cons, words_append_flatMap_capitalize (isHump_capitalize hw).1
            (isWordChar_of_mem_capitalize hw) hrest, ← List.map_cons,
            map_lowerWord_map_capitalize hws]
  | camel =>
      cases ws with
      | nil => rfl
      | cons w ws =>
          obtain ⟨hw, hrest⟩ := List.forall_mem_cons.mp hws
          have hchars := forall_isSnakeChar_of_isLongWord hw
          rw [write, words_append_flatMap_capitalize (isHump_of_isLongWord hw)
            (fun c hc => isWordChar_of_isSnakeChar (hchars c hc)) hrest, List.map_cons,
            map_lowerWord_map_capitalize hrest, lowerWord_of_forall_isSnakeChar hchars]
  | snake => rw [write, words_intercalate_snake hsnake, map_lowerWord hws]
  | kebab =>
      have hsep : ¬ isWordChar '-' := by decide
      rw [write, words_intercalate_of_isSnakeWord hsep hsnake, map_lowerWord hws]

theorem isAscii_write (hascii : ∀ w ∈ ws, IsAscii w) (f : WordForm) : IsAscii (f.write ws) := by
  have hcapitalize : ∀ w ∈ ws, IsAscii (capitalize w) := fun w hw => isAscii_capitalize (hascii w hw)
  cases f with
  | pascal => exact List.forall_mem_flatMap.mpr hcapitalize
  | camel =>
      cases ws with
      | nil => exact List.forall_mem_nil _
      | cons w ws =>
          have hrest := (List.forall_mem_cons.mp hcapitalize).2
          exact isAscii_append.mpr
            ⟨(List.forall_mem_cons.mp hascii).1, List.forall_mem_flatMap.mpr hrest⟩
  | snake => exact forall_mem_intercalate (List.forall_mem_singleton.mpr (by decide)) hascii
  | kebab => exact forall_mem_intercalate (List.forall_mem_singleton.mpr (by decide)) hascii

/-- A form takes no notice of the one in which the words were written before. -/
theorem apply_transform_write (hws : ∀ w ∈ ws, isLongWord w) (f g : WordForm) :
    g.transform.apply (String.ofList (f.write ws)) = String.ofList (g.write ws) := by
  have hascii : ∀ w ∈ ws, IsAscii w := fun w hw => isAscii_of_isLongWord (hws w hw)
  rw [Transform.apply, String.toList_ofList, onText_eq_write (isAscii_write hascii f),
    lowerWords_write hws]

/-- After a chain the words are written in its last form. -/
theorem applyAll_write (hws : ∀ w ∈ ws, isLongWord w) (chain : List WordForm) (f : WordForm) :
    Transform.applyAll (chain.map transform) (String.ofList (f.write ws))
      = String.ofList ((chain.getLastD f).write ws) := by
  -- the form in which the words stand so far is the only thing that a step changes
  induction chain generalizing f with
  | nil => rfl
  | cons g chain ih =>
      rw [List.getLastD_cons, ← ih g, ← apply_transform_write hws f g]
      rfl

end WordForm

/-! ## Chains -/

/-- Each transform is a word form or maps the case of every letter. -/
theorem Transform.wordForm_or_case (t : Transform) :
    (∃ f : WordForm, t = f.transform) ∨ t = upperCase ∨ t = lowerCase := by
  cases t with
  | pascalCase => exact .inl ⟨.pascal, rfl⟩
  | camelCase => exact .inl ⟨.camel, rfl⟩
  | snakeCase => exact .inl ⟨.snake, rfl⟩
  | kebabCase => exact .inl ⟨.kebab, rfl⟩
  | upperCase => exact .inr (.inl rfl)
  | lowerCase => exact .inr (.inr rfl)

/-- **The last word form decides.**  On names of words that start with two letters a chain of word
forms does what its last form does; each form is idempotent there, and snake case undoes it. -/
theorem Transform.applyAll_wordForms {name : String} (hname : IsLongSnake name.toList) :
    (∀ (chain : List WordForm) (hne : chain ≠ []),
        applyAll (chain.map WordForm.transform) name = (chain.getLast hne).transform.apply name) ∧
      ∀ f : WordForm, f.transform.apply (f.transform.apply name) = f.transform.apply name ∧
        snakeCase.apply (f.transform.apply name) = name := by
  obtain ⟨ws, hws, htext⟩ := hname
  -- the name itself is written in snake case
  have hsnake : name = String.ofList (WordForm.snake.write ws) := by
    rw [← String.ofList_toList (s := name), htext]
    rfl
  refine ⟨fun chain hne => ?_, fun f => ⟨?_, ?_⟩⟩
  · rw [hsnake, WordForm.applyAll_write hws, WordForm.apply_transform_write hws,
      List.getLastD_eq_getLast?, List.getLast?_eq_some_getLast hne]
    rfl
  · rw [hsnake, WordForm.apply_transform_write hws, WordForm.apply_transform_write hws]
  · rw [hsnake, WordForm.apply_transform_write hws]
    exact WordForm.apply_transform_write hws f .snake

theorem Transform.applyAll_wordForms_petId :
    IsLongSnake "pet2_id_of9x".toList ∧
      applyAll [.pascalCase, .kebabCase, .camelCase] "pet2_id_of9x" = "pet2IdOf9x" ∧
      snakeCase.apply (pascalCase.apply "pet2_id_of9x") = "pet2_id_of9x" := by
  have hname : IsLongSnake "pet2_id_of9x".toList :=
    ⟨[['p', 'e', 't', '2'], ['i', 'd'], ['o', 'f', '9', 'x']], by decide, by decide⟩
  obtain ⟨hchain, hform⟩ := applyAll_wordForms hname
  refine ⟨hname, ?_, (hform .pascal).2⟩
  exact (hchain [.pascal, .kebab, .camel] (List.cons_ne_nil _ _)).trans (by decide +kernel)

-- one letter gives a capital with no small letter behind it
example : Transform.applyAll [.pascalCase, .snakeCase] "a_b" = "ab" := by decide +kernel

end ApiProto
