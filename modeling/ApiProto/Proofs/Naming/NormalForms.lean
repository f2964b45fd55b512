/-
  Snake and kebab case as normal forms of ASCII names.

  Both write the words of a name in lower case with a mark between them, and from that the same
  words are read again (`lowerWords_joinLower`), whatever capitals, digits and marks the name has.
  What a word form makes of a name depends on these words only.  So in a chain neither of the two
  leaves a trace in front of a word form, and can be put in or left out there.  In front of a case
  mapping it can not: that takes the name as it is written.
-/
import ApiProto.Profile.Basic
import ApiProto.Proofs.Naming.Kinds
import ApiProto.Proofs.Naming.WordForms

namespace ApiProto

namespace Text

/-! ## Words that are read again -/

section Words

variable {s : List Char}

theorem not_isUpper_toLower {c : Char} (h : c.toNat < 0x80) : ¬ isUpper c.toLower := by
  rw [isUpper_of_lt (toNat_toLower_lt h), Char.isUpper_toLower_eq_false]
  exact Bool.false_ne_true

/-- In lower case no word of a text has a place at which it could be cut. -/
theorem uncut_of_mem_lowerWords (h : IsAscii s) :
    ∀ w ∈ lowerWords s, w ≠ [] ∧ ∀ c ∈ w, isWordChar c ∧ ¬ isUpper c := by
  refine List.forall_mem_map.mpr fun w hw => ?_
  have hascii := isAscii_of_mem_words h hw
  rw [lowerWord_eq_map hascii]
  refine ⟨fun hnil => ne_nil_of_mem_words hw (List.map_eq_nil_iff.mp hnil), ?_⟩
  refine List.forall_mem_map.mpr fun c hc => ⟨?_, not_isUpper_toLower (hascii c hc)⟩
  rw [isWordChar_of_lt (toNat_toLower_lt (hascii c hc))]
  exact isAlphanum_toLower (hascii c hc) (isAlphanum_of_mem_words h hw hc)

theorem lowerWords_joinLower (h : IsAscii s) {sep : Char} (hsep : ¬ isWordChar sep) :
    lowerWords (joinLower sep s) = lowerWords s := by
  have hwords : words (joinLower sep s) = lowerWords s :=
    words_intercalate hsep (uncut_of_mem_lowerWords h)
  rw [lowerWords, hwords, lowerWords, List.map_map]
  exact List.map_congr_left fun w hw => lowerWord_lowerWord (isAscii_of_mem_words h hw)

end Words

end Text

open Text Transform Relation

namespace Transform

/-! ## Chains on ASCII names -/

theorem isAscii_onText {s : List Char} (h : IsAscii s) (t : Transform) : IsAscii (t.onText s) := by
  rcases t.wordForm_or_case with ⟨f, rfl⟩ | rfl | rfl
  · rw [WordForm.onText_eq_write h]
    exact WordForm.isAscii_write (isAscii_of_mem_lowerWords h) f
  · show IsAscii (upperText s)
    rw [upperText_eq_map h]
    exact isAscii_map_toUpper h
  · show IsAscii (lowerText s)
    rw [lowerText_eq_map h]
    exact isAscii_map_toLower h

variable {name : String}

theorem isAscii_applyAll (h : IsAscii name.toList) (chain : List Transform) :
    IsAscii (applyAll chain name).toList := by
  induction chain generalizing name with
  | nil => exact h
  | cons t chain ih =>
      have hstep : IsAscii (t.apply name).toList := by
        rw [apply, String.toList_ofList]
        exact isAscii_onText h t
      exact ih hstep

/-! ## Normal forms -/

/-- The forms that keep the words of a name apart. -/
def normalForms : List Transform := [snakeCase, kebabCase]

theorem lowerWords_onText {s : List Char} (h : IsAscii s) {t : Transform} (ht : t ∈ normalForms) :
    lowerWords (t.onText s) = lowerWords s := by
  have hunderscore : ¬ isWordChar '_' := by decide
  have hhyphen : ¬ isWordChar '-' := by decide
  rw [normalForms, List.mem_cons, List.mem_singleton] at ht
  rcases ht with rfl | rfl
  · exact lowerWords_joinLower h hunderscore
  · exact lowerWords_joinLower h hhyphen

/-- A word form takes no notice of a normal form in front of it. -/
theorem apply_apply_normalForm (h : IsAscii name.toList) {t : Transform} (ht : t ∈ normalForms)
    (f : WordForm) : f.transform.apply (t.apply name) = f.transform.apply name := by
  rw [apply, apply, apply, String.toList_ofList, WordForm.onText_eq_write (isAscii_onText h t),
    WordForm.onText_eq_write h, lowerWords_onText h ht]

/-- A chain with a normal form put in where a word form comes next. -/
inductive PutIn : List Transform → List Transform → Prop
  | mk (before : List Transform) {t : Transform} (ht : t ∈ normalForms) (f : WordForm)
      (after : List Transform) :
      PutIn (before ++ f.transform :: after) (before ++ t :: f.transform :: after)

theorem applyAll_of_putIn {chain chain' : List Transform} (h : PutIn chain chain')
    (hname : IsAscii name.toList) : applyAll chain' name = applyAll chain name := by
  obtain ⟨before, ht, f, after⟩ := h
  rw [applyAll_append, applyAll_append]
  exact congrArg (applyAll after) (apply_apply_normalForm (isAscii_applyAll hname before) ht f)

/-- Any number of them can be put in, one after the other. -/
theorem applyAll_of_putIns {chain chain' : List Transform} (h : ReflTransGen PutIn chain chain')
    (hname : IsAscii name.toList) : applyAll chain' name = applyAll chain name := by
  induction h with
  | refl => rfl
  | tail _ hstep ih => exact (applyAll_of_putIn hstep hname).trans ih

end Transform

/-! ## Definitions -/

/-- All names in a definition that go through a chain are ASCII. -/
def Definition.HasAsciiNames (d : Definition) : Prop :=
  ∀ kind, kind ≠ .enumReference → ∀ n ∈ d.namesOf kind, IsAscii n.toList

theorem Definition.rename_of_putIns {d : Definition} (hd : d.HasAsciiNames) {t u : Transforms}
    (h : ∀ kind, ReflTransGen PutIn (t.chain kind) (u.chain kind)) : d.rename u = d.rename t := by
  refine rename_congr fun kind n hn => ?_
  by_cases hkind : kind = .enumReference
  · rw [hkind]
    rfl
  · exact applyAll_of_putIns (h kind) (hd kind hkind n hn)

/-- **Snake and kebab case are normal forms.**  In front of a word form neither changes what becomes
of an ASCII name, at any place of a chain; and however many of them are put in at such places, in
the chains of any kinds of names, a definition with ASCII names is renamed as before. -/
theorem Transform.wordForms_absorb_normalForms :
    (∀ name : String, IsAscii name.toList → ∀ t ∈ normalForms, ∀ f : WordForm,
        applyAll [t, f.transform] name = f.transform.apply name ∧
          ∀ before after, applyAll (before ++ t :: f.transform :: after) name
            = applyAll (before ++ f.transform :: after) name) ∧
      ∀ d : Definition, d.HasAsciiNames → ∀ t u : Transforms,
        (∀ kind, ReflTransGen PutIn (t.chain kind) (u.chain kind)) → d.rename u = d.rename t := by
  refine ⟨fun name hname t ht f => ⟨?_, fun before after => ?_⟩, fun d hd t u h => ?_⟩
  · exact apply_apply_normalForm hname ht f
  · exact applyAll_of_putIn (.mk before ht f after) hname
  · exact Definition.rename_of_putIns hd h

/-- Names with runs of capitals, digits, and marks at both ends and in a row. -/
def ragged : Definition where
  services := OrderedMap.ofList [("__HTTPServer2", [⟨"getXMLDoc--v2",
    [⟨"ID", ⟨.model "9Lives_", false⟩⟩], OrderedMap.empty⟩])]
  models := OrderedMap.ofList [("9Lives_", .ofList [("aB1c.D", ⟨.model "9Lives_", true⟩)])]
  enums := OrderedMap.empty

/-- The default chains with both normal forms put in for the names of models. -/
def normalizing : Transforms :=
  { Mode.protobuf.defaultTransforms with model := [.kebabCase, .snakeCase, .pascalCase] }

theorem Transform.wordForms_absorb_normalForms_ragged :
    applyAll [.kebabCase, .camelCase] "getXMLDoc--v2" = "getXmlDocV2" ∧
      applyAll [.upperCase, .snakeCase, .pascalCase, .lowerCase] "getXMLDoc--v2" = "getxmldocv2" ∧
      ragged.rename normalizing = ragged.rename Mode.protobuf.defaultTransforms ∧
      (ragged.rename normalizing).models.keys = ["9lives"] := by
  have hname : IsAscii "getXMLDoc--v2".toList := by decide
  have hkebab : kebabCase ∈ normalForms := by decide
  have hsnake : snakeCase ∈ normalForms := by decide
  have hd : ragged.HasAsciiNames := by
    intro kind _
    cases kind <;> decide +kernel
  have hmodel : ReflTransGen PutIn [pascalCase] [kebabCase, snakeCase, pascalCase] :=
    .tail (.single (.mk [] hsnake .pascal [])) (.mk [] hkebab .snake [pascalCase])
  have hchain : ∀ kind, ReflTransGen PutIn (Mode.protobuf.defaultTransforms.chain kind)
      (normalizing.chain kind) := by
    intro kind
    cases kind with
    | model | modelReference => exact hmodel
    | service | operation | parameter | property | enumReference => exact .refl
  obtain ⟨hforms, hdefinitions⟩ := wordForms_absorb_normalForms
  refine ⟨?_, ?_, hdefinitions ragged hd _ _ hchain, by decide +kernel⟩
  · rw [show [kebabCase, camelCase] = [kebabCase, WordForm.camel.transform] from rfl,
      (hforms _ hname kebabCase hkebab .camel).1]
    decide +kernel
  · refine ((hforms _ hname snakeCase hsnake .pascal).2 [upperCase] [lowerCase]).trans ?_
    decide +kernel

/-- With a case mapping in between, a normal form has its effect: it keeps words apart that could
not be told in one case. -/
theorem Transform.snakeCase_before_lowerCase :
    IsAscii "getPet".toList ∧ snakeCase ∈ normalForms ∧
      applyAll [.snakeCase, .lowerCase, .pascalCase] "getPet" = "GetPet" ∧
      applyAll [.lowerCase, .pascalCase] "getPet" = "Getpet" := by
  refine ⟨by decide, by decide, ?_, ?_⟩ <;> decide +kernel

end ApiProto
