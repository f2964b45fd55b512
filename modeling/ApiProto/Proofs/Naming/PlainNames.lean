/-
  Names that stay plain.

  A plain name is a Latin letter with letters, digits and underscores behind it.  Its first word
  starts with that letter, and its words hold letters and digits only.  So whatever writes the words
  together makes a plain name again, unless it puts hyphens between them: every transform but kebab
  case does, and so does every chain without it.  A name that starts with an underscore can come to
  start with a digit.
-/
import ApiProto.Profile.Package
import ApiProto.Proofs.Naming.Kinds
import ApiProto.Proofs.Naming.WordForms

namespace ApiProto

namespace Text

open Package (isPart)

/-! ## Plain names -/

/-- `[A-Za-z][A-Za-z0-9_]*` -/
def isPlainName : List Char → Bool
  | [] => false
  | c :: rest => c.isAlpha && rest.all isPart

theorem isPlainName_cons {c : Char} {rest : List Char} :
    isPlainName (c :: rest) ↔ c.isAlpha ∧ ∀ d ∈ rest, isPart d := by
  rw [isPlainName, Bool.and_eq_true, List.all_eq_true]

theorem isPart_of_isAlphanum {c : Char} (h : c.isAlphanum) : isPart c := by
  rw [isPart, h, Bool.true_or]

theorem isPart_of_isAlpha {c : Char} (h : c.isAlpha) : isPart c :=
  isPart_of_isAlphanum (by rw [Char.isAlphanum, h, Bool.true_or])

theorem toNat_lt_of_isPart {c : Char} (h : isPart c) : c.toNat < 0x80 := by
  rw [isPart, Char.isAlphanum, Char.isAlpha, Bool.or_eq_true, Bool.or_eq_true, Bool.or_eq_true,
    char_isUpper_iff, char_isLower_iff, char_isDigit_iff, beq_iff_eq] at h
  rcases h with hletter | rfl
  · omega
  · decide

theorem isPart_toUpper {c : Char} (h : isPart c) : isPart c.toUpper :=
  ascii_forall (p := fun c => isPart c → isPart c.toUpper) (by decide) (toNat_lt_of_isPart h) h

theorem isPart_toLower {c : Char} (h : isPart c) : isPart c.toLower :=
  ascii_forall (p := fun c => isPart c → isPart c.toLower) (by decide) (toNat_lt_of_isPart h) h

section Names

variable {s : List Char}

theorem forall_isPart_of_isPlainName (h : isPlainName s) : ∀ c ∈ s, isPart c := by
  cases s with
  | nil => cases h
  | cons c rest =>
      obtain ⟨hc, hrest⟩ := isPlainName_cons.mp h
      exact List.forall_mem_cons.mpr ⟨isPart_of_isAlpha hc, hrest⟩

theorem isAscii_of_forall_isPart (h : ∀ c ∈ s, isPart c) : IsAscii s := fun c hc =>
  toNat_lt_of_isPart (h c hc)

theorem isPlainName_append {r : List Char} (h : isPlainName s) (hr : ∀ c ∈ r, isPart c) :
    isPlainName (s ++ r) := by
  cases s with
  | nil => cases h
  | cons c rest =>
      obtain ⟨hc, hrest⟩ := isPlainName_cons.mp h
      exact isPlainName_cons.mpr ⟨hc, List.forall_mem_append.mpr ⟨hrest, hr⟩⟩

/-- A mapping of characters keeps plain names if it keeps letters and what may follow them. -/
theorem isPlainName_map {g : Char → Char} (hletter : ∀ c, (g c).isAlpha = c.isAlpha)
    (hpart : ∀ {c}, isPart c → isPart (g c)) (h : isPlainName s) : isPlainName (s.map g) := by
  cases s with
  | nil => cases h
  | cons c rest =>
      obtain ⟨hc, hrest⟩ := isPlainName_cons.mp h
      refine isPlainName_cons.mpr ⟨(hletter c).trans hc, ?_⟩
      exact List.forall_mem_map.mpr fun d hd => hpart (hrest d hd)

/-! ## Words of a plain name -/

theorem forall_isPart_capitalize {w : List Char} (h : ∀ c ∈ w, isPart c) :
    ∀ c ∈ capitalize w, isPart c := by
  cases w with
  | nil => exact h
  | cons c w =>
      rw [capitalize_eq_cons (isAscii_of_forall_isPart h)]
      obtain ⟨hc, hw⟩ := List.forall_mem_cons.mp h
      refine List.forall_mem_cons.mpr ⟨isPart_toUpper hc, ?_⟩
      exact List.forall_mem_map.mpr fun d hd => isPart_toLower (hw d hd)

theorem isPlainName_capitalize {w : List Char} (h : isPlainName w) :
    isPlainName (capitalize w) := by
  have hparts := forall_isPart_of_isPlainName h
  cases w with
  | nil => cases h
  | cons c w =>
      have hcapitalize := forall_isPart_capitalize hparts
      rw [capitalize_eq_cons (isAscii_of_forall_isPart hparts)] at hcapitalize ⊢
      refine isPlainName_cons.mpr ⟨?_, (List.forall_mem_cons.mp hcapitalize).2⟩
      exact c.isAlpha_toUpper_eq_isAlpha ▸ (isPlainName_cons.mp h).1

theorem isPart_of_mem_words (h : IsAscii s) : ∀ w ∈ words s, ∀ c ∈ w, isPart c :=
  fun _ hw _ hc => isPart_of_isAlphanum (isAlphanum_of_mem_words h hw hc)

/-- The first word of a plain name starts as the name does. -/
theorem words_of_isPlainName (h : isPlainName s) :
    ∃ w ws, words s = w :: ws ∧ isPlainName w ∧ ∀ v ∈ ws, ∀ c ∈ v, isPart c := by
  have hascii := isAscii_of_forall_isPart (forall_isPart_of_isPlainName h)
  have hparts := isPart_of_mem_words hascii
  have hne : ∀ w ∈ words s, w ≠ [] := fun _ hw => ne_nil_of_mem_words hw
  have hflatten := flatten_words s
  cases s with
  | nil => cases h
  | cons c rest =>
      have hc := (isPlainName_cons.mp h).1
      have hword : isWordChar c := by
        rw [isWordChar_of_lt (hascii c List.mem_cons_self), Char.isAlphanum, hc, Bool.true_or]
      -- the words are the word characters of the name, and the first of these is its letter
      rw [List.filter_cons_of_pos hword] at hflatten
      match hwords : words (c :: rest) with
      | [] =>
          rw [hwords] at hflatten
          cases hflatten
      | [] :: ws => exact absurd rfl (hne [] (hwords ▸ List.mem_cons_self))
      | (d :: w) :: ws =>
          rw [hwords] at hflatten hparts
          obtain ⟨rfl, -⟩ := List.cons.inj hflatten
          obtain ⟨hw, hws⟩ := List.forall_mem_cons.mp hparts
          exact ⟨d :: w, ws, rfl, isPlainName_cons.mpr ⟨hc, (List.forall_mem_cons.mp hw).2⟩, hws⟩

theorem lowerWords_of_isPlainName (h : isPlainName s) :
    ∃ w ws, lowerWords s = w :: ws ∧ isPlainName w ∧ ∀ v ∈ ws, ∀ c ∈ v, isPart c := by
  obtain ⟨w, ws, hwords, hw, hws⟩ := words_of_isPlainName h
  refine ⟨lowerWord w, ws.map lowerWord, by rw [lowerWords, hwords, List.map_cons], ?_, ?_⟩
  · rw [lowerWord_eq_map (isAscii_of_forall_isPart (forall_isPart_of_isPlainName hw))]
    exact isPlainName_map Char.isAlpha_toLower_eq_isAlpha isPart_toLower hw
  · refine List.forall_mem_map.mpr fun v hv => ?_
    rw [lowerWord_eq_map (isAscii_of_forall_isPart (hws v hv))]
    exact List.forall_mem_map.mpr fun c hc => isPart_toLower (hws v hv c hc)

end Names

end Text

open Text Transform

open Package (isPart)

/-! ## Transforms -/

/-- Written together without hyphens, words make a plain name if the first of them is one. -/
theorem WordForm.isPlainName_write {w : List Char} {ws : List (List Char)} (hw : isPlainName w)
    (hws : ∀ v ∈ ws, ∀ c ∈ v, isPart c) {f : WordForm} (hf : f ≠ .kebab) :
    isPlainName (f.write (w :: ws)) := by
  have hcapitalized : ∀ c ∈ ws.flatMap capitalize, isPart c :=
    List.forall_mem_flatMap.mpr fun v hv => forall_isPart_capitalize (hws v hv)
  cases f with
  | pascal => exact isPlainName_append (isPlainName_capitalize hw) hcapitalized
  | camel => exact isPlainName_append hw hcapitalized
  | snake =>
      have hsep : ∀ c ∈ ['_'], isPart c := List.forall_mem_singleton.mpr (by decide)
      rw [write]
      cases ws with
      | nil => rwa [List.intercalate_singleton]
      | cons v vs =>
          rw [List.intercalate_cons_cons, List.append_assoc]
          exact isPlainName_append hw
            (List.forall_mem_append.mpr ⟨hsep, forall_mem_intercalate hsep hws⟩)
  | kebab => exact absurd rfl hf

namespace Transform

theorem isPlainName_onText {s : List Char} (h : isPlainName s) {t : Transform}
    (ht : t ≠ kebabCase) : isPlainName (t.onText s) := by
  have hascii := isAscii_of_forall_isPart (forall_isPart_of_isPlainName h)
  rcases t.wordForm_or_case with ⟨f, rfl⟩ | rfl | rfl
  · obtain ⟨w, ws, hwords, hw, hws⟩ := lowerWords_of_isPlainName h
    have hf : f ≠ .kebab := by
      rintro rfl
      exact ht rfl
    rw [WordForm.onText_eq_write hascii, hwords]
    exact WordForm.isPlainName_write hw hws hf
  · show isPlainName (upperText s)
    rw [upperText_eq_map hascii]
    exact isPlainName_map Char.isAlpha_toUpper_eq_isAlpha isPart_toUpper h
  · show isPlainName (lowerText s)
    rw [lowerText_eq_map hascii]
    exact isPlainName_map Char.isAlpha_toLower_eq_isAlpha isPart_toLower h

theorem isPlainName_applyAll {chain : List Transform} (hchain : kebabCase ∉ chain) {name : String}
    (h : isPlainName name.toList) : isPlainName (applyAll chain name).toList := by
  induction chain generalizing name with
  | nil => exact h
  | cons t chain ih =>
      rw [List.mem_cons, not_or] at hchain
      have hstep : isPlainName (t.apply name).toList := by
        rw [apply, String.toList_ofList]
        exact isPlainName_onText h (Ne.symm hchain.1)
      exact ih hchain.2 hstep

/-- **Plain names stay plain** under every chain without kebab case, and so do the names of each
kind in a definition whose chain for that kind has none. -/
theorem keeps_plain_names :
    (∀ chain : List Transform, kebabCase ∉ chain → ∀ name : String, isPlainName name.toList →
        isPlainName (applyAll chain name).toList) ∧
      ∀ (d : Definition) (t : Transforms) (kind : NameKind), kebabCase ∉ t.chain kind →
        (∀ n ∈ d.namesOf kind, isPlainName n.toList) →
          ∀ n ∈ (d.rename t).namesOf kind, isPlainName n.toList := by
  refine ⟨fun chain hchain name h => isPlainName_applyAll hchain h, ?_⟩
  intro d t kind hchain h n hn
  obtain ⟨n', hn', rfl⟩ := List.mem_map.mp (d.namesOf_rename_subset t kind hn)
  exact isPlainName_applyAll hchain (h n' hn')

/-- Names with words of one letter, words that start with a digit, and underscores at the end. -/
def patchy : Definition where
  services := .ofList [("a__B_", [⟨"X_2y__", [⟨"q9_", ⟨.model "z_", false⟩⟩],
    .ofList [("200", some ⟨.enumeration "E_1", true⟩)]⟩])]
  models := .ofList [("z_", .ofList [("n__0", ⟨.model "z_", true⟩)])]
  enums := .ofList [("E_1", ["v"])]

/-- Chains of which only the one for properties has kebab case. -/
def shouting : Transforms :=
  ⟨[.snakeCase, .upperCase], [.upperCase, .snakeCase, .camelCase], [], [.pascalCase], [.kebabCase]⟩

theorem keeps_plain_names_patchy :
    isPlainName (applyAll [.upperCase, .snakeCase, .camelCase] "X_2y__").toList ∧
      (∀ kind, kind ≠ .property →
        ∀ n ∈ (patchy.rename shouting).namesOf kind, isPlainName n.toList) ∧
      (patchy.rename shouting).namesOf .service = ["A_B"] ∧
      (patchy.rename shouting).namesOf .operation = ["x2y"] ∧
      (patchy.rename shouting).namesOf .modelReference = ["Z", "Z"] ∧
      (patchy.rename shouting).namesOf .property = ["n-0"] := by
  have hplain : ∀ kind, ∀ n ∈ patchy.namesOf kind, isPlainName n.toList := by
    intro kind
    cases kind <;> decide +kernel
  have hchain : ∀ kind, kind ≠ .property → kebabCase ∉ shouting.chain kind := by
    intro kind hkind
    cases kind with
    | property => exact absurd rfl hkind
    | service | operation | parameter | model | modelReference | enumReference => decide
  obtain ⟨hnames, hdefinitions⟩ := keeps_plain_names
  refine ⟨hnames _ (by decide) "X_2y__" (by decide), fun kind hkind => ?_, ?_⟩
  · exact hdefinitions patchy shouting kind (hchain kind hkind) (hplain kind)
  · decide +kernel

-- behind an underscore a word may start with a digit
example : applyAll [.pascalCase] "_1" = "1" := by decide +kernel

end Transform

end ApiProto
