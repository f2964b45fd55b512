/-
  The texts of JSON values.

  `Spells v text` says that a text spells a value, with any blanks between its tokens, any of the
  escapes for a character and any of the forms of a number.  It is stated without a reader.  Only
  values that can be read in full are spelled: the members of an object have pairwise different
  names, a number has a value, and a string has no half of a surrogate pair.
-/
import ApiProto.Json.Scan

namespace ApiProto.Json

/-! ## Blanks and separators -/

/-- A text of blanks. -/
def Blank (b : List Char) : Prop := ∀ x ∈ b, isSpace x

theorem blank_nil : Blank [] := by
  intro x hx
  cases hx

/-- Parts with commas between them and blanks around each; there is at least one. -/
inductive Joined {α : Type} (Part : α → List Char → Prop) : List α → List Char → Prop
  | single {a : α} {b t b' : List Char} (before : Blank b) (part : Part a t) (behind : Blank b') :
      Joined Part [a] (b ++ (t ++ b'))
  | cons {a : α} {as : List α} {b t b' text : List Char} (before : Blank b) (part : Part a t)
      (behind : Blank b') (rest : Joined Part as text) :
      Joined Part (a :: as) (b ++ (t ++ (b' ++ ',' :: text)))

/-- What stands between two brackets: parts with commas between them, or blanks alone. -/
inductive Enclosed {α : Type} (Part : α → List Char → Prop) : List α → List Char → Prop
  | empty {b : List Char} (blank : Blank b) : Enclosed Part [] b
  | parts {as : List α} {text : List Char} (joined : Joined Part as text) : Enclosed Part as text

/-! ## Numbers -/

/-- A text of digits. -/
def Digits (ds : List Char) : Prop := ∀ d ∈ ds, d.isDigit

/-- The digits before the point: a single zero, or digits that start with another one. -/
inductive SpellsWhole : List Char → Prop
  | zero : SpellsWhole ['0']
  | digits {d : Char} {ds : List Char} (first : d.isDigit) (ne_zero : d ≠ '0') (rest : Digits ds) :
      SpellsWhole (d :: ds)

/-- The digits after the point, if there are any. -/
inductive SpellsFraction : Option (List Char) → List Char → Prop
  | absent : SpellsFraction none []
  | present {ds : List Char} (ne_nil : ds ≠ []) (digits : Digits ds) :
      SpellsFraction (some ds) ('.' :: ds)

/-- The sign of an exponent: whether it is a minus. -/
inductive SpellsSign : Bool → List Char → Prop
  | absent : SpellsSign false []
  | plus : SpellsSign false ['+']
  | minus : SpellsSign true ['-']

/-- The exponent, if there is one. -/
inductive SpellsExponent : Option (Bool × List Char) → List Char → Prop
  | absent : SpellsExponent none []
  | present {e : Char} {down : Bool} {sign ds : List Char} (letter : e = 'e' ∨ e = 'E')
      (sign_spelled : SpellsSign down sign) (ne_nil : ds ≠ []) (digits : Digits ds) :
      SpellsExponent (some (down, ds)) (e :: (sign ++ ds))

/-- A number, part by part. -/
inductive SpellsNumber : NumberText → List Char → Prop
  | mk {negative : Bool} {whole : List Char} {fraction : Option (List Char)}
      {exponent : Option (Bool × List Char)} {f e : List Char} (whole_spelled : SpellsWhole whole)
      (fraction_spelled : SpellsFraction fraction f)
      (exponent_spelled : SpellsExponent exponent e) :
      SpellsNumber ⟨negative, whole, fraction, exponent⟩
        ((if negative then ['-'] else []) ++ (whole ++ (f ++ e)))

/-! ## Strings -/

/-- Four hexadecimal digits. -/
inductive SpellsUnit : Nat → List Char → Prop
  | mk {w x y z : Char} {a b c d : Nat} (first : hexValue? w = some a) (second : hexValue? x = some b)
      (third : hexValue? y = some c) (fourth : hexValue? z = some d) :
      SpellsUnit (a * 0x1000 + b * 0x100 + c * 0x10 + d) [w, x, y, z]

/-- The letters behind a backslash and the characters that they stand for. -/
def shortEscapes : List (Char × Char) :=
  [('"', '"'), ('\\', '\\'), ('/', '/'), ('b', Char.ofNat 0x08), ('f', Char.ofNat 0x0C),
    ('n', '\n'), ('r', '\r'), ('t', '\t')]

/-- A character inside a string: as it is, by a letter, by its code point, or, if that takes more
than four digits, by a surrogate pair. -/
inductive SpellsChar : Char → List Char → Prop
  | plain {c : Char} (ne_quote : c ≠ '"') (ne_backslash : c ≠ '\\') (visible : 0x20 ≤ c.toNat) :
      SpellsChar c [c]
  | short {x c : Char} (escape : (x, c) ∈ shortEscapes) : SpellsChar c ['\\', x]
  | unit {c : Char} {ds : List Char} (digits : SpellsUnit c.toNat ds) :
      SpellsChar c ('\\' :: 'u' :: ds)
  | pair {c : Char} {high low : Nat} {ds es : List Char} (high_digits : SpellsUnit high ds)
      (low_digits : SpellsUnit low es) (is_high : isHighSurrogate high)
      (is_low : isLowSurrogate low)
      (code : c.toNat = 0x10000 + (high - 0xD800) * 0x400 + (low - 0xDC00)) :
      SpellsChar c ('\\' :: 'u' :: (ds ++ '\\' :: 'u' :: es))

/-- Characters inside a string. -/
inductive SpellsChars : List Char → List Char → Prop
  | nil : SpellsChars [] []
  | cons {c : Char} {cs t ts : List Char} (head : SpellsChar c t) (tail : SpellsChars cs ts) :
      SpellsChars (c :: cs) (t ++ ts)

/-- A string between its quotes. -/
inductive SpellsString : String → List Char → Prop
  | mk {s : String} {body : List Char} (chars : SpellsChars s.toList body) :
      SpellsString s ('"' :: (body ++ ['"']))

/-! ## Values -/

/-- A member of an object: its name, a colon and its value. -/
inductive SpellsMember (Value : Json → List Char → Prop) : String × Json → List Char → Prop
  | mk {name : String} {v : Json} {n b b' t : List Char} (name_spelled : SpellsString name n)
      (before : Blank b) (behind : Blank b') (value : Value v t) :
      SpellsMember Value (name, v) (n ++ (b ++ ':' :: (b' ++ t)))

/-- A value, from its first character to its last. -/
inductive Spells : Json → List Char → Prop
  | null : Spells .null "null".toList
  | boolTrue : Spells (.bool true) "true".toList
  | boolFalse : Spells (.bool false) "false".toList
  | number {t : NumberText} {n : Number} {text : List Char} (spelled : SpellsNumber t text)
      (value : t.value = .value n) : Spells (.number n) text
  | string {s : String} {text : List Char} (spelled : SpellsString s text) :
      Spells (.string s) text
  | array {items : List Json} {text : List Char} (spelled : Enclosed Spells items text) :
      Spells (.array items) ('[' :: (text ++ [']']))
  | object {members : List (String × Json)} {text : List Char}
      (spelled : Enclosed (SpellsMember Spells) members text)
      (nodup_names : (members.map Prod.fst).Nodup) :
      Spells (.object members) ('\x7b' :: (text ++ ['\x7d']))

/-- A whole text: a value with blanks around it. -/
inductive IsTextOf (v : Json) : String → Prop
  | mk {s : String} {b t b' : List Char} (before : Blank b) (value : Spells v t) (behind : Blank b')
      (text : s.toList = b ++ (t ++ b')) : IsTextOf v s

/-! ## Nesting -/

mutual

/-- How deep arrays and objects are nested in a value. -/
def depth : Json → Nat
  | .array items => depthOfItems items + 1
  | .object members => depthOfMembers members + 1
  | _ => 0

/-- The greatest depth of items. -/
def depthOfItems : List Json → Nat
  | [] => 0
  | v :: rest => max (depth v) (depthOfItems rest)

/-- The greatest depth of the values of members. -/
def depthOfMembers : List (String × Json) → Nat
  | [] => 0
  | m :: rest => max (depth m.2) (depthOfMembers rest)

end

theorem depthOfItems_le_iff {items : List Json} {n : Nat} :
    depthOfItems items ≤ n ↔ ∀ v ∈ items, v.depth ≤ n := by
  induction items with
  | nil => simp [depthOfItems]
  | cons v rest ih => rw [depthOfItems, Nat.max_le, ih, List.forall_mem_cons]

theorem depthOfMembers_le_iff {members : List (String × Json)} {n : Nat} :
    depthOfMembers members ≤ n ↔ ∀ m ∈ members, m.2.depth ≤ n := by
  induction members with
  | nil => simp [depthOfMembers]
  | cons m rest ih => rw [depthOfMembers, Nat.max_le, ih, List.forall_mem_cons]

end ApiProto.Json
