/-
  Spelled values are read as what they are, or refused by their shape.

  `Reads room read v a?` says what a reader makes of every spelling of a value: the result `a?`, or,
  if that is none, a fault of the shape.  There is a rule for scalars, one for the items of an array
  and one for the members of an object, and from these one for each decoder.
-/
import ApiProto.Proofs.Reading.Skipping

namespace ApiProto.Json

variable {α β σ : Type}

/-! ## Results -/

/-- A reading ends before `rest` with the value or, if there is none, in a fault of the shape. -/
def Yields (rest : List Char) (x : Except Fault (α × Cursor)) : Option α → Prop
  | some a => ∃ offset, x = .ok (a, ⟨rest, offset⟩)
  | none => ∃ fault, x = .error fault ∧ fault.cause.isShape

theorem Yields.bind {rest rest' : List Char} {x : Except Fault (α × Cursor)}
    {f : α × Cursor → Except Fault (β × Cursor)} {a? : Option α} {g : α → Option β}
    (hx : Yields rest x a?)
    (hf : ∀ a offset, a? = some a → Yields rest' (f (a, ⟨rest, offset⟩)) (g a)) :
    Yields rest' (x >>= f) (a? >>= g) := by
  cases a? with
  | none =>
      obtain ⟨fault, rfl, hshape⟩ := hx
      exact ⟨fault, rfl, hshape⟩
  | some a =>
      obtain ⟨offset, rfl⟩ := hx
      exact hf a offset rfl

theorem Yields.map {rest : List Char} {x : Except Fault (α × Cursor)} {a? : Option α} (g : α → β)
    (hx : Yields rest x a?) : Yields rest (x >>= fun p => .ok (g p.1, p.2)) (a?.map g) := by
  rw [Option.map_eq_bind]
  exact hx.bind fun a offset _ => ⟨offset, rfl⟩

/-- What a reader makes of a value that nests at most `room` deep, however it is spelled. -/
def Reads (room : Nat) (read : Cursor → Except Fault (α × Cursor)) (v : Json) (a? : Option α) :
    Prop :=
  ∀ {text b : List Char}, Spells v text → Blank b → v.depth ≤ room →
    ∀ rest offset, EndsValue rest → Yields rest (read ⟨b ++ (text ++ rest), offset⟩) a?

/-- A decoder makes of every value what the view says. -/
def Decoder.Follows (d : Decoder α) (view : Json → Option α) : Prop :=
  ∀ room v, Reads room (d room) v (view v)

/-! ## Scalars -/

/-- Whether a value is neither array nor object. -/
def isScalar : Json → Bool
  | .array _ | .object _ => false
  | _ => true

theorem readScalar_append {v : Json} {text rest : List Char} (h : Spells v text) (hv : v.isScalar)
    (hrest : EndsValue rest) (offset : Nat) :
    ∃ offset', readScalar ⟨text ++ rest, offset⟩ = .ok (v, ⟨rest, offset'⟩) := by
  cases h with
  | null =>
      have hword := readWord_append "null".toList rest offset
      exact ⟨_, congrArg (fun x => x >>= fun c => Except.ok (Json.null, c)) hword⟩
  | boolTrue =>
      have hword := readWord_append "true".toList rest offset
      exact ⟨_, congrArg (fun x => x >>= fun c => Except.ok (Json.bool true, c)) hword⟩
  | boolFalse =>
      have hword := readWord_append "false".toList rest offset
      exact ⟨_, congrArg (fun x => x >>= fun c => Except.ok (Json.bool false, c)) hword⟩
  | number hspelled hvalue =>
      obtain ⟨o, ho⟩ := readNumber_append hspelled hvalue hrest offset
      obtain ⟨x, t, rfl, hx⟩ := (Spells.number hspelled hvalue).exists_cons
      obtain ⟨hnumber, hn, ht, hf, -⟩ := mayBegin_number hx
      refine ⟨o, ?_⟩
      rw [List.cons_append] at ho ⊢
      simp only [readScalar, if_neg hn, if_neg ht, if_neg hf, if_pos hnumber, ho, ok_bind]
  | string hspelled =>
      obtain @⟨body, hchars⟩ := hspelled
      obtain ⟨o, ho⟩ := readString_append hchars rest (offset + 1)
      rw [List.cons_append, List.append_assoc]
      exact ⟨o, congrArg (fun x : Except Fault (String × Cursor) =>
        x >>= fun p => Except.ok (Json.string p.1, p.2)) ho⟩
  | array _ => cases hv
  | object _ _ => cases hv

theorem isScalar_head {v : Json} {x : Char} (hx : v.mayBegin x) (hv : v.isScalar) :
    x ≠ '[' ∧ x ≠ '\x7b' := by
  cases v with
  | number n => exact (mayBegin_number hx).2.2.2.2.2
  | array items => cases hv
  | object members => cases hv
  | bool b =>
      cases b <;> (cases eq_of_beq hx; decide)
  | _ => cases eq_of_beq hx; decide

/-- A value of the wrong kind is a fault of the shape. -/
theorem mismatch_append {v : Json} {text rest : List Char} (h : Spells v text)
    (hrest : EndsValue rest) (expected : Expected) (offset : Nat) :
    Yields rest (mismatch (α := α × Cursor) expected ⟨text ++ rest, offset⟩) none := by
  cases hv : v.isScalar with
  | false =>
      -- an array or object is refused by its first character
      cases h with
      | array _ => exact ⟨_, rfl, rfl⟩
      | object _ _ => exact ⟨_, rfl, rfl⟩
      | _ => cases hv
  | true =>
      -- a scalar is read first, so that the fault stands behind it
      obtain ⟨o, ho⟩ := readScalar_append h hv hrest offset
      obtain ⟨x, t, rfl, hx⟩ := h.exists_cons
      obtain ⟨hbracket, hbrace⟩ := isScalar_head hx hv
      refine ⟨⟨.mismatch v.found expected, o⟩, ?_, rfl⟩
      rw [List.cons_append] at ho ⊢
      unfold mismatch
      split
      · rename_i heq
        cases heq
        exact absurd rfl hbracket
      · rename_i heq
        cases heq
        exact absurd rfl hbrace
      · rw [ho]
        rfl

/-! ## Arrays -/

section Items

variable {item : Cursor → Except Fault (α × Cursor)} {view : Json → Option α} {room : Nat}

/-- The next item is read where its value begins. -/
theorem readItems_step {v : Json} {first : Bool} {lead b t : List Char} (hlead : Lead first lead)
    (hb : Blank b) (ht : Spells v t) (f : Char) (fuel rest : List Char) (offset : Nat) :
    ∃ offset', readItems item (f :: fuel) first ⟨lead ++ (b ++ (t ++ rest)), offset⟩
      = item ⟨t ++ rest, offset'⟩ >>= fun p => readItems item fuel false p.2 >>= fun q =>
        .ok (p.1 :: q.1, q.2) := by
  obtain ⟨x, t, rfl, hx⟩ := ht.exists_cons
  obtain ⟨hspace, -, hbracket, -⟩ := mayBegin_ne hx
  have hblank := skipBlanks_append (t := t ++ rest) hb hspace
  cases hlead with
  | first =>
      refine ⟨offset + b.length, ?_⟩
      rw [List.nil_append, List.cons_append, readItems, hblank]
      simp only
      split
      · rename_i heq
        cases heq
      · rename_i heq
        cases heq
        exact absurd rfl hbracket
      · rfl
  | @next b' hb' =>
      refine ⟨offset + b'.length + 1 + b.length, ?_⟩
      have hcomma : ¬ isSpace ',' := by decide
      have hstart : itemStart false ⟨',' :: (b ++ (x :: (t ++ rest))), offset + b'.length⟩
          = .ok ⟨x :: (t ++ rest), offset + b'.length + 1 + b.length⟩ := by
        simp only [itemStart, Bool.false_eq_true, if_false, hblank]
        split
        · rename_i heq
          cases heq
        · rename_i heq
          cases heq
          exact absurd rfl hbracket
        · rfl
      rw [readItems, List.append_assoc, List.singleton_append, skipBlanks_append hb' hcomma,
        List.cons_append]
      simp only [hstart, ok_bind]
      rfl

theorem readItems_last (item : Cursor → Except Fault (α × Cursor)) {b fuel : List Char}
    (hb : Blank b) (hfuel : 0 < fuel.length) (first : Bool) (rest : List Char) (offset : Nat) :
    ∃ offset', readItems item fuel first ⟨b ++ ']' :: rest, offset⟩
      = .ok ([], ⟨rest, offset'⟩) := by
  obtain ⟨f, fuel, rfl⟩ := List.exists_cons_of_length_pos hfuel
  refine ⟨offset + b.length + 1, ?_⟩
  rw [readItems, skipBlanks_append hb (by decide)]
  rfl

/-- Items are read one by one, each with one unit of fuel, up to the bracket behind them. -/
theorem readItems_append (hitem : ∀ v, Reads room item v (view v)) {items : List Json}
    {text : List Char} (h : Joined Spells items text) (hdepth : depthOfItems items ≤ room)
    {fuel : List Char} (hfuel : text.length < fuel.length) {first : Bool} {lead : List Char}
    (hlead : Lead first lead) (rest : List Char) (offset : Nat) :
    Yields rest (readItems item fuel first ⟨lead ++ (text ++ ']' :: rest), offset⟩)
      (items.mapM view) := by
  induction h generalizing fuel first lead offset with
  | @single v b t b' hb ht hb' =>
      have hpos := ht.length_pos
      simp only [List.length_append] at hfuel
      have hroom : 0 + 1 < fuel.length := by omega
      obtain ⟨f, fuel, rfl, hlast⟩ := exists_cons_of_succ_lt hroom
      have hrest : EndsValue (b' ++ ']' :: rest) := (endsValue_cons (by simp)).blank_append hb'
      obtain ⟨o, ho⟩ := readItems_step hlead hb ht f fuel (b' ++ ']' :: rest) offset
      have hv := hitem v ht blank_nil (by simpa [depthOfItems] using hdepth)
        (b' ++ ']' :: rest) o hrest
      rw [List.append_assoc, List.append_assoc, ho, List.mapM_cons, List.mapM_nil]
      refine hv.bind fun a o' _ => ?_
      obtain ⟨o'', ho''⟩ := readItems_last item hb' hlast false rest o'
      exact ⟨o'', by rw [ho'', ok_bind]⟩
  | @cons v items b t b' text hb ht hb' _ ih =>
      simp only [List.length_append, List.length_cons] at hfuel
      have hroom : text.length + 1 < fuel.length := by omega
      obtain ⟨f, fuel, rfl, hlength⟩ := exists_cons_of_succ_lt hroom
      rw [depthOfItems, Nat.max_le] at hdepth
      have hrest : EndsValue (b' ++ ',' :: (text ++ ']' :: rest)) :=
        (endsValue_cons (by simp)).blank_append hb'
      obtain ⟨o, ho⟩ := readItems_step hlead hb ht f fuel (b' ++ ',' :: (text ++ ']' :: rest)) offset
      have hv := hitem v ht blank_nil hdepth.1
        (b' ++ ',' :: (text ++ ']' :: rest)) o hrest
      simp only [List.append_assoc, List.cons_append]
      rw [ho, List.mapM_cons]
      refine hv.bind fun a o' _ => ?_
      have htail := ih hdepth.2 hlength (.next hb') o'
      rw [List.append_assoc, List.singleton_append] at htail
      exact htail.bind fun as o'' _ => ⟨o'', rfl⟩

end Items

/-! ## Objects -/

/-- What the rules make of a state and members: a state with the members in it, or none.  No member
is refused as repeated. -/
inductive Fills (room : Nat) (rule : σ → String → MemberRule σ) :
    σ → List (String × Json) → Option σ → Prop
  | nil {s : σ} : Fills room rule s [] (some s)
  | take {s : σ} {name : String} {v : Json} {ms : List (String × Json)}
      {read : Cursor → Except Fault (σ × Cursor)} {s? : Option σ} {rest : σ → Option σ}
      (rule_eq : rule s name = .take read) (reads : Reads room read v s?)
      (fills : ∀ s', s? = some s' → Fills room rule s' ms (rest s')) :
      Fills room rule s ((name, v) :: ms) (s? >>= rest)
  | skip {s : σ} {name : String} {v : Json} {ms : List (String × Json)} {r : Option σ}
      (rule_eq : rule s name = .skip) (fills : Fills room rule s ms r) :
      Fills room rule s ((name, v) :: ms) r

section Members

variable {rule : σ → String → MemberRule σ} {room : Nat}

/-- A name is read where it begins; what comes then depends on the rule for it. -/
theorem nameStart_append {first : Bool} {lead b : List Char} (hlead : Lead first lead)
    (hb : Blank b) (t : List Char) (offset : Nat) :
    ∃ c offset', (Cursor.mk (lead ++ (b ++ '"' :: t)) offset).skipBlanks = c ∧
      (∃ x rest, c.rest = x :: rest ∧ x ≠ '\x7d') ∧ nameStart first c = .ok ⟨t, offset'⟩ := by
  have hquote : ¬ isSpace '"' := by decide
  cases hlead with
  | first =>
      exact ⟨_, _, skipBlanks_append hb hquote offset, ⟨_, _, rfl, by decide⟩, rfl⟩
  | @next b' hb' =>
      have hcomma : ¬ isSpace ',' := by decide
      refine ⟨⟨',' :: (b ++ '"' :: t), offset + b'.length⟩, offset + b'.length + 1 + b.length + 1, ?_,
        ⟨_, _, rfl, by decide⟩, ?_⟩
      · rw [List.append_assoc]
        exact skipBlanks_append hb' hcomma offset
      · simp only [nameStart, Bool.false_eq_true, if_false, skipBlanks_append hb hquote]

/-- Behind a name, the rule for it decides. -/
theorem readMembers_name (rule : σ → String → MemberRule σ) {first : Bool} {name : String}
    {lead b n t : List Char} (hlead : Lead first lead) (hb : Blank b) (hname : SpellsString name n)
    (f : Char) (fuel : List Char) (s : σ) (offset : Nat) :
    ∃ offset',
      (rule s name = .skip → readMembers rule (f :: fuel) first s ⟨lead ++ (b ++ (n ++ t)), offset⟩
        = readColon ⟨t, offset'⟩ >>= fun c => skipValue c >>= readMembers rule fuel false s) ∧
      ∀ read, rule s name = .take read →
        readMembers rule (f :: fuel) first s ⟨lead ++ (b ++ (n ++ t)), offset⟩
          = readColon ⟨t, offset'⟩ >>= fun c => read c >>= fun p =>
            readMembers rule fuel false p.1 p.2 := by
  obtain @⟨body, hchars⟩ := hname
  obtain ⟨c, o, hblank, ⟨x, rest, hc, hx⟩, hstart⟩ := nameStart_append hlead hb
    (body ++ '"' :: t) offset
  obtain ⟨o', ho'⟩ := readString_append hchars t o
  refine ⟨o', ?_⟩
  simp only [List.cons_append, List.append_assoc, List.nil_append, readMembers, hblank]
  split
  · rename_i heq
    rw [hc] at heq
    cases heq
  · rename_i heq
    rw [hc] at heq
    cases heq
    exact absurd rfl hx
  · refine ⟨fun hskip => ?_, fun read htake => ?_⟩
    · simp only [hstart, ho', ok_bind, hskip]
    · simp only [hstart, ho', ok_bind, htake]

theorem readMembers_last {b fuel : List Char} (hb : Blank b) (hfuel : 0 < fuel.length) (first : Bool)
    (s : σ) (rest : List Char) (offset : Nat) :
    ∃ offset', readMembers rule fuel first s ⟨b ++ '\x7d' :: rest, offset⟩
      = .ok (s, ⟨rest, offset'⟩) := by
  obtain ⟨f, fuel, rfl⟩ := List.exists_cons_of_length_pos hfuel
  refine ⟨offset + b.length + 1, ?_⟩
  rw [readMembers, skipBlanks_append hb (by decide)]
  rfl

/-- A member is read into the state, from which the others are. -/
theorem readMembers_step {m : String × Json} {ms : List (String × Json)} {first : Bool}
    {lead b t behind rest : List Char} {s : σ} {r : Option σ} (hlead : Lead first lead) (hb : Blank b)
    (hm : SpellsMember Spells m t) (hdepth : m.2.depth ≤ room)
    (hfills : Fills room rule s (m :: ms) r) (hbehind : EndsValue behind) {fuel : List Char}
    (hrest : ∀ s' r' offset, Fills room rule s' ms r' →
      Yields rest (readMembers rule fuel false s' ⟨behind, offset⟩) r')
    (f : Char) (offset : Nat) :
    Yields rest (readMembers rule (f :: fuel) first s ⟨lead ++ (b ++ (t ++ behind)), offset⟩) r := by
  obtain @⟨name, v, n, b₁, b₂, t, hname, hb₁, hb₂, hv⟩ := hm
  obtain ⟨o, hskip, htake⟩ := readMembers_name rule hlead hb hname
    (t := b₁ ++ ':' :: (b₂ ++ (t ++ behind))) f fuel s offset
  obtain ⟨o₁, h₁⟩ := readColon_append hb₁ (b₂ ++ (t ++ behind)) o
  simp only [List.append_assoc, List.cons_append]
  -- the rule for the name reads the value or skips it
  cases hfills with
  | take rule_eq reads fills =>
      rw [htake _ rule_eq, h₁, ok_bind]
      exact (reads hv hb₂ hdepth behind o₁ hbehind).bind fun s' o' hs' => hrest s' _ o' (fills s' hs')
  | skip rule_eq fills =>
      obtain ⟨o₂, h₂⟩ := skipValue_append hv hb₂ hbehind o₁
      rw [hskip rule_eq, h₁, ok_bind, h₂, ok_bind]
      exact hrest _ _ _ fills

/-- Members are read one by one into the state, up to the brace behind them. -/
theorem readMembers_append {ms : List (String × Json)} {text : List Char}
    (h : Joined (SpellsMember Spells) ms text) (hdepth : depthOfMembers ms ≤ room) {s : σ}
    {r : Option σ} (hfills : Fills room rule s ms r) {fuel : List Char}
    (hfuel : text.length < fuel.length) {first : Bool} {lead : List Char} (hlead : Lead first lead)
    (rest : List Char) (offset : Nat) :
    Yields rest (readMembers rule fuel first s ⟨lead ++ (text ++ '\x7d' :: rest), offset⟩) r := by
  induction h generalizing s r fuel first lead offset with
  | @single m b t b' hb hm hb' =>
      obtain ⟨t', rfl⟩ := hm.exists_cons
      simp only [List.length_append, List.length_cons] at hfuel
      have hroom : 0 + 1 < fuel.length := by omega
      obtain ⟨f, fuel, rfl, hlast⟩ := exists_cons_of_succ_lt hroom
      rw [depthOfMembers, Nat.max_le] at hdepth
      have hbehind : EndsValue (b' ++ '\x7d' :: rest) := (endsValue_cons (by simp)).blank_append hb'
      rw [List.append_assoc, List.append_assoc]
      refine readMembers_step hlead hb hm hdepth.1 hfills hbehind ?_ f offset
      intro s' r' o hfills'
      cases hfills'
      exact readMembers_last hb' hlast false s' rest o
  | @cons m ms b t b' text hb hm hb' _ ih =>
      simp only [List.length_append, List.length_cons] at hfuel
      have hroom : text.length + 1 < fuel.length := by omega
      obtain ⟨f, fuel, rfl, hlength⟩ := exists_cons_of_succ_lt hroom
      rw [depthOfMembers, Nat.max_le] at hdepth
      have hbehind : EndsValue (b' ++ ',' :: (text ++ '\x7d' :: rest)) :=
        (endsValue_cons (by simp)).blank_append hb'
      simp only [List.append_assoc, List.cons_append]
      refine readMembers_step hlead hb hm hdepth.1 hfills hbehind ?_ f offset
      intro s' r' o hfills'
      have htail := ih hdepth.2 hfills' hlength (.next hb') o
      rwa [List.append_assoc, List.singleton_append] at htail

end Members

end ApiProto.Json
