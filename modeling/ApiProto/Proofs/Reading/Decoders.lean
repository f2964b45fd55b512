/-
  Each decoder makes of a spelled value what the view of that kind says.
-/
import ApiProto.Json.View
import ApiProto.Proofs.Merging
import ApiProto.Proofs.Reading.Values

namespace ApiProto.Json

variable {α β σ : Type}

/-! ## Between brackets -/

theorem readItems_enclosed {item : Cursor → Except Fault (α × Cursor)} {view : Json → Option α}
    {room : Nat} (hitem : ∀ v, Reads room item v (view v)) {items : List Json} {text : List Char}
    (h : Enclosed Spells items text) (hdepth : depthOfItems items ≤ room) (rest : List Char)
    (offset : Nat) :
    Yields rest (readItems item (text ++ [']'] ++ rest) true ⟨text ++ [']'] ++ rest, offset⟩)
      (items.mapM view) := by
  rw [List.append_assoc, List.singleton_append]
  have hlength : text.length < (text ++ ']' :: rest).length := by simp
  cases h with
  | empty hblank =>
      exact readItems_last item hblank (Nat.zero_lt_of_lt hlength) true rest offset
  | parts hjoined => exact readItems_append hitem hjoined hdepth hlength .first rest offset

theorem readMembers_enclosed {rule : σ → String → MemberRule σ} {room : Nat}
    {ms : List (String × Json)} {text : List Char} (h : Enclosed (SpellsMember Spells) ms text)
    (hdepth : depthOfMembers ms ≤ room) {s : σ} {r : Option σ} (hfills : Fills room rule s ms r)
    (rest : List Char) (offset : Nat) :
    Yields rest (readMembers rule (text ++ ['\x7d'] ++ rest) true s
      ⟨text ++ ['\x7d'] ++ rest, offset⟩) r := by
  rw [List.append_assoc, List.singleton_append]
  have hlength : text.length < (text ++ '\x7d' :: rest).length := by simp
  cases h with
  | empty hblank =>
      cases hfills
      exact readMembers_last hblank (Nat.zero_lt_of_lt hlength) true s rest offset
  | parts hjoined => exact readMembers_append hjoined hdepth hfills hlength .first rest offset

/-! ## Kinds by their first character -/

theorem mayBegin_bracket {v : Json} (h : v.mayBegin '[') : ∃ items, v = .array items := by
  cases v with
  | array items => exact ⟨items, rfl⟩
  | bool b => cases b <;> cases h
  | _ => cases h

theorem mayBegin_brace {v : Json} (h : v.mayBegin '\x7b') : ∃ members, v = .object members := by
  cases v with
  | object members => exact ⟨members, rfl⟩
  | bool b => cases b <;> cases h
  | _ => cases h

theorem mayBegin_quote {v : Json} (h : v.mayBegin '"') : ∃ s, v = .string s := by
  cases v with
  | string s => exact ⟨s, rfl⟩
  | bool b => cases b <;> cases h
  | _ => cases h

theorem mayBegin_n {v : Json} (h : v.mayBegin 'n') : v = .null := by
  cases v with
  | null => rfl
  | bool b => cases b <;> cases h
  | _ => cases h

/-! ## Texts and lists -/

theorem follows_text : Decoder.text.Follows textOf? := by
  intro room v text b hv hb _ rest offset hrest
  obtain ⟨x, t, rfl, hx⟩ := hv.exists_cons
  rw [Decoder.text, hv.skipBlanks_append hb]
  simp only [List.cons_append]
  split
  · rename_i heq
    cases heq
  · rename_i heq
    cases heq
    obtain ⟨s, rfl⟩ := mayBegin_quote hx
    cases hv with
    | string hspelled =>
        obtain @⟨body, hchars⟩ := hspelled
        rw [List.append_assoc]
        exact readString_append hchars rest _
  · rename_i hquote
    have hnone : textOf? v = none := by
      cases v with
      | string s =>
          cases eq_of_beq hx
          exact absurd rfl (hquote _)
      | _ => rfl
    rw [hnone]
    exact mismatch_append hv hrest .string (offset + b.length)

theorem follows_list {d : Decoder α} {view : Json → Option α} (hd : d.Follows view) :
    (Decoder.list d).Follows (listOf? view) := by
  intro room v text b hv hb hdepth rest offset hrest
  obtain ⟨x, t, rfl, hx⟩ := hv.exists_cons
  rw [Decoder.list, hv.skipBlanks_append hb]
  simp only [List.cons_append]
  split
  · rename_i heq
    cases heq
  · rename_i heq
    cases heq
    obtain ⟨items, rfl⟩ := mayBegin_bracket hx
    cases room with
    | zero => cases hdepth
    | succ room =>
        cases hv with
        | array hitems =>
            exact readItems_enclosed (hd room) hitems (Nat.le_of_succ_le_succ hdepth) rest _
  · rename_i hbracket
    have hnone : listOf? view v = none := by
      cases v with
      | array items =>
          cases eq_of_beq hx
          exact absurd rfl (hbracket _)
      | _ => rfl
    rw [hnone]
    exact mismatch_append hv hrest .sequence (offset + b.length)

/-- Null is read as none; any other value is left to the decoder. -/
theorem follows_optional {d : Decoder α} {view : Json → Option α} (hd : d.Follows view) :
    (Decoder.optional d).Follows (optionalOf? view) := by
  intro room v text b hv hb hdepth rest offset hrest
  rw [Decoder.optional, hv.skipBlanks_append hb]
  obtain ⟨x, t, rfl, hx⟩ := hv.exists_cons
  simp only [List.cons_append]
  split
  · rename_i heq
    cases heq
    cases mayBegin_n hx
    cases hv with
    | null =>
        have hword := readWord_append "null".toList rest (offset + b.length)
        exact ⟨_, congrArg (fun x => x >>= fun c => Except.ok (none, c)) hword⟩
  · rename_i hn
    have hsome : optionalOf? view v = (view v).map some := by
      cases v with
      | null =>
          cases eq_of_beq hx
          exact absurd rfl (hn _)
      | _ => rfl
    rw [hsome]
    have hread := hd room v hv blank_nil hdepth rest (offset + b.length) hrest
    exact hread.map some

/-! ## Objects -/

/-- An object is read by its rules, if no rule refuses a member and only the shape is refused in the
end. -/
theorem follows_object {expected : Expected} {init : σ} {rule : Nat → σ → String → MemberRule σ}
    {finish : σ → Except Cause α} {fill : List (String × Json) → Option σ}
    (hfills : ∀ room ms, (ms.map Prod.fst).Nodup → Fills room (rule room) init ms (fill ms))
    (hfinish : ∀ s cause, finish s = .error cause → cause.isShape) :
    (Decoder.object expected init rule finish).Follows
      (objectOf? fun ms => fill ms >>= fun s => (finish s).toOption) := by
  intro room v text b hv hb hdepth rest offset hrest
  rw [Decoder.object, hv.skipBlanks_append hb]
  obtain ⟨x, t, rfl, hx⟩ := hv.exists_cons
  simp only [List.cons_append]
  split
  · rename_i heq
    cases heq
  · rename_i heq
    cases heq
    obtain ⟨members, rfl⟩ := mayBegin_brace hx
    cases room with
    | zero => cases hdepth
    | succ room =>
        cases hv with
        | object hmembers hnodup =>
            have hread := readMembers_enclosed hmembers (Nat.le_of_succ_le_succ hdepth)
              (hfills room members hnodup) rest (offset + b.length + 1)
            refine hread.bind fun s o _ => ?_
            cases hs : finish s with
            | ok a => exact ⟨o, rfl⟩
            | error cause => exact ⟨⟨cause, o⟩, rfl, hfinish s cause hs⟩
  · rename_i hbrace
    have hnone : objectOf? (fun ms => fill ms >>= fun s => (finish s).toOption) v = none := by
      cases v with
      | object members =>
          cases eq_of_beq hx
          exact absurd rfl (hbrace _)
      | _ => rfl
    rw [hnone]
    exact mismatch_append hv hrest expected (offset + b.length)

/-- Every member is read and put into the state. -/
theorem fills_foldl {item : Cursor → Except Fault (α × Cursor)} {view : Json → Option α} {room : Nat}
    (hitem : ∀ v, Reads room item v (view v)) (put : σ → String → α → σ) (s : σ)
    (ms : List (String × Json)) :
    Fills room (fun s name => .take fun c => do
        let (v, c) ← item c
        .ok (put s name v, c)) s ms
      ((ms.mapM fun m => (view m.2).map (m.1, ·)).map
        fun es => es.foldl (fun s e => put s e.1 e.2) s) := by
  induction ms generalizing s with
  | nil => exact .nil
  | cons m ms ih =>
      obtain ⟨name, v⟩ := m
      have hfold : (((name, v) :: ms).mapM fun m => (view m.2).map (m.1, ·)).map
            (fun es => es.foldl (fun s e => put s e.1 e.2) s)
          = (view v).map (put s name) >>= fun s' =>
            (ms.mapM fun m => (view m.2).map (m.1, ·)).map
              fun es => es.foldl (fun s e => put s e.1 e.2) s' := by
        rw [List.mapM_cons]
        cases view v with
        | none => rfl
        | some a =>
            cases ms.mapM fun m => (view m.2).map (m.1, ·) <;> rfl
      rw [hfold]
      refine .take rfl ?_ fun s' _ => ih s'
      intro text b hv hb hdepth rest offset hrest
      exact (hitem v hv hb hdepth rest offset hrest).map (put s name)

theorem follows_dict {expected : Expected} {d : Decoder α} {view : Json → Option α}
    (hd : d.Follows view) : (Decoder.dict expected d).Follows (dictOf? view) := by
  have hfills : ∀ room (ms : List (String × Json)), (ms.map Prod.fst).Nodup → _ := fun room ms _ =>
    fills_foldl (hd room) (fun (m : OrderedMap String α) name v => m.insert name v) .empty ms
  have hfinish : ∀ (m : OrderedMap String α) (cause : Cause), Except.ok m = .error cause →
      cause.isShape := by
    intro m cause h
    cases h
  have hobject : (Decoder.dict expected d).Follows _ := follows_object hfills hfinish
  simp only [Except.toOption, Option.bind_eq_bind, Option.bind_fun_some] at hobject
  exact hobject

/-! ## Values of any kind -/

/-- A scalar is read as it is, whatever may stand in arrays and objects. -/
theorem valueWith_scalar {inner : Option (Cursor → Except Fault (Json × Cursor))} {v : Json}
    {text b rest : List Char} (h : Spells v text) (hb : Blank b) (hv : v.isScalar)
    (hrest : EndsValue rest) (offset : Nat) :
    Yields rest (valueWith inner ⟨b ++ (text ++ rest), offset⟩) (some v) := by
  obtain ⟨o, ho⟩ := readScalar_append h hv hrest (offset + b.length)
  obtain ⟨x, t, rfl, hx⟩ := h.exists_cons
  obtain ⟨hbracket, hbrace⟩ := isScalar_head hx hv
  refine ⟨o, ?_⟩
  unfold valueWith
  rw [h.skipBlanks_append hb, ← ho, List.cons_append]
  simp only
  split
  · rename_i heq
    cases heq
    exact absurd rfl hbracket
  · rename_i heq
    cases heq
    exact absurd rfl hbrace
  · rename_i heq
    cases heq
    exact absurd rfl hbracket
  · rename_i heq
    cases heq
    exact absurd rfl hbrace
  · rfl

theorem mapM_some {γ δ : Type} (f : γ → δ) (l : List γ) :
    l.mapM (fun a => some (f a)) = some (l.map f) := List.mapM_pure

theorem follows_value : Decoder.value.Follows some := by
  intro room
  induction room with
  | zero =>
      intro v text b hv hb hdepth rest offset hrest
      cases v with
      | array items => cases hdepth
      | object members => cases hdepth
      | _ => exact valueWith_scalar hv hb rfl hrest offset
  | succ room ih =>
      intro v text b hv hb hdepth rest offset hrest
      cases hscalar : v.isScalar with
      | true => exact valueWith_scalar hv hb hscalar hrest offset
      | false =>
          rw [Decoder.value]
          unfold valueWith
          rw [hv.skipBlanks_append hb]
          cases hv with
          | array hitems =>
              have hread := readItems_enclosed ih hitems (Nat.le_of_succ_le_succ hdepth) rest
                (offset + b.length + 1)
              rw [show (some : Json → Option Json) = fun v => some (id v) from rfl, mapM_some,
                List.map_id] at hread
              exact hread.map Json.array
          | object hmembers hnodup =>
              have hread := readMembers_enclosed hmembers (Nat.le_of_succ_le_succ hdepth)
                (fills_foldl ih (fun s name v => OrderedMap.insertEntry name v s) [] _) rest
                (offset + b.length + 1)
              simp only [Option.map_some, mapM_some, List.map_id',
                OrderedMap.foldl_insertEntry_of_nodup [] _ hnodup] at hread
              exact hread.map Json.object
          | _ => cases hscalar

/-! ## Whole texts -/

theorem IsTextOf.read {v : Json} {s : String} (h : IsTextOf v s) (hdepth : v.depth ≤ depthLimit)
    {d : Decoder α} {view : Json → Option α} (hd : d.Follows view) :
    ∃ b, Blank b ∧ Yields b (d depthLimit (Cursor.ofText s.toList)) (view v) := by
  obtain @⟨b, t, b', hb, hv, hb', htext⟩ := h
  refine ⟨b', hb', ?_⟩
  rw [Cursor.ofText, htext]
  refine hd depthLimit v hv hb hdepth b' 0 ?_
  have hends := endsValue_nil.blank_append hb'
  rwa [List.append_nil] at hends

/-- A text with a view is decoded to it. -/
theorem decode_eq_ok {v : Json} {s : String} (h : IsTextOf v s) (hdepth : v.depth ≤ depthLimit)
    {d : Decoder α} {view : Json → Option α} (hd : d.Follows view) {a : α} (hview : view v = some a) :
    decode d s = .ok a := by
  obtain ⟨b, hb, hread⟩ := h.read hdepth hd
  rw [hview] at hread
  obtain ⟨o, ho⟩ := hread
  simp only [decode, ho, ok_bind, skipBlanks_of_blank hb, if_true]

/-- A text without a view is refused by its shape. -/
theorem decode_eq_error {v : Json} {s : String} (h : IsTextOf v s) (hdepth : v.depth ≤ depthLimit)
    {d : Decoder α} {view : Json → Option α} (hd : d.Follows view) (hview : view v = none) :
    ∃ fault, decode d s = .error fault ∧ fault.cause.isShape := by
  obtain ⟨b, hb, hread⟩ := h.read hdepth hd
  rw [hview] at hread
  obtain ⟨fault, hfault, hshape⟩ := hread
  exact ⟨fault, by rw [decode, hfault, error_bind], hshape⟩

end ApiProto.Json
