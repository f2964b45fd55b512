/-
  What a write changes.

  A path that is written to leads to a place in a folder that is there (`follow_eq_ok`).  So a write
  puts a file in one place and leaves all others as they were, folders that are there only for what
  lies below them included (`entry?_put_of_ne`), and under the same path the text is read back.
-/
import ApiProto.Command.Files

namespace ApiProto.Command.Files

/-! ## Entries -/

theorem lookup_setEntry_self (p : List String) (e : Entry) (es : List (List String × Entry)) :
    (setEntry p e es).lookup p = some e := by
  induction es with
  | nil => simp [setEntry]
  | cons x es ih =>
      obtain ⟨q, e'⟩ := x
      rw [setEntry]
      split
      · exact List.lookup_cons_self
      · next hq => rw [List.lookup_cons, beq_false_of_ne (Ne.symm hq)]; exact ih

theorem lookup_setEntry_of_ne {p q : List String} (h : q ≠ p) (e : Entry)
    (es : List (List String × Entry)) : (setEntry p e es).lookup q = es.lookup q := by
  induction es with
  | nil => simp [setEntry, List.lookup_cons, beq_false_of_ne h]
  | cons x es ih =>
      obtain ⟨p', e'⟩ := x
      rw [setEntry]
      split
      · next hp => rw [hp, List.lookup_cons, List.lookup_cons, beq_false_of_ne h]
      · rw [List.lookup_cons, List.lookup_cons, ih]

/-- An entry that is set adds its path to those of the others. -/
theorem any_setEntry (f : List String → Bool) (p : List String) (e : Entry)
    (es : List (List String × Entry)) :
    ((setEntry p e es).any fun x => f x.1) = (f p || es.any fun x => f x.1) := by
  induction es with
  | nil => rfl
  | cons x es ih =>
      obtain ⟨q, e'⟩ := x
      rw [setEntry]
      split
      · next hq => rw [hq, List.any_cons, List.any_cons, ← Bool.or_assoc, Bool.or_self]
      · rw [List.any_cons, ih, List.any_cons, Bool.or_left_comm]

/-! ## Folders -/

variable {fs : Files}

/-- Whether a folder has to be at the path: the working folder or an entry lies there or below. -/
def covers (fs : Files) (path : List String) : Bool :=
  path.isPrefixOf fs.working || fs.entries.any fun e => path.isPrefixOf e.1

theorem covers_iff {path : List String} :
    fs.covers path ↔ path <+: fs.working ∨ ∃ e ∈ fs.entries, path <+: e.1 := by
  simp [covers]

theorem covers_mono {p q : List String} (h : p <+: q) (hq : fs.covers q) : fs.covers p := by
  rw [covers_iff] at hq ⊢
  obtain hworking | ⟨e, he, hentry⟩ := hq
  · exact .inl (h.trans hworking)
  · exact .inr ⟨e, he, h.trans hentry⟩

theorem entry?_eq (fs : Files) (path : List String) :
    fs.entry? path =
      match fs.entries.lookup path with
      | some e => some e
      | none => if fs.covers path then some .folder else none := rfl

theorem covers_of_entry?_eq_folder {path : List String} (h : fs.entry? path = some .folder) :
    fs.covers path := by
  rw [entry?_eq] at h
  split at h
  · next e hlookup =>
      obtain ⟨before, after, hentries, -⟩ := List.lookup_eq_some_iff.mp hlookup
      have hmem : (path, e) ∈ fs.entries := by simp [hentries]
      exact covers_iff.mpr (.inr ⟨_, hmem, List.prefix_rfl⟩)
  · split at h
    · next hcovers => exact hcovers
    · cases h

/-- A place in a folder. -/
def IsPlace (fs : Files) (path : List String) : Prop :=
  ∃ folder name, path = folder ++ [name] ∧ fs.covers folder

/-- The files with an entry in a place. -/
def put (fs : Files) (path : List String) (e : Entry) : Files :=
  { fs with entries := setEntry path e fs.entries }

theorem entry?_put_self (path : List String) (e : Entry) :
    Files.entry? (fs.put path e) path = some e := by
  rw [entry?_eq, put, lookup_setEntry_self]

/-- An entry that is put in a place leaves all other places as they were. -/
theorem entry?_put_of_ne {p q : List String} (hp : fs.IsPlace p) (hq : q ≠ p) (e : Entry) :
    Files.entry? (fs.put p e) q = fs.entry? q := by
  have hcovers : (fs.put p e).covers q = fs.covers q := by
    rw [covers, covers, put, any_setEntry]
    by_cases habove : q <+: p
    · -- a folder above the place was there before
      obtain ⟨folder, name, rfl, hfolder⟩ := hp
      have hbelow : q <+: folder := (List.prefix_concat_iff.mp habove).resolve_left hq
      have hcovered : fs.covers q := covers_mono hbelow hfolder
      rw [covers] at hcovered
      rw [Bool.or_left_comm, hcovered, Bool.or_true]
    · rw [← List.isPrefixOf_iff_prefix, Bool.not_eq_true] at habove
      rw [habove, Bool.false_or]
  have hlookup : (fs.put p e).entries.lookup q = fs.entries.lookup q := lookup_setEntry_of_ne hq e _
  rw [entry?_eq, entry?_eq, hcovers, hlookup]

/-! ## Paths -/

/-- A path that does not lead to a folder leads to a place, and to what is there. -/
theorem follow_eq_ok {create : Bool} {here names p : List String} {e : Option Entry}
    (hhere : fs.covers here) (h : fs.follow create here names = .ok (p, e))
    (hfolder : e ≠ some .folder) : e = fs.entry? p ∧ fs.IsPlace p := by
  -- by the components: the folder that has been reached stays one that has to be there
  fun_induction follow fs create here names with
  | case1 here =>
      cases h
      exact absurd rfl hfolder
  | case2 here name rest _ ih => exact ih hhere h
  | case3 here rest _ ih => exact ih (covers_mono (List.dropLast_prefix here) hhere) h
  | case4 => cases h
  | case5 => cases h
  | case6 here name rest _ _ _ _ path hentry ih => exact ih (covers_of_entry?_eq_folder hentry) h
  | case7 here name _ _ _ path e' _ hentry _ =>
      obtain ⟨rfl, rfl⟩ := Prod.mk.inj (Except.ok.inj h)
      exact ⟨hentry.symm, here, name, rfl, hhere⟩
  | case8 => cases h
  | case9 here name _ _ _ path hentry _ =>
      obtain ⟨rfl, rfl⟩ := Prod.mk.inj (Except.ok.inj h)
      exact ⟨hentry.symm, here, name, rfl, hhere⟩
  | case10 => cases h

theorem find_eq_ok {create : Bool} {path : String} {p : List String} {e : Option Entry}
    (h : fs.find create path = .ok (p, e)) (hfolder : e ≠ some .folder) :
    e = fs.entry? p ∧ fs.IsPlace p := by
  have hroot : fs.covers [] := covers_iff.mpr (.inl List.nil_prefix)
  have hworking : fs.covers fs.working := covers_iff.mpr (.inl List.prefix_rfl)
  rw [find] at h
  split at h
  · cases h
  · split at h
    · cases h
    · split at h
      · cases h
      · refine follow_eq_ok ?_ h hfolder
        split
        · exact hroot
        · exact hworking

theorem follow_singleton {create : Bool} {here : List String} {name : String} {e : Entry}
    (hdot : ¬ (name = "" ∨ name = ".")) (hup : ¬ name = "..") (hlong : ¬ maxName < name.utf8ByteSize)
    (h : fs.entry? (here ++ [name]) = some e) (hfolder : e ≠ .folder) :
    fs.follow create here [name] = .ok (here ++ [name], some e) := by
  rw [follow, if_neg hdot, if_neg hup, if_neg (by simp), if_neg hlong]
  simp only [h]
  cases e with
  | folder => exact absurd rfl hfolder
  | file content => rfl
  | sink => rfl

/-- A path that can be written to leads to the same place once only what is there has changed. -/
theorem follow_of_entry?_eq {after : Files} {here names p : List String} {e : Option Entry}
    {e' : Entry} (h : fs.follow true here names = .ok (p, e)) (hfolder : e ≠ some .folder)
    (hplace : e = fs.entry? p) (hend : after.entry? p = some e') (hfolder' : e' ≠ .folder)
    (hothers : ∀ q, q ≠ p → after.entry? q = fs.entry? q) :
    after.follow false here names = .ok (p, some e') := by
  -- all folders on the way are still there, and reading asks for less than writing
  fun_induction follow fs true here names with
  | case1 here =>
      cases h
      exact absurd rfl hfolder
  | case2 here name rest hdot ih =>
      rw [follow, if_pos hdot]
      exact ih h
  | case3 here rest hdot ih =>
      rw [follow, if_neg hdot, if_pos rfl]
      exact ih h
  | case4 => cases h
  | case5 => cases h
  | case6 here name rest hdot hup _ hlong path hentry ih =>
      -- a folder on the way is not at the end
      have hne : path ≠ p := by
        rintro rfl
        exact hfolder (hplace.trans hentry)
      have hentry' : after.entry? (here ++ [name]) = some .folder := (hothers path hne).trans hentry
      rw [follow, if_neg hdot, if_neg hup, if_neg (by simp), if_neg hlong]
      simp only [hentry']
      exact ih h
  | case7 here name hdot hup hlong path _ _ _ _ =>
      obtain ⟨rfl, -⟩ := Prod.mk.inj (Except.ok.inj h)
      exact follow_singleton hdot hup hlong hend hfolder'
  | case8 => cases h
  | case9 here name hdot hup hlong path _ _ =>
      obtain ⟨rfl, -⟩ := Prod.mk.inj (Except.ok.inj h)
      exact follow_singleton hdot hup hlong hend hfolder'
  | case10 => cases h

/-! ## Writing -/

/-- A write that succeeds puts a file in the place that the path leads to, unless there is something
that keeps nothing. -/
theorem writeText_eq_ok {path text : String} {after : Files} (h : fs.writeText path text = .ok after) :
    (∃ p, fs.find true path = .ok (p, some .sink) ∧ after = fs) ∨
      ∃ p e, fs.find true path = .ok (p, e) ∧ e ≠ some .folder ∧ e ≠ some .sink ∧
        after = fs.put p (.file text.toUTF8) := by
  rw [writeText] at h
  split at h
  · cases h
  · cases h
  · next p hfind => exact .inl ⟨p, hfind, (Except.ok.inj h).symm⟩
  · next p e hfolder hsink hfind =>
      exact .inr ⟨p, e, hfind, hfolder, hsink, (Except.ok.inj h).symm⟩

theorem fromUTF8?_toUTF8 (text : String) : String.fromUTF8? text.toUTF8 = some text := by
  have hvalid : text.toUTF8.IsValidUTF8 := text.isValidUTF8
  rw [String.fromUTF8?, dif_pos hvalid]
  rfl

/-- A path that can be written to leads to what was put there. -/
theorem find_put {path text : String} {p : List String} {e : Option Entry}
    (h : fs.find true path = .ok (p, e)) (hfolder : e ≠ some .folder) :
    (fs.put p (.file text.toUTF8)).find false path = .ok (p, some (.file text.toUTF8)) := by
  obtain ⟨hplace, hp⟩ := find_eq_ok h hfolder
  have hfile : Entry.file text.toUTF8 ≠ .folder := fun he => by cases he
  rw [find] at h ⊢
  split at h
  · cases h
  · next hnul =>
      split at h
      · cases h
      · next hempty =>
          split at h
          · cases h
          · next hlong =>
              rw [if_neg hnul, if_neg hempty, if_neg hlong]
              exact follow_of_entry?_eq h hfolder hplace (entry?_put_self p _) hfile
                fun q hq => entry?_put_of_ne hp hq _

/-- **A text that is written is read back**, unless what is there keeps nothing. -/
theorem readText_writeText {path text : String} {after : Files}
    (h : fs.writeText path text = .ok after) (hsink : ∀ p, fs.find true path ≠ .ok (p, some .sink)) :
    after.readText path = .ok text := by
  obtain ⟨p, hfind, -⟩ | ⟨p, e, hfind, hfolder, -, rfl⟩ := writeText_eq_ok h
  · exact absurd hfind (hsink p)
  · rw [readText, find_put hfind hfolder]
    simp only [fromUTF8?_toUTF8]

end ApiProto.Command.Files
