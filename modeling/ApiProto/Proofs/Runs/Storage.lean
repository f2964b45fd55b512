/-
  Where files are kept, and surroundings that work on them.

  A storage answers what is asked of its files, and a write replaces what is kept in the place of
  one of them, or fails.  Surroundings work on a storage if all answers come from there, and only a
  write that succeeds changes it (`Host.WorksOn`).  Files as a value are such a storage, and those of
  a session are what its surroundings work on.
-/
import ApiProto.Command.Run
import ApiProto.Proofs.Runs.Files

namespace ApiProto.Command

/-- Where files are kept: what is asked of its states, and what a write makes of them. -/
structure Storage (F : Type) where
  isFile : F → String → Bool
  readText : F → String → Except IoError String
  writeText : F → String → String → Except IoError F
  /-- What tells files apart, by whatever paths they are reached. -/
  Place : Type
  lookup : F → Place → Option Entry
  /-- The place that a write under the path goes to. -/
  target : F → String → Place
  /-- A file that is written has the text. -/
  lookup_target : ∀ {before after path text}, writeText before path text = .ok after →
    lookup before (target before path) ≠ some .sink →
    lookup after (target before path) = some (.file text.toUTF8)
  /-- What keeps nothing stays as it is, and with it all else. -/
  eq_of_sink : ∀ {before after path text}, writeText before path text = .ok after →
    lookup before (target before path) = some .sink → after = before
  /-- A write leaves all other places alone. -/
  lookup_of_ne : ∀ {before after path text place}, writeText before path text = .ok after →
    place ≠ target before path → lookup after place = lookup before place

/-- Surroundings with a view of the files behind them: every answer comes from the files, and they
change only by a write that succeeds. -/
structure Host.WorksOn {σ F : Type} (h : Host (StateM σ)) (storage : Storage F) (files : σ → F) :
    Prop where
  isFile : ∀ path s, ((h.isFile path).run s).1 = storage.isFile (files s) path ∧
    files ((h.isFile path).run s).2 = files s
  readText : ∀ path s, ((h.readText path).run s).1 = storage.readText (files s) path ∧
    files ((h.readText path).run s).2 = files s
  log : ∀ r s, files ((h.log r).run s).2 = files s
  writeText_ok : ∀ {path text s after}, storage.writeText (files s) path text = .ok after →
    ((h.writeText path text).run s).1 = .ok () ∧ files ((h.writeText path text).run s).2 = after
  writeText_error : ∀ {path text s e}, storage.writeText (files s) path text = .error e →
    ((h.writeText path text).run s).1 = .error e ∧
      files ((h.writeText path text).run s).2 = files s

/-! ## Files as a value -/

/-- The place that a write under the path goes to, if there is one. -/
def Files.target (fs : Files) (path : String) : List String :=
  match fs.find true path with
  | .ok (p, _) => p
  | .error _ => []

/-- A write that succeeds goes to a place, which gets a file unless it keeps nothing. -/
theorem Files.target_of_writeText {before after : Files} {path text : String}
    (h : before.writeText path text = .ok after) :
    before.IsPlace (before.target path) ∧
      (after = before ∧ before.entry? (before.target path) = some .sink ∨
        after = before.put (before.target path) (.file text.toUTF8) ∧
          before.entry? (before.target path) ≠ some .sink) := by
  obtain ⟨p, hfind, rfl⟩ | ⟨p, e, hfind, hfolder, hsink, rfl⟩ := writeText_eq_ok h
  · have htarget : after.target path = p := by rw [target, hfind]
    obtain ⟨hentry, hplace⟩ := find_eq_ok hfind fun he => by cases he
    rw [htarget]
    exact ⟨hplace, .inl ⟨rfl, hentry.symm⟩⟩
  · have htarget : before.target path = p := by rw [target, hfind]
    obtain ⟨hentry, hplace⟩ := find_eq_ok hfind hfolder
    rw [htarget]
    exact ⟨hplace, .inr ⟨rfl, hentry ▸ hsink⟩⟩

/-- Files as a value are a storage, by the components of absolute paths. -/
def Files.storage : Storage Files where
  isFile := Files.isFile
  readText := Files.readText
  writeText := Files.writeText
  Place := List String
  lookup := Files.entry?
  target := Files.target
  lookup_target := by
    intro before after path text h hsink
    obtain ⟨-, ⟨-, hnone⟩ | ⟨rfl, -⟩⟩ := Files.target_of_writeText h
    · exact absurd hnone hsink
    · exact Files.entry?_put_self _ _
  eq_of_sink := by
    intro before after path text h hsink
    obtain ⟨-, ⟨rfl, -⟩ | ⟨-, hkeeps⟩⟩ := Files.target_of_writeText h
    · rfl
    · exact absurd hsink hkeeps
  lookup_of_ne := by
    intro before after path text place h hne
    obtain ⟨hplace, ⟨rfl, -⟩ | ⟨rfl, -⟩⟩ := Files.target_of_writeText h
    · rfl
    · exact Files.entry?_put_of_ne hplace hne _

theorem Session.writeText_run (userConfig : Option String) (path text : String) (s : Session) :
    ((Session.host userConfig).writeText path text).run s =
      match s.files.writeText path text with
      | .error e => (.error e, s)
      | .ok files => (.ok (), { s with files }) := rfl

theorem Session.worksOn (userConfig : Option String) :
    (Session.host userConfig).WorksOn Files.storage Session.files where
  isFile _ _ := ⟨rfl, rfl⟩
  readText _ _ := ⟨rfl, rfl⟩
  log _ _ := rfl
  writeText_ok {path text s after} h := by
    have hfiles : s.files.writeText path text = .ok after := h
    rw [Session.writeText_run, hfiles]
    exact ⟨rfl, rfl⟩
  writeText_error {path text s e} h := by
    have hfiles : s.files.writeText path text = .error e := h
    rw [Session.writeText_run, hfiles]
    exact ⟨rfl, rfl⟩

end ApiProto.Command
