/-
  A run writes all or nothing.

  Each part of a run works off some stages (`WorksOff`): it passes them all, or it fails as the first
  of them that does and leaves the files alone.  Parts in a row work off their stages in a row, so a
  run works off all stages in their order, and the write belongs to the last of them.
-/
import ApiProto.Proofs.Layout
import ApiProto.Proofs.Runs.Stages

namespace ApiProto.Command

open Start

variable {σ F α β : Type} {files : σ → F} {x : Start F}

/-! ## Steps that only look -/

/-- From the files at the start a step has the given result, and leaves the files alone. -/
def Looks (files : σ → F) (x : Start F) (k : StateM σ α) (a : α) : Prop :=
  ∀ s, files s = x.files → (k.run s).1 = a ∧ files (k.run s).2 = x.files

/-- The same of a step that may fail. -/
def Answers (files : σ → F) (x : Start F) (k : ExceptT RunError (StateM σ) α)
    (r : Except RunError α) : Prop :=
  Looks files x k.run r

theorem Answers.run_eq {k : ExceptT RunError (StateM σ) α} {r : Except RunError α}
    (hk : Answers files x k r) {s : σ} (hs : files s = x.files) :
    ∃ s', k.run.run s = (r, s') ∧ files s' = x.files := by
  obtain ⟨hresult, hfiles⟩ := hk s hs
  exact ⟨_, Prod.ext hresult rfl, hfiles⟩

theorem Looks.pure (a : α) : Looks files x (Pure.pure a) a := fun _ hs => ⟨rfl, hs⟩

theorem Looks.bind {k : StateM σ α} {a : α} {next : α → StateM σ β} {b : β}
    (hk : Looks files x k a) (hnext : Looks files x (next a) b) : Looks files x (k >>= next) b := by
  intro s hs
  obtain ⟨hresult, hfiles⟩ := hk s hs
  rw [StateT.run_bind]
  show ((next (k.run s).1).run (k.run s).2).1 = b ∧ files ((next (k.run s).1).run (k.run s).2).2 = _
  rw [hresult]
  exact hnext _ hfiles

theorem Answers.lift {k : StateM σ α} {a : α} (h : Looks files x k a) :
    Answers files x (liftM k) (.ok a) := by
  intro s hs
  obtain ⟨hresult, hfiles⟩ := h s hs
  exact ⟨congrArg Except.ok hresult, hfiles⟩

theorem Answers.pure (a : α) : Answers files x (Pure.pure a) (.ok a) := fun _ hs => ⟨rfl, hs⟩

theorem Answers.throw (e : RunError) :
    Answers files x (throw e : ExceptT RunError (StateM σ) α) (.error e) := fun _ hs => ⟨rfl, hs⟩

theorem Answers.bind {k : ExceptT RunError (StateM σ) α} {a : α}
    {next : α → ExceptT RunError (StateM σ) β} {r : Except RunError β}
    (hk : Answers files x k (.ok a)) (hnext : Answers files x (next a) r) :
    Answers files x (k >>= next) r := by
  rw [Answers, ExceptT.run_bind]
  exact Looks.bind hk hnext

theorem run_bind_of_ok {k : ExceptT RunError (StateM σ) α} {s s' : σ} {a : α}
    (next : α → ExceptT RunError (StateM σ) β) (h : k.run.run s = (.ok a, s')) :
    (k >>= next).run.run s = (next a).run.run s' := by
  rw [ExceptT.run_bind, StateT.run_bind, h]
  rfl

theorem run_bind_of_error {k : ExceptT RunError (StateM σ) α} {s s' : σ} {e : RunError}
    (next : α → ExceptT RunError (StateM σ) β) (h : k.run.run s = (.error e, s')) :
    (k >>= next).run.run s = (.error e, s') := by
  rw [ExceptT.run_bind, StateT.run_bind, h]
  rfl

/-! ## Stages that are worked off -/

/-- From the files at the start, a step either passes some stages and ends in a value and files as
described, or fails as the first of the stages that fails and leaves the files alone. -/
def WorksOff (files : σ → F) (x : Start F) (stages : List Stage)
    (k : ExceptT RunError (StateM σ) α) (ok : α → F → Prop) : Prop :=
  ∀ s, files s = x.files →
    match k.run.run s with
    | (.ok a, s') => ok a (files s') ∧ ∀ stage ∈ stages, x.Passes stage
    | (.error e, s') => files s' = x.files ∧ x.FailsFirst stages e

/-- A step works off some stages and leaves the files alone in any case. -/
def Reads (files : σ → F) (x : Start F) (stages : List Stage) (k : ExceptT RunError (StateM σ) α)
    (ok : α → Prop) : Prop :=
  WorksOff files x stages k fun a after => after = x.files ∧ ok a

section Rules

variable {stages rest : List Stage} {k : ExceptT RunError (StateM σ) α}
  {next : α → ExceptT RunError (StateM σ) β} {ok : β → F → Prop}

theorem WorksOff.of_ok {k : ExceptT RunError (StateM σ) β} {b : β} (hk : Answers files x k (.ok b))
    (h : ok b x.files) (hpass : ∀ stage ∈ stages, x.Passes stage) : WorksOff files x stages k ok := by
  intro s hs
  obtain ⟨s', hrun, hfiles⟩ := hk.run_eq hs
  rw [hrun]
  exact ⟨hfiles ▸ h, hpass⟩

theorem WorksOff.of_error {k : ExceptT RunError (StateM σ) β} {e : RunError}
    (hk : Answers files x k (.error e)) (h : x.FailsFirst stages e) :
    WorksOff files x stages k ok := by
  intro s hs
  obtain ⟨s', hrun, hfiles⟩ := hk.run_eq hs
  rw [hrun]
  exact ⟨hfiles, h⟩

theorem WorksOff.pure {b : β} (h : ok b x.files) (hpass : ∀ stage ∈ stages, x.Passes stage) :
    WorksOff files x stages (Pure.pure b) ok :=
  .of_ok (.pure b) h hpass

theorem WorksOff.throw {e : RunError} (h : x.FailsFirst stages e) :
    WorksOff files x stages (throw e) ok :=
  .of_error (.throw e) h

/-- What only looks leaves the stages to what follows. -/
theorem WorksOff.bind_ok {a : α} (hk : Answers files x k (.ok a))
    (hnext : WorksOff files x stages (next a) ok) : WorksOff files x stages (k >>= next) ok := by
  intro s hs
  obtain ⟨s', hrun, hfiles⟩ := hk.run_eq hs
  rw [run_bind_of_ok next hrun]
  exact hnext s' hfiles

theorem WorksOff.bind_error {e : RunError} (hk : Answers files x k (.error e))
    (h : x.FailsFirst stages e) : WorksOff files x stages (k >>= next) ok := by
  intro s hs
  obtain ⟨s', hrun, hfiles⟩ := hk.run_eq hs
  rw [run_bind_of_error next hrun]
  exact ⟨hfiles, h⟩

/-- Stages in a row are worked off by steps in a row. -/
theorem WorksOff.bind {found : α → Prop} (hk : Reads files x stages k found)
    (hnext : ∀ a, found a → WorksOff files x rest (next a) ok) :
    WorksOff files x (stages ++ rest) (k >>= next) ok := by
  intro s hs
  have hstep := hk s hs
  rcases hrun : k.run.run s with ⟨e | a, s'⟩
  · -- what follows does not come to run
    rw [hrun] at hstep
    obtain ⟨hfiles, hfails⟩ := hstep
    rw [run_bind_of_error next hrun]
    exact ⟨hfiles, hfails.append rest⟩
  · -- what follows starts from the same files, and all stages before it have passed
    rw [hrun] at hstep
    obtain ⟨⟨hfiles, hfound⟩, hpass⟩ := hstep
    have hrest := hnext a hfound s' hfiles
    rw [run_bind_of_ok next hrun]
    rcases hrun' : (next a).run.run s' with ⟨e | b, s''⟩
    · rw [hrun'] at hrest
      obtain ⟨hfiles', hfails⟩ := hrest
      exact ⟨hfiles', hfails.append_left hpass⟩
    · rw [hrun'] at hrest
      obtain ⟨hok, hpass'⟩ := hrest
      exact ⟨hok, List.forall_mem_append.mpr ⟨hpass, hpass'⟩⟩

end Rules

/-! ## Looking at the surroundings -/

section Parts

variable {h : Host (StateM σ)} (hworks : h.WorksOn x.storage files)

include hworks

theorem looks_isFile (path : String) : Looks files x (h.isFile path) (x.isFile path) := by
  intro s hs
  have hstep := hworks.isFile path s
  rwa [hs] at hstep

theorem looks_readText (path : String) : Looks files x (h.readText path) (x.read path) := by
  intro s hs
  have hstep := hworks.readText path s
  rwa [hs] at hstep

theorem looks_log (r : LogRecord) : Looks files x (h.log r) () :=
  fun s hs => ⟨rfl, (hworks.log r s).trans hs⟩

theorem looks_logAll (rs : List LogRecord) : Looks files x (h.logAll rs) () := by
  induction rs with
  | nil => exact .pure ()
  | cons r rs ih => exact .bind (looks_log hworks r) ih

theorem answers_log (r : LogRecord) : Answers files x (liftM (h.log r)) (.ok ()) :=
  .lift (looks_log hworks r)

theorem answers_logAll (rs : List LogRecord) : Answers files x (liftM (h.logAll rs)) (.ok ()) :=
  .lift (looks_logAll hworks rs)

theorem looks_findConfig (paths : List String) :
    Looks files x (h.findConfig paths) (paths.find? x.isFile) := by
  induction paths with
  | nil => exact .pure none
  | cons path paths ih =>
      refine .bind (looks_log hworks _) (.bind (looks_isFile hworks path) ?_)
      rw [List.find?_cons]
      cases x.isFile path with
      | true => exact .pure (some path)
      | false => exact ih

theorem answers_load_of_ok {path text : String} (hread : x.read path = .ok text) :
    Answers files x (h.load path) (.ok text) := by
  refine .bind (.lift (looks_readText hworks path)) ?_
  rw [hread]
  exact .pure text

theorem answers_load_of_error {path : String} {e : IoError} (hread : x.read path = .error e) :
    Answers files x (h.load path) (.error (.io e)) := by
  refine .bind (.lift (looks_readText hworks path)) ?_
  rw [hread]
  exact .throw (.io e)

omit hworks in
theorem answers_liftProfile_of_ok {r : Except ProfileError α} {a : α} (hr : r = .ok a) :
    Answers files x (liftProfile r) (.ok a) := by
  rw [hr]
  exact .pure a

omit hworks in
theorem answers_liftProfile_of_error {r : Except ProfileError α} {e : ProfileError}
    (hr : r = .error e) : Answers files x (liftProfile r) (.error (.profile e)) := by
  rw [hr]
  exact .throw (.profile e)

/-! ## Parts of a run -/

/-- A settings file is found, or there is none, or the one that is given is missing. -/
theorem answers_configPath (huser : h.userConfig = x.userConfig) :
    (∃ path, x.ConfigFile path ∧ Answers files x (h.configPath x.args.config) (.ok (some path))) ∨
      (x.InForce {} ∧ Answers files x (h.configPath x.args.config) (.ok none)) ∨
      ∃ e, x.Fails .configuration e ∧ Answers files x (h.configPath x.args.config) (.error e) := by
  cases harg : x.args.config with
  | none =>
      have hfound : Answers files x (h.configPath none)
          (.ok ((localConfig :: x.userConfig.toList).find? x.isFile)) := by
        rw [Host.configPath, huser]
        exact .lift (looks_findConfig hworks _)
      cases hfind : (localConfig :: x.userConfig.toList).find? x.isFile with
      | none =>
          rw [hfind] at hfound
          exact .inr (.inl ⟨.default harg hfind, hfound⟩)
      | some path =>
          rw [hfind] at hfound
          exact .inl ⟨path, .found harg hfind, hfound⟩
  | some path =>
      have hisFile : Answers files x (liftM (h.isFile path)) (.ok (x.isFile path)) :=
        .lift (looks_isFile hworks path)
      by_cases hfile : x.isFile path
      · refine .inl ⟨path, .given harg hfile, .bind hisFile ?_⟩
        rw [if_pos hfile]
        exact .pure (some path)
      · refine .inr (.inr ⟨_, .missingConfig harg hfile, .bind hisFile ?_⟩)
        rw [if_neg hfile]
        exact .throw (.missingConfig path)

theorem reads_loadSettings (huser : h.userConfig = x.userConfig) :
    Reads files x [.configuration] (h.loadSettings x.args.config) x.InForce := by
  obtain ⟨path, hfile, hpath⟩ | ⟨hdefault, hnone⟩ | ⟨e, hfails, herror⟩ :=
    answers_configPath hworks huser
  · -- a settings file is in force, and has to be read
    refine .bind_ok hpath (.bind_ok (answers_log hworks _) ?_)
    cases hread : x.read path with
    | error e =>
        have hfails := Fails.unreadableConfig hfile hread
        exact .bind_error (answers_load_of_error hworks hread) (.here hfails)
    | ok text =>
        refine .bind_ok (answers_load_of_ok hworks hread) ?_
        cases hsettings : Settings.read text with
        | none => exact .throw (.here (.invalidConfig hfile hread hsettings))
        | some settings =>
            have hforce := InForce.file hfile hread hsettings
            exact .pure ⟨rfl, hforce⟩ (List.forall_mem_singleton.mpr hforce.passes)
  · -- the defaults are in force
    refine .bind_ok hnone (.bind_ok (answers_log hworks _) ?_)
    exact .pure ⟨rfl, hdefault⟩ (List.forall_mem_singleton.mpr hdefault.passes)
  · exact .bind_error herror (.here hfails)

theorem reads_input : Reads files x [.input] (h.load x.args.input)
    fun source => x.read x.args.input = .ok source := by
  cases hread : x.read x.args.input with
  | error e => exact .of_error (answers_load_of_error hworks hread) (.here (.input hread))
  | ok source =>
      have hpass := List.forall_mem_singleton.mpr (passes_input hread)
      exact .of_ok (answers_load_of_ok hworks hread) ⟨rfl, rfl⟩ hpass

omit hworks in
/-- A profile that has been selected is checked as the last stage of profiles. -/
theorem reads_check {name : String} {p : Profile} (hfile : x.Passes .profileFile)
    (htext : x.Passes .profileText) (hselection : x.Passes .selection)
    (hcandidate : x.Candidate name p) :
    Reads files x Stage.ofProfile
      (liftProfile (do p.check name; return p) : ExceptT RunError (StateM σ) Profile)
      fun p => ∃ name, x.Candidate name p ∧ p.check name = .ok () := by
  cases hcheck : p.check name with
  | error e =>
      have hfails := Fails.package hcandidate hcheck
      exact .throw (.later hfile (.later htext (.later hselection (.here hfails))))
  | ok u =>
      have hpackage := passes_package hcandidate hcheck
      refine .pure ⟨rfl, name, hcandidate, hcheck⟩ ?_
      exact Stage.forall_mem_ofProfile.mpr ⟨hfile, htext, hselection, hpackage⟩

theorem reads_resolveProfile : Reads files x Stage.ofProfile (h.resolveProfile x.args)
    fun p => ∃ name, x.Candidate name p ∧ p.check name = .ok () := by
  rw [Host.resolveProfile]
  cases harg : x.args.profile with
  | none =>
      -- of the stages of a profile only the last one is left
      obtain ⟨hfile, htext, hselection⟩ := passes_of_profile_eq_none harg
      have hown : Reads files x Stage.ofProfile (liftProfile (ownProfile x.args.package))
          fun p => ∃ name, x.Candidate name p ∧ p.check name = .ok () := by
        cases hpackage : x.args.package with
        | none =>
            have hfails := Fails.noPackage harg hpackage
            exact .throw (.later hfile (.later htext (.later hselection (.here hfails))))
        | some package => exact reads_check hfile htext hselection (.own harg hpackage)
      -- a name of a profile that has no use here is only reported
      cases x.args.profileName.isSome with
      | true => exact .bind_ok (answers_log hworks _) hown
      | false => exact hown
  | some path =>
      refine .bind_ok (answers_log hworks _) ?_
      cases hread : x.read path with
      | error e =>
          have hfails := Fails.profileFile harg hread
          exact .bind_error (answers_load_of_error hworks hread) (.here hfails)
      | ok source =>
          have hfile := passes_profileFile harg hread
          refine .bind_ok (answers_load_of_ok hworks hread) ?_
          refine .bind_ok (answers_logAll hworks _) ?_
          cases hload : ProfileSet.load source with
          | error e => exact .throw (.later hfile (.here (.profileText harg hread hload)))
          | ok profiles =>
              have htext := passes_profileText harg hread hload
              have hprofiles : x.Profiles profiles := ⟨harg, hread, hload⟩
              cases hselect : profiles.select x.args.profileName with
              | error e =>
                  have hfails := Fails.selection hprofiles hselect
                  refine .bind_error (answers_liftProfile_of_error hselect) ?_
                  exact .later hfile (.later htext (.here hfails))
              | ok p =>
                  have hselection := passes_selection hprofiles hselect
                  refine .bind_ok (answers_liftProfile_of_ok hselect) ?_
                  refine .bind_ok (answers_log hworks _) ?_
                  exact reads_check hfile htext hselection (.selected hprofiles hselect)

theorem reads_parse {source : String} (hread : x.read x.args.input = .ok source) :
    Reads files x [.definition] (h.parse source) fun d => Definition.load source = .ok d := by
  refine .bind_ok (answers_logAll hworks _) ?_
  cases hload : Definition.load source with
  | error e => exact .throw (.here (.definition hread hload))
  | ok d =>
      have hpass := passes_definition hread hload
      exact .pure ⟨rfl, rfl⟩ (List.forall_mem_singleton.mpr hpass)

/-- A profile that has been checked is good for every definition. -/
theorem reads_render {name : String} {p : Profile} (hcheck : p.check name = .ok ())
    (d : Definition) (settings : Settings) :
    Reads files x [] (h.render d p settings) fun text => d.render p settings = .ok text := by
  -- rendering checks the package once more, under another name of the profile
  have hrender := Definition.render_eq_ok (Profile.isValid_of_check hcheck) d settings
  refine .bind_ok (answers_logAll hworks _) ?_
  exact .of_ok (answers_liftProfile_of_ok hrender) ⟨rfl, hrender⟩ (List.forall_mem_nil _)

omit hworks in
theorem run_lift (k : StateM σ α) (s : σ) :
    (liftM k : ExceptT RunError (StateM σ) α).run.run s = (.ok (k.run s).1, (k.run s).2) := rfl

/-- The last step of a run writes the output, or fails and leaves the files alone. -/
theorem worksOff_write {text : String} (htext : x.Output text) (r : LogRecord) :
    WorksOff files x [.output]
      (do match ← h.writeText x.args.output text with
          | .error e => throw (.io e)
          | .ok () => h.log r)
      fun _ after => ∃ text, x.Output text ∧
        x.storage.writeText x.files x.args.output text = .ok after := by
  intro s hs
  rw [run_bind_of_ok _ (run_lift (h.writeText x.args.output text) s)]
  cases hwrite : x.storage.writeText x.files x.args.output text with
  | error e =>
      obtain ⟨hresult, hfiles⟩ := hworks.writeText_error (hs ▸ hwrite)
      rw [hresult]
      exact ⟨hfiles.trans hs, .here (.output htext hwrite)⟩
  | ok after =>
      obtain ⟨hresult, hfiles⟩ := hworks.writeText_ok (hs ▸ hwrite)
      rw [hresult]
      have hlogged := (hworks.log r ((h.writeText x.args.output text).run s).2).trans hfiles
      have hwritten := hwrite.trans (congrArg Except.ok hlogged.symm)
      exact ⟨⟨text, htext, hwritten⟩, List.forall_mem_singleton.mpr (passes_output htext hwrite)⟩

/-- A run works off all stages in their order, and has written the output if it passes them. -/
theorem worksOff_run (huser : h.userConfig = x.userConfig) :
    WorksOff files x Stage.all (h.run x.args) fun _ after => ∃ text, x.Output text ∧
      x.storage.writeText x.files x.args.output text = .ok after := by
  -- nothing can fail between the definition and the output
  have hstages : Stage.all = [.configuration] ++ ([.input] ++ (Stage.ofProfile ++
      ([.definition] ++ ([] ++ [.output])))) := rfl
  rw [hstages]
  refine .bind_ok (answers_log hworks _) ?_
  refine .bind (reads_loadSettings hworks huser) fun settings hsettings => ?_
  refine .bind (reads_input hworks) fun source hread => ?_
  refine .bind (reads_resolveProfile hworks) fun p hp => ?_
  obtain ⟨name, hcandidate, hcheck⟩ := hp
  refine .bind (reads_parse hworks hread) fun d hload => ?_
  refine .bind (reads_render hworks hcheck d settings) fun text hrender => ?_
  have htext : x.Output text := ⟨hsettings, hcandidate, hread, hload, hrender⟩
  exact worksOff_write hworks htext _

end Parts

/-! ## A run -/

/-- The output has the text, and nothing else has changed. -/
structure Start.Written (x : Start F) (text : String) (after : F) : Prop where
  /-- What the path of the output led to at the start has the text, unless it keeps nothing. -/
  content : x.storage.lookup x.files (x.storage.target x.files x.args.output) ≠ some .sink →
    x.storage.lookup after (x.storage.target x.files x.args.output) = some (.file text.toUTF8)
  sink : x.storage.lookup x.files (x.storage.target x.files x.args.output) = some .sink →
    after = x.files
  others : ∀ place, place ≠ x.storage.target x.files x.args.output →
    x.storage.lookup after place = x.storage.lookup x.files place

/-- What a run may come to from a start: an error and the files as they were, or the output. -/
structure AllOrNothing (x : Start F) (result : Except RunError Unit) (after : F) : Prop where
  /-- The error is that of the first stage that fails. -/
  error_iff : ∀ e, result = .error e ↔ x.FailsFirst Stage.all e
  ok_iff : result = .ok () ↔ ∀ stage, x.Passes stage
  unchanged : ∀ e, result = .error e → after = x.files
  /-- The text is told by the files at the start, also where the output is one of these. -/
  written : result = .ok () → ∃ text, x.Output text ∧ x.Written text after

theorem Stage.mem_all (stage : Stage) : stage ∈ Stage.all := by
  cases stage <;> decide

theorem Start.written_of_writeText {text : String} {after : F}
    (h : x.storage.writeText x.files x.args.output text = .ok after) : x.Written text after where
  content := x.storage.lookup_target h
  sink := x.storage.eq_of_sink h
  others _ := x.storage.lookup_of_ne h

theorem allOrNothing_of_error {e : RunError} (h : x.FailsFirst Stage.all e) :
    AllOrNothing x (.error e) x.files where
  error_iff e' := by
    constructor
    · intro heq
      rwa [← Except.error.inj heq]
    · intro h'
      rw [h.unique h']
  ok_iff := by
    constructor
    · intro heq
      cases heq
    · intro hpass
      obtain ⟨stage, -, hfails⟩ := h.exists_fails
      exact absurd hfails (hpass stage e)
  unchanged _ _ := rfl
  written heq := by cases heq

theorem allOrNothing_of_ok {text : String} {after : F} (hpass : ∀ stage ∈ Stage.all, x.Passes stage)
    (htext : x.Output text) (hwrite : x.storage.writeText x.files x.args.output text = .ok after) :
    AllOrNothing x (.ok ()) after where
  error_iff e := by
    constructor
    · intro heq
      cases heq
    · intro h
      obtain ⟨stage, hmem, hfails⟩ := h.exists_fails
      exact absurd hfails (hpass stage hmem e)
  ok_iff := ⟨fun _ stage => hpass stage stage.mem_all, fun _ => rfl⟩
  unchanged e heq := by cases heq
  written _ := ⟨text, htext, written_of_writeText hwrite⟩

/-- **A run writes all or nothing.**  It fails exactly as the first of its stages that fails, and
then leaves the files alone; otherwise it writes the text that the files at its start tell, and
changes nothing else. -/
theorem Host.run_allOrNothing {h : Host (StateM σ)} {storage : Storage F}
    (hworks : h.WorksOn storage files) (args : Args) (s : σ) :
    AllOrNothing ⟨storage, files s, h.userConfig, args⟩ ((h.run args).run.run s).1
      (files ((h.run args).run.run s).2) := by
  have hrun := worksOff_run (x := ⟨storage, files s, h.userConfig, args⟩) hworks rfl s rfl
  rcases hresult : (h.run args).run.run s with ⟨e | u, s'⟩
  · rw [hresult] at hrun
    obtain ⟨hfiles, hfails⟩ := hrun
    rw [hfiles]
    exact allOrNothing_of_error hfails
  · rw [hresult] at hrun
    obtain ⟨⟨text, htext, hwrite⟩, hpass⟩ := hrun
    exact allOrNothing_of_ok hpass htext hwrite

/-- After a run that succeeds the output reads as the text, unless it keeps nothing. -/
theorem Session.readText_run {userConfig : Option String} {args : Args} {s : Session}
    (hok : (((Session.host userConfig).run args).run.run s).1 = .ok ())
    (hsink : ∀ p, s.files.find true args.output ≠ .ok (p, some .sink)) :
    ∃ text, Start.Output ⟨Files.storage, s.files, userConfig, args⟩ text ∧
      (((Session.host userConfig).run args).run.run s).2.files.readText args.output
        = .ok text := by
  have hrun := worksOff_run (x := ⟨Files.storage, s.files, userConfig, args⟩)
    (Session.worksOn userConfig) rfl s rfl
  rcases hresult : ((Session.host userConfig).run args).run.run s with ⟨e | u, s'⟩
  · rw [hresult] at hok
    cases hok
  · rw [hresult] at hrun
    obtain ⟨⟨text, htext, hwrite⟩, -⟩ := hrun
    exact ⟨text, htext, Files.readText_writeText hwrite hsink⟩

/-- A working folder with a definition file. -/
def oneFile : Session := ⟨⟨["work"], [(["work", "api.json"], .file "{}".toUTF8)]⟩, #[]⟩

/-- Arguments whose output path leads to the definition file in another way. -/
def ontoInput : Args :=
  { input := "api.json", output := "../work//api.json", package := some "shop.v1" }

theorem Host.run_allOrNothing_ontoInput :
    (Session.host none).WorksOn Files.storage Session.files ∧
      AllOrNothing ⟨Files.storage, oneFile.files, none, ontoInput⟩
        (((Session.host none).run ontoInput).run.run oneFile).1
        (((Session.host none).run ontoInput).run.run oneFile).2.files ∧
      (((Session.host none).run ontoInput).run.run oneFile).1 = .ok () ∧
      (((Session.host none).run ontoInput).run.run oneFile).2.files.readText "api.json"
        = .ok "syntax = \"proto3\";\n\npackage shop.v1;\n\n" :=
  ⟨Session.worksOn none, Host.run_allOrNothing (Session.worksOn none) ontoInput oneFile, rfl,
    by decide +kernel⟩

-- Where the input cannot be read and there is no package either, the input is at fault.
example : (((Session.host none).run { input := "api" }).run.run oneFile).1
    = .error (.io .notFound) := by
  rfl

end ApiProto.Command
