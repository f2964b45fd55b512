/-
  What a run comes to, told from the files at its start.

  A run has stages (`Stage`), and the files tell of each stage whether it fails, and how (`Fails`),
  without regard to the others except where there is nothing to work on.  If no stage fails the
  files tell the text of the output (`Output`).
-/
import ApiProto.Proofs.Runs.Storage

namespace ApiProto.Command

/-! ## Stages -/

/-- The stages of a run that can fail. -/
inductive Stage where
  /-- Finding and reading the settings. -/
  | configuration
  /-- Reading the definition file. -/
  | input
  /-- Reading the profile file. -/
  | profileFile
  /-- Making profiles of its text. -/
  | profileText
  /-- Selecting a profile. -/
  | selection
  /-- Checking the package of the profile. -/
  | package
  /-- Making a definition of the text of the definition file. -/
  | definition
  /-- Writing the output. -/
  | output
  deriving DecidableEq, Repr

/-- The stages of a profile. -/
def Stage.ofProfile : List Stage := [.profileFile, .profileText, .selection, .package]

theorem Stage.forall_mem_ofProfile {P : Stage → Prop} : (∀ stage ∈ Stage.ofProfile, P stage) ↔
    P .profileFile ∧ P .profileText ∧ P .selection ∧ P .package := by
  simp [Stage.ofProfile]

/-- The stages in their order. -/
def Stage.all : List Stage :=
  [.configuration, .input, .profileFile, .profileText, .selection, .package, .definition, .output]

/-! ## Files at the start -/

/-- What a run starts from: the files, the path of the user's settings file, and the arguments. -/
structure Start (F : Type) where
  storage : Storage F
  files : F
  userConfig : Option String
  args : Args

namespace Start

variable {F : Type} (x : Start F)

/-- Whether a path leads to a file. -/
def isFile (path : String) : Bool := x.storage.isFile x.files path

/-- The text of a file. -/
def read (path : String) : Except IoError String := x.storage.readText x.files path

/-- The settings file in force. -/
inductive ConfigFile : String → Prop
  | given {path : String} (harg : x.args.config = some path) (hfile : x.isFile path) :
      ConfigFile path
  | found {path : String} (harg : x.args.config = none)
      (hfind : (localConfig :: x.userConfig.toList).find? x.isFile = some path) : ConfigFile path

/-- The settings in force. -/
inductive InForce : Settings → Prop
  | default (harg : x.args.config = none)
      (hfind : (localConfig :: x.userConfig.toList).find? x.isFile = none) : InForce {}
  | file {path text : String} {settings : Settings} (hfile : x.ConfigFile path)
      (hread : x.read path = .ok text) (hsettings : Settings.read text = some settings) :
      InForce settings

/-- The profiles of the profile file. -/
inductive Profiles : ProfileSet → Prop
  | mk {path source : String} {profiles : ProfileSet} (harg : x.args.profile = some path)
      (hread : x.read path = .ok source) (hload : ProfileSet.load source = .ok profiles) :
      Profiles profiles

/-- The profile that the arguments ask for, with the name under which it is reported.  Its package
has yet to be checked. -/
inductive Candidate : String → Profile → Prop
  | own {package : String} (harg : x.args.profile = none)
      (hpackage : x.args.package = some package) :
      Candidate commandLineProfile (.ofPackage package)
  | selected {profiles : ProfileSet} {p : Profile} (hprofiles : x.Profiles profiles)
      (hselect : profiles.select x.args.profileName = .ok p) :
      Candidate (x.args.profileName.getD (profiles.keys.head?.getD ""))
        { p with package := x.args.package.getD p.package }

/-- The text of the output. -/
inductive Output : String → Prop
  | mk {settings : Settings} {name source text : String} {p : Profile} {d : Definition}
      (hsettings : x.InForce settings) (hprofile : x.Candidate name p)
      (hread : x.read x.args.input = .ok source) (hload : Definition.load source = .ok d)
      (hrender : d.render p settings = .ok text) : Output text

/-! ## Failures -/

/-- A stage fails with an error. -/
inductive Fails : Stage → RunError → Prop
  | missingConfig {path : String} (harg : x.args.config = some path) (hfile : ¬ x.isFile path) :
      Fails .configuration (.missingConfig path)
  | unreadableConfig {path : String} {e : IoError} (hfile : x.ConfigFile path)
      (hread : x.read path = .error e) : Fails .configuration (.io e)
  | invalidConfig {path text : String} (hfile : x.ConfigFile path) (hread : x.read path = .ok text)
      (hsettings : Settings.read text = none) : Fails .configuration (.invalidConfig path)
  | input {e : IoError} (hread : x.read x.args.input = .error e) : Fails .input (.io e)
  | profileFile {path : String} {e : IoError} (harg : x.args.profile = some path)
      (hread : x.read path = .error e) : Fails .profileFile (.io e)
  | profileText {path source : String} {e : LoadError} (harg : x.args.profile = some path)
      (hread : x.read path = .ok source) (hload : ProfileSet.load source = .error e) :
      Fails .profileText (.load e source)
  | selection {profiles : ProfileSet} {e : ProfileError} (hprofiles : x.Profiles profiles)
      (hselect : profiles.select x.args.profileName = .error e) : Fails .selection (.profile e)
  | noPackage (harg : x.args.profile = none) (hpackage : x.args.package = none) :
      Fails .package (.profile (.missingPackage commandLineProfile))
  | package {name : String} {p : Profile} {e : ProfileError} (hprofile : x.Candidate name p)
      (hcheck : p.check name = .error e) : Fails .package (.profile e)
  | definition {source : String} {e : LoadError} (hread : x.read x.args.input = .ok source)
      (hload : Definition.load source = .error e) : Fails .definition (.load e source)
  | output {text : String} {e : IoError} (htext : x.Output text)
      (hwrite : x.storage.writeText x.files x.args.output text = .error e) : Fails .output (.io e)

/-- A stage does not fail. -/
def Passes (stage : Stage) : Prop := ∀ e, ¬ x.Fails stage e

/-- Of some stages in order, the first that fails fails with an error. -/
inductive FailsFirst : List Stage → RunError → Prop
  | here {stage : Stage} {rest : List Stage} {e : RunError} (h : x.Fails stage e) :
      FailsFirst (stage :: rest) e
  | later {stage : Stage} {rest : List Stage} {e : RunError} (hpass : x.Passes stage)
      (h : FailsFirst rest e) : FailsFirst (stage :: rest) e

/-! ## Uniqueness -/

variable {x}

theorem ConfigFile.unique {path path' : String} (h : x.ConfigFile path) (h' : x.ConfigFile path') :
    path = path' := by
  cases h with
  | given harg =>
      cases h' with
      | given harg' => exact Option.some.inj (harg.symm.trans harg')
      | found harg' => cases harg.symm.trans harg'
  | found harg hfind =>
      cases h' with
      | given harg' => cases harg.symm.trans harg'
      | found _ hfind' => exact Option.some.inj (hfind.symm.trans hfind')

theorem not_configFile (harg : x.args.config = none)
    (hfind : (localConfig :: x.userConfig.toList).find? x.isFile = none) (path : String) :
    ¬ x.ConfigFile path := by
  intro h
  cases h with
  | given harg' => cases harg.symm.trans harg'
  | found _ hfind' => cases hfind.symm.trans hfind'

theorem not_configFile_of_missing {given : String} (harg : x.args.config = some given)
    (hfile : ¬ x.isFile given) (path : String) : ¬ x.ConfigFile path := by
  intro h
  cases h with
  | given harg' hfile' =>
      obtain rfl := Option.some.inj (harg.symm.trans harg')
      exact hfile hfile'
  | found harg' => cases harg.symm.trans harg'

theorem InForce.unique {s s' : Settings} (h : x.InForce s) (h' : x.InForce s') : s = s' := by
  cases h with
  | default harg hfind =>
      cases h' with
      | default => rfl
      | file hfile => exact absurd hfile (not_configFile harg hfind _)
  | file hfile hread hsettings =>
      cases h' with
      | default harg hfind => exact absurd hfile (not_configFile harg hfind _)
      | file hfile' hread' hsettings' =>
          obtain rfl := hfile.unique hfile'
          obtain rfl := Except.ok.inj (hread.symm.trans hread')
          exact Option.some.inj (hsettings.symm.trans hsettings')

theorem Profiles.unique {ps ps' : ProfileSet} (h : x.Profiles ps) (h' : x.Profiles ps') :
    ps = ps' := by
  obtain ⟨harg, hread, hload⟩ := h
  obtain ⟨harg', hread', hload'⟩ := h'
  obtain rfl := Option.some.inj (harg.symm.trans harg')
  obtain rfl := Except.ok.inj (hread.symm.trans hread')
  exact Except.ok.inj (hload.symm.trans hload')

theorem not_profiles (harg : x.args.profile = none) (ps : ProfileSet) : ¬ x.Profiles ps := by
  rintro ⟨harg', -, -⟩
  cases harg.symm.trans harg'

theorem not_candidate (harg : x.args.profile = none) (hpackage : x.args.package = none)
    (name : String) (p : Profile) : ¬ x.Candidate name p := by
  intro h
  cases h with
  | own _ hpackage' => cases hpackage.symm.trans hpackage'
  | selected hprofiles => exact not_profiles harg _ hprofiles

theorem Candidate.unique {name name' : String} {p p' : Profile} (h : x.Candidate name p)
    (h' : x.Candidate name' p') : name = name' ∧ p = p' := by
  cases h with
  | own harg hpackage =>
      cases h' with
      | own _ hpackage' =>
          obtain rfl := Option.some.inj (hpackage.symm.trans hpackage')
          exact ⟨rfl, rfl⟩
      | selected hprofiles => exact absurd hprofiles (not_profiles harg _)
  | selected hprofiles hselect =>
      cases h' with
      | own harg => exact absurd hprofiles (not_profiles harg _)
      | selected hprofiles' hselect' =>
          obtain rfl := hprofiles.unique hprofiles'
          obtain rfl := Except.ok.inj (hselect.symm.trans hselect')
          exact ⟨rfl, rfl⟩

/-- The files at the start tell one text. -/
theorem Output.unique {text text' : String} (h : x.Output text) (h' : x.Output text') :
    text = text' := by
  obtain ⟨hsettings, hprofile, hread, hload, hrender⟩ := h
  obtain ⟨hsettings', hprofile', hread', hload', hrender'⟩ := h'
  obtain rfl := hsettings.unique hsettings'
  obtain ⟨-, rfl⟩ := hprofile.unique hprofile'
  obtain rfl := Except.ok.inj (hread.symm.trans hread')
  obtain rfl := Except.ok.inj (hload.symm.trans hload')
  exact Except.ok.inj (hrender.symm.trans hrender')

/-- A stage fails in one way. -/
theorem Fails.unique {stage : Stage} {e e' : RunError} (h : x.Fails stage e)
    (h' : x.Fails stage e') : e = e' := by
  -- what a stage reads is the same for both, and so is what comes of it
  cases h with
  | missingConfig harg hfile =>
      cases h' with
      | missingConfig harg' => rw [Option.some.inj (harg.symm.trans harg')]
      | unreadableConfig hfile' => exact absurd hfile' (not_configFile_of_missing harg hfile _)
      | invalidConfig hfile' => exact absurd hfile' (not_configFile_of_missing harg hfile _)
  | unreadableConfig hfile hread =>
      cases h' with
      | missingConfig harg hnone => exact absurd hfile (not_configFile_of_missing harg hnone _)
      | unreadableConfig hfile' hread' =>
          obtain rfl := hfile.unique hfile'
          rw [Except.error.inj (hread.symm.trans hread')]
      | invalidConfig hfile' hread' =>
          obtain rfl := hfile.unique hfile'
          cases hread.symm.trans hread'
  | invalidConfig hfile hread =>
      cases h' with
      | missingConfig harg hnone => exact absurd hfile (not_configFile_of_missing harg hnone _)
      | unreadableConfig hfile' hread' =>
          obtain rfl := hfile.unique hfile'
          cases hread.symm.trans hread'
      | invalidConfig hfile' => rw [hfile.unique hfile']
  | input hread =>
      cases h' with
      | input hread' => rw [Except.error.inj (hread.symm.trans hread')]
  | profileFile harg hread =>
      cases h' with
      | profileFile harg' hread' =>
          obtain rfl := Option.some.inj (harg.symm.trans harg')
          rw [Except.error.inj (hread.symm.trans hread')]
  | profileText harg hread hload =>
      cases h' with
      | profileText harg' hread' hload' =>
          obtain rfl := Option.some.inj (harg.symm.trans harg')
          obtain rfl := Except.ok.inj (hread.symm.trans hread')
          rw [Except.error.inj (hload.symm.trans hload')]
  | selection hprofiles hselect =>
      cases h' with
      | selection hprofiles' hselect' =>
          obtain rfl := hprofiles.unique hprofiles'
          rw [Except.error.inj (hselect.symm.trans hselect')]
  | noPackage harg hpackage =>
      cases h' with
      | noPackage => rfl
      | package hprofile => exact absurd hprofile (not_candidate harg hpackage _ _)
  | package hprofile hcheck =>
      cases h' with
      | noPackage harg hpackage => exact absurd hprofile (not_candidate harg hpackage _ _)
      | package hprofile' hcheck' =>
          obtain ⟨rfl, rfl⟩ := hprofile.unique hprofile'
          rw [Except.error.inj (hcheck.symm.trans hcheck')]
  | definition hread hload =>
      cases h' with
      | definition hread' hload' =>
          obtain rfl := Except.ok.inj (hread.symm.trans hread')
          rw [Except.error.inj (hload.symm.trans hload')]
  | output htext hwrite =>
      cases h' with
      | output htext' hwrite' =>
          obtain rfl := htext.unique htext'
          rw [Except.error.inj (hwrite.symm.trans hwrite')]

theorem FailsFirst.unique {stages : List Stage} {e e' : RunError} (h : x.FailsFirst stages e)
    (h' : x.FailsFirst stages e') : e = e' := by
  induction h with
  | here h =>
      cases h' with
      | here h' => exact h.unique h'
      | later hpass => exact absurd h (hpass _)
  | later hpass _ ih =>
      cases h' with
      | here h' => exact absurd h' (hpass _)
      | later _ h' => exact ih h'

/-! ## Stages that pass -/

theorem InForce.passes {settings : Settings} (h : x.InForce settings) : x.Passes .configuration := by
  intro e hfails
  cases h with
  | default harg hfind =>
      cases hfails with
      | missingConfig harg' => cases harg.symm.trans harg'
      | unreadableConfig hfile => exact not_configFile harg hfind _ hfile
      | invalidConfig hfile => exact not_configFile harg hfind _ hfile
  | file hfile hread hsettings =>
      cases hfails with
      | missingConfig harg hnone => exact not_configFile_of_missing harg hnone _ hfile
      | unreadableConfig hfile' hread' =>
          obtain rfl := hfile.unique hfile'
          cases hread.symm.trans hread'
      | invalidConfig hfile' hread' hnone =>
          obtain rfl := hfile.unique hfile'
          obtain rfl := Except.ok.inj (hread.symm.trans hread')
          cases hsettings.symm.trans hnone

theorem passes_input {source : String} (hread : x.read x.args.input = .ok source) :
    x.Passes .input := by
  intro e hfails
  cases hfails with
  | input hread' => cases hread.symm.trans hread'

theorem passes_definition {source : String} {d : Definition}
    (hread : x.read x.args.input = .ok source) (hload : Definition.load source = .ok d) :
    x.Passes .definition := by
  intro e hfails
  cases hfails with
  | definition hread' hload' =>
      obtain rfl := Except.ok.inj (hread.symm.trans hread')
      cases hload.symm.trans hload'

/-- Without a profile file only the package can be at fault. -/
theorem passes_of_profile_eq_none (harg : x.args.profile = none) :
    x.Passes .profileFile ∧ x.Passes .profileText ∧ x.Passes .selection := by
  refine ⟨fun e hfails => ?_, fun e hfails => ?_, fun e hfails => ?_⟩
  · cases hfails with
    | profileFile harg' => cases harg.symm.trans harg'
  · cases hfails with
    | profileText harg' => cases harg.symm.trans harg'
  · cases hfails with
    | selection hprofiles => exact not_profiles harg _ hprofiles

theorem passes_profileFile {path source : String} (harg : x.args.profile = some path)
    (hread : x.read path = .ok source) : x.Passes .profileFile := by
  intro e hfails
  cases hfails with
  | profileFile harg' hread' =>
      obtain rfl := Option.some.inj (harg.symm.trans harg')
      cases hread.symm.trans hread'

theorem passes_profileText {path source : String} {profiles : ProfileSet}
    (harg : x.args.profile = some path) (hread : x.read path = .ok source)
    (hload : ProfileSet.load source = .ok profiles) : x.Passes .profileText := by
  intro e hfails
  cases hfails with
  | profileText harg' hread' hload' =>
      obtain rfl := Option.some.inj (harg.symm.trans harg')
      obtain rfl := Except.ok.inj (hread.symm.trans hread')
      cases hload.symm.trans hload'

theorem passes_selection {profiles : ProfileSet} {p : Profile} (hprofiles : x.Profiles profiles)
    (hselect : profiles.select x.args.profileName = .ok p) : x.Passes .selection := by
  intro e hfails
  cases hfails with
  | selection hprofiles' hselect' =>
      obtain rfl := hprofiles.unique hprofiles'
      cases hselect.symm.trans hselect'

theorem passes_package {name : String} {p : Profile} (hprofile : x.Candidate name p)
    (hcheck : p.check name = .ok ()) : x.Passes .package := by
  intro e hfails
  cases hfails with
  | noPackage harg hpackage => exact not_candidate harg hpackage _ _ hprofile
  | package hprofile' hcheck' =>
      obtain ⟨rfl, rfl⟩ := hprofile.unique hprofile'
      cases hcheck.symm.trans hcheck'

theorem passes_output {text : String} {after : F} (htext : x.Output text)
    (hwrite : x.storage.writeText x.files x.args.output text = .ok after) : x.Passes .output := by
  intro e hfails
  cases hfails with
  | output htext' hwrite' =>
      obtain rfl := htext.unique htext'
      cases hwrite.symm.trans hwrite'

/-! ## Stages in a row -/

theorem FailsFirst.exists_fails {stages : List Stage} {e : RunError} (h : x.FailsFirst stages e) :
    ∃ stage ∈ stages, x.Fails stage e := by
  induction h with
  | here h => exact ⟨_, List.mem_cons_self, h⟩
  | later _ _ ih =>
      obtain ⟨stage, hmem, hfails⟩ := ih
      exact ⟨stage, List.mem_cons_of_mem _ hmem, hfails⟩

theorem FailsFirst.append {stages : List Stage} {e : RunError} (h : x.FailsFirst stages e)
    (rest : List Stage) : x.FailsFirst (stages ++ rest) e := by
  induction h with
  | here h => exact .here h
  | later hpass _ ih => exact .later hpass ih

theorem FailsFirst.append_left {stages rest : List Stage} {e : RunError}
    (hpass : ∀ stage ∈ stages, x.Passes stage) (h : x.FailsFirst rest e) :
    x.FailsFirst (stages ++ rest) e := by
  induction stages with
  | nil => exact h
  | cons stage stages ih =>
      obtain ⟨hstage, hstages⟩ := List.forall_mem_cons.mp hpass
      exact .later hstage (ih hstages)

end Start

end ApiProto.Command
