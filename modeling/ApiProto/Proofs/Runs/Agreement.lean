/-
  What a run depends on.

  A run ends as its start tells (`Ends`).  Two starts are alike (`Alike`) if the same stages fail in
  the same way, the output has the same text, and it can be written to both or to neither: then the
  two runs come to the same (`Ends.sameRun`).  Files that agree on what a run looks at give starts
  that are alike (`Agrees.alike`), so nothing else that they hold makes a difference.

  That two runs come to the same (`SameRun`) leaves one thing open, the reason of a refused write:
  it is up to the files around the output, where a folder may be missing or a file stand for it.
-/
import ApiProto.Proofs.Runs.AllOrNothing

namespace ApiProto.Command

variable {σ F : Type}

/-- The stages before the last one. -/
def Stage.beforeOutput : List Stage :=
  [.configuration, .input, .profileFile, .profileText, .selection, .package, .definition]

theorem Stage.all_eq : Stage.all = Stage.beforeOutput ++ [.output] := rfl

namespace Start

/-! ## How runs end -/

/-- What a write of a text to the output makes of the files. -/
def write (x : Start F) (text : String) : Except IoError F :=
  x.storage.writeText x.files x.args.output text

/-- The results of a run, and the files after it. -/
inductive Ends (x : Start F) : Except RunError Unit × F → Prop
  | written {text : String} {after : F} (hpass : ∀ stage, x.Passes stage) (htext : x.Output text)
      (hwrite : x.write text = .ok after) : Ends x (.ok (), after)
  | failed {e : RunError} (hfails : x.FailsFirst Stage.all e) : Ends x (.error e, x.files)

/-- Two runs come to the same: with the result of each, the files after it. -/
inductive SameRun (x x' : Start F) : Except RunError Unit × F → Except RunError Unit × F → Prop
  /-- Both write one text. -/
  | written {text : String} {after after' : F} (hwrite : x.write text = .ok after)
      (hwrite' : x'.write text = .ok after') : SameRun x x' (.ok (), after) (.ok (), after')
  /-- Both fail with one error and leave their files alone. -/
  | failed (e : RunError) : SameRun x x' (.error e, x.files) (.error e, x'.files)
  /-- Both fail to write one text and leave their files alone. -/
  | unwritten {text : String} {e e' : IoError} (hwrite : x.write text = .error e)
      (hwrite' : x'.write text = .error e') :
      SameRun x x' (.error (.io e), x.files) (.error (.io e'), x'.files)

variable {x x' : Start F}

/-- The result is the same where a text that cannot be written is refused for one reason. -/
theorem SameRun.result_eq {o o' : Except RunError Unit × F} (h : SameRun x x' o o')
    (hrefused : ∀ text e, x.write text = .error e → x'.write text = .error e) : o.1 = o'.1 := by
  cases h with
  | written => rfl
  | failed => rfl
  | unwritten hwrite hwrite' =>
      have hreason := (hrefused _ _ hwrite).symm.trans hwrite'
      rw [Except.error.inj hreason]

/-- From the same files two runs leave the same files behind. -/
theorem SameRun.eq_of_write_eq {o o' : Except RunError Unit × F} (h : SameRun x x' o o')
    (hfiles : x.files = x'.files) (hwrite : ∀ text, x.write text = x'.write text) : o = o' := by
  cases h with
  | written hok hok' =>
      have hafter := hok.symm.trans ((hwrite _).trans hok')
      rw [Except.ok.inj hafter]
  | failed => rw [hfiles]
  | unwritten herror herror' =>
      have hreason := herror.symm.trans ((hwrite _).trans herror')
      rw [Except.error.inj hreason, hfiles]

/-! ## Starts that are alike -/

/-- Two starts tell the same of their runs, but for the reason why an output cannot be written. -/
structure Alike (x x' : Start F) : Prop where
  fails_iff : ∀ stage ∈ Stage.beforeOutput, ∀ e, x.Fails stage e ↔ x'.Fails stage e
  output_iff : ∀ text, x.Output text ↔ x'.Output text
  written_iff : ∀ text, (∃ after, x.write text = .ok after) ↔ ∃ after, x'.write text = .ok after

theorem Alike.symm (h : Alike x x') : Alike x' x where
  fails_iff stage hmem e := (h.fails_iff stage hmem e).symm
  output_iff text := (h.output_iff text).symm
  written_iff text := (h.written_iff text).symm

/-- The stages before the write fail as they do from the other start. -/
theorem FailsFirst.congr {stages : List Stage} {e : RunError} (h : x.FailsFirst stages e)
    (hfails : ∀ stage ∈ stages, ∀ e, x.Fails stage e ↔ x'.Fails stage e) :
    x'.FailsFirst stages e := by
  induction h with
  | here h => exact .here ((hfails _ List.mem_cons_self _).mp h)
  | later hpass _ ih =>
      obtain ⟨hstage, hrest⟩ := List.forall_mem_cons.mp hfails
      exact .later (fun e' hfails' => hpass e' ((hstage e').mpr hfails')) (ih hrest)

/-- Of stages in a row either a first one fails, or they pass and one of the rest does. -/
theorem FailsFirst.of_append {stages rest : List Stage} {e : RunError}
    (h : x.FailsFirst (stages ++ rest) e) :
    x.FailsFirst stages e ∨ (∀ stage ∈ stages, x.Passes stage) ∧ x.FailsFirst rest e := by
  induction stages with
  | nil => exact .inr ⟨List.forall_mem_nil _, h⟩
  | cons stage stages ih =>
      cases h with
      | here h => exact .inl (.here h)
      | later hpass h =>
          obtain hstages | ⟨hpass', hrest⟩ := ih h
          · exact .inl (.later hpass hstages)
          · exact .inr ⟨List.forall_mem_cons.mpr ⟨hpass, hpass'⟩, hrest⟩

/-- A run fails before the write, or in it. -/
theorem FailsFirst.before_or_output {e : RunError} (h : x.FailsFirst Stage.all e) :
    x.FailsFirst Stage.beforeOutput e ∨
      (∀ stage ∈ Stage.beforeOutput, x.Passes stage) ∧ x.Fails .output e := by
  rw [Stage.all_eq] at h
  refine h.of_append.imp_right fun ⟨hpass, hrest⟩ => ⟨hpass, ?_⟩
  obtain ⟨stage, hmem, hfails⟩ := hrest.exists_fails
  rwa [List.mem_singleton.mp hmem] at hfails

/-- Where one run has written its output, the other does not fail. -/
theorem Alike.not_failsFirst (h : Alike x x') (hpass : ∀ stage, x.Passes stage) {text : String}
    {after : F} (htext : x.Output text) (hwrite : x.write text = .ok after) (e : RunError) :
    ¬ x'.FailsFirst Stage.all e := by
  intro hfails
  obtain hbefore | ⟨-, houtput⟩ := hfails.before_or_output
  · -- a stage before the write would have failed there too
    obtain ⟨stage, hmem, hstage⟩ := hbefore.exists_fails
    exact hpass stage e ((h.fails_iff stage hmem e).mpr hstage)
  · -- the same text can be written in both cases
    cases houtput with
    | output htext' hwrite' =>
        obtain rfl := htext'.unique ((h.output_iff text).mp htext)
        obtain ⟨after', hok⟩ := (h.written_iff _).mp ⟨after, hwrite⟩
        cases hok.symm.trans hwrite'

/-- Runs from starts that are alike come to the same. -/
theorem Ends.sameRun (halike : Alike x x') {o o' : Except RunError Unit × F} (h : Ends x o)
    (h' : Ends x' o') : SameRun x x' o o' := by
  cases h with
  | written hpass htext hwrite =>
      cases h' with
      | written _ htext' hwrite' =>
          obtain rfl := htext'.unique ((halike.output_iff _).mp htext)
          exact .written hwrite hwrite'
      | failed hfails' => exact absurd hfails' (halike.not_failsFirst hpass htext hwrite _)
  | failed hfails =>
      cases h' with
      | written hpass' htext' hwrite' =>
          exact absurd hfails (halike.symm.not_failsFirst hpass' htext' hwrite' _)
      | failed hfails' =>
          obtain hbefore | ⟨hpass, houtput⟩ := hfails.before_or_output
          · -- the first stage that fails is the same, and it is before the write
            have hall := (hbefore.congr halike.fails_iff).append [.output]
            obtain rfl := hfails'.unique hall
            exact .failed _
          · obtain hbefore' | ⟨-, houtput'⟩ := hfails'.before_or_output
            · obtain ⟨stage, hmem, hstage⟩ := hbefore'.exists_fails
              exact absurd ((halike.fails_iff stage hmem _).mpr hstage) (hpass stage hmem _)
            · -- both fail to write one text, for reasons that need not be the same
              cases houtput with
              | output htext hwrite =>
                  cases houtput' with
                  | output htext' hwrite' =>
                      obtain rfl := htext'.unique ((halike.output_iff _).mp htext)
                      exact .unwritten hwrite hwrite'

/-! ## The same settings and the same definition -/

theorem configFile_iff {path : String} :
    x.ConfigFile path ↔ x.args.config = some path ∧ x.isFile path ∨
      x.args.config = none ∧ (localConfig :: x.userConfig.toList).find? x.isFile = some path := by
  constructor
  · intro h
    cases h with
    | given harg hfile => exact .inl ⟨harg, hfile⟩
    | found harg hfind => exact .inr ⟨harg, hfind⟩
  · rintro (⟨harg, hfile⟩ | ⟨harg, hfind⟩)
    · exact .given harg hfile
    · exact .found harg hfind

/-- The same settings file is in force at two starts and reads the same, or none is.  The path that
is given is a file for both or for neither; if none is given, both find the same path first. -/
structure SameConfig (x x' : Start F) : Prop where
  config_eq : x.args.config = x'.args.config
  isFile_eq : ∀ path, x.args.config = some path → x.isFile path = x'.isFile path
  find_eq : x.args.config = none →
    (localConfig :: x.userConfig.toList).find? x.isFile
      = (localConfig :: x'.userConfig.toList).find? x'.isFile
  read_eq : ∀ path, x.ConfigFile path → x.read path = x'.read path

namespace SameConfig

theorem configFile_congr (h : SameConfig x x') (path : String) :
    x.ConfigFile path ↔ x'.ConfigFile path := by
  rw [configFile_iff, configFile_iff, ← h.config_eq]
  refine or_congr (and_congr_right fun harg => ?_) (and_congr_right fun harg => ?_)
  · rw [h.isFile_eq path harg]
  · rw [h.find_eq harg]

theorem symm (h : SameConfig x x') : SameConfig x' x where
  config_eq := h.config_eq.symm
  isFile_eq path harg := (h.isFile_eq path (h.config_eq.trans harg)).symm
  find_eq harg := (h.find_eq (h.config_eq.trans harg)).symm
  read_eq path hfile := (h.read_eq path ((h.configFile_congr path).mpr hfile)).symm

theorem fails (h : SameConfig x x') {e : RunError} (hfails : x.Fails .configuration e) :
    x'.Fails .configuration e := by
  cases hfails with
  | missingConfig harg hfile =>
      rw [h.isFile_eq _ harg] at hfile
      exact .missingConfig (h.config_eq ▸ harg) hfile
  | unreadableConfig hfile hread =>
      exact .unreadableConfig ((h.configFile_congr _).mp hfile) (h.read_eq _ hfile ▸ hread)
  | invalidConfig hfile hread hsettings =>
      have hread' := (h.read_eq _ hfile).symm.trans hread
      exact .invalidConfig ((h.configFile_congr _).mp hfile) hread' hsettings

theorem inForce (h : SameConfig x x') {settings : Settings} (hforce : x.InForce settings) :
    x'.InForce settings := by
  cases hforce with
  | default harg hfind => exact .default (h.config_eq ▸ harg) (h.find_eq harg ▸ hfind)
  | file hfile hread hsettings =>
      have hread' := (h.read_eq _ hfile).symm.trans hread
      exact .file ((h.configFile_congr _).mp hfile) hread' hsettings

end SameConfig

/-- All is the same at two starts but the profile, which may come about in different ways. -/
structure SameButProfile (x x' : Start F) : Prop where
  config : SameConfig x x'
  input : x.read x.args.input = x'.read x'.args.input
  /-- The output can be written in both cases or in neither. -/
  written_iff : ∀ text, (∃ after, x.write text = .ok after) ↔ ∃ after, x'.write text = .ok after

namespace SameButProfile

theorem symm (h : SameButProfile x x') : SameButProfile x' x where
  config := h.config.symm
  input := h.input.symm
  written_iff text := (h.written_iff text).symm

theorem fails (h : SameButProfile x x') {stage : Stage} {e : RunError}
    (hbefore : stage ∈ Stage.beforeOutput) (hprofile : stage ∉ Stage.ofProfile)
    (hfails : x.Fails stage e) : x'.Fails stage e := by
  cases hfails with
  | missingConfig harg hfile => exact h.config.fails (.missingConfig harg hfile)
  | unreadableConfig hfile hread => exact h.config.fails (.unreadableConfig hfile hread)
  | invalidConfig hfile hread hsettings =>
      exact h.config.fails (.invalidConfig hfile hread hsettings)
  | input hread => exact .input (h.input.symm.trans hread)
  | definition hread hload => exact .definition (h.input.symm.trans hread) hload
  | output => exact absurd hbefore (by decide)
  | profileFile | profileText | selection | noPackage | package =>
      exact absurd hprofile (by decide)

theorem output (h : SameButProfile x x')
    (hcandidate : ∀ name p, x.Candidate name p → ∃ name', x'.Candidate name' p) {text : String}
    (htext : x.Output text) : x'.Output text := by
  obtain ⟨hsettings, hprofile, hread, hload, hrender⟩ := htext
  obtain ⟨name', hprofile'⟩ := hcandidate _ _ hprofile
  exact ⟨h.config.inForce hsettings, hprofile', h.input.symm.trans hread, hload, hrender⟩

/-- It is enough that the profiles fail alike and come to the same. -/
theorem alike (h : SameButProfile x x')
    (hfails : ∀ stage ∈ Stage.ofProfile, ∀ e, x.Fails stage e ↔ x'.Fails stage e)
    (hcandidate : ∀ name p, x.Candidate name p → ∃ name', x'.Candidate name' p)
    (hcandidate' : ∀ name p, x'.Candidate name p → ∃ name', x.Candidate name' p) :
    Alike x x' where
  fails_iff stage hbefore e := by
    by_cases hprofile : stage ∈ Stage.ofProfile
    · exact hfails stage hprofile e
    · exact ⟨h.fails hbefore hprofile, h.symm.fails hbefore hprofile⟩
  output_iff _ := ⟨h.output hcandidate, h.symm.output hcandidate'⟩
  written_iff := h.written_iff

end SameButProfile

/-! ## Files that agree -/

/-- Two starts with the same arguments agree on all that a run looks at. -/
structure Agrees (x x' : Start F) : Prop extends SameButProfile x x' where
  args_eq : x.args = x'.args
  profile : ∀ path, x.args.profile = some path → x.read path = x'.read path

namespace Agrees

theorem symm (h : Agrees x x') : Agrees x' x where
  toSameButProfile := h.toSameButProfile.symm
  args_eq := h.args_eq.symm
  profile path harg := (h.profile path (h.args_eq ▸ harg)).symm

theorem profiles (h : Agrees x x') {ps : ProfileSet} (hprofiles : x.Profiles ps) :
    x'.Profiles ps := by
  obtain ⟨harg, hread, hload⟩ := hprofiles
  exact ⟨h.args_eq ▸ harg, (h.profile _ harg).symm.trans hread, hload⟩

theorem candidate (h : Agrees x x') {name : String} {p : Profile}
    (hcandidate : x.Candidate name p) : x'.Candidate name p := by
  cases hcandidate with
  | own harg hpackage =>
      rw [h.args_eq] at harg hpackage
      exact .own harg hpackage
  | selected hprofiles hselect =>
      rw [h.args_eq] at hselect ⊢
      exact .selected (h.profiles hprofiles) hselect

theorem fails (h : Agrees x x') {stage : Stage} {e : RunError} (hstage : stage ∈ Stage.ofProfile)
    (hfails : x.Fails stage e) : x'.Fails stage e := by
  cases hfails with
  | profileFile harg hread =>
      exact .profileFile (h.args_eq ▸ harg) ((h.profile _ harg).symm.trans hread)
  | profileText harg hread hload =>
      exact .profileText (h.args_eq ▸ harg) ((h.profile _ harg).symm.trans hread) hload
  | selection hprofiles hselect => exact .selection (h.profiles hprofiles) (h.args_eq ▸ hselect)
  | noPackage harg hpackage => exact .noPackage (h.args_eq ▸ harg) (h.args_eq ▸ hpackage)
  | package hprofile hcheck => exact .package (h.candidate hprofile) hcheck
  | missingConfig | unreadableConfig | invalidConfig | input | definition | output =>
      exact absurd hstage (by decide)

theorem alike (h : Agrees x x') : Alike x x' := by
  have hfails : ∀ stage ∈ Stage.ofProfile, ∀ e, x.Fails stage e ↔ x'.Fails stage e :=
    fun stage hstage e => ⟨h.fails hstage, h.symm.fails hstage⟩
  exact h.toSameButProfile.alike hfails (fun name _ hp => ⟨name, h.candidate hp⟩)
    fun name _ hp => ⟨name, h.symm.candidate hp⟩

end Agrees

end Start

/-! ## Runs -/

section Runs

variable {files : σ → F} {h : Host (StateM σ)} {storage : Storage F}

/-- What a run starts from. -/
def Host.start (h : Host (StateM σ)) (storage : Storage F) (files : σ → F) (args : Args) (s : σ) :
    Start F :=
  ⟨storage, files s, h.userConfig, args⟩

/-- What a run comes to: its result, and the files after it. -/
def Host.comesTo (h : Host (StateM σ)) (files : σ → F) (args : Args) (s : σ) :
    Except RunError Unit × F :=
  (((h.run args).run.run s).1, files ((h.run args).run.run s).2)

open Start

theorem Host.ends_comesTo (hworks : h.WorksOn storage files) (args : Args) (s : σ) :
    Ends (h.start storage files args s) (h.comesTo files args s) := by
  have hrun := worksOff_run (x := h.start storage files args s) hworks rfl s rfl
  have hargs : (h.start storage files args s).args = args := rfl
  rw [hargs] at hrun
  unfold Host.comesTo
  rcases hresult : (h.run args).run.run s with ⟨e | u, s'⟩
  · rw [hresult] at hrun
    obtain ⟨hfiles, hfails⟩ := hrun
    rw [hfiles]
    exact .failed hfails
  · rw [hresult] at hrun
    obtain ⟨⟨text, htext, hwrite⟩, hpass⟩ := hrun
    exact .written (fun stage => hpass stage stage.mem_all) htext hwrite

/-- What is wrong with the settings comes first. -/
theorem Start.Ends.eq_of_fails {x : Start F} {o : Except RunError Unit × F} {e : RunError}
    (h : Ends x o) (hfails : x.Fails .configuration e) : o = (.error e, x.files) := by
  cases h with
  | written hpass => exact absurd hfails (hpass .configuration e)
  | failed hfirst => rw [hfirst.unique (.here hfails)]

/-- **Only the files that a run looks at matter.**  Runs from files that agree on the definition,
the profiles, the settings file in force and on whether the output can be written come to the same,
on success as on every failure; only a refusal to write keeps its own reason.  Of the settings files
only the one in force counts: no other one makes up for a given path that is no file, or for a file
in force that holds no settings. -/
theorem Host.run_of_agrees (hworks : h.WorksOn storage files) (args : Args) :
    (∀ s s', Agrees (h.start storage files args s) (h.start storage files args s') →
      SameRun (h.start storage files args s) (h.start storage files args s')
          (h.comesTo files args s) (h.comesTo files args s') ∧
        ((∀ text e, storage.writeText (files s) args.output text = .error e →
            storage.writeText (files s') args.output text = .error e) →
          (h.comesTo files args s).1 = (h.comesTo files args s').1)) ∧
      (∀ s path, args.config = some path → ¬ storage.isFile (files s) path →
        h.comesTo files args s = (.error (.missingConfig path), files s)) ∧
      ∀ s path text, (h.start storage files args s).ConfigFile path →
        storage.readText (files s) path = .ok text → Settings.read text = none →
        h.comesTo files args s = (.error (.invalidConfig path), files s) := by
  refine ⟨fun s s' hagrees => ?_, fun s path harg hfile => ?_,
    fun s path text hfile hread hsettings => ?_⟩
  · have hends' := h.ends_comesTo hworks args s'
    have hsame := (h.ends_comesTo hworks args s).sameRun hagrees.alike hends'
    exact ⟨hsame, hsame.result_eq⟩
  · exact (h.ends_comesTo hworks args s).eq_of_fails (.missingConfig harg hfile)
  · exact (h.ends_comesTo hworks args s).eq_of_fails (.invalidConfig hfile hread hsettings)

/-- Surroundings with a place for the user's settings. -/
def userHost : Host (StateM Session) := Session.host (some "/etc/config.toml")

/-- A working folder with a definition file and a settings file, and the user's settings file. -/
def twoSettings (here user : String) : Session :=
  ⟨⟨["work"], [(["work", "api.json"], .file "{}".toUTF8),
    (["work", "protogen", "config.toml"], .file here.toUTF8),
    (["etc", "config.toml"], .file user.toUTF8)]⟩, #[]⟩

/-- Arguments that leave the settings file to be found. -/
def plainArgs : Args := { input := "api.json", package := some "shop.v1" }

/-- The user's settings file is not in force where there is one in the working folder. -/
theorem agrees_twoSettings :
    Agrees (userHost.start Files.storage Session.files plainArgs (twoSettings "" ""))
      (userHost.start Files.storage Session.files plainArgs (twoSettings "" "=")) where
  config :=
    { config_eq := rfl
      isFile_eq := fun _ harg => by cases harg
      find_eq := fun _ => rfl
      read_eq := fun path hfile => by
        obtain rfl : localConfig = path := ConfigFile.unique (.found rfl rfl) hfile
        rfl }
  input := rfl
  written_iff _ := ⟨fun _ => ⟨_, rfl⟩, fun _ => ⟨_, rfl⟩⟩
  args_eq := rfl
  profile _ harg := by cases harg

theorem Host.run_of_agrees_twoSettings :
    userHost.WorksOn Files.storage Session.files ∧
      Agrees (userHost.start Files.storage Session.files plainArgs (twoSettings "" ""))
        (userHost.start Files.storage Session.files plainArgs (twoSettings "" "=")) ∧
      (userHost.comesTo Session.files plainArgs (twoSettings "" "")).1
        = (userHost.comesTo Session.files plainArgs (twoSettings "" "=")).1 ∧
      (userHost.comesTo Session.files plainArgs (twoSettings "=" "")).1
        = .error (.invalidConfig localConfig) ∧
      (userHost.comesTo Session.files { plainArgs with config := some "api" }
        (twoSettings "" "")).1 = .error (.missingConfig "api") := by
  have hworks : userHost.WorksOn Files.storage Session.files := Session.worksOn _
  obtain ⟨hagree, -, hinvalid⟩ := Host.run_of_agrees hworks plainArgs
  obtain ⟨-, hmissing, -⟩ := Host.run_of_agrees hworks { plainArgs with config := some "api" }
  obtain ⟨-, hresult⟩ := hagree _ _ agrees_twoSettings
  refine ⟨hworks, agrees_twoSettings, hresult fun text e hwrite => ?_, ?_, ?_⟩
  · -- the output can be written from the first of the two
    cases hwrite
  · rw [hinvalid _ localConfig "=" (.found rfl rfl) rfl rfl]
  · rw [hmissing _ "api" rfl (by decide +kernel)]

/-- Arguments that ask for an output in a folder. -/
def nestedArgs : Args := { plainArgs with output := "gen/out.proto" }

/-- A working folder with a definition file, and a file where the folder of the output would be. -/
def fileForFolder : Session :=
  ⟨⟨["work"], [(["work", "api.json"], .file "{}".toUTF8), (["work", "gen"], .file "".toUTF8)]⟩, #[]⟩

/-- The output can be written neither where its folder is missing nor where a file stands for it. -/
theorem agrees_fileForFolder :
    Agrees (userHost.start Files.storage Session.files nestedArgs oneFile)
      (userHost.start Files.storage Session.files nestedArgs fileForFolder) where
  config :=
    { config_eq := rfl
      isFile_eq := fun _ harg => by cases harg
      find_eq := fun _ => rfl
      read_eq := fun path hfile => absurd hfile (not_configFile rfl rfl path) }
  input := rfl
  written_iff _ := by
    constructor
    · rintro ⟨after, hwrite⟩
      cases hwrite
    · rintro ⟨after, hwrite⟩
      cases hwrite
  args_eq := rfl
  profile _ harg := by cases harg

/-- Whether a write is refused does not tell why: each run gives the reason that its own files
have. -/
theorem Host.refusals_differ :
    userHost.WorksOn Files.storage Session.files ∧
      Agrees (userHost.start Files.storage Session.files nestedArgs oneFile)
        (userHost.start Files.storage Session.files nestedArgs fileForFolder) ∧
      (userHost.comesTo Session.files nestedArgs oneFile).1 = .error (.io .notFound) ∧
      (userHost.comesTo Session.files nestedArgs fileForFolder).1
        = .error (.io .notADirectory) ∧
      (userHost.comesTo Session.files nestedArgs oneFile).1
        ≠ (userHost.comesTo Session.files nestedArgs fileForFolder).1 := by
  -- both runs get as far as the write: all before it is the same
  have hmissing : (userHost.comesTo Session.files nestedArgs oneFile).1
      = .error (.io .notFound) := rfl
  have hfile : (userHost.comesTo Session.files nestedArgs fileForFolder).1
      = .error (.io .notADirectory) := rfl
  refine ⟨Session.worksOn _, agrees_fileForFolder, hmissing, hfile, ?_⟩
  rw [hmissing, hfile]
  intro heq
  cases heq

end Runs

end ApiProto.Command
