/-
  A profile file that comes to what flags come to.

  A start settles on a profile (`Settles`) if its arguments ask for that profile and nothing is
  wrong with it.  How the profile has come about makes no difference to the rest of a run
  (`SameButProfile.alike_of_settles`), and a profile of a file that lists no transforms is, but for
  its package, the one that flags give (`ofPackage_of_no_lists`).
-/
import ApiProto.Proofs.Profiles
import ApiProto.Proofs.Runs.Agreement

namespace ApiProto

/-! ## Profiles that list no transforms -/

theorem OrderedMap.get?_mapValues {α β γ : Type} [DecidableEq α] (f : α → β → γ)
    (m : OrderedMap α β) (k : α) : (m.mapValues f).get? k = (m.get? k).map (f k) := by
  unfold OrderedMap.get?
  rw [entries_mapValues]
  induction m.entries with
  | nil => rfl
  | cons e rest ih =>
      rw [List.map_cons, List.lookup_cons, List.lookup_cons]
      by_cases hk : k = e.1
      · rw [beq_iff_eq.mpr hk, hk]
        rfl
      · rw [beq_eq_false_iff_ne.mpr hk]
        exact ih

namespace ProfileDraft

/-- There is one mode, so only lists tell the transforms of two profiles apart. -/
theorem ofPackage_of_no_lists {d : ProfileDraft} (hlists : d.transforms = {}) (package : String) :
    { d.resolved with package } = Profile.ofPackage package := by
  have hmode : d.modeOf = .protobuf := by
    cases d.modeOf
    rfl
  rw [resolved, hlists, hmode]
  rfl

/-- The draft that is selected: that of a name, or the first one if no name is given. -/
inductive Selected (drafts : OrderedMap String ProfileDraft) : Option String → ProfileDraft → Prop
  | named {name : String} {d : ProfileDraft} (hget : drafts.get? name = some d) :
      Selected drafts (some name) d
  | first {d : ProfileDraft} {rest : List ProfileDraft} (hvalues : drafts.values = d :: rest) :
      Selected drafts none d

end ProfileDraft

namespace ProfileSet

variable {drafts : OrderedMap String ProfileDraft}

/-- A file that is accepted has the profiles of its drafts. -/
theorem eq_resolved_of_load {source : String} {profiles : ProfileSet}
    (hread : ProfileDraft.readAll source = .ok drafts) (hload : load source = .ok profiles) :
    profiles = drafts.mapValues fun _ d => d.resolved := by
  rw [load_eq hread] at hload
  by_cases hnil : drafts.entries = []
  · -- a file without profiles is not accepted
    rw [ofDrafts_of_nil hnil] at hload
    cases hload
  · rw [ofDrafts_eq_judge hnil] at hload
    cases hjudge : judge (suspects drafts) (drafts.mapValues fun _ d => d.resolved) with
    | error e =>
        rw [hjudge] at hload
        cases hload
    | ok ps =>
        obtain ⟨-, hresolved⟩ := judge_eq_ok_iff.mp hjudge
        rw [hjudge] at hload
        exact (Except.ok.inj hload).symm.trans hresolved.symm

theorem select_resolved {name : Option String} {d : ProfileDraft}
    (h : ProfileDraft.Selected drafts name d) :
    select (drafts.mapValues fun _ d => d.resolved) name = .ok d.resolved := by
  cases h with
  | named hget =>
      rw [select, OrderedMap.get?_mapValues, hget]
      rfl
  | first hvalues =>
      have hresolved : (drafts.mapValues fun _ d => d.resolved).values
          = drafts.values.map ProfileDraft.resolved := by
        rw [OrderedMap.values, OrderedMap.entries_mapValues, OrderedMap.values, List.map_map,
          List.map_map]
        rfl
      rw [select, hresolved, hvalues]
      rfl

end ProfileSet

namespace Command

variable {σ F : Type}

namespace Start

variable {x x' : Start F}

/-! ## Starts that settle on a profile -/

/-- The arguments ask for a profile with which nothing is wrong. -/
structure Settles (x : Start F) (p : Profile) : Prop where
  candidate : ∃ name, x.Candidate name p
  passes : ∀ stage ∈ Stage.ofProfile, x.Passes stage

theorem settles_own {package : String} (harg : x.args.profile = none)
    (hpackage : x.args.package = some package) (hvalid : Package.isValid package) :
    x.Settles (.ofPackage package) := by
  have hcandidate : x.Candidate commandLineProfile (.ofPackage package) := .own harg hpackage
  obtain ⟨hfile, htext, hselection⟩ := passes_of_profile_eq_none harg
  have hcheck := passes_package hcandidate (Profile.check_of_isValid hvalid _)
  exact ⟨⟨_, hcandidate⟩, Stage.forall_mem_ofProfile.mpr ⟨hfile, htext, hselection, hcheck⟩⟩

theorem settles_selected {path source : String} {profiles : ProfileSet} {p : Profile}
    (harg : x.args.profile = some path) (hread : x.read path = .ok source)
    (hload : ProfileSet.load source = .ok profiles)
    (hselect : profiles.select x.args.profileName = .ok p)
    (hvalid : Package.isValid (x.args.package.getD p.package)) :
    x.Settles { p with package := x.args.package.getD p.package } := by
  have hprofiles : x.Profiles profiles := ⟨harg, hread, hload⟩
  have hcandidate := Candidate.selected hprofiles hselect
  have hfile := passes_profileFile harg hread
  have htext := passes_profileText harg hread hload
  have hselection := passes_selection hprofiles hselect
  have hcheck := passes_package hcandidate (Profile.check_of_isValid hvalid _)
  exact ⟨⟨_, hcandidate⟩, Stage.forall_mem_ofProfile.mpr ⟨hfile, htext, hselection, hcheck⟩⟩

theorem Settles.candidate_of_settles {p : Profile} (h : x.Settles p) (h' : x'.Settles p)
    (name : String) (q : Profile) (hq : x.Candidate name q) : ∃ name', x'.Candidate name' q := by
  obtain ⟨_, hp⟩ := h.candidate
  obtain ⟨-, rfl⟩ := hp.unique hq
  exact h'.candidate

/-- It makes no difference in which way two starts settle on a profile. -/
theorem SameButProfile.alike_of_settles {p : Profile} (hsame : SameButProfile x x')
    (h : x.Settles p) (h' : x'.Settles p) : Alike x x' := by
  refine hsame.alike (fun stage hstage e => ?_) (h.candidate_of_settles h')
    (h'.candidate_of_settles h)
  exact iff_of_false (h.passes stage hstage e) (h'.passes stage hstage e)

end Start

/-! ## Runs -/

open Start

variable {files : σ → F} {h : Host (StateM σ)} {storage : Storage F}

/-- Runs that settle on the same profile from the same files come to the same. -/
theorem Host.comesTo_eq_of_settles (hworks : h.WorksOn storage files) {args args' : Args} {s : σ}
    {p : Profile} (hconfig : args.config = args'.config) (hinput : args.input = args'.input)
    (houtput : args.output = args'.output) (hp : (h.start storage files args s).Settles p)
    (hp' : (h.start storage files args' s).Settles p) :
    h.comesTo files args s = h.comesTo files args' s := by
  have hwrite : ∀ text, storage.writeText (files s) args.output text
      = storage.writeText (files s) args'.output text := by
    intro text
    rw [houtput]
  have hread : storage.readText (files s) args.input = storage.readText (files s) args'.input := by
    rw [hinput]
  have hsame : SameButProfile (h.start storage files args s) (h.start storage files args' s) :=
    { config := ⟨hconfig, fun _ _ => rfl, fun _ => rfl, fun _ _ => rfl⟩
      input := hread
      written_iff := fun text => by
        show (∃ after, storage.writeText (files s) args.output text = .ok after) ↔ _
        rw [hwrite]
        rfl }
  have hends := h.ends_comesTo hworks args s
  have hends' := h.ends_comesTo hworks args' s
  exact (hends.sameRun (hsame.alike_of_settles hp hp') hends').eq_of_write_eq rfl hwrite

/-- **A profile file that lists no transforms agrees with flags.**  If the profile that is selected
lists none, a run with the file and a package comes to the same as one with the package alone, in
its result as in the files after it; and so does a run with the file alone if the profile declares
that package itself. -/
theorem Host.run_profile_agrees (hworks : h.WorksOn storage files) (args : Args) (s : σ)
    {path source package : String} {drafts : OrderedMap String ProfileDraft}
    {profiles : ProfileSet} {d : ProfileDraft} (hprofile : args.profile = some path)
    (hread : storage.readText (files s) path = .ok source)
    (hdrafts : ProfileDraft.readAll source = .ok drafts)
    (hload : ProfileSet.load source = .ok profiles)
    (hselected : ProfileDraft.Selected drafts args.profileName d) (hlists : d.transforms = {})
    (hvalid : Package.isValid package) (name : Option String) :
    h.comesTo files { args with package := some package } s
        = h.comesTo files
          { args with profile := none, profileName := name, package := some package } s ∧
      (d.package = some package →
        h.comesTo files { args with package := none } s
          = h.comesTo files
            { args with profile := none, profileName := name, package := some package } s) := by
  have hselect : profiles.select args.profileName = .ok d.resolved := by
    rw [ProfileSet.eq_resolved_of_load hdrafts hload]
    exact ProfileSet.select_resolved hselected
  -- the flags settle on the profile of the package, and so has the file to do
  have hown : (h.start storage files
      { args with profile := none, profileName := name, package := some package } s).Settles
        (.ofPackage package) := settles_own rfl rfl hvalid
  refine ⟨Host.comesTo_eq_of_settles hworks rfl rfl rfl ?_ hown, fun hpackage =>
    Host.comesTo_eq_of_settles hworks rfl rfl rfl ?_ hown⟩
  · -- the package is replaced by the one that is given
    rw [← ProfileDraft.ofPackage_of_no_lists hlists]
    exact settles_selected hprofile hread hload hselect hvalid
  · -- the package is that of the file
    have hdeclared : d.resolved.package = package := by
      rw [ProfileDraft.resolved, hpackage]
      rfl
    rw [← ProfileDraft.ofPackage_of_no_lists hlists, ← hdeclared]
    exact settles_selected hprofile hread hload hselect (hdeclared ▸ hvalid)

/-- A profile with a package, before one that lists transforms. -/
def shopProfiles : String :=
  "\x7b\"shop\":\x7b\"options\":\x7b\"package\":\"shop.v1\"\x7d\x7d,"
    ++ "\"plain\":\x7b\"transforms\":\x7b\"modelName\":[]\x7d\x7d\x7d"

/-- A working folder with a definition file and a profile file. -/
def withProfiles : Session :=
  ⟨⟨["work"], [(["work", "api.json"], .file "{}".toUTF8),
    (["work", "profiles.json"], .file shopProfiles.toUTF8)]⟩, #[]⟩

theorem Host.run_profile_agrees_withProfiles :
    (Session.host none).WorksOn Files.storage Session.files ∧ Package.isValid "shop.v1" ∧
      (Session.host none).comesTo Session.files
          { input := "api.json", profile := some "profiles.json" } withProfiles
        = (Session.host none).comesTo Session.files
          { input := "api.json", package := some "shop.v1" } withProfiles := by
  have hworks := Session.worksOn none
  have hdrafts : ProfileDraft.readAll shopProfiles = .ok ⟨[("shop", { package := some "shop.v1" }),
      ("plain", { transforms := { model := some [] } })], by decide⟩ := rfl
  have hload : ∃ profiles, ProfileSet.load shopProfiles = .ok profiles := ⟨_, rfl⟩
  obtain ⟨profiles, hload⟩ := hload
  have hvalid : Package.isValid "shop.v1" := by decide
  obtain ⟨-, hdeclared⟩ := Host.run_profile_agrees hworks
    { input := "api.json", profile := some "profiles.json" } withProfiles rfl rfl hdrafts hload
    (.first rfl) rfl hvalid none
  exact ⟨hworks, hvalid, hdeclared rfl⟩

end Command

end ApiProto
