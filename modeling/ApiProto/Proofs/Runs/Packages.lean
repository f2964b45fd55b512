/-
  One grammar of packages at every entry.

  A package is looked at where a profile is checked, where a profile file is loaded and where a
  definition is rendered, and the same texts are refused everywhere (`Package.Judged`); only a profile
  file leaves an empty package for the caller to fill in.  A run checks the package of its profile
  before it has a definition to render (`Host.prepare`), so rendering has nothing left to refuse.
-/
import ApiProto.Proofs.Profiles
import ApiProto.Proofs.Runs.AllOrNothing

namespace ApiProto

/-! ## Checks -/

/-- A text is refused as the package of a profile: it is empty, or it is no package name. -/
inductive Package.Refused (package name : String) : ProfileError → Prop
  | missing (h : package = "") : Refused package name (.missingPackage name)
  | invalid (hne : package ≠ "") (h : ¬ IsName package.toList) :
      Refused package name (.invalidPackage name package)

theorem Profile.check_eq_ok_iff (name : String) {p : Profile} :
    p.check name = .ok () ↔ Package.IsName p.package.toList := by
  rw [← Package.isValid_iff]
  exact ⟨Profile.isValid_of_check, fun h => Profile.check_of_isValid h name⟩

theorem Profile.check_eq_error_iff {name : String} {p : Profile} {e : ProfileError} :
    p.check name = .error e ↔ Package.Refused p.package name e := by
  constructor
  · intro h
    rw [Profile.check] at h
    by_cases hempty : p.package = ""
    · rw [if_pos hempty] at h
      cases h
      exact .missing hempty
    · rw [if_neg hempty] at h
      by_cases hvalid : Package.isValid p.package
      · rw [if_pos hvalid] at h
        cases h
      · rw [if_neg hvalid] at h
        cases h
        exact .invalid hempty (mt Package.isValid_iff.mpr hvalid)
  · intro h
    cases h with
    | missing hempty => rw [Profile.check, if_pos hempty]
    | invalid hne hname =>
        rw [Profile.check, if_neg hne, if_neg (mt Package.isValid_iff.mp hname)]

/-- Rendering fails in the check of the package, and nowhere else. -/
theorem Definition.render_eq_error_iff {d : Definition} {p : Profile} {settings : Settings}
    {e : ProfileError} :
    d.render p settings = .error e ↔ Package.Refused p.package activeProfile e := by
  rw [← Profile.check_eq_error_iff, Definition.render]
  cases p.check activeProfile with
  | error e' => exact ⟨fun h => congrArg Except.error (Except.error.inj h),
      fun h => congrArg Except.error (Except.error.inj h)⟩
  | ok u => exact iff_of_false (fun h => by cases h) (fun h => by cases h)

theorem Definition.exists_render_eq_ok_iff {d : Definition} {p : Profile} {settings : Settings} :
    (∃ text, d.render p settings = .ok text) ↔ Package.IsName p.package.toList := by
  rw [← Profile.check_eq_ok_iff activeProfile, Definition.render]
  cases p.check activeProfile with
  | error e => exact iff_of_false (fun ⟨_, h⟩ => by cases h) (fun h => by cases h)
  | ok u => exact iff_of_true ⟨_, rfl⟩ rfl

/-! ## Profile files -/

/-- An error is that of a package. -/
def ProfileError.IsOfPackage : ProfileError → Prop
  | .missingPackage _ | .invalidPackage .. => True
  | .unsupportedMode .. | .unknownTransform .. | .notFound _ | .noProfiles => False

/-- What may be wrong with a profile before its package is looked at: its mode and its transforms. -/
def ProfileDraft.nameSuspects (name : String) (d : ProfileDraft) : List ProfileError :=
  d.mode.toList.map (.unsupportedMode name)
    ++ d.transforms.members.flatMap fun l => (l.2.getD []).map (.unknownTransform name l.1)

theorem ProfileDraft.suspects_eq (name : String) (d : ProfileDraft) :
    d.suspects name = d.nameSuspects name ++ d.package.toList.map (.invalidPackage name) := rfl

theorem ProfileDraft.not_isOfPackage {name : String} {d : ProfileDraft} {e : ProfileError}
    (h : e ∈ d.nameSuspects name) : ¬ e.IsOfPackage := by
  rcases List.mem_append.mp h with h | h
  · obtain ⟨mode, -, rfl⟩ := List.mem_map.mp h
    exact not_false
  · obtain ⟨l, -, h⟩ := List.mem_flatMap.mp h
    obtain ⟨transform, -, rfl⟩ := List.mem_map.mp h
    exact not_false

/-- The last of some suspects is the first fault if those before it are none. -/
theorem ProfileError.isFirstFault_append_singleton {es : List ProfileError} {x e : ProfileError}
    (h : e ∉ es) : e.IsFirstFault (es ++ [x]) ↔ (∀ b ∈ es, ¬ b.IsFault) ∧ x.IsFault ∧ e = x := by
  constructor
  · rintro ⟨before, after, hsplit, hfault, hbefore⟩
    rcases List.eq_nil_or_concat after with rfl | ⟨after, y, rfl⟩
    · obtain ⟨rfl, hx⟩ := List.append_inj' hsplit rfl
      obtain rfl := List.singleton_injective hx
      exact ⟨hbefore, hfault, rfl⟩
    · -- a fault with another suspect behind it is one of the first ones
      rw [List.concat_eq_append, ← List.cons_append, ← List.append_assoc] at hsplit
      obtain ⟨rfl, -⟩ := List.append_inj' hsplit rfl
      exact absurd (List.mem_append_right before List.mem_cons_self) h
  · rintro ⟨hes, hx, rfl⟩
    exact ⟨es, [], rfl, hx, hes⟩

/-- A profile of a file is refused for its package if that is neither empty nor a package name and
nothing else is wrong with the profile. -/
theorem ProfileDraft.resolve_eq_error_iff {name package : String} {d : ProfileDraft}
    {e : ProfileError} (hpackage : d.package = some package) (he : e.IsOfPackage) :
    d.resolve name = .error e ↔ (∀ f ∈ d.nameSuspects name, ¬ f.IsFault) ∧
      (package ≠ "" ∧ ¬ Package.IsName package.toList) ∧ e = .invalidPackage name package := by
  rw [resolve_eq_judge, judge_eq_error_iff, suspects_eq, hpackage, Option.toList_some,
    List.map_singleton]
  exact ProfileError.isFirstFault_append_singleton fun h => not_isOfPackage h he

theorem ProfileDraft.resolve_ne_of_package_eq_none {name : String} {d : ProfileDraft}
    {e : ProfileError} (hpackage : d.package = none) (he : e.IsOfPackage) :
    d.resolve name ≠ .error e := by
  intro h
  rw [resolve_eq_judge, judge_eq_error_iff, suspects_eq, hpackage, Option.toList_none,
    List.map_nil, List.append_nil] at h
  obtain ⟨before, after, hsplit, -, -⟩ := h
  have hmem : e ∈ d.nameSuspects name := by
    rw [hsplit]
    exact List.mem_append_right before List.mem_cons_self
  exact not_isOfPackage hmem he

/-- An error of a package names the profile and the package that are at fault. -/
theorem ProfileDraft.package_of_resolve_eq_error {name' name package : String} {d : ProfileDraft}
    (h : d.resolve name' = .error (.invalidPackage name package)) :
    name' = name ∧ d.package = some package := by
  have he : (ProfileError.invalidPackage name package).IsOfPackage := trivial
  cases hpackage : d.package with
  | none => exact absurd h (resolve_ne_of_package_eq_none hpackage he)
  | some package' =>
      obtain ⟨-, -, heq⟩ := (resolve_eq_error_iff hpackage he).mp h
      cases heq
      exact ⟨rfl, rfl⟩

section Traversal

variable {α β γ ε : Type} {f : α → β → Except ε γ} {k : α} {v : β} {rest : List (α × β)}

theorem OrderedMap.traverseEntries_cons_of_error {e : ε} (h : f k v = .error e) :
    traverseEntries f ((k, v) :: rest) = .error e := by
  rw [traverseEntries, h]

theorem OrderedMap.traverseEntries_cons_of_ok {w : γ} (h : f k v = .ok w) {e : ε} :
    traverseEntries f ((k, v) :: rest) = .error e ↔ traverseEntries f rest = .error e := by
  rw [traverseEntries, h]
  cases traverseEntries f rest with
  | error e' => exact Iff.rfl
  | ok ws => exact iff_of_false (fun h => by cases h) (fun h => by cases h)

/-- A traversal fails as the first entry that fails. -/
theorem OrderedMap.traverseEntries_eq_error_iff {es : List (α × β)} {e : ε} :
    traverseEntries f es = .error e ↔ ∃ before k v after, es = before ++ (k, v) :: after ∧
      (∀ x ∈ before, ∃ w, f x.1 x.2 = .ok w) ∧ f k v = .error e := by
  constructor
  · intro h
    induction es with
    | nil => cases h
    | cons x rest ih =>
        cases hx : f x.1 x.2 with
        | error e' =>
            rw [traverseEntries_cons_of_error hx] at h
            rw [Except.error.inj h] at hx
            exact ⟨[], x.1, x.2, rest, rfl, List.forall_mem_nil _, hx⟩
        | ok w =>
            rw [traverseEntries_cons_of_ok hx] at h
            obtain ⟨before, k, v, after, rfl, hbefore, hfails⟩ := ih h
            exact ⟨x :: before, k, v, after, rfl,
              List.forall_mem_cons.mpr ⟨⟨w, hx⟩, hbefore⟩, hfails⟩
  · rintro ⟨before, k, v, after, rfl, hbefore, hfails⟩
    induction before with
    | nil => exact traverseEntries_cons_of_error hfails
    | cons x before ih =>
        obtain ⟨⟨w, hw⟩, hbefore⟩ := List.forall_mem_cons.mp hbefore
        rw [List.cons_append, traverseEntries_cons_of_ok hw]
        exact ih hbefore

end Traversal

namespace ProfileSet

/-- A file is refused for a package if that is so of its first profile with a fault. -/
theorem load_eq_error_iff {source : String} {drafts : OrderedMap String ProfileDraft}
    {e : ProfileError} (hread : ProfileDraft.readAll source = .ok drafts) (he : e.IsOfPackage) :
    load source = .error (.profile e) ↔ ∃ before name d after,
      drafts.entries = before ++ (name, d) :: after ∧
        (∀ x ∈ before, ∃ p, x.2.resolve x.1 = .ok p) ∧ d.resolve name = .error e := by
  have hload : load source = .error (.profile e) ↔ ofDrafts drafts = .error e := by
    rw [load_eq hread]
    cases ofDrafts drafts with
    | error e' => simp [Except.mapError]
    | ok ps => simp [Except.mapError]
  rw [hload, ofDrafts]
  by_cases hempty : drafts.isEmpty
  · -- a file without profiles is refused, but not for a package
    rw [if_pos hempty]
    refine iff_of_false (fun h => ?_) ?_
    · cases h
      exact he
    · rintro ⟨before, name, d, after, hsplit, -⟩
      rw [OrderedMap.isEmpty, hsplit, List.isEmpty_iff] at hempty
      exact List.append_ne_nil_of_right_ne_nil _ (List.cons_ne_nil _ _) hempty
  · rw [if_neg hempty, OrderedMap.traverse_eq_error_iff, OrderedMap.traverseEntries_eq_error_iff]

/-- A file is never refused for a package that is missing. -/
theorem load_ne_missingPackage (source name : String) :
    load source ≠ .error (.profile (.missingPackage name)) := by
  cases hread : ProfileDraft.readAll source with
  | error fault =>
      rw [load, hread]
      exact fun h => by cases h
  | ok drafts =>
      have he : (ProfileError.missingPackage name).IsOfPackage := trivial
      rw [ne_eq, load_eq_error_iff hread he]
      rintro ⟨before, name', d, after, -, -, hfails⟩
      cases hpackage : d.package with
      | none => exact ProfileDraft.resolve_ne_of_package_eq_none hpackage he hfails
      | some package =>
          obtain ⟨-, -, h⟩ := (ProfileDraft.resolve_eq_error_iff hpackage he).mp hfails
          cases h

end ProfileSet

/-! ## Runs -/

namespace Command

section Host

variable {m : Type → Type} [Monad m]

/-- What a run has when it comes to rendering. -/
structure Prepared where
  settings : Settings
  profile : Profile
  definition : Definition

/-- A run up to rendering: the profile is resolved, and the definition is loaded. -/
def Host.prepare (h : Host m) (args : Args) : ExceptT RunError m Prepared := do
  h.log ⟨.info, "Generating proto",
    [LogRecord.field "input_path" args.input, LogRecord.field "output_path" args.output]⟩
  let settings ← h.loadSettings args.config
  let source ← h.load args.input
  let profile ← h.resolveProfile args
  let definition ← h.parse source
  return ⟨settings, profile, definition⟩

/-- The rest of a run. -/
def Host.finish (h : Host m) (args : Args) (p : Prepared) : ExceptT RunError m Unit := do
  let text ← h.render p.definition p.profile p.settings
  match ← h.writeText args.output text with
  | .error e => throw (.io e)
  | .ok () =>
    h.log ⟨.info, "Proto exported successfully", [LogRecord.field "output_file" args.output]⟩

theorem Host.run_eq_prepare_finish [LawfulMonad m] (h : Host m) (args : Args) :
    h.run args = h.prepare args >>= h.finish args := by
  simp only [Host.prepare, bind_assoc, pure_bind]
  rfl

end Host

variable {σ α β : Type}

/-- Whenever a step has a result, it is as described. -/
def Gives (k : ExceptT RunError (StateM σ) α) (ok : α → Prop) : Prop :=
  ∀ s a s', k.run.run s = (.ok a, s') → ok a

theorem Gives.pure {a : α} {ok : α → Prop} (h : ok a) :
    Gives (Pure.pure a : ExceptT RunError (StateM σ) α) ok := by
  intro s b s' hrun
  obtain ⟨hb, -⟩ := Prod.mk.inj hrun
  rwa [← Except.ok.inj hb]

theorem Gives.throw (e : RunError) (ok : α → Prop) :
    Gives (MonadExcept.throw e : ExceptT RunError (StateM σ) α) ok := by
  intro s a s' hrun
  obtain ⟨ha, -⟩ := Prod.mk.inj hrun
  cases ha

/-- What a step gives is known to the one behind it. -/
theorem Gives.bind {k : ExceptT RunError (StateM σ) α} {next : α → ExceptT RunError (StateM σ) β}
    {found : α → Prop} {ok : β → Prop} (hk : Gives k found)
    (hnext : ∀ a, found a → Gives (next a) ok) : Gives (k >>= next) ok := by
  intro s b s' hrun
  rcases hstep : k.run.run s with ⟨e | a, s₁⟩
  · -- a step that fails has no result to pass on
    rw [run_bind_of_error next hstep] at hrun
    obtain ⟨hb, -⟩ := Prod.mk.inj hrun
    cases hb
  · rw [run_bind_of_ok next hstep] at hrun
    exact hnext a (hk s a s₁ hstep) s₁ b s' hrun

/-- A step in front makes no difference if nothing about it is needed. -/
theorem Gives.after {k : ExceptT RunError (StateM σ) α} {next : α → ExceptT RunError (StateM σ) β}
    {ok : β → Prop} (hnext : ∀ a, Gives (next a) ok) : Gives (k >>= next) ok := by
  have htrue : Gives k fun _ => True := fun _ _ _ _ => trivial
  exact htrue.bind fun a _ => hnext a

theorem gives_liftProfile {r : Except ProfileError α} {ok : α → Prop} (h : ∀ a, r = .ok a → ok a) :
    Gives (liftProfile r : ExceptT RunError (StateM σ) α) ok := by
  cases r with
  | ok a => exact .pure (h a rfl)
  | error e => exact .throw _ ok

/-- A profile that comes out of its check has a package name as its package. -/
theorem isName_of_checked {name : String} {p q : Profile}
    (h : (do p.check name; return p : Except ProfileError Profile) = .ok q) :
    Package.IsName q.package.toList := by
  cases hcheck : p.check name with
  | error e =>
      rw [hcheck] at h
      cases h
  | ok u =>
      rw [hcheck] at h
      obtain rfl : p = q := Except.ok.inj h
      exact (Profile.check_eq_ok_iff name).mp hcheck

variable (h : Host (StateM σ)) (args : Args)

theorem gives_resolveProfile :
    Gives (h.resolveProfile args) fun p => Package.IsName p.package.toList := by
  rw [Host.resolveProfile]
  cases args.profile with
  | none =>
      have hown : Gives (liftProfile (ownProfile args.package) : ExceptT RunError (StateM σ) Profile)
          fun p => Package.IsName p.package.toList := by
        refine gives_liftProfile fun q hq => ?_
        cases hpackage : args.package with
        | none =>
            rw [hpackage] at hq
            cases hq
        | some package =>
            rw [hpackage] at hq
            exact isName_of_checked hq
      -- a name of a profile that has no use here is only reported
      cases args.profileName.isSome with
      | true => exact .after fun _ => hown
      | false => exact hown
  | some path =>
      -- whatever is selected, the last step is the check of it
      refine .after fun _ => .after fun source => .after fun _ => ?_
      cases ProfileSet.load source with
      | error e => exact .throw _ _
      | ok profiles =>
          refine .after fun p => .after fun _ => gives_liftProfile fun q hq => ?_
          exact isName_of_checked hq

theorem gives_prepare : Gives (h.prepare args) fun p => Package.IsName p.profile.package.toList := by
  refine .after fun _ => .after fun settings => .after fun source => ?_
  refine .bind (gives_resolveProfile h args) fun p hp => .after fun d => ?_
  exact .pure hp

theorem run_render_of_isName {p : Profile} (hname : Package.IsName p.package.toList)
    (d : Definition) (settings : Settings) (s : σ) :
    ∃ text s', d.render p settings = .ok text ∧
      (h.render d p settings).run.run s = (.ok text, s') := by
  obtain ⟨text, htext⟩ := Definition.exists_render_eq_ok_iff.mpr hname
  refine ⟨text, ((h.logAll (d.renderRecords p settings)).run s).2, htext, ?_⟩
  rw [Host.render, run_bind_of_ok _ (run_lift (h.logAll (d.renderRecords p settings)) s), htext]
  rfl

end Command

/-! ## Every entry -/

/-- What becomes of a text as a package, wherever one is looked at. -/
structure Package.Judged (package : String) : Prop where
  check_ok : ∀ name mode transforms,
    Profile.check name ⟨mode, package, transforms⟩ = .ok () ↔ IsName package.toList
  check_error : ∀ name mode transforms e,
    Profile.check name ⟨mode, package, transforms⟩ = .error e ↔ Refused package name e
  render_ok : ∀ d mode transforms settings,
    (∃ text, Definition.render d ⟨mode, package, transforms⟩ settings = .ok text) ↔
      IsName package.toList
  render_error : ∀ d mode transforms settings e,
    Definition.render d ⟨mode, package, transforms⟩ settings = .error e ↔
      Refused package activeProfile e
  /-- A profile of a file that declares the package is refused for it unless it is empty or a package
  name.  What else is wrong with the profile comes first. -/
  resolve_error : ∀ name (d : ProfileDraft) (e : ProfileError), d.package = some package →
    e.IsOfPackage → (d.resolve name = .error e ↔ (∀ f ∈ d.nameSuspects name, ¬ f.IsFault) ∧
      (package ≠ "" ∧ ¬ IsName package.toList) ∧ e = .invalidPackage name package)
  /-- A file is refused for the package if its first profile that is refused is refused for it. -/
  load_error : ∀ source drafts name, ProfileDraft.readAll source = .ok drafts →
    (ProfileSet.load source = .error (.profile (.invalidPackage name package)) ↔
      ∃ before d after, drafts.entries = before ++ (name, d) :: after ∧
        (∀ x ∈ before, ∃ p, x.2.resolve x.1 = .ok p) ∧ d.package = some package ∧
        (∀ f ∈ d.nameSuspects name, ¬ f.IsFault) ∧ package ≠ "" ∧ ¬ IsName package.toList)

theorem Package.judged (package : String) : Package.Judged package where
  check_ok name _ _ := Profile.check_eq_ok_iff name
  check_error _ _ _ _ := Profile.check_eq_error_iff
  render_ok _ _ _ _ := Definition.exists_render_eq_ok_iff
  render_error _ _ _ _ _ := Definition.render_eq_error_iff
  resolve_error _ _ _ hpackage he := ProfileDraft.resolve_eq_error_iff hpackage he
  load_error source drafts name hread := by
    have he : (ProfileError.invalidPackage name package).IsOfPackage := trivial
    rw [ProfileSet.load_eq_error_iff hread he]
    constructor
    · rintro ⟨before, name', d, after, hsplit, hbefore, hfails⟩
      obtain ⟨rfl, hpackage⟩ := ProfileDraft.package_of_resolve_eq_error hfails
      obtain ⟨hnames, ⟨hne, hname⟩, -⟩ :=
        (ProfileDraft.resolve_eq_error_iff hpackage he).mp hfails
      exact ⟨before, d, after, hsplit, hbefore, hpackage, hnames, hne, hname⟩
    · rintro ⟨before, d, after, hsplit, hbefore, hpackage, hnames, hne, hname⟩
      exact ⟨before, name, d, after, hsplit, hbefore,
        (ProfileDraft.resolve_eq_error_iff hpackage he).mpr ⟨hnames, ⟨hne, hname⟩, rfl⟩⟩

/-- **One grammar of packages at every entry.**  A text passes the check of a profile, and is rendered
with, exactly if it is a package name; otherwise it is said to be missing if it is empty, and to be
invalid if not.  A profile file is never refused for an empty package.  In a run the check of
rendering comes after that of the profile and never fails, so whatever has a profile and a definition
is rendered. -/
theorem Package.judged_alike :
    (∀ package, Package.Judged package) ∧
      (∀ source name, ProfileSet.load source ≠ .error (.profile (.missingPackage name))) ∧
      ∀ {σ : Type} (h : Command.Host (StateM σ)) (args : Command.Args),
        h.run args = h.prepare args >>= h.finish args ∧
          (∀ s p s', (h.resolveProfile args).run.run s = (.ok p, s') →
            p.check activeProfile = .ok ()) ∧
          ∀ s p s', (h.prepare args).run.run s = (.ok p, s') →
            ∃ text s'', p.definition.render p.profile p.settings = .ok text ∧
              (h.render p.definition p.profile p.settings).run.run s' = (.ok text, s'') := by
  refine ⟨Package.judged, ProfileSet.load_ne_missingPackage, fun h args => ⟨?_, ?_, ?_⟩⟩
  · exact h.run_eq_prepare_finish args
  · intro s p s' hrun
    exact (Profile.check_eq_ok_iff activeProfile).mpr (Command.gives_resolveProfile h args s p s' hrun)
  · intro s p s' hrun
    exact Command.run_render_of_isName h (Command.gives_prepare h args s p s' hrun) _ _ s'

theorem Package.judged_alike_ontoInput :
    IsName "shop.v1".toList ∧ ¬ IsName "shop..v1".toList ∧
      (∀ d settings, Definition.render d (.ofPackage "shop..v1") settings
        = .error (.invalidPackage activeProfile "shop..v1")) ∧
      ∃ p s, ((Command.Session.host none).prepare Command.ontoInput).run.run Command.oneFile
          = (.ok p, s) ∧
        ∃ text, p.definition.render p.profile p.settings = .ok text := by
  obtain ⟨hjudged, -, hruns⟩ := Package.judged_alike
  have hname : IsName "shop.v1".toList :=
    ((hjudged "shop.v1").check_ok activeProfile .protobuf Mode.protobuf.defaultTransforms).mp
      (by decide +kernel)
  have hrefused : Refused "shop..v1" activeProfile (.invalidPackage activeProfile "shop..v1") :=
    ((hjudged "shop..v1").check_error activeProfile .protobuf Mode.protobuf.defaultTransforms _).mp
      (by decide +kernel)
  have hnoName : ¬ IsName "shop..v1".toList := by
    cases hrefused with
    | invalid _ h => exact h
  refine ⟨hname, hnoName, fun d settings => ?_, ?_⟩
  · exact ((hjudged "shop..v1").render_error d _ _ settings _).mpr hrefused
  · obtain ⟨-, -, hrenders⟩ := hruns (Command.Session.host none) Command.ontoInput
    obtain ⟨text, -, hrender, -⟩ := hrenders Command.oneFile _ _ rfl
    exact ⟨_, _, rfl, text, hrender⟩

end ApiProto
