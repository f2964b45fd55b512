/-
  A profile file gives every profile, or the first fault.

  `ProfileDraft.suspects` lists what may be wrong with a profile, in the order in which it is looked
  at, and `ProfileError.IsFault` says what of it is wrong.  Each step that resolves a profile comes
  to `judge`: the first fault of its suspects, or else a value that is read off the profile without
  regard to faults.  Two steps come to the suspects of both (`judge_bind`), so the file as a whole
  comes to those of all its profiles.
-/
import ApiProto.LoadError
import ApiProto.Proofs.Identifiers
import Mathlib.Data.List.Forall2

namespace ApiProto

/-! ## Faults -/

/-- A mode, a transform or a package that a profile names is none. -/
def ProfileError.IsFault : ProfileError → Prop
  | .unsupportedMode _ mode => ∀ m : Mode, m.name ≠ mode
  | .unknownTransform _ _ transform => ∀ t : Transform, t.name ≠ transform
  | .invalidPackage _ package => package ≠ "" ∧ ¬ Package.IsName package.toList
  | .missingPackage _ | .notFound _ | .noProfiles => False

/-- Whether what a profile names is none. -/
def ProfileError.isFault : ProfileError → Bool
  | .unsupportedMode _ mode => (Mode.ofName? mode).isNone
  | .unknownTransform _ _ transform => (Transform.ofName? transform).isNone
  | .invalidPackage _ package => package != "" && !Package.isValid package
  | .missingPackage _ | .notFound _ | .noProfiles => false

/-- The lists of a profile, with the members that declare them. -/
def TransformNames.members (t : TransformNames) : List (String × Option (List String)) :=
  [("serviceName", t.service), ("operationName", t.operation), ("parameterName", t.parameter),
    ("modelName", t.model), ("propertyName", t.property)]

/-- What may be wrong with a profile: its mode, each name of its five lists, and its package. -/
def ProfileDraft.suspects (name : String) (d : ProfileDraft) : List ProfileError :=
  d.mode.toList.map (.unsupportedMode name)
    ++ (d.transforms.members.flatMap fun l => (l.2.getD []).map (.unknownTransform name l.1))
    ++ d.package.toList.map (.invalidPackage name)

/-- What may be wrong with the profiles of a file, one profile after the other. -/
def ProfileSet.suspects (drafts : OrderedMap String ProfileDraft) : List ProfileError :=
  drafts.entries.flatMap fun e => e.2.suspects e.1

/-- An error is the first fault among suspects. -/
def ProfileError.IsFirstFault (suspects : List ProfileError) (e : ProfileError) : Prop :=
  ∃ before after, suspects = before ++ e :: after ∧ e.IsFault ∧ ∀ b ∈ before, ¬ b.IsFault

/-! ## Profiles of drafts -/

/-- A chain is the listed one, transform by transform, or the default if none is listed. -/
def IsChain (names : Option (List String)) (default chain : List Transform) : Prop :=
  match names with
  | none => chain = default
  | some names => chain.map Transform.name = names

/-- A profile is that of a draft. -/
structure ProfileDraft.ResolvesTo (d : ProfileDraft) (p : Profile) : Prop where
  mode : p.mode.name = d.mode.getD Mode.protobuf.name
  service : IsChain d.transforms.service p.mode.defaultTransforms.service p.transforms.service
  operation : IsChain d.transforms.operation p.mode.defaultTransforms.operation
    p.transforms.operation
  parameter : IsChain d.transforms.parameter p.mode.defaultTransforms.parameter
    p.transforms.parameter
  model : IsChain d.transforms.model p.mode.defaultTransforms.model p.transforms.model
  property : IsChain d.transforms.property p.mode.defaultTransforms.property p.transforms.property
  package : p.package = d.package.getD ""
  /-- Every package that is there is a package name. -/
  valid : p.package = "" ∨ Package.IsName p.package.toList

/-! ## Names of modes and transforms -/

theorem Mode.ofName?_eq_none_iff {s : String} : Mode.ofName? s = none ↔ ∀ m : Mode, m.name ≠ s := by
  unfold Mode.ofName?
  constructor
  · intro h m hm
    cases m
    have hs : s = "protobuf" := hm.symm
    rw [if_pos hs] at h
    cases h
  · intro h
    exact if_neg fun heq => h .protobuf heq.symm

theorem Mode.name_of_ofName? {s : String} {m : Mode} (h : Mode.ofName? s = some m) : m.name = s := by
  unfold Mode.ofName? at h
  obtain ⟨rfl, hm⟩ := Option.ite_none_right_eq_some.mp h
  cases hm
  rfl

theorem Transform.name_of_ofName? {s : String} {t : Transform} (h : Transform.ofName? s = some t) :
    t.name = s := by
  simpa using List.find?_some h

theorem Transform.ofName?_eq_none_iff {s : String} :
    Transform.ofName? s = none ↔ ∀ t : Transform, t.name ≠ s := by
  constructor
  · rintro h t rfl
    rw [Transform.ofName?_name] at h
    cases h
  · intro h
    cases hs : Transform.ofName? s with
    | none => rfl
    | some t => exact absurd (Transform.name_of_ofName? hs) (h t)

theorem ProfileError.isFault_iff {e : ProfileError} : e.isFault ↔ e.IsFault := by
  cases e with
  | unsupportedMode profile mode =>
      rw [isFault, Option.isNone_iff_eq_none, Mode.ofName?_eq_none_iff, IsFault]
  | unknownTransform profile member transform =>
      rw [isFault, Option.isNone_iff_eq_none, Transform.ofName?_eq_none_iff, IsFault]
  | invalidPackage profile package =>
      rw [IsFault, ← Package.isValid_iff]
      simp [isFault]
  | missingPackage profile => exact iff_of_false Bool.false_ne_true not_false
  | notFound profile => exact iff_of_false Bool.false_ne_true not_false
  | noProfiles => exact iff_of_false Bool.false_ne_true not_false

/-! ## Judging suspects -/

section Judge

variable {α β : Type}

/-- The first fault among suspects, or a value if there is none. -/
def judge (suspects : List ProfileError) (a : α) : Except ProfileError α :=
  match suspects.find? ProfileError.isFault with
  | some e => .error e
  | none => .ok a

variable {es fs : List ProfileError} {a : α}

theorem judge_cons_of_isFault {e : ProfileError} (h : e.isFault) : judge (e :: es) a = .error e := by
  rw [judge, List.find?_cons_of_pos h]

theorem judge_cons_of_not_isFault {e : ProfileError} (h : ¬ e.isFault) :
    judge (e :: es) a = judge es a := by
  rw [judge, List.find?_cons_of_neg h]
  rfl

/-- The suspects of a second step come behind those of the first. -/
theorem judge_bind (es : List ProfileError) {f : α → Except ProfileError β} {b : β}
    (h : f a = judge fs b) : (judge es a >>= f) = judge (es ++ fs) b := by
  unfold judge at h ⊢
  rw [List.find?_append]
  cases es.find? ProfileError.isFault with
  | some e => rfl
  | none => exact h

theorem judge_map {f : α → β} : (judge es a >>= fun a => .ok (f a)) = judge es (f a) := by
  have hnone : Except.ok (f a) = judge [] (f a) := rfl
  have hbind := judge_bind es (f := fun a => .ok (f a)) hnone
  rwa [List.append_nil] at hbind

theorem judge_eq_error_iff {e : ProfileError} :
    judge es a = .error e ↔ e.IsFirstFault es := by
  have hfind : judge es a = .error e ↔ es.find? ProfileError.isFault = some e := by
    unfold judge
    cases es.find? ProfileError.isFault <;> simp
  rw [hfind, List.find?_eq_some_iff_append]
  simp only [ProfileError.isFault_iff, Bool.not_eq_true', ← Bool.not_eq_true,
    ProfileError.IsFirstFault]
  constructor
  · rintro ⟨he, before, after, hes, hbefore⟩
    exact ⟨before, after, hes, he, hbefore⟩
  · rintro ⟨before, after, hes, he, hbefore⟩
    exact ⟨he, before, after, hes, hbefore⟩

theorem judge_eq_ok_iff {b : α} : judge es a = .ok b ↔ (∀ e ∈ es, ¬ e.IsFault) ∧ a = b := by
  have hfind : judge es a = .ok b ↔ es.find? ProfileError.isFault = none ∧ a = b := by
    unfold judge
    cases es.find? ProfileError.isFault <;> simp
  rw [hfind, List.find?_eq_none]
  simp only [ProfileError.isFault_iff]

/-- There is an error exactly if some suspect is a fault. -/
theorem exists_judge_eq_error_iff : (∃ e, judge es a = .error e) ↔ ∃ e ∈ es, e.IsFault := by
  have hok : (∃ e, judge es a = .error e) ↔ judge es a ≠ .ok a := by
    unfold judge
    cases es.find? ProfileError.isFault <;> simp
  rw [hok, ne_eq, judge_eq_ok_iff]
  simp

end Judge

/-! ## Resolving -/

namespace ProfileDraft

/-- The chain of the transforms that are known, or the default if none is listed. -/
def chainOf (names : Option (List String)) (default : List Transform) : List Transform :=
  match names with
  | none => default
  | some names => names.filterMap Transform.ofName?

/-- The chains of a profile, whatever is wrong with them. -/
def chains (t : TransformNames) (default : Transforms) : Transforms where
  service := chainOf t.service default.service
  operation := chainOf t.operation default.operation
  parameter := chainOf t.parameter default.parameter
  model := chainOf t.model default.model
  property := chainOf t.property default.property

/-- The mode of a profile, whatever is wrong with it. -/
def modeOf (d : ProfileDraft) : Mode := (d.mode.bind Mode.ofName?).getD .protobuf

/-- The profile of a draft, whatever is wrong with it. -/
def resolved (d : ProfileDraft) : Profile where
  mode := d.modeOf
  package := d.package.getD ""
  transforms := chains d.transforms d.modeOf.defaultTransforms

section Steps

variable (name : String)

theorem resolveMode_eq_judge (d : ProfileDraft) :
    resolveMode name d.mode = judge (d.mode.toList.map (.unsupportedMode name)) d.modeOf := by
  unfold resolveMode modeOf
  cases d.mode with
  | none => rfl
  | some s =>
      rw [Option.toList_some, List.map_singleton, Option.bind_some]
      dsimp only
      cases hs : Mode.ofName? s with
      | none =>
          rw [judge_cons_of_isFault (by rw [ProfileError.isFault, hs]; rfl)]
      | some m =>
          rw [judge_cons_of_not_isFault (by rw [ProfileError.isFault, hs]; exact Bool.false_ne_true)]
          rfl

theorem resolveNames_eq_judge (member : String) (names : List String) :
    resolveNames name member names
      = judge (names.map (.unknownTransform name member)) (names.filterMap Transform.ofName?) := by
  induction names with
  | nil => rfl
  | cons s rest ih =>
      rw [resolveNames, List.map_cons]
      cases hs : Transform.ofName? s with
      | none =>
          rw [judge_cons_of_isFault (by rw [ProfileError.isFault, hs]; rfl)]
      | some t =>
          rw [judge_cons_of_not_isFault (by rw [ProfileError.isFault, hs]; exact Bool.false_ne_true),
            List.filterMap_cons_some hs]
          dsimp only
          rw [ih]
          exact judge_map

theorem resolveChain_eq_judge (member : String) (names : Option (List String))
    (default : List Transform) :
    resolveChain name member names default
      = judge ((names.getD []).map (.unknownTransform name member)) (chainOf names default) := by
  cases names with
  | none => rfl
  | some names => exact resolveNames_eq_judge name member names

theorem resolveTransforms_eq_judge (t : TransformNames) (default : Transforms) :
    resolveTransforms name t default
      = judge (t.members.flatMap fun l => (l.2.getD []).map (.unknownTransform name l.1))
        (chains t default) := by
  unfold resolveTransforms
  simp only [resolveChain_eq_judge]
  -- the five lists one after the other, and nothing behind them
  exact judge_bind _ (judge_bind _ (judge_bind _ (judge_bind _ (judge_bind _ rfl))))

/-- The check of the package, which may be left out, looks at the last suspect. -/
theorem checkPackage_eq_judge (d : ProfileDraft) :
    (if d.resolved.package = "" then .ok d.resolved
      else d.resolved.check name >>= fun _ => .ok d.resolved)
      = judge (d.package.toList.map (.invalidPackage name)) d.resolved := by
  cases hd : d.package with
  | none =>
      have hempty : d.resolved.package = "" := by rw [resolved, hd]; rfl
      rw [if_pos hempty]
      rfl
  | some package =>
      have heq : d.resolved.package = package := by rw [resolved, hd]; rfl
      rw [Profile.check, heq, Option.toList_some, List.map_singleton]
      by_cases hempty : package = ""
      · -- an empty package is no fault of the file: the caller may fill it in
        rw [if_pos hempty, judge_cons_of_not_isFault (by simp [ProfileError.isFault, hempty])]
        rfl
      · rw [if_neg hempty, if_neg hempty]
        by_cases hvalid : Package.isValid package
        · rw [if_pos hvalid, judge_cons_of_not_isFault (by simp [ProfileError.isFault, hvalid])]
          rfl
        · rw [if_neg hvalid,
            judge_cons_of_isFault (by simp [ProfileError.isFault, hempty, hvalid])]
          rfl

theorem resolve_eq_judge (d : ProfileDraft) : d.resolve name = judge (d.suspects name) d.resolved := by
  -- the steps are put together from the last one on, each with those behind it
  have hrest := judge_bind
    (d.transforms.members.flatMap fun l => (l.2.getD []).map (.unknownTransform name l.1))
    (f := fun transforms =>
      let p : Profile := ⟨d.modeOf, d.package.getD "", transforms⟩
      if p.package = "" then .ok p else p.check name >>= fun _ => .ok p)
    (a := chains d.transforms d.modeOf.defaultTransforms) (checkPackage_eq_judge name d)
  rw [← resolveTransforms_eq_judge] at hrest
  have hall := judge_bind (d.mode.toList.map (.unsupportedMode name)) (a := d.modeOf)
    (f := fun mode => resolveTransforms name d.transforms mode.defaultTransforms >>= fun transforms =>
      let p : Profile := ⟨mode, d.package.getD "", transforms⟩
      if p.package = "" then .ok p else p.check name >>= fun _ => .ok p) hrest
  rw [← resolveMode_eq_judge, ← List.append_assoc] at hall
  exact hall

end Steps

end ProfileDraft

/-! ## Files -/

namespace ProfileSet

open ProfileDraft

theorem traverseEntries_resolve (es : List (String × ProfileDraft)) :
    OrderedMap.traverseEntries ProfileDraft.resolve es
      = judge (es.flatMap fun e => e.2.suspects e.1) (es.map fun e => (e.1, e.2.resolved)) := by
  induction es with
  | nil => rfl
  | cons e rest ih =>
      have hcons : OrderedMap.traverseEntries ProfileDraft.resolve (e :: rest)
          = e.2.resolve e.1 >>= fun p =>
              OrderedMap.traverseEntries ProfileDraft.resolve rest >>= fun ps =>
                .ok ((e.1, p) :: ps) := by
        rw [OrderedMap.traverseEntries]
        cases e.2.resolve e.1 with
        | error _ => rfl
        | ok p => cases OrderedMap.traverseEntries ProfileDraft.resolve rest <;> rfl
      rw [hcons, resolve_eq_judge, ih, List.flatMap_cons]
      exact judge_bind _ judge_map

theorem ofDrafts_eq_judge {drafts : OrderedMap String ProfileDraft} (h : drafts.entries ≠ []) :
    ofDrafts drafts = judge (suspects drafts) (drafts.mapValues fun _ d => d.resolved) := by
  have hne : drafts.isEmpty = false := List.isEmpty_eq_false_iff.mpr h
  rw [ofDrafts, hne]
  show drafts.traverse ProfileDraft.resolve = _
  have hentries := traverseEntries_resolve drafts.entries
  cases hjudge : judge (suspects drafts) (drafts.mapValues fun _ d => d.resolved) with
  | error e =>
      rw [OrderedMap.traverse_eq_error_iff, hentries, judge_eq_error_iff]
      exact judge_eq_error_iff.mp hjudge
  | ok ps =>
      obtain ⟨hsound, rfl⟩ := judge_eq_ok_iff.mp hjudge
      rw [OrderedMap.traverse_eq_ok_iff, hentries, judge_eq_ok_iff]
      exact ⟨hsound, rfl⟩

end ProfileSet

/-! ## Profiles without a fault -/

theorem isChain_chainOf {names : Option (List String)}
    (h : ∀ s ∈ names.getD [], ¬ ∀ t : Transform, t.name ≠ s) (default : List Transform) :
    IsChain names default (ProfileDraft.chainOf names default) := by
  cases names with
  | none => rfl
  | some names =>
      show (names.filterMap Transform.ofName?).map Transform.name = names
      induction names with
      | nil => rfl
      | cons s rest ih =>
          obtain ⟨hs, hrest⟩ := List.forall_mem_cons.mp h
          rw [← Transform.ofName?_eq_none_iff, ← ne_eq, Option.ne_none_iff_exists'] at hs
          obtain ⟨t, ht⟩ := hs
          rw [List.filterMap_cons_some ht, List.map_cons, Transform.name_of_ofName? ht, ih hrest]

namespace ProfileDraft

theorem resolvesTo_resolved {name : String} {d : ProfileDraft}
    (h : ∀ e ∈ d.suspects name, ¬ e.IsFault) : d.ResolvesTo d.resolved := by
  simp only [suspects, List.forall_mem_append] at h
  obtain ⟨⟨hmode, hlists⟩, hpackage⟩ := h
  -- a name in any of the lists is that of a transform
  have hlist : ∀ l ∈ d.transforms.members, ∀ s ∈ l.2.getD [], ¬ ∀ t : Transform, t.name ≠ s :=
    fun l hl s hs => hlists _ (List.mem_flatMap.mpr ⟨l, hl, List.mem_map_of_mem hs⟩)
  simp only [TransformNames.members, List.forall_mem_cons] at hlist
  obtain ⟨hservice, hoperation, hparameter, hmodel, hproperty, -⟩ := hlist
  refine ⟨?_, isChain_chainOf hservice _, isChain_chainOf hoperation _,
    isChain_chainOf hparameter _, isChain_chainOf hmodel _, isChain_chainOf hproperty _, rfl, ?_⟩
  · show d.modeOf.name = _
    unfold modeOf
    cases hd : d.mode with
    | none => rfl
    | some s =>
        rw [hd] at hmode
        have hs : ¬ ∀ m : Mode, m.name ≠ s := hmode _ List.mem_cons_self
        rw [← Mode.ofName?_eq_none_iff, ← ne_eq, Option.ne_none_iff_exists'] at hs
        obtain ⟨m, hm⟩ := hs
        rw [Option.bind_some, hm]
        exact Mode.name_of_ofName? hm
  · show d.package.getD "" = "" ∨ Package.IsName (d.package.getD "").toList
    cases hd : d.package with
    | none => exact .inl rfl
    | some package =>
        rw [hd] at hpackage
        have hs : ¬ (package ≠ "" ∧ ¬ Package.IsName package.toList) := hpackage _ List.mem_cons_self
        rw [Option.getD_some]
        tauto

end ProfileDraft

namespace ProfileSet

open ProfileDraft

/-- A set of profiles is that of a file: it has the same names in the same order, each with the
profile of its draft. -/
def ResolvesTo (drafts : OrderedMap String ProfileDraft) (ps : ProfileSet) : Prop :=
  List.Forall₂ (fun d p => p.1 = d.1 ∧ d.2.ResolvesTo p.2) drafts.entries ps.entries

theorem ofDrafts_of_nil {drafts : OrderedMap String ProfileDraft} (h : drafts.entries = []) :
    ofDrafts drafts = .error .noProfiles :=
  if_pos (List.isEmpty_iff.mpr h)

theorem ofDrafts_eq_ok {drafts : OrderedMap String ProfileDraft} {ps : ProfileSet}
    (h : ofDrafts drafts = .ok ps) : ResolvesTo drafts ps := by
  by_cases hnil : drafts.entries = []
  · rw [ofDrafts_of_nil hnil] at h
    cases h
  · rw [ofDrafts_eq_judge hnil, judge_eq_ok_iff] at h
    obtain ⟨hsound, rfl⟩ := h
    refine List.forall₂_map_right_iff.mpr (List.forall₂_same.mpr fun d hd => ⟨rfl, ?_⟩)
    exact resolvesTo_resolved fun e he => hsound e (List.mem_flatMap.mpr ⟨d, hd, he⟩)

/-- What a text is loaded to, by the drafts that it holds. -/
theorem load_eq {source : String} {drafts : OrderedMap String ProfileDraft}
    (hread : ProfileDraft.readAll source = .ok drafts) :
    load source = (ofDrafts drafts).mapError .profile := by
  unfold load
  rw [hread]
  dsimp only
  cases ofDrafts drafts <;> rfl

/-- **A profile file gives every profile, or its first fault.**  A file without profiles has an error
of its own; any other fails exactly if something that it names is none, and then with the first such
thing.  Otherwise each profile has its own lists, the defaults of its mode where it has none, and no
package but a valid one. -/
theorem load_resolves {source : String} {drafts : OrderedMap String ProfileDraft}
    (hread : ProfileDraft.readAll source = .ok drafts) :
    (load source = .error (.profile .noProfiles) ↔ drafts.entries = []) ∧
      (drafts.entries ≠ [] →
        ((∃ e, load source = .error e) ↔ ∃ e ∈ suspects drafts, e.IsFault) ∧
          ∀ e, load source = .error e ↔ ∃ f, e = .profile f ∧ f.IsFirstFault (suspects drafts)) ∧
      ∀ ps, load source = .ok ps → ResolvesTo drafts ps := by
  have herror : ∀ e, load source = .error e ↔ ∃ f, e = .profile f ∧ ofDrafts drafts = .error f := by
    intro e
    rw [load_eq hread]
    cases ofDrafts drafts <;> simp [Except.mapError, eq_comm]
  refine ⟨⟨fun h => ?_, fun h => ?_⟩, fun hne => ⟨?_, fun e => ?_⟩, fun ps h => ?_⟩
  · -- a file with profiles fails with a fault only, and the lack of profiles is none
    by_contra hne
    obtain ⟨f, hf, hdrafts⟩ := (herror _).mp h
    rw [ofDrafts_eq_judge hne, judge_eq_error_iff] at hdrafts
    obtain ⟨-, -, -, hfault, -⟩ := hdrafts
    cases hf
    exact hfault
  · exact (herror _).mpr ⟨_, rfl, ofDrafts_of_nil h⟩
  · rw [← exists_judge_eq_error_iff (a := drafts.mapValues fun _ d => d.resolved),
      ← ofDrafts_eq_judge hne]
    simp only [herror]
    exact ⟨fun ⟨_, f, _, hf⟩ => ⟨f, hf⟩, fun ⟨f, hf⟩ => ⟨_, f, rfl, hf⟩⟩
  · rw [herror, ofDrafts_eq_judge hne]
    simp only [judge_eq_error_iff]
  · rw [load_eq hread] at h
    cases hdrafts : ofDrafts drafts with
    | error f =>
        rw [hdrafts] at h
        cases h
    | ok ps' =>
        rw [hdrafts] at h
        cases h
        exact ofDrafts_eq_ok hdrafts

/-- A profile with an empty list, and one of another mode with an invalid package. -/
def mixedText : String :=
  "\x7b\"public\":\x7b\"transforms\":\x7b\"modelName\":[]\x7d\x7d,"
    ++ "\"internal\":\x7b\"mode\":\"swift\",\"options\":\x7b\"package\":\".\"\x7d\x7d\x7d"

/-- The first of these profiles. -/
def publicText : String := "\x7b\"public\":\x7b\"transforms\":\x7b\"modelName\":[]\x7d\x7d\x7d"

theorem load_resolves_mixedText :
    load mixedText = .error (.profile (.unsupportedMode "internal" "swift")) ∧
      ∃ ps, load publicText = .ok ps ∧ ResolvesTo
        ⟨[("public", { transforms := { model := some [] } })], by decide⟩ ps := by
  have hmixed : ProfileDraft.readAll mixedText = .ok
      ⟨[("public", { transforms := { model := some [] } }),
        ("internal", { mode := some "swift", package := some "." })], by decide⟩ := rfl
  have hpublic : ProfileDraft.readAll publicText = .ok
      ⟨[("public", { transforms := { model := some [] } })], by decide⟩ := rfl
  have hmode : ∀ m : Mode, m.name ≠ "swift" := by
    intro m
    cases m
    decide
  obtain ⟨-, hfails, hload⟩ := load_resolves hpublic
  refine ⟨(((load_resolves hmixed).2.1 (by decide)).2 _).mpr ⟨_, rfl, [],
    [.invalidPackage "internal" "."], rfl, hmode, List.forall_mem_nil _⟩, ?_⟩
  -- the public profile names neither a mode nor a transform nor a package
  cases hps : load publicText with
  | ok ps => exact ⟨ps, rfl, hload ps hps⟩
  | error e =>
      obtain ⟨f, hf, -⟩ := (hfails (by decide)).1.mp ⟨e, hps⟩
      exact absurd hf List.not_mem_nil

end ProfileSet

end ApiProto
