/-
  The records of each stage of the work, in the order in which they arise.

  A stage that fails leaves the records up to its failure.
-/
import ApiProto.LoadError
import ApiProto.Log.Basic
import ApiProto.Proto.Render

namespace ApiProto

open LogRecord (field count)

/-! ## Loading a definition -/

/-- One record for every model up to the first whose types are not all understood. -/
def Draft.modelRecords : List (String × OrderedMap String Json) → List LogRecord
  | [] => []
  | (name, properties) :: rest =>
    match Draft.elaborateModel name properties with
    | .error _ => []
    | .ok model =>
      ⟨.trace, "Model elaborated", [field "model" name, count "properties_count" model.size]⟩
        :: modelRecords rest

/-- The records of making a definition from a draft. -/
def Draft.records (draft : Draft) : List LogRecord :=
  Draft.modelRecords draft.models.entries ++
    match draft.elaborate with
    | .error _ => []
    | .ok d => [⟨.debug, "Definition elaborated", [count "services_count" d.services.size,
        count "models_count" d.models.size, count "enums_count" d.enums.size]⟩]

/-- The records of loading a definition. -/
def Definition.loadRecords (source : String) : List LogRecord :=
  match Draft.read source with
  | .error _ => []
  | .ok draft =>
    ⟨.debug, "Definition JSON decoded", [count "services_count" draft.services.size,
      count "models_count" draft.models.size, count "enums_count" draft.enums.size]⟩
      :: draft.records

/-- The records of loading a definition as the first step of an output. -/
def Definition.parseRecords (source : String) : List LogRecord :=
  ⟨.info, "Parsing definition", []⟩ :: Definition.loadRecords source ++
    match Definition.load source with
    | .error _ => []
    | .ok _ => [⟨.debug, "Definition parsed successfully", []⟩,
        ⟨.trace, "Parsed definition", [("definition", none)]⟩]

/-! ## Loading profiles -/

/-- One record for every profile up to the first that is faulty. -/
def ProfileSet.resolveRecords : List (String × ProfileDraft) → List LogRecord
  | [] => []
  | (name, draft) :: rest =>
    match draft.resolve name with
    | .error _ => []
    | .ok p =>
      ⟨.trace, "Profile resolved", [field "profile" name, field "mode" p.mode.name]⟩
        :: resolveRecords rest

/-- The records of loading a profile file. -/
def ProfileSet.loadRecords (source : String) : List LogRecord :=
  match ProfileDraft.readAll source with
  | .error _ => []
  | .ok drafts =>
    ProfileSet.resolveRecords drafts.entries ++
      match ProfileSet.ofDrafts drafts with
      | .error _ => []
      | .ok ps => [⟨.debug, "Profiles loaded", [count "profiles_count" ps.size]⟩]

/-! ## Rendering -/

/-- The record of renaming a definition. -/
def Definition.renameRecord (d : Definition) (t : Transforms) : LogRecord :=
  let d := d.rename t
  ⟨.debug, "Naming transforms applied",
    [count "services_count" d.services.size, count "models_count" d.models.size]⟩

/-- The records of rendering a definition. -/
def Definition.renderRecords (d : Definition) (profile : Profile) (settings : Settings) :
    List LogRecord :=
  match d.render profile settings with
  | .error _ => []
  | .ok text =>
    let renamed := d.rename profile.transforms
    let groups := Proto.wrapperGroups (Proto.sortedServices renamed) settings.deduplicate
    [⟨.info, "Applying naming transforms",
        [field "mode" profile.mode.name, field "package" profile.package]⟩,
      d.renameRecord profile.transforms,
      ⟨.info, "Rendering proto", []⟩,
      ⟨.debug, "Rendering proto file", [count "services_count" renamed.services.size,
        count "enums_count" renamed.enums.size, count "models_count" renamed.models.size,
        count "wrapper_groups_count" groups.length]⟩,
      ⟨.info, "Proto rendered successfully", [count "bytes" text.utf8ByteSize]⟩]

end ApiProto
