/-
  The layout of a file.

  What is written for a definition are the lines of its `Document`: services, enumerations and
  messages in sections, one empty line between them, then the wrapper messages.  A strict writer
  gathers the same lines, so every block is closed from depth one, and no two empty lines meet.
-/
import ApiProto.Proofs.Writing
import ApiProto.Proto.Render

namespace ApiProto.Proto

open BlockSink

/-! ## Sections -/

theorem line_ofOperation (o : Operation) : (Rpc.ofOperation o).line = rpcLine o := by
  have hnone : ") returns \x7b\x7d" = ") returns " ++ "\x7b\x7d" := by decide
  have hsome : ") returns (" = ") returns " ++ "(" := by decide
  unfold Rpc.line Rpc.ofOperation rpcLine
  cases returnType o with
  | none => simp only [hnone, String.append_assoc]
  | some response => simp only [hsome, String.append_assoc]

section Emitters

variable {W : Type} [BlockSink W] {ret : Writer → W} {width : Nat}

theorem writes_services (h : Follows ret) (services : List (String × Service)) :
    Writes ret width 0 (writeServices · services)
      (spaced ((services.map fun s => (s.1, s.2.map Rpc.ofOperation)).map
        (serviceBlock width))) := by
  have hbody : ∀ operations : Service, Writes ret width 1
      (each · operations fun w j o => line (blank w (0 < j)) (rpcLine o))
      (spaced ((operations.map Rpc.ofOperation).map fun r => [r.line])) := by
    intro operations
    rw [List.map_map, show (fun r : Rpc => [r.line]) ∘ Rpc.ofOperation = fun o => [rpcLine o] from
      funext fun o => congrArg (fun l => [l]) (line_ofOperation o)]
    exact Writes.spaced h (fun o => Writes.line h (rpcLine o)) operations
  rw [List.map_map]
  exact Writes.spaced h (fun s => Writes.block h ("service " ++ s.1) (hbody s.2)) services

theorem writes_enums (h : Follows ret) (enums : List (String × Enumeration)) :
    Writes ret width 0 (writeEnums · enums)
      (spaced ((enums.map fun e => (e.1, e.2.zipIdx)).map (enumBlock width))) := by
  have hbody : ∀ values : Enumeration, Writes ret width 1
      (each · values fun w j value => line w (value ++ " = " ++ toString j ++ ";"))
      (values.zipIdx.map fun v => v.1 ++ " = " ++ toString v.2 ++ ";") := by
    intro values
    exact Writes.eachLine h (fun j value => value ++ " = " ++ toString j ++ ";") values
  rw [List.map_map]
  exact Writes.spaced h (fun e => Writes.block h ("enum " ++ e.1) (hbody e.2)) enums

/-- The line of a field, by its place among the properties, counted from zero. -/
def fieldLine (place : Nat) (p : String × DataType) : String :=
  typeName p.2 ++ " " ++ p.1 ++ " = " ++ toString (place + 1) ++ ";"

theorem map_line_fieldsOf (m : Model) :
    (fieldsOf m).map Field.line = m.entries.zipIdx.map fun p => fieldLine p.2 p.1 := by
  rw [fieldsOf, List.zipIdx_succ, List.map_map, List.map_map]
  rfl

theorem writes_models (h : Follows ret) (models : List (String × Model)) :
    Writes ret width 0 (writeModels · models)
      (spaced ((models.map fun m => (m.1, fieldsOf m.2)).map (messageBlock width))) := by
  have hbody : ∀ model : Model, Writes ret width 1
      (each · model.entries fun w j p => line w (fieldLine j p))
      ((fieldsOf model).map Field.line) := by
    intro model
    rw [map_line_fieldsOf]
    exact Writes.eachLine h fieldLine model.entries
  rw [List.map_map]
  exact Writes.spaced h (fun m => Writes.block h ("message " ++ m.1) (hbody m.2)) models

theorem writes_wrappers (h : Follows ret) (groups : List (List Wrapper)) :
    Writes ret width 0 (writeWrappers · groups)
      (spaced (groups.map fun group => group.flatMap (wrapperBlock width))) := by
  have hwrapper : ∀ m : Wrapper,
      Writes ret width 0 (writeWrapper · m) (wrapperBlock width m) := fun m =>
    Writes.block h ("message " ++ m.name) (Writes.line h (m.kind.name ++ " value = 1;"))
  have hgroup : ∀ group : List Wrapper, Writes ret width 0
      (each · group fun w _ m => writeWrapper w m) (group.flatMap (wrapperBlock width)) := by
    intro group
    have heach := Writes.each (fun _ m => hwrapper m) group
    rwa [← List.flatMap_map Prod.fst, List.zipIdx_map_fst] at heach
  exact Writes.spaced h hgroup groups

end Emitters

/-! ## The whole file -/

/-- The empty line behind the sections, in the two steps that write it. -/
theorem blank_behind_sections (types wrappers : Bool) :
    (if types then [""] else []) ++ (if !types && wrappers then [""] else [])
      = if types || wrappers then [""] else [] := by
  cases types <;> cases wrappers <;> rfl

theorem writes_writeFile {W : Type} [BlockSink W] {ret : Writer → W} {width : Nat}
    (h : Follows ret) (d : Definition) (package : String) (deduplicate : Bool) :
    Writes ret width 0 (writeFile · d package deduplicate)
      ((Document.ofDefinition d package deduplicate).lines width) := by
  let doc := Document.ofDefinition d package deduplicate
  let types := !(sortedEnums d).isEmpty || !(sortedModels d).isEmpty
  let wrappers := wrapperGroups (sortedServices d) deduplicate
  -- the steps in their order, the empty lines between them included
  have hheader : Writes ret width 0 _ _ :=
    (((Writes.line h "syntax = \"proto3\";").comp (Writes.blank h true)).comp
      (Writes.line h ("package " ++ package ++ ";"))).comp (Writes.blank h true)
  have hsections := ((((hheader.comp (writes_services h (sortedServices d))).comp
    (Writes.blank h (!(sortedServices d).isEmpty && types))).comp
      (writes_enums h (sortedEnums d))).comp
        (Writes.blank h (!(sortedEnums d).isEmpty && !(sortedModels d).isEmpty))).comp
          (writes_models h (sortedModels d))
  have hfile := ((hsections.comp (Writes.blank h types)).comp
    (Writes.blank h (!types && !wrappers.isEmpty))).comp (writes_wrappers h wrappers)
  -- a section is empty exactly if nothing of its kind is declared
  have hS : (spaced (doc.services.map (serviceBlock width))).isEmpty = (sortedServices d).isEmpty :=
    (isEmpty_spaced_map (serviceBlock_ne_nil width) _).trans List.isEmpty_map
  have hE : (spaced (doc.enums.map (enumBlock width))).isEmpty = (sortedEnums d).isEmpty :=
    (isEmpty_spaced_map (enumBlock_ne_nil width) _).trans List.isEmpty_map
  have hM : (spaced (doc.messages.map (messageBlock width))).isEmpty = (sortedModels d).isEmpty :=
    (isEmpty_spaced_map (messageBlock_ne_nil width) _).trans List.isEmpty_map
  have htypes : doc.hasTypes = types := by
    simp only [Document.hasTypes, doc, Document.ofDefinition, List.isEmpty_map, types]
  refine Eq.mp (congrArg (Writes ret width 0 _) ?_) hfile
  show _ = doc.lines width
  rw [Document.lines, Document.sections, ← spaced_filter_three, hS, hE, hM, htypes,
    ← blank_behind_sections types (!doc.wrappers.isEmpty)]
  simp only [List.append_assoc, List.cons_append, List.nil_append, if_true]
  rfl

/-! ## Wrapper messages of a definition -/

theorem wrapperGroups_nil (deduplicate : Bool) : wrapperGroups [] deduplicate = [] := rfl

theorem ne_nil_of_mem_wrapperGroups {services : List (String × Service)} {deduplicate : Bool}
    {g : List Wrapper} (hg : g ∈ wrapperGroups services deduplicate) : g ≠ [] := by
  obtain ⟨-, hg⟩ := List.mem_filter.mp hg
  simpa using hg

/-! ## The text -/

namespace Writer

theorem indented_of_depth_eq_zero {w : Writer} (h : w.depth = 0) (l : String) :
    w.indented l = l := by
  by_cases hl : l = ""
  · rw [indented, if_pos hl, hl]
  · rw [indented, if_neg hl, h, Nat.zero_mul]
    exact String.empty_append

/-- The text of a fresh writer's lines. -/
theorem text_write_start (width : Nat) (ls : List String) :
    ((start width).write ls).text = String.join (ls.map (· ++ "\n")) := by
  have hind : ls.map (start width).indented = ls :=
    List.map_id'' (fun l => indented_of_depth_eq_zero rfl l) ls
  have hlines : ((start width).lines ++ ls.toArray).toList = ls := by
    simp [start]
  rw [text_eq_join, lines_write, hind, hlines]

end Writer

theorem writeFile_start (width : Nat) (d : Definition) (package : String) (deduplicate : Bool) :
    writeFile (Writer.start width) d package deduplicate
      = (Writer.start width).write ((Document.ofDefinition d package deduplicate).lines width) :=
  writes_writeFile follows_writer d package deduplicate (Writer.start width) rfl rfl

/-- The text of a definition is that of its document, which is put together without a writer. -/
theorem render_eq_text (d : Definition) (package : String) (settings : Settings) :
    render d package settings
      = (Document.ofDefinition d package settings.deduplicate).text settings.indentWidth := by
  rw [render, writeFile_start, Writer.text_write_start]
  rfl

/-- **The layout of a file.** The text is that of the document.  No two empty lines follow each
other in it, and a strict writer, which is lost once a block is closed from another depth than one,
gathers the same lines and ends at depth zero. -/
theorem render_laid_out (d : Definition) (package : String) (settings : Settings) :
    let doc := Document.ofDefinition d package settings.deduplicate
    let start := Writer.start settings.indentWidth
    let written := writeFile start d package settings.deduplicate
    render d package settings = doc.text settings.indentWidth ∧
      ¬ ["", ""] <:+: doc.lines settings.indentWidth ∧
      writeFile (StrictWriter.ofWriter start) d package settings.deduplicate
        = StrictWriter.ofWriter written ∧
      written.depth = 0 := by
  intro doc start written
  have hwritten : written = start.write (doc.lines settings.indentWidth) :=
    writeFile_start settings.indentWidth d package settings.deduplicate
  have hwrappers : doc.services = [] → doc.wrappers = [] := by
    intro hservices
    have hsorted : sortedServices d = [] := List.map_eq_nil_iff.mp hservices
    show wrapperGroups (sortedServices d) settings.deduplicate = []
    rw [hsorted, wrapperGroups_nil]
  refine ⟨render_eq_text d package settings, ?_, ?_, ?_⟩
  · exact not_infix_of_singleBlanks
      (singleBlanks_lines _ (fun g hg => ne_nil_of_mem_wrapperGroups hg) hwrappers)
  · rw [hwritten]
    exact writes_writeFile follows_strictWriter d package settings.deduplicate start rfl rfl
  · rw [hwritten]
    rfl

end ApiProto.Proto

namespace ApiProto

/-! ## Definitions with a profile -/

theorem Profile.check_of_isValid {profile : Profile} (h : Package.isValid profile.package)
    (name : String) : profile.check name = .ok () := by
  have hne : profile.package ≠ "" := by
    intro hempty
    rw [hempty] at h
    exact absurd h (by decide)
  rw [Profile.check, if_neg hne, if_pos h]

theorem Profile.isValid_of_check {name : String} {profile : Profile}
    (h : profile.check name = .ok ()) : Package.isValid profile.package := by
  rw [Profile.check] at h
  split at h
  · cases h
  · split at h
    · assumption
    · cases h

/-- What the file of a definition declares under a profile. -/
def Definition.document (d : Definition) (profile : Profile) (settings : Settings) :
    Proto.Document :=
  Proto.Document.ofDefinition (d.rename profile.transforms) profile.package settings.deduplicate

/-- With a valid package, the text is there, and it is that of the document. -/
theorem Definition.render_eq_ok {profile : Profile} (h : Package.isValid profile.package)
    (d : Definition) (settings : Settings) :
    d.render profile settings = .ok ((d.document profile settings).text settings.indentWidth) := by
  unfold Definition.render Definition.document
  rw [Profile.check_of_isValid h, ← Proto.render_eq_text]
  rfl

end ApiProto
