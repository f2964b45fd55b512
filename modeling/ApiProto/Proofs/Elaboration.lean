/-
  Elaboration reports the first type that is not understood, and otherwise loses nothing.

  `Draft.types` lists the types of a draft with their places, in the order in which they are read.
  `Settles` says of a computation that it ends with the first of given types that is not understood,
  or, if there is none, with a result of a given kind.  It has one rule for each way in which the
  elaboration is put together: a type, a sequence, and the traversals.
-/
import ApiProto.Draft.Elaborate
import Mathlib.Data.List.Forall2

namespace ApiProto.Draft

/-! ## The types of a draft -/

/-- The types of the properties of a model. -/
def modelTypes (model : String) (properties : OrderedMap String Json) : List (Place × Json) :=
  properties.entries.map fun p => (.property model p.1, p.2)

/-- The types of parameters, which have the given index and the next ones. -/
def parameterTypes (service operation : String) (index : Nat) (parameters : List Parameter) :
    List (Place × Json) :=
  (parameters.zipIdx index).map fun p => (.parameter service operation p.2, p.1.type)

/-- The types of responses, of which some have none. -/
def responseTypes (service operation : String) (responses : List (String × Option Json)) :
    List (Place × Json) :=
  responses.filterMap fun r => r.2.map fun v => (.response service operation r.1, v)

/-- The types of an operation: those of the parameters, then those of the responses. -/
def operationTypes (service : String) (o : String × Operation) : List (Place × Json) :=
  parameterTypes service o.1 0 o.2.parameters ++ responseTypes service o.1 o.2.responses.entries

/-- The types of a draft: those of the models, then those of the services. -/
def types (d : Draft) : List (Place × Json) :=
  d.models.entries.flatMap (fun m => modelTypes m.1 m.2)
    ++ d.services.entries.flatMap fun s => s.2.entries.flatMap (operationTypes s.1)

/-- The paths of the types of a draft, as they are shown. -/
def paths (d : Draft) : List String :=
  d.models.entries.flatMap (fun m => m.2.entries.map fun p => "models." ++ m.1 ++ "." ++ p.1)
    ++ d.services.entries.flatMap fun s => s.2.entries.flatMap fun o =>
      (o.2.parameters.zipIdx.map fun p =>
        "services." ++ s.1 ++ "." ++ o.1 ++ ".parameters[" ++ toString p.2 ++ "].dataType")
      ++ o.2.responses.entries.filterMap fun r => r.2.map fun _ =>
        "services." ++ s.1 ++ "." ++ o.1 ++ ".responses." ++ r.1 ++ ".dataType"

/-- Every type is shown under the path of its place. -/
theorem map_path_types (d : Draft) : (d.types.map fun t => t.1.path) = d.paths := by
  have hproperties : ∀ model (ps : OrderedMap String Json),
      ((modelTypes model ps).map fun t => t.1.path)
        = ps.entries.map fun p => "models." ++ model ++ "." ++ p.1 := by
    intro model ps
    rw [modelTypes, List.map_map]
    rfl
  have hparameters : ∀ service operation (ps : List Parameter),
      ((parameterTypes service operation 0 ps).map fun t => t.1.path) = ps.zipIdx.map fun p =>
        "services." ++ service ++ "." ++ operation ++ ".parameters[" ++ toString p.2
          ++ "].dataType" := by
    intro service operation ps
    rw [parameterTypes, List.map_map]
    rfl
  have hresponses : ∀ service operation (rs : List (String × Option Json)),
      ((responseTypes service operation rs).map fun t => t.1.path) = rs.filterMap fun r =>
        r.2.map fun _ =>
          "services." ++ service ++ "." ++ operation ++ ".responses." ++ r.1 ++ ".dataType" := by
    intro service operation rs
    rw [responseTypes, List.map_filterMap]
    simp only [Option.map_map]
    rfl
  rw [types, paths, List.map_append, List.map_flatMap, List.map_flatMap]
  simp only [List.map_flatMap, operationTypes, List.map_append, hproperties, hparameters, hresponses]

/-- A JSON value declares a type. -/
def Declares (v : Json) (type : DataType) : Prop := TypeReader.read v = .ok type

/-- A JSON value declares no type. -/
def IsRejected (v : Json) : Prop := ∃ fault, TypeReader.read v = .error fault

/-! ## The definition of a draft -/

/-- The same names in the same order, with related values. -/
def Matches {β γ : Type} (R : β → γ → Prop) (es : List (String × β)) (fs : List (String × γ)) :
    Prop :=
  List.Forall₂ (fun e f => f.1 = e.1 ∧ R e.2 f.2) es fs

/-- An operation is that of a draft. -/
structure ElaboratesOperation (o : String × Operation) (o' : ApiProto.Operation) : Prop where
  name : o'.name = o.1
  parameters : List.Forall₂ (fun p p' => p'.name = p.name ∧ Declares p.type p'.type)
    o.2.parameters o'.parameters
  responses : Matches (Option.Rel Declares) o.2.responses.entries o'.responses.entries

/-- A definition is that of a draft: it has the same names in the same order, with the types that
are declared there, and nothing else. -/
structure Elaborates (d : Draft) (r : Definition) : Prop where
  models : Matches (fun properties model => Matches Declares properties.entries model.entries)
    d.models.entries r.models.entries
  services : Matches (fun operations service =>
    List.Forall₂ ElaboratesOperation operations.entries service) d.services.entries r.services.entries
  enums : r.enums = d.enums

/-! ## The first type that is not understood -/

/-- The error of a type at its place, if it is not understood. -/
def typeError? (t : Place × Json) : Option SchemaError :=
  match TypeReader.read t.2 with
  | .ok _ => none
  | .error fault => some ⟨fault, t.1, t.2⟩

/-- The error of the first type that is not understood. -/
def firstError? (ts : List (Place × Json)) : Option SchemaError := ts.findSome? typeError?

theorem typeError?_eq_none_iff {t : Place × Json} :
    typeError? t = none ↔ ∃ type, Declares t.2 type := by
  unfold typeError? Declares
  cases TypeReader.read t.2 <;> simp

theorem typeError?_eq_some_iff {t : Place × Json} {e : SchemaError} :
    typeError? t = some e ↔
      t = (e.place, e.property) ∧ TypeReader.read e.property = .error e.fault := by
  obtain ⟨place, v⟩ := t
  obtain ⟨fault, place', v'⟩ := e
  unfold typeError?
  constructor
  · intro h
    cases hv : TypeReader.read v with
    | ok type => simp [hv] at h
    | error fault' =>
        simp only [hv] at h
        cases h
        exact ⟨rfl, hv⟩
  · rintro ⟨heq, hv⟩
    cases heq
    simp [hv]

theorem firstError?_singleton (t : Place × Json) : firstError? [t] = typeError? t := by
  rw [firstError?, List.findSome?_cons]
  cases typeError? t <;> rfl

theorem firstError?_append (ts us : List (Place × Json)) :
    firstError? (ts ++ us) = (firstError? ts).or (firstError? us) :=
  List.findSome?_append

/-- There is no error exactly if every type is understood. -/
theorem firstError?_eq_none_iff {ts : List (Place × Json)} :
    firstError? ts = none ↔ ∀ t ∈ ts, ∃ type, Declares t.2 type := by
  rw [firstError?, List.findSome?_eq_none_iff]
  simp only [typeError?_eq_none_iff]

/-- The error is that of a type that is not understood and before which all others are. -/
theorem firstError?_eq_some_iff {ts : List (Place × Json)} {e : SchemaError} :
    firstError? ts = some e ↔ ∃ before after, ts = before ++ (e.place, e.property) :: after ∧
      (∀ t ∈ before, ∃ type, Declares t.2 type) ∧
      TypeReader.read e.property = .error e.fault := by
  rw [firstError?, List.findSome?_eq_some_iff]
  constructor
  · rintro ⟨before, t, after, rfl, ht, hbefore⟩
    obtain ⟨rfl, hfault⟩ := typeError?_eq_some_iff.mp ht
    exact ⟨before, after, rfl, fun t ht => typeError?_eq_none_iff.mp (hbefore t ht), hfault⟩
  · rintro ⟨before, after, rfl, hbefore, hfault⟩
    exact ⟨before, _, after, rfl, typeError?_eq_some_iff.mpr ⟨rfl, hfault⟩,
      fun t ht => typeError?_eq_none_iff.mpr (hbefore t ht)⟩

/-! ## Computations that read types -/

/-- A computation ends with the first of the types that is not understood, or, if there is none,
with a result of a kind. -/
structure Settles {α : Type} (x : Except SchemaError α) (ts : List (Place × Json))
    (R : α → Prop) : Prop where
  error : ∀ e, firstError? ts = some e → x = .error e
  ok : firstError? ts = none → ∃ a, x = .ok a ∧ R a

namespace Settles

variable {α β γ : Type} {ts us : List (Place × Json)}

theorem pure {R : α → Prop} {a : α} (h : R a) : Settles (.ok a) [] R where
  error _ he := by cases he
  ok _ := ⟨a, rfl, h⟩

theorem ofType (place : Place) (v : Json) : Settles (typeAt place v) [(place, v)] (Declares v) := by
  constructor
  · intro e he
    obtain ⟨heq, hfault⟩ := typeError?_eq_some_iff.mp (firstError?_singleton _ ▸ he)
    cases heq
    rw [typeAt, hfault]
  · intro hnone
    obtain ⟨type, htype⟩ := typeError?_eq_none_iff.mp (firstError?_singleton _ ▸ hnone)
    refine ⟨type, ?_, htype⟩
    rw [typeAt, htype]

theorem bind {R : α → Prop} {S : β → Prop} {x : Except SchemaError α}
    {f : α → Except SchemaError β} (hx : Settles x ts R) (hf : ∀ a, R a → Settles (f a) us S) :
    Settles (x >>= f) (ts ++ us) S := by
  -- an error of the first types ends the computation; else those of the second decide
  cases hts : firstError? ts with
  | some e =>
      rw [hx.error e hts]
      constructor
      · intro e' he'
        rw [firstError?_append, hts] at he'
        cases he'
        rfl
      · intro hnone
        rw [firstError?_append, hts] at hnone
        cases hnone
  | none =>
      obtain ⟨a, rfl, ha⟩ := hx.ok hts
      constructor
      · intro e he
        rw [firstError?_append, hts, Option.none_or] at he
        exact (hf a ha).error e he
      · intro hnone
        rw [firstError?_append, hts, Option.none_or] at hnone
        exact (hf a ha).ok hnone

theorem map {R : α → Prop} {S : β → Prop} {x : Except SchemaError α} {g : α → β}
    (hx : Settles x ts R) (hg : ∀ a, R a → S (g a)) : Settles (x >>= fun a => .ok (g a)) ts S := by
  have hbind := hx.bind fun a ha => pure (hg a ha)
  rwa [List.append_nil] at hbind

/-- A traversal of entries reads what is read for each of them. -/
theorem traverseEntries {R : β → γ → Prop} {f : String → β → Except SchemaError γ}
    {ts : String × β → List (Place × Json)} (hf : ∀ e, Settles (f e.1 e.2) (ts e) (R e.2))
    (es : List (String × β)) :
    Settles (OrderedMap.traverseEntries f es) (es.flatMap ts) (Matches R es) := by
  induction es with
  | nil => exact pure .nil
  | cons e rest ih =>
      -- a step of the traversal, as computations that are put together
      have hcons : OrderedMap.traverseEntries f (e :: rest) =
          f e.1 e.2 >>= fun w => OrderedMap.traverseEntries f rest >>= fun ws =>
            .ok ((e.1, w) :: ws) := by
        rw [OrderedMap.traverseEntries]
        cases f e.1 e.2 with
        | error _ => rfl
        | ok w => cases OrderedMap.traverseEntries f rest <;> rfl
      rw [hcons, List.flatMap_cons]
      exact (hf e).bind fun w hw => ih.map fun ws hws => .cons ⟨rfl, hw⟩ hws

theorem traverse {R : β → γ → Prop} {f : String → β → Except SchemaError γ}
    {ts : String × β → List (Place × Json)} (hf : ∀ e, Settles (f e.1 e.2) (ts e) (R e.2))
    (m : OrderedMap String β) :
    Settles (m.traverse f) (m.entries.flatMap ts) fun n => Matches R m.entries n.entries := by
  have hentries := traverseEntries hf m.entries
  constructor
  · intro e he
    exact OrderedMap.traverse_eq_error_iff.mpr (hentries.error e he)
  · intro hnone
    obtain ⟨ws, hws, hmatches⟩ := hentries.ok hnone
    have hkeys : (ws.map Prod.fst).Nodup :=
      OrderedMap.keys_traverseEntries hws ▸ m.nodup_keys
    exact ⟨⟨ws, hkeys⟩, OrderedMap.traverse_eq_ok_iff.mpr hws, hmatches⟩

end Settles

/-! ## Elaboration -/

theorem settles_elaborateModel (model : String) (properties : OrderedMap String Json) :
    Settles (elaborateModel model properties) (modelTypes model properties)
      fun m => Matches Declares properties.entries m.entries := by
  have h := Settles.traverse (f := fun property v => typeAt (.property model property) v)
    (fun p => Settles.ofType (.property model p.1) p.2) properties
  rwa [← List.map_eq_flatMap] at h

theorem settles_elaborateParameters (service operation : String) (index : Nat)
    (parameters : List Parameter) :
    Settles (elaborateParameters service operation index parameters)
      (parameterTypes service operation index parameters)
      (List.Forall₂ (fun p p' => p'.name = p.name ∧ Declares p.type p'.type) parameters) := by
  induction parameters generalizing index with
  | nil => exact .pure .nil
  | cons p rest ih =>
      exact (Settles.ofType (.parameter service operation index) p.type).bind fun type htype =>
        (ih (index + 1)).map fun ps hps => .cons ⟨rfl, htype⟩ hps

theorem settles_elaborateResponse (service operation status : String) (body : Option Json) :
    Settles (elaborateResponse service operation status body)
      (body.map fun v => (Place.response service operation status, v)).toList
      (Option.Rel Declares body) := by
  cases body with
  | none => exact .pure .none
  | some v => exact (Settles.ofType (.response service operation status) v).map fun _ => .some

theorem settles_responses (service operation : String) (responses : OrderedMap String (Option Json)) :
    Settles (responses.traverse (elaborateResponse service operation))
      (responseTypes service operation responses.entries)
      fun r => Matches (Option.Rel Declares) responses.entries r.entries := by
  -- a response reads one type or none
  rw [responseTypes, List.filterMap_eq_flatMap_toList]
  exact Settles.traverse (fun r => settles_elaborateResponse service operation r.1 r.2) responses

theorem settles_elaborateOperation (service : String) (o : String × Operation) :
    Settles (elaborateOperation service o.1 o.2) (operationTypes service o)
      (ElaboratesOperation o) := by
  exact (settles_elaborateParameters service o.1 0 o.2.parameters).bind fun parameters hparameters =>
    (settles_responses service o.1 o.2.responses).map fun responses hresponses =>
      ⟨rfl, hparameters, hresponses⟩

theorem settles_elaborateService (service : String) (operations : List (String × Operation)) :
    Settles (elaborateService service operations) (operations.flatMap (operationTypes service))
      (List.Forall₂ ElaboratesOperation operations) := by
  induction operations with
  | nil => exact .pure .nil
  | cons o rest ih =>
      rw [List.flatMap_cons]
      exact (settles_elaborateOperation service o).bind fun o' ho =>
        ih.map fun os hos => .cons ho hos

theorem settles_elaborate (d : Draft) : Settles d.elaborate d.types (Elaborates d) := by
  have hmodels : Settles (d.models.traverse elaborateModel)
      (d.models.entries.flatMap fun m => modelTypes m.1 m.2) fun models =>
        Matches (fun properties model => Matches Declares properties.entries model.entries)
          d.models.entries models.entries :=
    Settles.traverse (fun m => settles_elaborateModel m.1 m.2) d.models
  have hservices : Settles (d.services.traverse fun name operations =>
      elaborateService name operations.entries)
      (d.services.entries.flatMap fun s => s.2.entries.flatMap (operationTypes s.1)) fun services =>
        Matches (fun operations service =>
          List.Forall₂ ElaboratesOperation operations.entries service)
          d.services.entries services.entries :=
    Settles.traverse (fun s => settles_elaborateService s.1 s.2.entries) d.services
  exact hmodels.bind fun models hm => hservices.map fun services hs => ⟨hm, hs, rfl⟩

/-- The elaboration fails exactly with the first error. -/
theorem elaborate_eq_error_iff {d : Draft} {e : SchemaError} :
    d.elaborate = .error e ↔ firstError? d.types = some e := by
  have hsettles := settles_elaborate d
  refine ⟨fun h => ?_, hsettles.error e⟩
  cases hfirst : firstError? d.types with
  | none =>
      obtain ⟨r, hr, -⟩ := hsettles.ok hfirst
      rw [h] at hr
      cases hr
  | some e' =>
      rw [hsettles.error e' hfirst] at h
      cases h
      rfl

/-! ## The definition that a draft is elaborated to -/

theorem typeAt_eq_ok {v : Json} {type : DataType} (h : Declares v type) (place : Place) :
    typeAt place v = .ok type := by
  rw [typeAt, show TypeReader.read v = .ok type from h]

theorem traverse_eq_ok {β γ : Type} {R : β → γ → Prop} {f : String → β → Except SchemaError γ}
    (hf : ∀ name b c, R b c → f name b = .ok c) {m : OrderedMap String β} {n : OrderedMap String γ}
    (h : Matches R m.entries n.entries) : m.traverse f = .ok n := by
  have hentries : ∀ es fs, Matches R es fs → OrderedMap.traverseEntries f es = .ok fs := by
    intro es fs hmatches
    induction hmatches with
    | nil => rfl
    | @cons e e' es fs he _ ih =>
        rw [OrderedMap.traverseEntries, hf _ _ _ he.2]
        simp only [ih, ← he.1]
  exact OrderedMap.traverse_eq_ok_iff.mpr (hentries _ _ h)

theorem elaborateParameters_eq_ok {ps : List Parameter} {ps' : List ApiProto.Parameter}
    (h : List.Forall₂ (fun p p' => p'.name = p.name ∧ Declares p.type p'.type) ps ps')
    (service operation : String) (index : Nat) :
    elaborateParameters service operation index ps = .ok ps' := by
  induction h generalizing index with
  | nil => rfl
  | @cons p p' ps ps' hp _ ih =>
      have htail := ih (index + 1)
      rw [elaborateParameters, typeAt_eq_ok hp.2, htail, ← hp.1]
      rfl

theorem elaborateResponse_eq_ok {body : Option Json} {body' : Option DataType}
    (h : Option.Rel Declares body body') (service operation status : String) :
    elaborateResponse service operation status body = .ok body' := by
  cases h with
  | none => rfl
  | some htype =>
      rw [elaborateResponse, typeAt_eq_ok htype]
      rfl

theorem elaborateOperation_eq_ok {o : String × Operation} {o' : ApiProto.Operation}
    (h : ElaboratesOperation o o') (service : String) :
    elaborateOperation service o.1 o.2 = .ok o' := by
  have hresponse : ∀ status b c, Option.Rel Declares b c →
      elaborateResponse service o.1 status b = .ok c := fun status _ _ hbody =>
    elaborateResponse_eq_ok hbody service o.1 status
  rw [elaborateOperation, elaborateParameters_eq_ok h.parameters,
    traverse_eq_ok hresponse h.responses, ← h.name]
  rfl

theorem elaborateService_eq_ok {os : List (String × Operation)} {os' : List ApiProto.Operation}
    (h : List.Forall₂ ElaboratesOperation os os') (service : String) :
    elaborateService service os = .ok os' := by
  induction h with
  | nil => rfl
  | cons ho _ ih =>
      rw [elaborateService, elaborateOperation_eq_ok ho, ih]
      rfl

/-- A definition is that of a draft exactly if the draft is elaborated to it. -/
theorem elaborate_eq_ok_iff {d : Draft} {r : Definition} : d.elaborate = .ok r ↔ Elaborates d r := by
  constructor
  · intro h
    cases hfirst : firstError? d.types with
    | some e =>
        rw [(settles_elaborate d).error e hfirst] at h
        cases h
    | none =>
        obtain ⟨r', hr', helaborates⟩ := (settles_elaborate d).ok hfirst
        rw [h] at hr'
        cases hr'
        exact helaborates
  · intro h
    have hproperty : ∀ model property v type, Declares v type →
        typeAt (.property model property) v = .ok type := fun model property _ _ htype =>
      typeAt_eq_ok htype (.property model property)
    have hmodel : ∀ model (ps : OrderedMap String Json) (m : Model),
        Matches Declares ps.entries m.entries → elaborateModel model ps = .ok m :=
      fun model _ _ hmatches => traverse_eq_ok (hproperty model) hmatches
    have hservice : ∀ name (os : OrderedMap String Operation) (s : Service),
        List.Forall₂ ElaboratesOperation os.entries s → elaborateService name os.entries = .ok s :=
      fun name _ _ hforall => elaborateService_eq_ok hforall name
    rw [elaborate, traverse_eq_ok hmodel h.models, traverse_eq_ok hservice h.services, ← h.enums]
    rfl

theorem isRejected_iff {v : Json} : IsRejected v ↔ ¬ ∃ type, Declares v type := by
  unfold IsRejected Declares
  cases TypeReader.read v <;> simp

/-- There is an error exactly if some type is not understood. -/
theorem exists_elaborate_eq_error_iff {d : Draft} :
    (∃ e, d.elaborate = .error e) ↔ ∃ t ∈ d.types, IsRejected t.2 := by
  simp only [elaborate_eq_error_iff, isRejected_iff]
  rw [← Option.isSome_iff_exists, ← Option.ne_none_iff_isSome, ne_eq, firstError?_eq_none_iff]
  simp only [not_forall, exists_prop]

/-- **The first type that is not understood is the error.**  There is an error exactly if there is
such a type; the error has its fault, its place, which is shown as its path, and the value that
stands there.  Otherwise the result is the definition of the draft. -/
theorem elaborate_reports_first (d : Draft) :
    ((∃ e, d.elaborate = .error e) ↔ ∃ t ∈ d.types, IsRejected t.2) ∧
      (∀ e, d.elaborate = .error e ↔ ∃ before after,
        d.types = before ++ (e.place, e.property) :: after ∧
          (∀ t ∈ before, ∃ type, Declares t.2 type) ∧
          TypeReader.read e.property = .error e.fault) ∧
      (d.types.map fun t => t.1.path) = d.paths ∧
      ((∀ t ∈ d.types, ¬ IsRejected t.2) → ∃ r, d.elaborate = .ok r ∧ Elaborates d r) := by
  refine ⟨exists_elaborate_eq_error_iff, fun e => ?_, map_path_types d,
    fun h => (settles_elaborate d).ok ?_⟩
  · rw [elaborate_eq_error_iff, firstError?_eq_some_iff]
  · exact firstError?_eq_none_iff.mpr fun t ht => not_not.mp (isRejected_iff.not.mp (h t ht))

/-- The draft of an operation that is asked for a pet by its number and by a filter. -/
def getPet : Operation where
  parameters := [⟨"id", .object [("primitive", .string "integer")]⟩,
    ⟨"filter", .object [("isArray", .bool false)]⟩]
  responses := ⟨[("404", none), ("200", some (.object [("primitive", .string "uuid")]))], by decide⟩

/-- A draft with two types that are not understood: the filter, and the body of a response. -/
def petDraft : Draft where
  services := ⟨[("PetService", ⟨[("getPet", getPet)], by decide⟩)], by decide⟩
  models := ⟨[("Pet", ⟨[("name", .object [("primitive", .string "string")])], by decide⟩)], by decide⟩
  enums := .empty

theorem elaborate_reports_first_petDraft :
    petDraft.elaborate = .error ⟨.undecided, .parameter "PetService" "getPet" 1,
        .object [("isArray", .bool false)]⟩ ∧
      (Place.parameter "PetService" "getPet" 1).path
        = "services.PetService.getPet.parameters[1].dataType" ∧
      ∃ r, Draft.elaborate ⟨.empty, petDraft.models, .empty⟩ = .ok r ∧
        Elaborates ⟨.empty, petDraft.models, .empty⟩ r := by
  have hname : Declares (.object [("primitive", .string "string")])
      ⟨.primitive .string none, false⟩ := rfl
  have hid : Declares (.object [("primitive", .string "integer")])
      ⟨.primitive .integer none, false⟩ := rfl
  have hbefore : petDraft.types =
      [(.property "Pet" "name", .object [("primitive", .string "string")]),
        (.parameter "PetService" "getPet" 0, .object [("primitive", .string "integer")])]
      ++ (.parameter "PetService" "getPet" 1, .object [("isArray", .bool false)])
        :: [(.response "PetService" "getPet" "200", .object [("primitive", .string "uuid")])] := rfl
  refine ⟨((elaborate_reports_first petDraft).2.1 _).mpr ⟨_, _, hbefore, ?_, rfl⟩, by decide,
    (elaborate_reports_first ⟨.empty, petDraft.models, .empty⟩).2.2.2 ?_⟩
  · exact List.forall_mem_cons.mpr ⟨⟨_, hname⟩, List.forall_mem_singleton.mpr ⟨_, hid⟩⟩
  · exact List.forall_mem_singleton.mpr fun h => isRejected_iff.mp h ⟨_, hname⟩

end ApiProto.Draft
