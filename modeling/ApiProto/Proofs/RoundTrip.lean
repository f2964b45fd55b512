/-
  Loading undoes encoding.

  The text of a definition holds a draft, which has the definition's names with its types as JSON
  values (`Definition.toDraft`), and this draft is elaborated to the definition.  What is loaded
  from any text can be encoded, for names are unique in a draft and no type with an empty name is
  understood.
-/
import ApiProto.Proofs.Encoding
import ApiProto.Proofs.Loading

namespace ApiProto

open ApiProto.Draft
open ApiProto.Json (dictOf? listOf? memberOf? textOf?)

/-! ## The draft of a definition -/

/-- A parameter with its type as a JSON value. -/
def Parameter.toDraft (p : Parameter) : Draft.Parameter := ⟨p.name, p.type.toJson⟩

/-- An operation with its types as JSON values. -/
def Operation.toDraft (o : Operation) : Draft.Operation :=
  ⟨o.parameters.map Parameter.toDraft, o.responses.mapValues fun _ body => body.map DataType.toJson⟩

/-- The operations of a service under their names. -/
def Service.toDraft (s : Service) : OrderedMap String Draft.Operation :=
  .ofList (s.map fun o => (o.name, o.toDraft))

/-- A definition with its types as JSON values. -/
def Definition.toDraft (d : Definition) : Draft where
  services := d.services.mapValues fun _ s => Service.toDraft s
  models := d.models.mapValues fun _ m => m.mapValues fun _ type => type.toJson
  enums := d.enums

theorem parameterOf?_toJson (p : Parameter) : parameterOf? p.toJson = some p.toDraft := rfl

theorem responseOf?_toJson (body : Option DataType) :
    responseOf? (responseToJson body) = some (body.map DataType.toJson) := by
  cases body <;> rfl

theorem operationOf?_object {ms : List (String × Json)} {parameters : List Draft.Parameter}
    {responses : OrderedMap String (Option Json)}
    (hparameters : memberOf? (listOf? parameterOf?) "parameters" ms = some (some parameters))
    (hresponses : memberOf? (dictOf? responseOf?) "responses" ms = some (some responses)) :
    operationOf? (.object ms) = some ⟨parameters, responses⟩ := by
  simp only [operationOf?, Json.objectOf?, hparameters, hresponses]
  rfl

theorem operationOf?_toJson (o : Operation) : operationOf? o.toJson = some o.toDraft := by
  have hparameters := Json.listOf?_map parameterOf?_toJson o.parameters
  have hresponses := Json.dictOf?_entries (m := o.responses) fun body _ => responseOf?_toJson body
  exact operationOf?_object (Json.memberOf?_of_lookup rfl hparameters)
    (Json.memberOf?_of_lookup rfl hresponses)

theorem entries_toDraft {s : Service} (h : (s.map Operation.name).Nodup) :
    (Service.toDraft s).entries = s.map fun o => (o.name, o.toDraft) := by
  refine OrderedMap.entries_ofList_of_nodup ?_
  rwa [List.map_map]

theorem serviceOf?_toJson {s : Service} (h : (s.map Operation.name).Nodup) :
    dictOf? operationOf? (Service.toJson s) = some (Service.toDraft s) := by
  have hnodup : ((s.map fun o => (o.name, o.toJson)).map Prod.fst).Nodup := by rwa [List.map_map]
  rw [Service.toJson, Json.dictOf?_eq_some_iff hnodup, Matches, entries_toDraft h,
    List.forall₂_map_left_iff, List.forall₂_map_right_iff, List.forall₂_same]
  exact fun o _ => ⟨rfl, operationOf?_toJson o⟩

theorem draftOf?_object {ms : List (String × Json)}
    {services : OrderedMap String (OrderedMap String Draft.Operation)}
    {models : OrderedMap String (OrderedMap String Json)} {enums : OrderedMap String (List String)}
    (hservices : memberOf? (dictOf? (dictOf? operationOf?)) "services" ms = some (some services))
    (hmodels : memberOf? (dictOf? (dictOf? some)) "models" ms = some (some models))
    (henums : memberOf? (dictOf? (listOf? textOf?)) "enums" ms = some (some enums)) :
    draftOf? (.object ms) = some ⟨services, models, enums⟩ := by
  simp only [draftOf?, Json.objectOf?, hservices, hmodels, henums]
  rfl

/-- The value that is written for a definition holds its draft. -/
theorem draftOf?_toJson {d : Definition}
    (h : ∀ s ∈ d.services.values, (s.map Operation.name).Nodup) :
    draftOf? d.toJson = some d.toDraft := by
  have hmodel : ∀ m : Model, dictOf? some (Model.toJson m)
      = some (m.mapValues fun _ type => type.toJson) := fun m =>
    Json.dictOf?_entries fun _ _ => rfl
  have henum : ∀ e : Enumeration, listOf? textOf? (Enumeration.toJson e) = some e := by
    intro e
    have htext : ∀ s, textOf? (.string s) = some (id s) := fun _ => rfl
    have hvalues := Json.listOf?_map htext e
    rwa [List.map_id] at hvalues
  have hservices := Json.dictOf?_entries (m := d.services) fun s hs => serviceOf?_toJson (h s hs)
  have hmodels := Json.dictOf?_entries (m := d.models) fun m _ => hmodel m
  have henums := Json.dictOf?_entries (g := id) (m := d.enums) fun e _ => henum e
  -- enumerations are held as they are written
  have hsame : (d.enums.mapValues fun _ => id) = d.enums := OrderedMap.ext (List.map_id _)
  rw [hsame] at henums
  exact draftOf?_object (Json.memberOf?_of_lookup rfl hservices)
    (Json.memberOf?_of_lookup rfl hmodels) (Json.memberOf?_of_lookup rfl henums)

/-! ## Elaborating the draft of a definition -/

theorem matches_map {β γ : Type} {R : β → γ → Prop} {f : γ → β} {m : OrderedMap String γ}
    (h : ∀ c ∈ m.values, R (f c) c) : Matches R (m.entries.map fun e => (e.1, f e.2)) m.entries := by
  rw [Matches, List.forall₂_map_left_iff, List.forall₂_same]
  exact fun e he => ⟨rfl, h e.2 (List.mem_map_of_mem he)⟩

theorem elaboratesOperation_toDraft {o : Operation} (h : ∀ type ∈ o.types, type.hasNames) :
    ElaboratesOperation (o.name, o.toDraft) o := by
  obtain ⟨hparameters, hresponses⟩ := List.forall_mem_append.mp h
  refine ⟨rfl, ?_, matches_map fun body hbody => ?_⟩
  · rw [Operation.toDraft, List.forall₂_map_left_iff, List.forall₂_same]
    exact fun p hp => ⟨rfl, TypeReader.read_toJson (hparameters p.type (List.mem_map_of_mem hp))⟩
  · cases body with
    | none => exact .none
    | some type =>
        have hmem : type ∈ o.responses.values.filterMap id := List.mem_filterMap.mpr ⟨_, hbody, rfl⟩
        exact .some (TypeReader.read_toJson (hresponses type hmem))

/-- The draft of a definition is elaborated to the definition. -/
theorem elaborates_toDraft {d : Definition} (h : d.IsEncodable) : Elaborates d.toDraft d := by
  obtain ⟨hmodels, hservices⟩ := List.forall_mem_append.mp h.hasNames
  refine ⟨matches_map fun m hm => matches_map fun type htype => ?_, matches_map fun s hs => ?_, rfl⟩
  · exact TypeReader.read_toJson (hmodels type (List.mem_flatMap.mpr ⟨m, hm, htype⟩))
  · rw [entries_toDraft (h.nodup_operations s hs), List.forall₂_map_left_iff, List.forall₂_same]
    intro o ho
    refine elaboratesOperation_toDraft fun type htype => hservices type ?_
    exact List.mem_flatMap.mpr ⟨s, hs, List.mem_flatMap.mpr ⟨o, ho, htype⟩⟩

/-- Loading undoes encoding. -/
theorem load_encode {d : Definition} (h : d.IsEncodable) : Definition.load d.encode = .ok d := by
  -- the text spells the value, the value holds the draft, and the draft is elaborated
  have hwritten := Definition.isWritten_toJson h.nodup_operations
  have hdepth : d.toJson.depth ≤ Json.depthLimit := Nat.le_trans hwritten.depth_le (by decide)
  have hread : Draft.read d.encode = .ok d.toDraft :=
    Json.decode_eq_ok hwritten.isTextOf hdepth follows_draft (draftOf?_toJson h.nodup_operations)
  rw [Definition.load, hread]
  simp only [elaborate_eq_ok_iff.mpr (elaborates_toDraft h)]

/-! ## What can be loaded -/

theorem exists_of_mem_values {β γ : Type} {R : β → γ → Prop} {es : List (String × β)}
    {m : OrderedMap String γ} (h : Matches R es m.entries) {c : γ} (hc : c ∈ m.values) :
    ∃ e ∈ es, R e.2 c := by
  obtain ⟨e', he', rfl⟩ := List.mem_map.mp hc
  obtain ⟨e, he, -, hr⟩ := exists_mem_of_forall₂ h he'
  exact ⟨e, he, hr⟩

theorem declared_of_elaboratesOperation {o : String × Draft.Operation} {o' : Operation}
    (h : ElaboratesOperation o o') : ∀ type ∈ o'.types, ∃ v, Declares v type := by
  refine List.forall_mem_append.mpr ⟨List.forall_mem_map.mpr fun p hp => ?_, fun type htype => ?_⟩
  · obtain ⟨p', -, -, hdeclares⟩ := exists_mem_of_forall₂ h.parameters hp
    exact ⟨p'.type, hdeclares⟩
  · obtain ⟨body, hbody, rfl⟩ := List.mem_filterMap.mp htype
    obtain ⟨⟨status, body'⟩, -, hbody'⟩ := exists_of_mem_values h.responses hbody
    cases hbody' with
    | some hdeclares => exact ⟨_, hdeclares⟩

/-- Every type of a definition that is elaborated has been read. -/
theorem declared_of_elaborates {d : Draft} {r : Definition} (h : Elaborates d r) :
    ∀ type ∈ r.types, ∃ v, Declares v type := by
  refine List.forall_mem_append.mpr ⟨fun type htype => ?_, fun type htype => ?_⟩
  · obtain ⟨model, hmodel, htype⟩ := List.mem_flatMap.mp htype
    obtain ⟨m, -, hm⟩ := exists_of_mem_values h.models hmodel
    obtain ⟨p, -, hp⟩ := exists_of_mem_values hm htype
    exact ⟨p.2, hp⟩
  · obtain ⟨service, hservice, htype⟩ := List.mem_flatMap.mp htype
    obtain ⟨operation, hoperation, htype⟩ := List.mem_flatMap.mp htype
    obtain ⟨s, -, hs⟩ := exists_of_mem_values h.services hservice
    obtain ⟨o, -, ho⟩ := exists_mem_of_forall₂ hs hoperation
    exact declared_of_elaboratesOperation ho type htype

/-- What a draft is elaborated to can be encoded. -/
theorem isEncodable_of_elaborates {d : Draft} {r : Definition} (h : Elaborates d r) :
    r.IsEncodable := by
  refine ⟨fun service hservice => ?_, fun type htype => ?_⟩
  · obtain ⟨s, -, hs⟩ := exists_of_mem_values h.services hservice
    have hnames : s.2.entries.map Prod.fst = service.map Operation.name :=
      map_eq_of_forall₂ (hs.imp fun _ _ ho => ho.name.symm)
    -- operations have the names that they have in the draft, where none comes twice
    rw [← hnames]
    exact s.2.nodup_keys
  · obtain ⟨v, hv⟩ := declared_of_elaborates h type htype
    exact TypeReader.hasNames_of_read hv

theorem isEncodable_of_load {source : String} {d : Definition} (h : Definition.load source = .ok d) :
    d.IsEncodable := by
  rw [Definition.load] at h
  cases hread : Draft.read source with
  | error fault =>
      rw [hread] at h
      cases h
  | ok draft =>
      cases helaborate : draft.elaborate with
      | error e =>
          simp only [hread, helaborate] at h
          cases h
      | ok r =>
          simp only [hread, helaborate] at h
          cases h
          exact isEncodable_of_elaborates (elaborate_eq_ok_iff.mp helaborate)

/-- **Loading undoes encoding.**  The text of every definition that can be encoded is loaded as the
definition; and whatever is loaded from a text can be encoded, so that its own text gives it back. -/
theorem load_encode_round_trip :
    (∀ d : Definition, d.IsEncodable → Definition.load d.encode = .ok d) ∧
      ∀ source d, Definition.load source = .ok d →
        d.IsEncodable ∧ Definition.load d.encode = .ok d := by
  refine ⟨fun d => load_encode, fun source d h => ?_⟩
  have hencodable := isEncodable_of_load h
  exact ⟨hencodable, load_encode hencodable⟩

/-- A definition with a type of each kind, a response without a body and names that are escaped. -/
def visits : Definition where
  services := ⟨[("Visits", [⟨"book", [⟨"when", ⟨.primitive .string (some "date-time"), false⟩⟩,
      ⟨"pets", ⟨.model "Pet", true⟩⟩],
      ⟨[("201", some ⟨.enumeration "Kind", false⟩), ("404", none)], by decide⟩⟩])], by decide⟩
  models := ⟨[("Pet", ⟨[("the \"name\"\n", ⟨.primitive .string none, false⟩)], by decide⟩)],
    by decide⟩
  enums := ⟨[("Kind", ["check-up", "größe"])], by decide⟩

theorem load_encode_round_trip_visits :
    visits.IsEncodable ∧ Definition.load visits.encode = .ok visits ∧
      Definition.load "\x7b \"enums\" : \x7b \"K\" : [\"\\u0061\"] \x7d, \"x\" : [1] \x7d"
        = .ok (Definition.empty.withEnum "K" ["a"]) ∧
      Definition.load (Definition.empty.withEnum "K" ["a"]).encode
        = .ok (Definition.empty.withEnum "K" ["a"]) := by
  have hencodable : visits.IsEncodable := ⟨by decide, by decide⟩
  have hload : Definition.load "\x7b \"enums\" : \x7b \"K\" : [\"\\u0061\"] \x7d, \"x\" : [1] \x7d"
      = .ok (Definition.empty.withEnum "K" ["a"]) := rfl
  exact ⟨hencodable, load_encode_round_trip.1 visits hencodable, hload,
    (load_encode_round_trip.2 _ _ hload).2⟩

end ApiProto
