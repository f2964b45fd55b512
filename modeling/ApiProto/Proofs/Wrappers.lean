/-
  Calls and wrapper messages agree.

  The message that a call gives and the wrapper messages of its operation are found by two separate
  searches of the responses.  Both look at the successful responses with a body: a call gives a
  message of the operation's own name exactly where the first of them is primitive, and then the
  first wrapper of the operation is the one for that response (`wrappers_agree`).
-/
import ApiProto.Proofs.BlockOrder
import ApiProto.Proofs.ByteOrder
import ApiProto.Proofs.Pointwise

namespace ApiProto.Proto

/-! ## Responses that call for a wrapper -/

/-- Whether a response is a successful one with a body. -/
def hasSuccessBody (r : String × Option DataType) : Bool := Status.isSuccess r.1 && r.2.isSome

/-- Whether a response is a successful one with a primitive body. -/
def givesPrimitive (r : String × Option DataType) : Bool :=
  Status.isSuccess r.1 && r.2.any DataType.isPrimitive

/-- Whether an operation has a successful response with a primitive body. -/
def needsWrapper (o : Operation) : Bool := o.responses.entries.any givesPrimitive

/-- The responses of an operation that have a wrapper: all that call for one, or the first. -/
def wrappedResponses (deduplicate : Bool) (o : Operation) : List (String × Option DataType) :=
  if deduplicate then (o.responses.entries.filter givesPrimitive).take 1
  else o.responses.entries.filter givesPrimitive

/-- A wrapper has the name of its operation and the kind of the body of its response. -/
def Wraps (o : Operation) (r : String × Option DataType) (w : Wrapper) : Prop :=
  w.name = o.name ∧ ∃ subType isArray, r.2 = some ⟨.primitive w.kind subType, isArray⟩

theorem isPrimitive_iff {t : DataType} :
    t.isPrimitive ↔ ∃ kind subType isArray, t = ⟨.primitive kind subType, isArray⟩ := by
  obtain ⟨reference, isArray⟩ := t
  cases reference <;> simp [DataType.isPrimitive]

theorem wrappedKind?_eq_some_iff {r : String × Option DataType} {kind : Primitive} :
    wrappedKind? r = some kind ↔
      Status.isSuccess r.1 ∧ ∃ subType isArray, r.2 = some ⟨.primitive kind subType, isArray⟩ := by
  obtain ⟨status, body⟩ := r
  constructor
  · intro h
    unfold wrappedKind? at h
    split at h
    · rename_i subType isArray hr
      cases hr
      obtain ⟨hsuccess, hkind⟩ := Option.ite_none_right_eq_some.mp h
      cases hkind
      exact ⟨hsuccess, subType, isArray, rfl⟩
    · cases h
  · rintro ⟨hsuccess, subType, isArray, hbody⟩
    cases hbody
    exact if_pos hsuccess

theorem isSome_wrappedKind? (r : String × Option DataType) :
    (wrappedKind? r).isSome = givesPrimitive r := by
  rw [Bool.eq_iff_iff, Option.isSome_iff_exists, givesPrimitive, Bool.and_eq_true,
    Option.any_eq_true]
  simp only [wrappedKind?_eq_some_iff, isPrimitive_iff]
  constructor
  · rintro ⟨kind, hsuccess, subType, isArray, hbody⟩
    exact ⟨hsuccess, _, hbody, kind, subType, isArray, rfl⟩
  · rintro ⟨hsuccess, _, hbody, kind, subType, isArray, rfl⟩
    exact ⟨kind, hsuccess, subType, isArray, hbody⟩

/-- Only responses with a body count for either search. -/
theorem wrappedKind?_eq_none {r : String × Option DataType} (h : ¬ hasSuccessBody r) :
    wrappedKind? r = none := by
  rw [Option.eq_none_iff_forall_ne_some]
  intro kind hkind
  obtain ⟨hsuccess, subType, isArray, hbody⟩ := wrappedKind?_eq_some_iff.mp hkind
  exact h ((Bool.and_eq_true _ _).mpr ⟨hsuccess, by rw [hbody]; rfl⟩)

/-! ## The wrappers of an operation -/

section Operations

variable (deduplicate : Bool) (o : Operation)

/-- One wrapper stands for each response that calls for one, in their order. -/
theorem forall₂_wraps (rs : List (String × Option DataType)) :
    List.Forall₂ (Wraps o) (rs.filter givesPrimitive)
      ((rs.filterMap wrappedKind?).map fun kind => ⟨o.name, kind⟩) := by
  induction rs with
  | nil => exact .nil
  | cons r rest ih =>
      rw [List.filter_cons, ← isSome_wrappedKind?]
      cases hkind : wrappedKind? r with
      | none => rwa [List.filterMap_cons_none hkind]
      | some kind =>
          rw [List.filterMap_cons_some hkind]
          exact .cons ⟨rfl, (wrappedKind?_eq_some_iff.mp hkind).2⟩ ih

theorem operationWrappers_forall₂ :
    List.Forall₂ (Wraps o) (wrappedResponses deduplicate o) (operationWrappers deduplicate o) := by
  have hall := forall₂_wraps o o.responses.entries
  cases deduplicate with
  | false => exact hall
  | true => exact List.forall₂_take 1 hall

/-- Every wrapper of an operation stands for a response that calls for one. -/
theorem exists_response_of_mem {w : Wrapper} (hw : w ∈ operationWrappers deduplicate o) :
    ∃ r ∈ o.responses.entries, givesPrimitive r ∧ Wraps o r w := by
  obtain ⟨r, hr, hwraps⟩ := exists_mem_of_forall₂ (operationWrappers_forall₂ deduplicate o) hw
  have hmem : r ∈ o.responses.entries.filter givesPrimitive := by
    cases deduplicate with
    | false => exact hr
    | true => exact List.mem_of_mem_take hr
  obtain ⟨hr, hprimitive⟩ := List.mem_filter.mp hmem
  exact ⟨r, hr, hprimitive, hwraps⟩

theorem length_wrappedResponses_true :
    (wrappedResponses true o).length = if needsWrapper o then 1 else 0 := by
  have hcount : (o.responses.entries.filter givesPrimitive).length ≠ 0 ↔ needsWrapper o := by
    rw [needsWrapper, List.any_eq_true, ← Nat.pos_iff_ne_zero, List.length_filter_pos_iff]
  show (List.take 1 _).length = _
  rw [List.length_take]
  by_cases h : needsWrapper o
  · have hpos := hcount.mpr h
    rw [if_pos h]
    omega
  · have hzero := not_not.mp (mt hcount.mp h)
    rw [if_neg h, hzero, Nat.min_zero]

/-- An operation has wrappers exactly if it needs one, also if only the first is kept. -/
theorem operationWrappers_ne_nil_iff : operationWrappers deduplicate o ≠ [] ↔ needsWrapper o := by
  have hlength := (operationWrappers_forall₂ deduplicate o).length_eq
  have hresponses : wrappedResponses deduplicate o ≠ [] ↔ needsWrapper o := by
    cases deduplicate with
    | false => simp [wrappedResponses, needsWrapper]
    | true =>
        rw [← List.length_pos_iff, length_wrappedResponses_true]
        split <;> simp [*]
  rw [← hresponses, ← List.length_pos_iff, ← List.length_pos_iff, hlength]

end Operations

/-! ## The first successful body -/

/-- A search for values ends where the search for members that may have one does, if that one has. -/
theorem findSome?_of_find? {α β : Type} {p : α → Bool} {f : α → Option β} {l : List α} {a : α}
    {b : β} (hfind : l.find? p = some a) (hnone : ∀ x, ¬ p x → f x = none) (ha : f a = some b) :
    l.findSome? f = some b := by
  -- the members before the first one have no value
  obtain ⟨-, before, after, rfl, hbefore⟩ := List.find?_eq_some_iff_append.mp hfind
  have hskip : before.findSome? f = none := by
    refine List.findSome?_eq_none_iff.mpr fun x hx => hnone x ?_
    simpa using hbefore x hx
  rw [List.findSome?_append, hskip, Option.none_or, List.findSome?_cons, ha]

section FirstBody

variable {o : Operation} {status : String}

/-- A response that is not successful or has no body is passed over. -/
theorem successBody_eq_none {r : String × Option DataType} (h : ¬ hasSuccessBody r) :
    (if Status.isSuccess r.1 then r.2 else none) = none := by
  rw [hasSuccessBody, Bool.and_eq_true, not_and, Option.not_isSome_iff_eq_none] at h
  exact ite_eq_right_iff.mpr h

/-- A call gives what its first successful body asks for. -/
theorem returnType_of_find? {t : DataType}
    (h : o.responses.entries.find? hasSuccessBody = some (status, some t)) :
    returnType o = some (responseType o.name t) := by
  have hsuccess : Status.isSuccess status := by
    simpa [hasSuccessBody] using List.find?_some h
  have hhead : o.successTypes.head? = some t := by
    rw [Operation.successTypes, List.head?_filterMap]
    exact findSome?_of_find? h (fun _ => successBody_eq_none) (if_pos hsuccess)
  obtain ⟨types, htypes⟩ := List.head?_eq_some_iff.mp hhead
  rw [returnType, htypes]

/-- If the first successful body is primitive, its wrapper is the first of the operation. -/
theorem operationWrappers_of_find? {kind : Primitive} {subType : Option String} {isArray : Bool}
    (h : o.responses.entries.find? hasSuccessBody
      = some (status, some ⟨.primitive kind subType, isArray⟩)) (deduplicate : Bool) :
    ∃ rest, operationWrappers deduplicate o = ⟨o.name, kind⟩ :: rest := by
  have hsuccess : Status.isSuccess status := by
    simpa [hasSuccessBody] using List.find?_some h
  have hhead : (o.responses.entries.filterMap wrappedKind?).head? = some kind := by
    rw [List.head?_filterMap]
    exact findSome?_of_find? h (fun _ => wrappedKind?_eq_none) (if_pos hsuccess)
  obtain ⟨kinds, hkinds⟩ := List.head?_eq_some_iff.mp hhead
  unfold operationWrappers
  rw [hkinds]
  cases deduplicate with
  | false => exact ⟨_, rfl⟩
  | true => exact ⟨[], rfl⟩

end FirstBody

/-! ## Groups -/

/-- Groups of wrapper messages agree with the calls of a definition. -/
structure WrappersAgree (d : Definition) (deduplicate : Bool) (groups : List (List Wrapper)) :
    Prop where
  /-- There is a group for each service with an operation that needs a wrapper, in the order of the
  bytes of their names; it holds what the operations contribute, in their order. -/
  groups_eq : ∃ services : List (String × Service),
    services.Perm (d.services.entries.filter fun s => s.2.any needsWrapper) ∧
    (services.map fun s => Text.bytes s.1).Pairwise (· < ·) ∧
    groups = services.map fun s => s.2.flatMap (operationWrappers deduplicate)
  /-- An operation contributes one wrapper for each of its wrapped responses, in their order. -/
  contribution : ∀ s ∈ d.services.entries, ∀ o ∈ s.2,
    List.Forall₂ (Wraps o) (wrappedResponses deduplicate o) (operationWrappers deduplicate o)
  /-- If wrappers are not repeated, it contributes one if it needs one. -/
  single : deduplicate = true → ∀ s ∈ d.services.entries, ∀ o ∈ s.2,
    (operationWrappers deduplicate o).length = if needsWrapper o then 1 else 0
  /-- Every wrapper stands for a successful response with a primitive body. -/
  source : ∀ group ∈ groups, ∀ w ∈ group, ∃ s ∈ d.services.entries, ∃ o ∈ s.2,
    ∃ r ∈ o.responses.entries, givesPrimitive r ∧ Wraps o r w
  /-- If the first successful body of an operation is primitive, the call gives a message of the
  operation's name, and its wrapper comes first in what the operation contributes to the group. -/
  call : ∀ s ∈ d.services.entries, ∀ o ∈ s.2, ∀ status kind subType isArray,
    o.responses.entries.find? hasSuccessBody
        = some (status, some ⟨.primitive kind subType, isArray⟩) →
      returnType o = some o.name ∧
      s.2.flatMap (operationWrappers deduplicate) ∈ groups ∧
      ∃ rest, operationWrappers deduplicate o = ⟨o.name, kind⟩ :: rest

section Groups

variable (d : Definition) (deduplicate : Bool)

/-- The services with a group, in the order of the groups. -/
def wrappingServices : List (String × Service) :=
  (sortedServices d).filter fun s => s.2.any needsWrapper

theorem flatMap_operationWrappers_ne_nil_iff (operations : Service) :
    operations.flatMap (operationWrappers deduplicate) ≠ [] ↔ operations.any needsWrapper := by
  rw [List.any_eq_true, ne_eq, List.flatMap_eq_nil_iff, not_forall]
  simp only [Classical.not_imp, ← ne_eq, operationWrappers_ne_nil_iff]

theorem wrapperGroups_eq_map : wrapperGroups (sortedServices d) deduplicate
    = (wrappingServices d).map fun s => s.2.flatMap (operationWrappers deduplicate) := by
  rw [wrapperGroups, List.filter_map, wrappingServices]
  congr 1
  refine List.filter_congr fun s _ => ?_
  have hiff := flatMap_operationWrappers_ne_nil_iff deduplicate s.2
  rw [Bool.eq_iff_iff, ← hiff]
  simp

theorem wrappingServices_perm :
    (wrappingServices d).Perm (d.services.entries.filter fun s => s.2.any needsWrapper) :=
  (sortedServices_perm d).filter _

/-- No two services have one name, so their bytes are strictly ordered. -/
theorem pairwise_bytes_sortedServices :
    ((sortedServices d).map fun s => Text.bytes s.1).Pairwise (· < ·) := by
  have hle := pairwise_le_sortedServices d
  have hne : ((sortedServices d).map Prod.fst).Nodup :=
    ((sortedServices_perm d).map Prod.fst).nodup_iff.mpr d.services.nodup_keys
  have hlt : ((sortedServices d).map Prod.fst).Pairwise (· < ·) :=
    (hle.and hne).imp fun h => lt_of_le_of_ne h.1 h.2
  rw [List.pairwise_map] at hlt ⊢
  exact hlt.imp Text.bytes_lt_iff.mpr

theorem pairwise_bytes_wrappingServices :
    ((wrappingServices d).map fun s => Text.bytes s.1).Pairwise (· < ·) :=
  (pairwise_bytes_sortedServices d).sublist (List.filter_sublist.map _)

theorem mem_wrappingServices {s : String × Service} :
    s ∈ wrappingServices d ↔ s ∈ d.services.entries ∧ s.2.any needsWrapper :=
  (wrappingServices_perm d).mem_iff.trans List.mem_filter

end Groups

/-- **Calls and wrapper messages agree**, whether wrappers are repeated or not. -/
theorem wrappers_agree (d : Definition) (deduplicate : Bool) :
    WrappersAgree d deduplicate (wrapperGroups (sortedServices d) deduplicate) where
  groups_eq := ⟨wrappingServices d, wrappingServices_perm d, pairwise_bytes_wrappingServices d,
    wrapperGroups_eq_map d deduplicate⟩
  contribution _ _ o _ := operationWrappers_forall₂ deduplicate o
  single hdeduplicate _ _ o _ := by
    subst hdeduplicate
    rw [← (operationWrappers_forall₂ true o).length_eq, length_wrappedResponses_true]
  source group hgroup w hw := by
    rw [wrapperGroups_eq_map] at hgroup
    obtain ⟨s, hs, rfl⟩ := List.mem_map.mp hgroup
    obtain ⟨o, ho, hw⟩ := List.mem_flatMap.mp hw
    exact ⟨s, ((mem_wrappingServices d).mp hs).1, o, ho, exists_response_of_mem deduplicate o hw⟩
  call s hs o ho status kind subType isArray hfind := by
    obtain ⟨rest, hrest⟩ := operationWrappers_of_find? hfind deduplicate
    -- the operation has a wrapper, so its service has a group
    have hneeds : s.2.any needsWrapper :=
      List.any_eq_true.mpr ⟨o, ho, (operationWrappers_ne_nil_iff deduplicate o).mp (by simp [hrest])⟩
    have hgroup : s.2.flatMap (operationWrappers deduplicate)
        ∈ wrapperGroups (sortedServices d) deduplicate := by
      rw [wrapperGroups_eq_map]
      exact List.mem_map_of_mem ((mem_wrappingServices d).mpr ⟨hs, hneeds⟩)
    exact ⟨returnType_of_find? hfind, hgroup, rest, hrest⟩

/-- An operation that fails with a text, and otherwise gives nothing, a number or a text. -/
def count : Operation where
  name := "count"
  parameters := []
  responses := .ofList [("404", some ⟨.primitive .string none, false⟩), ("204", none),
    ("200", some ⟨.primitive .integer none, false⟩), ("201", some ⟨.primitive .string none, true⟩)]

/-- An API that counts. -/
def tally : Definition := Definition.empty.withService "TallyService" [count]

theorem wrappers_agree_tally :
    count.responses.entries.find? hasSuccessBody
        = some ("200", some ⟨.primitive .integer none, false⟩) ∧
      returnType count = some "count" ∧
      [count].flatMap (operationWrappers false) ∈ wrapperGroups (sortedServices tally) false ∧
      ∃ rest, operationWrappers false count = ⟨"count", .integer⟩ :: rest := by
  have hfind : count.responses.entries.find? hasSuccessBody
      = some ("200", some ⟨.primitive .integer none, false⟩) := by decide +kernel
  have hservice : ("TallyService", [count]) ∈ tally.services.entries := by decide +kernel
  exact ⟨hfind, (wrappers_agree tally false).call _ hservice count List.mem_cons_self _ _ _ _ hfind⟩

end ApiProto.Proto
