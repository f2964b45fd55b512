/-
  Which type a JSON value declares.

  `Decides` is the rule, with one constructor for each case: what is no object, an object with a
  member that holds a value of the wrong kind, and objects by the first of `primitive`, `complex` and
  `enum` that they have.  It says of every value what `read` comes to (`decides_read`), and that
  nothing else does (`read_of_decides`).  A type that is read depends on the members that count
  alone, not on their order (`read_of_sameMembers`).
-/
import ApiProto.Proofs.Elaboration
import ApiProto.Proofs.Merging

namespace ApiProto

namespace TypeReader

/-! ## Members -/

/-- The names of the members that hold strings. -/
def textNames : List String := ["primitive", "subType", "complex", "enum"]

/-- The names of the members that count. -/
def memberNames : List String := textNames ++ ["isArray"]

/-- A member is there, is not null, and holds a value of another kind than its name asks for. -/
inductive Misfit : String × Json → Json.Expected → Prop
  | text {name : String} {v : Json} (hname : name ∈ textNames) (hnull : v ≠ .null)
      (htext : ∀ s, v ≠ .string s) : Misfit (name, v) .string
  | flag {v : Json} (hnull : v ≠ .null) (hflag : ∀ b, v ≠ .bool b) : Misfit ("isArray", v) .boolean

/-- No member holds a value of the wrong kind. -/
def Fits (members : List (String × Json)) : Prop := ∀ m ∈ members, ∀ expected, ¬ Misfit m expected

/-- The member of a name is a string other than the empty one. -/
def HasText (members : List (String × Json)) (name s : String) : Prop :=
  members.lookup name = some (.string s) ∧ s ≠ ""

/-- Whether the members say that the type is a list: it is none if they do not say so. -/
inductive HasFlag (members : List (String × Json)) : Bool → Prop
  | given {b : Bool} (h : members.lookup "isArray" = some (.bool b)) : HasFlag members b
  | null (h : members.lookup "isArray" = some .null) : HasFlag members false
  | missing (h : members.lookup "isArray" = none) : HasFlag members false

/-! ## The rule -/

/-- What a JSON value declares: a type, or what is wrong with it. -/
inductive Decides : Json → Except TypeFault DataType → Prop
  | notObject {v : Json} (h : ∀ members, v ≠ .object members) : Decides v (.error .undecided)
  /-- The first member of the wrong kind is at fault, whatever the others declare. -/
  | misfit {before after : List (String × Json)} {m : String × Json} {expected : Json.Expected}
      (hm : Misfit m expected) (hbefore : Fits before) :
      Decides (.object (before ++ m :: after)) (.error (.badMember m.2.found expected))
  | primitive {members : List (String × Json)} {kind : Primitive} {subType : Option String}
      {isArray : Bool} (hfits : Fits members) (hkind : HasText members "primitive" kind.name)
      (hsubType : ∀ s, subType = some s ↔ HasText members "subType" s)
      (hflag : HasFlag members isArray) :
      Decides (.object members) (.ok ⟨.primitive kind subType, isArray⟩)
  /-- A name that is none of a kind is a fault, also where a model or an enumeration is named. -/
  | unknownPrimitive {members : List (String × Json)} {name : String} (hfits : Fits members)
      (hname : HasText members "primitive" name) (hkind : ∀ kind : Primitive, kind.name ≠ name) :
      Decides (.object members) (.error (.unknownPrimitive name))
  | model {members : List (String × Json)} {name : String} {isArray : Bool} (hfits : Fits members)
      (hprimitive : ∀ s, ¬ HasText members "primitive" s) (hname : HasText members "complex" name)
      (hflag : HasFlag members isArray) : Decides (.object members) (.ok ⟨.model name, isArray⟩)
  | enumeration {members : List (String × Json)} {name : String} {isArray : Bool}
      (hfits : Fits members) (hprimitive : ∀ s, ¬ HasText members "primitive" s)
      (hcomplex : ∀ s, ¬ HasText members "complex" s) (hname : HasText members "enum" name)
      (hflag : HasFlag members isArray) :
      Decides (.object members) (.ok ⟨.enumeration name, isArray⟩)
  | undecided {members : List (String × Json)} (hfits : Fits members)
      (hprimitive : ∀ s, ¬ HasText members "primitive" s)
      (hcomplex : ∀ s, ¬ HasText members "complex" s) (henum : ∀ s, ¬ HasText members "enum" s) :
      Decides (.object members) (.error .undecided)

/-! ## What the reader sees -/

section Members

variable {members : List (String × Json)} {m : String × Json} {name s : String}

theorem memberFault?_of_misfit {expected : Json.Expected} (h : Misfit m expected) :
    memberFault? m = some (.badMember m.2.found expected) := by
  cases h with
  | @text name v hname hnull htext =>
      have hcontains : ["primitive", "subType", "complex", "enum"].contains name = true :=
        List.contains_iff_mem.mpr hname
      cases v with
      | null => exact absurd rfl hnull
      | string s => exact absurd rfl (htext s)
      | _ => simp only [memberFault?, hcontains, if_true]
  | @flag v hnull hflag =>
      cases v with
      | null => exact absurd rfl hnull
      | bool b => exact absurd rfl (hflag b)
      | _ => rfl

theorem memberFault?_of_not_misfit (h : ∀ expected, ¬ Misfit m expected) :
    memberFault? m = none := by
  obtain ⟨name, v⟩ := m
  by_cases hname : name ∈ textNames
  · have hcontains : ["primitive", "subType", "complex", "enum"].contains name = true :=
      List.contains_iff_mem.mpr hname
    have hv : v = .null ∨ ∃ s, v = .string s := by
      by_contra hother
      obtain ⟨hnull, htext⟩ := not_or.mp hother
      exact h _ (.text hname hnull (not_exists.mp htext))
    obtain rfl | ⟨s, rfl⟩ := hv
    · rfl
    · simp only [memberFault?, hcontains, if_true]
  · have hcontains : ["primitive", "subType", "complex", "enum"].contains name = false :=
      Bool.eq_false_iff.mpr fun hmem => hname (List.contains_iff_mem.mp hmem)
    by_cases hflag : name = "isArray"
    · subst hflag
      have hv : v = .null ∨ ∃ b, v = .bool b := by
        by_contra hother
        obtain ⟨hnull, hbool⟩ := not_or.mp hother
        exact h _ (.flag hnull (not_exists.mp hbool))
      obtain rfl | ⟨b, rfl⟩ := hv <;> rfl
    · -- the value of a member that does not count may be of any kind
      cases v <;> simp only [memberFault?, hcontains, hflag, if_false, Bool.false_eq_true]

/-- The reader finds no fault in the members exactly if they fit. -/
theorem findSome?_memberFault?_eq_none_iff :
    members.findSome? memberFault? = none ↔ Fits members := by
  rw [List.findSome?_eq_none_iff]
  constructor
  · intro h m hm expected hmisfit
    have hnone := h m hm
    rw [memberFault?_of_misfit hmisfit] at hnone
    cases hnone
  · intro h m hm
    exact memberFault?_of_not_misfit (h m hm)

/-- The fault that the reader finds is that of the first member that does not fit. -/
theorem exists_misfit_of_findSome? {fault : TypeFault}
    (h : members.findSome? memberFault? = some fault) :
    ∃ before m after expected, members = before ++ m :: after ∧ Misfit m expected ∧ Fits before ∧
      fault = .badMember m.2.found expected := by
  obtain ⟨before, m, after, hmembers, hm, hbefore⟩ := List.findSome?_eq_some_iff.mp h
  have hfits : Fits before :=
    findSome?_memberFault?_eq_none_iff.mp (List.findSome?_eq_none_iff.mpr hbefore)
  by_cases hmisfit : ∃ expected, Misfit m expected
  · obtain ⟨expected, hmisfit⟩ := hmisfit
    rw [memberFault?_of_misfit hmisfit] at hm
    exact ⟨before, m, after, expected, hmembers, hmisfit, hfits, (Option.some.inj hm).symm⟩
  · rw [memberFault?_of_not_misfit (not_exists.mp hmisfit)] at hm
    cases hm

theorem textMember?_eq_some_iff : textMember? members name = some s ↔ HasText members name s := by
  unfold textMember? HasText
  constructor
  · intro h
    split at h
    · rename_i s' hlookup
      split at h
      · cases h
      · rename_i hne
        cases h
        exact ⟨hlookup, hne⟩
    · cases h
  · rintro ⟨hlookup, hne⟩
    rw [hlookup]
    exact if_neg hne

theorem textMember?_eq_none_iff :
    textMember? members name = none ↔ ∀ s, ¬ HasText members name s := by
  rw [Option.eq_none_iff_forall_ne_some]
  simp only [ne_eq, textMember?_eq_some_iff]

theorem isArray_of_hasFlag {b : Bool} (h : HasFlag members b) : isArray members = b := by
  unfold isArray
  cases h with
  | given h => rw [h]
  | null h => rw [h]
  | missing h => rw [h]

/-- If the member is there and not at fault, it is null or a truth value. -/
theorem hasFlag_isArray (hfits : Fits members) : HasFlag members (isArray members) := by
  unfold isArray
  cases hlookup : members.lookup "isArray" with
  | none => exact .missing hlookup
  | some v =>
      obtain ⟨before, after, rfl, -⟩ := List.lookup_eq_some_iff.mp hlookup
      have hflag : ¬ Misfit ("isArray", v) .boolean := hfits _ (by simp) _
      by_cases hnull : v = .null
      · subst hnull
        exact .null hlookup
      · by_cases hbool : ∃ b, v = .bool b
        · obtain ⟨b, rfl⟩ := hbool
          exact .given hlookup
        · exact absurd (.flag hnull (not_exists.mp hbool)) hflag

end Members

theorem ofName?_eq_some_iff {s : String} {kind : Primitive} :
    Primitive.ofName? s = some kind ↔ kind.name = s := by
  constructor
  · intro h
    simpa using List.find?_some h
  · rintro rfl
    exact Primitive.ofName?_name kind

theorem ofName?_eq_none_iff {s : String} :
    Primitive.ofName? s = none ↔ ∀ kind : Primitive, kind.name ≠ s := by
  rw [Option.eq_none_iff_forall_ne_some]
  simp only [ne_eq, ofName?_eq_some_iff]

/-! ## The reader and the rule -/

section Read

variable {members : List (String × Json)}

/-- Members that fit are read by what they refer to. -/
theorem read_of_fits (hfits : Fits members) : read (.object members) =
    match reference members with
    | .error fault => .error fault
    | .ok r => .ok ⟨r, isArray members⟩ := by
  rw [read, findSome?_memberFault?_eq_none_iff.mpr hfits]
  dsimp only
  cases reference members <;> rfl

/-- **What the reader gives is what the rule says.** -/
theorem decides_read (v : Json) : Decides v (read v) := by
  cases v with
  | object members =>
      cases hfault : members.findSome? memberFault? with
      | some fault =>
          -- what the members refer to does not come into play
          obtain ⟨before, m, after, expected, rfl, hm, hbefore, rfl⟩ :=
            exists_misfit_of_findSome? hfault
          rw [read, hfault]
          exact .misfit hm hbefore
      | none =>
          -- the members fit, and the first of the three names that has a text decides
          have hfits := findSome?_memberFault?_eq_none_iff.mp hfault
          have hflag := hasFlag_isArray hfits
          rw [read_of_fits hfits, reference]
          cases hprimitive : textMember? members "primitive" with
          | some name =>
              dsimp only
              have hname := textMember?_eq_some_iff.mp hprimitive
              cases hkind : Primitive.ofName? name with
              | some kind =>
                  obtain rfl := ofName?_eq_some_iff.mp hkind
                  exact .primitive hfits hname (fun _ => textMember?_eq_some_iff) hflag
              | none => exact .unknownPrimitive hfits hname (ofName?_eq_none_iff.mp hkind)
          | none =>
              dsimp only
              have hnone := textMember?_eq_none_iff.mp hprimitive
              cases hcomplex : textMember? members "complex" with
              | some name => exact .model hfits hnone (textMember?_eq_some_iff.mp hcomplex) hflag
              | none =>
                  dsimp only
                  have hnone' := textMember?_eq_none_iff.mp hcomplex
                  cases henum : textMember? members "enum" with
                  | some name =>
                      exact .enumeration hfits hnone hnone' (textMember?_eq_some_iff.mp henum) hflag
                  | none => exact .undecided hfits hnone hnone' (textMember?_eq_none_iff.mp henum)
  | _ => exact .notObject fun members h => by cases h

/-- The rule says one thing of a value. -/
theorem read_of_decides {v : Json} {r : Except TypeFault DataType} (h : Decides v r) :
    read v = r := by
  cases h with
  | notObject h =>
      cases v with
      | object members => exact absurd rfl (h members)
      | _ => rfl
  | @misfit before after m expected hm hbefore =>
      have hfault : (before ++ m :: after).findSome? memberFault?
          = some (.badMember m.2.found expected) := by
        rw [List.findSome?_append, findSome?_memberFault?_eq_none_iff.mpr hbefore, Option.none_or,
          List.findSome?_cons, memberFault?_of_misfit hm]
      rw [read, hfault]
  | @primitive members kind subType flag hfits hkind hsubType hflag =>
      have hsub : textMember? members "subType" = subType := by
        apply Option.ext
        intro s
        rw [textMember?_eq_some_iff, hsubType s]
      have hreference : reference members = .ok (.primitive kind subType) := by
        simp only [reference, textMember?_eq_some_iff.mpr hkind, Primitive.ofName?_name kind, hsub]
      rw [read_of_fits hfits, hreference, isArray_of_hasFlag hflag]
  | @unknownPrimitive members name hfits hname hkind =>
      have hreference : reference members = .error (.unknownPrimitive name) := by
        simp only [reference, textMember?_eq_some_iff.mpr hname, ofName?_eq_none_iff.mpr hkind]
      rw [read_of_fits hfits, hreference]
  | @model members name flag hfits hprimitive hname hflag =>
      have hreference : reference members = .ok (.model name) := by
        simp only [reference, textMember?_eq_none_iff.mpr hprimitive,
          textMember?_eq_some_iff.mpr hname]
      rw [read_of_fits hfits, hreference, isArray_of_hasFlag hflag]
  | @enumeration members name flag hfits hprimitive hcomplex hname hflag =>
      have hreference : reference members = .ok (.enumeration name) := by
        simp only [reference, textMember?_eq_none_iff.mpr hprimitive,
          textMember?_eq_none_iff.mpr hcomplex, textMember?_eq_some_iff.mpr hname]
      rw [read_of_fits hfits, hreference, isArray_of_hasFlag hflag]
  | @undecided members hfits hprimitive hcomplex henum =>
      have hreference : reference members = .error .undecided := by
        simp only [reference, textMember?_eq_none_iff.mpr hprimitive,
          textMember?_eq_none_iff.mpr hcomplex, textMember?_eq_none_iff.mpr henum]
      rw [read_of_fits hfits, hreference]

theorem read_eq_iff {v : Json} {r : Except TypeFault DataType} : read v = r ↔ Decides v r :=
  ⟨fun h => h ▸ decides_read v, read_of_decides⟩

end Read

/-! ## Members that count -/

/-- Two objects have the same members under the names that count, in whatever order and among
whatever others.  No name comes twice in either. -/
inductive SameMembers : Json → Json → Prop
  | mk {ms ms' : List (String × Json)} (hnodup : (ms.map Prod.fst).Nodup)
      (hnodup' : (ms'.map Prod.fst).Nodup)
      (hperm : (ms.filter fun m => m.1 ∈ memberNames).Perm (ms'.filter fun m => m.1 ∈ memberNames)) :
      SameMembers (.object ms) (.object ms')

section Order

variable {ms ms' : List (String × Json)}

theorem mem_of_perm (hperm : (ms.filter fun m => m.1 ∈ memberNames).Perm
      (ms'.filter fun m => m.1 ∈ memberNames)) {m : String × Json} (hm : m ∈ ms)
    (hname : m.1 ∈ memberNames) : m ∈ ms' := by
  have hmem : m ∈ ms.filter fun m => m.1 ∈ memberNames :=
    List.mem_filter.mpr ⟨hm, decide_eq_true hname⟩
  exact (List.mem_filter.mp (hperm.mem_iff.mp hmem)).1

theorem lookup_eq_some_iff (hnodup : (ms.map Prod.fst).Nodup) {name : String} {v : Json} :
    ms.lookup name = some v ↔ (name, v) ∈ ms :=
  OrderedMap.get?_eq_some_iff (m := ⟨ms, hnodup⟩)

theorem Misfit.name_mem {m : String × Json} {expected : Json.Expected} (h : Misfit m expected) :
    m.1 ∈ memberNames := by
  cases h with
  | text hname => exact List.mem_append_left _ hname
  | flag => exact List.mem_append_right _ List.mem_cons_self

/-- A member that counts is found in both, with one value. -/
theorem lookup_eq_of_perm (hnodup : (ms.map Prod.fst).Nodup) (hnodup' : (ms'.map Prod.fst).Nodup)
    (hperm : (ms.filter fun m => m.1 ∈ memberNames).Perm (ms'.filter fun m => m.1 ∈ memberNames))
    {name : String} (hname : name ∈ memberNames) : ms.lookup name = ms'.lookup name := by
  apply Option.ext
  intro v
  rw [lookup_eq_some_iff hnodup, lookup_eq_some_iff hnodup']
  exact ⟨fun hm => mem_of_perm hperm hm hname, fun hm => mem_of_perm hperm.symm hm hname⟩

theorem Fits.of_perm (hfits : Fits ms) (hperm : (ms.filter fun m => m.1 ∈ memberNames).Perm
    (ms'.filter fun m => m.1 ∈ memberNames)) : Fits ms' := by
  intro m hm expected hmisfit
  exact hfits m (mem_of_perm hperm.symm hm hmisfit.name_mem) expected hmisfit

theorem reference_congr (h : ∀ name ∈ memberNames, ms.lookup name = ms'.lookup name) :
    reference ms = reference ms' := by
  have htext : ∀ name ∈ memberNames, textMember? ms name = textMember? ms' name := by
    intro name hname
    rw [textMember?, textMember?, h name hname]
  simp only [reference, htext "primitive" (by decide), htext "subType" (by decide),
    htext "complex" (by decide), htext "enum" (by decide)]

end Order

theorem fits_of_read_eq_ok {members : List (String × Json)} {type : DataType}
    (h : read (.object members) = .ok type) : Fits members := by
  rw [← findSome?_memberFault?_eq_none_iff]
  cases hfault : members.findSome? memberFault? with
  | none => rfl
  | some fault =>
      rw [read, hfault] at h
      cases h

/-- **A type that is read depends on the members that count**, and not on their order. -/
theorem read_of_sameMembers {v v' : Json} {type : DataType} (hsame : SameMembers v v')
    (h : read v = .ok type) : read v' = .ok type := by
  obtain @⟨ms, ms', hnodup, hnodup', hperm⟩ := hsame
  have hfits := fits_of_read_eq_ok h
  have hlookup : ∀ name ∈ memberNames, ms.lookup name = ms'.lookup name :=
    fun name hname => lookup_eq_of_perm hnodup hnodup' hperm hname
  have harray : isArray ms = isArray ms' := by
    rw [isArray, isArray, hlookup "isArray" (by decide)]
  rw [read_of_fits (hfits.of_perm hperm), ← reference_congr hlookup, ← harray, ← read_of_fits hfits]
  exact h

end TypeReader

namespace Draft

open TypeReader

theorem typeAt_eq_ok_iff {place : Place} {v : Json} {type : DataType} :
    typeAt place v = .ok type ↔ Decides v (.ok type) := by
  rw [← read_eq_iff, typeAt]
  cases TypeReader.read v <;> simp

theorem typeAt_eq_error_iff {place : Place} {v : Json} {e : SchemaError} :
    typeAt place v = .error e ↔ e.place = place ∧ e.property = v ∧ Decides v (.error e.fault) := by
  obtain ⟨fault, place', v'⟩ := e
  rw [← read_eq_iff, typeAt]
  cases TypeReader.read v with
  | ok type => simp
  | error fault' =>
      constructor
      · intro h
        cases h
        exact ⟨rfl, rfl, rfl⟩
      · rintro ⟨rfl, rfl, h⟩
        cases h
        rfl

/-- **Every JSON value is decided as the rule says**, at every place.  An error has the place and the
value as they were given, and a type does not depend on the order of the members, nor on members of
other names. -/
theorem typeAt_decides (place : Place) (v : Json) :
    (∀ type, typeAt place v = .ok type ↔ Decides v (.ok type)) ∧
      (∀ e, typeAt place v = .error e ↔
        e.place = place ∧ e.property = v ∧ Decides v (.error e.fault)) ∧
      ∀ v', SameMembers v v' → ∀ type, typeAt place v = .ok type → typeAt place v' = .ok type := by
  refine ⟨fun type => typeAt_eq_ok_iff, fun e => typeAt_eq_error_iff, fun v' hsame type h => ?_⟩
  rw [typeAt_eq_ok_iff, ← read_eq_iff] at h ⊢
  exact read_of_sameMembers hsame h

/-- A list of numbers of 64 bits, with a model and an enumeration that do not come into play. -/
def numbers : Json := .object [("complex", .string "Pet"), ("enum", .string "Kind"),
  ("primitive", .string "integer"), ("subType", .string "int64"), ("isArray", .bool true)]

/-- The same members the other way round, with one of another name between them. -/
def numbersReversed : Json := .object [("isArray", .bool true), ("subType", .string "int64"),
  ("format", .array []), ("primitive", .string "integer"), ("enum", .string "Kind"),
  ("complex", .string "Pet")]

theorem typeAt_decides_numbers :
    SameMembers numbers numbersReversed ∧
      typeAt (.property "Pet" "scores") numbers = .ok ⟨.primitive .integer (some "int64"), true⟩ ∧
      typeAt (.property "Pet" "scores") numbersReversed
        = .ok ⟨.primitive .integer (some "int64"), true⟩ := by
  have hsame : SameMembers numbers numbersReversed :=
    ⟨by decide, by decide, (List.reverse_perm _).symm⟩
  have hnumbers : typeAt (.property "Pet" "scores") numbers
      = .ok ⟨.primitive .integer (some "int64"), true⟩ := rfl
  exact ⟨hsame, hnumbers, (typeAt_decides _ numbers).2.2 _ hsame _ hnumbers⟩

-- A member of the wrong kind is at fault even where the kind of the primitive is unknown.
example : TypeReader.read (.object [("primitive", .string "decimal"), ("isArray", .string "yes")])
    = .error (.badMember (.string "yes") .boolean) := by
  rfl

end Draft

end ApiProto
