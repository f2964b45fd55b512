/-
  Order and uniqueness of a definition that is built up.

  Calls (`Call`) work on a definition and on operations, services and models at hand (`Workbench`),
  which may be new, or taken out of the definition, and are put into it later.  Each call has one
  effect (`Effect`): a map has one entry set (`Sets`) or a list has one element appended, and all
  else stays.  So every definition that is reached has each name once, and a service keeps its
  operations until something else takes its place (`Workbench.run_orderly`).
-/
import ApiProto.LoadError
import ApiProto.Naming.Rename
import ApiProto.Proofs.Merging
import Mathlib.Logic.Function.Basic

namespace ApiProto

/-! ## Entries that are set -/

/-- Between two lists of entries, a key has got a value: where it stood if it was there, and at the
end if it was not.  All other entries are kept. -/
inductive Sets {β : Type} (k : String) (v : β) : List (String × β) → List (String × β) → Prop
  | inPlace {front back : List (String × β)} {old : β} (hfront : k ∉ front.map Prod.fst) :
      Sets k v (front ++ (k, old) :: back) (front ++ (k, v) :: back)
  | atEnd {es : List (String × β)} (hnew : k ∉ es.map Prod.fst) : Sets k v es (es ++ [(k, v)])

section Sets

variable {β : Type} {k : String} {v : β}

theorem Sets.cons {es es' : List (String × β)} (h : Sets k v es es') {e : String × β}
    (hne : e.1 ≠ k) : Sets k v (e :: es) (e :: es') := by
  cases h with
  | @inPlace front back old hfront =>
      have hfront' : k ∉ (e :: front).map Prod.fst :=
        List.not_mem_cons_of_ne_of_not_mem hne.symm hfront
      exact @inPlace _ _ _ (e :: front) back old hfront'
  | atEnd hnew =>
      have hnew' : k ∉ (e :: es).map Prod.fst :=
        List.not_mem_cons_of_ne_of_not_mem hne.symm hnew
      exact atEnd hnew'

theorem sets_insertEntry (es : List (String × β)) :
    Sets k v es (OrderedMap.insertEntry k v es) := by
  induction es with
  | nil => exact .atEnd List.not_mem_nil
  | cons e rest ih =>
      rw [OrderedMap.insertEntry]
      by_cases hk : e.1 = k
      · rw [if_pos hk, ← hk]
        exact @Sets.inPlace _ _ _ [] rest e.2 List.not_mem_nil
      · rw [if_neg hk]
        exact ih.cons hk

theorem Sets.eq_insertEntry {es es' : List (String × β)} (h : Sets k v es es') :
    es' = OrderedMap.insertEntry k v es := by
  cases h with
  | @inPlace front back old hfront =>
      induction front with
      | nil => rw [List.nil_append, List.nil_append, OrderedMap.insertEntry, if_pos rfl]
      | cons e front ih =>
          rw [List.map_cons, List.mem_cons, not_or] at hfront
          obtain ⟨hne, hrest⟩ := hfront
          rw [List.cons_append, List.cons_append, OrderedMap.insertEntry, if_neg (Ne.symm hne),
            ← ih hrest]
  | atEnd hnew => exact (OrderedMap.insertEntry_of_notMem v hnew).symm

/-- Every key that is there keeps its place. -/
theorem Sets.keys_prefix {es es' : List (String × β)} (h : Sets k v es es') :
    es.map Prod.fst <+: es'.map Prod.fst := by
  cases h with
  | inPlace => simp only [List.map_append, List.map_cons, List.prefix_rfl]
  | atEnd =>
      rw [List.map_append]
      exact List.prefix_append _ _

/-- To set an entry is to insert it. -/
theorem sets_iff {m m' : OrderedMap String β} :
    Sets k v m.entries m'.entries ↔ m' = m.insert k v := by
  constructor
  · intro h
    exact OrderedMap.ext h.eq_insertEntry
  · rintro rfl
    exact sets_insertEntry m.entries

end Sets

/-! ## Calls -/

/-- A definition, and the values at hand from which it is built up, by numbers. -/
structure Workbench where
  definition : Definition
  operations : Nat → Operation
  services : Nat → Service
  models : Nat → Model

/-- What is done to a workbench. -/
inductive Call where
  | newOperation (slot : Nat) (name : String)
  | withParameter (slot : Nat) (p : Parameter)
  | withResponse (slot : Nat) (status : String) (body : Option DataType)
  | newService (slot : Nat)
  /-- Takes the service of a name out of the definition, if there is one. -/
  | takeService (slot : Nat) (name : String)
  | withOperation (slot operation : Nat)
  | newModel (slot : Nat)
  /-- Takes the model of a name out of the definition, if there is one. -/
  | takeModel (slot : Nat) (name : String)
  | withProperty (slot : Nat) (name : String) (type : DataType)
  | withService (name : String) (slot : Nat)
  | withModel (name : String) (slot : Nat)
  | withEnum (name : String) (values : Enumeration)
  /-- Replaces the definition by the one of a text, if there is one. -/
  | load (source : String)
  | rename (t : Transforms)

namespace Workbench

def setOperation (b : Workbench) (slot : Nat) (o : Operation) : Workbench :=
  { b with operations := Function.update b.operations slot o }

def setService (b : Workbench) (slot : Nat) (s : Service) : Workbench :=
  { b with services := Function.update b.services slot s }

def setModel (b : Workbench) (slot : Nat) (m : Model) : Workbench :=
  { b with models := Function.update b.models slot m }

/-- Does a call. -/
def apply (b : Workbench) : Call → Workbench
  | .newOperation slot name => b.setOperation slot (.named name)
  | .withParameter slot p => b.setOperation slot ((b.operations slot).withParameter p)
  | .withResponse slot status body =>
    b.setOperation slot ((b.operations slot).withResponse status body)
  | .newService slot => b.setService slot []
  | .takeService slot name =>
    b.setService slot ((b.definition.services.get? name).getD (b.services slot))
  | .withOperation slot operation =>
    b.setService slot ((b.services slot).withOperation (b.operations operation))
  | .newModel slot => b.setModel slot OrderedMap.empty
  | .takeModel slot name =>
    b.setModel slot ((b.definition.models.get? name).getD (b.models slot))
  | .withProperty slot name type => b.setModel slot ((b.models slot).withProperty name type)
  | .withService name slot =>
    { b with definition := b.definition.withService name (b.services slot) }
  | .withModel name slot => { b with definition := b.definition.withModel name (b.models slot) }
  | .withEnum name values => { b with definition := b.definition.withEnum name values }
  | .load source =>
    match Definition.load source with
    | .ok d => { b with definition := d }
    | .error _ => b
  | .rename t => { b with definition := b.definition.rename t }

/-- Does calls one after the other. -/
def run (b : Workbench) (calls : List Call) : Workbench := calls.foldl apply b

theorem run_append_singleton (b : Workbench) (calls : List Call) (call : Call) :
    b.run (calls ++ [call]) = (b.run calls).apply call := by
  rw [run, List.foldl_append]
  rfl

/-! ## Effects of calls -/

/-- The effect of a call: what is set or appended, with all else as it was. -/
inductive Effect (b : Workbench) : Call → Workbench → Prop
  | newOperation {slot : Nat} {name : String} :
      Effect b (.newOperation slot name) (b.setOperation slot ⟨name, [], OrderedMap.empty⟩)
  | withParameter {slot : Nat} {p : Parameter} {o : Operation} (hslot : b.operations slot = o) :
      Effect b (.withParameter slot p)
        (b.setOperation slot { o with parameters := o.parameters ++ [p] })
  | withResponse {slot : Nat} {status : String} {body : Option DataType} {o : Operation}
      {responses : OrderedMap String (Option DataType)} (hslot : b.operations slot = o)
      (hset : Sets status body o.responses.entries responses.entries) :
      Effect b (.withResponse slot status body) (b.setOperation slot { o with responses })
  | newService {slot : Nat} : Effect b (.newService slot) (b.setService slot [])
  | takeService {slot : Nat} {name : String} {s : Service}
      (hget : b.definition.services.get? name = some s) :
      Effect b (.takeService slot name) (b.setService slot s)
  | noService {slot : Nat} {name : String} (hget : b.definition.services.get? name = none) :
      Effect b (.takeService slot name) b
  | withOperation {slot operation : Nat} {s : Service} {o : Operation}
      (hservice : b.services slot = s) (hoperation : b.operations operation = o) :
      Effect b (.withOperation slot operation) (b.setService slot (s ++ [o]))
  | newModel {slot : Nat} : Effect b (.newModel slot) (b.setModel slot OrderedMap.empty)
  | takeModel {slot : Nat} {name : String} {m : Model}
      (hget : b.definition.models.get? name = some m) :
      Effect b (.takeModel slot name) (b.setModel slot m)
  | noModel {slot : Nat} {name : String} (hget : b.definition.models.get? name = none) :
      Effect b (.takeModel slot name) b
  | withProperty {slot : Nat} {name : String} {type : DataType} {m m' : Model}
      (hslot : b.models slot = m) (hset : Sets name type m.entries m'.entries) :
      Effect b (.withProperty slot name type) (b.setModel slot m')
  | withService {name : String} {slot : Nat} {services : OrderedMap String Service}
      (hset : Sets name (b.services slot) b.definition.services.entries services.entries) :
      Effect b (.withService name slot) { b with definition := { b.definition with services } }
  | withModel {name : String} {slot : Nat} {models : OrderedMap String Model}
      (hset : Sets name (b.models slot) b.definition.models.entries models.entries) :
      Effect b (.withModel name slot) { b with definition := { b.definition with models } }
  | withEnum {name : String} {values : Enumeration} {enums : OrderedMap String Enumeration}
      (hset : Sets name values b.definition.enums.entries enums.entries) :
      Effect b (.withEnum name values) { b with definition := { b.definition with enums } }
  | loaded {source : String} {d : Definition} (hload : Definition.load source = .ok d) :
      Effect b (.load source) { b with definition := d }
  | notLoaded {source : String} {e : LoadError} (hload : Definition.load source = .error e) :
      Effect b (.load source) b
  | rename {t : Transforms} : Effect b (.rename t) { b with definition := b.definition.rename t }

theorem setService_self (b : Workbench) (slot : Nat) : b.setService slot (b.services slot) = b := by
  rw [setService, Function.update_eq_self]

theorem setModel_self (b : Workbench) (slot : Nat) : b.setModel slot (b.models slot) = b := by
  rw [setModel, Function.update_eq_self]

theorem effect_apply (b : Workbench) (call : Call) : Effect b call (b.apply call) := by
  cases call with
  | newOperation slot name => exact .newOperation
  | withParameter slot p => exact .withParameter rfl
  | withResponse slot status body => exact .withResponse rfl (sets_iff.mpr rfl)
  | newService slot => exact .newService
  | takeService slot name =>
      rw [apply]
      cases hget : b.definition.services.get? name with
      | none =>
          rw [Option.getD_none, setService_self]
          exact .noService hget
      | some s => exact .takeService hget
  | withOperation slot operation => exact .withOperation rfl rfl
  | newModel slot => exact .newModel
  | takeModel slot name =>
      rw [apply]
      cases hget : b.definition.models.get? name with
      | none =>
          rw [Option.getD_none, setModel_self]
          exact .noModel hget
      | some m => exact .takeModel hget
  | withProperty slot name type => exact .withProperty rfl (sets_iff.mpr rfl)
  | withService name slot => exact .withService (sets_iff.mpr rfl)
  | withModel name slot => exact .withModel (sets_iff.mpr rfl)
  | withEnum name values => exact .withEnum (sets_iff.mpr rfl)
  | load source =>
      rw [apply]
      cases hload : Definition.load source with
      | ok d => exact .loaded hload
      | error e => exact .notLoaded hload
  | rename t => exact .rename

end Workbench

/-! ## Runs -/

/-- A call puts another definition in the place of the whole one. -/
inductive Call.ReplacesAll (b : Workbench) : Call → Prop
  | load {source : String} {d : Definition} (hload : Definition.load source = .ok d) :
      ReplacesAll b (.load source)
  | rename (t : Transforms) : ReplacesAll b (.rename t)

/-- A call puts something else in the place of a service: a service that does not start with the
operations of the one that is there, or a whole definition. -/
inductive Call.Replaces (name : String) (b : Workbench) : Call → Prop
  | withService {slot : Nat} {s : Service} (hget : b.definition.services.get? name = some s)
      (hother : ¬ s <+: b.services slot) : Replaces name b (.withService name slot)
  | all {call : Call} (h : call.ReplacesAll b) : Replaces name b call

/-- The names of a definition stand at the start of those of another one, in the same places. -/
structure Definition.KeysPrefix (d d' : Definition) : Prop where
  services : d.services.keys <+: d'.services.keys
  models : d.models.keys <+: d'.models.keys
  enums : d.enums.keys <+: d'.enums.keys

/-- A service of a definition is in another one, where it has at least its operations. -/
def Definition.KeepsService (name : String) (d d' : Definition) : Prop :=
  ∀ s, d.services.get? name = some s → ∃ s', d'.services.get? name = some s' ∧ s <+: s'

theorem Definition.KeysPrefix.refl (d : Definition) : d.KeysPrefix d :=
  ⟨List.prefix_rfl, List.prefix_rfl, List.prefix_rfl⟩

theorem Definition.KeysPrefix.trans {d d' d'' : Definition} (h : d.KeysPrefix d')
    (h' : d'.KeysPrefix d'') : d.KeysPrefix d'' :=
  ⟨h.services.trans h'.services, h.models.trans h'.models, h.enums.trans h'.enums⟩

theorem Definition.KeepsService.refl (name : String) (d : Definition) : d.KeepsService name d :=
  fun s hget => ⟨s, hget, List.prefix_rfl⟩

theorem Definition.KeepsService.trans {name : String} {d d' d'' : Definition}
    (h : d.KeepsService name d') (h' : d'.KeepsService name d'') : d.KeepsService name d'' := by
  intro s hget
  obtain ⟨s', hget', hprefix⟩ := h s hget
  obtain ⟨s'', hget'', hprefix'⟩ := h' s' hget'
  exact ⟨s'', hget'', hprefix.trans hprefix'⟩

namespace Workbench

/-- Some call has had a property when it was done. -/
def SomeCall (P : Workbench → Call → Prop) (b : Workbench) (calls : List Call) : Prop :=
  ∃ before call after, calls = before ++ call :: after ∧ P (b.run before) call

/-- What every call without a property keeps, calls keep one after the other. -/
theorem someCall_or_keeps {P : Workbench → Call → Prop} {R : Definition → Definition → Prop}
    (hrefl : ∀ d, R d d) (htrans : ∀ d d' d'', R d d' → R d' d'' → R d d'')
    (hstep : ∀ b call, P b call ∨ R b.definition (b.apply call).definition) (b : Workbench)
    (calls : List Call) : SomeCall P b calls ∨ R b.definition (b.run calls).definition := by
  induction calls generalizing b with
  | nil => exact .inr (hrefl b.definition)
  | cons call calls ih =>
      obtain hfirst | hkeeps := hstep b call
      · exact .inl ⟨[], call, calls, rfl, hfirst⟩
      · obtain ⟨before, call', after, rfl, hlater⟩ | hkeeps' := ih (b.apply call)
        · exact .inl ⟨call :: before, call', after, rfl, hlater⟩
        · exact .inr (htrans _ _ _ hkeeps hkeeps')

/-- Names stay in their places unless the whole definition is replaced. -/
theorem Effect.keysPrefix {b b' : Workbench} {call : Call} (h : Effect b call b') :
    call.ReplacesAll b ∨ b.definition.KeysPrefix b'.definition := by
  have hrefl := Definition.KeysPrefix.refl b.definition
  cases h with
  | loaded hload => exact .inl (.load hload)
  | rename => exact .inl (.rename _)
  | withService hset => exact .inr { hrefl with services := hset.keys_prefix }
  | withModel hset => exact .inr { hrefl with models := hset.keys_prefix }
  | withEnum hset => exact .inr { hrefl with enums := hset.keys_prefix }
  -- no other call touches the definition
  | newOperation | withParameter | withResponse | newService | takeService | noService
  | withOperation | newModel | takeModel | noModel | withProperty | notLoaded => exact .inr hrefl

/-- A service stays or grows unless something else takes its place. -/
theorem Effect.keepsService {b b' : Workbench} {call : Call} (h : Effect b call b')
    (name : String) : call.Replaces name b ∨ b.definition.KeepsService name b'.definition := by
  have hrefl := Definition.KeepsService.refl name b.definition
  cases h with
  | loaded hload => exact .inl (.all (.load hload))
  | rename => exact .inl (.all (.rename _))
  | @withService name' slot services hset =>
      obtain rfl := sets_iff.mp hset
      by_cases hreplaces : (Call.withService name' slot).Replaces name b
      · exact .inl hreplaces
      · refine .inr fun s hget => ?_
        by_cases hname : name = name'
        · subst hname
          have hprefix : s <+: b.services slot := by
            by_contra hother
            exact hreplaces (.withService hget hother)
          exact ⟨_, by rw [OrderedMap.get?_insert, if_pos rfl], hprefix⟩
        · exact ⟨s, by rw [OrderedMap.get?_insert, if_neg hname, hget], List.prefix_rfl⟩
  -- no other call touches the services of the definition
  | newOperation | withParameter | withResponse | newService | takeService | noService
  | withOperation | newModel | takeModel | noModel | withProperty | withModel | withEnum
  | notLoaded => exact .inr hrefl

end Workbench

/-! ## Order -/

/-- No name occurs twice in a definition. -/
structure Definition.NamesOnce (d : Definition) : Prop where
  services : d.services.keys.Nodup
  models : d.models.keys.Nodup
  enums : d.enums.keys.Nodup
  properties : ∀ m ∈ d.models.values, m.keys.Nodup
  statuses : ∀ s ∈ d.services.values, ∀ o ∈ s, o.responses.keys.Nodup

theorem Definition.namesOnce (d : Definition) : d.NamesOnce where
  services := d.services.nodup_keys
  models := d.models.nodup_keys
  enums := d.enums.nodup_keys
  properties m _ := m.nodup_keys
  statuses _ _ o _ := o.responses.nodup_keys

namespace Workbench

/-- Calls that were done one after the other have kept order. -/
structure Orderly (b : Workbench) (calls : List Call) : Prop where
  names : (b.run calls).definition.NamesOnce
  /-- Every call has had its effect on what the calls before it had come to. -/
  effect : ∀ before call after, calls = before ++ call :: after →
    Effect (b.run before) call (b.run (before ++ [call]))
  places : SomeCall (fun b call => call.ReplacesAll b) b calls ∨
    b.definition.KeysPrefix (b.run calls).definition
  services : ∀ name, SomeCall (fun b call => call.Replaces name b) b calls ∨
    b.definition.KeepsService name (b.run calls).definition

/-- **Whatever is done, order is kept.**  However a definition is built up, loaded and renamed, it
has every name once; an entry that is set stays where its key first came, a new one comes last, and
a list grows at its end; and operations leave a service only where it is replaced. -/
theorem run_orderly (b : Workbench) (calls : List Call) : Orderly b calls where
  names := (b.run calls).definition.namesOnce
  effect before call _ _ := by
    rw [run_append_singleton]
    exact effect_apply _ call
  places := someCall_or_keeps Definition.KeysPrefix.refl (fun _ _ _ => Definition.KeysPrefix.trans)
    (fun b call => (b.effect_apply call).keysPrefix) b calls
  services name := someCall_or_keeps (Definition.KeepsService.refl name)
    (fun _ _ _ => Definition.KeepsService.trans)
    (fun b call => (b.effect_apply call).keepsService name) b calls

/-- A workbench with nothing on it. -/
def empty : Workbench :=
  ⟨.empty, fun _ => .named "", fun _ => [], fun _ => OrderedMap.empty⟩

-- A service that is taken out, extended and put back stays before a service that came later.
example :
    (empty.run [.withService "pets" 0, .withService "orders" 0, .newOperation 0 "list",
      .takeService 0 "pets", .withOperation 0 0, .withService "pets" 0]).definition.services.entries
      = [("pets", [.named "list"]), ("orders", [])] := by
  decide

end Workbench

end ApiProto
