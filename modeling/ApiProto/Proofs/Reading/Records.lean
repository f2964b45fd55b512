/-
  Objects with fixed members, each of which may come once.

  A `Slot` is such a member as a part of a state.  `recordRule` reads the slots of a list and skips
  all other members.  The names of an object's members are pairwise different, so a slot is empty
  as long as its name stands among the members to come, and none is refused as repeated.
-/
import ApiProto.Draft.Reader
import ApiProto.Proofs.Reading.Decoders
import Mathlib.Data.List.Pairwise

namespace ApiProto.Json

open ApiProto.Draft (once)

variable {σ : Type}

/-- A member that may come once: its name, its part of the state, how it is read and what its value
comes to. -/
structure Slot (σ : Type) where
  {α : Type}
  name : String
  seen : σ → Option α
  put : σ → α → σ
  decoder : Decoder α
  view : Json → Option α

/-- The rule for the members of a record. -/
def recordRule : List (Slot σ) → Nat → σ → String → MemberRule σ
  | [], _, _, _ => .skip
  | f :: fs, room, s, member =>
    if member = f.name then once (f.seen s) f.decoder (f.put s) room
    else recordRule fs room s member

/-- The state with what the member of a slot comes to. -/
def Slot.set (f : Slot σ) (s : σ) (a? : Option f.α) : σ := a?.elim s (f.put s)

/-- The state with all slots that stand among the members. -/
def fillRecord : List (Slot σ) → List (String × Json) → σ → Option σ
  | [], _, s => some s
  | f :: fs, ms, s => memberOf? f.view f.name ms >>= fun a? => fillRecord fs ms (f.set s a?)

/-- Two slots are different parts of the state. -/
structure Slot.Independent (f g : Slot σ) : Prop where
  name_ne : f.name ≠ g.name
  seen_put : ∀ s a, g.seen (f.put s a) = g.seen s
  seen_put' : ∀ s a, f.seen (g.put s a) = f.seen s
  put_comm : ∀ s a b, g.put (f.put s a) b = f.put (g.put s b) a

theorem Slot.Independent.symm {f g : Slot σ} (h : f.Independent g) : g.Independent f :=
  ⟨h.name_ne.symm, h.seen_put', h.seen_put, fun s a b => (h.put_comm s b a).symm⟩

instance : Std.Symm (@Slot.Independent σ) := ⟨fun _ _ h => h.symm⟩

variable {fs : List (Slot σ)} {f : Slot σ} {name : String} {v : Json} {ms : List (String × Json)}

/-! ## One member -/

theorem recordRule_of_notMem (h : ∀ f ∈ fs, f.name ≠ name) (room : Nat) (s : σ) :
    recordRule fs room s name = .skip := by
  induction fs with
  | nil => rfl
  | cons f fs ih =>
      obtain ⟨hf, hfs⟩ := List.forall_mem_cons.mp h
      rw [recordRule, if_neg hf.symm, ih hfs]

theorem recordRule_of_mem (hfs : fs.Pairwise Slot.Independent) (hf : f ∈ fs) (room : Nat) (s : σ) :
    recordRule fs room s f.name = once (f.seen s) f.decoder (f.put s) room := by
  induction fs with
  | nil => cases hf
  | cons g fs ih =>
      obtain ⟨hg, hfs⟩ := List.pairwise_cons.mp hfs
      rcases List.mem_cons.mp hf with rfl | hf
      · rw [recordRule, if_pos rfl]
      · rw [recordRule, if_neg (hg f hf).name_ne.symm, ih hfs hf]

/-- A member that is no slot changes nothing. -/
theorem fillRecord_cons_of_notMem (h : ∀ f ∈ fs, f.name ≠ name) (s : σ) :
    fillRecord fs ((name, v) :: ms) s = fillRecord fs ms s := by
  induction fs generalizing s with
  | nil => rfl
  | cons f fs ih =>
      obtain ⟨hf, hfs⟩ := List.forall_mem_cons.mp h
      simp only [fillRecord, memberOf?_cons_ne hf, ih hfs]

theorem fillRecord_nil (s : σ) : fillRecord fs [] s = some s := by
  induction fs generalizing s with
  | nil => rfl
  | cons f fs ih => exact ih s

/-- Setting one slot and setting another can be done in either order. -/
theorem Slot.Independent.put_set {f g : Slot σ} (h : g.Independent f) (s : σ) (a : f.α)
    (b? : Option g.α) : f.put (g.set s b?) a = g.set (f.put s a) b? := by
  cases b? with
  | none => rfl
  | some b => exact h.put_comm s b a

/-- A member that is a slot can be put into the state first. -/
theorem fillRecord_cons_of_mem (hfs : fs.Pairwise Slot.Independent) (hf : f ∈ fs)
    (hnew : f.name ∉ ms.map Prod.fst) (s : σ) :
    fillRecord fs ((f.name, v) :: ms) s = f.view v >>= fun a => fillRecord fs ms (f.put s a) := by
  induction fs generalizing s with
  | nil => cases hf
  | cons g fs ih =>
      obtain ⟨hg, hfs⟩ := List.pairwise_cons.mp hfs
      rcases List.mem_cons.mp hf with rfl | hf
      · have hothers : ∀ g ∈ fs, g.name ≠ f.name := fun g hmem => (hg g hmem).name_ne.symm
        simp only [fillRecord, memberOf?_cons_self, memberOf?_of_notMem hnew,
          fillRecord_cons_of_notMem hothers]
        cases f.view v <;> rfl
      · have hindependent := hg f hf
        simp only [fillRecord, memberOf?_cons_ne hindependent.name_ne, ih hfs hf,
          hindependent.put_set]
        exact Option.bind_comm (memberOf? g.view g.name ms) (f.view v)

/-! ## All members -/

/-- A slot whose place is empty takes its member. -/
theorem fills_once {room : Nat} {rule : σ → String → MemberRule σ} {s : σ} {rest : σ → Option σ}
    (hf : f.decoder.Follows f.view)
    (hrule : rule s f.name = once none f.decoder (f.put s) room)
    (hrest : ∀ a, Fills room rule (f.put s a) ms (rest (f.put s a))) :
    Fills room rule s ((f.name, v) :: ms) (f.view v >>= fun a => rest (f.put s a)) := by
  have hbind : (f.view v >>= fun a => rest (f.put s a)) = (f.view v).map (f.put s) >>= rest := by
    cases f.view v <;> rfl
  rw [hbind]
  refine .take hrule ?_ ?_
  · intro text b hv hb hdepth rest offset hrest
    exact (hf room v hv hb hdepth rest offset hrest).map (f.put s)
  · intro s' hs'
    obtain ⟨a, -, rfl⟩ := Option.map_eq_some_iff.mp hs'
    exact hrest a

/-- The rule for records fills the slots whose members are to come, if they are empty. -/
theorem fills_record (hfs : fs.Pairwise Slot.Independent)
    (hfollows : ∀ f ∈ fs, f.decoder.Follows f.view) (room : Nat) (hnodup : (ms.map Prod.fst).Nodup)
    {s : σ} (hempty : ∀ f ∈ fs, f.name ∈ ms.map Prod.fst → f.seen s = none) :
    Fills room (recordRule fs room) s ms (fillRecord fs ms s) := by
  induction ms generalizing s with
  | nil =>
      rw [fillRecord_nil]
      exact .nil
  | cons m ms ih =>
      obtain ⟨name, v⟩ := m
      obtain ⟨hnew, hnodup'⟩ := List.nodup_cons.mp hnodup
      by_cases hname : ∃ f ∈ fs, f.name = name
      · obtain ⟨f, hf, rfl⟩ := hname
        rw [fillRecord_cons_of_mem hfs hf hnew]
        have hseen : f.seen s = none := hempty f hf (by simp)
        refine fills_once (hfollows f hf) (hseen ▸ recordRule_of_mem hfs hf room s) fun a => ?_
        refine ih hnodup' fun g hg hmem => ?_
        -- a slot to come is not the one that has been put in, for no name comes twice
        have hne : f ≠ g := by
          rintro rfl
          exact hnew hmem
        have hindependent : f.Independent g := hfs.forall hf hg hne
        rw [hindependent.seen_put]
        exact hempty g hg (List.mem_cons_of_mem _ hmem)
      · have hothers : ∀ f ∈ fs, f.name ≠ name := fun f hf heq => hname ⟨f, hf, heq⟩
        rw [fillRecord_cons_of_notMem hothers]
        refine .skip (recordRule_of_notMem hothers room s) (ih hnodup' fun f hf hmem => ?_)
        exact hempty f hf (List.mem_cons_of_mem _ hmem)

/-- A record is read as its slots, if no slot is filled at the start and only the shape is refused
in the end. -/
theorem follows_record {α : Type} {expected : Expected} {init : σ} {finish : σ → Except Cause α}
    (hfs : fs.Pairwise Slot.Independent) (hfollows : ∀ f ∈ fs, f.decoder.Follows f.view)
    (hinit : ∀ f ∈ fs, f.seen init = none)
    (hfinish : ∀ s cause, finish s = .error cause → cause.isShape) :
    (Decoder.object expected init (recordRule fs) finish).Follows
      (objectOf? fun ms => fillRecord fs ms init >>= fun s => (finish s).toOption) :=
  follows_object (fun room _ hnodup => fills_record hfs hfollows room hnodup fun f hf _ => hinit f hf)
    hfinish

end ApiProto.Json
