/-
  Maps that remember the order in which their keys arrived.

  An `OrderedMap` is a list of entries with pairwise different keys.  Inserting under a key that is
  present replaces its value where it stands; inserting under a new key appends.  The list of
  entries is the one view of a map: two maps are equal exactly if their entries are.
-/

namespace ApiProto

/-- Entries in the order in which their keys first arrived, each key once. -/
@[ext] structure OrderedMap (α β : Type) where
  entries : List (α × β)
  nodup_keys : (entries.map Prod.fst).Nodup

namespace OrderedMap

variable {α β γ : Type}

section Entries

variable [DecidableEq α]

/-- The entries with the value of `k` set to `v`: in place if `k` is there, else at the end. -/
def insertEntry (k : α) (v : β) : List (α × β) → List (α × β)
  | [] => [(k, v)]
  | (k', v') :: rest => if k' = k then (k, v) :: rest else (k', v') :: insertEntry k v rest

theorem keys_insertEntry (k : α) (v : β) (es : List (α × β)) :
    (insertEntry k v es).map Prod.fst =
      if k ∈ es.map Prod.fst then es.map Prod.fst else es.map Prod.fst ++ [k] := by
  induction es with
  | nil => simp [insertEntry]
  | cons e rest ih =>
    obtain ⟨k', v'⟩ := e
    by_cases h : k' = k
    · simp [insertEntry, h]
    · have h' : ¬ k = k' := fun e => h e.symm
      by_cases hm : k ∈ rest.map Prod.fst
      · simp only [insertEntry, h, if_false, List.map_cons, ih, hm, if_true, List.mem_cons, or_true]
      · simp only [insertEntry, h, if_false, List.map_cons, ih, hm, h', List.mem_cons, or_self,
          List.cons_append]

theorem nodup_keys_insertEntry (k : α) (v : β) {es : List (α × β)}
    (h : (es.map Prod.fst).Nodup) : ((insertEntry k v es).map Prod.fst).Nodup := by
  rw [keys_insertEntry]
  split
  · exact h
  · rename_i hk
    rw [List.nodup_append]
    refine ⟨h, by simp, ?_⟩
    intro a ha b hb e
    rw [List.mem_singleton] at hb
    exact hk (hb ▸ e ▸ ha)

end Entries

/-! ## Maps -/

/-- The map without entries. -/
def empty : OrderedMap α β := ⟨[], by simp⟩

instance : Inhabited (OrderedMap α β) := ⟨empty⟩

/-- Sets the value of a key; a new key goes to the end, a known one keeps its place. -/
def insert [DecidableEq α] (m : OrderedMap α β) (k : α) (v : β) : OrderedMap α β :=
  ⟨insertEntry k v m.entries, nodup_keys_insertEntry k v m.nodup_keys⟩

/-- The map that arises by inserting the pairs one after the other. -/
def ofList [DecidableEq α] (es : List (α × β)) : OrderedMap α β :=
  es.foldl (fun m e => m.insert e.1 e.2) empty

/-- The value of a key. -/
def get? [DecidableEq α] (m : OrderedMap α β) (k : α) : Option β := m.entries.lookup k

/-- The keys in order. -/
def keys (m : OrderedMap α β) : List α := m.entries.map Prod.fst

/-- The values in the order of their keys. -/
def values (m : OrderedMap α β) : List β := m.entries.map Prod.snd

/-- The number of entries. -/
def size (m : OrderedMap α β) : Nat := m.entries.length

/-- Whether there is no entry. -/
def isEmpty (m : OrderedMap α β) : Bool := m.entries.isEmpty

/-- Applies a function to every value. -/
def mapValues (f : α → β → γ) (m : OrderedMap α β) : OrderedMap α γ :=
  ⟨m.entries.map fun e => (e.1, f e.1 e.2), by
    have : (m.entries.map fun e => (e.1, f e.1 e.2)).map Prod.fst = m.entries.map Prod.fst := by
      simp [List.map_map, Function.comp_def]
    rw [this]; exact m.nodup_keys⟩

instance [DecidableEq α] [DecidableEq β] : DecidableEq (OrderedMap α β) := fun m n =>
  if h : m.entries = n.entries then isTrue (OrderedMap.ext h)
  else isFalse fun e => h (e ▸ rfl)

/-! ## Traversal -/

/-- Applies a function that may fail to each value in order; the first failure counts. -/
def traverseEntries {ε : Type} (f : α → β → Except ε γ) : List (α × β) → Except ε (List (α × γ))
  | [] => .ok []
  | (k, v) :: rest =>
    match f k v with
    | .error e => .error e
    | .ok w =>
      match traverseEntries f rest with
      | .error e => .error e
      | .ok ws => .ok ((k, w) :: ws)

theorem keys_traverseEntries {ε : Type} {f : α → β → Except ε γ} {es : List (α × β)}
    {ws : List (α × γ)} (h : traverseEntries f es = .ok ws) :
    ws.map Prod.fst = es.map Prod.fst := by
  induction es generalizing ws with
  | nil => cases h; rfl
  | cons e rest ih =>
    simp only [traverseEntries] at h
    split at h
    · cases h
    · split at h
      · cases h
      · rename_i w _ ws' hr
        cases h
        simp [ih hr]

/-- Applies a function that may fail to each value in order; the first failure counts. -/
def traverse {ε : Type} (f : α → β → Except ε γ) (m : OrderedMap α β) :
    Except ε (OrderedMap α γ) :=
  match h : traverseEntries f m.entries with
  | .error e => .error e
  | .ok es => .ok ⟨es, by rw [keys_traverseEntries h]; exact m.nodup_keys⟩

theorem traverse_eq_ok_iff {ε : Type} {f : α → β → Except ε γ} {m : OrderedMap α β}
    {n : OrderedMap α γ} : m.traverse f = .ok n ↔ traverseEntries f m.entries = .ok n.entries := by
  unfold traverse
  split
  · rename_i h; simp [h]
  · rename_i es h
    simp only [h, Except.ok.injEq]
    exact ⟨fun e => e ▸ rfl, fun e => OrderedMap.ext e⟩

theorem traverse_eq_error_iff {ε : Type} {f : α → β → Except ε γ} {m : OrderedMap α β} {e : ε} :
    m.traverse f = .error e ↔ traverseEntries f m.entries = .error e := by
  unfold traverse
  split
  · rename_i h; simp [h]
  · rename_i es h; simp [h]

@[simp] theorem entries_empty : (empty : OrderedMap α β).entries = [] := rfl

@[simp] theorem entries_insert [DecidableEq α] (m : OrderedMap α β) (k : α) (v : β) :
    (m.insert k v).entries = insertEntry k v m.entries := rfl

theorem keys_insert [DecidableEq α] (m : OrderedMap α β) (k : α) (v : β) :
    (m.insert k v).keys = if k ∈ m.keys then m.keys else m.keys ++ [k] :=
  keys_insertEntry k v m.entries

@[simp] theorem entries_mapValues (f : α → β → γ) (m : OrderedMap α β) :
    (m.mapValues f).entries = m.entries.map fun e => (e.1, f e.1 e.2) := rfl

end OrderedMap

end ApiProto
