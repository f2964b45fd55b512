/-
  Maps built from lists in which keys may repeat.

  `OrderedMap.ofList` inserts pair after pair.  A key then stands where it came first
  (`keys_ofList`), with the value that came last (`get?_ofList`).  `rekey` is what renaming makes of
  a map: the pairs of images and new values, inserted in order.  A later insertion into the map that
  brings no image of another key leaves what `rekey` finds under an image, or makes it grow
  (`exists_get?_rekey_insert`).  Where no two keys have one image every entry stays in its place
  (`entries_rekey_of_injOn`), and two steps of renaming are one (`rekey_rekey`).
-/
import ApiProto.OrderedMap
import Mathlib.Data.List.Induction
import Mathlib.Data.List.Nodup

namespace ApiProto.OrderedMap

variable {α β γ δ : Type}

/-- The last entry whose key has the image. -/
def lastWith? [DecidableEq γ] (f : α → γ) (x : γ) (es : List (α × β)) : Option (α × β) :=
  (es.filter fun e => f e.1 = x).getLast?

theorem lastWith?_append_singleton [DecidableEq γ] (f : α → γ) (x : γ) (es : List (α × β))
    (e : α × β) :
    lastWith? f x (es ++ [e]) = if f e.1 = x then some e else lastWith? f x es := by
  unfold lastWith?
  rw [List.filter_append]
  by_cases h : f e.1 = x
  · simp [h]
  · simp [h]

theorem lastWith?_map [DecidableEq γ] (f : α → γ) (g : β → δ) (x : γ) (es : List (α × β)) :
    lastWith? id x (es.map fun e => (f e.1, g e.2))
      = (lastWith? f x es).map fun e => (f e.1, g e.2) := by
  unfold lastWith?
  rw [List.filter_map, List.getLast?_map]
  rfl

/-- Some entry is the last one exactly if the image has a key. -/
theorem exists_lastWith?_iff [DecidableEq γ] {f : α → γ} {x : γ} {es : List (α × β)} :
    (∃ e, lastWith? f x es = some e) ↔ ∃ k ∈ es.map Prod.fst, f k = x := by
  rw [← Option.isSome_iff_exists, lastWith?, List.getLast?_isSome, ← List.length_pos_iff,
    List.length_filter_pos_iff]
  simp

/-! ## Look-up -/

section Lookup

variable [DecidableEq α]

theorem get?_eq_some_iff {m : OrderedMap α β} {k : α} {v : β} :
    m.get? k = some v ↔ (k, v) ∈ m.entries := by
  have hnodup := m.nodup_keys
  unfold get?
  constructor
  · intro h
    obtain ⟨before, after, hes, -⟩ := List.lookup_eq_some_iff.mp h
    simp [hes]
  · -- keys are pairwise different, so none before the entry has its key
    intro h
    obtain ⟨before, after, hes⟩ := List.append_of_mem h
    refine List.lookup_eq_some_iff.mpr ⟨before, after, hes, fun p hp => ?_⟩
    rw [hes, List.map_append, List.nodup_append] at hnodup
    have hne : p.1 ≠ k := hnodup.2.2 p.1 (List.mem_map_of_mem hp) k (by simp)
    simpa using hne.symm

theorem lookup_cons_eq_ite (k x : α) (v : β) (es : List (α × β)) :
    ((k, v) :: es).lookup x = if x = k then some v else es.lookup x := by
  rw [List.lookup_cons]
  by_cases h : x = k
  · simp [h]
  · have hbeq : (x == k) = false := beq_false_of_ne h
    rw [hbeq, if_neg h]

theorem lookup_insertEntry (k x : α) (v : β) (es : List (α × β)) :
    (insertEntry k v es).lookup x = if x = k then some v else es.lookup x := by
  induction es with
  | nil =>
      rw [insertEntry, lookup_cons_eq_ite]
  | cons e rest ih =>
      obtain ⟨k', v'⟩ := e
      rw [insertEntry]
      by_cases hk : k' = k
      · rw [if_pos hk, lookup_cons_eq_ite, lookup_cons_eq_ite, hk]
        by_cases hx : x = k <;> simp [hx]
      · rw [if_neg hk, lookup_cons_eq_ite, lookup_cons_eq_ite, ih]
        by_cases hx : x = k'
        · simp [hx, hk]
        · simp [hx]

theorem get?_insert (m : OrderedMap α β) (k x : α) (v : β) :
    (m.insert k v).get? x = if x = k then some v else m.get? x :=
  lookup_insertEntry k x v m.entries

end Lookup

/-! ## Maps from lists -/

section OfList

variable [DecidableEq α]

theorem ofList_append_singleton (es : List (α × β)) (e : α × β) :
    ofList (es ++ [e]) = (ofList es).insert e.1 e.2 := by
  rw [ofList, List.foldl_append]
  rfl

theorem eraseDups_append_singleton (ks : List α) (k : α) :
    (ks ++ [k]).eraseDups = if k ∈ ks then ks.eraseDups else ks.eraseDups ++ [k] := by
  rw [List.eraseDups_append]
  by_cases h : k ∈ ks <;> simp [List.removeAll, List.eraseDups_cons, h]

/-- The keys of a list, each in the place where it came first. -/
theorem keys_ofList (es : List (α × β)) : (ofList es).keys = (es.map Prod.fst).eraseDups := by
  induction es using List.reverseRecOn with
  | nil => rfl
  | append_singleton es e ih =>
      rw [ofList_append_singleton, keys_insert, ih, List.map_append, List.map_singleton,
        eraseDups_append_singleton]
      simp only [List.mem_eraseDups]

/-- The value of a key is the one that came last. -/
theorem get?_ofList (es : List (α × β)) (x : α) :
    (ofList es).get? x = (lastWith? id x es).map Prod.snd := by
  induction es using List.reverseRecOn with
  | nil => rfl
  | append_singleton es e ih =>
      rw [ofList_append_singleton, get?_insert, lastWith?_append_singleton, ih]
      by_cases h : x = e.1
      · simp [h]
      · have h' : ¬ e.1 = x := fun heq => h heq.symm
        simp [h, h']

end OfList

/-! ## Maps with new keys -/

section Rekey

variable [DecidableEq γ] (f : α → γ) (g : β → δ)

/-- The map of the images of the keys with the new values. -/
def rekey (m : OrderedMap α β) : OrderedMap γ δ := ofList (m.entries.map fun e => (f e.1, g e.2))

theorem keys_rekey (m : OrderedMap α β) : (m.rekey f g).keys = (m.keys.map f).eraseDups := by
  rw [rekey, keys_ofList, keys, List.map_map, List.map_map]
  rfl

theorem get?_rekey (m : OrderedMap α β) (x : γ) :
    (m.rekey f g).get? x = (lastWith? f x m.entries).map fun e => g e.2 := by
  rw [rekey, get?_ofList, lastWith?_map, Option.map_map]
  rfl

variable (m : OrderedMap α β)

theorem keys_rekey_subset : (m.rekey f g).keys ⊆ m.keys.map f := by
  intro x hx
  rwa [keys_rekey, List.mem_eraseDups] at hx

/-- Whatever keys come together, no value is made up. -/
theorem values_rekey_subset : (m.rekey f g).values ⊆ m.values.map g := by
  intro w hw
  obtain ⟨⟨x, w⟩, hentry, rfl⟩ := List.mem_map.mp hw
  have hget : (m.rekey f g).get? x = some w := get?_eq_some_iff.mpr hentry
  rw [get?_rekey, Option.map_eq_some_iff] at hget
  obtain ⟨e, hlast, rfl⟩ := hget
  have hmem : e ∈ m.entries := (List.mem_filter.mp (List.mem_of_getLast? hlast)).1
  exact List.mem_map_of_mem (List.mem_map_of_mem hmem)

end Rekey

/-! ## New values -/

section Values

variable [DecidableEq α] (h : β → δ)

theorem map_insertEntry (k : α) (v : β) (es : List (α × β)) :
    (insertEntry k v es).map (fun e => (e.1, h e.2))
      = insertEntry k (h v) (es.map fun e => (e.1, h e.2)) := by
  induction es with
  | nil => rfl
  | cons e rest ih =>
      rw [insertEntry, List.map_cons, insertEntry]
      by_cases hk : e.1 = k
      · rw [if_pos hk, if_pos hk, List.map_cons]
      · rw [if_neg hk, if_neg hk, List.map_cons, ih]

/-- Values may be replaced before the pairs are inserted or afterwards. -/
theorem mapValues_ofList (es : List (α × β)) :
    (ofList es).mapValues (fun _ => h) = ofList (es.map fun e => (e.1, h e.2)) := by
  apply OrderedMap.ext
  rw [entries_mapValues]
  induction es using List.reverseRecOn with
  | nil => rfl
  | append_singleton es e ih =>
      rw [ofList_append_singleton, entries_insert, map_insertEntry, ih, List.map_append,
        List.map_singleton, ofList_append_singleton, entries_insert]

end Values

/-! ## Insertion before renaming -/

section Insertion

variable [DecidableEq α]

theorem insertEntry_of_notMem {k : α} (v : β) {es : List (α × β)} (h : k ∉ es.map Prod.fst) :
    insertEntry k v es = es ++ [(k, v)] := by
  induction es with
  | nil => rfl
  | cons e rest ih =>
      rw [List.map_cons, List.mem_cons, not_or] at h
      rw [insertEntry, if_neg (Ne.symm h.1), ih h.2, List.cons_append]

/-- Entries with new keys, pairwise different, are appended as they are. -/
theorem foldl_insertEntry_of_nodup (init es : List (α × β))
    (h : ((init ++ es).map Prod.fst).Nodup) :
    es.foldl (fun acc e => insertEntry e.1 e.2 acc) init = init ++ es := by
  induction es generalizing init with
  | nil => rw [List.foldl_nil, List.append_nil]
  | cons e es ih =>
      have hsplit : init ++ e :: es = init ++ [e] ++ es := by simp
      have hnew : e.1 ∉ init.map Prod.fst := by
        rw [List.map_append, List.nodup_append] at h
        exact fun hmem => h.2.2 e.1 hmem e.1 (by simp) rfl
      rw [List.foldl_cons, insertEntry_of_notMem e.2 hnew, ih (init ++ [e]) (hsplit ▸ h), hsplit]

theorem entries_foldl_insert (m : OrderedMap α β) (es : List (α × β)) :
    (es.foldl (fun m e => m.insert e.1 e.2) m).entries
      = es.foldl (fun acc e => insertEntry e.1 e.2 acc) m.entries := by
  induction es generalizing m with
  | nil => rfl
  | cons e es ih => exact ih (m.insert e.1 e.2)

/-- A list with pairwise different keys holds the entries of its map. -/
theorem entries_ofList_of_nodup {es : List (α × β)} (h : (es.map Prod.fst).Nodup) :
    (ofList es).entries = es := by
  rw [ofList, entries_foldl_insert]
  exact foldl_insertEntry_of_nodup [] es h

/-- Under a key that is there, the new value takes the place of the old one. -/
theorem insertEntry_of_mem {k : α} (v : β) {es : List (α × β)} (hnodup : (es.map Prod.fst).Nodup)
    (h : k ∈ es.map Prod.fst) :
    insertEntry k v es = es.map fun e => (e.1, if e.1 = k then v else e.2) := by
  induction es with
  | nil => cases h
  | cons e rest ih =>
      obtain ⟨k', v'⟩ := e
      obtain ⟨hk', hrest⟩ := List.nodup_cons.mp hnodup
      rw [insertEntry, List.map_cons]
      by_cases hk : k' = k
      · subst hk
        have hsame : (rest.map fun e => (e.1, if e.1 = k' then v else e.2)) = rest.map id := by
          refine List.map_congr_left fun e he => ?_
          have hne : e.1 ≠ k' := by
            rintro rfl
            exact hk' (show e.1 ∈ rest.map Prod.fst from List.mem_map_of_mem he)
          rw [if_neg hne, id]
        simp [hsame]
      · have hmem : k ∈ rest.map Prod.fst := by
          rcases List.mem_cons.mp h with heq | hmem
          · exact absurd heq.symm hk
          · exact hmem
        rw [if_neg hk, if_neg hk, ih hrest hmem]

variable [DecidableEq γ] {f : α → γ} {m : OrderedMap α β} {k : α}

/-- A new key with a new image comes behind all others. -/
theorem lastWith?_insert_of_fresh (hfresh : ∀ k' ∈ m.keys, f k' ≠ f k) (v : β) {x : γ} {e : α × β}
    (he : lastWith? f x m.entries = some e) :
    lastWith? f x (m.insert k v).entries = some e := by
  have hk : k ∉ m.entries.map Prod.fst := fun hk => hfresh k hk rfl
  obtain ⟨k', hk', hx⟩ := exists_lastWith?_iff.mp ⟨e, he⟩
  have hne : ¬ f k = x := fun heq => hfresh k' hk' (hx.trans heq.symm)
  rw [entries_insert, insertEntry_of_notMem v hk, lastWith?_append_singleton, if_neg hne, he]

/-- Under a key that is there, only the value of its own entry changes. -/
theorem lastWith?_insert_of_mem (hk : k ∈ m.keys) (v : β) (x : γ) :
    lastWith? f x (m.insert k v).entries
      = (lastWith? f x m.entries).map fun e => (e.1, if e.1 = k then v else e.2) := by
  unfold lastWith?
  rw [entries_insert, insertEntry_of_mem v m.nodup_keys hk, List.filter_map, List.getLast?_map]
  rfl

/-- What is found under an image stays or grows, if a value grows or a new image comes in. -/
theorem exists_get?_rekey_insert {g : β → δ} (le : δ → δ → Prop) (hrefl : ∀ w, le w w) {v : β}
    (h : (∃ old, m.get? k = some old ∧ le (g old) (g v)) ∨ ∀ k' ∈ m.keys, f k' ≠ f k)
    {x : γ} {w : δ} (hw : (m.rekey f g).get? x = some w) :
    ∃ w', ((m.insert k v).rekey f g).get? x = some w' ∧ le w w' := by
  rw [get?_rekey, Option.map_eq_some_iff] at hw
  obtain ⟨e, he, rfl⟩ := hw
  rcases h with ⟨old, hold, hle⟩ | hfresh
  · -- the key is there: the same entry is found, with its old value or the new one
    have hentry : (k, old) ∈ m.entries := get?_eq_some_iff.mp hold
    rw [get?_rekey, lastWith?_insert_of_mem (List.mem_map_of_mem hentry), he]
    refine ⟨_, rfl, ?_⟩
    by_cases hk : e.1 = k
    · have hmem : e ∈ m.entries := (List.mem_filter.mp (List.mem_of_getLast? he)).1
      have hval : e.2 = old := by
        have hget := get?_eq_some_iff.mpr (show (k, e.2) ∈ m.entries from hk ▸ hmem)
        rw [hold] at hget
        exact (Option.some.inj hget).symm
      simpa [hk, hval] using hle
    · simpa [hk] using hrefl (g e.2)
  · -- the new entry has another image
    refine ⟨g e.2, ?_, hrefl _⟩
    rw [get?_rekey, lastWith?_insert_of_fresh hfresh v he]
    rfl

/-- A new key with a new image stands at the end. -/
theorem entries_rekey_insert_of_fresh {g : β → δ} (hfresh : ∀ k' ∈ m.keys, f k' ≠ f k) (v : β) :
    ((m.insert k v).rekey f g).entries = (m.rekey f g).entries ++ [(f k, g v)] := by
  have hk : k ∉ m.entries.map Prod.fst := fun hk => hfresh k hk rfl
  have himage : f k ∉ (m.rekey f g).entries.map Prod.fst := by
    intro hmem
    have hkeys : f k ∈ (m.keys.map f).eraseDups := keys_rekey f g m ▸ hmem
    obtain ⟨k', hk', heq⟩ := List.mem_map.mp (List.mem_eraseDups.mp hkeys)
    exact hfresh k' hk' heq
  rw [rekey, entries_insert, insertEntry_of_notMem v hk, List.map_append, List.map_singleton,
    ofList_append_singleton, entries_insert]
  exact insertEntry_of_notMem (g v) himage

end Insertion

/-! ## Images that differ -/

section Apart

variable {f : α → γ} {m : OrderedMap α β}

theorem nodup_map_keys (h : ∀ a ∈ m.keys, ∀ b ∈ m.keys, f a = f b → a = b) :
    (m.keys.map f).Nodup :=
  List.Nodup.map_on h m.nodup_keys

variable [DecidableEq γ]

/-- If no two keys have one image, every entry stays in its place. -/
theorem entries_rekey_of_injOn (h : ∀ a ∈ m.keys, ∀ b ∈ m.keys, f a = f b → a = b) (g : β → δ) :
    (m.rekey f g).entries = m.entries.map fun e => (f e.1, g e.2) := by
  have hkeys : (m.entries.map fun e => (f e.1, g e.2)).map Prod.fst = m.keys.map f := by
    rw [keys, List.map_map, List.map_map]
    rfl
  have hnodup : ((m.entries.map fun e => (f e.1, g e.2)).map Prod.fst).Nodup := by
    rw [hkeys]
    exact nodup_map_keys h
  exact entries_ofList_of_nodup hnodup

/-- Two steps of renaming are one, if the first brings no two keys together.  The second may: both
sides then insert the same pairs in the same order. -/
theorem rekey_rekey {ε ζ : Type} [DecidableEq ε]
    (h : ∀ a ∈ m.keys, ∀ b ∈ m.keys, f a = f b → a = b) (g : β → δ) (f' : γ → ε) (g' : δ → ζ) :
    (m.rekey f g).rekey f' g' = m.rekey (f' ∘ f) (g' ∘ g) := by
  rw [rekey, entries_rekey_of_injOn h, List.map_map]
  rfl

theorem rekey_id [DecidableEq α] (m : OrderedMap α β) : m.rekey id id = m := by
  have hid : ∀ a ∈ m.keys, ∀ b ∈ m.keys, id a = id b → a = b := fun _ _ _ _ hab => hab
  apply OrderedMap.ext
  rw [entries_rekey_of_injOn hid]
  exact List.map_id m.entries

/-- Only the keys and the values that are there count. -/
theorem rekey_congr {f' : α → γ} {g g' : β → δ} (hf : ∀ k ∈ m.keys, f k = f' k)
    (hg : ∀ v ∈ m.values, g v = g' v) : m.rekey f g = m.rekey f' g' := by
  rw [rekey, rekey]
  congr 1
  refine List.map_congr_left fun e he => ?_
  rw [hf e.1 (List.mem_map_of_mem he), hg e.2 (List.mem_map_of_mem he)]

end Apart

end ApiProto.OrderedMap
