import Mathlib.Algebra.Ring.Nat
import Mathlib.Data.List.AList

/-!
# Finite maps

Every table of the modelled program is a map of the C++ standard library. Here it is an
association list whose keys are pairwise distinct, which is Mathlib's `AList` at a constant
family: the distinctness of the keys is a field of the type, so that no later proof has to
carry it.

What Mathlib does not have are the readings the proofs of this development use: `lookup`
after an insertion or a removal as a conditional on the key
(`UbsEngine.Map.lookup_insert_ite`, `UbsEngine.Map.lookup_erase_ite`), the removal of a
whole list of keys (`UbsEngine.Map.eraseAll`), a map given by its keys
(`UbsEngine.Map.ofKeys`), a change to one entry (`UbsEngine.Map.modify`), and what a table
weighs altogether when each of its entries has a weight (`UbsEngine.Map.total`): inserting
and erasing change the total by the weight of the one entry that changes.
-/

namespace UbsEngine

/-- A **finite map** from `K` to `V`. -/
abbrev Map (K V : Type*) := AList (fun _ : K => V)

namespace Map

variable {K V : Type*} [DecidableEq K]

theorem lookup_insert_ite (m : Map K V) (k k' : K) (v : V) :
    (m.insert k v).lookup k' = if k' = k then some v else m.lookup k' := by
  split
  next h => subst h; exact AList.lookup_insert m
  next h => exact AList.lookup_insert_ne h

theorem lookup_erase_ite (m : Map K V) (k k' : K) :
    (m.erase k).lookup k' = if k' = k then none else m.lookup k' := by
  split
  next h => subst h; exact AList.lookup_erase k' m
  next h => exact AList.lookup_erase_ne h

theorem mem_keys_iff {m : Map K V} {k : K} : k ∈ m.keys ↔ ∃ v, m.lookup k = some v := by
  rw [← AList.mem_keys, ← AList.lookup_isSome, Option.isSome_iff_exists]

theorem mem_entries_iff {m : Map K V} {k : K} {v : V} :
    (⟨k, v⟩ : Sigma fun _ : K => V) ∈ m.entries ↔ m.lookup k = some v :=
  AList.mem_lookup_iff.symm

/-! ### Removing a list of keys -/

/-- The map without the keys of a list, removed one after the other. -/
def eraseAll (m : Map K V) (ks : List K) : Map K V := ks.foldl (fun m k => m.erase k) m

@[simp] theorem eraseAll_nil (m : Map K V) : eraseAll m [] = m := rfl

@[simp] theorem eraseAll_cons (m : Map K V) (k : K) (ks : List K) :
    eraseAll m (k :: ks) = eraseAll (m.erase k) ks := rfl

theorem lookup_eraseAll (m : Map K V) (ks : List K) (k : K) :
    (eraseAll m ks).lookup k = if k ∈ ks then none else m.lookup k := by
  induction ks generalizing m with
  | nil => simp
  | cons a ks ih =>
    rw [eraseAll_cons, ih, lookup_erase_ite]
    by_cases ha : k = a <;> by_cases hks : k ∈ ks <;> simp [ha, hks]

/-! ### A map given by its keys -/

/-- The map that sends each key of a list to its value under `f`. -/
def ofKeys (ks : List K) (f : K → V) : Map K V := ks.foldl (fun m k => m.insert k (f k)) ∅

theorem lookup_ofKeys (ks : List K) (f : K → V) (k : K) :
    (ofKeys ks f).lookup k = if k ∈ ks then some (f k) else none := by
  suffices h : ∀ m : Map K V, (ks.foldl (fun m k => m.insert k (f k)) m).lookup k =
      if k ∈ ks then some (f k) else m.lookup k by
    simpa [ofKeys] using h ∅
  induction ks with
  | nil => simp
  | cons a ks ih =>
    intro m
    rw [List.foldl_cons, ih, lookup_insert_ite]
    by_cases ha : k = a
    · subst ha; simp
    · simp [ha]

/-- The map with every value replaced by its value under `f`. -/
def mapValues {W : Type*} (m : Map K V) (f : K → V → W) : Map K W where
  entries := m.entries.map fun e => ⟨e.1, f e.1 e.2⟩
  nodupKeys := by
    have h := m.nodupKeys
    simpa [List.NodupKeys, List.keys, Function.comp_def] using h

theorem lookup_mapValues {W : Type*} (m : Map K V) (f : K → V → W) (k : K) :
    (m.mapValues f).lookup k = (m.lookup k).map (f k) := by
  cases h : m.lookup k with
  | none =>
    rw [AList.lookup_eq_none] at h
    simpa [AList.lookup_eq_none, AList.mem_keys, AList.keys, List.keys, mapValues,
      Function.comp_def] using h
  | some v =>
    rw [← mem_entries_iff] at h
    exact mem_entries_iff.1 (List.mem_map.2 ⟨_, h, rfl⟩)

/-! ### Some of the entries -/

/-- The map with the entries that are wanted. -/
def filter (p : K → V → Bool) (m : Map K V) : Map K V where
  entries := m.entries.filter fun e => p e.1 e.2
  nodupKeys := (List.filter_sublist.map Sigma.fst).nodup m.nodupKeys

theorem lookup_filter {p : K → V → Bool} {m : Map K V} {k : K} {v : V} :
    (filter p m).lookup k = some v ↔ m.lookup k = some v ∧ p k v := by
  rw [← mem_entries_iff, ← mem_entries_iff]
  exact List.mem_filter

/-! ### A change to one entry -/

/-- The map with the value of a key, if it has one, replaced by `f` of it. -/
def modify (m : Map K V) (k : K) (f : V → V) : Map K V :=
  m.mapValues fun k' v => if k' = k then f v else v

theorem lookup_modify (m : Map K V) (k k' : K) (f : V → V) :
    (m.modify k f).lookup k' = if k' = k then (m.lookup k').map f else m.lookup k' := by
  rw [modify, lookup_mapValues]
  split
  · simp
  · simp

/-! ### The weight of a table -/

/-- The **total** of a table: the weights of its entries, added up. -/
def total (w : K → V → Nat) (m : Map K V) : Nat := (m.entries.map fun e => w e.1 e.2).sum

omit [DecidableEq K] in
@[simp] theorem total_empty (w : K → V → Nat) : total w (∅ : Map K V) = 0 := rfl

theorem total_erase (w : K → V → Nat) {m : Map K V} {k : K} {v : V}
    (h : m.lookup k = some v) : total w (m.erase k) + w k v = total w m := by
  obtain ⟨b, l₁, l₂, hk, heq, herase⟩ := List.exists_of_kerase
    (List.mem_keys_of_mem (mem_entries_iff.2 h))
  have hb : b = v := by
    have : (⟨k, b⟩ : Sigma fun _ : K => V) ∈ m.entries := by simp [heq]
    rw [mem_entries_iff, h] at this
    exact (Option.some.inj this).symm
  subst hb
  have hm : (m.erase k).entries = l₁ ++ l₂ := herase
  simp only [total, hm, heq, List.map_append, List.map_cons, List.sum_append, List.sum_cons]
  omega

omit [DecidableEq K] in
theorem total_le {w w' : K → V → Nat} {m : Map K V} (h : ∀ k v, w k v ≤ w' k v) :
    total w m ≤ total w' m := by
  unfold total
  induction m.entries with
  | nil => simp
  | cons e es ih =>
    have := h e.1 e.2
    simp only [List.map_cons, List.sum_cons]
    omega

theorem erase_of_lookup_none {m : Map K V} {k : K} (h : m.lookup k = none) : m.erase k = m :=
  AList.ext (List.kerase_of_notMem_keys (AList.lookup_eq_none.1 h))

theorem total_insert (w : K → V → Nat) (m : Map K V) (k : K) (v : V) :
    total w (m.insert k v) = w k v + total w (m.erase k) := by
  rw [total, AList.entries_insert, List.map_cons, List.sum_cons]
  rfl

theorem total_insert_of_none (w : K → V → Nat) {m : Map K V} {k : K} (v : V)
    (h : m.lookup k = none) : total w (m.insert k v) = w k v + total w m := by
  rw [total_insert, erase_of_lookup_none h]

theorem total_insert_of_some (w : K → V → Nat) {m : Map K V} {k : K} {v : V} (v' : V)
    (h : m.lookup k = some v) : total w (m.insert k v') + w k v = w k v' + total w m := by
  rw [total_insert, Nat.add_assoc, total_erase w h]

theorem le_total (w : K → V → Nat) {m : Map K V} {k : K} {v : V} (h : m.lookup k = some v) :
    w k v ≤ total w m := by
  rw [← total_erase w h]
  exact Nat.le_add_left _ _

theorem total_eq_zero_iff {w : K → V → Nat} {m : Map K V} :
    total w m = 0 ↔ ∀ k v, m.lookup k = some v → w k v = 0 := by
  simp only [total, List.sum_eq_zero_iff_forall_eq_nat, List.mem_map, forall_exists_index, and_imp,
    Sigma.forall, mem_entries_iff]
  exact ⟨fun h k v hkv => h _ k v hkv rfl, fun h _ k v hkv hx => hx ▸ h k v hkv⟩

/-! ### Lists under the keys -/

section Flat

variable {α : Type*}

/-- All elements of the lists of a table. -/
def flat (m : Map K (List α)) : List α := m.entries.flatMap (·.2)

theorem flat_insert (m : Map K (List α)) (k : K) (l : List α) :
    flat (m.insert k l) = l ++ flat (m.erase k) := by
  rw [flat, AList.entries_insert, List.flatMap_cons]
  rfl

/-- The elements under a key, and the others. -/
theorem flat_perm (m : Map K (List α)) (k : K) :
    (flat m).Perm ((m.lookup k).getD [] ++ flat (m.erase k)) := by
  cases h : m.lookup k with
  | none =>
    rw [erase_of_lookup_none h]
    exact .refl _
  | some l =>
    obtain ⟨l', l₁, l₂, -, heq, herase⟩ := List.exists_of_kerase
      (List.mem_keys_of_mem (mem_entries_iff.2 h))
    have hl : l' = l := by
      have : (⟨k, l'⟩ : Sigma fun _ : K => List α) ∈ m.entries := by simp [heq]
      rw [mem_entries_iff, h] at this
      exact (Option.some.inj this).symm
    subst hl
    have hm : (m.erase k).entries = l₁ ++ l₂ := herase
    rw [flat, flat, hm, heq, List.flatMap_append, List.flatMap_cons, List.flatMap_append]
    exact List.perm_append_comm_assoc ..

theorem flat_eq_nil {m : Map K (List α)} (h : ∀ k, (m.lookup k).getD [] = []) : flat m = [] := by
  rw [flat, List.flatMap_eq_nil_iff]
  rintro ⟨k, l⟩ hmem
  have hk := h k
  rwa [mem_entries_iff.1 hmem] at hk

end Flat

end Map

end UbsEngine
