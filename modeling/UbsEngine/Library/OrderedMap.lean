import Mathlib.Algebra.BigOperators.Group.List.Basic
import Mathlib.Data.List.Nodup
import Mathlib.Tactic.Abel

/-!
# Containers in iteration order

A serialized map or set is written in the order in which the container is iterated, and the
reader fills a container in the order of the bytes. What is needed of the containers of the
C++ standard library is therefore their elements *in that order*, with no element twice:
`UbsEngine.OrderedSet` and `UbsEngine.OrderedMap`. A new key goes to the end; a key that is
already there keeps its place.

Filling an empty container with the elements of another, one after the other, gives that
container back (`UbsEngine.OrderedSet.append_insert`, `UbsEngine.OrderedMap.append_put` are
the steps of that induction).
-/

namespace UbsEngine

/-- The elements of a set, in iteration order. -/
@[ext] structure OrderedSet (α : Type*) where
  /-- The elements. -/
  toList : List α
  nodup : toList.Nodup

/-- The entries of a map, in iteration order. -/
@[ext] structure OrderedMap (K V : Type*) where
  /-- The entries. -/
  toList : List (K × V)
  nodup : (toList.map Prod.fst).Nodup

namespace OrderedSet

variable {α : Type*}

/-- The set without elements. -/
def empty : OrderedSet α := ⟨[], List.nodup_nil⟩

@[simp] theorem toList_empty : (empty : OrderedSet α).toList = [] := rfl

variable [DecidableEq α]

instance : DecidableEq (OrderedSet α) := fun _ _ => decidable_of_iff _ OrderedSet.ext_iff.symm

/-- `set.emplace(x)`. -/
def insert (s : OrderedSet α) (x : α) : OrderedSet α :=
  if h : x ∈ s.toList then s
  else ⟨s.toList ++ [x], s.nodup.append (List.nodup_singleton x)
    (List.disjoint_singleton.mpr h)⟩

theorem toList_insert {s : OrderedSet α} {x : α} (h : x ∉ s.toList) :
    (s.insert x).toList = s.toList ++ [x] := by
  rw [insert, dif_neg h]

theorem mem_insert {s : OrderedSet α} {x y : α} : y ∈ (s.insert x).toList ↔ y = x ∨ y ∈ s.toList := by
  rw [insert]
  split
  next h => exact (or_iff_right_of_imp fun heq => heq ▸ h).symm
  next => rw [List.mem_append, List.mem_singleton, or_comm]

/-- Inserting the next element of a set keeps to the elements of that set. -/
theorem append_insert {s t : OrderedSet α} {x : α} {l : List α}
    (h : t.toList = s.toList ++ x :: l) : t.toList = (s.insert x).toList ++ l := by
  have hx : x ∉ s.toList := by
    have hnd : (s.toList ++ x :: l).Nodup := h ▸ t.nodup
    rw [List.nodup_append] at hnd
    exact fun hmem => hnd.2.2 x hmem x List.mem_cons_self rfl
  rw [toList_insert hx, List.append_assoc, List.singleton_append, h]

end OrderedSet

namespace OrderedMap

variable {K V : Type*}

/-- The map without entries. -/
def empty : OrderedMap K V := ⟨[], List.nodup_nil⟩

@[simp] theorem toList_empty : (empty : OrderedMap K V).toList = [] := rfl

/-- The map with every value replaced by its image. -/
def mapValues {W : Type*} (m : OrderedMap K V) (f : V → W) : OrderedMap K W :=
  ⟨m.toList.map fun e => (e.1, f e.2), by
    rw [List.map_map]
    exact m.nodup⟩

/-- The next key of a map is not among the entries before it. -/
theorem notMem_of_append {m n : OrderedMap K V} {k : K} {v : V} {l : List (K × V)}
    (h : n.toList = m.toList ++ (k, v) :: l) : k ∉ m.toList.map Prod.fst := by
  have hnd : ((m.toList ++ (k, v) :: l).map Prod.fst).Nodup := h ▸ n.nodup
  rw [List.map_append, List.map_cons, List.nodup_append] at hnd
  exact fun hmem => hnd.2.2 k hmem k List.mem_cons_self rfl

variable [DecidableEq K]

instance [DecidableEq V] : DecidableEq (OrderedMap K V) :=
  fun _ _ => decidable_of_iff _ OrderedMap.ext_iff.symm

/-- The value of a key, or what `map[key]` creates for it. -/
def getD (m : OrderedMap K V) (k : K) (d : V) : V := (m.toList.lookup k).getD d

/-- An entry with its value replaced, if it is the entry of the key. -/
def replace (k : K) (v : V) (e : K × V) : K × V := if e.1 = k then (k, v) else e

theorem map_fst_replace (k : K) (v : V) (l : List (K × V)) :
    (l.map (replace k v)).map Prod.fst = l.map Prod.fst := by
  rw [List.map_map]
  refine List.map_congr_left fun e _ => ?_
  by_cases he : e.1 = k
  · rw [Function.comp_apply, replace, if_pos he, he]
  · rw [Function.comp_apply, replace, if_neg he]

/-- `map[k] = v`: a key that is there keeps its place, a new one goes to the end. -/
def put (m : OrderedMap K V) (k : K) (v : V) : OrderedMap K V :=
  if h : k ∈ m.toList.map Prod.fst then
    ⟨m.toList.map (replace k v), by rw [map_fst_replace]; exact m.nodup⟩
  else
    ⟨m.toList ++ [(k, v)], by
      rw [List.map_append]
      exact m.nodup.append (List.nodup_singleton k) (List.disjoint_singleton.mpr h)⟩

theorem toList_put {m : OrderedMap K V} {k : K} (v : V) (h : k ∉ m.toList.map Prod.fst) :
    (m.put k v).toList = m.toList ++ [(k, v)] := by
  rw [put, dif_neg h]

theorem getD_of_notMem {m : OrderedMap K V} {k : K} (d : V) (h : k ∉ m.toList.map Prod.fst) :
    m.getD k d = d := by
  have hnone : m.toList.lookup k = none := by
    rw [List.lookup_eq_none_iff]
    intro e he
    have hne : k ≠ e.1 := fun heq => h (heq ▸ List.mem_map_of_mem he)
    exact bne_iff_ne.mpr hne
  rw [getD, hnone, Option.getD_none]

/-- The entries after `map[k] = v`. -/
theorem mem_put {m : OrderedMap K V} {k : K} {v : V} {e : K × V} :
    e ∈ (m.put k v).toList ↔ e = (k, v) ∨ e ∈ m.toList ∧ e.1 ≠ k := by
  by_cases h : k ∈ m.toList.map Prod.fst
  · rw [put, dif_pos h]
    constructor
    · intro he
      obtain ⟨e', he', rfl⟩ := List.mem_map.1 he
      rw [replace]
      split
      · exact Or.inl rfl
      · exact Or.inr ⟨he', ‹_›⟩
    · rintro (rfl | ⟨he, hne⟩)
      · obtain ⟨e', he', rfl⟩ := List.mem_map.1 h
        exact List.mem_map.2 ⟨e', he', if_pos rfl⟩
      · exact List.mem_map.2 ⟨e, he, if_neg hne⟩
  · rw [toList_put v h, List.mem_append, List.mem_singleton, or_comm]
    refine or_congr_right ⟨fun he => ⟨he, fun heq => h (heq ▸ List.mem_map_of_mem he)⟩, And.left⟩

/-- The value of a key, if it has one. -/
def find (m : OrderedMap K V) (k : K) : Option V := m.toList.lookup k

theorem find_of_mem {m : OrderedMap K V} {k : K} {v : V} (h : (k, v) ∈ m.toList) :
    m.find k = some v := by
  obtain ⟨l₁, l₂, hl⟩ := List.append_of_mem h
  have hnotMem : k ∉ l₁.map Prod.fst :=
    notMem_of_append (m := ⟨l₁, (List.sublist_append_left _ _).map _ |>.nodup
      (by rw [← hl]; exact m.nodup)⟩) (n := m) hl
  rw [find, hl, List.lookup_append, List.lookup_eq_none_iff.2, Option.none_or, List.lookup_cons_self]
  intro e he
  exact bne_iff_ne.2 fun heq => hnotMem (heq ▸ List.mem_map_of_mem he)

/-- What `map[k]` gives for the key of an entry. -/
theorem mem_getD {m : OrderedMap K V} {k : K} {d v : V} (h : (k, v) ∈ m.toList) :
    m.getD k d = v := by
  rw [getD, ← find, find_of_mem h, Option.getD_some]

/-- `map.emplace(k, v)`: a key that is there keeps its value, a new one goes to the end. -/
def emplace (m : OrderedMap K V) (k : K) (v : V) : OrderedMap K V :=
  if h : k ∈ m.toList.map Prod.fst then m
  else
    ⟨m.toList ++ [(k, v)], by
      rw [List.map_append]
      exact m.nodup.append (List.nodup_singleton k) (List.disjoint_singleton.mpr h)⟩

theorem toList_emplace {m : OrderedMap K V} {k : K} (v : V) (h : k ∉ m.toList.map Prod.fst) :
    (m.emplace k v).toList = m.toList ++ [(k, v)] := by
  rw [emplace, dif_neg h]

/-- Adding the next entry of a map keeps to the entries of that map. -/
theorem append_emplace {m n : OrderedMap K V} {k : K} {v : V} {l : List (K × V)}
    (h : n.toList = m.toList ++ (k, v) :: l) : n.toList = (m.emplace k v).toList ++ l := by
  rw [toList_emplace v (notMem_of_append h), List.append_assoc, List.singleton_append, h]

/-- Storing the next entry of a map keeps to the entries of that map. -/
theorem append_put {m n : OrderedMap K V} {k : K} {v : V} {l : List (K × V)}
    (h : n.toList = m.toList ++ (k, v) :: l) : n.toList = (m.put k v).toList ++ l := by
  rw [toList_put v (notMem_of_append h), List.append_assoc, List.singleton_append, h]

/-- `map.erase(k)`. -/
def erase (m : OrderedMap K V) (k : K) : OrderedMap K V :=
  ⟨m.toList.filter fun e => e.1 ≠ k, (List.filter_sublist.map _).nodup m.nodup⟩

theorem find_of_notMem {m : OrderedMap K V} {k : K} (h : k ∉ m.toList.map Prod.fst) :
    m.find k = none := by
  rw [find, List.lookup_eq_none_iff]
  intro e he
  exact bne_iff_ne.2 fun heq => h (heq ▸ List.mem_map_of_mem he)

/-- Erasing a key leaves the others as they are. -/
theorem find_erase_of_ne {m : OrderedMap K V} {k k' : K} (h : k' ≠ k) :
    (m.erase k).find k' = m.find k' := by
  by_cases hmem : k' ∈ m.toList.map Prod.fst
  · obtain ⟨⟨_, v⟩, he, rfl⟩ := List.mem_map.1 hmem
    rw [find_of_mem he]
    exact find_of_mem (List.mem_filter.2 ⟨he, decide_eq_true h⟩)
  · rw [find_of_notMem hmem, find_of_notMem]
    intro hmem'
    obtain ⟨e, he, rfl⟩ := List.mem_map.1 hmem'
    exact hmem (List.mem_map_of_mem (List.mem_filter.1 he).1)

/-! ### Changing the value of a key -/

/-- The keys, in iteration order. -/
def keys (m : OrderedMap K V) : List K := m.toList.map Prod.fst

theorem toList_put_of_mem {m : OrderedMap K V} {k : K} (h : k ∈ m.keys) (v : V) :
    (m.put k v).toList = m.toList.map (replace k v) := by
  rw [keys] at h
  rw [put, dif_pos h]

theorem keys_put {m : OrderedMap K V} {k : K} (h : k ∈ m.keys) (v : V) :
    (m.put k v).keys = m.keys := by
  rw [keys, toList_put_of_mem h, map_fst_replace]
  rfl

theorem mem_keys_put {m : OrderedMap K V} {k k' : K} {v : V} :
    k' ∈ (m.put k v).keys ↔ k' = k ∨ k' ∈ m.keys := by
  by_cases h : k ∈ m.keys
  · rw [keys_put h]
    exact ⟨Or.inr, fun hk => hk.elim (fun heq => heq ▸ h) id⟩
  · rw [keys, toList_put v h, List.map_append, List.mem_append, List.map_singleton,
      List.mem_singleton, or_comm]
    rfl

theorem getD_put (m : OrderedMap K V) (k k' : K) (v d : V) :
    (m.put k v).getD k' d = if k' = k then v else m.getD k' d := by
  split
  next heq =>
    subst heq
    exact mem_getD (mem_put.2 (.inl rfl))
  next hne =>
    by_cases hmem : k' ∈ m.keys
    · obtain ⟨e, he, rfl⟩ := List.mem_map.1 hmem
      rw [mem_getD (v := e.2) he]
      exact mem_getD (mem_put.2 (.inr ⟨he, hne⟩))
    · rw [getD_of_notMem d hmem, getD_of_notMem d]
      exact fun h => (mem_keys_put.1 h).elim hne hmem

/-- Writing twice is writing the second value. -/
theorem put_put {m : OrderedMap K V} {k : K} (h : k ∈ m.keys) (v w : V) :
    (m.put k v).put k w = m.put k w := by
  refine OrderedMap.ext ?_
  rw [toList_put_of_mem (mem_keys_put.2 (.inl rfl)), toList_put_of_mem h, toList_put_of_mem h,
    List.map_map]
  refine List.map_congr_left fun e _ => ?_
  by_cases he : e.1 = k
  · have hreplaced : ∀ u : V, replace k u e = (k, u) := fun _ => if_pos he
    rw [Function.comp_apply, hreplaced, hreplaced]
    exact if_pos rfl
  · have hkept : ∀ u : V, replace k u e = e := fun _ => if_neg he
    rw [Function.comp_apply, hkept]

/-- Writing the value that is there changes nothing. -/
theorem put_getD {m : OrderedMap K V} {k : K} (h : k ∈ m.keys) (d : V) :
    m.put k (m.getD k d) = m := by
  refine OrderedMap.ext ?_
  rw [toList_put_of_mem h]
  refine (List.map_congr_left fun e he => ?_).trans (List.map_id _)
  by_cases hk : e.1 = k
  · subst hk
    rw [replace, if_pos rfl, mem_getD he]
    rfl
  · rw [replace, if_neg hk, id]

/-- Putting back what was there. -/
theorem put_restore {m : OrderedMap K V} {k : K} (h : k ∈ m.keys) (v d : V) :
    (m.put k v).put k (m.getD k d) = m := by
  rw [put_put h, put_getD h]

omit [DecidableEq K] in
/-- What two weights add up to, that differ at one key only. -/
theorem sum_map_of_key {M : Type*} [AddCommMonoid M] {l : List (K × V)}
    (hnodup : (l.map Prod.fst).Nodup) {e : K × V} (he : e ∈ l) {f g : K × V → M}
    (h : ∀ a ∈ l, a.1 ≠ e.1 → f a = g a) : (l.map f).sum + g e = (l.map g).sum + f e := by
  obtain ⟨l₁, l₂, rfl⟩ := List.append_of_mem he
  rw [List.map_append, List.map_cons, List.nodup_append, List.nodup_cons] at hnodup
  have hsame : ∀ l' : List (K × V), (∀ a ∈ l', a ∈ l₁ ++ e :: l₂) → e.1 ∉ l'.map Prod.fst →
      l'.map f = l'.map g := by
    intro l' hl hnot
    refine List.map_congr_left fun a ha => h a (hl a ha) fun heq => ?_
    exact hnot (heq ▸ List.mem_map_of_mem ha)
  have h₁ := hsame l₁ (fun a ha => List.mem_append_left _ ha)
    fun hmem => hnodup.2.2 _ hmem _ List.mem_cons_self rfl
  have h₂ := hsame l₂ (fun a ha => List.mem_append_right _ (List.mem_cons_of_mem e ha))
    hnodup.2.1.1
  rw [List.map_append, List.map_append, List.map_cons, List.map_cons, h₁, h₂, List.sum_append,
    List.sum_append, List.sum_cons, List.sum_cons]
  abel

/-- What the values add up to, when one is replaced. -/
theorem sum_put {M : Type*} [AddCommMonoid M] {m : OrderedMap K V} {k : K} (h : k ∈ m.keys)
    (f : V → M) (v d : V) :
    ((m.put k v).toList.map fun e => f e.2).sum + f (m.getD k d) =
      (m.toList.map fun e => f e.2).sum + f v := by
  obtain ⟨e, he, rfl⟩ := List.mem_map.1 h
  rw [toList_put_of_mem h, List.map_map, mem_getD (v := e.2) he]
  refine (sum_map_of_key m.nodup he (g := fun e => f e.2) fun a _ hne => ?_).trans ?_
  · rw [Function.comp_apply, replace, if_neg hne]
  · rw [Function.comp_apply, replace, if_pos rfl]

/-- The value of one key. -/
theorem sum_ite_key {M : Type*} [AddCommMonoid M] {m : OrderedMap K V} {k : K} (h : k ∈ m.keys)
    (f : V → M) (d : V) :
    (m.toList.map fun e => if e.1 = k then f e.2 else 0).sum = f (m.getD k d) := by
  obtain ⟨e, he, rfl⟩ := List.mem_map.1 h
  have hkey := sum_map_of_key m.nodup he (f := fun a => if a.1 = e.1 then f a.2 else 0)
    (g := fun _ => 0) fun a _ hne => if_neg hne
  have hzero : (m.toList.map fun _ => (0 : M)).sum = 0 := by
    rw [List.map_const', List.sum_replicate, nsmul_zero]
  rw [if_pos rfl, add_zero, hzero, zero_add] at hkey
  rw [hkey, mem_getD (v := e.2) he]

theorem sum_put_of_notMem {M : Type*} [AddCommMonoid M] {m : OrderedMap K V} {k : K}
    (h : k ∉ m.keys) (f : V → M) (v : V) :
    ((m.put k v).toList.map fun e => f e.2).sum = (m.toList.map fun e => f e.2).sum + f v := by
  rw [toList_put v h, List.map_append, List.sum_append, List.map_singleton, List.sum_singleton]

end OrderedMap

end UbsEngine
