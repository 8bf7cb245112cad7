import UbsEngine.Library.Grouping
import UbsEngine.Library.Nested
import Mathlib.Algebra.BigOperators.Group.List.Basic
import Mathlib.Algebra.Order.BigOperators.Group.List
import Mathlib.Algebra.Order.Group.Nat
import Mathlib.Data.List.Induction

/-!
# Elements gathered under keys

A loop that lets every element of a list change the value under its own key does, for each key, the
loop over the elements with this key: `UbsEngine.Gather.lookup_gather`. Tables of lists, of sums and
of last values are all of this kind.

What tables hold together is counted table by table or key by key: the two are the same if each of
the tables is a part of one table (`UbsEngine.Map.total_parts`).
-/

namespace UbsEngine

namespace Gather

variable {κ α V : Type*} [DecidableEq κ] (key : α → κ) (init : V) (step : V → α → V)

/-- The table in which every element changes the value under its key. -/
def gather (l : List α) : Map κ V :=
  l.foldl (fun m a => m.insert (key a) (step ((m.lookup (key a)).getD init) a)) ∅

/-- The elements with a key, in their order. -/
def under (k : κ) (l : List α) : List α := l.filter fun a => key a = k

theorem gather_concat (l : List α) (a : α) :
    gather key init step (l ++ [a]) = (gather key init step l).insert (key a)
      (step (((gather key init step l).lookup (key a)).getD init) a) :=
  List.foldl_concat ..

theorem under_concat (k : κ) (l : List α) (a : α) :
    under key k (l ++ [a]) = under key k l ++ if key a = k then [a] else [] := by
  rw [under, List.filter_append, List.filter_singleton]
  by_cases h : key a = k
  · rw [if_pos h, decide_eq_true h]
    rfl
  · rw [if_neg h, decide_eq_false h]
    rfl

/-- **The table is the loop of each key.** -/
theorem lookup_gather (l : List α) (k : κ) : (gather key init step l).lookup k =
    if under key k l = [] then none else some ((under key k l).foldl step init) := by
  induction l using List.reverseRecOn with
  | nil => rfl
  | append_singleton l a ih =>
    rw [gather_concat, Map.lookup_insert_ite, under_concat]
    rcases eq_or_ne (key a) k with rfl | hne
    · rw [if_pos rfl, if_pos rfl, if_neg (List.append_ne_nil_of_right_ne_nil _ (by simp)),
        List.foldl_concat, ih]
      split
      next hnil => rw [hnil]; rfl
      next => rfl
    · rw [if_neg hne.symm, if_neg hne, List.append_nil, ih]

theorem lookup_gather_getD (l : List α) (k : κ) :
    ((gather key init step l).lookup k).getD init = (under key k l).foldl step init := by
  rw [lookup_gather]
  split
  next hnil => rw [hnil]; rfl
  next => rfl

theorem isSome_lookup_gather {l : List α} {k : κ} :
    ((gather key init step l).lookup k).isSome ↔ ∃ a ∈ l, key a = k := by
  rw [lookup_gather]
  split
  next hnil =>
    refine ⟨fun h => absurd h (by simp), ?_⟩
    rintro ⟨a, ha, hkey⟩
    have hmem : a ∈ under key k l := List.mem_filter.2 ⟨ha, decide_eq_true hkey⟩
    rw [hnil] at hmem
    cases hmem
  next hcons =>
    refine ⟨fun _ => ?_, fun _ => rfl⟩
    obtain ⟨a, ha⟩ := List.exists_mem_of_ne_nil _ hcons
    obtain ⟨hmem, hkey⟩ := List.mem_filter.1 ha
    exact ⟨a, hmem, of_decide_eq_true hkey⟩

omit [DecidableEq κ] in
/-- A loop that adds to the end of a list. -/
theorem foldl_push {β : Type*} (f : α → β) (l : List α) (bs : List β) :
    l.foldl (fun bs a => bs ++ [f a]) bs = bs ++ l.map f := by
  induction l generalizing bs with
  | nil => rw [List.map_nil, List.append_nil]; rfl
  | cons a l ih => rw [List.foldl_cons, ih, List.append_assoc, List.map_cons, List.singleton_append]

omit [DecidableEq κ] in
/-- A loop that adds numbers and forgets what is too large. -/
theorem foldl_add_mod (f : α → Nat) (n : Nat) (l : List α) (s : Nat) :
    l.foldl (fun s a => (s + f a) % n) (s % n) = (s + (l.map f).sum) % n := by
  induction l generalizing s with
  | nil => rfl
  | cons a l ih =>
    rw [List.foldl_cons, Nat.mod_add_mod, ih, List.map_cons, List.sum_cons, Nat.add_assoc]

/-- A loop that keeps the last value. -/
theorem foldl_last {β : Type*} (f : α → β) (l : List α) (b : β) :
    l.foldl (fun _ a => f a) b = (l.getLast?.map f).getD b := by
  induction l using List.reverseRecOn with
  | nil => rfl
  | append_singleton l a _ => rw [List.foldl_concat, List.getLast?_concat]; rfl

/-- What is under a key, added up. -/
theorem sum_under (size : α → Nat) (k : κ) (l : List α) :
    ((under key k l).map size).sum = Grouping.summed (l.map fun a => (key a, size a)) k := by
  induction l with
  | nil => rfl
  | cons a l ih =>
    rw [List.map_cons, Grouping.summed_cons, ← ih, under, List.filter_cons]
    by_cases h : key a = k
    · rw [if_pos h, if_pos (decide_eq_true h), List.map_cons, List.sum_cons]
      rfl
    · rw [if_neg h, if_neg (by simpa using h), Nat.zero_add]
      rfl

/-- Two ways to say which elements count. -/
theorem summed_congr {ι : Type*} [DecidableEq ι] {key : α → κ} {key' : α → ι} {k : κ} {k' : ι}
    {l : List α} (size : α → Nat) (h : ∀ a ∈ l, key a = k ↔ key' a = k') :
    Grouping.summed (l.map fun a => (key a, size a)) k =
      Grouping.summed (l.map fun a => (key' a, size a)) k' := by
  rw [Grouping.summed, Grouping.summed, List.map_map, List.map_map]
  exact congrArg List.sum (List.map_congr_left fun a ha => if_congr (h a ha) rfl rfl)

/-- What is under a key of lists that are under keys themselves. -/
theorem under_flatMap {β : Type*} (l : List (κ × List β)) (k : κ) :
    under Prod.fst k (l.flatMap fun e => e.2.map fun b => (e.1, b)) =
      (((l.filter fun e => e.1 = k).flatMap Prod.snd).map fun b => (k, b)) := by
  induction l with
  | nil => rfl
  | cons e l ih =>
    have hfirst : under Prod.fst k (e.2.map fun b => (e.1, b)) =
        if e.1 = k then e.2.map fun b => (k, b) else [] := by
      rw [under, List.filter_map]
      split
      next h =>
        have hall : e.2.filter ((fun a => decide (a.1 = k)) ∘ fun b => (e.1, b)) = e.2 :=
          List.filter_eq_self.2 fun b _ => decide_eq_true h
        rw [hall, h]
      next h =>
        have hnone : e.2.filter ((fun a => decide (a.1 = k)) ∘ fun b => (e.1, b)) = [] :=
          List.filter_eq_nil_iff.2 fun b _ => by simpa using h
        rw [hnone, List.map_nil]
    have happend : under Prod.fst k ((e :: l).flatMap fun e => e.2.map fun b => (e.1, b)) =
        under Prod.fst k (e.2.map fun b => (e.1, b)) ++
          under Prod.fst k (l.flatMap fun e => e.2.map fun b => (e.1, b)) := by
      rw [under, List.flatMap_cons, List.filter_append]
      rfl
    rw [happend, hfirst, ih, List.filter_cons]
    by_cases h : e.1 = k
    · rw [if_pos h, if_pos (decide_eq_true h), List.flatMap_cons, List.map_append]
    · rw [if_neg h, if_neg (by simpa using h), List.nil_append]

end Gather

namespace Map

variable {K L V W : Type*} [DecidableEq K] [DecidableEq L]

theorem total_congr {w w' : K → V → Nat} {m : Map K V}
    (h : ∀ k v, m.lookup k = some v → w k v = w' k v) : total w m = total w' m := by
  refine congrArg List.sum (List.map_congr_left ?_)
  rintro ⟨k, v⟩ hmem
  exact h k v (mem_entries_iff.1 hmem)

theorem total_mono {w w' : K → V → Nat} {m : Map K V}
    (h : ∀ k v, m.lookup k = some v → w k v ≤ w' k v) : total w m ≤ total w' m := by
  refine List.sum_le_sum ?_
  rintro ⟨k, v⟩ hmem
  exact h k v (mem_entries_iff.1 hmem)

/-- Totals that are equal are equal entry by entry, if one is nowhere larger. -/
theorem le_of_total_le {w w' : K → V → Nat} {m : Map K V}
    (h : ∀ k v, m.lookup k = some v → w' k v ≤ w k v) (hle : total w m ≤ total w' m) {k : K} {v : V}
    (hlookup : m.lookup k = some v) : w k v ≤ w' k v := by
  have hw := total_erase w hlookup
  have hw' := total_erase w' hlookup
  have hrest : total w' (m.erase k) ≤ total w (m.erase k) := by
    refine total_mono fun k' v' h' => h k' v' ?_
    rw [lookup_erase_ite] at h'
    split at h'
    · cases h'
    · exact h'
  omega

/-- The total of a part of a table. -/
theorem total_part (w : K → V → Nat) {m m' : Map K V}
    (h : ∀ k v, m.lookup k = some v → m'.lookup k = some v) :
    total w m = total (fun k v => if (m.lookup k).isSome then w k v else 0) m' := by
  have hperm : m.entries.Perm (m'.entries.filter fun e => (m.lookup e.1).isSome) := by
    refine (List.perm_ext_iff_of_nodup (List.NodupKeys.nodup m.nodupKeys)
      ((List.NodupKeys.nodup m'.nodupKeys).filter _)).2 ?_
    rintro ⟨k, v⟩
    rw [List.mem_filter, mem_entries_iff, mem_entries_iff]
    constructor
    · intro hlookup
      exact ⟨h k v hlookup, by rw [hlookup]; rfl⟩
    · rintro ⟨hlookup, hsome⟩
      obtain ⟨v', hv'⟩ := Option.isSome_iff_exists.1 hsome
      have heq := h k v' hv'
      rw [hlookup] at heq
      obtain rfl := Option.some.inj heq
      exact hv'
  rw [total, (hperm.map _).sum_nat, total]
  generalize m'.entries = l
  induction l with
  | nil => rfl
  | cons e l ih =>
    rw [List.filter_cons, List.map_cons, List.sum_cons, ← ih]
    split
    next hsome => rw [List.map_cons, List.sum_cons]
    next hnone => exact (Nat.zero_add _).symm

omit [DecidableEq K] [DecidableEq L] in
/-- Sums over two tables can be taken in either order. -/
theorem total_comm (f : K → V → L → W → Nat) (m : Map K V) (m' : Map L W) :
    total (fun k v => total (f k v) m') m =
      total (fun l u => total (fun k v => f k v l u) m) m' := by
  rw [total, total]
  unfold total
  generalize m.entries = es
  induction es with
  | nil => simp
  | cons e es ih =>
    rw [List.map_cons, List.sum_cons, ih, ← List.sum_map_add]
    rfl

/-- **What tables hold together**, counted key by key: if each of them is a part of one table. -/
theorem total_parts (w : L → W → Nat) (tables : V → Map L W) {m : Map K V} {whole : Map L W}
    (h : ∀ k v, m.lookup k = some v → ∀ l u, (tables v).lookup l = some u →
      whole.lookup l = some u) :
    total (fun _ v => total w (tables v)) m =
      total (fun l u => total (fun _ v => if ((tables v).lookup l).isSome then w l u else 0) m)
        whole := by
  rw [← total_comm]
  exact total_congr fun k v hlookup => total_part w (h k v hlookup)

/-- Not more than one entry counts. -/
theorem total_le_one {w : K → V → Nat} {m : Map K V} {n : Nat}
    (hle : ∀ k v, m.lookup k = some v → w k v ≤ n)
    (hone : ∀ k v k' v', m.lookup k = some v → m.lookup k' = some v' → w k v ≠ 0 → w k' v' ≠ 0 →
      k = k') : total w m ≤ n := by
  by_cases hzero : ∀ k v, m.lookup k = some v → w k v = 0
  · rw [total_eq_zero_iff.2 hzero]
    exact Nat.zero_le n
  · push Not at hzero
    obtain ⟨k, v, hlookup, hne⟩ := hzero
    have hrest : total w (m.erase k) = 0 := by
      refine total_eq_zero_iff.2 fun k' v' h' => ?_
      rw [lookup_erase_ite] at h'
      split at h'
      · cases h'
      next hk =>
        by_contra hne'
        exact hk (hone k v k' v' hlookup h' hne hne').symm
    rw [← total_erase w hlookup, hrest, Nat.zero_add]
    exact hle k v hlookup

/-- Two entries count. -/
theorem add_le_total (w : K → V → Nat) {m : Map K V} {k k' : K} {v v' : V} (hne : k ≠ k')
    (h : m.lookup k = some v) (h' : m.lookup k' = some v') : w k v + w k' v' ≤ total w m := by
  rw [← total_erase w h, Nat.add_comm]
  refine Nat.add_le_add_right (le_total w ?_) _
  rw [lookup_erase_ite, if_neg hne.symm]
  exact h'

end Map

end UbsEngine
