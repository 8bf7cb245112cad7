import UbsEngine.Library.Assoc
import Mathlib.Algebra.BigOperators.Group.List.Basic
import Mathlib.Data.List.Basic
import Mathlib.Data.List.Induction

/-!
# Contributions to keys

A table that is filled by adding to its entries is a list of contributions, each to a key.
`UbsEngine.Grouping.summed` is what the contributions to one key add up to. A table with one entry
for each of its keys gives back the entries (`UbsEngine.Grouping.summed_keyed`), and leaving out
what contributes nothing changes nothing (`UbsEngine.Grouping.summed_map_filter`).
`UbsEngine.Grouping.tally` is the table itself, and its total is that of the contributions.
-/

namespace UbsEngine

namespace Grouping

variable {κ : Type*} [DecidableEq κ]

/-- What the contributions to a key add up to. -/
def summed (l : List (κ × Nat)) (k : κ) : Nat := (l.map fun x => if x.1 = k then x.2 else 0).sum

@[simp] theorem summed_nil (k : κ) : summed [] k = 0 := rfl

theorem summed_cons (x : κ × Nat) (l : List (κ × Nat)) (k : κ) :
    summed (x :: l) k = (if x.1 = k then x.2 else 0) + summed l k := by
  rw [summed, List.map_cons, List.sum_cons]
  rfl

theorem summed_append (l m : List (κ × Nat)) (k : κ) :
    summed (l ++ m) k = summed l k + summed m k := by
  rw [summed, List.map_append, List.sum_append]
  rfl

theorem summed_perm {l m : List (κ × Nat)} (h : l.Perm m) (k : κ) : summed l k = summed m k :=
  (h.map _).sum_nat

theorem summed_eq_zero {l : List (κ × Nat)} {k : κ} (h : ∀ x ∈ l, x.1 = k → x.2 = 0) :
    summed l k = 0 := by
  refine List.sum_eq_zero fun n hn => ?_
  obtain ⟨x, hx, rfl⟩ := List.mem_map.1 hn
  split
  next hk => exact h x hx hk
  next => rfl

/-- What one contribution gives is part of it. -/
theorem le_summed {l : List (κ × Nat)} {x : κ × Nat} (h : x ∈ l) : x.2 ≤ summed l x.1 := by
  induction l with
  | nil => cases h
  | cons a l ih =>
    rw [summed_cons]
    rcases List.mem_cons.1 h with rfl | h
    · rw [if_pos rfl]
      exact Nat.le_add_right _ _
    · exact (ih h).trans (Nat.le_add_left _ _)

/-- One entry for each key. -/
theorem summed_keyed {keys : List κ} (hnodup : keys.Nodup) (f : κ → Nat) (k : κ) :
    summed (keys.map fun k => (k, f k)) k = if k ∈ keys then f k else 0 := by
  induction keys with
  | nil => rfl
  | cons a keys ih =>
    obtain ⟨ha, hnodup⟩ := List.nodup_cons.1 hnodup
    rw [List.map_cons, summed_cons, ih hnodup]
    rcases eq_or_ne a k with rfl | hne
    · rw [if_pos rfl, if_neg ha, if_pos List.mem_cons_self, Nat.add_zero]
    · rw [if_neg hne, Nat.zero_add]
      refine if_congr ⟨List.mem_cons_of_mem a, fun h => ?_⟩ rfl rfl
      exact (List.mem_cons.1 h).resolve_left hne.symm

/-- Leaving out elements that contribute nothing. -/
theorem summed_map_filter {α : Type*} {l : List α} {p : α → Bool} {f : α → κ × Nat}
    (h : ∀ a ∈ l, p a = false → (f a).2 = 0) (k : κ) :
    summed ((l.filter p).map f) k = summed (l.map f) k := by
  induction l with
  | nil => rfl
  | cons a l ih =>
    have ih := ih fun b hb => h b (List.mem_cons_of_mem a hb)
    rw [List.filter_cons, List.map_cons, summed_cons]
    cases hp : p a with
    | true => rw [if_pos rfl, List.map_cons, summed_cons, ih]
    | false =>
      rw [if_neg Bool.false_ne_true, ih, h a List.mem_cons_self hp, ite_self, Nat.zero_add]

theorem summed_filter_ne_zero (l : List (κ × Nat)) (k : κ) :
    summed (l.filter fun x => x.2 ≠ 0) k = summed l k := by
  have h := summed_map_filter (l := l) (p := fun x => x.2 ≠ 0) (f := id)
    (fun x _ hx => by simpa using hx) k
  rwa [List.map_id, List.map_id] at h

theorem summed_flatMap {α : Type*} (l : List α) (f : α → List (κ × Nat)) (k : κ) :
    summed (l.flatMap f) k = (l.map fun a => summed (f a) k).sum := by
  induction l with
  | nil => rfl
  | cons a l ih => rw [List.flatMap_cons, summed_append, ih, List.map_cons, List.sum_cons]

/-- What is added up key by key is what is added up at once. -/
theorem sum_map_filter_key {α : Type*} {keys : List κ} (hnodup : keys.Nodup) (key : α → κ)
    {l : List α} (hkeys : ∀ a ∈ l, key a ∈ keys) (w : α → Nat) :
    (keys.map fun k => ((l.filter fun a => key a = k).map w).sum).sum = (l.map w).sum := by
  induction l with
  | nil => simp
  | cons a l ih =>
    obtain ⟨ha, hkeys⟩ := List.forall_mem_cons.1 hkeys
    have hstep : ∀ k, (((a :: l).filter fun a => key a = k).map w).sum =
        (if key a = k then w a else 0) + ((l.filter fun a => key a = k).map w).sum := by
      intro k
      rw [List.filter_cons]
      by_cases hk : key a = k
      · rw [if_pos (decide_eq_true hk), if_pos hk, List.map_cons, List.sum_cons]
      · rw [if_neg (by simpa using hk), if_neg hk, Nat.zero_add]
    rw [List.map_congr_left fun k _ => hstep k, List.sum_map_add, ih hkeys, List.map_cons,
      List.sum_cons]
    refine congrArg (· + _) ?_
    have hone := summed_keyed hnodup (fun _ => w a) (key a)
    rw [if_pos ha, summed, List.map_map] at hone
    refine Eq.trans (congrArg List.sum (List.map_congr_left fun k _ => ?_)) hone
    exact if_congr eq_comm rfl rfl

/-! ### The table -/

/-- One more contribution to a table. -/
def addTo (m : Map κ Nat) (k : κ) (n : Nat) : Map κ Nat := m.insert k ((m.lookup k).getD 0 + n)

theorem lookup_addTo (m : Map κ Nat) (k k' : κ) (n : Nat) :
    ((addTo m k n).lookup k').getD 0 = (m.lookup k').getD 0 + if k = k' then n else 0 := by
  rw [addTo, Map.lookup_insert_ite]
  rcases eq_or_ne k' k with rfl | hne
  · rw [if_pos rfl, if_pos rfl]
    rfl
  · rw [if_neg hne, if_neg hne.symm, Nat.add_zero]

theorem total_addTo (m : Map κ Nat) (k : κ) (n : Nat) :
    Map.total (fun _ v => v) (addTo m k n) = Map.total (fun _ v => v) m + n := by
  rw [addTo]
  cases hk : m.lookup k with
  | none =>
    rw [Map.total_insert_of_none _ _ hk]
    exact (congrArg (· + _) (Nat.zero_add n)).trans (Nat.add_comm _ _)
  | some v =>
    have := Map.total_insert_of_some (fun _ v => v) (v + n) hk
    rw [Option.getD_some]
    omega

/-- The table that the contributions make. -/
def tally (l : List (κ × Nat)) : Map κ Nat := l.foldl (fun m x => addTo m x.1 x.2) ∅

theorem tally_concat (l : List (κ × Nat)) (x : κ × Nat) :
    tally (l ++ [x]) = addTo (tally l) x.1 x.2 := by
  rw [tally, List.foldl_append]
  rfl

theorem lookup_tally (l : List (κ × Nat)) (k : κ) :
    ((tally l).lookup k).getD 0 = summed l k := by
  induction l using List.reverseRecOn with
  | nil => rfl
  | append_singleton l x ih =>
    rw [tally_concat, lookup_addTo, ih, summed_append, summed_cons, summed_nil, Nat.add_zero]

theorem total_tally (l : List (κ × Nat)) :
    Map.total (fun _ v => v) (tally l) = (l.map (·.2)).sum := by
  induction l using List.reverseRecOn with
  | nil => rfl
  | append_singleton l x ih =>
    rw [tally_concat, total_addTo, ih, List.map_append, List.sum_append, List.map_singleton,
      List.sum_singleton]

/-- The keys of the table are those that something is contributed to. -/
theorem isSome_lookup_tally (l : List (κ × Nat)) (k : κ) :
    ((tally l).lookup k).isSome ↔ k ∈ l.map (·.1) := by
  induction l using List.reverseRecOn with
  | nil => simp [tally]
  | append_singleton l x ih =>
    rw [tally_concat, addTo, Map.lookup_insert_ite, List.map_append, List.mem_append, ← ih,
      List.map_singleton, List.mem_singleton]
    split
    next h => simp [h]
    next h => simp [h]

end Grouping

end UbsEngine
