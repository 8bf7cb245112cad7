import UbsEngine.Library.Grouping
import Mathlib.Logic.Function.Basic

/-!
# Packing items by trying every bin

Items are put into bins of limited capacity, one item after the other, and every bin is tried for
each of them, in a fixed order. What the items add up to in a bin is
`UbsEngine.Grouping.summed` of the bins paired with the items. The search (`UbsEngine.Packing.search`)
takes the first bin that leaves room for the rest. So it ends with the first of all choices of bins
that fits (`UbsEngine.Packing.search_eq_find?`), where a choice fits exactly when it overloads no bin
(`UbsEngine.Packing.fits_iff`).
-/

namespace UbsEngine

namespace Packing

variable {ι : Type*} [DecidableEq ι]

/-! ### What a choice of bins needs -/

/-- What is left of the capacities when an item has gone into a bin. -/
def without (free : ι → Nat) (i : ι) (n : Nat) : ι → Nat :=
  Function.update free i (free i - n)

theorem without_self (free : ι → Nat) (i : ι) (n : Nat) : without free i n i = free i - n :=
  Function.update_self ..

theorem without_of_ne (free : ι → Nat) {i j : ι} (n : Nat) (h : j ≠ i) :
    without free i n j = free j :=
  Function.update_of_ne h ..

/-- Whether every item finds room in the bin chosen for it. -/
def fits : (ι → Nat) → List Nat → List ι → Bool
  | _, [], [] => true
  | free, n :: ns, i :: is => n ≤ free i && fits (without free i n) ns is
  | _, _, _ => false

/-- A choice fits when there is one bin for each item and no bin is overloaded. -/
theorem fits_iff {free : ι → Nat} {ns : List Nat} {is : List ι} :
    fits free ns is ↔ is.length = ns.length ∧ ∀ i, Grouping.summed (is.zip ns) i ≤ free i := by
  induction ns generalizing free is with
  | nil => cases is <;> simp [fits]
  | cons n ns ih =>
    cases is with
    | nil => simp [fits]
    | cons i is =>
      simp only [fits, Bool.and_eq_true, decide_eq_true_eq, ih, List.length_cons,
        Nat.add_right_cancel_iff, List.zip_cons_cons, Grouping.summed_cons]
      constructor
      · rintro ⟨hn, hlength, hload⟩
        refine ⟨hlength, fun j => ?_⟩
        have hj := hload j
        by_cases hji : j = i
        · subst hji
          rw [without_self] at hj
          rw [if_pos rfl]
          omega
        · rw [without_of_ne _ _ hji] at hj
          rw [if_neg (Ne.symm hji)]
          omega
      · rintro ⟨hlength, hload⟩
        have hi := hload i
        rw [if_pos rfl] at hi
        refine ⟨by omega, hlength, fun j => ?_⟩
        have hj := hload j
        by_cases hji : j = i
        · subst hji
          rw [without_self]
          omega
        · rw [without_of_ne _ _ hji]
          rw [if_neg (Ne.symm hji)] at hj
          omega

omit [DecidableEq ι] in
/-- Items that are in bins in any order are in bins in the order of the items. -/
theorem exists_zip_perm {α : Type*} {l : List (ι × α)} {items : List α}
    (h : (l.map (·.2)).Perm items) :
    ∃ is : List ι, is.length = items.length ∧ (is.zip items).Perm l := by
  induction items generalizing l with
  | nil =>
    obtain rfl := List.map_eq_nil_iff.1 h.eq_nil
    exact ⟨[], rfl, .refl _⟩
  | cons item items ih =>
    obtain ⟨e, he, rfl⟩ := List.mem_map.1 (h.symm.subset List.mem_cons_self)
    obtain ⟨before, after, rfl⟩ := List.append_of_mem he
    have hmiddle : (before ++ e :: after).Perm (e :: (before ++ after)) := List.perm_middle
    obtain ⟨is, hlength, hperm⟩ := ih ((hmiddle.map (·.2)).symm.trans h).cons_inv
    exact ⟨e.1 :: is, congrArg (· + 1) hlength, (hperm.cons e).trans hmiddle.symm⟩

/-! ### The search -/

/-- The first choice, item by item, that leaves room for the rest. -/
def search (order : List ι) : (ι → Nat) → List Nat → Option (List ι)
  | _, [] => some []
  | free, n :: ns =>
    order.findSome? fun i =>
      if n ≤ free i then (search order (without free i n) ns).map (i :: ·) else none

/-- Every choice of bins, in the order in which the search comes to them. -/
def choices (order : List ι) : Nat → List (List ι)
  | 0 => [[]]
  | count + 1 => order.flatMap fun i => (choices order count).map (i :: ·)

omit [DecidableEq ι] in
theorem mem_choices {order : List ι} {count : Nat} {is : List ι} :
    is ∈ choices order count ↔ is.length = count ∧ ∀ i ∈ is, i ∈ order := by
  induction count generalizing is with
  | zero =>
    rw [choices, List.mem_singleton, List.length_eq_zero_iff]
    exact ⟨fun h => ⟨h, h ▸ fun _ hi => absurd hi List.not_mem_nil⟩, And.left⟩
  | succ count ih =>
    rw [choices, List.mem_flatMap]
    constructor
    · rintro ⟨i, hi, his⟩
      obtain ⟨is', his', rfl⟩ := List.mem_map.1 his
      obtain ⟨hlength, hmem⟩ := ih.1 his'
      exact ⟨congrArg (· + 1) hlength, List.forall_mem_cons.2 ⟨hi, hmem⟩⟩
    · rintro ⟨hlength, hmem⟩
      cases is with
      | nil => cases hlength
      | cons i is =>
        obtain ⟨hi, hmem⟩ := List.forall_mem_cons.1 hmem
        exact ⟨i, hi, List.mem_map_of_mem (ih.2 ⟨Nat.succ.inj hlength, hmem⟩)⟩

/-- **The search ends with the first choice that fits.** -/
theorem search_eq_find? (order : List ι) (free : ι → Nat) (ns : List Nat) :
    search order free ns = (choices order ns.length).find? (fits free ns) := by
  induction ns generalizing free with
  | nil => rfl
  | cons n ns ih =>
    rw [search, List.length_cons, choices, List.find?_flatMap]
    congr 1
    funext i
    rw [List.find?_map, ih]
    by_cases hn : n ≤ free i
    · rw [if_pos hn]
      congr 2
      funext is
      simp [fits, hn]
    · rw [if_neg hn]
      have hnone : (choices order ns.length).find? (fits free (n :: ns) ∘ (i :: ·)) = none :=
        List.find?_eq_none.2 fun is _ => by simp [fits, hn]
      rw [hnone, Option.map_none]

end Packing

end UbsEngine
