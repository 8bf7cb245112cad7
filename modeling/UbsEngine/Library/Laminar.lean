import Mathlib.Algebra.BigOperators.Group.Finset.Basic
import Mathlib.Algebra.BigOperators.Ring.Finset
import Mathlib.Algebra.Order.BigOperators.Group.Finset
import Mathlib.Algebra.Order.Group.Nat

/-!
# Greedy choices under nested limits

Items have limits of their own, groups of items have a common one, and groups of groups have one
again. What is taken is counted in blocks. If of each item no further block can be taken, since the
item or one of the groups around it has less than a block to go, then nobody can take more in all:
`UbsEngine.Laminar.sum_le_of_full`. So the order in which a greedy choice goes through the items
does not matter for how much it gets.
-/

namespace UbsEngine

namespace Laminar

variable {ι κ ν : Type*}

/-- A sum is at most another if it is so group by group. -/
theorem sum_le_sum_of_groups [DecidableEq κ] {s : Finset ι} (group : ι → κ) {f g : ι → Nat}
    (h : ∀ k, ∑ i ∈ s with group i = k, f i ≤ ∑ i ∈ s with group i = k, g i) :
    ∑ i ∈ s, f i ≤ ∑ i ∈ s, g i := by
  have hmaps : ∀ i ∈ s, group i ∈ s.image group := fun i hi => Finset.mem_image_of_mem _ hi
  calc ∑ i ∈ s, f i = ∑ k ∈ s.image group, ∑ i ∈ s with group i = k, f i :=
        (Finset.sum_fiberwise_of_maps_to hmaps f).symm
    _ ≤ ∑ k ∈ s.image group, ∑ i ∈ s with group i = k, g i := Finset.sum_le_sum fun k _ => h k
    _ = ∑ i ∈ s, g i := Finset.sum_fiberwise_of_maps_to hmaps g

/-- Of two amounts in blocks, one within a limit is at most the other if that leaves less than a
block. -/
theorem le_of_lt_add {block n t limit : Nat} (hn : block ∣ n) (ht : block ∣ t) (hle : n ≤ limit)
    (hfull : limit < t + block) : n ≤ t := by
  by_contra hlt
  have hsub : block ∣ n - t := Nat.dvd_sub hn ht
  have hpos : 0 < n - t := by omega
  have hblock := Nat.le_of_dvd hpos hsub
  omega

variable [DecidableEq κ] [DecidableEq ν] {s : Finset ι} {inner : ι → κ} {outer : ι → ν}
  {block innerLimit outerLimit : Nat} {limit taken other : ι → Nat}

/-- **Nothing more can be taken** when every item is full, or stands in a full group. -/
theorem sum_le_of_full (hnested : ∀ i ∈ s, ∀ j ∈ s, inner i = inner j → outer i = outer j)
    (htaken : ∀ i ∈ s, block ∣ taken i) (hother : ∀ i ∈ s, block ∣ other i)
    (hlimit : ∀ i ∈ s, other i ≤ limit i)
    (hinner : ∀ k, ∑ i ∈ s with inner i = k, other i ≤ innerLimit)
    (houter : ∀ n, ∑ i ∈ s with outer i = n, other i ≤ outerLimit)
    (hfull : ∀ i ∈ s, limit i < taken i + block ∨
      innerLimit < (∑ j ∈ s with inner j = inner i, taken j) + block ∨
      outerLimit < (∑ j ∈ s with outer j = outer i, taken j) + block) :
    ∑ i ∈ s, other i ≤ ∑ i ∈ s, taken i := by
  have hdvd : ∀ (f : ι → Nat), (∀ i ∈ s, block ∣ f i) → ∀ p : ι → Prop, ∀ [DecidablePred p],
      block ∣ ∑ i ∈ s with p i, f i := fun f hf p _ =>
    Finset.dvd_sum fun i hi => hf i (Finset.mem_filter.1 hi).1
  refine sum_le_sum_of_groups outer fun n => ?_
  by_cases hn : outerLimit < (∑ j ∈ s with outer j = n, taken j) + block
  · exact le_of_lt_add (hdvd _ hother _) (hdvd _ htaken _) (houter n) hn
  · refine sum_le_sum_of_groups inner fun k => ?_
    by_cases hk : ∃ i ∈ s, outer i = n ∧ inner i = k ∧
        innerLimit < (∑ j ∈ s with inner j = k, taken j) + block
    · -- The whole group is in the group of groups.
      obtain ⟨i, hi, hin, hik, hik'⟩ := hk
      have hsame : (s.filter fun j => outer j = n).filter (fun j => inner j = k) =
          s.filter fun j => inner j = k := by
        rw [Finset.filter_filter]
        refine Finset.filter_congr fun j hj => ⟨fun h => h.2, fun h => ⟨?_, h⟩⟩
        exact (hnested j hj i hi (h.trans hik.symm)).trans hin
      rw [hsame]
      exact le_of_lt_add (hdvd _ hother _) (hdvd _ htaken _) (hinner k) hik'
    · -- Every item of the group is full itself.
      refine Finset.sum_le_sum fun i hi => ?_
      rw [Finset.mem_filter, Finset.mem_filter] at hi
      obtain ⟨⟨hi, rfl⟩, rfl⟩ := hi
      rcases hfull i hi with h | h | h
      · exact le_of_lt_add (hother i hi) (htaken i hi) (hlimit i hi) h
      · exact absurd ⟨i, hi, rfl, rfl, h⟩ hk
      · exact absurd h hn

end Laminar

end UbsEngine
