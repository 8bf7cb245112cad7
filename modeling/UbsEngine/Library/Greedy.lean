import Mathlib.Algebra.Ring.Nat
import Mathlib.Algebra.BigOperators.Group.List.Basic

/-!
# Taking what fits

A list is gone through from the front, and each element is taken that fits into what is left of a
budget (`UbsEngine.Greedy.select`). What is taken keeps the budget, and each element that is left out
would have passed it at its turn; nothing else does both
(`UbsEngine.Greedy.takes_iff_eq_select`).

The weight by which the elements are chosen need not be the one the budget is about. Choosing by a
smaller weight comes to the same exactly if no element fits by it that does not fit in fact
(`UbsEngine.Greedy.select_eq_select_iff`).
-/

namespace UbsEngine

namespace Greedy

variable {α : Type*} (w : α → Nat) (room : Nat)

/-- What is taken of a list when some of the budget is used already. -/
def select : Nat → List α → List α
  | _, [] => []
  | used, a :: l =>
    if room < used + w a then select used l else a :: select (used + w a) l

/-- What may be taken of a list if an element is left out only when it would pass the budget. -/
inductive Takes : Nat → List α → List α → Prop
  | nil (used : Nat) : Takes used [] []
  | take {used : Nat} {a : α} {l s : List α} (h : Takes (used + w a) l s) :
      Takes used (a :: l) (a :: s)
  | leave {used : Nat} {a : α} {l s : List α} (hover : room < used + w a) (h : Takes used l s) :
      Takes used (a :: l) s

variable {w : α → Nat} {room : Nat} {used : Nat} {a : α} {l s : List α}

theorem select_cons_of_lt (h : room < used + w a) :
    select w room used (a :: l) = select w room used l := if_pos h

theorem select_cons_of_le (h : used + w a ≤ room) :
    select w room used (a :: l) = a :: select w room (used + w a) l := if_neg (Nat.not_lt.2 h)

theorem takes_select (used : Nat) (l : List α) : Takes w room used l (select w room used l) := by
  induction l generalizing used with
  | nil => exact .nil used
  | cons a l ih =>
    rcases Nat.lt_or_ge room (used + w a) with hover | hfits
    · rw [select_cons_of_lt hover]
      exact .leave hover (ih used)
    · rw [select_cons_of_le hfits]
      exact .take (ih _)

/-- What is taken keeps the budget. -/
theorem add_sum_select_le (l : List α) (h : used ≤ room) :
    used + ((select w room used l).map w).sum ≤ room := by
  induction l generalizing used with
  | nil => exact h
  | cons a l ih =>
    rcases Nat.lt_or_ge room (used + w a) with hover | hfits
    · rw [select_cons_of_lt hover]
      exact ih h
    · rw [select_cons_of_le hfits, List.map_cons, List.sum_cons, ← Nat.add_assoc]
      exact ih hfits

/-- Each element that is taken fits by itself. -/
theorem add_le_of_mem_select (h : a ∈ select w room used l) : used + w a ≤ room := by
  induction l generalizing used with
  | nil => exact absurd h List.not_mem_nil
  | cons b l ih =>
    rcases Nat.lt_or_ge room (used + w b) with hover | hfits
    · rw [select_cons_of_lt hover] at h
      exact ih h
    · rw [select_cons_of_le hfits] at h
      rcases List.mem_cons.1 h with rfl | h
      · exact hfits
      · exact Nat.le_trans (Nat.add_le_add_right (Nat.le_add_right _ _) _) (ih h)

theorem Takes.eq_select (h : Takes w room used l s) (hsum : used + (s.map w).sum ≤ room) :
    s = select w room used l := by
  induction h with
  | nil => rfl
  | take h ih =>
    rw [List.map_cons, List.sum_cons, ← Nat.add_assoc] at hsum
    rw [select_cons_of_le (Nat.le_trans (Nat.le_add_right _ _) hsum), ih hsum]
  | leave hover h ih => rw [select_cons_of_lt hover, ih hsum]

/-- **Taking what fits is the only way** to keep the budget and to leave nothing out that fits. -/
theorem takes_iff_eq_select :
    (used + (s.map w).sum ≤ room ∧ Takes w room used l s) ↔
      used ≤ room ∧ s = select w room used l := by
  constructor
  · rintro ⟨hsum, htakes⟩
    exact ⟨Nat.le_trans (Nat.le_add_right _ _) hsum, htakes.eq_select hsum⟩
  · rintro ⟨hused, rfl⟩
    exact ⟨add_sum_select_le l hused, takes_select used l⟩

/-! ### Two weights -/

/-- **Choosing by a smaller weight comes to the same** exactly if no element that is left out by the
larger one fits by the smaller one. -/
theorem select_eq_select_iff {v w : α → Nat} {room usedV usedW : Nat} {l : List α}
    (hvw : ∀ a ∈ l, v a ≤ w a) (hused : usedV ≤ usedW) :
    select v room usedV l = select w room usedW l ↔
      ∀ pre a post, l = pre ++ a :: post →
        room < usedW + ((select w room usedW pre).map w).sum + w a →
        room < usedV + ((select w room usedW pre).map v).sum + v a := by
  induction l generalizing usedV usedW with
  | nil =>
    refine iff_of_true rfl fun pre a post hsplit => ?_
    exact absurd hsplit.symm (List.append_ne_nil_of_right_ne_nil _ (List.cons_ne_nil _ _))
  | cons b l ih =>
    obtain ⟨hb, hl⟩ := List.forall_mem_cons.1 hvw
    rcases Nat.lt_or_ge room (usedW + w b) with hover | hfits
    · rw [select_cons_of_lt hover]
      rcases Nat.lt_or_ge room (usedV + v b) with hover' | hfits'
      · rw [select_cons_of_lt hover', ih hl hused]
        refine ⟨fun h pre a post hsplit => ?_, fun h pre a post hsplit => ?_⟩
        · rcases List.cons_eq_append_iff.1 hsplit with ⟨rfl, hcons⟩ | ⟨pre', rfl, hrest⟩
          · obtain ⟨rfl, -⟩ := List.cons_eq_cons.1 hcons
            exact fun _ => hover'
          · rw [select_cons_of_lt hover]
            exact h pre' a post hrest
        · have hcons := h (b :: pre) a post (by rw [hsplit, List.cons_append])
          rwa [select_cons_of_lt hover] at hcons
      · -- the element is taken by the one weight only
        refine iff_of_false (fun heq => ?_) fun h => ?_
        · rw [select_cons_of_le hfits'] at heq
          have hmem : b ∈ select w room usedW l := heq ▸ List.mem_cons_self
          exact absurd (add_le_of_mem_select hmem) (Nat.not_le.2 hover)
        · exact absurd (h [] b l rfl hover) (Nat.not_lt.2 hfits')
    · have hfits' : usedV + v b ≤ room := Nat.le_trans (Nat.add_le_add hused hb) hfits
      rw [select_cons_of_le hfits, select_cons_of_le hfits', List.cons_inj_right,
        ih hl (Nat.add_le_add hused hb)]
      refine ⟨fun h pre a post hsplit => ?_, fun h pre a post hsplit => ?_⟩
      · rcases List.cons_eq_append_iff.1 hsplit with ⟨rfl, hcons⟩ | ⟨pre', rfl, hrest⟩
        · obtain ⟨rfl, -⟩ := List.cons_eq_cons.1 hcons
          exact fun hlt => absurd hfits (Nat.not_le.2 hlt)
        · rw [select_cons_of_le hfits, List.map_cons, List.map_cons, List.sum_cons, List.sum_cons,
            ← Nat.add_assoc, ← Nat.add_assoc]
          exact h pre' a post hrest
      · have hcons := h (b :: pre) a post (by rw [hsplit, List.cons_append])
        rwa [select_cons_of_le hfits, List.map_cons, List.map_cons, List.sum_cons, List.sum_cons,
          ← Nat.add_assoc, ← Nat.add_assoc] at hcons

end Greedy

end UbsEngine
