import Mathlib.Data.List.Infix
import Mathlib.Data.Nat.Notation
import Mathlib.Logic.Function.Basic

/-!
# Lending in units

Nodes lend units to each other over links. A ledger says how many units each of them has lent to each
other, and how many it has left (`UbsEngine.Lending.Ledger`). Whoever has borrowed does not lend, and
whoever has lent does not borrow, so that a unit never passes through a node. A list of deals can be
executed (`UbsEngine.Lending.Executes`) if each of them may be made at its time: a unit that is given
back has been lent, and a unit is lent over a link, by a node that has one left and has borrowed
nothing, to one that has lent nothing.
-/

namespace UbsEngine

namespace Lending

variable {ν : Type*} [DecidableEq ν]

inductive Deal (ν : Type*)
  | lend (lender borrower : ν)
  | giveBack (lender borrower : ν)
deriving DecidableEq

/-- The units that are lent, and those that are left. -/
@[ext] structure Ledger (ν : Type*) where
  loans : ν → ν → ℕ
  free : ν → ℕ

namespace Ledger

/-- No node lends and borrows. -/
def OneSided (L : Ledger ν) : Prop := ∀ a, (∀ b, L.loans a b = 0) ∨ ∀ b, L.loans b a = 0

/-- Another number of units is lent between two nodes, and another one left to the lender. -/
def change (L : Ledger ν) (a b : ν) (n m : ℕ) : Ledger ν where
  loans := Function.update L.loans a (Function.update (L.loans a) b n)
  free := Function.update L.free a m

variable (L : Ledger ν) (a b : ν) (n m n' m' : ℕ)

theorem loans_change (x y : ν) :
    (L.change a b n m).loans x y = if x = a ∧ y = b then n else L.loans x y := by
  show Function.update L.loans a (Function.update (L.loans a) b n) x y = _
  by_cases hx : x = a
  · rw [hx, Function.update_self, Function.update_apply]
    simp only [true_and]
  · rw [Function.update_of_ne hx, if_neg fun h => hx h.1]

@[simp] theorem loans_change_self : (L.change a b n m).loans a b = n := by
  rw [loans_change, if_pos ⟨rfl, rfl⟩]

theorem free_change (x : ν) : (L.change a b n m).free x = if x = a then m else L.free x :=
  Function.update_apply ..

@[simp] theorem free_change_self : (L.change a b n m).free a = m := Function.update_self ..

theorem loans_change_of_ne {x y : ν} (h : ¬(x = a ∧ y = b)) :
    (L.change a b n m).loans x y = L.loans x y := by
  rw [loans_change, if_neg h]

@[simp] theorem change_change : (L.change a b n m).change a b n' m' = L.change a b n' m' := by
  unfold change
  simp only [Function.update_self, Function.update_idem]

@[simp] theorem change_self : L.change a b (L.loans a b) (L.free a) = L := by
  unfold change
  simp only [Function.update_eq_self]

end Ledger

/-- The deals can be made in their order, and this is what they lead to. -/
inductive Executes (linked : ν → ν → Prop) (L : Ledger ν) : List (Deal ν) → Ledger ν → Prop
  | nil : Executes linked L [] L
  | lend {deals L'} (h : Executes linked L deals L') (a b : ν) (hlinked : linked a b)
      (hfree : 0 < L'.free a) (hlender : ∀ x, L'.loans x a = 0) (hborrower : ∀ x, L'.loans b x = 0) :
      Executes linked L (deals ++ [.lend a b]) (L'.change a b (L'.loans a b + 1) (L'.free a - 1))
  | giveBack {deals L'} (h : Executes linked L deals L') (a b : ν) (hloan : 0 < L'.loans a b) :
      Executes linked L (deals ++ [.giveBack a b]) (L'.change a b (L'.loans a b - 1) (L'.free a + 1))

variable {linked : ν → ν → Prop} {L L' : Ledger ν} {deals : List (Deal ν)}

/-- **Nobody comes to lend and to borrow**, if nobody is linked to itself. -/
theorem Executes.oneSided (h : Executes linked L deals L') (hL : L.OneSided)
    (hself : ∀ a, ¬ linked a a) : L'.OneSided := by
  induction h with
  | nil => exact hL
  | @lend deals L' h a b hlinked hfree hlender hborrower ih =>
    have hne : a ≠ b := by
      rintro rfl
      exact hself a hlinked
    intro c
    by_cases hc : c = a
    · rw [hc]
      refine .inr fun x => ?_
      rw [Ledger.loans_change_of_ne _ _ _ _ _ fun hx => hne hx.2]
      exact hlender x
    · by_cases hc' : c = b
      · rw [hc']
        refine .inl fun x => ?_
        rw [Ledger.loans_change_of_ne _ _ _ _ _ fun hx => hne hx.1.symm]
        exact hborrower x
      · refine (ih c).imp (fun hzero x => ?_) fun hzero x => ?_
        · rw [Ledger.loans_change_of_ne _ _ _ _ _ fun hx => hc hx.1]
          exact hzero x
        · rw [Ledger.loans_change_of_ne _ _ _ _ _ fun hx => hc' hx.2]
          exact hzero x
  | @giveBack deals L' h a b hloan ih =>
    have hle : ∀ x y, (L'.change a b (L'.loans a b - 1) (L'.free a + 1)).loans x y ≤
        L'.loans x y := by
      rintro x y
      rw [Ledger.loans_change]
      split_ifs with hxy
      · rw [hxy.1, hxy.2]
        exact Nat.sub_le _ _
      · exact le_rfl
    exact fun c => (ih c).imp (fun hzero x => Nat.eq_zero_of_le_zero ((hle c x).trans (hzero x).le))
      fun hzero x => Nat.eq_zero_of_le_zero ((hle x c).trans (hzero x).le)

/-- What can be executed can be executed in part. -/
theorem Executes.of_append {more : List (Deal ν)} (h : Executes linked L (deals ++ more) L') :
    ∃ L'', Executes linked L deals L'' := by
  induction more using List.reverseRecOn generalizing L' with
  | nil =>
    rw [List.append_nil] at h
    exact ⟨L', h⟩
  | append_singleton more deal ih =>
    rw [← List.append_assoc] at h
    generalize hall : deals ++ more ++ [deal] = all at h
    cases h with
    | nil => exact absurd hall (by simp)
    | lend h =>
      obtain ⟨rfl, -⟩ := List.append_inj' hall rfl
      exact ih h
    | giveBack h =>
      obtain ⟨rfl, -⟩ := List.append_inj' hall rfl
      exact ih h

/-- What the last deal needs and does, if it is a loan. -/
theorem Executes.of_lend {a b : ν} (h : Executes linked L (deals ++ [.lend a b]) L') :
    ∃ L'', Executes linked L deals L'' ∧ linked a b ∧ (∀ x, L''.loans x a = 0) ∧
      (∀ x, L''.loans b x = 0) ∧ L' = L''.change a b (L''.loans a b + 1) (L''.free a - 1) := by
  generalize hall : deals ++ [.lend a b] = all at h
  cases h with
  | nil => exact absurd hall (by simp)
  | @lend _ L'' h a' b' hlinked hfree hlender hborrower =>
    obtain ⟨rfl, hdeal⟩ := List.append_inj' hall rfl
    obtain ⟨rfl, rfl⟩ := Deal.lend.inj (List.cons.inj hdeal).1
    exact ⟨L'', h, hlinked, hlender, hborrower, rfl⟩
  | giveBack h => exact absurd (List.append_inj' hall rfl).2 (by simp)

/-- What the last deal needs and does, if it is a return. -/
theorem Executes.of_giveBack {a b : ν} (h : Executes linked L (deals ++ [.giveBack a b]) L') :
    ∃ L'', Executes linked L deals L'' ∧ 0 < L''.loans a b ∧
      L' = L''.change a b (L''.loans a b - 1) (L''.free a + 1) := by
  generalize hall : deals ++ [.giveBack a b] = all at h
  cases h with
  | nil => exact absurd hall (by simp)
  | lend h => exact absurd (List.append_inj' hall rfl).2 (by simp)
  | @giveBack _ L'' h a' b' hloan =>
    obtain ⟨rfl, hdeal⟩ := List.append_inj' hall rfl
    obtain ⟨rfl, rfl⟩ := Deal.giveBack.inj (List.cons.inj hdeal).1
    exact ⟨L'', h, hloan, rfl⟩

/-- The deals say what they lead to. -/
theorem Executes.unique {L₁ L₂ : Ledger ν} (h₁ : Executes linked L deals L₁)
    (h₂ : Executes linked L deals L₂) : L₁ = L₂ := by
  induction deals using List.reverseRecOn generalizing L₁ L₂ with
  | nil =>
    have hnil : ∀ {L'}, Executes linked L [] L' → L' = L := by
      rintro L' h
      generalize hall : ([] : List (Deal ν)) = all at h
      cases h with
      | nil => rfl
      | lend h => exact absurd hall (by simp)
      | giveBack h => exact absurd hall (by simp)
    rw [hnil h₁, hnil h₂]
  | append_singleton deals deal ih =>
    cases deal with
    | lend a b =>
      obtain ⟨M₁, hM₁, -, -, -, rfl⟩ := h₁.of_lend
      obtain ⟨M₂, hM₂, -, -, -, rfl⟩ := h₂.of_lend
      rw [ih hM₁ hM₂]
    | giveBack a b =>
      obtain ⟨M₁, hM₁, -, rfl⟩ := h₁.of_giveBack
      obtain ⟨M₂, hM₂, -, rfl⟩ := h₂.of_giveBack
      rw [ih hM₁ hM₂]

/-- Several units are given back, one after the other. -/
theorem Executes.giveBack_replicate (h : Executes linked L deals L') (a b : ν) {n : ℕ}
    (hn : n ≤ L'.loans a b) :
    Executes linked L (deals ++ List.replicate n (.giveBack a b))
      (L'.change a b (L'.loans a b - n) (L'.free a + n)) := by
  induction n with
  | zero =>
    rw [List.replicate_zero, List.append_nil, Nat.sub_zero, Nat.add_zero, Ledger.change_self]
    exact h
  | succ n ih =>
    have hprevious := (ih (Nat.le_of_succ_le hn)).giveBack a b (by
      rw [Ledger.loans_change_self]
      omega)
    rw [Ledger.loans_change_self, Ledger.free_change_self, Ledger.change_change, List.append_assoc,
      ← List.replicate_succ', Nat.sub_sub, Nat.add_assoc] at hprevious
    exact hprevious

end Lending

end UbsEngine
