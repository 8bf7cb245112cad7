import Mathlib.Data.List.Forall2

/-!
# Lists whose entries change in place

A pass over some places of a list changes the entry at each of them and never adds or takes away
an entry. What such a pass comes to is then said entry by entry: for a relation that one change
keeps to, and that composes, the entry before the pass and the entry after it are related
(`UbsEngine.Slots.forall₂_foldl`).
-/

namespace UbsEngine

namespace Slots

variable {α β σ ρ : Type*}

section Members

variable {R : α → β → Prop} {l : List α} {m : List β}

theorem exists_right (h : List.Forall₂ R l m) {a : α} (ha : a ∈ l) : ∃ b ∈ m, R a b := by
  induction h with
  | nil => cases ha
  | cons hab _ ih =>
    rcases List.mem_cons.1 ha with rfl | ha
    · exact ⟨_, List.mem_cons_self, hab⟩
    · obtain ⟨b, hb, hR⟩ := ih ha
      exact ⟨b, List.mem_cons_of_mem _ hb, hR⟩

theorem exists_left (h : List.Forall₂ R l m) {b : β} (hb : b ∈ m) : ∃ a ∈ l, R a b := by
  induction h with
  | nil => cases hb
  | cons hab _ ih =>
    rcases List.mem_cons.1 hb with rfl | hb
    · exact ⟨_, List.mem_cons_self, hab⟩
    · obtain ⟨a, ha, hR⟩ := ih hb
      exact ⟨a, List.mem_cons_of_mem _ ha, hR⟩

/-- The entry at the same place. -/
theorem exists_right_at (h : List.Forall₂ R l m) {i : Nat} {a : α} (ha : l[i]? = some a) :
    ∃ b, m[i]? = some b ∧ R a b := by
  induction h generalizing i with
  | nil => cases ha
  | cons hab _ ih =>
    cases i with
    | zero =>
      obtain rfl := Option.some.inj ha
      exact ⟨_, rfl, hab⟩
    | succ i => exact ih ha

theorem exists_left_at (h : List.Forall₂ R l m) {i : Nat} {b : β} (hb : m[i]? = some b) :
    ∃ a, l[i]? = some a ∧ R a b := by
  induction h generalizing i with
  | nil => cases hb
  | cons hab _ ih =>
    cases i with
    | zero =>
      obtain rfl := Option.some.inj hb
      exact ⟨_, rfl, hab⟩
    | succ i => exact ih hb

end Members

section Pass

variable {R : α → α → Prop} (hrefl : ∀ a, R a a)

include hrefl

theorem forall₂_refl (l : List α) : List.Forall₂ R l l :=
  List.forall₂_same.2 fun a _ => hrefl a

/-- One entry is changed. -/
theorem forall₂_set {l : List α} {i : Nat} {a b : α} (h : l[i]? = some a) (hab : R a b) :
    List.Forall₂ R l (l.set i b) := by
  induction l generalizing i with
  | nil => cases h
  | cons c l ih =>
    cases i with
    | zero =>
      obtain rfl : c = a := Option.some.inj h
      exact .cons hab (forall₂_refl hrefl l)
    | succ i => exact .cons (hrefl c) (ih h)

variable (htrans : ∀ a b c, R a b → R b c → R a c)

include htrans

omit hrefl in
theorem forall₂_trans {l m n : List α} (h : List.Forall₂ R l m) (h' : List.Forall₂ R m n) :
    List.Forall₂ R l n := by
  induction h generalizing n with
  | nil => exact h'
  | cons hab _ ih =>
    cases h' with
    | cons hbc hrest => exact .cons (htrans _ _ _ hab hbc) (ih hrest)

/-- **A pass changes the entries as its steps do.** -/
theorem forall₂_foldl {get : σ → List α} {step : σ → ρ → σ}
    (hstep : ∀ s r, List.Forall₂ R (get s) (get (step s r))) (s : σ) (rs : List ρ) :
    List.Forall₂ R (get s) (get (rs.foldl step s)) := by
  induction rs generalizing s with
  | nil => exact forall₂_refl hrefl _
  | cons r rs ih => exact forall₂_trans htrans (hstep s r) (ih (step s r))

/-- A pass changes the entries as its steps do, where the steps are taken. -/
theorem forall₂_foldl_of_splits {get : σ → List α} {step : σ → ρ → σ} {s : σ} {rs : List ρ}
    (hstep : ∀ before r after, rs = before ++ r :: after →
      List.Forall₂ R (get (before.foldl step s)) (get (step (before.foldl step s) r))) :
    List.Forall₂ R (get s) (get (rs.foldl step s)) := by
  induction rs generalizing s with
  | nil => exact forall₂_refl hrefl _
  | cons r rs ih =>
    refine forall₂_trans htrans (hstep [] r rs rfl) (ih fun before r' after h => ?_)
    exact hstep (r :: before) r' after (by rw [h, List.cons_append])

end Pass

end Slots

end UbsEngine
