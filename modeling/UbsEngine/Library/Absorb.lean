import Mathlib.Algebra.Ring.Nat
import Mathlib.Algebra.BigOperators.Group.List.Basic
import Mathlib.Algebra.Order.BigOperators.Group.List
import Mathlib.Algebra.Order.Group.Nat

/-!
# Adding up pieces, with a refusal

Batches of pieces, each an amount under a key, are added up into one sum for each key. Before a
piece is added it may be refused, by the sum so far and its own amount, and a batch ends at its
first refusal (`UbsEngine.Absorb.absorbAll`). The sums are then at most what the pieces add up to,
and `UbsEngine.Absorb.absorbAll_eq_iff` says exactly when they are that: when no refusal costs
anything (`UbsEngine.Absorb.Fits`).
-/

namespace UbsEngine

namespace Absorb

variable {K : Type*} [DecidableEq K]

/-- What the pieces under a key add up to. -/
def total (ps : List (K × Nat)) (k : K) : Nat := (ps.map fun p => if p.1 = k then p.2 else 0).sum

/-- The sums with a piece added. -/
def add (t : K → Nat) (p : K × Nat) : K → Nat := fun k => t k + if p.1 = k then p.2 else 0

@[simp] theorem total_nil (k : K) : total ([] : List (K × Nat)) k = 0 := rfl

@[simp] theorem total_cons (p : K × Nat) (ps : List (K × Nat)) (k : K) :
    total (p :: ps) k = (if p.1 = k then p.2 else 0) + total ps k := rfl

theorem total_append (ps qs : List (K × Nat)) (k : K) :
    total (ps ++ qs) k = total ps k + total qs k := by
  rw [total, List.map_append, List.sum_append, total, total]

theorem total_perm {ps qs : List (K × Nat)} (h : ps.Perm qs) (k : K) : total ps k = total qs k :=
  (h.map _).sum_eq

theorem total_le_sum (ps : List (K × Nat)) (k : K) : total ps k ≤ (ps.map Prod.snd).sum := by
  refine List.sum_le_sum fun p _ => ?_
  split
  · exact Nat.le_refl _
  · exact Nat.zero_le _

/-- Nothing is under any key exactly when every piece is empty. -/
theorem total_eq_zero_iff {ps : List (K × Nat)} : (∀ k, total ps k = 0) ↔ ∀ p ∈ ps, p.2 = 0 := by
  induction ps with
  | nil => simp
  | cons p ps ih =>
    simp only [total_cons, Nat.add_eq_zero_iff, forall_and, ih, List.forall_mem_cons]
    refine and_congr_left fun _ => ⟨fun h => by simpa using h p.1, fun h k => ?_⟩
    split
    · exact h
    · rfl

variable (refuses : Nat → Nat → Bool)

/-- A batch is added up to its first refusal. -/
def absorb : (K → Nat) → List (K × Nat) → K → Nat
  | t, [] => t
  | t, p :: ps => if refuses (t p.1) p.2 then t else absorb (add t p) ps

def absorbAll (t : K → Nat) (batches : List (List (K × Nat))) : K → Nat :=
  batches.foldl (absorb refuses) t

/-- **No refusal costs anything**: a piece that is refused by what the pieces before it add up to
is empty, and so is the rest of its batch. -/
def FitsOne : (K → Nat) → List (K × Nat) → Prop
  | _, [] => True
  | t, p :: ps => (refuses (t p.1) p.2 → ∀ q ∈ p :: ps, q.2 = 0) ∧ FitsOne (add t p) ps

def Fits : (K → Nat) → List (List (K × Nat)) → Prop
  | _, [] => True
  | t, ps :: batches => FitsOne refuses t ps ∧ Fits (fun k => t k + total ps k) batches

instance FitsOne.decidable : (t : K → Nat) → (ps : List (K × Nat)) →
    Decidable (FitsOne refuses t ps)
  | _, [] => inferInstanceAs (Decidable True)
  | t, p :: ps =>
    have := FitsOne.decidable (add t p) ps
    inferInstanceAs (Decidable (_ ∧ _))

instance Fits.decidable : (t : K → Nat) → (batches : List (List (K × Nat))) →
    Decidable (Fits refuses t batches)
  | _, [] => inferInstanceAs (Decidable True)
  | t, ps :: batches =>
    have := Fits.decidable (fun k => t k + total ps k) batches
    inferInstanceAs (Decidable (_ ∧ _))

variable {refuses}

theorem absorb_le (t : K → Nat) (ps : List (K × Nat)) (k : K) :
    absorb refuses t ps k ≤ t k + total ps k := by
  induction ps generalizing t with
  | nil => exact Nat.le_refl _
  | cons p ps ih =>
    rw [absorb]
    split
    · exact Nat.le_add_right _ _
    · rw [total_cons, ← Nat.add_assoc]
      exact ih (add t p)

theorem absorbAll_le (t : K → Nat) (batches : List (List (K × Nat))) (k : K) :
    absorbAll refuses t batches k ≤ t k + total batches.flatten k := by
  induction batches generalizing t with
  | nil => exact Nat.le_refl _
  | cons ps batches ih =>
    rw [List.flatten_cons, total_append, ← Nat.add_assoc]
    exact (ih (absorb refuses t ps)).trans (Nat.add_le_add_right (absorb_le t ps k) _)

/-- Empty pieces fit. -/
theorem FitsOne.of_zero {t : K → Nat} {ps : List (K × Nat)} (h : ∀ p ∈ ps, p.2 = 0) :
    FitsOne refuses t ps := by
  induction ps generalizing t with
  | nil => trivial
  | cons p ps ih => exact ⟨fun _ => h, ih fun q hq => h q (List.mem_cons_of_mem _ hq)⟩

theorem absorb_eq_iff (t : K → Nat) (ps : List (K × Nat)) :
    (∀ k, absorb refuses t ps k = t k + total ps k) ↔ FitsOne refuses t ps := by
  induction ps generalizing t with
  | nil => exact ⟨fun _ => trivial, fun _ _ => rfl⟩
  | cons p ps ih =>
    rw [FitsOne]
    by_cases hrefuses : refuses (t p.1) p.2 = true
    · have hstop : ∀ k, absorb refuses t (p :: ps) k = t k := fun k => by
        rw [absorb, if_pos hrefuses]
      have hzero : (∀ k, absorb refuses t (p :: ps) k = t k + total (p :: ps) k) ↔
          ∀ q ∈ p :: ps, q.2 = 0 := by
        rw [← total_eq_zero_iff]
        refine forall_congr' fun k => ?_
        rw [hstop k]
        omega
      rw [hzero]
      constructor
      · intro h
        exact ⟨fun _ => h, FitsOne.of_zero fun q hq => h q (List.mem_cons_of_mem _ hq)⟩
      · exact fun h => h.1 hrefuses
    · have hgoes : ∀ k, absorb refuses t (p :: ps) k = absorb refuses (add t p) ps k := fun k => by
        rw [absorb, if_neg hrefuses]
      simp only [hgoes, total_cons, ← Nat.add_assoc]
      rw [and_iff_right fun h => absurd h hrefuses, ← ih (add t p)]
      rfl

/-- **The sums are what the pieces add up to exactly when no refusal costs anything.** -/
theorem absorbAll_eq_iff (t : K → Nat) (batches : List (List (K × Nat))) :
    (∀ k, absorbAll refuses t batches k = t k + total batches.flatten k) ↔
      Fits refuses t batches := by
  induction batches generalizing t with
  | nil => exact ⟨fun _ => trivial, fun _ _ => rfl⟩
  | cons ps batches ih =>
    rw [Fits, ← absorb_eq_iff, ← ih]
    simp only [List.flatten_cons, total_append, ← Nat.add_assoc]
    change (∀ k, absorbAll refuses (absorb refuses t ps) batches k = _) ↔ _
    constructor
    · intro h
      -- what the first batch loses is not made up for later
      have hfirst : ∀ k, absorb refuses t ps k = t k + total ps k := fun k => by
        have hle : absorb refuses t ps k ≤ _ := absorb_le t ps k
        have hrest : absorbAll refuses (absorb refuses t ps) batches k ≤ _ :=
          absorbAll_le (absorb refuses t ps) batches k
        have heq := h k
        omega
      refine ⟨hfirst, ?_⟩
      rw [← funext hfirst]
      exact h
    · rintro ⟨hfirst, hrest⟩
      rw [funext hfirst]
      exact hrest

/-! ### Sums over keys -/

/-- The pieces of the keys in `S`, added up key by key: the keys may leave out those that have
nothing. -/
theorem sum_total {S : K → Bool} {ps : List (K × Nat)} {keys : List K} (hnodup : keys.Nodup)
    (hS : ∀ k ∈ keys, S k) (hkeys : ∀ k, S k → k ∉ keys → total ps k = 0) :
    (keys.map (total ps)).sum = ((ps.filter fun p => S p.1).map Prod.snd).sum := by
  induction ps with
  | nil =>
    refine List.sum_eq_zero fun x hx => ?_
    obtain ⟨k, -, rfl⟩ := List.mem_map.1 hx
    rfl
  | cons p ps ih =>
    have hrest : ∀ k, S k → k ∉ keys → total ps k = 0 := fun k hk hmem =>
      (Nat.add_eq_zero_iff.1 (hkeys k hk hmem)).2
    have hsplit : (keys.map (total (p :: ps))).sum =
        (keys.map fun k => if p.1 = k then p.2 else 0).sum + (keys.map (total ps)).sum :=
      List.sum_map_add
    have hone : (keys.map fun k => if p.1 = k then p.2 else 0).sum =
        if p.1 ∈ keys then p.2 else 0 := by
      clear hsplit hrest ih hS hkeys
      induction keys with
      | nil => rfl
      | cons k keys ihk =>
        rw [List.nodup_cons] at hnodup
        rw [List.map_cons, List.sum_cons, ihk hnodup.2]
        rcases eq_or_ne p.1 k with rfl | hne
        · rw [if_pos rfl, if_neg hnodup.1, if_pos List.mem_cons_self, Nat.add_zero]
        · rw [if_neg hne, Nat.zero_add]
          simp [hne]
    rw [hsplit, hone, ih hrest]
    by_cases hp : S p.1 = true
    · rw [List.filter_cons_of_pos (p := fun p : K × Nat => S p.1) hp, List.map_cons, List.sum_cons]
      congr 1
      split
      next => rfl
      next hmem =>
        have hzero := hkeys p.1 hp hmem
        rw [total_cons, if_pos rfl] at hzero
        omega
    · rw [List.filter_cons_of_neg (p := fun p : K × Nat => S p.1) hp,
        if_neg fun hmem => hp (hS p.1 hmem), Nat.zero_add]

theorem total_eq_sum (ps : List (K × Nat)) (k : K) :
    total ps k = ((ps.filter fun p => p.1 = k).map Prod.snd).sum := by
  induction ps with
  | nil => rfl
  | cons p ps ih =>
    rw [total_cons, ih]
    split
    next h =>
      rw [List.filter_cons_of_pos (p := fun p : K × Nat => decide (p.1 = k)) (decide_eq_true h),
        List.map_cons, List.sum_cons]
    next h =>
      rw [List.filter_cons_of_neg (p := fun p : K × Nat => decide (p.1 = k)) (by simpa using h),
        Nat.zero_add]

end Absorb

end UbsEngine
