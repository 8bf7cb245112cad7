import Mathlib.Algebra.Ring.Nat
import Mathlib.Algebra.Order.BigOperators.Group.List
import Mathlib.Data.List.Basic
import Mathlib.Data.List.Find

/-!
# The first element that matches

Tables that are kept as vectors are searched from the front, and what is found is changed in
place or erased. `UbsEngine.modifyFirst` is the first of these (the second is `List.eraseP`). A
weight that is added up over such a table moves by what the one element weighed before and what
it weighs after (`UbsEngine.sum_modifyFirst`, `UbsEngine.sum_eraseP`).
-/

namespace UbsEngine

variable {α : Type*}

/-- The list with its first element that satisfies `p` replaced by `f` of it. -/
def modifyFirst (p : α → Bool) (f : α → α) : List α → List α
  | [] => []
  | a :: l => if p a then f a :: l else a :: modifyFirst p f l

theorem modifyFirst_of_find?_none {p : α → Bool} {l : List α} (f : α → α)
    (h : l.find? p = none) : modifyFirst p f l = l := by
  induction l with
  | nil => rfl
  | cons a l ih =>
    rw [List.find?_cons] at h
    rw [modifyFirst]
    split at h
    next => cases h
    next hp => rw [if_neg (by simp [hp]), ih h]

theorem modifyFirst_ne {p : α → Bool} {f : α → α} {l : List α} {a : α} (h : l.find? p = some a)
    (hf : f a ≠ a) : modifyFirst p f l ≠ l := by
  induction l with
  | nil => cases h
  | cons b l ih =>
    rw [List.find?_cons] at h
    rw [modifyFirst]
    split at h
    next hp =>
      obtain rfl := Option.some.inj h
      rw [if_pos hp]
      exact fun heq => hf (List.cons_eq_cons.1 heq).1
    next hp =>
      rw [if_neg (by simp [hp])]
      exact fun heq => ih h (List.cons_eq_cons.1 heq).2

theorem length_modifyFirst (p : α → Bool) (f : α → α) (l : List α) :
    (modifyFirst p f l).length = l.length := by
  induction l with
  | nil => rfl
  | cons a l ih =>
    rw [modifyFirst]
    split
    next => rfl
    next => rw [List.length_cons, List.length_cons, ih]

/-- The elements afterwards are those that were not found, and what has become of the one that
was. -/
theorem mem_modifyFirst {p : α → Bool} {f : α → α} {l : List α} {b : α}
    (h : b ∈ modifyFirst p f l) : b ∈ l ∨ ∃ a, l.find? p = some a ∧ b = f a := by
  induction l with
  | nil => cases h
  | cons a l ih =>
    rw [modifyFirst] at h
    split at h
    next hp =>
      rcases List.mem_cons.1 h with rfl | h
      · exact .inr ⟨a, List.find?_cons_of_pos hp, rfl⟩
      · exact .inl (List.mem_cons_of_mem a h)
    next hp =>
      rcases List.mem_cons.1 h with rfl | h
      · exact .inl List.mem_cons_self
      · rw [List.find?_cons_of_neg hp]
        exact (ih h).imp (List.mem_cons_of_mem a) id

theorem sum_modifyFirst (w : α → Nat) {p : α → Bool} (f : α → α) {l : List α} {a : α}
    (h : l.find? p = some a) :
    ((modifyFirst p f l).map w).sum + w a = (l.map w).sum + w (f a) := by
  induction l with
  | nil => cases h
  | cons b l ih =>
    rw [List.find?_cons] at h
    rw [modifyFirst]
    split at h
    next hp =>
      obtain rfl := Option.some.inj h
      rw [if_pos hp, List.map_cons, List.map_cons, List.sum_cons, List.sum_cons]
      omega
    next hp =>
      have := ih h
      rw [if_neg (by simp [hp]), List.map_cons, List.map_cons, List.sum_cons, List.sum_cons]
      omega

theorem sum_eraseP (w : α → Nat) {p : α → Bool} {l : List α} {a : α}
    (h : l.find? p = some a) : ((l.eraseP p).map w).sum + w a = (l.map w).sum := by
  induction l with
  | nil => cases h
  | cons b l ih =>
    rw [List.find?_cons] at h
    split at h
    next hp =>
      obtain rfl := Option.some.inj h
      rw [List.eraseP_cons_of_pos hp, List.map_cons, List.sum_cons]
      omega
    next hp =>
      have := ih h
      rw [List.eraseP_cons_of_neg (by simp [hp]), List.map_cons, List.map_cons, List.sum_cons,
        List.sum_cons]
      omega

theorem eraseP_of_find?_none {p : α → Bool} {l : List α} (h : l.find? p = none) :
    l.eraseP p = l :=
  List.eraseP_of_forall_not fun a ha => List.find?_eq_none.1 h a ha

theorem eraseP_ne {p : α → Bool} {l : List α} {a : α} (h : l.find? p = some a) :
    l.eraseP p ≠ l := by
  intro heq
  have hlength := List.length_eraseP_of_mem (List.mem_of_find?_eq_some h) (List.find?_some h)
  have hpos := List.length_pos_of_mem (List.mem_of_find?_eq_some h)
  rw [heq] at hlength
  omega

/-- What a list weighs after a change that changes the weight of no element. -/
theorem sum_map_congr {w : α → Nat} {f : α → α} (hf : ∀ a, w (f a) = w a) (l : List α) :
    ((l.map f).map w).sum = (l.map w).sum := by
  rw [List.map_map]
  exact congrArg List.sum (List.map_congr_left fun a _ => hf a)

/-- Elements that are left out or made lighter. -/
theorem sum_filter_map_le {w : α → Nat} {f : α → α} {p : α → Bool} (hf : ∀ a, w (f a) ≤ w a)
    (l : List α) : (((l.map f).filter p).map w).sum ≤ (l.map w).sum := by
  induction l with
  | nil => exact le_rfl
  | cons a l ih =>
    have := hf a
    rw [List.map_cons, List.filter_cons, List.map_cons, List.sum_cons]
    split
    next =>
      rw [List.map_cons, List.sum_cons]
      omega
    next => omega

/-- An element that is taken out at its place. -/
theorem sum_eraseIdx (w : α → Nat) {l : List α} {i : Nat} {a : α} (h : l[i]? = some a) :
    ((l.eraseIdx i).map w).sum + w a = (l.map w).sum := by
  induction l generalizing i with
  | nil => cases h
  | cons b l ih =>
    cases i with
    | zero =>
      obtain rfl := Option.some.inj h
      rw [List.eraseIdx_cons_zero, List.map_cons, List.sum_cons, Nat.add_comm]
    | succ i =>
      have := ih h
      rw [List.eraseIdx_cons_succ, List.map_cons, List.map_cons, List.sum_cons, List.sum_cons]
      omega

theorem sum_set (w : α → Nat) {l : List α} {i : Nat} {a : α} (h : l[i]? = some a) (b : α) :
    ((l.set i b).map w).sum + w a = (l.map w).sum + w b := by
  induction l generalizing i with
  | nil => cases h
  | cons c l ih =>
    cases i with
    | zero =>
      obtain rfl := Option.some.inj h
      rw [List.set_cons_zero, List.map_cons, List.map_cons, List.sum_cons, List.sum_cons]
      omega
    | succ i =>
      have := ih h
      rw [List.set_cons_succ, List.map_cons, List.map_cons, List.sum_cons, List.sum_cons]
      omega

/-- Adding up over the places of some elements is adding up over these elements. -/
theorem sum_places (p : α → Bool) (w : α → Nat) (l : List α) :
    (((List.range l.length).filter fun i => (l[i]?).any p).map fun i =>
        ((l[i]?).map w).getD 0).sum = (l.map fun a => if p a then w a else 0).sum := by
  induction l with
  | nil => rfl
  | cons a l ih =>
    rw [List.length_cons, List.range_succ_eq_map, List.filter_cons, List.filter_map]
    have htail : ((((List.range l.length).filter ((fun i => ((a :: l)[i]?).any p) ∘ Nat.succ)).map
        Nat.succ).map fun i => (((a :: l)[i]?).map w).getD 0).sum =
          (l.map fun a => if p a then w a else 0).sum := by
      rw [← ih, List.map_map]
      rfl
    cases hp : p a with
    | true =>
      rw [if_pos (show ((a :: l)[0]?).any p = true from hp), List.map_cons, List.sum_cons, htail,
        List.map_cons, List.sum_cons, hp]
      rfl
    | false =>
      rw [if_neg (show ¬((a :: l)[0]?).any p = true from by simp [hp]), htail, List.map_cons,
        List.sum_cons, hp, if_neg Bool.false_ne_true, Nat.zero_add]

/-! ### The elements that match -/

/-- Changing the first element that matches changes the first of those that match. -/
theorem filter_modifyFirst_self {p : α → Bool} {f : α → α} (hf : ∀ a, p a = true → p (f a) = true)
    (l : List α) : (modifyFirst p f l).filter p = (l.filter p).modifyHead f := by
  induction l with
  | nil => rfl
  | cons a l ih =>
    rw [modifyFirst]
    split
    next hp => rw [List.filter_cons_of_pos (hf a hp), List.filter_cons_of_pos hp, List.modifyHead]
    next hp => rw [List.filter_cons_of_neg hp, List.filter_cons_of_neg hp, ih]

theorem filter_modifyFirst_of_disjoint {p q : α → Bool} {f : α → α}
    (h : ∀ a, p a = true → q a = false ∧ q (f a) = false) (l : List α) :
    (modifyFirst p f l).filter q = l.filter q := by
  induction l with
  | nil => rfl
  | cons a l ih =>
    rw [modifyFirst]
    split
    next hp =>
      rw [List.filter_cons_of_neg (by simp [(h a hp).2]), List.filter_cons_of_neg (by simp [(h a hp).1])]
    next hp => rw [List.filter_cons, List.filter_cons, ih]

theorem filter_eraseP_self (p : α → Bool) (l : List α) :
    (l.eraseP p).filter p = (l.filter p).tail := by
  induction l with
  | nil => rfl
  | cons a l ih =>
    by_cases hp : p a = true
    · rw [List.eraseP_cons_of_pos hp, List.filter_cons_of_pos hp, List.tail_cons]
    · rw [List.eraseP_cons_of_neg hp, List.filter_cons_of_neg hp, List.filter_cons_of_neg hp, ih]

theorem filter_eraseP_of_disjoint {p q : α → Bool} (h : ∀ a, p a = true → q a = false)
    (l : List α) : (l.eraseP p).filter q = l.filter q := by
  induction l with
  | nil => rfl
  | cons a l ih =>
    by_cases hp : p a = true
    · rw [List.eraseP_cons_of_pos hp, List.filter_cons_of_neg (by simp [h a hp])]
    · rw [List.eraseP_cons_of_neg hp, List.filter_cons, List.filter_cons, ih]

/-! ### Changing the first element that matches, or adding one -/

/-- The list with its first element that satisfies `p` replaced by `f` of it, or with a new element
if there is none. -/
def upsert (p : α → Bool) (f : α → α) (new : α) (l : List α) : List α :=
  match l.find? p with
  | none => l ++ [new]
  | some _ => modifyFirst p f l

section Upsert

variable {p q : α → Bool} {f : α → α} {new : α} {l : List α}

theorem upsert_of_none (h : l.find? p = none) : upsert p f new l = l ++ [new] := by
  rw [upsert, h]

theorem upsert_of_some {a : α} (h : l.find? p = some a) : upsert p f new l = modifyFirst p f l := by
  rw [upsert, h]

theorem mem_upsert {b : α} (h : b ∈ upsert p f new l) :
    b ∈ l ∨ b = new ∨ ∃ a, l.find? p = some a ∧ b = f a := by
  rcases hfind : l.find? p with - | a
  · rw [upsert_of_none hfind, List.mem_append, List.mem_singleton] at h
    exact h.imp_right .inl
  · rw [upsert_of_some hfind] at h
    rcases mem_modifyFirst h with h | ⟨a', ha', rfl⟩
    · exact .inl h
    · exact .inr (.inr ⟨a, rfl, by rw [Option.some.inj (hfind.symm.trans ha')]⟩)

theorem sum_upsert (w : α → Nat) {c : Nat} (hf : ∀ a, l.find? p = some a → w (f a) = w a + c)
    (hnew : w new = c) : ((upsert p f new l).map w).sum = (l.map w).sum + c := by
  rcases hfind : l.find? p with - | a
  · rw [upsert_of_none hfind, List.map_append, List.sum_append, List.map_singleton,
      List.sum_singleton, hnew]
  · have hsum := sum_modifyFirst w f hfind
    have ha := hf a hfind
    rw [upsert_of_some hfind]
    omega

theorem sum_upsert_le (w : α → Nat) {c : Nat} (hf : ∀ a, w (f a) ≤ w a + c) (hnew : w new ≤ c) :
    ((upsert p f new l).map w).sum ≤ (l.map w).sum + c := by
  rcases hfind : l.find? p with - | a
  · rw [upsert_of_none hfind, List.map_append, List.sum_append, List.map_singleton,
      List.sum_singleton]
    omega
  · have hsum := sum_modifyFirst w f hfind
    have ha := hf a
    rw [upsert_of_some hfind]
    omega

/-- The search among the elements of a kind that all matches are of. -/
theorem find?_filter_of_imp (h : ∀ a, p a = true → q a = true) (l : List α) :
    (l.filter q).find? p = l.find? p := by
  rw [List.find?_filter]
  congr 1
  funext a
  cases hp : p a with
  | true => simp [h a hp]
  | false => simp

theorem filter_modifyFirst_of_imp (h : ∀ a, p a = true → q a = true ∧ q (f a) = true)
    (l : List α) : (modifyFirst p f l).filter q = modifyFirst p f (l.filter q) := by
  induction l with
  | nil => rfl
  | cons a l ih =>
    rw [modifyFirst]
    split
    next hp =>
      rw [List.filter_cons_of_pos (h a hp).2, List.filter_cons_of_pos (h a hp).1, modifyFirst,
        if_pos hp]
    next hp =>
      rw [List.filter_cons, List.filter_cons]
      split
      · rw [ih, modifyFirst, if_neg hp]
      · exact ih

theorem filter_upsert_of_imp (h : ∀ a, p a = true → q a = true ∧ q (f a) = true)
    (hnew : q new = true) (l : List α) :
    (upsert p f new l).filter q = upsert p f new (l.filter q) := by
  have hfilter := find?_filter_of_imp (fun a ha => (h a ha).1) l
  rcases hfind : l.find? p with - | a
  · rw [upsert_of_none hfind, upsert_of_none (hfilter.trans hfind), List.filter_append,
      List.filter_singleton, hnew]
    rfl
  · rw [upsert_of_some hfind, upsert_of_some (hfilter.trans hfind), filter_modifyFirst_of_imp h]

theorem filter_upsert_of_disjoint (h : ∀ a, p a = true → q a = false ∧ q (f a) = false)
    (hnew : q new = false) (l : List α) : (upsert p f new l).filter q = l.filter q := by
  rcases hfind : l.find? p with - | a
  · rw [upsert_of_none hfind, List.filter_append, List.filter_singleton, hnew]
    exact List.append_nil _
  · rw [upsert_of_some hfind, filter_modifyFirst_of_disjoint h]

theorem modifyFirst_congr (h : ∀ a ∈ l, p a = q a) : modifyFirst p f l = modifyFirst q f l := by
  induction l with
  | nil => rfl
  | cons a l ih =>
    rw [modifyFirst, modifyFirst, h a List.mem_cons_self,
      ih fun b hb => h b (List.mem_cons_of_mem a hb)]

theorem upsert_congr (h : ∀ a ∈ l, p a = q a) : upsert p f new l = upsert q f new l := by
  rw [upsert, upsert, List.find?_congr h, modifyFirst_congr h]

end Upsert

end UbsEngine
