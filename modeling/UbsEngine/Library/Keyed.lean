import Mathlib.Algebra.BigOperators.Group.List.Basic
import Mathlib.Data.List.Nodup

/-!
# Lists whose entries have different keys

A register in which an entry is found by its key, and read in an order: entries are added at the
end, and removed by their keys. What a part of the entries adds up to changes by the entry that is
removed (`UbsEngine.Keyed.sum_remove`), and by no other.
-/

namespace UbsEngine

/-- A list in which no two entries have the same key. -/
structure Keyed {α κ : Type*} (key : α → κ) where
  entries : List α
  nodup : (entries.map key).Nodup

namespace Keyed

variable {α κ M : Type*} {key : α → κ}

instance instMembershipKeyed : Membership α (Keyed key) := ⟨fun L a => a ∈ L.entries⟩

theorem mem_def {L : Keyed key} {a : α} : a ∈ L ↔ a ∈ L.entries := Iff.rfl

/-- An entry is found by its key. -/
theorem eq_of_key_eq {L : Keyed key} {a b : α} (ha : a ∈ L) (hb : b ∈ L) (h : key a = key b) :
    a = b :=
  List.inj_on_of_nodup_map L.nodup ha hb h

variable [DecidableEq κ]

/-- An entry is added if none has its key. -/
def add (L : Keyed key) (a : α) : Keyed key :=
  if h : key a ∈ L.entries.map key then L
  else
    { entries := L.entries ++ [a]
      nodup := by
        rw [List.map_append, List.map_singleton]
        exact L.nodup.append (List.nodup_singleton _) (List.disjoint_singleton.2 h) }

def addAll (L : Keyed key) (l : List α) : Keyed key := l.foldl add L

def remove (L : Keyed key) (k : κ) : Keyed key where
  entries := L.entries.filter fun a => key a ≠ k
  nodup := L.nodup.sublist (List.filter_sublist.map _)

/-- What the entries with `p` add up to. -/
def sum [AddMonoid M] (L : Keyed key) (p : α → Bool) (f : α → M) : M :=
  ((L.entries.filter p).map f).sum

variable {L : Keyed key} {a b : α} {k : κ} {l : List α} {p q : α → Bool} {f : α → M}

@[simp] theorem mem_remove : a ∈ L.remove k ↔ a ∈ L ∧ key a ≠ k := by
  simp [mem_def, remove]

theorem mem_add_of_mem (h : a ∈ L) : a ∈ L.add b := by
  unfold add
  split
  next => exact h
  next => exact List.mem_append_left _ h

theorem mem_of_mem_add (h : a ∈ L.add b) : a ∈ L ∨ a = b := by
  unfold add at h
  split at h
  next => exact .inl h
  next => exact (List.mem_append.1 h).imp_right List.mem_singleton.1

theorem mem_addAll_of_mem (h : a ∈ L) : a ∈ L.addAll l := by
  induction l generalizing L with
  | nil => exact h
  | cons b l ih => exact ih (mem_add_of_mem h)

theorem mem_of_mem_addAll (h : a ∈ L.addAll l) : a ∈ L ∨ a ∈ l := by
  induction l generalizing L with
  | nil => exact .inl h
  | cons b l ih =>
    rcases ih h with h | h
    · rcases mem_of_mem_add h with h | rfl
      · exact .inl h
      · exact .inr List.mem_cons_self
    · exact .inr (List.mem_cons_of_mem _ h)

section Sums

variable [AddCommMonoid M]

omit [DecidableEq κ] in
theorem sum_congr (h : ∀ a ∈ L, p a = q a) : L.sum p f = L.sum q f := by
  rw [sum, List.filter_congr h, sum]

theorem sum_add_of_not (h : p a = false) : (L.add a).sum p f = L.sum p f := by
  unfold add
  split
  next => rfl
  next => simp [sum, List.filter_append, h]

/-- Entries without `p` do not count. -/
theorem sum_addAll_of_not (h : ∀ a ∈ l, p a = false) : (L.addAll l).sum p f = L.sum p f := by
  induction l generalizing L with
  | nil => rfl
  | cons a l ih =>
    calc ((L.add a).addAll l).sum p f = (L.add a).sum p f :=
          ih fun b hb => h b (List.mem_cons_of_mem _ hb)
      _ = L.sum p f := sum_add_of_not (h a List.mem_cons_self)

theorem sum_remove_of_not (h : ∀ a ∈ L, key a = k → p a = false) :
    (L.remove k).sum p f = L.sum p f := by
  have hfilter : (L.remove k).entries.filter p = L.entries.filter p := by
    rw [remove, List.filter_filter]
    refine List.filter_congr fun a ha => ?_
    rcases eq_or_ne (key a) k with hk | hk
    · simp [h a ha hk]
    · simp [hk]
  rw [sum, hfilter, sum]

/-- **What is left is the sum less the entry that is removed.** -/
theorem sum_remove (ha : a ∈ L) (hp : p a = true) :
    f a + (L.remove (key a)).sum p f = L.sum p f := by
  obtain ⟨entries, nodup⟩ := L
  obtain ⟨l₁, l₂, rfl⟩ := List.append_of_mem (mem_def.1 ha)
  rw [List.map_append, List.map_cons, List.nodup_middle, List.nodup_cons, List.mem_append,
    List.mem_map, List.mem_map, not_or] at nodup
  -- No entry before or after it has its key.
  have h₁ : l₁.filter (fun b => key b ≠ key a) = l₁ :=
    List.filter_eq_self.2 fun b hb => decide_eq_true fun h => nodup.1.1 ⟨b, hb, h⟩
  have h₂ : l₂.filter (fun b => key b ≠ key a) = l₂ :=
    List.filter_eq_self.2 fun b hb => decide_eq_true fun h => nodup.1.2 ⟨b, hb, h⟩
  have hmid : ([a].filter fun b => key b ≠ key a) = [] := by simp
  have hpart : [a].filter p = [a] := List.filter_eq_self.2 (by simpa using hp)
  simp only [sum, remove]
  rw [List.append_cons, List.filter_append, List.filter_append l₁, hmid, h₁, h₂,
    List.append_nil, List.filter_append, List.filter_append, List.filter_append, hpart]
  simp only [List.map_append, List.sum_append, List.map_singleton, List.sum_singleton]
  exact (add_assoc ..).symm.trans (congrArg (· + _) (add_comm ..))

end Sums

end Keyed

end UbsEngine
