import Mathlib.Data.List.Nodup
import Mathlib.Data.List.Infix
import Mathlib.Logic.Relation

/-!
# Orders in which nothing comes too early

In a list that is ordered by a relation of dependency, everything that an element depends on stands
before it (`UbsEngine.TopoOrder.Ordered`). Such lists can be cut off, put together and mapped; read
backwards they give dependents before what they depend on. An element of one does not depend on
itself, not even through others (`UbsEngine.TopoOrder.Ordered.acyclic`).
-/

namespace UbsEngine

namespace TopoOrder

variable {α β : Type*} {dep : α → α → Prop} {l m : List α} {a b : α}

/-- What an element depends on stands before it. -/
def Ordered (dep : α → α → Prop) (l : List α) : Prop :=
  ∀ l₁ a l₂, l = l₁ ++ a :: l₂ → ∀ b, dep a b → b ∈ l₁

theorem ordered_nil (dep : α → α → Prop) : Ordered dep [] := by
  rintro l₁ a l₂ h
  exact absurd h.symm (by simp)

theorem Ordered.mono {dep' : α → α → Prop} (h : Ordered dep l) (hdep : ∀ a b, dep' a b → dep a b) :
    Ordered dep' l := fun l₁ a l₂ hl b hb => h l₁ a l₂ hl b (hdep a b hb)

/-- The list may end earlier. -/
theorem Ordered.of_initial (h : Ordered dep l) (hinit : m <+: l) : Ordered dep m := by
  obtain ⟨rest, rfl⟩ := hinit
  rintro l₁ a l₂ rfl b hb
  exact h l₁ a (l₂ ++ rest) (by simp) b hb

/-- The second list need not care for what the first one has. -/
theorem ordered_append :
    Ordered dep (l ++ m) ↔ Ordered dep l ∧ Ordered (fun a b => dep a b ∧ b ∉ l) m := by
  constructor
  · refine fun h => ⟨h.of_initial (List.prefix_append l m), ?_⟩
    rintro l₁ a l₂ rfl b ⟨hb, hnot⟩
    have hmem := h (l ++ l₁) a l₂ (by simp) b hb
    exact (List.mem_append.1 hmem).resolve_left hnot
  · rintro ⟨hl, hm⟩ l₁ a l₂ heq b hb
    rcases List.append_eq_append_iff.1 heq with ⟨c, rfl, hc⟩ | ⟨c, rfl, hc⟩
    · -- The element is in the second list.
      by_cases hmem : b ∈ l
      · exact List.mem_append_left _ hmem
      · exact List.mem_append_right _ (hm c a l₂ hc b ⟨hb, hmem⟩)
    · cases c with
      | nil =>
        rw [List.nil_append] at hc
        rw [List.append_nil] at hm
        by_cases hmem : b ∈ l₁
        · exact hmem
        · exact absurd (hm [] a l₂ hc.symm b ⟨hb, hmem⟩) List.not_mem_nil
      | cons c cs =>
        rw [List.cons_append, List.cons.injEq] at hc
        obtain ⟨rfl, rfl⟩ := hc
        exact hl l₁ a cs rfl b hb

theorem ordered_concat : Ordered dep (l ++ [a]) ↔ Ordered dep l ∧ ∀ b, dep a b → b ∈ l := by
  rw [ordered_append]
  refine and_congr_right fun _ => ⟨fun h b hb => ?_, fun h => ?_⟩
  · by_contra hnot
    exact absurd (h [] a [] rfl b ⟨hb, hnot⟩) List.not_mem_nil
  · rintro l₁ c l₂ heq b ⟨hb, hnot⟩
    have hc : c ∈ [a] := by
      rw [heq]
      exact List.mem_append_right _ List.mem_cons_self
    rw [List.mem_singleton.1 hc] at hb
    exact absurd (h b hb) hnot

/-- What an element of the list depends on is in the list. -/
theorem Ordered.mem (h : Ordered dep l) (ha : a ∈ l) (hb : dep a b) : b ∈ l := by
  obtain ⟨l₁, l₂, rfl⟩ := List.append_of_mem ha
  exact List.mem_append_left _ (h l₁ a l₂ rfl b hb)

theorem Ordered.map {dep' : β → β → Prop} {f : α → β} (h : Ordered dep l)
    (hdep : ∀ a ∈ l, ∀ c, dep' (f a) c → ∃ b, dep a b ∧ f b = c) : Ordered dep' (l.map f) := by
  rintro m₁ c m₂ heq d hd
  obtain ⟨l₁, rest, rfl, rfl, hrest⟩ := List.map_eq_append_iff.1 heq
  obtain ⟨a, l₂, rfl, rfl, rfl⟩ := List.map_eq_cons_iff.1 hrest
  obtain ⟨b, hb, rfl⟩ := hdep a (by simp) d hd
  exact List.mem_map_of_mem (h l₁ a l₂ rfl b hb)

/-- **Read backwards**, the dependents come first. -/
theorem Ordered.reverse (h : Ordered dep l) (hnodup : l.Nodup) :
    Ordered (fun a b => b ∈ l ∧ dep b a) l.reverse := by
  rintro l₁ a l₂ heq b ⟨hmem, hb⟩
  have hl : l = l₂.reverse ++ a :: l₁.reverse := by
    rw [← List.reverse_reverse l, heq]
    simp
  subst hl
  have hsplit := List.nodup_append.1 hnodup
  rcases List.mem_append.1 hmem with hbefore | hafter
  · -- Then the element itself would stand before one that depends on it.
    obtain ⟨m₁, m₂, hm⟩ := List.append_of_mem hbefore
    have ha : a ∈ m₁ := h m₁ b (m₂ ++ a :: l₁.reverse) (by rw [hm]; simp) a hb
    have ha' : a ∈ l₂.reverse := by
      rw [hm]
      exact List.mem_append_left _ ha
    exact absurd rfl (hsplit.2.2 a ha' a List.mem_cons_self)
  · rcases List.mem_cons.1 hafter with rfl | hafter
    · have hself := h l₂.reverse b l₁.reverse rfl b hb
      exact absurd rfl (hsplit.2.2 b hself b List.mem_cons_self)
    · exact List.mem_reverse.1 hafter

/-- **No cycle goes through a list** that is ordered. -/
theorem Ordered.acyclic (h : Ordered dep l) (hnodup : l.Nodup) (ha : a ∈ l) :
    ¬ Relation.TransGen dep a a := by
  classical
  have hone : ∀ a ∈ l, ∀ b, dep a b → l.idxOf b < l.idxOf a := by
    intro a ha b hb
    obtain ⟨l₁, l₂, rfl⟩ := List.append_of_mem ha
    have hmem := h l₁ a l₂ rfl b hb
    have hnot : a ∉ l₁ := fun hin =>
      absurd rfl ((List.nodup_append.1 hnodup).2.2 a hin a List.mem_cons_self)
    rw [List.idxOf_append_of_mem hmem, List.idxOf_append_of_notMem hnot, List.idxOf_cons_self]
    exact Nat.lt_of_lt_of_le (List.idxOf_lt_length_of_mem hmem) (Nat.le_add_right _ _)
  have hall : ∀ b, Relation.TransGen dep a b → b ∈ l ∧ l.idxOf b < l.idxOf a := by
    intro b hb
    induction hb with
    | single hb => exact ⟨h.mem ha hb, hone a ha _ hb⟩
    | tail _ hc ih => exact ⟨h.mem ih.1 hc, (hone _ ih.1 _ hc).trans ih.2⟩
  exact fun hcycle => Nat.lt_irrefl _ (hall a hcycle).2

end TopoOrder

end UbsEngine
