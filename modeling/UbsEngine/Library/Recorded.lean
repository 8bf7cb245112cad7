import Mathlib.Control.Basic

/-!
# Programs that keep a record

A program reads and changes a state and hands out a value. Some of its properties are not about
these but about what happened on the way: which addresses were touched, what was computed. A
**recorded program** (`UbsEngine.Recorded`) therefore also adds entries to a record, and never
sees what is in it.

Two kinds of statement are made of such programs, and each has its rules for doing one thing
after the other.

* `UbsEngine.Recorded.Goes`: from this state, the program hands out this value and leads to that
  state.
* `UbsEngine.Recorded.Exact`: the entries satisfy two predicates, and the program establishes
  something; or one of its entries violates the first predicate and one violates the second.
  Whoever shows this has shown that the two predicates hold of the record together or not at
  all (`UbsEngine.Recorded.Exact.iff`): the second is the exact condition for the first.
-/

namespace UbsEngine

/-- A **recorded program**: from a state it hands out a value, a new state, and the entries it
adds to the record, oldest first. -/
def Recorded (σ ω α : Type) : Type := σ → (α × σ) × List ω

namespace Recorded

variable {σ ω α β : Type}

instance : Monad (Recorded σ ω) where
  pure x := fun s => ((x, s), [])
  bind f g := fun s =>
    ((g (f s).1.1 (f s).1.2).1, (f s).2 ++ (g (f s).1.1 (f s).1.2).2)

@[simp] theorem run_pure (x : α) (s : σ) : (pure x : Recorded σ ω α) s = ((x, s), []) := rfl

@[simp] theorem run_bind (f : Recorded σ ω α) (g : α → Recorded σ ω β) (s : σ) :
    (f >>= g) s = ((g (f s).1.1 (f s).1.2).1, (f s).2 ++ (g (f s).1.1 (f s).1.2).2) := rfl

instance : LawfulMonad (Recorded σ ω) := LawfulMonad.mk' _
  (fun f => funext fun s => by
    change ((f s).1, (f s).2 ++ []) = f s
    rw [List.append_nil])
  (fun x g => funext fun s => rfl)
  (fun f g h => funext fun s => by
    rw [run_bind, run_bind, run_bind, run_bind, List.append_assoc])

@[simp] theorem run_map (g : α → β) (f : Recorded σ ω α) (s : σ) :
    (g <$> f) s = ((g (f s).1.1, (f s).1.2), (f s).2) := by
  rw [← bind_pure_comp, run_bind, run_pure, List.append_nil]

/-- The state. -/
def state : Recorded σ ω σ := fun s => ((s, s), [])

/-- Changing the state. -/
def change (k : σ → σ) : Recorded σ ω Unit := fun s => (((), k s), [])

/-- Adding entries to the record. -/
def note (es : List ω) : Recorded σ ω Unit := fun s => (((), s), es)

@[simp] theorem run_state (s : σ) : (state : Recorded σ ω σ) s = ((s, s), []) := rfl

@[simp] theorem run_change (k : σ → σ) (s : σ) :
    (change k : Recorded σ ω Unit) s = (((), k s), []) := rfl

@[simp] theorem run_note (es : List ω) (s : σ) : note es s = (((), s), es) := rfl

/-! ### What a program comes to -/

/-- From the state `s` the program hands out `x` and leads to the state `s'`. -/
def Goes (f : Recorded σ ω α) (s : σ) (x : α) (s' : σ) : Prop := (f s).1 = (x, s')

namespace Goes

variable {f : Recorded σ ω α} {g : α → Recorded σ ω β} {s s' s'' : σ} {x : α} {y : β}

theorem pure (x : α) (s : σ) : Goes (Pure.pure x : Recorded σ ω α) s x s := rfl

theorem bind (hf : Goes f s x s') (hg : Goes (g x) s' y s'') : Goes (f >>= g) s y s'' := by
  have hf' : (f s).1 = (x, s') := hf
  have hg' : (g x s').1 = (y, s'') := hg
  rw [Goes, run_bind, hf', hg']

theorem state {g : σ → Recorded σ ω β} (hg : Goes (g s) s y s') :
    Goes (Recorded.state >>= g) s y s' :=
  bind (x := s) rfl hg

theorem note (es : List ω) (s : σ) : Goes (Recorded.note es) s () s := rfl

theorem change (k : σ → σ) (s : σ) : Goes (Recorded.change k : Recorded σ ω Unit) s () (k s) := rfl

end Goes

/-! ### An exact condition for the record -/

section Exact

variable (A B : ω → Prop)

/-- All entries satisfy both predicates and `Q` holds of the value and the state; or each of the
predicates is violated by an entry. -/
def Exact (f : Recorded σ ω α) (s : σ) (Q : α → σ → Prop) : Prop :=
  (∀ e ∈ (f s).2, A e ∧ B e) ∧ Q (f s).1.1 (f s).1.2 ∨
    (∃ e ∈ (f s).2, ¬A e) ∧ ∃ e ∈ (f s).2, ¬B e

variable {A B} {f : Recorded σ ω α} {g : α → Recorded σ ω β} {s : σ}
  {Q Q' : α → σ → Prop} {R : β → σ → Prop}

namespace Exact

/-- The two predicates hold of the record together or not at all. -/
theorem iff (h : Exact A B f s Q) : (∀ e ∈ (f s).2, A e) ↔ ∀ e ∈ (f s).2, B e := by
  rcases h with ⟨hgood, -⟩ | ⟨⟨e, he, hA⟩, e', he', hB⟩
  · exact iff_of_true (fun e he => (hgood e he).1) fun e he => (hgood e he).2
  · exact iff_of_false (fun h => hA (h e he)) fun h => hB (h e' he')

theorem mono (h : Exact A B f s Q) (hQ : ∀ x s', Q x s' → Q' x s') : Exact A B f s Q' :=
  h.imp_left fun ⟨hgood, hq⟩ => ⟨hgood, hQ _ _ hq⟩

/-- It only matters what the program does in the state. -/
theorem congr {k : Recorded σ ω α} {t : σ} (h : f s = k t) (hk : Exact A B k t Q) :
    Exact A B f s Q := by
  rwa [Exact, h]

theorem pure {x : α} (h : Q x s) : Exact A B (Pure.pure x) s Q :=
  .inl ⟨fun _ he => absurd he List.not_mem_nil, h⟩

/-- One program after the other: the second starts from what the first has established. -/
theorem bind (hf : Exact A B f s Q) (hg : ∀ x s', Q x s' → Exact A B (g x) s' R) :
    Exact A B (f >>= g) s R := by
  rcases hf with ⟨hgood, hq⟩ | ⟨⟨e, he, hA⟩, e', he', hB⟩
  · rcases hg _ _ hq with ⟨hgood', hr⟩ | ⟨⟨e, he, hA⟩, e', he', hB⟩
    · refine .inl ⟨fun e he => ?_, hr⟩
      rcases List.mem_append.mp he with he | he
      · exact hgood e he
      · exact hgood' e he
    · exact .inr ⟨⟨e, List.mem_append_right _ he, hA⟩, e', List.mem_append_right _ he', hB⟩
  · exact .inr ⟨⟨e, List.mem_append_left _ he, hA⟩, e', List.mem_append_left _ he', hB⟩

theorem state {g : σ → Recorded σ ω β} (hg : Exact A B (g s) s R) :
    Exact A B (Recorded.state >>= g) s R := hg

theorem change {k : σ → σ} {g : Unit → Recorded σ ω β} (hg : Exact A B (g ()) (k s) R) :
    Exact A B (Recorded.change k >>= g) s R := hg

/-- Adding an entry that satisfies both predicates. -/
theorem note {e : ω} {g : Unit → Recorded σ ω β} (hA : A e) (hB : B e)
    (hg : Exact A B (g ()) s R) : Exact A B (Recorded.note [e] >>= g) s R := by
  refine bind (Q := fun _ s' => s' = s) (.inl ⟨fun e' he' => ?_, rfl⟩) fun _ s' hs' => hs' ▸ hg
  rw [List.mem_singleton.mp he']
  exact ⟨hA, hB⟩

theorem change_last {k : σ → σ} {Q : Unit → σ → Prop} (h : Q () (k s)) :
    Exact A B (Recorded.change k) s Q :=
  .inl ⟨fun _ he => absurd he List.not_mem_nil, h⟩

/-- A program that is run on another state, and whose entries are added to the record. -/
theorem embed {t : σ} {g : Unit → Recorded σ ω β} (hf : Exact A B f t Q)
    (hg : Q (f t).1.1 (f t).1.2 → Exact A B (g ()) s R) :
    Exact A B (Recorded.note (f t).2 >>= g) s R := by
  refine bind (Q := fun _ s' => Q (f t).1.1 (f t).1.2 ∧ s' = s) ?_ fun _ s' h => h.2 ▸ hg h.1
  rcases hf with ⟨hgood, hq⟩ | hbad
  · exact .inl ⟨hgood, hq, rfl⟩
  · exact .inr hbad

/-- A loop over a list keeps an invariant. -/
theorem mapM {f : α → Recorded σ ω β} {I : σ → Prop} {l : List α}
    (hf : ∀ x ∈ l, ∀ s, I s → Exact A B (f x) s fun _ s' => I s') {s : σ} (hs : I s) :
    Exact A B (l.mapM f) s fun _ s' => I s' := by
  induction l generalizing s with
  | nil => exact pure hs
  | cons x l ih =>
    rw [List.mapM_cons]
    refine (hf x List.mem_cons_self s hs).bind fun y s' hs' => ?_
    refine (ih (fun z hz => hf z (List.mem_cons_of_mem x hz)) hs').bind fun ys s'' hs'' => ?_
    exact pure hs''

end Exact

end Exact

end Recorded

end UbsEngine
