import Mathlib.Data.List.Induction

/-!
# Runs of a labelled transition system

The components of this development are all read the same way: a type of states, a type
of events, and a relation saying which state an event may lead to. This file gives that
reading once. A run records every transition it makes, because several of the properties
proved later speak about what happened *on the way* (which packet was accepted earlier,
which removal was performed) and not only about the last state.

Two rules carry everything that follows.

* `UbsEngine.System.Run.invariant`: a predicate that every step allowed by a guard
  preserves holds at every state of every run whose steps all meet the guard.
* `UbsEngine.System.Run.exact`: when, from a state where the predicate holds, a step keeps
  it *if and only if* it meets the guard, the runs that keep the predicate throughout are
  exactly the runs whose steps all meet the guard. This is what turns the analysis of one
  faulty step into an exact condition on whole runs.
-/

namespace UbsEngine

/-- One recorded move of a run: the state before, the event, the state after. -/
structure Transition (σ ε : Type*) where
  /-- The state the move starts from. -/
  pre : σ
  /-- The event that is processed. -/
  event : ε
  /-- The state the move leads to. -/
  post : σ

/-- A **labelled transition system**: where it may start, and what an event may do. -/
structure System (σ ε : Type*) where
  /-- The states a run may start from. -/
  init : σ → Prop
  /-- `step s e t`: processing the event `e` in the state `s` may lead to `t`. -/
  step : σ → ε → σ → Prop

namespace System

variable {σ ε : Type*}

/-- The system of a total transition function, started from one state. -/
def ofFun (s₀ : σ) (f : σ → ε → σ) : System σ ε where
  init s := s = s₀
  step s e t := f s e = t

@[simp] theorem ofFun_init (s₀ : σ) (f : σ → ε → σ) (s : σ) :
    (ofFun s₀ f).init s ↔ s = s₀ := Iff.rfl

@[simp] theorem ofFun_step (s₀ : σ) (f : σ → ε → σ) (s : σ) (e : ε) (t : σ) :
    (ofFun s₀ f).step s e t ↔ f s e = t := Iff.rfl

/-- The moves of a transition function along a list of events, oldest first. -/
def trace (f : σ → ε → σ) : σ → List ε → List (Transition σ ε)
  | _, [] => []
  | s, e :: es => ⟨s, e, f s e⟩ :: trace f (f s e) es

@[simp] theorem trace_nil (f : σ → ε → σ) (s : σ) : trace f s [] = [] := rfl

@[simp] theorem trace_cons (f : σ → ε → σ) (s : σ) (e : ε) (es : List ε) :
    trace f s (e :: es) = ⟨s, e, f s e⟩ :: trace f (f s e) es := rfl

theorem trace_snoc (f : σ → ε → σ) (s : σ) (es : List ε) (e : ε) :
    trace f s (es ++ [e]) =
      trace f s es ++ [⟨es.foldl f s, e, f (es.foldl f s) e⟩] := by
  induction es generalizing s with
  | nil => rfl
  | cons a es ih => simp [ih]

variable {S : System σ ε}

/-- `S.Run s tr t`: the moves `tr`, oldest first, lead from `s` to `t`. -/
inductive Run (S : System σ ε) : σ → List (Transition σ ε) → σ → Prop
  /-- No move at all. -/
  | nil (s : σ) : Run S s [] s
  /-- One more move at the end. -/
  | snoc {s t u : σ} {tr : List (Transition σ ε)} {e : ε} :
      Run S s tr t → S.step t e u → Run S s (tr ++ [⟨t, e, u⟩]) u

/-- A run is **guarded** by `G` when each of its moves meets `G` in the state it is made. -/
def Guarded (G : σ → ε → Prop) (tr : List (Transition σ ε)) : Prop :=
  ∀ x ∈ tr, G x.pre x.event

/-- A run **keeps** `P` when every state it leads to satisfies `P`. -/
def Keeps (P : σ → Prop) (tr : List (Transition σ ε)) : Prop :=
  ∀ x ∈ tr, P x.post

@[simp] theorem guarded_nil (G : σ → ε → Prop) : Guarded G ([] : List (Transition σ ε)) := by
  simp [Guarded]

@[simp] theorem guarded_snoc (G : σ → ε → Prop) (tr : List (Transition σ ε))
    (x : Transition σ ε) : Guarded G (tr ++ [x]) ↔ Guarded G tr ∧ G x.pre x.event := by
  simp [Guarded, or_imp, forall_and]

@[simp] theorem keeps_nil (P : σ → Prop) : Keeps P ([] : List (Transition σ ε)) := by
  simp [Keeps]

@[simp] theorem keeps_snoc (P : σ → Prop) (tr : List (Transition σ ε))
    (x : Transition σ ε) : Keeps P (tr ++ [x]) ↔ Keeps P tr ∧ P x.post := by
  simp [Keeps, or_imp, forall_and]

theorem keeps_and {P Q : σ → Prop} {tr : List (Transition σ ε)} :
    Keeps (fun s => P s ∧ Q s) tr ↔ Keeps P tr ∧ Keeps Q tr := by
  simp [Keeps, forall_and]

namespace Run

/-- What every step leads to holds at every state on the way. -/
theorem keeps_of_step {P : σ → Prop} (hstep : ∀ s e t, S.step s e t → P t)
    {s t : σ} {tr : List (Transition σ ε)} (hrun : S.Run s tr t) : Keeps P tr := by
  induction hrun with
  | nil => simp
  | snoc _ hlast ih => exact (keeps_snoc _ _ _).2 ⟨ih, hstep _ _ _ hlast⟩

/-- **The invariant rule**: what every guarded step preserves holds at the end of every
guarded run. -/
theorem invariant {G : σ → ε → Prop} {I : σ → Prop}
    (hstep : ∀ s e t, I s → G s e → S.step s e t → I t)
    {s t : σ} {tr : List (Transition σ ε)} (hrun : S.Run s tr t) (hs : I s)
    (hG : Guarded G tr) : I t := by
  induction hrun with
  | nil => exact hs
  | snoc _ hlast ih =>
    obtain ⟨hG, hlastG⟩ := (guarded_snoc _ _ _).1 hG
    exact hstep _ _ _ (ih hG) hlastG hlast

/-- The invariant rule, at every state on the way. -/
theorem keeps_of_guarded {G : σ → ε → Prop} {I : σ → Prop}
    (hstep : ∀ s e t, I s → G s e → S.step s e t → I t)
    {s t : σ} {tr : List (Transition σ ε)} (hrun : S.Run s tr t) (hs : I s)
    (hG : Guarded G tr) : Keeps I tr := by
  induction hrun with
  | nil => simp
  | snoc hrun hlast ih =>
    obtain ⟨hG, hlastG⟩ := (guarded_snoc _ _ _).1 hG
    exact (keeps_snoc _ _ _).2
      ⟨ih hG, hstep _ _ _ (hrun.invariant hstep hs hG) hlastG hlast⟩

/-- What the guard gives in every state that guarded steps lead to, it gives at every step of a
guarded run. -/
theorem guarded_of_step {G Q : σ → ε → Prop} {I : σ → Prop}
    (hstep : ∀ s e t, I s → G s e → S.step s e t → I t) (hQ : ∀ s e, I s → G s e → Q s e)
    {s t : σ} {tr : List (Transition σ ε)} (hrun : S.Run s tr t) (hs : I s)
    (hG : Guarded G tr) : Guarded Q tr := by
  induction hrun with
  | nil => simp
  | snoc hrun _ ih =>
    obtain ⟨hG, hlastG⟩ := (guarded_snoc _ _ _).1 hG
    exact (guarded_snoc _ _ _).2 ⟨ih hG, hQ _ _ (hrun.invariant hstep hs hG) hlastG⟩

/-- What a run keeps holds at its end. -/
theorem keeps_end {P : σ → Prop} {s t : σ} {tr : List (Transition σ ε)} (hrun : S.Run s tr t)
    (hne : tr ≠ []) (h : Keeps P tr) : P t := by
  cases hrun with
  | nil => exact absurd rfl hne
  | snoc _ _ => exact ((keeps_snoc _ _ _).1 h).2

/-- **The exactness rule**: if from a good state the good steps are exactly the guarded
ones, the runs that stay good are exactly the guarded runs. -/
theorem exact {G : σ → ε → Prop} {I : σ → Prop}
    (hstep : ∀ s e t, I s → S.step s e t → (I t ↔ G s e))
    {s t : σ} {tr : List (Transition σ ε)} (hrun : S.Run s tr t) (hs : I s) :
    Keeps I tr ↔ Guarded G tr := by
  refine ⟨fun hK => ?_, fun hG => hrun.keeps_of_guarded
    (fun s e t hI hGe hst => (hstep s e t hI hst).2 hGe) hs hG⟩
  -- A run that stayed good so far ends in a good state, so its next step is guarded.
  suffices h : I t ∧ Guarded G tr from h.2
  induction hrun with
  | nil => exact ⟨hs, by simp⟩
  | snoc _ hlast ih =>
    obtain ⟨hK, hpost⟩ := (keeps_snoc _ _ _).1 hK
    obtain ⟨hI, hG⟩ := ih hK
    exact ⟨hpost, (guarded_snoc _ _ _).2 ⟨hG, (hstep _ _ _ hI hlast).1 hpost⟩⟩

end Run

/-- Processing a list of events by a transition function is a run. -/
theorem run_trace (s₀ : σ) (f : σ → ε → σ) (s : σ) (es : List ε) :
    (ofFun s₀ f).Run s (trace f s es) (es.foldl f s) := by
  induction es using List.reverseRecOn with
  | nil => exact .nil s
  | append_singleton es e ih =>
    rw [trace_snoc, List.foldl_append]
    exact ih.snoc rfl

/-- Processing a list of events by a transition function is a run of any system that allows
each of the moves. -/
theorem run_trace_of_step (f : σ → ε → σ) {s : σ} {es : List ε}
    (h : ∀ x ∈ trace f s es, S.step x.pre x.event x.post) :
    S.Run s (trace f s es) (es.foldl f s) := by
  induction es using List.reverseRecOn with
  | nil => exact .nil s
  | append_singleton es e ih =>
    rw [trace_snoc] at h ⊢
    rw [List.foldl_append]
    exact (ih fun x hx => h x (List.mem_append_left _ hx)).snoc
      (h _ (List.mem_append_right _ (List.mem_singleton.2 rfl)))

/-- The moves of a transition function are moves of it. -/
theorem post_of_mem_trace {f : σ → ε → σ} {s : σ} {es : List ε} {x : Transition σ ε}
    (h : x ∈ trace f s es) : f x.pre x.event = x.post := by
  induction es generalizing s with
  | nil => cases h
  | cons e es ih =>
    rcases List.mem_cons.1 h with rfl | h
    · rfl
    · exact ih h

/-- What no move undoes stays. -/
theorem foldl_of_stable {f : σ → ε → σ} {p : σ → Bool}
    (hstable : ∀ s e, p s = true → p (f s e) = true) {s : σ} (hs : p s = true) (es : List ε) :
    p (es.foldl f s) = true := by
  induction es generalizing s with
  | nil => exact hs
  | cons e es ih => exact ih (hstable s e hs)

/-- What no move undoes comes about once, if it comes about at all. -/
theorem countP_trace_of_stable {f : σ → ε → σ} {p : σ → Bool}
    (hstable : ∀ s e, p s = true → p (f s e) = true) (s : σ) (es : List ε) :
    (trace f s es).countP (fun x => !p x.pre && p x.post) =
      if !p s && p (es.foldl f s) then 1 else 0 := by
  induction es generalizing s with
  | nil => cases hp : p s <;> simp [hp]
  | cons e es ih =>
    rw [trace_cons, List.countP_cons, ih, List.foldl_cons]
    cases hs : p s with
    | true => simp [hstable s e hs]
    | false =>
      cases hnext : p (f s e) with
      | true => simp [foldl_of_stable hstable hnext es]
      | false => simp

/-- The states that the system reaches from a start state. -/
def Reachable (S : System σ ε) (t : σ) : Prop :=
  ∃ s tr, S.init s ∧ S.Run s tr t

/-- The states reached from a start state by moves that all meet `G`. -/
def ReachableUnder (S : System σ ε) (G : σ → ε → Prop) (t : σ) : Prop :=
  ∃ s tr, S.init s ∧ S.Run s tr t ∧ Guarded G tr

theorem ReachableUnder.invariant {G : σ → ε → Prop} {I : σ → Prop}
    (hinit : ∀ s, S.init s → I s) (hstep : ∀ s e t, I s → G s e → S.step s e t → I t)
    {t : σ} (h : S.ReachableUnder G t) : I t := by
  obtain ⟨s, tr, hs, hrun, hG⟩ := h
  exact hrun.invariant hstep (hinit s hs) hG

theorem ReachableUnder.start {G : σ → ε → Prop} {s : σ} (hs : S.init s) :
    S.ReachableUnder G s :=
  ⟨s, [], hs, .nil s, by simp⟩

theorem ReachableUnder.tail {G : σ → ε → Prop} {s t : σ} {e : ε}
    (h : S.ReachableUnder G s) (hG : G s e) (hst : S.step s e t) : S.ReachableUnder G t := by
  obtain ⟨r, tr, hr, hrun, hguard⟩ := h
  exact ⟨r, tr ++ [⟨s, e, t⟩], hr, hrun.snoc hst, (guarded_snoc _ _ _).2 ⟨hguard, hG⟩⟩

theorem ReachableUnder.reachable {G : σ → ε → Prop} {t : σ}
    (h : S.ReachableUnder G t) : S.Reachable t := by
  obtain ⟨s, tr, hs, hrun, -⟩ := h
  exact ⟨s, tr, hs, hrun⟩

end System

end UbsEngine
