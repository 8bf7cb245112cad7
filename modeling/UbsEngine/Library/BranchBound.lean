import Mathlib.Data.List.Basic
import Mathlib.Order.Lattice

/-!
# Branch and bound

A search goes down a tree for a leaf of the least value. It keeps the best leaf so far and leaves
out what it can tell is not better. `UbsEngine.BranchBound.search_spec` says that this loses
nothing: if what is cut is never better than the best so far, the search ends with a best leaf, or
with what it began with if no leaf is better than that.

What is cut is usually decided by a bound that no step lowers and that is at most the value of each
leaf; then it is at most the value of every leaf below (`UbsEngine.BranchBound.bound_le_value`).
-/

namespace UbsEngine

/-- A tree with values at its leaves, and how the best leaf so far is kept. -/
structure BranchBound (α ω β : Type*) where
  /-- A leaf. -/
  done : α → Bool
  children : α → List α
  value : α → β
  /-- What is kept of a leaf. -/
  take : α → ω
  /-- The value of what is kept. -/
  key : ω → β
  /-- What is below is left out, given the best so far. -/
  cut : ω → α → Bool

namespace BranchBound

variable {α ω β : Type*} (T : BranchBound α ω β)

/-- `T.Leads a b`: the tree below `a` has the leaf `b`. -/
inductive Leads : α → α → Prop
  | leaf {a : α} : T.done a → Leads a a
  | down {a b c : α} : T.done a = false → b ∈ T.children a → Leads b c → Leads a c

variable [LinearOrder β]

/-- The search, with a limit on its depth. -/
def search : Nat → α → ω → ω
  | fuel, a, w =>
    if T.done a then if T.value a < T.key w then T.take a else w
    else if T.cut w a then w
    else
      match fuel with
      | 0 => w
      | fuel + 1 => (T.children a).foldl (fun w b => search fuel b w) w

/-- What a search makes of the best so far, when it has seen some leaves: nothing if none of them is
better, or the best of them. -/
def Improves (leaves : α → Prop) (w w' : ω) : Prop :=
  (w' = w ∧ ∀ b, leaves b → T.key w ≤ T.value b) ∨
    ∃ b, leaves b ∧ w' = T.take b ∧ T.value b < T.key w ∧ ∀ c, leaves c → T.value b ≤ T.value c

variable {T}

theorem Improves.congr {p q : α → Prop} (h : ∀ b, p b ↔ q b) {w w' : ω}
    (hw : T.Improves p w w') : T.Improves q w w' := by
  obtain rfl : p = q := funext fun b => propext (h b)
  exact hw

/-- The leaves that two searches have seen one after the other. -/
theorem Improves.trans (htake : ∀ a, T.key (T.take a) = T.value a) {p q : α → Prop} {u v w : ω}
    (hp : T.Improves p u v) (hq : T.Improves q v w) :
    T.Improves (fun b => p b ∨ q b) u w := by
  rcases hp with ⟨rfl, hp⟩ | ⟨b, hb, rfl, hlt, hmin⟩
  · rcases hq with ⟨rfl, hq⟩ | ⟨c, hc, rfl, hlt, hmin⟩
    · exact .inl ⟨rfl, fun d hd => hd.elim (hp d) (hq d)⟩
    · exact .inr ⟨c, .inr hc, rfl, hlt, fun d hd => hd.elim (fun h => (hlt.trans_le (hp d h)).le)
        (hmin d)⟩
  · rcases hq with ⟨rfl, hq⟩ | ⟨c, hc, rfl, hlt', hmin'⟩
    · rw [htake] at hq
      exact .inr ⟨b, .inl hb, rfl, hlt, fun d hd => hd.elim (hmin d) (hq d)⟩
    · rw [htake] at hlt'
      exact .inr ⟨c, .inr hc, rfl, hlt'.trans hlt, fun d hd =>
        hd.elim (fun h => (hlt'.trans_le (hmin d h)).le) (hmin' d)⟩

theorem improves_leaf {a : α} (hdone : T.done a) (w : ω) :
    T.Improves (T.Leads a) w (if T.value a < T.key w then T.take a else w) := by
  have honly : ∀ b, T.Leads a b → b = a := by
    intro b hb
    cases hb with
    | leaf _ => rfl
    | down h _ _ => exact absurd (h.symm.trans hdone) Bool.false_ne_true
  split
  next hlt => exact .inr ⟨a, .leaf hdone, rfl, hlt, fun c hc => (honly c hc) ▸ le_rfl⟩
  next hge => exact .inl ⟨rfl, fun c hc => (honly c hc) ▸ not_lt.1 hge⟩

section Search

variable {I : α → Prop} {height : α → Nat}

/-- **The search ends with a best leaf**, or with what it began with if no leaf is better: on nodes
that satisfy an invariant, if every child is lower and what is cut is not better than the best so
far. -/
theorem search_spec (htake : ∀ a, T.key (T.take a) = T.value a)
    (hI : ∀ a b, I a → T.done a = false → b ∈ T.children a → I b)
    (hheight : ∀ a b, I a → T.done a = false → b ∈ T.children a → height b < height a)
    (hcut : ∀ w a b, I a → T.cut w a → T.Leads a b → T.key w ≤ T.value b)
    (fuel : Nat) (a : α) (w : ω) (ha : I a) (hfuel : height a ≤ fuel) :
    T.Improves (T.Leads a) w (T.search fuel a w) := by
  induction fuel generalizing a w with
  | zero =>
    rw [search]
    split
    next hdone => exact improves_leaf hdone w
    next hdone =>
      rw [Bool.not_eq_true] at hdone
      -- there is no way down from here
      have hnone : ∀ b, T.Leads a b → False := by
        intro b hb
        cases hb with
        | leaf h => exact absurd (hdone.symm.trans h) Bool.false_ne_true
        | down _ hc _ => exact absurd (hheight _ _ ha hdone hc) (by omega)
      rw [ite_self]
      exact .inl ⟨rfl, fun b hb => (hnone b hb).elim⟩
  | succ fuel ih =>
    rw [search]
    split
    next hdone => exact improves_leaf hdone w
    next hdone =>
      rw [Bool.not_eq_true] at hdone
      split
      next hskip => exact .inl ⟨rfl, fun b hb => hcut w a b ha hskip hb⟩
      next =>
        have hchildren : ∀ (l : List α) (w : ω), (∀ b ∈ l, b ∈ T.children a) →
            T.Improves (fun c => ∃ b ∈ l, T.Leads b c) w
              (l.foldl (fun w b => T.search fuel b w) w) := by
          intro l
          induction l with
          | nil => exact fun w _ => .inl ⟨rfl, fun c hc => (nomatch hc)⟩
          | cons b l ihl =>
            intro w hl
            obtain ⟨hb, hl⟩ := List.forall_mem_cons.1 hl
            have hlow := hheight a b ha hdone hb
            have hfirst := ih b w (hI a b ha hdone hb) (by omega)
            exact (hfirst.trans htake (ihl _ hl)).congr fun c => by simp
        refine (hchildren _ w fun b hb => hb).congr fun c => ⟨?_, fun hc => ?_⟩
        · rintro ⟨b, hb, hc⟩
          exact .down hdone hb hc
        · cases hc with
          | leaf h => exact absurd (hdone.symm.trans h) Bool.false_ne_true
          | down _ hb hc => exact ⟨_, hb, hc⟩

/-- Whatever is cut, the search ends with what it began with or with a leaf. -/
theorem search_eq_or_leads (fuel : Nat) (a : α) (w : ω) :
    T.search fuel a w = w ∨ ∃ b, T.Leads a b ∧ T.search fuel a w = T.take b := by
  induction fuel generalizing a w with
  | zero =>
    rw [search]
    split_ifs with hdone hless
    · exact .inr ⟨a, .leaf hdone, rfl⟩
    · exact .inl rfl
    · exact .inl rfl
    · exact .inl rfl
  | succ fuel ih =>
    rw [search]
    split_ifs with hdone hless hcut
    · exact .inr ⟨a, .leaf hdone, rfl⟩
    · exact .inl rfl
    · exact .inl rfl
    · rw [Bool.not_eq_true] at hdone
      have hchildren : ∀ (l : List α) (w : ω), (∀ b ∈ l, b ∈ T.children a) →
          l.foldl (fun w b => T.search fuel b w) w = w ∨
            ∃ c, T.Leads a c ∧ l.foldl (fun w b => T.search fuel b w) w = T.take c := by
        intro l
        induction l with
        | nil => exact fun w _ => .inl rfl
        | cons b l ihl =>
          intro w hl
          obtain ⟨hb, hl⟩ := List.forall_mem_cons.1 hl
          rw [List.foldl_cons]
          rcases ihl (T.search fuel b w) hl with hkept | hfound
          · rw [hkept]
            exact (ih b w).imp_right fun ⟨c, hc, heq⟩ => ⟨c, .down hdone hb hc, heq⟩
          · exact .inr hfound
      exact hchildren _ w fun b hb => hb

omit [LinearOrder β] in
/-- What every step preserves holds of the leaves. -/
theorem Leads.invariant (hI : ∀ a b, I a → T.done a = false → b ∈ T.children a → I b) {a b : α}
    (h : T.Leads a b) (ha : I a) : I b := by
  induction h with
  | leaf _ => exact ha
  | down hdone hmem _ ih => exact ih (hI _ _ ha hdone hmem)

/-- **A bound that no step lowers is at most the value of every leaf below.** -/
theorem bound_le_value {bound : α → β}
    (hI : ∀ a b, I a → T.done a = false → b ∈ T.children a → I b)
    (hstep : ∀ a b, I a → T.done a = false → b ∈ T.children a → bound a ≤ bound b)
    (hleaf : ∀ a, I a → T.done a → bound a ≤ T.value a) {a b : α} (ha : I a)
    (h : T.Leads a b) : bound a ≤ T.value b := by
  induction h with
  | leaf hdone => exact hleaf _ ha hdone
  | down hdone hmem _ ih => exact (hstep _ _ ha hdone hmem).trans (ih (hI _ _ ha hdone hmem))

end Search

end BranchBound

end UbsEngine
