import Mathlib.Data.List.Basic

/-!
# Signals that alternate

Something that is turned on and off is recorded as a list of Booleans, oldest first. The record
alternates when it begins with `true` and never says the same twice. What one more entry does to
this is a matter of the last entry alone (`UbsEngine.alternates_snoc`).
-/

namespace UbsEngine

/-- The record says `b` first, then `!b`, and so on. -/
def AlternatesFrom : Bool → List Bool → Prop
  | _, [] => True
  | b, c :: cs => c = b ∧ AlternatesFrom (!b) cs

/-- **The record alternates, and begins with `true`.** -/
def Alternates (l : List Bool) : Prop := AlternatesFrom true l

/-- What was said last; in the beginning the signal is off. -/
def isOn (l : List Bool) : Bool := l.getLast?.getD false

instance : (b : Bool) → (l : List Bool) → Decidable (AlternatesFrom b l)
  | _, [] => isTrue trivial
  | b, c :: cs =>
    have := instDecidableAlternatesFrom (!b) cs
    inferInstanceAs (Decidable (c = b ∧ AlternatesFrom (!b) cs))

instance (l : List Bool) : Decidable (Alternates l) :=
  inferInstanceAs (Decidable (AlternatesFrom true l))

@[simp] theorem alternates_nil : Alternates [] := trivial

@[simp] theorem isOn_nil : isOn [] = false := rfl

@[simp] theorem isOn_snoc (l : List Bool) (b : Bool) : isOn (l ++ [b]) = b := by
  rw [isOn, List.getLast?_append]
  rfl

theorem alternatesFrom_snoc (b c : Bool) (l : List Bool) :
    AlternatesFrom b (l ++ [c]) ↔
      AlternatesFrom b l ∧ c = (l.getLast?.map (!·)).getD b := by
  induction l generalizing b with
  | nil => exact ⟨fun h => ⟨trivial, h.1⟩, fun h => ⟨h.2, trivial⟩⟩
  | cons d l ih =>
    rw [List.cons_append, AlternatesFrom, AlternatesFrom, ih, and_assoc]
    refine and_congr_right fun hd => and_congr_right fun _ => ?_
    subst hd
    cases h : l.getLast? with
    | none => rw [List.getLast?_eq_none_iff.mp h]; rfl
    | some e => rw [List.getLast?_cons, h]; rfl

/-- **One more entry**: it has to say what was not said last. -/
theorem alternates_snoc (l : List Bool) (b : Bool) :
    Alternates (l ++ [b]) ↔ Alternates l ∧ isOn l = !b := by
  rw [Alternates, alternatesFrom_snoc, isOn]
  refine and_congr_right fun _ => ?_
  cases l.getLast? with
  | none => cases b <;> decide
  | some c => cases b <;> cases c <;> decide

end UbsEngine
