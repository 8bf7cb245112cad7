import UbsEngine.ProcessMem.Counter
import UbsEngine.ProcessMem.Declared
import Mathlib.Algebra.Order.BigOperators.Group.List
import Mathlib.Algebra.Order.Group.Nat

/-!
# Taking back what is too much

A process that has more on remote numas than its share has some of it taken back: a walk over the
completed slots cuts one after the other, until what is too much is covered. The walk is made
twice. The first time it collects the targets that are declared
(`UbsEngine.ProcessMem.rebalanceAggregateTargets`), the second time it books them in the slots
(`UbsEngine.ProcessMem.rebalanceApplyTargets`) and says by how much the counter goes down.

The two walks agree on every slot. A slot is cut to whole pages, though, and what goes missing in
this way is not counted: `UbsEngine.ProcessMem.rebalances_exactly_iff` says when the counter goes
down by what the slots lose.
-/

namespace UbsEngine

namespace ProcessMem

open Grouping

/-- The first loop of `RebalanceAggregateTargets`: what is settled, and the targets. -/
def rebalanceSettledTargets : Nat → List BorrowSlot → Nat × List ((Int × Int) × Nat)
  | _, [] => (0, [])
  | rest, s :: slots =>
    if s.status ≠ .COMPLETED ∨ s.remoteNumaId < 0 then rebalanceSettledTargets rest slots
    else
      let targetBytes := rebalanceSlotTargetBytes s.migratedBytes rest
      let reduce := min (s.migratedBytes - targetBytes) rest
      let r := rebalanceSettledTargets (rest - reduce) slots
      (reduce + r.1,
        if targetBytes > 0 then ((s.srcNumaId, s.remoteNumaId), targetBytes) :: r.2 else r.2)

/-- The second loop of `RebalanceAggregateTargets`: debts in flight keep their capacity. -/
def rebalanceInFlightTargets (slots : List BorrowSlot) : List ((Int × Int) × Nat) :=
  (slots.filter fun s => s.status = .BORROWING ∧ s.capacity > 0 ∧ s.remoteNumaId ≥ 0).map fun s =>
    ((s.srcNumaId, s.remoteNumaId), s.capacity)

/-- `RebalanceAggregateTargets`: what is settled, and the groups. -/
def rebalanceAggregateTargets (overage : Nat) (slots : List BorrowSlot) :
    Nat × List MigrateOutGroup :=
  let r := rebalanceSettledTargets overage slots
  (r.1, targetGroups (r.2 ++ rebalanceInFlightTargets slots))

/-- What the slots hold in all. -/
def heldBytes (slots : List BorrowSlot) : Nat := (slots.map (·.migratedBytes)).sum

/-- **A rebalance declares what it books.** The groups say what is in the slots afterwards, the
counter goes down by what the slots lose, and this is what is too much, up to less than a page. -/
structure RebalancesExactly (overage : Nat) (e : PidBorrow) : Prop where
  declares : ∀ src dest, 0 ≤ dest →
    declaredTo (rebalanceAggregateTargets overage e.borrow.slots).2 src dest =
      pairBytes (rebalancePidRemote overage e).borrow.slots src dest
  counts : heldBytes e.borrow.slots = heldBytes (rebalancePidRemote overage e).borrow.slots +
    (e.borrow.currentRemote - (rebalancePidRemote overage e).borrow.currentRemote)
  covers : overage ≤ heldBytes e.borrow.slots →
    heldBytes (rebalancePidRemote overage e).borrow.slots + overage ≤ heldBytes e.borrow.slots ∧
      heldBytes e.borrow.slots <
        heldBytes (rebalancePidRemote overage e).borrow.slots + overage + pageSizeBytes

/-! ### The two walks -/

section Walks

variable {slots : List BorrowSlot}

/-- **The two walks settle the same, and what the first declares is what the second books.** -/
theorem rebalanceSettledTargets_eq (hall : ∀ s ∈ slots, s.status = .COMPLETED) (rest : Nat) :
    (rebalanceSettledTargets rest slots).1 = (rebalanceApplyTargets rest slots).1 ∧
      ∀ src dest, 0 ≤ dest → summed (rebalanceSettledTargets rest slots).2 (src, dest) =
        pairBytes (rebalanceApplyTargets rest slots).2 src dest := by
  induction slots generalizing rest with
  | nil => exact ⟨rfl, fun _ _ _ => rfl⟩
  | cons s slots ih =>
    have hstatus := hall s List.mem_cons_self
    have ih := fun rest => ih (fun t ht => hall t (List.mem_cons_of_mem s ht)) rest
    rw [rebalanceSettledTargets, rebalanceApplyTargets]
    split
    next hskip =>
      have hneg : s.remoteNumaId < 0 := hskip.resolve_left (not_not_intro hstatus)
      obtain ⟨hfst, hpairs⟩ := ih rest
      refine ⟨hfst, fun src dest hdest => ?_⟩
      -- the slot is on no remote numa
      rw [pairBytes_cons, if_neg (fun h => by omega), Nat.zero_add, hpairs src dest hdest]
    next =>
      obtain ⟨hfst, hpairs⟩ := ih (rest -
        min (s.migratedBytes - rebalanceSlotTargetBytes s.migratedBytes rest) rest)
      refine ⟨congrArg _ hfst, fun src dest hdest => ?_⟩
      dsimp only
      rw [pairBytes_cons, ← hpairs src dest hdest]
      have hpair : (s.status = .COMPLETED ∧ s.srcNumaId = src ∧ s.remoteNumaId = dest) ↔
          (s.srcNumaId, s.remoteNumaId) = (src, dest) :=
        ⟨fun h => Prod.ext h.2.1 h.2.2, fun h => ⟨hstatus, congrArg Prod.fst h,
          congrArg Prod.snd h⟩⟩
      split
      next =>
        rw [summed_cons]
        exact congrArg (· + _) (if_congr hpair.symm rfl rfl)
      next hpos =>
        rw [Nat.eq_zero_of_not_pos hpos, ite_self, Nat.zero_add]

/-- No debt is in flight. -/
theorem rebalanceInFlightTargets_eq_nil (hall : ∀ s ∈ slots, s.status = .COMPLETED) :
    rebalanceInFlightTargets slots = [] := by
  rw [rebalanceInFlightTargets, List.map_eq_nil_iff, List.filter_eq_nil_iff]
  intro s hs
  simp [hall s hs]

/-- What the slots on remote numas hold. -/
def remoteBytes (slots : List BorrowSlot) : Nat :=
  (slots.map fun s => if s.remoteNumaId < 0 then 0 else s.migratedBytes).sum

/-- **What is settled is what is too much, as far as there is anything on remote numas.** -/
theorem rebalanceApplyTargets_fst (hall : ∀ s ∈ slots, s.status = .COMPLETED) (rest : Nat) :
    (rebalanceApplyTargets rest slots).1 = min rest (remoteBytes slots) := by
  induction slots generalizing rest with
  | nil => exact (Nat.min_zero rest).symm
  | cons s slots ih =>
    have hstatus := hall s List.mem_cons_self
    have ih := fun rest => ih (fun t ht => hall t (List.mem_cons_of_mem s ht)) rest
    rw [rebalanceApplyTargets, remoteBytes, List.map_cons, List.sum_cons]
    split
    next hskip =>
      have hneg : s.remoteNumaId < 0 := hskip.resolve_left (not_not_intro hstatus)
      rw [if_pos hneg, Nat.zero_add]
      exact ih rest
    next hskip =>
      have hle : rebalanceSlotTargetBytes s.migratedBytes rest ≤ s.migratedBytes - rest :=
        Nat.div_mul_le_self _ _
      have hreduce : min (s.migratedBytes - rebalanceSlotTargetBytes s.migratedBytes rest) rest =
          min s.migratedBytes rest := by omega
      rw [if_neg (fun h => hskip (.inr h))]
      dsimp only
      rw [hreduce, ih]
      change _ = min rest (s.migratedBytes + remoteBytes slots)
      omega

theorem remoteBytes_le_heldBytes (slots : List BorrowSlot) :
    remoteBytes slots ≤ heldBytes slots := by
  refine List.sum_le_sum fun s _ => ?_
  split
  next => exact Nat.zero_le _
  next => exact le_rfl

theorem completed_rebalanceApplyTargets (hall : ∀ s ∈ slots, s.status = .COMPLETED) (rest : Nat) :
    ∀ s ∈ (rebalanceApplyTargets rest slots).2, s.status = .COMPLETED := by
  induction slots generalizing rest with
  | nil => exact fun _ h => nomatch h
  | cons s slots ih =>
    have hstatus := hall s List.mem_cons_self
    have ih := fun rest => ih (fun t ht => hall t (List.mem_cons_of_mem s ht)) rest
    rw [rebalanceApplyTargets]
    split
    next => exact List.forall_mem_cons.2 ⟨hstatus, ih rest⟩
    next => exact List.forall_mem_cons.2 ⟨hstatus, ih _⟩

theorem heldBytes_of_completed (hall : ∀ s ∈ slots, s.status = .COMPLETED) :
    heldBytes slots = bytesIn .COMPLETED slots :=
  congrArg List.sum (List.map_congr_left fun s hs => (bytesIn_of_eq (hall s hs)).symm)

/-- What the slots hold goes down by what is settled if no slot is cut in the middle of a page, and
by more otherwise. -/
theorem heldBytes_rebalanceApplyTargets (hall : ∀ s ∈ slots, s.status = .COMPLETED) (rest : Nat) :
    heldBytes (rebalanceApplyTargets rest slots).2 + min rest (remoteBytes slots) ≤
        heldBytes slots ∧
      (heldBytes (rebalanceApplyTargets rest slots).2 + min rest (remoteBytes slots) =
        heldBytes slots ↔ CutsWholePages rest slots) := by
  rw [heldBytes_of_completed hall,
    heldBytes_of_completed (completed_rebalanceApplyTargets hall rest),
    ← rebalanceApplyTargets_fst hall rest]
  exact bytesIn_rebalanceApplyTargets rest slots

end Walks

/-! ### Declared, booked and counted -/

/-- **A rebalance of completed slots declares what it books if and only if no slot is cut in the
middle of a page, the counter covers what is settled, and what is on no remote numa is not needed
to make up what is too much.** -/
theorem rebalances_exactly_iff (overage : Nat) (e : PidBorrow)
    (hall : ∀ s ∈ e.borrow.slots, s.status = .COMPLETED) :
    RebalancesExactly overage e ↔
      CutsWholePages overage e.borrow.slots ∧
        min overage (remoteBytes e.borrow.slots) ≤ e.borrow.currentRemote ∧
        (overage ≤ heldBytes e.borrow.slots → overage ≤ remoteBytes e.borrow.slots) := by
  obtain ⟨hle, hcuts⟩ := heldBytes_rebalanceApplyTargets hall overage
  have hslots : (rebalancePidRemote overage e).borrow.slots =
      (rebalanceApplyTargets overage e.borrow.slots).2 := rfl
  have hcounter : (rebalancePidRemote overage e).borrow.currentRemote =
      e.borrow.currentRemote - min overage (remoteBytes e.borrow.slots) :=
    congrArg _ (rebalanceApplyTargets_fst hall overage)
  have hpage : 0 < pageSizeBytes := by decide
  constructor
  · rintro ⟨-, hcounts, hcovers⟩
    rw [hslots, hcounter] at hcounts
    rw [hslots] at hcovers
    refine ⟨hcuts.1 (by omega), by omega, fun hheld => ?_⟩
    have := hcovers hheld
    omega
  · rintro ⟨hwhole, hcovered, henough⟩
    have hexact := hcuts.2 hwhole
    refine ⟨fun src dest hdest => ?_, ?_, fun hheld => ?_⟩
    · rw [hslots, rebalanceAggregateTargets, declaredTo_targetGroups,
        rebalanceInFlightTargets_eq_nil hall, List.append_nil]
      exact (rebalanceSettledTargets_eq hall overage).2 src dest hdest
    · rw [hslots, hcounter]
      omega
    · have := henough hheld
      rw [hslots]
      omega

/-- A process whose one slot is as the kernel reports it, in kilobytes. -/
def unevenSlot (migratedBytes : Nat) : PidBorrow where
  borrow :=
    { currentRemote := migratedBytes
      slots := [{ capacity := 2 ^ 27, migratedBytes, debtId := "1-4242-0-0", srcNumaId := 0,
                  remoteNumaId := 4, status := .COMPLETED }] }
  processStatus := .BORROWED

theorem rebalances_exactly_wholePages :
    RebalancesExactly 4096 (unevenSlot 12288) := by
  refine (rebalances_exactly_iff 4096 (unevenSlot 12288) ?_).2 ⟨?_, ?_, ?_⟩
  · decide
  · exact ⟨rfl, trivial⟩
  · decide
  · decide

/-- Half a page is lost without being counted. -/
theorem not_rebalances_exactly :
    ¬ ∀ (overage : Nat) (e : PidBorrow), pageSizeBytes ∣ overage →
      (∀ s ∈ e.borrow.slots, s.status = .COMPLETED) → RebalancesExactly overage e := by
  intro h
  obtain ⟨-, hcounts, -⟩ := h 4096 (unevenSlot 10240) (dvd_refl _) (by decide)
  revert hcounts
  decide +kernel

end ProcessMem

end UbsEngine
