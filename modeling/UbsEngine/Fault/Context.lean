import UbsEngine.Library.Nested
import UbsEngine.Mem.Objects

/-!
# The data of a fault round

When a node that lends memory fails, the master works through the processes that use the borrowed
memory, in rounds: it collects who uses what, makes a migration task of each virtual machine or
container, decides where to borrow instead, and has the borrowing nodes migrate and give the old
memory back. A round may stop anywhere; how far a task has come is its phase, which is persisted
and resumed from in the next round.

This module has the data that a round passes on from stage to stage, and the texts that tell the
tasks apart.
-/

namespace UbsEngine

namespace Fault

open Mem

/-! ### Results -/

abbrev MpResult := Nat

def MEM_POOLING_OK : MpResult := 0
def MEM_POOLING_FAULT_IPC_ERROR : MpResult := 1
def MEM_POOLING_FAULT_MIGRATE_ERROR : MpResult := 2
def MEM_POOLING_FAULT_LACK_REMOTE_MEM_ERROR : MpResult := 4
def MEM_POOLING_FAULT_RESOURCE_COLLECT_ERROR : MpResult := 5
def MEM_POOLING_FAULT_BORROW_MEM_ERROR : MpResult := 6
def MEM_POOLING_FAULT_RETURN_MEM_ERROR : MpResult := 7

/-- The code of the error that was recorded first. The text of a record is only logged. -/
def earliestFaultErrorCode (records : List MpResult) : MpResult := records.head?.getD MEM_POOLING_OK

def isDefinedFaultErrorCode (code : MpResult) : Bool :=
  code = MEM_POOLING_FAULT_RESOURCE_COLLECT_ERROR ∨ code = MEM_POOLING_FAULT_IPC_ERROR ∨
    code = MEM_POOLING_FAULT_LACK_REMOTE_MEM_ERROR ∨ code = MEM_POOLING_FAULT_BORROW_MEM_ERROR ∨
    code = MEM_POOLING_FAULT_MIGRATE_ERROR ∨ code = MEM_POOLING_FAULT_RETURN_MEM_ERROR

theorem isDefinedFaultErrorCode_ne {code : MpResult} (h : isDefinedFaultErrorCode code) :
    code ≠ MEM_POOLING_OK := by
  rintro rfl
  exact absurd h (by decide)

/-- Nothing but an empty record passes for a success, as no error is recorded with its code. -/
theorem earliestFaultErrorCode_eq_ok {records : List MpResult}
    (h : ∀ code ∈ records, code ≠ MEM_POOLING_OK) :
    earliestFaultErrorCode records = MEM_POOLING_OK ↔ records = [] := by
  cases records with
  | nil => exact iff_of_true rfl rfl
  | cons code records =>
    exact iff_of_false (h code List.mem_cons_self) (List.cons_ne_nil _ _)

/-! ### Phases -/

/-- How far a task has come. -/
inductive TaskPhase where
  | NONE
  | BORROWED
  | MIGRATED
  | REMOVED
  | COMPLETED
  deriving DecidableEq

namespace TaskPhase

def toNat : TaskPhase → Nat
  | NONE => 0
  | BORROWED => 1
  | MIGRATED => 2
  | REMOVED => 3
  | COMPLETED => 4

instance : LT TaskPhase := ⟨fun p q => p.toNat < q.toNat⟩

instance : LE TaskPhase := ⟨fun p q => p.toNat ≤ q.toNat⟩

instance (p q : TaskPhase) : Decidable (p < q) := inferInstanceAs (Decidable (p.toNat < q.toNat))

instance (p q : TaskPhase) : Decidable (p ≤ q) := inferInstanceAs (Decidable (p.toNat ≤ q.toNat))

end TaskPhase

/-! ### Processes and NUMA nodes -/

/-- The id of a process, unique on its node. -/
abbrev Pid := UInt32

abbrev NumaId := Nat

inductive NumaBindType where
  | BIND_INVALID
  | BIND_SINGLE
  | BIND_MULTIPLE
  deriving DecidableEq

inductive MpSceneType where
  | CONTAINER_SCENE
  | VIRTUAL_SCENE
  deriving DecidableEq

/-- What a process uses of a NUMA node whose lender has failed. -/
structure NumaMemUsage where
  pid : Pid
  numaId : NumaId
  pageSizeKB : Nat
  usedMemKB : Nat
  deriving DecidableEq

/-- What is collected of a process. The instance is the container, or the virtual machine. -/
structure PidMemInfo where
  pid : Pid
  instanceId : string := []
  faultNumaUsages : List NumaMemUsage := []
  localNumaIds : List NumaId := []
  socketId : Int := -1
  bindType : NumaBindType := .BIND_INVALID
  deriving DecidableEq

/-- On whose behalf the master borrows. -/
structure BorrowUserInfo where
  uid : Nat := 0
  username : string := []
  socketId : Int := -1
  deriving DecidableEq

/-! ### Tasks and plans -/

/-- **A migration task**: the processes that are migrated together, what they use, and how far it
has come. -/
structure MigrationTask where
  taskId : string
  pids : List Pid
  containerId : string := []
  faultNumaUsages : List NumaMemUsage
  migrationSizeKB : Nat
  localNumaIds : List NumaId
  socketId : Int
  hasSameSocketConstraint : Bool
  bindType : NumaBindType
  relatedBorrowIds : List string
  phase : TaskPhase := .NONE
  newBorrowId : string := []
  newRemoteNumaId : NumaId := 0
  newBorrowSizeKB : Nat := 0
  deriving DecidableEq

/-- Borrowings of a NUMA node that nobody uses are given back at once. -/
structure DirectReturnTask where
  faultNumaId : NumaId
  relatedBorrowIds : List string
  deriving DecidableEq

structure BorrowInNodePlan where
  borrowInNodeId : string
  tasks : List MigrationTask := []
  directReturns : List DirectReturnTask := []
  ubseReachable : Bool := false
  borrowUser : BorrowUserInfo := {}
  hasPendingFaultNumas : Bool := false
  deriving DecidableEq

/-- Tasks that are borrowed for together. -/
structure PlanBorrowGroup where
  hasSameSocketConstraint : Bool
  constraintSocketId : Int
  localNumaId : NumaId
  demandKB : Nat := 0
  taskIds : List string := []
  candidateLenderNodes : List string := []
  deriving DecidableEq

inductive PlanType where
  | EXECUTE
  | DEFER
  deriving DecidableEq

structure FaultExecutePlan where
  borrowInNodeId : string
  planType : PlanType := .EXECUTE
  capacityShortage : Bool := false
  tasks : List MigrationTask := []
  borrowGroups : List PlanBorrowGroup := []
  borrowUser : BorrowUserInfo := {}
  directReturnBorrowIds : List string := []
  deriving DecidableEq

structure TaskExecuteResult where
  taskId : string
  retCode : MpResult
  completedPhase : TaskPhase
  deriving DecidableEq

/-- **What is persisted of a task.** -/
structure TaskPersistState where
  taskId : string
  borrowInNodeId : string
  phase : TaskPhase
  newBorrowId : string
  newRemoteNumaId : NumaId
  newBorrowSizeKB : Nat
  oldBorrowIds : List string
  freedOldBorrowIds : List string := []
  pids : List Pid
  migrationSizeKB : Nat
  deriving DecidableEq

/-! ### The ids of the tasks -/

/-- A number as text. -/
def to_string (n : Nat) : string := (Nat.toDigits 10 n).map fun c => c.toNat.toUInt8

theorem toNat_of_mem_toDigits {n : Nat} {c : Char} (h : c ∈ Nat.toDigits 10 n) :
    c.toNat.toUInt8.toNat = c.toNat := by
  have hdigit := Nat.isDigit_of_mem_toDigits (by decide) (by decide) h
  have hle : c.toNat ≤ 57 := (Bool.and_eq_true_iff.1 hdigit).2 |> of_decide_eq_true
  rw [UInt8.toNat_ofNat', Nat.mod_eq_of_lt (by omega)]

/-- A number can be read back from its text. -/
theorem foldl_to_string (n : Nat) :
    (to_string n).foldl (fun m c => 10 * m + (c.toNat - 48)) 0 = n := by
  rw [to_string, List.foldl_map]
  refine Eq.trans ?_ (Nat.ofDigitChars_toDigits (b := 10) (n := n) (by decide) (by decide))
  rw [Nat.ofDigitChars]
  refine List.foldl_ext _ _ _ fun m c hc => ?_
  rw [toNat_of_mem_toDigits hc]
  rfl

theorem to_string_injective : Function.Injective to_string := fun n m h => by
  rw [← foldl_to_string n, h, foldl_to_string]

/-- The id of a process has at most ten digits. -/
theorem length_to_string (pid : Pid) : (to_string pid.toNat).length ≤ 10 := by
  rw [to_string, List.length_map, Nat.length_toDigits_le_iff (by decide) (by decide)]
  exact pid.toNat_lt.trans (by decide)

end Fault

end UbsEngine
