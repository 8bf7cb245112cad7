import UbsEngine.Library.Assoc
import UbsEngine.Library.FirstMatch
import Mathlib.Data.Finset.Sort

/-!
# What a process has borrowed

A managed process borrows memory of other nodes in debts. Each debt has a slot, which says how
much of the process was migrated to it and how far the debt has come; next to the slots stands
`currentRemote`, a counter of what has been migrated in all. The operations on these two are
translated one by one. Every one of them runs under the lock of the cache, and most go through
`UbsEngine.ProcessMem.updateManagedPidBorrowStateAtomic`, which rebuilds the projection of the
slots on the remote numas afterwards.

Sizes are in bytes. They are natural numbers here, and a difference that can run below zero is
taken modulo `2 ^ 64` where it is formed.
-/

namespace UbsEngine

namespace ProcessMem

inductive BorrowSlotStatus
  | BORROWING | COMPLETED | RETURNING | FAILED
  deriving DecidableEq, Repr

/-- One debt. -/
structure BorrowSlot where
  capacity : Nat := 0
  migratedBytes : Nat := 0
  exportSlotId : Int := -1
  debtId : String := ""
  /-- The local numa that the pages come from; `-1` if it is not known. -/
  srcNumaId : Int := -1
  remoteNumaId : Int := -1
  /-- In milliseconds. -/
  borrowTime : Nat := 0
  status : BorrowSlotStatus := .BORROWING
  deriving DecidableEq, Repr

structure BorrowState where
  currentRemote : Nat := 0
  slots : List BorrowSlot := []
  remoteNumaMigrated : Map Int Nat := ∅
  /-- The debts that have been replaced by others. -/
  r2rReplacedDebts : Finset String := ∅

inductive ProcessStatus
  | IDLE | BORROWING | BORROWED
  deriving DecidableEq, Repr

/-- What the operations change of the entry of a process. -/
structure PidBorrow where
  borrow : BorrowState := {}
  processStatus : ProcessStatus := .IDLE

def pageSizeBytes : Nat := 4096

def BYTES_PER_MB : Nat := 1024 * 1024

/-- A size without the part that does not fill a page. -/
def pageAligned (bytes : Nat) : Nat := bytes / pageSizeBytes * pageSizeBytes

/-- A slot is found by the name of its debt. -/
def BorrowSlot.named (debtId : String) (s : BorrowSlot) : Bool := s.debtId = debtId

/-- What a slot has, if it is of a status. -/
def BorrowSlot.bytesIn (status : BorrowSlotStatus) (s : BorrowSlot) : Nat :=
  if s.status = status then s.migratedBytes else 0

/-- The bytes in the slots of a status. -/
def bytesIn (status : BorrowSlotStatus) (slots : List BorrowSlot) : Nat :=
  (slots.map (·.bytesIn status)).sum

namespace BorrowState

variable (b : BorrowState)

/-- Changing the slots. -/
def withSlots (slots : List BorrowSlot) : BorrowState := { b with slots }

/-- The first slot of a debt. -/
def findSlot (debtId : String) : Option BorrowSlot := b.slots.find? (·.named debtId)

def rebuildRemoteNumaMigrated : BorrowState :=
  { b with
    remoteNumaMigrated := b.slots.foldl (fun m s =>
      if s.capacity = 0 ∨ s.status ≠ .COMPLETED ∨ s.remoteNumaId < 0 then m
      else m.insert s.remoteNumaId ((m.lookup s.remoteNumaId).getD 0 + s.migratedBytes)) ∅ }

/-- `RecomputeCurrentRemote`: only what is completed counts. -/
def recomputeCurrentRemote : Nat := bytesIn .COMPLETED b.slots

/-- The counter is set to what has been recomputed. -/
def recomputed : BorrowState := { b with currentRemote := b.recomputeCurrentRemote }

end BorrowState

def computeSlotStatus (slots : List BorrowSlot) : ProcessStatus :=
  if slots = [] then .IDLE
  else if slots.any fun s => s.status = .BORROWING then .BORROWING else .BORROWED

/-- A change under the lock of the cache. -/
def updateManagedPidBorrowStateAtomic (mutate : PidBorrow → PidBorrow) (e : PidBorrow) :
    PidBorrow :=
  { mutate e with borrow := (mutate e).borrow.rebuildRemoteNumaMigrated }

/-! ### Borrowing -/

/-- `RecordPendingBorrow`. -/
def recordPendingBorrow (debtId : String) (amount : Nat) (srcNumaId : Int) (now : Nat) :
    PidBorrow → PidBorrow :=
  updateManagedPidBorrowStateAtomic fun e =>
    { borrow := e.borrow.withSlots (e.borrow.slots ++
        [{ migratedBytes := amount, srcNumaId, borrowTime := now, status := .BORROWING, debtId }])
      processStatus := .BORROWING }

/-- `RemoveSlotFinalize`. -/
def removeSlotFinalize (debtId : String) : PidBorrow → PidBorrow :=
  updateManagedPidBorrowStateAtomic fun e =>
    let slots := match e.borrow.findSlot debtId with
      | some s => if s.status = .BORROWING then e.borrow.slots.eraseP (·.named debtId)
        else e.borrow.slots
      | none => e.borrow.slots
    { borrow := e.borrow.withSlots slots, processStatus := computeSlotStatus slots }

/-- A group of targets of a declaration: what is to be on each remote numa of the pages of one
local numa. -/
structure MigrateOutGroup where
  srcNumaId : Int
  targets : List (Int × Nat)
  deriving DecidableEq, Repr

/-- The bytes that the completed slots and the increments declare from a local to a remote numa. -/
def declaredBytes (slots : List BorrowSlot) (increments : List (Int × Nat)) (inFlightSrc : Int)
    (src dest : Int) : Nat :=
  (slots.map fun s =>
      if s.capacity = 0 ∨ s.status ≠ .COMPLETED ∨ s.remoteNumaId < 0 then 0
      else if s.srcNumaId = src ∧ s.remoteNumaId = dest then s.migratedBytes else 0).sum +
    (increments.map fun inc => if inFlightSrc = src ∧ inc.1 = dest then inc.2 else 0).sum

/-- The keys of an ordered map. -/
def orderedKeys (keys : List Int) : List Int := keys.toFinset.sort (· ≤ ·)

/-- `BuildMigrateTargets`: everything that is completed, and the increments. A target of less than
a page is left out, and so is a group without targets. -/
def buildMigrateTargets (slots : List BorrowSlot) (increments : List (Int × Nat))
    (inFlightSrc : Int) : List MigrateOutGroup :=
  let declared := (slots.filter fun s =>
      ¬(s.capacity = 0 ∨ s.status ≠ .COMPLETED ∨ s.remoteNumaId < 0)).map
        (fun s => (s.srcNumaId, s.remoteNumaId)) ++ increments.map fun inc => (inFlightSrc, inc.1)
  let groups := (orderedKeys (declared.map (·.1))).map fun src =>
    let dests := orderedKeys ((declared.filter fun d => d.1 = src).map (·.2))
    let targets := dests.map fun dest =>
      (dest, pageAligned (declaredBytes slots increments inFlightSrc src dest))
    { srcNumaId := src, targets := targets.filter fun t => t.2 ≠ 0 : MigrateOutGroup }
  groups.filter fun g => g.targets ≠ []

/-- `FlattenGroupsToDestTotals`. -/
def flattenGroupsToDestTotals (groups : List MigrateOutGroup) : List (Int × Nat) :=
  let targets := groups.flatMap (·.targets)
  (orderedKeys (targets.map (·.1))).map fun dest =>
    (dest, (targets.map fun t => if t.1 = dest then t.2 else 0).sum)

/-- A debt that has been created. -/
structure CreatedDebtInfo where
  remoteNumaId : Int := -1
  exportSlotId : Int := -1
  capacity : Nat := 0
  deriving DecidableEq, Repr

/-- A slot of the debt `ownDebtId` in flight. -/
def BorrowSlot.ownInFlight (ownDebtId : String) (s : BorrowSlot) : Bool :=
  s.debtId = ownDebtId ∧ s.status = .BORROWING

/-- One turn of the loop of `FlushBorrowIncrements`: the first slot of the debt on a numa is
completed. -/
def flushTarget (increments : List (Int × Nat)) (ownDebtId : String) (numaId : Int)
    (x : Nat × List BorrowSlot) : Nat × List BorrowSlot :=
  match increments.lookup numaId with
  | none => x
  | some 0 => x
  | some remaining =>
    let fits := fun s : BorrowSlot =>
      s.ownInFlight ownDebtId && (s.remoteNumaId = numaId && s.capacity ≠ 0)
    match x.2.find? fits with
    | none => x
    | some s => (x.1 + min s.capacity remaining, modifyFirst fits (fun s =>
        { s with migratedBytes := min s.capacity remaining, status := .COMPLETED }) x.2)

/-- `FlushBorrowIncrements`: what has been added in all, and the slots. -/
def flushBorrowIncrements (slots : List BorrowSlot) (numaTargets increments : List (Int × Nat))
    (ownDebtId : String) (created : CreatedDebtInfo) : Nat × List BorrowSlot :=
  let slots := slots.map fun s =>
    if s.ownInFlight ownDebtId then
      { s with
        remoteNumaId := created.remoteNumaId
        exportSlotId := created.exportSlotId
        capacity := created.capacity }
    else s
  numaTargets.foldl (fun x t => flushTarget increments ownDebtId t.1 x) (0, slots)

/-- How a declaration is received. -/
inductive MigrateRet
  | ok | conflict | faultHandling | failed
  deriving DecidableEq, Repr

inductive AtomicMigrateResult
  | kOk | kFail | kVanish | kFaultNoMigrate
  deriving DecidableEq, Repr

/-- What `CommitBorrowAndMigrate` declares in an attempt, if it gets that far. -/
def commitGroups (debtId : String) (created : CreatedDebtInfo) (increments : List (Int × Nat))
    (b : BorrowState) : Option (List MigrateOutGroup) :=
  let own := (b.findSlot debtId).filter fun s => s.status = .BORROWING
  if created.capacity > 0 ∧ own.isNone then none
  else
    some (buildMigrateTargets b.slots increments ((own.map (·.srcNumaId)).getD (-1)))

/-- One attempt of `CommitBorrowAndMigrate`; there is no result if it is to be tried again. -/
def commitBorrowAndMigrate (debtId : String) (created : CreatedDebtInfo)
    (increments : List (Int × Nat)) (migrateRet : MigrateRet) (e : PidBorrow) :
    Option AtomicMigrateResult × PidBorrow :=
  match commitGroups debtId created increments e.borrow with
  | none => (some .kVanish, updateManagedPidBorrowStateAtomic id e)
  | some [] => (some .kFail, updateManagedPidBorrowStateAtomic id e)
  | some groups =>
    match migrateRet with
    | .conflict => (none, updateManagedPidBorrowStateAtomic id e)
    | .failed => (some .kFail, updateManagedPidBorrowStateAtomic id e)
    | .faultHandling =>
      (some .kFaultNoMigrate,
        updateManagedPidBorrowStateAtomic (fun e =>
          let slots := modifyFirst (·.named debtId)
            (fun s => { s with status := .COMPLETED, migratedBytes := 0 }) e.borrow.slots
          { borrow := e.borrow.withSlots slots, processStatus := computeSlotStatus slots }) e)
    | .ok =>
      (some .kOk,
        updateManagedPidBorrowStateAtomic (fun e =>
          let r := flushBorrowIncrements e.borrow.slots (flattenGroupsToDestTotals groups)
            increments debtId created
          { borrow := { e.borrow with currentRemote := e.borrow.currentRemote + r.1, slots := r.2 }
            processStatus := computeSlotStatus r.2 }) e)

/-- The free capacity of a slot, as a difference of numbers of 64 bits. -/
def BorrowSlot.idle (s : BorrowSlot) : Nat := (s.capacity + 2 ^ 64 - s.migratedBytes) % 2 ^ 64

/-- A slot whose capacity can be used again for pages of a local numa. -/
def BorrowSlot.reusable (srcNumaId : Int) (s : BorrowSlot) : Bool :=
  s.status = .COMPLETED ∧ s.remoteNumaId ≥ 0 ∧ s.srcNumaId = srcNumaId

/-- The check of `ReuseIdleSlotCapacity`: nothing else is in flight, and the free capacity covers
all that is needed. -/
def canReuseIdleSlotCapacity (debtId : String) (need : Nat) (srcNumaId : Int) (b : BorrowState) :
    Bool :=
  need ≠ 0 ∧ ¬(b.slots.any fun s => s.status = .BORROWING ∧ s.debtId ≠ debtId) ∧
    need ≤ (b.slots.map fun s =>
      if s.reusable srcNumaId ∧ s.capacity > s.migratedBytes then s.capacity - s.migratedBytes
      else 0).sum

/-- The loop of `ReuseIdleSlotCapacity`: what is left of the need, and the slots. -/
def fillIdle (srcNumaId : Int) : Nat → List BorrowSlot → Nat × List BorrowSlot
  | rest, [] => (rest, [])
  | rest, s :: slots =>
    if s.reusable srcNumaId ∧ rest ≠ 0 then
      let fill := min s.idle rest
      let r := fillIdle srcNumaId (rest - fill) slots
      (r.1, { s with migratedBytes := s.migratedBytes + fill } :: r.2)
    else
      let r := fillIdle srcNumaId rest slots
      (r.1, s :: r.2)

/-- The change of `ReuseIdleSlotCapacity`. -/
def reuseIdleSlotCapacity (need : Nat) (srcNumaId : Int) : PidBorrow → PidBorrow :=
  updateManagedPidBorrowStateAtomic fun e =>
    let r := fillIdle srcNumaId need e.borrow.slots
    { e with
      borrow :=
        { e.borrow with
          slots := r.2
          currentRemote := e.borrow.currentRemote + (need - r.1) } }

/-! ### Timeouts -/

/-- A slot has been in flight for too long. -/
def BorrowSlot.timedOut (timeoutPer128MbMs now : Nat) (s : BorrowSlot) : Bool :=
  s.status = .BORROWING ∧
    now - s.borrowTime > (s.migratedBytes / BYTES_PER_MB + 127) / 128 * timeoutPer128MbMs

/-- `CheckTimeouts`, for one process. -/
def checkTimeouts (timeoutPer128MbMs now : Nat) : PidBorrow → PidBorrow :=
  updateManagedPidBorrowStateAtomic fun e =>
    if e.borrow.slots.any (·.timedOut timeoutPer128MbMs now) then
      let marked := e.borrow.withSlots (e.borrow.slots.map fun s =>
        if s.timedOut timeoutPer128MbMs now then { s with status := .FAILED } else s)
      let slots := marked.slots.filter fun s => s.status ≠ .FAILED
      { borrow := marked.recomputed.withSlots slots, processStatus := computeSlotStatus slots }
    else e

/-! ### Returning -/

def updateManagedPidSlotReturned (debtId : String) (e : PidBorrow) : PidBorrow :=
  match e.borrow.findSlot debtId with
  | none => e
  | some s =>
    let borrow := e.borrow.withSlots (e.borrow.slots.eraseP (·.named debtId))
    { borrow :=
        if s.status = .RETURNING then borrow.recomputed
        else { borrow with currentRemote := borrow.currentRemote - s.migratedBytes }
      processStatus := if borrow.slots = [] then .IDLE else e.processStatus }

def setManagedPidSlotReturning (debtId : String) (returning : Bool) (e : PidBorrow) : PidBorrow :=
  match e.borrow.findSlot debtId with
  | none => e
  | some s =>
    if (s.status = .RETURNING) = returning then e
    else
      let borrow := e.borrow.withSlots (modifyFirst (·.named debtId)
        (fun s => { s with status := if returning then .RETURNING else .COMPLETED })
        e.borrow.slots)
      { e with
        borrow := (if returning then borrow.rebuildRemoteNumaMigrated else borrow).recomputed }

def removeR2rReplacedDebt (oldDebtId : String) (e : PidBorrow) : PidBorrow :=
  { e with
    borrow := { e.borrow with r2rReplacedDebts := e.borrow.r2rReplacedDebts.erase oldDebtId } }

/-- `ResetSlotByDebtName`, for one process: the counter is recomputed first. -/
def resetSlotByDebtName (debtId : String) (e : PidBorrow) : PidBorrow :=
  match e.borrow.findSlot debtId with
  | none => e
  | some _ =>
    { e with
      borrow := e.borrow.recomputed.withSlots (modifyFirst (·.named debtId)
        (fun s => { s with status := .COMPLETED }) e.borrow.slots) }

/-- The change of `ReturnDebtToLocal`. -/
def returnMigrateSync : PidBorrow → PidBorrow :=
  updateManagedPidBorrowStateAtomic fun e => { e with borrow := e.borrow.recomputed }

/-- The change of `MigrateDebtToReplacement`: the old debt is being returned and holds nothing, and
the new one is completed. -/
def replaceDebt (oldDebtId : String) (newSlot : BorrowSlot) : PidBorrow → PidBorrow :=
  updateManagedPidBorrowStateAtomic fun e =>
    let slots := modifyFirst (·.named oldDebtId)
      (fun s => { s with status := .RETURNING, migratedBytes := 0 }) e.borrow.slots
    let borrow : BorrowState :=
      { e.borrow with
        r2rReplacedDebts := insert oldDebtId e.borrow.r2rReplacedDebts
        slots := slots ++ [{ newSlot with status := .COMPLETED }] }
    { e with borrow := borrow.recomputed }

/-! ### Reconciliation -/

/-- `RecoverBindDebt`. -/
def recoverBindDebt (debtId : String) (size : Nat) (remoteNumaId srcNumaId : Int) (now : Nat) :
    PidBorrow → PidBorrow :=
  updateManagedPidBorrowStateAtomic fun e =>
    { borrow := e.borrow.withSlots (e.borrow.slots ++
        [{ debtId, migratedBytes := size, capacity := size, remoteNumaId, srcNumaId,
           borrowTime := now, status := .COMPLETED }])
      processStatus := .BORROWED }

/-- The change of `ReconcileLedgerWithCache` for debts that are not in the ledger any more. -/
def removeVanished (vanished : List String) : PidBorrow → PidBorrow :=
  updateManagedPidBorrowStateAtomic fun e =>
    let borrow := (e.borrow.withSlots (vanished.foldl
      (fun slots debtId => slots.eraseP (·.named debtId)) e.borrow.slots)).recomputed
    { borrow, processStatus := if borrow.slots = [] then .IDLE else e.processStatus }

/-- A completed slot on a remote numa for which the kernel has no configuration. -/
def BorrowSlot.unconfigured (smapKb : Int → Nat) (s : BorrowSlot) : Bool :=
  s.status = .COMPLETED ∧ s.migratedBytes ≠ 0 ∧ s.remoteNumaId ≥ 0 ∧ smapKb s.remoteNumaId = 0

/-- `ZeroMigratedBytesWithoutSmap`. -/
def zeroMigratedBytesWithoutSmap (smapKb : Int → Nat) : PidBorrow → PidBorrow :=
  updateManagedPidBorrowStateAtomic fun e =>
    { e with
      borrow := e.borrow.withSlots (e.borrow.slots.map fun s =>
        if s.unconfigured smapKb then { s with migratedBytes := 0 } else s) }

/-- `RecoverPidMigratedBytes`. -/
def recoverPidMigratedBytes : PidBorrow → PidBorrow :=
  updateManagedPidBorrowStateAtomic fun e =>
    { borrow := e.borrow.recomputed, processStatus := .BORROWED }

/-! ### Moving bytes between slots, and back -/

/-- The places of the completed slots of a remote numa, those with the largest capacity first. -/
def rearrangeOrder (slots : List BorrowSlot) (numaId : Int) : List Nat :=
  ((List.range slots.length).filter fun i =>
    (slots[i]?).any fun s => s.status = .COMPLETED ∧ s.remoteNumaId = numaId).mergeSort
      fun i j => ((slots[j]?).map (·.capacity)).getD 0 ≤ ((slots[i]?).map (·.capacity)).getD 0

/-- One turn of the inner loop of `RearrangePidMigrated`. -/
def rearrangeSlot (x : Nat × List BorrowSlot) (i : Nat) : Nat × List BorrowSlot :=
  match x.2[i]? with
  | none => x
  | some s =>
    (x.1 - min s.capacity x.1,
      x.2.set i { s with migratedBytes := min s.capacity x.1 })

/-- The bytes of a remote numa are packed into as few slots as possible. -/
def rearrangeNuma (slots : List BorrowSlot) (numaId : Int) : List BorrowSlot :=
  let expectedTotal := (slots.map fun s =>
    if s.status = .COMPLETED ∧ s.remoteNumaId = numaId then s.migratedBytes else 0).sum
  ((rearrangeOrder slots numaId).foldl rearrangeSlot (expectedTotal, slots)).2

/-- `RearrangePidMigrated`, by `OomRearrangeMigrated`. -/
def rearrangePidMigrated : PidBorrow → PidBorrow :=
  updateManagedPidBorrowStateAtomic fun e =>
    let numas := orderedKeys ((e.borrow.slots.filter fun s => s.status = .COMPLETED).map
      (·.remoteNumaId))
    { e with borrow := e.borrow.withSlots (numas.foldl rearrangeNuma e.borrow.slots) }

/-- What a slot is cut down to: `RebalanceSlotTargetBytes`. -/
def rebalanceSlotTargetBytes (migratedBytes overage : Nat) : Nat :=
  pageAligned (migratedBytes - overage)

/-- `RebalanceApplyTargets`: what has been taken back, and the slots. -/
def rebalanceApplyTargets : Nat → List BorrowSlot → Nat × List BorrowSlot
  | _, [] => (0, [])
  | rest, s :: slots =>
    if s.status ≠ .COMPLETED ∨ s.remoteNumaId < 0 then
      let r := rebalanceApplyTargets rest slots
      (r.1, s :: r.2)
    else
      let targetBytes := rebalanceSlotTargetBytes s.migratedBytes rest
      let reduce := min (s.migratedBytes - targetBytes) rest
      let r := rebalanceApplyTargets (rest - reduce) slots
      (reduce + r.1, { s with migratedBytes := targetBytes } :: r.2)

/-- The change of `RebalancePidRemote`. -/
def rebalancePidRemote (overage : Nat) : PidBorrow → PidBorrow :=
  updateManagedPidBorrowStateAtomic fun e =>
    let r := rebalanceApplyTargets overage e.borrow.slots
    { e with
      borrow := { e.borrow with slots := r.2, currentRemote := e.borrow.currentRemote - r.1 } }

end ProcessMem

end UbsEngine
