import UbsEngine.FaultNode.Regroup
import Mathlib.Data.Prod.Lex
import Mathlib.Data.String.Basic

/-!
# The borrower's side of a fault

A borrower handles the fault of a lender process by process. Where the lost NUMA nodes are idle, the
old borrow ids are freed at once. Otherwise new memory is borrowed, the process is migrated, and the
old borrow ids are freed; from the borrowing on, a *pending* entry for the process says how far this
has come, and the next call goes on from it.

The entry is found by the number of the process alone, and a call that finds one does not look at
its own records. So a call that succeeds has finished with its records if they are those of the
entry, or if every NUMA node of them gets new memory
(`UbsEngine.FaultNode.Simplified.finished_history`).
-/

namespace UbsEngine

namespace FaultNode

namespace Simplified

open Gather

/-! ### Data -/

inductive MpResult
  | ok
  | resourceCollectError
  | migrateError
  | borrowMemError
  | returnMemError
  deriving DecidableEq

/-- The answer to a request to free a borrow id. -/
inductive FreeAnswer
  | ok
  | notExist
  | failed
  deriving DecidableEq

/-- New memory in the place of an old NUMA node. -/
structure PerRemoteNumaBorrowResult where
  oldNumaId : Nat
  newNumaId : Nat
  borrowSizeKB : Nat
  newBorrowId : String

structure PendingMigrationState where
  perNumaBorrows : List PerRemoteNumaBorrowResult
  oldBorrowIds : List String
  remoteNumaIds : List Nat
  numaToBorrowIds : Map Nat (List String)
  migrated : Bool := false
  numaMigrated : Map Nat Bool
  freedOldBorrowIds : List String := []

structure PidBorrowContext where
  oldBorrowIds : List String
  remoteNumaIds : List Nat
  numaToBorrowIds : Map Nat (List String)
  borrowNodeId : String
  allocLendTargets : List SimplifiedFaultPidAllocTarget

structure ProcessPayload where
  migrateMode : Nat
  ratio : Nat
  memSize : Nat

/-- Targets are sorted by the NUMA nodes that they are for, then by socket and node. -/
def sortKey (target : SimplifiedFaultPidAllocTarget) : Nat ×ₗ Nat ×ₗ String :=
  toLex (target.srcFaultNumaId, toLex (target.lendSocketId, target.lendNodeId))

/-- `std::sort` of targets. The order of those with the same key is up to the library. -/
structure SortTargets where
  sort : List SimplifiedFaultPidAllocTarget → List SimplifiedFaultPidAllocTarget
  perm : ∀ targets, (sort targets).Perm targets
  sorted : ∀ targets, (sort targets).Pairwise fun a b => sortKey a ≤ sortKey b

/-- A sort that keeps the order of targets with the same key. -/
def SortTargets.stable : SortTargets where
  sort := List.insertionSort fun a b => sortKey a ≤ sortKey b
  perm := List.perm_insertionSort _
  sorted targets :=
    haveI : Std.Total fun a b : SimplifiedFaultPidAllocTarget => sortKey a ≤ sortKey b :=
      ⟨fun _ _ => le_total ..⟩
    haveI : IsTrans SimplifiedFaultPidAllocTarget fun a b => sortKey a ≤ sortKey b :=
      ⟨fun _ _ _ => le_trans⟩
    List.pairwise_insertionSort _ targets

/-- What a call meets: the answers of the migration service, of the operating system, of the lenders
and of the requests to free, the latter in the order in which they are made. -/
structure Outcomes where
  processes : Nat → List ProcessPayload := fun _ => []
  /-- What is free of a NUMA node, and all of it. -/
  memInfo : Nat → Option (Nat × Nat) := fun _ => none
  disableMigrate : Bool := true
  waterMark : Bool := true
  /-- The borrow id and the NUMA node of a piece, if it can be borrowed. -/
  borrowSplit : Nat → Option (String × Nat) := fun _ => none
  rollback : Nat → Bool := fun _ => true
  isReserved : Nat → Bool := fun _ => false
  debtInfos : Bool := true
  migrate : Bool := true
  free : Nat → FreeAnswer := fun _ => .ok
  redirect : Nat → Bool := fun _ => true
  sortTargets : SortTargets := .stable
  numaMigrated : Map.Iteration Nat Bool := default

/-- A call of `ProcessSinglePidFault`, with what it meets. -/
structure Call where
  pid : Pid
  records : List BorrowRecord
  allocTargets : List SimplifiedFaultPidAllocTarget
  outcomes : Outcomes

/-- What a call returns and leaves, and what has happened in it. -/
structure Reply where
  result : MpResult
  pendingMigrations : Map Pid PendingMigrationState
  /-- The NUMA nodes that were found idle. -/
  idle : List Nat := []
  /-- The NUMA nodes with an entry that was migrated. -/
  migrated : List Nat := []
  /-- The old borrow ids that were freed, or are gone. -/
  freed : List String := []
  /-- The new borrow ids. -/
  borrowed : List String := []
  /-- The new borrow ids that the call took over. -/
  reused : List String := []

/-! ### Steps of a call -/

section Steps

variable (o : Outcomes)

/-- A process has something on a NUMA node. -/
def ProcessPayload.occupies (payload : ProcessPayload) : Bool :=
  (payload.migrateMode = 0 && 0 < payload.ratio) || (payload.migrateMode = 1 && 0 < payload.memSize)

/-- A NUMA node is idle: no process has something on it, and all of it is free. -/
def Outcomes.isIdle (numaId : Nat) : Bool :=
  !(o.processes numaId).any ProcessPayload.occupies &&
    match o.memInfo numaId with
    | some (memFree, memTotal) => memFree = memTotal
    | none => false

def canDirectlyReturnRemoteNumas (remoteNumaIds : List Nat) : Bool :=
  !remoteNumaIds.isEmpty && remoteNumaIds.all o.isIdle

/-- The borrow ids that are freed, and whether all of them are. -/
def freeBorrowIdsDirectly (borrowIds : List String) : List String × Bool :=
  ((borrowIds.zipIdx.filter fun id => o.free id.2 ≠ .failed).map Prod.fst,
    borrowIds.zipIdx.all fun id => o.free id.2 = .ok)

/-- The most that a process can migrate at once. -/
def MAX_NR_MIGOUT : Nat := 40

def executeMigrateForPidWithNuma (perNumaBorrows : List PerRemoteNumaBorrowResult) : Bool :=
  !perNumaBorrows.isEmpty && perNumaBorrows.length ≤ MAX_NR_MIGOUT &&
    perNumaBorrows.all (fun entry => !o.isReserved entry.newNumaId) && o.debtInfos && o.migrate

/-- The requests to free so far, the borrow ids that are freed, and whether nothing has failed. -/
structure Freeing where
  requests : Nat
  freedOldBorrowIds : List String
  ok : Bool

/-- The new borrow id that stands for those of an old NUMA node: that with the most memory. -/
def newBorrowIdByOldNuma (perNumaBorrows : List PerRemoteNumaBorrowResult) (oldNumaId : Nat) :
    String :=
  let best := (perNumaBorrows.filter fun entry => entry.oldNumaId = oldNumaId).foldl
    (fun (best : Option PerRemoteNumaBorrowResult) entry =>
      match best with
      | some b => if b.borrowSizeKB < entry.borrowSizeKB then some entry else some b
      | none => some entry) none
  (best.map (·.newBorrowId)).getD ""

def freeOldBorrowId (newBorrowId : String) (s : Freeing) (oldBorrowId : String) : Freeing :=
  if oldBorrowId ∈ s.freedOldBorrowIds then s
  else if o.free s.requests = .failed then { s with requests := s.requests + 1, ok := false }
  else
    { requests := s.requests + 1
      freedOldBorrowIds := s.freedOldBorrowIds ++ [oldBorrowId]
      ok := s.ok && (newBorrowId = "" || o.redirect s.requests) }

/-- The old borrow ids of the NUMA nodes that are migrated are freed. -/
def finalizePidProcessing (numaToBorrowIds : Map Nat (List String))
    (perNumaBorrows : List PerRemoteNumaBorrowResult) (migratedNumaIds : List Nat)
    (freedOldBorrowIds : List String) : Freeing :=
  migratedNumaIds.foldl (fun s oldNumaId =>
    match numaToBorrowIds.lookup oldNumaId with
    | some borrowIds =>
      borrowIds.foldl (freeOldBorrowId o (newBorrowIdByOldNuma perNumaBorrows oldNumaId)) s
    | none => s) ⟨0, freedOldBorrowIds, true⟩

/-! ### A call that finds nothing pending -/

def targetKey (target : SimplifiedFaultPidAllocTarget) : String × Nat × Nat :=
  (target.lendNodeId, target.lendSocketId, target.srcFaultNumaId)

/-- `std::unique`, after a first target. -/
def uniqueFrom (last : SimplifiedFaultPidAllocTarget) :
    List SimplifiedFaultPidAllocTarget → List SimplifiedFaultPidAllocTarget
  | [] => []
  | target :: targets =>
    if targetKey target = targetKey last then uniqueFrom last targets
    else target :: uniqueFrom target targets

def uniqueTargets : List SimplifiedFaultPidAllocTarget → List SimplifiedFaultPidAllocTarget
  | [] => []
  | target :: targets => target :: uniqueFrom target targets

/-- What the records of a process say. There is nothing to do without a record, and nothing can be
done if no record names the borrower. -/
def collectPidBorrowInfo (records : List BorrowRecord)
    (allocLendTargets : List SimplifiedFaultPidAllocTarget) : Option PidBorrowContext :=
  let remote := records.filter fun record => 0 ≤ record.borrowRemoteNuma
  match records.find? fun record => record.borrowNode ≠ "" with
  | none => none
  | some first => some
    { oldBorrowIds := records.map (·.name)
      remoteNumaIds := remote.map fun record => toUInt16 record.borrowRemoteNuma
      numaToBorrowIds := gather (fun record => toUInt16 record.borrowRemoteNuma) []
        (fun ids record => ids ++ [record.name]) remote
      borrowNodeId := first.borrowNode
      allocLendTargets := allocLendTargets }

/-- The pieces are borrowed one after the other, from the `i`-th on, after those that are done: the
result, and the new borrow ids. If one cannot be borrowed, those before it are given back. -/
def memBorrowExecuteSplits : Nat → List SimplifiedFaultPidAllocTarget →
    List PerRemoteNumaBorrowResult → Option (List PerRemoteNumaBorrowResult) × List String
  | _, [], done => (some done, done.map (·.newBorrowId))
  | i, target :: targets, done =>
    match o.borrowSplit i with
    | some (newBorrowId, newNumaId) =>
      memBorrowExecuteSplits (i + 1) targets (done ++
        [⟨target.srcFaultNumaId, newNumaId % 2 ^ 16, target.lendSizeKB * 1024 % 2 ^ 64 / 1024,
          newBorrowId⟩])
    | none => (none, (done.zipIdx.filter fun entry =>
        entry.1.newBorrowId ≠ "" && !o.rollback entry.2).map (·.1.newBorrowId))

/-- The new memory of every old NUMA node, and the new borrow ids. -/
def executeBorrowForPid (ctx : PidBorrowContext) :
    Option (List PerRemoteNumaBorrowResult) × List String :=
  if !o.waterMark then (none, [])
  else if !ctx.allocLendTargets.isEmpty && ctx.allocLendTargets.all (fun t => 0 < t.lendSizeKB) then
    memBorrowExecuteSplits o 0 ctx.allocLendTargets []
  else (none, [])

/-- `RecordPendingMigrationState`: nothing is migrated yet. -/
def recordPendingMigrationState (ctx : PidBorrowContext)
    (perNumaBorrows : List PerRemoteNumaBorrowResult) : PendingMigrationState where
  perNumaBorrows := perNumaBorrows
  oldBorrowIds := ctx.oldBorrowIds
  remoteNumaIds := ctx.remoteNumaIds
  numaToBorrowIds := ctx.numaToBorrowIds
  numaMigrated := perNumaBorrows.foldl (fun m entry => m.insert entry.oldNumaId false) ∅

/-- Some entries are migrated. -/
def PendingMigrationState.markMigrated (state : PendingMigrationState)
    (entries : List PerRemoteNumaBorrowResult) : PendingMigrationState :=
  let numaMigrated :=
    entries.foldl (fun m entry => m.insert entry.oldNumaId true) state.numaMigrated
  { state with
    numaMigrated := numaMigrated
    migrated := numaMigrated.entries.all (·.2) }

def processNewBorrowFlow (pendingMigrations : Map Pid PendingMigrationState) (pid : Pid)
    (records : List BorrowRecord) (allocTargets : List SimplifiedFaultPidAllocTarget) : Reply :=
  match collectPidBorrowInfo records (uniqueTargets (o.sortTargets.sort allocTargets)) with
  | none => { result := .resourceCollectError, pendingMigrations := pendingMigrations }
  | some ctx =>
    if canDirectlyReturnRemoteNumas o ctx.remoteNumaIds then
      let free := freeBorrowIdsDirectly o ctx.oldBorrowIds
      { result := if free.2 then .ok else .returnMemError
        pendingMigrations := if free.2 then pendingMigrations.erase pid else pendingMigrations
        idle := ctx.remoteNumaIds
        freed := free.1 }
    else if !o.disableMigrate then
      { result := .migrateError, pendingMigrations := pendingMigrations }
    else
      let borrow := executeBorrowForPid o ctx
      match borrow.1 with
      | none =>
        { result := .borrowMemError, pendingMigrations := pendingMigrations, borrowed := borrow.2 }
      | some perNuma =>
        let state := recordPendingMigrationState ctx perNuma
        if !executeMigrateForPidWithNuma o perNuma then
          { result := .migrateError
            pendingMigrations := pendingMigrations.insert pid state
            borrowed := borrow.2 }
        else
          let pendingMigrations :=
            (pendingMigrations.insert pid state).insert pid (state.markMigrated perNuma)
          let migratedNumaIds := perNuma.map (·.oldNumaId)
          let free := finalizePidProcessing o ctx.numaToBorrowIds perNuma migratedNumaIds []
          { result := if free.ok then .ok else .returnMemError
            pendingMigrations := if free.ok then pendingMigrations.erase pid else pendingMigrations
            migrated := migratedNumaIds
            freed := free.freedOldBorrowIds
            borrowed := borrow.2 }

/-! ### A call that finds a pending entry -/

/-- What a call makes of a pending entry. -/
structure PendingReply where
  result : MpResult
  state : PendingMigrationState
  idle : List Nat
  migrated : List Nat
  freed : List String

/-- The NUMA nodes that are migrated. An entry without any flag has those of the process. -/
def PendingMigrationState.migratedNumaIds (state : PendingMigrationState) : List Nat :=
  if state.migrated then
    if state.numaMigrated.keys.isEmpty then state.remoteNumaIds
    else ((o.numaMigrated.run state.numaMigrated).filter (·.2)).map Prod.fst
  else []

/-- The end of a call on an entry. -/
def finishPending (state : PendingMigrationState) (idle migrated : List Nat) : PendingReply :=
  let free := finalizePidProcessing o state.numaToBorrowIds state.perNumaBorrows
    (state.migratedNumaIds o) state.freedOldBorrowIds
  { result := if free.ok then .ok else .returnMemError
    state := { state with freedOldBorrowIds := free.freedOldBorrowIds }
    idle := idle
    migrated := migrated
    freed := free.freedOldBorrowIds.drop state.freedOldBorrowIds.length }

/-- All NUMA nodes count as migrated. -/
def PendingMigrationState.markIdle (state : PendingMigrationState) : PendingMigrationState :=
  { state with migrated := true, numaMigrated := state.numaMigrated.mapValues fun _ _ => true }

/-- The entries that are not migrated yet. -/
def PendingMigrationState.remaining (state : PendingMigrationState) :
    List PerRemoteNumaBorrowResult :=
  state.perNumaBorrows.filter fun entry => !(state.numaMigrated.lookup entry.oldNumaId).getD false

def processPendingMigration (state : PendingMigrationState) : PendingReply :=
  if state.migrated then finishPending o state [] []
  else if canDirectlyReturnRemoteNumas o state.remoteNumaIds then
    finishPending o state.markIdle state.remoteNumaIds []
  else if state.remaining.isEmpty then finishPending o (state.markMigrated []) [] []
  else if !o.disableMigrate then ⟨.migrateError, state, [], [], []⟩
  else if !executeMigrateForPidWithNuma o state.remaining then ⟨.migrateError, state, [], [], []⟩
  else finishPending o (state.markMigrated state.remaining) []
    (state.remaining.map (·.oldNumaId))

end Steps

/-! ### Calls -/

/-- **A call**: `ProcessSinglePidFault`. -/
def processSinglePidFault (pendingMigrations : Map Pid PendingMigrationState) (c : Call) : Reply :=
  match pendingMigrations.lookup c.pid with
  | some state =>
    let r := processPendingMigration c.outcomes state
    { result := r.result
      pendingMigrations :=
        if r.result = .ok ∧ r.state.migrated ∧
            r.state.oldBorrowIds.length ≤ r.state.freedOldBorrowIds.length then
          pendingMigrations.erase c.pid
        else pendingMigrations.insert c.pid r.state
      idle := r.idle
      migrated := r.migrated
      freed := r.freed
      reused := state.perNumaBorrows.map (·.newBorrowId) }
  | none => processNewBorrowFlow c.outcomes pendingMigrations c.pid c.records c.allocTargets

/-- Calls one after the other, and what came of them. -/
def history : Map Pid PendingMigrationState → List Call → List (Call × Reply)
  | _, [] => []
  | pendingMigrations, c :: calls =>
    (c, processSinglePidFault pendingMigrations c) ::
      history (processSinglePidFault pendingMigrations c).pendingMigrations calls

/-! ### What is finished -/

/-- A NUMA node was found idle, or an entry of the process for it was migrated. -/
def Left (calls : List (Call × Reply)) (pid : Pid) (numaId : Nat) : Prop :=
  ∃ e ∈ calls, numaId ∈ e.2.idle ∨ e.1.pid = pid ∧ numaId ∈ e.2.migrated

/-- **A call that is right**, after some others. If it succeeds, the borrow ids of its records are
freed or gone. A borrow id that it frees was given for the process, and since then its NUMA node was
left. -/
structure Finished (before : List (Call × Reply)) (c : Call) (r : Reply) : Prop where
  ok : r.result = .ok → ∀ record ∈ c.records, ∃ e ∈ before ++ [(c, r)], record.name ∈ e.2.freed
  freed : ∀ id ∈ r.freed, ∃ earlier e later, before ++ [(c, r)] = earlier ++ e :: later ∧
    e.1.pid = c.pid ∧ ∃ record ∈ e.1.records, record.name = id ∧ 0 ≤ record.borrowRemoteNuma ∧
      Left (e :: later) c.pid (toUInt16 record.borrowRemoteNuma)

/-- **New memory is used again**: after a call that fails with new memory, the next call for the
process borrows nothing and takes over what there is. -/
def UsedAgain (c : Call) (r : Reply) (after : List (Call × Reply)) : Prop :=
  r.result ≠ .ok → r.borrowed ++ r.reused ≠ [] → ∀ between c' r' later,
    after = between ++ (c', r') :: later → (∀ e ∈ between, e.1.pid ≠ c.pid) → c'.pid = c.pid →
      r'.borrowed = [] ∧ r'.reused = r.borrowed ++ r.reused

/-- What a run of calls promises. -/
def AllFinished (calls : List (Call × Reply)) : Prop :=
  ∀ before c r after, calls = before ++ (c, r) :: after →
    Finished before c r ∧ UsedAgain c r after

/-- **When a call is right.** If something is pending, its records are those of the entry: they are
freed already, or their NUMA nodes have new memory. Otherwise all its records have a NUMA node, and
these are idle or each has a target; and if a piece cannot be borrowed, those before it can be given
back. -/
def Meets (pendingMigrations : Map Pid PendingMigrationState) (c : Call) : Prop :=
  match pendingMigrations.lookup c.pid with
  | some state => ∀ record ∈ c.records, record.name ∈ state.freedOldBorrowIds ∨
      ∃ numaId ids, (state.numaMigrated.lookup numaId).isSome ∧
        state.numaToBorrowIds.lookup numaId = some ids ∧ record.name ∈ ids
  | none => (∀ record ∈ c.records, 0 ≤ record.borrowRemoteNuma) ∧
      ((∀ record ∈ c.records, c.outcomes.isIdle (toUInt16 record.borrowRemoteNuma)) ∨
        ∀ record ∈ c.records, ∃ target ∈ c.allocTargets,
          target.srcFaultNumaId = toUInt16 record.borrowRemoteNuma) ∧
      ∀ i, c.outcomes.rollback i

/-- The condition for every call of a run. -/
def AllMeet : Map Pid PendingMigrationState → List Call → Prop
  | _, [] => True
  | pendingMigrations, c :: calls =>
    Meets pendingMigrations c ∧
      AllMeet (processSinglePidFault pendingMigrations c).pendingMigrations calls

end Simplified

end FaultNode

end UbsEngine
