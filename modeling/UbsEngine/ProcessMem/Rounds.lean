import UbsEngine.Library.Run
import UbsEngine.ProcessMem.ManagedPid
import Mathlib.Data.List.Sort

/-!
# Rounds of borrowing and their tasks

A round of borrowing takes a snapshot of the cache, works out of it how much more each process may
borrow, and fills the shortages of the local numas with what the processes give: an amount is
recorded as a slot in flight, and a task is started that creates the debt and migrates to it. The
rounds are serialized by a mutex. The tasks are not: they run next to the rounds and next to each
other, take their own slots out again when they fail, and split an amount that no node can lend
into two halves.

`UbsEngine.ProcessMem.borrowSystem` has a step for every critical section: a round and the tasks
hold the lock of the cache only for single changes, so that they can interleave at any of them.
-/

namespace UbsEngine

namespace ProcessMem

/-! ### Candidates -/

def MB_128 : Nat := 128

/-- `GetUbseBlockSizeBytes`; the block size of the node is in megabytes. -/
def getUbseBlockSizeBytes (blockSizeMb : Nat) : Nat :=
  (if blockSizeMb = 0 then MB_128 else blockSizeMb) * BYTES_PER_MB

def ceilAlignBlock (bytes blockBytes : Nat) : Nat :=
  if blockBytes = 0 then bytes else (bytes + blockBytes - 1) / blockBytes * blockBytes

def makeBoundNumaMask : Option NumaBindingInfo → BitVec 64
  | none => 0
  | some b =>
    if b.kind = .BIND ∨ b.kind = .INTERLEAVE then
      b.policyNodes.foldl (fun mask numaId =>
        if numaId < 64 then mask ||| BitVec.twoPow 64 numaId else mask) 0
    else 0

structure BorrowCandidate where
  pid : Int
  isChild : Bool
  hasActiveBorrow : Bool
  overCap : Bool
  lastMigrateTime : Nat
  actual : Nat
  canMigrate : Nat
  boundNumaMask : BitVec 64
  deriving DecidableEq, Repr

/-- What is still remote of a debt that is being returned. -/
def BorrowSlot.returningBytes (replaced : Finset String) (s : BorrowSlot) : Nat :=
  if s.status = .RETURNING ∧ s.debtId ∉ replaced then s.migratedBytes else 0

def BorrowState.inFlightReturn (b : BorrowState) : Nat :=
  (b.slots.map (·.returningBytes b.r2rReplacedDebts)).sum

/-- How much more a process may borrow, in whole blocks. -/
def ManagedPidEntry.canMigrate (blockSizeBytes : Nat) (e : ManagedPidEntry) : Nat :=
  let occupied := e.borrow.currentRemote + e.borrow.inFlightReturn
  let canMigrate := e.targetRemote - occupied - bytesIn .BORROWING e.borrow.slots
  if blockSizeBytes = 0 then canMigrate else canMigrate / blockSizeBytes * blockSizeBytes

def appendBorrowCandidate (blockSizeBytes : Nat) (pid : Int) (e : ManagedPidEntry) :
    Option BorrowCandidate :=
  if e.maxMemory = 0 ∨ e.remoteRatio ≤ 0 then none
  else if e.canMigrate blockSizeBytes = 0 then none
  else
    some
      { pid
        isChild := e.isChild
        hasActiveBorrow := e.borrow.slots.any fun s => s.status = .BORROWING
        overCap := e.vmRss > scaled e.maxMemory e.remoteRatio
        lastMigrateTime := e.lastMigrateTime
        actual := e.vmRss
        canMigrate := e.canMigrate blockSizeBytes
        boundNumaMask := makeBoundNumaMask e.numaBinding }

/-- In milliseconds. -/
def kCandidateStaleInterval : Nat := 60000

/-- The process has not migrated for a while. -/
def BorrowCandidate.stale (now : Nat) (c : BorrowCandidate) : Bool :=
  c.lastMigrateTime = 0 ∨ now - c.lastMigrateTime > kCandidateStaleInterval

/-- The order in which `BuildCandidates` sorts. -/
def BorrowCandidate.before (now : Nat) (a b : BorrowCandidate) : Bool :=
  if a.isChild ≠ b.isChild then !a.isChild
  else if a.hasActiveBorrow ≠ b.hasActiveBorrow then !a.hasActiveBorrow
  else if a.stale now ≠ b.stale now then a.stale now
  else if a.overCap ≠ b.overCap then a.overCap
  else a.actual > b.actual

/-- The candidates of a snapshot, before they are sorted. -/
def candidatesOf (blockSizeBytes : Nat) (cache : ManagedPidCache) : List BorrowCandidate :=
  cache.entries.filterMap fun e => appendBorrowCandidate blockSizeBytes e.1 e.2

/-- `BuildCandidates` may return these: all candidates, sorted. Those that are equal for the order
come in any order. -/
def buildCandidates (blockSizeBytes now : Nat) (cache : ManagedPidCache)
    (candidates : List BorrowCandidate) : Bool :=
  candidates.isPerm (candidatesOf blockSizeBytes cache) ∧
    candidates.Pairwise fun a b => b.before now a = false

/-! ### Filling a shortage -/

structure NumaShortage where
  srcNumaId : Int
  bytes : Nat
  deriving DecidableEq, Repr

/-- What a round works with. The samples of where the memory of a process is are taken once in a
round, and so are the numas from which a process is still migrating. -/
structure BorrowRoundCtx where
  candidates : List BorrowCandidate
  residence : Int → List (Nat × Nat)
  migratingSrcNumas : Int → Option (List Int)
  borrowedThisRound : Map Int Nat := ∅

/-- What is left of what a process may borrow. -/
def BorrowRoundCtx.canMigrateLeft (ctx : BorrowRoundCtx) (c : BorrowCandidate) : Nat :=
  c.canMigrate - (ctx.borrowedThisRound.lookup c.pid).getD 0

/-- `EstimateNumaResidentBytes`; there is no result if nothing is known. -/
def estimateNumaResidentBytes (srcNumaId : Int) (vmRssBytes : Nat) (dist : List (Nat × Nat)) :
    Option Nat :=
  let totalBytes := (dist.map (·.2)).sum
  let srcBytes := (dist.lookup srcNumaId.toNat).getD 0
  if srcNumaId < 0 ∨ totalBytes = 0 then none else some (vmRssBytes * srcBytes / totalBytes)

structure OrderedCandidate where
  candidate : BorrowCandidate
  /-- Without a bound, if there is none. -/
  capBytes : Option Nat
  bound : Bool
  stale : Bool
  deriving DecidableEq, Repr

/-- A candidate is asked for the shortage of a numa. -/
def orderedCandidate (blockSizeBytes now : Nat) (ctx : BorrowRoundCtx) (srcNumaId : Int)
    (c : BorrowCandidate) : Option OrderedCandidate :=
  let numaCheckable := 0 ≤ srcNumaId ∧ srcNumaId < 64
  let bound := decide numaCheckable && c.boundNumaMask.getLsbD srcNumaId.toNat
  if ctx.canMigrateLeft c = 0 then none
  else if c.boundNumaMask ≠ 0 ∧ numaCheckable ∧ bound = false then none
  else if numaCheckable ∧ (ctx.migratingSrcNumas c.pid).any fun numas => srcNumaId ∉ numas then none
  else
    let residency := estimateNumaResidentBytes srcNumaId c.actual (ctx.residence c.pid)
    let capBytes := if bound ∧ residency = none then some c.actual else residency
    let capBytes := capBytes.map fun bytes =>
      if blockSizeBytes = 0 then bytes else bytes / blockSizeBytes * blockSizeBytes
    if residency = some 0 ∨ capBytes = some 0 then none
    else some { candidate := c, capBytes, bound, stale := c.stale now }

/-- The order of the candidates for a shortage: who has most on the numa comes first. -/
def OrderedCandidate.before (a b : OrderedCandidate) : Bool :=
  if a.capBytes.getD 0 ≠ b.capBytes.getD 0 then a.capBytes.getD 0 > b.capBytes.getD 0
  else if a.bound ≠ b.bound then a.bound
  else if a.stale ≠ b.stale then a.stale
  else false

/-- The candidates for a shortage. The sort is stable. -/
def orderedCandidates (blockSizeBytes now : Nat) (ctx : BorrowRoundCtx) (srcNumaId : Int) :
    List OrderedCandidate :=
  (ctx.candidates.filterMap (orderedCandidate blockSizeBytes now ctx srcNumaId)).insertionSort
    fun a b => b.before a = false

/-- How much is borrowed for a candidate. -/
def borrowAmount (blockSizeBytes : Nat) (ctx : BorrowRoundCtx) (shortage : NumaShortage)
    (c : OrderedCandidate) : Nat :=
  let cap := min (ctx.canMigrateLeft c.candidate) shortage.bytes
  ceilAlignBlock ((c.capBytes.map (min cap)).getD cap) blockSizeBytes

/-! ### Tasks -/

/-- How far a task has come. -/
inductive TaskPhase
  | queued
  /-- The idle capacity suffices; the lock of the process is held. -/
  | reusing
  /-- `CreateNumaDebt`. -/
  | creating
  | committing (created : CreatedDebtInfo) (attempt : Nat)
  /-- `FailBorrowAbort`. -/
  | aborting
  /-- The idle capacity has been used, and the slot is not needed. -/
  | finishing
  /-- The time of the migration is still to be noted. -/
  | migrated
  /-- The halves that are still to be recorded, and those that have been. -/
  | splitting (rest : List Nat) (chunks : List (Nat × String))
  deriving DecidableEq, Repr

/-- A run of `AsyncBorrowAndMigrate`. -/
structure BorrowTask where
  debtId : String
  pid : Int
  need : Nat
  srcNumaId : Int
  phase : TaskPhase := .queued
  deriving DecidableEq, Repr

/-- What a task does next. -/
inductive TaskEvent
  | checkIdle
  | fillIdle
  /-- The debt has been created, or the creation has failed, maybe for the reason that no node can
  lend as much. -/
  | created (created : CreatedDebtInfo)
  | createFailed (sizeExceedsLend : Bool)
  | commit (migrateRet : MigrateRet)
  | removeSlot
  | noteTime (now : Nat)
  | recordHalf (debtId : String) (now : Nat)
  | dispatch
  deriving DecidableEq, Repr

def kMaxConflictRetry : Nat := 10

namespace BorrowTask

variable (t : BorrowTask)

/-- The amount that `SplitBorrowIntoChunks` splits off first. -/
def firstHalf (blockSizeBytes : Nat) : Nat := t.need / blockSizeBytes / 2 * blockSizeBytes

/-- What is left of a task whose debt cannot be created. -/
def split (blockSizeBytes : Nat) (sizeExceedsLend : Bool) : List BorrowTask :=
  if sizeExceedsLend ∧ blockSizeBytes ≠ 0 ∧ ¬t.need < 2 * blockSizeBytes then
    [{ t with
        phase := .splitting [t.firstHalf blockSizeBytes, t.need - t.firstHalf blockSizeBytes] [] }]
  else []

/-- What is migrated to the new debt. -/
def increments (created : CreatedDebtInfo) : List (Int × Nat) := [(created.remoteNumaId, t.need)]

/-- What is left of a task after an attempt to commit. -/
def afterCommit (created : CreatedDebtInfo) (attempt : Nat) :
    Option AtomicMigrateResult → List BorrowTask
  | some .kOk => [{ t with phase := .migrated }]
  | some .kVanish => []
  | some .kFaultNoMigrate => []
  | some .kFail => [{ t with phase := .aborting }]
  | none =>
    if attempt < kMaxConflictRetry then [{ t with phase := .committing created (attempt + 1) }]
    else [{ t with phase := .aborting }]

/-- A step of a task: the cache afterwards, and what the task has become. -/
def step (blockSizeBytes : Nat) (cache : ManagedPidCache) :
    TaskPhase → TaskEvent → Option (ManagedPidCache × List BorrowTask)
  | .queued, .checkIdle =>
    let reuse := (cache.lookup t.pid).any fun e =>
      canReuseIdleSlotCapacity t.debtId t.need t.srcNumaId e.borrow
    some (cache, [{ t with phase := if reuse then .reusing else .creating }])
  | .reusing, .fillIdle =>
    match cache.lookup t.pid with
    | none => some (cache, [{ t with phase := .creating }])
    | some e =>
      let rest := (ProcessMem.fillIdle t.srcNumaId t.need e.borrow.slots).1
      some (cache.change t.pid (reuseIdleSlotCapacity t.need t.srcNumaId),
        if rest = 0 then [{ t with need := 0, phase := .finishing }]
        else [{ t with need := rest, phase := .creating }])
  | .creating, .created created => some (cache, [{ t with phase := .committing created 0 }])
  | .creating, .createFailed sizeExceedsLend =>
    some (cache.change t.pid (removeSlotFinalize t.debtId), t.split blockSizeBytes sizeExceedsLend)
  | .committing created attempt, .commit migrateRet =>
    match cache.lookup t.pid with
    | none => some (cache, [{ t with phase := .aborting }])
    | some e =>
      let r := commitBorrowAndMigrate t.debtId created (t.increments created) migrateRet
        e.toPidBorrow
      some (cache.change t.pid fun _ => r.2, t.afterCommit created attempt r.1)
  | .aborting, .removeSlot => some (cache.change t.pid (removeSlotFinalize t.debtId), [])
  | .finishing, .removeSlot =>
    some (cache.change t.pid (removeSlotFinalize t.debtId), [{ t with phase := .migrated }])
  | .migrated, .noteTime now =>
    some (Map.modify cache t.pid fun e => { e with lastMigrateTime := now }, [])
  | .splitting (amount :: rest) chunks, .recordHalf debtId now =>
    if t.pid ∈ cache then
      some (cache.change t.pid (recordPendingBorrow debtId amount t.srcNumaId now),
        [{ t with phase := .splitting rest (chunks ++ [(amount, debtId)]) }])
    else some (cache, [{ t with phase := .splitting [] chunks }])
  | .splitting [] chunks, .dispatch =>
    some (cache, chunks.map fun c => { t with need := c.1, debtId := c.2, phase := .queued })
  | _, _ => none

/-- These are done under the lock of the process. -/
def needsPidLock : TaskEvent → Bool
  | .checkIdle => true
  | .commit _ => true
  | _ => false

end BorrowTask

/-! ### The system -/

inductive RoundPhase
  | idle
  /-- The processes whose slots are still to be checked. -/
  | timingOut (pids : List Int)
  | borrowing (ctx : BorrowRoundCtx) (shortages : List NumaShortage)
  | filling (ctx : BorrowRoundCtx) (shortages : List NumaShortage) (shortage : NumaShortage)
    (ordered : List OrderedCandidate)

structure DecisionState where
  cache : ManagedPidCache
  round : RoundPhase := .idle
  tasks : List BorrowTask := []

inductive DecisionEvent
  | startTimer
  | checkTimeouts (timeoutPer128MbMs now : Nat)
  | collect (candidates : List BorrowCandidate) (shortages : List NumaShortage)
    (residence : Int → List (Nat × Nat)) (migratingSrcNumas : Int → Option (List Int)) (now : Nat)
  | beginFill (executorReady : Bool) (now : Nat)
  | fillNext (debtId : String) (now : Nat)
  | endRound
  | task (i : Nat) (event : TaskEvent)

namespace DecisionState

variable (s : DecisionState)

/-- No task holds the lock of a process. -/
def pidUnlocked (pid : Int) : Bool := s.tasks.all fun t => !(t.pid = pid && t.phase = .reusing)

/-- The processes that `CheckTimeouts` looks at. -/
def timeoutPids : List Int :=
  (s.cache.entries.filter fun e => e.2.borrow.slots ≠ []).map (·.1)

/-- One turn of the loop of `FillNumaShortage`. -/
def fillNext (blockSizeBytes : Nat) (ctx : BorrowRoundCtx) (shortages : List NumaShortage)
    (shortage : NumaShortage) (debtId : String) (now : Nat) :
    List OrderedCandidate → DecisionState
  | [] => { s with round := .borrowing ctx shortages }
  | c :: ordered =>
    if shortage.bytes = 0 then { s with round := .borrowing ctx shortages }
    else if ctx.canMigrateLeft c.candidate = 0 then
      { s with round := .filling ctx shortages shortage ordered }
    else
      let amount := borrowAmount blockSizeBytes ctx shortage c
      let pid := c.candidate.pid
      if amount = 0 then { s with round := .borrowing ctx shortages }
      else if pid ∈ s.cache then
        let borrowed := (ctx.borrowedThisRound.lookup pid).getD 0
        { cache := s.cache.change pid (recordPendingBorrow debtId amount shortage.srcNumaId now)
          round := .filling
            { ctx with borrowedThisRound := ctx.borrowedThisRound.insert pid (borrowed + amount) }
            shortages { shortage with bytes := shortage.bytes - amount } ordered
          tasks := s.tasks ++ [{ debtId, pid, need := amount, srcNumaId := shortage.srcNumaId }] }
      else { s with round := .filling ctx shortages shortage ordered }

/-- A round takes its snapshot. -/
def collect (blockSizeBytes : Nat) (candidates : List BorrowCandidate)
    (shortages : List NumaShortage) (residence : Int → List (Nat × Nat))
    (migratingSrcNumas : Int → Option (List Int)) (now : Nat) : Option DecisionState :=
  if buildCandidates blockSizeBytes now s.cache candidates then
    some { s with round := .borrowing { candidates, residence, migratingSrcNumas } shortages }
  else none

/-- A step of a round, which holds the mutex of the rounds. -/
def roundStep (blockSizeBytes : Nat) : RoundPhase → DecisionEvent → Option DecisionState
  | .idle, .startTimer => some { s with round := .timingOut s.timeoutPids }
  | .timingOut (pid :: pids), .checkTimeouts timeoutPer128MbMs now =>
    some
      { s with
        cache := s.cache.change pid (ProcessMem.checkTimeouts timeoutPer128MbMs now)
        round := .timingOut pids }
  | .idle, .collect candidates shortages residence migratingSrcNumas now =>
    s.collect blockSizeBytes candidates shortages residence migratingSrcNumas now
  | .timingOut [], .collect candidates shortages residence migratingSrcNumas now =>
    s.collect blockSizeBytes candidates shortages residence migratingSrcNumas now
  | .timingOut [], .endRound => some { s with round := .idle }
  | .borrowing _ [], .endRound => some { s with round := .idle }
  | .borrowing ctx (shortage :: shortages), .beginFill executorReady now =>
    some
      { s with
        round :=
          if shortage.bytes = 0 ∨ executorReady = false then .borrowing ctx shortages
          else .filling ctx shortages shortage
            (orderedCandidates blockSizeBytes now ctx shortage.srcNumaId) }
  | .filling ctx shortages shortage ordered, .fillNext debtId now =>
    some (s.fillNext blockSizeBytes ctx shortages shortage debtId now ordered)
  | _, _ => none

/-- A step of a task. What it becomes is put behind the other tasks. -/
def taskStep (blockSizeBytes : Nat) (i : Nat) (event : TaskEvent) : Option DecisionState :=
  match s.tasks[i]? with
  | none => none
  | some t =>
    if BorrowTask.needsPidLock event && !s.pidUnlocked t.pid then none
    else (t.step blockSizeBytes s.cache t.phase event).map fun r =>
      { s with cache := r.1, tasks := s.tasks.eraseIdx i ++ r.2 }

def step (blockSizeBytes : Nat) : DecisionEvent → Option DecisionState
  | .task i event => s.taskStep blockSizeBytes i event
  | event => s.roundStep blockSizeBytes s.round event

end DecisionState

/-- **The rounds and their tasks**, on a node with blocks of a size. At the start there is no round
and no task. -/
def borrowSystem (blockSizeMb : Nat) : System DecisionState DecisionEvent where
  init s := s.round = .idle ∧ s.tasks = []
  step s event s' := s.step (getUbseBlockSizeBytes blockSizeMb) event = some s'

end ProcessMem

end UbsEngine
