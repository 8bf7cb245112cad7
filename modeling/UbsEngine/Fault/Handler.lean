import UbsEngine.Fault.Plan

/-!
# A node carries out its plan

The borrowing node gets its tasks and the borrowings to be given back in one request
(`UbsEngine.Fault.pidExecuteRecvHandler`). It gives the latter back, migrates the processes of the
tasks that have been borrowed for and takes them out of the control of the faulty NUMA nodes, and
then gives back every old borrowing all of whose tasks *in the request* have come that far. What is
done to processes and borrowings is recorded, in order (`UbsEngine.Fault.NodeEvent`).
-/

namespace UbsEngine

namespace Fault

open Mem

/-- **A node as it carries out a request**: what it finds, and what succeeds. An old borrowing that
is not there any more counts as given back. To prepare a NUMA node is to allocate its huge pages
and to have its size registered. -/
structure NodeExecEnv where
  freeDirect : string → Bool := fun _ => true
  smapAvailable : Bool := true
  tryReserve : NumaId → Bool := fun _ => true
  prepare : NumaId → List MigrationTask → Bool := fun _ _ => true
  disable : string → Bool := fun _ => true
  managed : string → NumaId → Option (List ProcessPayload) := fun _ _ => none
  migrate : string → Pid → List NumaId → Bool := fun _ _ _ => true
  remove : string → NumaId → Bool := fun _ _ => true
  free : string → Bool := fun _ => true

/-- **What is done on a node.** A migration is of a process, from NUMA nodes to a new borrowing;
if it failed, some of the pages may have been moved. -/
inductive NodeEvent where
  | freed (borrowId : string)
  | migrate (pid : Pid) (srcNumaIds : List NumaId) (newBorrowId : string) (done : Bool)
  | removed (pids : List Pid) (numaId : NumaId)
  deriving DecidableEq

/-! ### Migrating a task -/

def MAX_NR_MIGOUT : Nat := 40

/-- The NUMA nodes that a process is to be migrated from. -/
def pidNumaScope (task : MigrationTask) (pid : Pid) : List NumaId :=
  ((task.faultNumaUsages.filter (·.pid = pid)).map (·.numaId)).dedup

def srcNumaIds (task : MigrationTask) : List NumaId :=
  (task.faultNumaUsages.map (·.numaId)).dedup

/-- The process is under control of the NUMA node, with a quota. -/
def hasQuota (env : NodeExecEnv) (task : MigrationTask) (pid : Pid) (numaId : NumaId) : Bool :=
  ((((env.managed task.taskId numaId).getD []).findRev? (·.pid = pid)).any (·.validQuota))

/-- **The NUMA nodes that a process is really migrated from.** -/
def payloadNumas (env : NodeExecEnv) (task : MigrationTask) (pid : Pid) : List NumaId :=
  ((pidNumaScope task pid).filter (hasQuota env task pid)).take MAX_NR_MIGOUT

/-- The processes of a task that use faulty memory. -/
def scopedPids (task : MigrationTask) : List Pid :=
  task.pids.filter fun pid => pidNumaScope task pid ≠ []

/-- Nothing to migrate from is a failure. -/
def migratesPid (env : NodeExecEnv) (task : MigrationTask) (pid : Pid) : Bool :=
  payloadNumas env task pid ≠ [] ∧ env.migrate task.taskId pid (payloadNumas env task pid)

def migrateEvents (env : NodeExecEnv) (task : MigrationTask) : List NodeEvent :=
  ((scopedPids task).filter fun pid => payloadNumas env task pid ≠ []).map fun pid =>
    .migrate pid (payloadNumas env task pid) task.newBorrowId
      (env.migrate task.taskId pid (payloadNumas env task pid))

/-- The processes that are taken out of the control of a NUMA node. -/
def numaPids (task : MigrationTask) (numaId : NumaId) : List Pid :=
  ((task.faultNumaUsages.filter (·.numaId = numaId)).map (·.pid)).dedup

/-- NUMA node by NUMA node, up to the first failure. -/
def removePids (env : NodeExecEnv) (task : MigrationTask) : List NumaId → TaskPhase × List NodeEvent
  | [] => (.REMOVED, [])
  | numaId :: rest =>
    if env.remove task.taskId numaId then
      ((removePids env task rest).1,
        .removed (numaPids task numaId) numaId :: (removePids env task rest).2)
    else (.MIGRATED, [])

/-- **A task is migrated**: a task that cannot be stays what it was, which is returned as
`NONE`. -/
def migrateSingleTask (env : NodeExecEnv) (task : MigrationTask) : TaskPhase × List NodeEvent :=
  if task.pids = [] ∨ task.faultNumaUsages = [] ∨ env.disable task.taskId = false then (.NONE, [])
  else if (∃ numaId ∈ srcNumaIds task, env.managed task.taskId numaId = none) ∨
      ∃ pid ∈ scopedPids task, migratesPid env task pid = false then
    (.NONE, migrateEvents env task)
  else
    ((removePids env task (srcNumaIds task)).1,
      migrateEvents env task ++ (removePids env task (srcNumaIds task)).2)

/-- **A task that was migrated before** is only taken out of control. -/
def removeSingleTaskFaultNumaManaged (env : NodeExecEnv) (task : MigrationTask) :
    TaskPhase × List NodeEvent :=
  if task.faultNumaUsages = [] ∨ env.disable task.taskId = false then (.MIGRATED, [])
  else removePids env task (srcNumaIds task)

/-! ### Groups by the new NUMA node -/

/-- What the new borrowings of a group come to. -/
def totalBorrowedKB (tasks : List MigrationTask) : Nat :=
  let borrowInfoById : Map string Nat := tasks.foldl (fun m task =>
    if task.newBorrowId = [] then m else m.insert task.newBorrowId task.newBorrowSizeKB) ∅
  (borrowInfoById.entries.map (·.2)).sum

/-- A group can be migrated: its new NUMA node is free, and ready. -/
def groupReady (env : NodeExecEnv) (newRemoteNumaId : NumaId) (tasks : List MigrationTask) : Bool :=
  env.tryReserve newRemoteNumaId ∧ totalBorrowedKB tasks ≠ 0 ∧ env.prepare newRemoteNumaId tasks

/-- What a task comes to in its group, with what is done. -/
def runTask (env : NodeExecEnv) (tasks : List MigrationTask) (task : MigrationTask) :
    TaskPhase × List NodeEvent :=
  match task.phase with
  | .BORROWED =>
    if groupReady env task.newRemoteNumaId (tasks.filter fun t =>
        t.phase = .BORROWED ∧ t.newRemoteNumaId = task.newRemoteNumaId) then
      if .BORROWED < (migrateSingleTask env task).1 then migrateSingleTask env task
      else (.BORROWED, (migrateSingleTask env task).2)
    else (.BORROWED, [])
  | .MIGRATED => removeSingleTaskFaultNumaManaged env task
  | phase => (phase, [])

/-- Nothing is migrated without the functions for it. -/
def advanceTask (env : NodeExecEnv) (tasks : List MigrationTask) (task : MigrationTask) :
    TaskPhase × List NodeEvent :=
  if env.smapAvailable then runTask env tasks task else (task.phase, [])

/-! ### Giving back -/

abbrev TaskPhases := Map string TaskPhase

/-- How far a task has come, `NONE` if it is not known. -/
def phaseOf (taskPhases : TaskPhases) (taskId : string) : TaskPhase :=
  (taskPhases.lookup taskId).getD .NONE

/-- The old borrowings that are given back: those of which all tasks of the request have been taken
out of control. -/
def returnable (tasks : List MigrationTask) (taskPhases : TaskPhases) : List string :=
  (tasks.flatMap (·.relatedBorrowIds)).dedup.filter fun borrowId =>
    ∀ task ∈ tasks, borrowId ∈ task.relatedBorrowIds →
      ¬phaseOf taskPhases task.taskId < .REMOVED

/-- **The conditional return.** A task whose old borrowings have all been given back is
completed. -/
def executeConditionalReturn (env : NodeExecEnv) (tasks : List MigrationTask)
    (taskPhases : TaskPhases) : TaskPhases × List string :=
  let freedIds := (returnable tasks taskPhases).filter env.free
  (tasks.foldl (fun taskPhases task =>
    if phaseOf taskPhases task.taskId < .REMOVED then taskPhases
    else if ∀ borrowId ∈ task.relatedBorrowIds, borrowId ∈ freedIds then
      taskPhases.insert task.taskId .COMPLETED
    else taskPhases) taskPhases, freedIds)

/-! ### The request -/

structure FaultPidExecuteResponse where
  retCode : MpResult := MEM_POOLING_OK
  taskResults : List TaskExecuteResult := []
  freedBorrowIds : List string := []
  deriving DecidableEq

/-- The code of a task, by where it has stopped. -/
def taskRetCode (phase : TaskPhase) : MpResult :=
  if phase = .COMPLETED then MEM_POOLING_OK
  else if .MIGRATED ≤ phase then MEM_POOLING_FAULT_RETURN_MEM_ERROR
  else MEM_POOLING_FAULT_MIGRATE_ERROR

/-- The phases after the migrations. -/
def advancedPhases (env : NodeExecEnv) (tasks : List MigrationTask) : TaskPhases :=
  Map.writeEach (fun _ => true) (fun e _ => e.2)
    (tasks.map fun task => (task.taskId, (advanceTask env tasks task).1)) ∅

/-- **A node carries out a request.** Migrations of different tasks do not see each other; they are
recorded one after the other. -/
def pidExecuteRecvHandler (env : NodeExecEnv) (tasks : List MigrationTask)
    (directReturnBorrowIds : List string) : FaultPidExecuteResponse × List NodeEvent :=
  let freedDirect := directReturnBorrowIds.filter env.freeDirect
  let directErrors := (directReturnBorrowIds.filter fun id => !env.freeDirect id).map
    fun _ => MEM_POOLING_FAULT_RETURN_MEM_ERROR
  let returned := executeConditionalReturn env tasks (advancedPhases env tasks)
  let taskResults := tasks.map fun task =>
    ({ taskId := task.taskId
       retCode := taskRetCode (phaseOf returned.1 task.taskId)
       completedPhase := phaseOf returned.1 task.taskId } : TaskExecuteResult)
  let errRecords := directErrors ++ (taskResults.map (·.retCode)).filter (· ≠ MEM_POOLING_OK)
  ({ retCode := earliestFaultErrorCode errRecords
     taskResults := taskResults
     freedBorrowIds := freedDirect ++ returned.2 },
    freedDirect.map .freed ++ tasks.flatMap (fun task => (advanceTask env tasks task).2) ++
      returned.2.map .freed)

end Fault

end UbsEngine
