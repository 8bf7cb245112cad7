import UbsEngine.Fault.Handler
import UbsEngine.Library.Run

/-!
# Rounds

A round (`UbsEngine.Fault.processBorrowOutNodeFaultByPid`) collects, builds the tasks, looks for
tasks that are persisted and were not built again, decides, borrows for the new tasks, and has the
nodes carry out their plans. It fails when anything is left to be done, and is then repeated.
`UbsEngine.Fault.faultSystem` has the runs of rounds for one faulty lender.
-/

namespace UbsEngine

namespace Fault

open Mem

/-! ### The state store -/

/-- A change of the persisted tasks. Of a removal the store looks at the task only; the node is
that of the task it is meant for. -/
inductive StoreOp where
  | save (taskState : TaskPersistState)
  | remove (node taskId : string)
  deriving DecidableEq

namespace StoreOp

def taskId : StoreOp → string
  | save taskState => taskState.taskId
  | remove _ taskId => taskId

def node : StoreOp → string
  | save taskState => taskState.borrowInNodeId
  | remove node _ => node

end StoreOp

def saveTaskState (taskState : TaskPersistState) : List TaskPersistState → List TaskPersistState
  | [] => [taskState]
  | t :: rest => if t.taskId = taskState.taskId then taskState :: rest
      else t :: saveTaskState taskState rest

def removeCompletedTask (taskId : string) (store : List TaskPersistState) :
    List TaskPersistState :=
  store.filter (·.taskId ≠ taskId)

def StoreOp.apply (store : List TaskPersistState) : StoreOp → List TaskPersistState
  | save taskState => saveTaskState taskState store
  | remove _ taskId => removeCompletedTask taskId store

/-! ### The surroundings of a round -/

structure MemBorrowExecuteResult where
  ret : MpResult := MEM_POOLING_OK
  borrowIds : List string := []
  presentNumaId : List NumaId := []
  borrowedSizesKB : List Nat := []

/-- What becomes of a request: it is lost, or carried out and not answered, or answered. -/
inductive Dispatch where
  | lost
  | unanswered
  | answered
  deriving DecidableEq

/-- **The surroundings of a round.** Processes exit and come as they like: `alive` tells those of
the nodes when the persisted tasks are looked through. -/
structure RoundEnv where
  collect : CollectEnv
  containerOrder : Map.Iteration string (List PidMemInfo) := default
  alive : string → Pid → Bool := fun _ _ => true
  freeOrphan : string → Bool := fun _ => true
  persist : StoreOp → Bool := fun _ => true
  decision : DecisionEnv := {}
  waterMark : Bool := true
  borrow : string → PlanBorrowGroup → List string → MemBorrowExecuteResult := fun _ _ _ => {}
  borrowOrder : BySize (fun ref : (Nat × Nat) × Nat => ref.2) := default
  dispatch : string → Dispatch := fun _ => .answered
  exec : string → NodeExecEnv := fun _ => {}

/-! ### Tasks that have vanished -/

/-- The persisted tasks that were not built again although their node answered. -/
def isOrphan (context : OverCommitFaultContext) (nodePlans : List BorrowInNodePlan)
    (persistState : TaskPersistState) : Bool :=
  persistState.taskId ∉ nodePlans.flatMap (fun nodePlan => nodePlan.tasks.map (·.taskId)) ∧
    (context.nodeToPidMemInfos persistState.borrowInNodeId).isSome

/-- A task that has borrowed. -/
def TaskPersistState.holdsBorrow (persistState : TaskPersistState) : Bool :=
  .BORROWED ≤ persistState.phase ∧ persistState.newBorrowId ≠ []

/-- What comes of looking through the persisted tasks. -/
structure Reconciled where
  freed : List string := []
  ops : List StoreOp := []
  errRecords : List MpResult := []

def Reconciled.append (r r' : Reconciled) : Reconciled :=
  ⟨r.freed ++ r'.freed, r.ops ++ r'.ops, r.errRecords ++ r'.errRecords⟩

/-- The new borrowing of a vanished task is given back, and the task forgotten. -/
def reconcileOrphan (env : RoundEnv) (persistState : TaskPersistState) : Reconciled :=
  if persistState.holdsBorrow ∧ env.freeOrphan persistState.newBorrowId = false then
    { errRecords := [MEM_POOLING_FAULT_RETURN_MEM_ERROR] }
  else
    let op := StoreOp.remove persistState.borrowInNodeId persistState.taskId
    { freed := if persistState.holdsBorrow then [persistState.newBorrowId] else []
      ops := [op]
      errRecords := if env.persist op then [] else [MEM_POOLING_FAULT_RETURN_MEM_ERROR] }

def reconcileOrphanTasks (env : RoundEnv) (context : OverCommitFaultContext)
    (nodePlans : List BorrowInNodePlan) (store : List TaskPersistState) : Reconciled :=
  ((store.filter (isOrphan context nodePlans)).map (reconcileOrphan env)).foldl
    Reconciled.append {}

/-! ### Borrowing -/

/-- No error, and something borrowed. -/
def MemBorrowExecuteResult.ok (result : MemBorrowExecuteResult) : Bool :=
  result.ret = MEM_POOLING_OK ∧ result.borrowIds ≠ [] ∧ result.presentNumaId ≠ []

/-- **A group is borrowed for**, from the lender that was found, or else from any. -/
def borrowForGroup (env : RoundEnv) (node : string) (group : PlanBorrowGroup) :
    Except MpResult (string × NumaId × Nat) :=
  if env.waterMark = false then .error MEM_POOLING_FAULT_RESOURCE_COLLECT_ERROR
  else
    let first := env.borrow node group group.candidateLenderNodes
    let result := if first.ok = false ∧ group.candidateLenderNodes ≠ [] then
      env.borrow node group [] else first
    if result.ok then
      .ok (result.borrowIds.head?.getD [], result.presentNumaId.head?.getD 0,
        result.borrowedSizesKB.head?.getD (max group.demandKB MIN_BORROW_SIZE_KB))
    else .error (if result.ret ≠ MEM_POOLING_OK then result.ret
      else MEM_POOLING_FAULT_BORROW_MEM_ERROR)

/-- What is persisted of a task of a plan. -/
def persistStateOf (node : string) (task : MigrationTask) (phase : TaskPhase) :
    TaskPersistState where
  taskId := task.taskId
  borrowInNodeId := node
  phase := phase
  newBorrowId := task.newBorrowId
  newRemoteNumaId := task.newRemoteNumaId
  newBorrowSizeKB := task.newBorrowSizeKB
  oldBorrowIds := task.relatedBorrowIds
  pids := task.pids
  migrationSizeKB := task.migrationSizeKB

/-- What comes of borrowing. -/
structure Borrowed where
  plans : List FaultExecutePlan
  ops : List StoreOp := []
  errRecords : List MpResult := []

/-- The new tasks of a group. -/
def ofGroup (group : PlanBorrowGroup) (task : MigrationTask) : Bool :=
  isNew task ∧ task.taskId ∈ group.taskIds

/-- A task gets what was borrowed for it. -/
def MigrationTask.withBorrow (task : MigrationTask) (b : string × NumaId × Nat) : MigrationTask :=
  { task with
    phase := .BORROWED
    newBorrowId := b.1
    newRemoteNumaId := b.2.1
    newBorrowSizeKB := b.2.2 }

/-- One group is borrowed for. If that fails, its new tasks are given up for this round. -/
def borrowRef (env : RoundEnv) (s : Borrowed) (ref : Nat × Nat) : Borrowed :=
  match s.plans[ref.1]? with
  | none => s
  | some plan =>
    match plan.borrowGroups[ref.2]? with
    | none => s
    | some group =>
      match borrowForGroup env plan.borrowInNodeId group with
      | .error code => { s with
          plans := s.plans.set ref.1 { plan with
            tasks := plan.tasks.filter fun task => !ofGroup group task }
          errRecords := s.errRecords ++ [code] }
      | .ok b =>
        let ops := (plan.tasks.filter (ofGroup group)).map fun task =>
          StoreOp.save (persistStateOf plan.borrowInNodeId (task.withBorrow b) .BORROWED)
        { plans := s.plans.set ref.1 { plan with
            tasks := plan.tasks.map fun task =>
              if ofGroup group task then task.withBorrow b else task }
          ops := s.ops ++ ops
          errRecords := s.errRecords ++ (ops.filter fun op => !env.persist op).map fun _ =>
            MEM_POOLING_FAULT_RETURN_MEM_ERROR }

def borrowOrder (env : RoundEnv) (plans : List FaultExecutePlan) : List (Nat × Nat) :=
  (env.borrowOrder.run ((plans.zipIdx.filter (·.1.planType = .EXECUTE)).flatMap fun p =>
    (p.1.borrowGroups.zipIdx.filter fun q => 0 < q.1.demandKB ∧ q.1.taskIds ≠ []).map fun q =>
      ((p.2, q.2), q.1.demandKB))).map Prod.fst

/-- **The master borrows**, group by group, the largest demand first. -/
def serialBorrowOnMaster (env : RoundEnv) (plans : List FaultExecutePlan) : Borrowed :=
  (borrowOrder env plans).foldl (borrowRef env) { plans := plans }

/-! ### Sending the plans -/

/-- A plan that was sent, what came back, and what was done. -/
structure Sent where
  plan : FaultExecutePlan
  success : Bool
  errorCode : MpResult
  taskResults : List TaskExecuteResult := []
  freedBorrowIds : List string := []
  events : List NodeEvent := []

def dispatchNodePlan (env : RoundEnv) (plan : FaultExecutePlan) : Sent :=
  let run := pidExecuteRecvHandler (env.exec plan.borrowInNodeId) plan.tasks
    plan.directReturnBorrowIds
  match env.dispatch plan.borrowInNodeId with
  | .lost => { plan := plan, success := false, errorCode := MEM_POOLING_FAULT_IPC_ERROR }
  | .unanswered => {
      plan := plan
      success := false
      errorCode := MEM_POOLING_FAULT_IPC_ERROR
      events := run.2 }
  | .answered => {
      plan := plan
      success := run.1.retCode = MEM_POOLING_OK
      errorCode := run.1.retCode
      taskResults := run.1.taskResults
      freedBorrowIds := run.1.freedBorrowIds
      events := run.2 }

/-- What a task's result does to the store. -/
def resultOp (sent : Sent) (taskResult : TaskExecuteResult) : Option StoreOp :=
  (sent.plan.tasks.findRev? (·.taskId = taskResult.taskId)).bind fun task =>
    if taskResult.completedPhase = .COMPLETED then
      some (.remove sent.plan.borrowInNodeId task.taskId)
    else if .BORROWED ≤ taskResult.completedPhase then
      some (.save { persistStateOf sent.plan.borrowInNodeId task taskResult.completedPhase with
        freedOldBorrowIds := task.relatedBorrowIds.filter (· ∈ sent.freedBorrowIds) })
    else none

def resultOps (sent : Sent) : List StoreOp := sent.taskResults.filterMap (resultOp sent)

/-- The errors of a task's result: its own, and that of persisting it. -/
def resultErrors (env : RoundEnv) (sent : Sent) (taskResult : TaskExecuteResult) : List MpResult :=
  if taskResult.taskId ∈ sent.plan.tasks.map (·.taskId) then
    (if taskResult.retCode = MEM_POOLING_OK then [] else [taskResult.retCode]) ++
      ((resultOp sent taskResult).toList.filter fun op => !env.persist op).map
        fun _ => MEM_POOLING_FAULT_RETURN_MEM_ERROR
  else []

/-- The errors of a node. What is no error of the fault handling counts as one of borrowing. -/
def nodeErrors (env : RoundEnv) (sent : Sent) : List MpResult :=
  sent.taskResults.flatMap (resultErrors env sent) ++
    if sent.success then []
    else [if isDefinedFaultErrorCode sent.errorCode then sent.errorCode
      else MEM_POOLING_FAULT_BORROW_MEM_ERROR]

/-- The errors that the decisions have left marks of. -/
def planErrors (plan : FaultExecutePlan) : List MpResult :=
  (if plan.planType = .DEFER then [MEM_POOLING_FAULT_IPC_ERROR] else []) ++
    if plan.capacityShortage then [MEM_POOLING_FAULT_LACK_REMOTE_MEM_ERROR] else []

/-- A plan with something to be sent. -/
def FaultExecutePlan.dispatchable (plan : FaultExecutePlan) : Bool :=
  plan.planType = .EXECUTE ∧ ¬(plan.tasks = [] ∧ plan.directReturnBorrowIds = [])

/-- What comes of carrying out the plans. -/
structure Executed where
  plans : List FaultExecutePlan
  sent : List Sent := []
  ops : List StoreOp := []
  errRecords : List MpResult := []

/-- **Carrying out the plans.** That nothing is left to be sent is an error of its own. -/
def executeAll (env : RoundEnv) (plans : List FaultExecutePlan) : Executed :=
  let borrowed := serialBorrowOnMaster env plans
  let errRecords := plans.flatMap planErrors ++ borrowed.errRecords
  let sent := (borrowed.plans.filter (·.dispatchable)).map (dispatchNodePlan env)
  if sent = [] then
    { plans := borrowed.plans
      ops := borrowed.ops
      errRecords := if errRecords = [] then [MEM_POOLING_FAULT_IPC_ERROR] else errRecords }
  else
    { plans := borrowed.plans
      sent := sent
      ops := borrowed.ops ++ sent.flatMap resultOps
      errRecords := errRecords ++ sent.flatMap (nodeErrors env) }

/-! ### A round -/

/-- **What a round comes to**, stage by stage. -/
structure Round where
  context : Option OverCommitFaultContext := none
  nodePlans : List BorrowInNodePlan := []
  reconciled : Reconciled := {}
  decided : List FaultExecutePlan := []
  executed : Executed := { plans := [] }
  ret : MpResult

/-- All changes of the store in their order. -/
def Round.ops (r : Round) : List StoreOp := r.reconciled.ops ++ r.executed.ops

section Rounds

variable (sceneType : MpSceneType) (faultNodeId : string)

/-- **A round.** -/
def processBorrowOutNodeFaultByPid (env : RoundEnv) (store : List TaskPersistState) : Round :=
  match collect sceneType faultNodeId env.collect with
  | .error code => { ret := code }
  | .ok context =>
    if context.affectedBorrowInNodeIds = [] then { context := context, ret := MEM_POOLING_OK }
    else
      let nodePlans := buildTasks sceneType env.containerOrder context
      let reconciled := reconcileOrphanTasks env context nodePlans store
      let reconcileRet := if reconciled.errRecords = [] then MEM_POOLING_OK
        else MEM_POOLING_FAULT_RETURN_MEM_ERROR
      let hasPendingFaultNumas := nodePlans.any (·.hasPendingFaultNumas)
      if nodePlans = [] then
        { context := context, reconciled := reconciled, ret := reconcileRet }
      else if hasPendingFaultNumas ∧
          ∀ nodePlan ∈ nodePlans, nodePlan.tasks = [] ∧ nodePlan.directReturns = [] then
        { context := context
          nodePlans := nodePlans
          reconciled := reconciled
          ret := MEM_POOLING_FAULT_RESOURCE_COLLECT_ERROR }
      else
        let decided := makeDecisions env.decision (reconciled.ops.foldl StoreOp.apply store)
          nodePlans
        if decided = [] then
          { context := context
            nodePlans := nodePlans
            reconciled := reconciled
            ret := MEM_POOLING_FAULT_RESOURCE_COLLECT_ERROR }
        else
          let executed := executeAll env decided
          let ret := earliestFaultErrorCode executed.errRecords
          { context := context
            nodePlans := nodePlans
            reconciled := reconciled
            decided := decided
            executed := executed
            ret := if ret ≠ MEM_POOLING_OK then ret
              else if reconcileRet ≠ MEM_POOLING_OK then reconcileRet
              else if hasPendingFaultNumas then MEM_POOLING_FAULT_RESOURCE_COLLECT_ERROR
              else MEM_POOLING_OK }

end Rounds

/-! ### Runs -/

/-- **The state of a run**: the persisted tasks, and, for the record, the processes of the tasks
that have had a new borrowing, and those of which a migration onto it has been begun. -/
structure FaultState where
  store : List TaskPersistState := []
  carried : List (string × string × Pid) := []
  migrated : List (string × string × Pid) := []

/-- The processes of tasks that have borrowed, by borrowing and node. -/
def carriedBy (plans : List FaultExecutePlan) : List (string × string × Pid) :=
  plans.flatMap fun plan => (plan.tasks.filter fun task => !isNew task).flatMap fun task =>
    task.pids.map fun pid => (task.newBorrowId, plan.borrowInNodeId, pid)

/-- The processes whose migration is begun, by borrowing and node. -/
def migratedBy (sent : List Sent) : List (string × string × Pid) :=
  sent.flatMap fun s => s.events.filterMap fun event =>
    match event with
    | .migrate pid _ newBorrowId _ => some (newBorrowId, s.plan.borrowInNodeId, pid)
    | _ => none

section Runs

variable (sceneType : MpSceneType) (faultNodeId : string)

def FaultState.advance (s : FaultState) (env : RoundEnv) : FaultState :=
  let r := processBorrowOutNodeFaultByPid sceneType faultNodeId env s.store
  { store := r.ops.foldl StoreOp.apply s.store
    carried := s.carried ++ carriedBy r.executed.plans
    migrated := s.migrated ++ migratedBy r.executed.sent }

/-- **The runs of rounds** for one faulty lender, from the first round on. -/
def faultSystem : System FaultState RoundEnv :=
  System.ofFun {} (FaultState.advance sceneType faultNodeId)

/-- Any rounds, one after the other. -/
theorem run_faultSystem (envs : List RoundEnv) :
    (faultSystem sceneType faultNodeId).Run {}
      (System.trace (FaultState.advance sceneType faultNodeId) {} envs)
      (envs.foldl (FaultState.advance sceneType faultNodeId) {}) := by
  rw [faultSystem]
  exact System.run_trace _ _ _ _

end Runs

/-! ### A small cluster -/

/-- A node with one virtual machine, which uses the NUMA node 5. -/
def oneVm (pid : Pid) (usedKB : Nat) : NodeCollectEnv :=
  let vmInfos : List VmDomainInfo := [⟨pid, [], [⟨0, 4, 100, 0, true⟩, ⟨5, 4, usedKB, 0, false⟩]⟩]
  { vmInfos := vmInfos
    stableVmInfos := vmInfos
    processConfig := fun _ => some [⟨pid, MIG_MEMSIZE_MODE, 0, 1⟩] }

/-- A borrowing from the node 9, for the NUMA node 5. -/
def lentByNine (name node : string) : UbseNumaMemoryDebtInfo where
  name := name
  lentNodeId := [9]
  borrowNodeId := node
  remoteNumaId := 5

/-- The borrowings of one node. -/
def oneNode : DebtLedger where
  debtInfos := [lentByNine [97] [1]]

/-- Two borrowings of one node, for two NUMA nodes. -/
def twoNumas : DebtLedger where
  debtInfos := [lentByNine [97] [1], { lentByNine [98] [1] with remoteNumaId := 6 }]

/-- A node that lends what is needed, as the NUMA node 7. -/
def lendsAll (borrowId : string) : MemBorrowExecuteResult where
  borrowIds := [borrowId]
  presentNumaId := [7]
  borrowedSizesKB := [8192]

end Fault

end UbsEngine
