import UbsEngine.Fault.Collect

/-!
# Tasks and decisions

What is collected becomes, for each borrowing node, its migration tasks and the borrowings to be
given back at once (`UbsEngine.Fault.buildTasks`). The decisions
(`UbsEngine.Fault.makeDecisions`) resume the tasks that have been begun, and look for lenders for
the new ones: these are put into groups, a group is to be borrowed in one piece, and the capacity
of the cluster is given to the groups best fit first. A group that nobody can lend in one piece is
cut down to the tasks that fit; when none does, the plan is marked.
-/

namespace UbsEngine

namespace Fault

open Mem

/-! ### Building the tasks -/

def VM_PREFIX : string := [118, 109, 95]
def CONTAINER_PREFIX : string := [99, 111, 110, 116, 97, 105, 110, 101, 114, 95]
def PID_PREFIX : string := [112, 105, 100, 95]

def migrationSize (usages : List NumaMemUsage) : Nat := (usages.map (·.usedMemKB)).sum

/-- The task of a virtual machine. -/
def vmTask (borrowIds : List string) (info : PidMemInfo) : MigrationTask where
  taskId := VM_PREFIX ++ to_string info.pid.toNat
  pids := [info.pid]
  faultNumaUsages := info.faultNumaUsages
  migrationSizeKB := migrationSize info.faultNumaUsages
  localNumaIds := info.localNumaIds
  socketId := info.socketId
  hasSameSocketConstraint := info.bindType ≠ .BIND_MULTIPLE
  bindType := info.bindType
  relatedBorrowIds := borrowIds

def buildVmTasks (borrowIds : List string) (pidInfos : List PidMemInfo) : List MigrationTask :=
  pidInfos.map (vmTask borrowIds)

/-- A process without a container is on its own. -/
def containerKey (info : PidMemInfo) : string :=
  if info.instanceId = [] then PID_PREFIX ++ to_string info.pid.toNat else info.instanceId

def containerMap (pidInfos : List PidMemInfo) : Map string (List PidMemInfo) :=
  pidInfos.foldl (fun m info =>
    m.insert (containerKey info) ((m.lookup (containerKey info)).getD [] ++ [info])) ∅

def taskContainerId (instanceId : string) : string :=
  if PID_PREFIX <+: instanceId then [] else instanceId

/-- The task of a container. Of the constraints the last one counts. -/
def containerTask (borrowIds : List string) (instanceId : string) (infos : List PidMemInfo) :
    MigrationTask where
  taskId := CONTAINER_PREFIX ++
    if taskContainerId instanceId = [] then
      ((infos.head?.map fun info => to_string info.pid.toNat).getD [])
    else taskContainerId instanceId
  pids := infos.map (·.pid)
  containerId := taskContainerId instanceId
  faultNumaUsages := infos.flatMap (·.faultNumaUsages)
  migrationSizeKB := migrationSize (infos.flatMap (·.faultNumaUsages))
  localNumaIds := infos.foldl (fun localNumaIds info => info.localNumaIds.foldl
    (fun localNumaIds numaId => if numaId ∈ localNumaIds then localNumaIds
      else localNumaIds ++ [numaId]) localNumaIds) []
  socketId := infos.foldl (fun socketId info =>
    if socketId < 0 ∧ 0 ≤ info.socketId then info.socketId else socketId) (-1)
  hasSameSocketConstraint :=
    (infos.getLast?.map (·.bindType)).getD .BIND_INVALID ≠ .BIND_MULTIPLE
  bindType := (infos.getLast?.map (·.bindType)).getD .BIND_INVALID
  relatedBorrowIds := borrowIds

def aggregateContainerTasks (o : Map.Iteration string (List PidMemInfo)) (borrowIds : List string)
    (pidInfos : List PidMemInfo) : List MigrationTask :=
  (o.run (containerMap pidInfos)).map fun e => containerTask borrowIds e.1 e.2

section Build

variable (sceneType : MpSceneType) (o : Map.Iteration string (List PidMemInfo))
  (context : OverCommitFaultContext) (node : string)

/-- The processes that use faulty memory. -/
def affectedPidInfos : List PidMemInfo :=
  ((context.nodeToPidMemInfos node).getD []).filter (·.faultNumaUsages ≠ [])

/-- The faulty NUMA nodes that are dealt with in this round. -/
def effectiveFaultNumaIds : List NumaId :=
  (context.nodeToFaultNumaIds node).filter (· ∉ context.nodeToPendingFaultNumaIds node)

/-- The NUMA nodes that nobody uses are given back, each with its borrowings. -/
def directReturnTasks : List DirectReturnTask :=
  ((effectiveFaultNumaIds context node).filter fun numaId =>
    numaId ∉ (affectedPidInfos context node).flatMap fun info =>
      info.faultNumaUsages.map (·.numaId)).filterMap fun numaId =>
    if context.nodeToNumaBorrowIds node numaId = [] then none
    else some ⟨numaId, context.nodeToNumaBorrowIds node numaId⟩

/-- **The tasks of a node.** Each is to give back all borrowings of its node. -/
def nodeTasks : List MigrationTask :=
  match sceneType with
  | .CONTAINER_SCENE => aggregateContainerTasks o (context.nodeToBorrowIds node)
      (affectedPidInfos context node)
  | .VIRTUAL_SCENE => buildVmTasks (context.nodeToBorrowIds node) (affectedPidInfos context node)

/-- A node all of whose faulty NUMA nodes are pending has nothing to do. -/
def buildTasksForNode : BorrowInNodePlan where
  borrowInNodeId := node
  ubseReachable := context.nodeReachability node
  borrowUser := context.nodeToBorrowUser node
  hasPendingFaultNumas := context.nodeToFaultNumaIds node ≠ [] ∧
    context.nodeToPendingFaultNumaIds node ≠ []
  directReturns := directReturnTasks context node
  tasks := if effectiveFaultNumaIds context node = [] then [] else nodeTasks sceneType o context node

def buildTasks : List BorrowInNodePlan :=
  (context.affectedBorrowInNodeIds.map (buildTasksForNode sceneType o context)).filter fun plan =>
    plan.tasks ≠ [] ∨ plan.directReturns ≠ [] ∨ plan.hasPendingFaultNumas

end Build

/-! ### Orders by size -/

/-- Any order by size, the largest first. What is of equal size may come in any order. -/
structure BySize {α : Type} (size : α → Nat) where
  run : List α → List α
  perm : ∀ l, (run l).Perm l
  sorted : ∀ l, (run l).Pairwise fun a b => size b ≤ size a

instance {α : Type} (size : α → Nat) : Inhabited (BySize size) :=
  ⟨⟨List.insertionSort fun a b => size b ≤ size a, List.perm_insertionSort _, fun l =>
    have : Std.Total fun a b => size b ≤ size a := ⟨fun _ _ => Nat.le_total _ _⟩
    have : IsTrans α fun a b => size b ≤ size a := ⟨fun _ _ _ h h' => Nat.le_trans h' h⟩
    List.pairwise_insertionSort _ l⟩⟩

/-! ### Capacity -/

structure LenderNumaCapacity where
  nodeId : string
  numaId : NumaId
  socketId : Int
  lendableKB : Nat
  deriving DecidableEq

/-- Nothing less is borrowed. -/
def MIN_BORROW_SIZE_KB : Nat := 4 * 1024

def effectiveBorrowKB (demandKB : Nat) : Nat := max demandKB MIN_BORROW_SIZE_KB

/-- A NUMA node from which a group may borrow. -/
def PlanBorrowGroup.allows (group : PlanBorrowGroup) (borrowInNodeId : string)
    (cap : LenderNumaCapacity) : Bool :=
  cap.nodeId ≠ borrowInNodeId ∧
    (group.hasSameSocketConstraint → cap.socketId = group.constraintSocketId)

/-- The smallest NUMA node that fits, by its place. -/
def bestFit (snapshot : List LenderNumaCapacity) (borrowInNodeId : string)
    (group : PlanBorrowGroup) (needKB : Nat) : Option (Nat × LenderNumaCapacity) :=
  (snapshot.zipIdx.filter fun p => group.allows borrowInNodeId p.1 ∧ needKB ≤ p.1.lendableKB).foldl
    (fun best p =>
      match best with
      | none => some (p.2, p.1)
      | some b => if p.1.lendableKB < b.2.lendableKB then some (p.2, p.1) else some b) none

/-- A lender for a group, and what is left of the capacity. -/
def bestFitAssign (snapshot : List LenderNumaCapacity) (borrowInNodeId : string)
    (group : PlanBorrowGroup) (demandKB : Nat) : Option (List LenderNumaCapacity × string) :=
  let needKB := effectiveBorrowKB demandKB
  (bestFit snapshot borrowInNodeId group needKB).map fun best =>
    (snapshot.modify best.1 fun cap => { cap with lendableKB := cap.lendableKB - needKB },
      best.2.nodeId)

/-- What a group can borrow in one piece, 0 if it is less than is borrowed. -/
def maxSingleNumaCapacity (snapshot : List LenderNumaCapacity) (borrowInNodeId : string)
    (group : PlanBorrowGroup) : Nat :=
  let maxCapKB := ((snapshot.filter (group.allows borrowInNodeId)).map (·.lendableKB)).foldl max 0
  if maxCapKB < MIN_BORROW_SIZE_KB then 0 else maxCapKB

/-- Tasks are taken as long as they fit, the largest first. A task that does not is passed over. -/
def greedySelect (availableKB : Nat) : Nat → List MigrationTask → List MigrationTask
  | _, [] => []
  | accumulated, task :: rest =>
    if accumulated + task.migrationSizeKB ≤ availableKB then
      task :: greedySelect availableKB (accumulated + task.migrationSizeKB) rest
    else greedySelect availableKB accumulated rest

def greedySelectTasks (o : BySize MigrationTask.migrationSizeKB) (tasks : List MigrationTask)
    (availableKB : Nat) : List MigrationTask :=
  greedySelect availableKB 0 (o.run tasks)

/-! ### Groups -/

/-- What tasks are borrowed for together by: the constraint, and the local NUMA node. -/
def MigrationTask.groupKey (task : MigrationTask) : Bool × Int × NumaId :=
  (task.hasSameSocketConstraint, if task.hasSameSocketConstraint then task.socketId else -1,
    task.localNumaIds.head?.getD 0)

def PlanBorrowGroup.key (group : PlanBorrowGroup) : Bool × Int × NumaId :=
  (group.hasSameSocketConstraint, group.constraintSocketId, group.localNumaId)

def PlanBorrowGroup.add (group : PlanBorrowGroup) (task : MigrationTask) : PlanBorrowGroup :=
  { group with
    demandKB := group.demandKB + task.migrationSizeKB
    taskIds := group.taskIds ++ [task.taskId] }

def newGroup (task : MigrationTask) : PlanBorrowGroup where
  hasSameSocketConstraint := task.groupKey.1
  constraintSocketId := task.groupKey.2.1
  localNumaId := task.groupKey.2.2

/-- A task joins the group of its key, or begins it. -/
def joinGroup (groups : List PlanBorrowGroup) (task : MigrationTask) : List PlanBorrowGroup :=
  if task.groupKey ∈ groups.map (·.key) then
    groups.map fun group => if group.key = task.groupKey then group.add task else group
  else groups ++ [(newGroup task).add task]

/-- The tasks that nothing has been borrowed for. -/
def isNew (task : MigrationTask) : Bool := task.phase = .NONE

def buildBorrowGroups (tasks : List MigrationTask) : List PlanBorrowGroup :=
  (tasks.filter isNew).foldl joinGroup []

/-! ### Decisions -/

/-- **What the decisions are made by**: the capacity of the cluster, if it could be read, and the
orders. A group is known by its plan and its place there. -/
structure DecisionEnv where
  snapshot : Option (List LenderNumaCapacity) := some []
  taskOrder : BySize MigrationTask.migrationSizeKB := default
  groupOrder : BySize (fun ref : (Nat × Nat) × Nat => ref.2) := default

/-- The persisted state of a task. -/
def getTaskState (store : List TaskPersistState) (taskId : string) : Option TaskPersistState :=
  store.find? (·.taskId = taskId)

/-- A task that has been begun is resumed. -/
def mergeTask (store : List TaskPersistState) (task : MigrationTask) : MigrationTask :=
  match getTaskState store task.taskId with
  | none => { task with phase := .NONE }
  | some persistState =>
    if persistState.phase = .NONE then { task with phase := .NONE }
    else { task with
      phase := persistState.phase
      newBorrowId := persistState.newBorrowId
      newRemoteNumaId := persistState.newRemoteNumaId
      newBorrowSizeKB := persistState.newBorrowSizeKB }

/-- The plan of a node before anybody has been asked to lend. -/
def mergePlan (store : List TaskPersistState) (nodePlan : BorrowInNodePlan) :
    Option FaultExecutePlan :=
  if nodePlan.ubseReachable then
    let directReturnBorrowIds := (nodePlan.directReturns.flatMap (·.relatedBorrowIds)).dedup
    let tasks := nodePlan.tasks.map (mergeTask store)
    if tasks = [] ∧ directReturnBorrowIds = [] then none
    else some {
      borrowInNodeId := nodePlan.borrowInNodeId
      planType := .EXECUTE
      tasks := tasks
      borrowGroups := buildBorrowGroups tasks
      borrowUser := nodePlan.borrowUser
      directReturnBorrowIds := directReturnBorrowIds }
  else some {
    borrowInNodeId := nodePlan.borrowInNodeId
    planType := .DEFER
    borrowUser := nodePlan.borrowUser }

/-- New tasks are given up, without a mark. -/
def dropNewTasks (plan : FaultExecutePlan) : FaultExecutePlan :=
  if plan.planType = .EXECUTE then
    { plan with tasks := plan.tasks.filter fun task => !isNew task, borrowGroups := [] }
  else plan

/-- The tasks of a group. -/
def FaultExecutePlan.groupTasks (plan : FaultExecutePlan) (group : PlanBorrowGroup) :
    List MigrationTask :=
  plan.tasks.filter (·.taskId ∈ group.taskIds)

/-- What a group is cut down to. -/
def shrunkTasks (o : BySize MigrationTask.migrationSizeKB) (snapshot : List LenderNumaCapacity)
    (plan : FaultExecutePlan) (group : PlanBorrowGroup) : List MigrationTask :=
  greedySelectTasks o (plan.groupTasks group)
    (maxSingleNumaCapacity snapshot plan.borrowInNodeId group)

/-- A lender for what a group is cut down to. -/
def shrunkAssign (o : BySize MigrationTask.migrationSizeKB) (snapshot : List LenderNumaCapacity)
    (plan : FaultExecutePlan) (group : PlanBorrowGroup) :
    Option (List LenderNumaCapacity × string) :=
  let shrunkDemandKB := ((shrunkTasks o snapshot plan group).map (·.migrationSizeKB)).sum
  if 0 < shrunkDemandKB then
    bestFitAssign snapshot plan.borrowInNodeId group (effectiveBorrowKB shrunkDemandKB)
  else none

/-- **A group is given its lender**, in full, cut down, or not at all. -/
def assignGroup (o : BySize MigrationTask.migrationSizeKB) (snapshot : List LenderNumaCapacity)
    (plan : FaultExecutePlan) (g : Nat) (group : PlanBorrowGroup) :
    List LenderNumaCapacity × FaultExecutePlan :=
  match bestFitAssign snapshot plan.borrowInNodeId group group.demandKB with
  | some (snapshot', lender) =>
    (snapshot', { plan with
      borrowGroups := plan.borrowGroups.set g { group with candidateLenderNodes := [lender] } })
  | none =>
    let otherTasks := plan.tasks.filter (·.taskId ∉ group.taskIds)
    let selectedTasks := shrunkTasks o snapshot plan group
    match shrunkAssign o snapshot plan group with
    | some (snapshot', lender) =>
      (snapshot', { plan with
        tasks := otherTasks ++ selectedTasks
        borrowGroups := plan.borrowGroups.set g { group with
          demandKB := effectiveBorrowKB ((selectedTasks.map (·.migrationSizeKB)).sum)
          taskIds := selectedTasks.map (·.taskId)
          candidateLenderNodes := [lender] } })
    | none =>
      (snapshot, { plan with
        capacityShortage := true
        tasks := otherTasks
        borrowGroups := plan.borrowGroups.set g { group with
          demandKB := 0
          taskIds := []
          candidateLenderNodes := [] } })

/-- The group at its place is given its lender. -/
def assignRef (o : BySize MigrationTask.migrationSizeKB)
    (s : List LenderNumaCapacity × List FaultExecutePlan) (ref : Nat × Nat) :
    List LenderNumaCapacity × List FaultExecutePlan :=
  match s.2[ref.1]? with
  | none => s
  | some plan =>
    match plan.borrowGroups[ref.2]? with
    | none => s
    | some group =>
      ((assignGroup o s.1 plan ref.2 group).1,
        s.2.set ref.1 (assignGroup o s.1 plan ref.2 group).2)

/-- The groups that have a demand, the largest first. -/
def assignOrder (env : DecisionEnv) (plans : List FaultExecutePlan) : List (Nat × Nat) :=
  (env.groupOrder.run ((plans.zipIdx.filter (·.1.planType = .EXECUTE)).flatMap fun p =>
    (p.1.borrowGroups.zipIdx.filter (0 < ·.1.demandKB)).map fun q =>
      ((p.2, q.2), q.1.demandKB))).map Prod.fst

/-- **The decisions.** Without the capacity all new tasks are given up. -/
def makeDecisions (env : DecisionEnv) (store : List TaskPersistState)
    (nodePlans : List BorrowInNodePlan) : List FaultExecutePlan :=
  let plans := nodePlans.filterMap (mergePlan store)
  match env.snapshot with
  | none => plans.map dropNewTasks
  | some snapshot => ((assignOrder env plans).foldl (assignRef env.taskOrder) (snapshot, plans)).2

end Fault

end UbsEngine
