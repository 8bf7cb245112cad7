import UbsEngine.FaultWire.Stream

/-!
# The messages of a fault round

The master asks a node which processes use the faulty NUMA nodes, and has it carry out a plan. The
vectors of usages, tasks, results and processes are checked against a limit when they are read, and
only then. Each message survives up to these limits (`UbsEngine.FaultWire.Streamed.exact`).
-/

namespace UbsEngine

namespace FaultWire

open Packed Streamed

/-! ### Limits -/

def MAX_NUMA_USAGES_PER_INFO : Nat := 1024
def MAX_TASKS_PER_REQUEST : Nat := 10000
def MAX_TASK_RESULTS_PER_RESPONSE : Nat := 10000
def MAX_PID_INFOS_PER_RESPONSE : Nat := 100000
def MAX_TASK_STATES_PER_NODE : Nat := 10000

/-- Enumeration classes are sent as their numbers, and any number is a value. -/
abbrev NumaBindType := UInt32
abbrev TaskPhase := UInt32
abbrev MpSceneType := UInt32

/-- The vector of a limited count. -/
def Limited (bound : Nat) {α : Type} [Streamed α] (v : Vec α) : Prop :=
  v.size ≤ bound ∧ ∀ a ∈ v.1, Within a

theorem exact_limited (bound : Nat) {α : Type} [Streamed α] (v : Vec α) :
    Exact (readVecUpTo bound read) (writeVec write v) v (Limited bound v) :=
  exact_readVecUpTo bound v fun a _ => Streamed.exact a

/-! ### Usages -/

structure NumaMemUsage where
  pid : Int32
  numaId : UInt16
  isLocal : Bool
  socketId : Int16
  pageSizeKB : UInt64
  usedMemKB : UInt64
  deriving DecidableEq

def numaMemUsageSerialization (usage : NumaMemUsage) : List UInt8 :=
  write usage.numaId ++ (write usage.isLocal ++ (write usage.socketId ++
    (write usage.pageSizeKB ++ (write usage.usedMemKB ++ write usage.pid))))

def numaMemUsageDeserialization : Reader MpError NumaMemUsage := do
  let numaId ← read
  let isLocal ← read
  let socketId ← read
  let pageSizeKB ← read
  let usedMemKB ← read
  let pid ← read
  pure { pid, numaId, isLocal, socketId, pageSizeKB, usedMemKB }

instance : Streamed NumaMemUsage where
  write := numaMemUsageSerialization
  read := numaMemUsageDeserialization
  Within _ := True
  exact usage := by
    refine Exact.congr (.bind (Streamed.exact usage.numaId) (.bind (Streamed.exact usage.isLocal)
      (.bind (Streamed.exact usage.socketId) (.bind (Streamed.exact usage.pageSizeKB)
        (.bind (Streamed.exact usage.usedMemKB) (.map _ (Streamed.exact usage.pid))))))) ?_
    simp

@[simp] theorem within_usage (usage : NumaMemUsage) : Within usage ↔ True := .rfl

theorem limited_usages (v : Vec NumaMemUsage) :
    Limited MAX_NUMA_USAGES_PER_INFO v ↔ v.size ≤ MAX_NUMA_USAGES_PER_INFO :=
  and_iff_left fun _ _ => trivial

/-! ### Queries -/

structure FaultPidQueryRequest where
  sceneType : MpSceneType
  faultNumaIds : Vec UInt16
  deriving DecidableEq

def faultPidQueryRequestSerialization (req : FaultPidQueryRequest) : List UInt8 :=
  write req.sceneType ++ write req.faultNumaIds

def faultPidQueryRequestDeserialization : Reader MpError FaultPidQueryRequest := do
  let sceneType ← read
  let faultNumaIds ← read
  pure { sceneType, faultNumaIds }

instance : Streamed FaultPidQueryRequest where
  write := faultPidQueryRequestSerialization
  read := faultPidQueryRequestDeserialization
  Within _ := True
  exact req := by
    refine Exact.congr (.bind (Streamed.exact req.sceneType)
      (.map _ (Streamed.exact req.faultNumaIds))) ?_
    simp

structure PidMemInfo where
  pid : Int32
  instanceId : string
  nodeId : string
  faultNumaUsages : Vec NumaMemUsage
  localNumaIds : Vec UInt16
  socketId : Int16
  bindType : NumaBindType
  deriving DecidableEq

/-- The texts and the usages are not too long. -/
structure PidMemInfo.Within (info : PidMemInfo) : Prop where
  instanceId : info.instanceId.size ≤ MAX_STRING_LEN
  nodeId : info.nodeId.size ≤ MAX_STRING_LEN
  faultNumaUsages : info.faultNumaUsages.size ≤ MAX_NUMA_USAGES_PER_INFO

def pidMemInfoSerialization (info : PidMemInfo) : List UInt8 :=
  write info.pid ++ (write info.instanceId ++ (write info.nodeId ++
    (writeVec write info.faultNumaUsages ++ (write info.localNumaIds ++
      (write info.socketId ++ write info.bindType)))))

def pidMemInfoDeserialization : Reader MpError PidMemInfo := do
  let pid ← read
  let instanceId ← read
  let nodeId ← read
  let faultNumaUsages ← readVecUpTo MAX_NUMA_USAGES_PER_INFO read
  let localNumaIds ← read
  let socketId ← read
  let bindType ← read
  pure { pid, instanceId, nodeId, faultNumaUsages, localNumaIds, socketId, bindType }

instance : Streamed PidMemInfo where
  write := pidMemInfoSerialization
  read := pidMemInfoDeserialization
  Within := PidMemInfo.Within
  exact info := by
    refine Exact.congr (.bind (Streamed.exact info.pid) (.bind (Streamed.exact info.instanceId)
      (.bind (Streamed.exact info.nodeId) (.bind (exact_limited _ info.faultNumaUsages)
        (.bind (Streamed.exact info.localNumaIds) (.bind (Streamed.exact info.socketId)
          (.map _ (Streamed.exact info.bindType)))))))) ?_
    simp only [within_string, limited_usages, within_int32, within_vec_uint16, within_int16,
      within_uint32, true_and, and_true]
    exact ⟨fun ⟨hinstance, hnode, husages⟩ => ⟨hinstance, hnode, husages⟩,
      fun h => ⟨h.instanceId, h.nodeId, h.faultNumaUsages⟩⟩

structure FaultPidQueryResponse where
  retCode : UInt32
  pidMemDistribution : Vec PidMemInfo
  pendingFaultNumaIds : Vec UInt16
  deriving DecidableEq

def faultPidQueryResponseSerialization (resp : FaultPidQueryResponse) : List UInt8 :=
  write resp.retCode ++ (writeVec write resp.pidMemDistribution ++ write resp.pendingFaultNumaIds)

def faultPidQueryResponseDeserialization : Reader MpError FaultPidQueryResponse := do
  let retCode ← read
  let pidMemDistribution ← readVecUpTo MAX_PID_INFOS_PER_RESPONSE read
  let pendingFaultNumaIds ← read
  pure { retCode, pidMemDistribution, pendingFaultNumaIds }

instance : Streamed FaultPidQueryResponse where
  write := faultPidQueryResponseSerialization
  read := faultPidQueryResponseDeserialization
  Within resp := Limited MAX_PID_INFOS_PER_RESPONSE resp.pidMemDistribution
  exact resp := by
    refine Exact.congr (.bind (Streamed.exact resp.retCode)
      (.bind (exact_limited _ resp.pidMemDistribution)
        (.map _ (Streamed.exact resp.pendingFaultNumaIds)))) ?_
    simp only [within_uint32, within_vec_uint16, true_and, and_true]

/-! ### Executions -/

structure MigrationTask where
  taskId : string
  pids : Vec Int32
  containerId : string
  faultNumaUsages : Vec NumaMemUsage
  migrationSizeKB : UInt64
  localNumaIds : Vec UInt16
  socketId : Int16
  hasSameSocketConstraint : Bool
  bindType : NumaBindType
  relatedBorrowIds : Vec string
  phase : TaskPhase
  newBorrowId : string
  newRemoteNumaId : UInt16
  newBorrowSizeKB : UInt64
  deriving DecidableEq

/-- The texts and the usages are not too long. The usages of a container are those of all its
processes. -/
structure MigrationTask.Within (task : MigrationTask) : Prop where
  taskId : task.taskId.size ≤ MAX_STRING_LEN
  containerId : task.containerId.size ≤ MAX_STRING_LEN
  faultNumaUsages : task.faultNumaUsages.size ≤ MAX_NUMA_USAGES_PER_INFO
  relatedBorrowIds : ∀ borrowId ∈ task.relatedBorrowIds.1, borrowId.size ≤ MAX_STRING_LEN
  newBorrowId : task.newBorrowId.size ≤ MAX_STRING_LEN

def migrationTaskSerialization (task : MigrationTask) : List UInt8 :=
  write task.taskId ++ (write task.pids ++ (write task.containerId ++
    (writeVec write task.faultNumaUsages ++ (write task.migrationSizeKB ++
      (write task.localNumaIds ++ (write task.socketId ++ (write task.hasSameSocketConstraint ++
        (write task.bindType ++ (write task.relatedBorrowIds ++ (write task.phase ++
          (write task.newBorrowId ++ (write task.newRemoteNumaId ++
            write task.newBorrowSizeKB))))))))))))

def migrationTaskDeserialization : Reader MpError MigrationTask := do
  let taskId ← read
  let pids ← read
  let containerId ← read
  let faultNumaUsages ← readVecUpTo MAX_NUMA_USAGES_PER_INFO read
  let migrationSizeKB ← read
  let localNumaIds ← read
  let socketId ← read
  let hasSameSocketConstraint ← read
  let bindType ← read
  let relatedBorrowIds ← read
  let phase ← read
  let newBorrowId ← read
  let newRemoteNumaId ← read
  let newBorrowSizeKB ← read
  pure {
    taskId, pids, containerId, faultNumaUsages, migrationSizeKB, localNumaIds, socketId,
    hasSameSocketConstraint, bindType, relatedBorrowIds, phase, newBorrowId, newRemoteNumaId,
    newBorrowSizeKB }

instance : Streamed MigrationTask where
  write := migrationTaskSerialization
  read := migrationTaskDeserialization
  Within := MigrationTask.Within
  exact task := by
    refine Exact.congr (.bind (Streamed.exact task.taskId) (.bind (Streamed.exact task.pids)
      (.bind (Streamed.exact task.containerId) (.bind (exact_limited _ task.faultNumaUsages)
        (.bind (Streamed.exact task.migrationSizeKB) (.bind (Streamed.exact task.localNumaIds)
          (.bind (Streamed.exact task.socketId)
            (.bind (Streamed.exact task.hasSameSocketConstraint)
              (.bind (Streamed.exact task.bindType) (.bind (Streamed.exact task.relatedBorrowIds)
                (.bind (Streamed.exact task.phase) (.bind (Streamed.exact task.newBorrowId)
                  (.bind (Streamed.exact task.newRemoteNumaId)
                    (.map _ (Streamed.exact task.newBorrowSizeKB))))))))))))))) ?_
    simp only [within_string, limited_usages, within_vec_int32, within_uint64, within_vec_uint16,
      within_int16, within_bool, within_uint32, within_uint16, true_and, and_true]
    exact ⟨fun ⟨hid, hcontainer, husages, hrelated, hnew⟩ =>
        ⟨hid, hcontainer, husages, hrelated, hnew⟩,
      fun h => ⟨h.taskId, h.containerId, h.faultNumaUsages, h.relatedBorrowIds, h.newBorrowId⟩⟩

structure FaultPidExecuteRequest where
  faultNodeId : string
  tasks : Vec MigrationTask
  directReturnBorrowIds : Vec string
  deriving DecidableEq

structure FaultPidExecuteRequest.Within (req : FaultPidExecuteRequest) : Prop where
  faultNodeId : req.faultNodeId.size ≤ MAX_STRING_LEN
  tasks : Limited MAX_TASKS_PER_REQUEST req.tasks
  directReturns : ∀ borrowId ∈ req.directReturnBorrowIds.1, borrowId.size ≤ MAX_STRING_LEN

def faultPidExecuteRequestSerialization (req : FaultPidExecuteRequest) : List UInt8 :=
  write req.faultNodeId ++ (writeVec write req.tasks ++ write req.directReturnBorrowIds)

def faultPidExecuteRequestDeserialization : Reader MpError FaultPidExecuteRequest := do
  let faultNodeId ← read
  let tasks ← readVecUpTo MAX_TASKS_PER_REQUEST read
  let directReturnBorrowIds ← read
  pure { faultNodeId, tasks, directReturnBorrowIds }

instance : Streamed FaultPidExecuteRequest where
  write := faultPidExecuteRequestSerialization
  read := faultPidExecuteRequestDeserialization
  Within := FaultPidExecuteRequest.Within
  exact req := by
    refine Exact.congr (.bind (Streamed.exact req.faultNodeId)
      (.bind (exact_limited _ req.tasks) (.map _ (Streamed.exact req.directReturnBorrowIds)))) ?_
    exact ⟨fun ⟨hnode, htasks, hreturns⟩ => ⟨hnode, htasks, hreturns⟩,
      fun h => ⟨h.faultNodeId, h.tasks, h.directReturns⟩⟩

structure TaskExecuteResult where
  taskId : string
  retCode : UInt32
  completedPhase : TaskPhase
  deriving DecidableEq

def taskExecuteResultSerialization (result : TaskExecuteResult) : List UInt8 :=
  write result.taskId ++ (write result.retCode ++ write result.completedPhase)

def taskExecuteResultDeserialization : Reader MpError TaskExecuteResult := do
  let taskId ← read
  let retCode ← read
  let completedPhase ← read
  pure { taskId, retCode, completedPhase }

instance : Streamed TaskExecuteResult where
  write := taskExecuteResultSerialization
  read := taskExecuteResultDeserialization
  Within result := result.taskId.size ≤ MAX_STRING_LEN
  exact result := by
    refine Exact.congr (.bind (Streamed.exact result.taskId) (.bind (Streamed.exact result.retCode)
      (.map _ (Streamed.exact result.completedPhase)))) ?_
    simp only [within_string, within_uint32, and_true]

structure FaultPidExecuteResponse where
  retCode : UInt32
  taskResults : Vec TaskExecuteResult
  freedBorrowIds : Vec string
  deriving DecidableEq

structure FaultPidExecuteResponse.Within (resp : FaultPidExecuteResponse) : Prop where
  taskResults : Limited MAX_TASK_RESULTS_PER_RESPONSE resp.taskResults
  freedBorrowIds : ∀ borrowId ∈ resp.freedBorrowIds.1, borrowId.size ≤ MAX_STRING_LEN

def faultPidExecuteResponseSerialization (resp : FaultPidExecuteResponse) : List UInt8 :=
  write resp.retCode ++ (writeVec write resp.taskResults ++ write resp.freedBorrowIds)

def faultPidExecuteResponseDeserialization : Reader MpError FaultPidExecuteResponse := do
  let retCode ← read
  let taskResults ← readVecUpTo MAX_TASK_RESULTS_PER_RESPONSE read
  let freedBorrowIds ← read
  pure { retCode, taskResults, freedBorrowIds }

instance : Streamed FaultPidExecuteResponse where
  write := faultPidExecuteResponseSerialization
  read := faultPidExecuteResponseDeserialization
  Within := FaultPidExecuteResponse.Within
  exact resp := by
    refine Exact.congr (.bind (Streamed.exact resp.retCode)
      (.bind (exact_limited _ resp.taskResults) (.map _ (Streamed.exact resp.freedBorrowIds)))) ?_
    exact ⟨fun ⟨_, hresults, hfreed⟩ => ⟨hresults, hfreed⟩,
      fun h => ⟨trivial, h.taskResults, h.freedBorrowIds⟩⟩

end FaultWire

end UbsEngine
