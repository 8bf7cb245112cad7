import UbsEngine.Fault.Context
import Mathlib.Data.List.Sort

/-!
# Collecting who uses the memory

The master reads from its ledger which nodes have borrowed from the failed lender, on which of
their NUMA nodes, and asks each of them which processes use these. A node answers for its virtual
machines or for its containers (`UbsEngine.Fault.collectVmPidMemInfos`,
`UbsEngine.Fault.collectContainerPidMemInfos`): it is the processes under migration control that
are reported, with what they use once hot and cold pages have stopped moving. A NUMA node that is
in use and whose control cannot be read is *pending*: nothing is to be done about it this round.
-/

namespace UbsEngine

namespace Fault

open Mem

/-! ### What a node sees -/

/-- A process under migration control of a NUMA node. -/
structure ProcessPayload where
  pid : Pid
  migrateMode : Nat
  ratio : Nat
  memSize : Nat
  deriving DecidableEq

def MIG_RATIO_MODE : Nat := 0
def MIG_MEMSIZE_MODE : Nat := 1

/-- A process that may have pages on the NUMA node. -/
def ProcessPayload.validQuota (payload : ProcessPayload) : Bool :=
  payload.migrateMode = MIG_RATIO_MODE ∧ 0 < payload.ratio ∨
    payload.migrateMode = MIG_MEMSIZE_MODE ∧ 0 < payload.memSize

structure VmDomainNumaInfo where
  numaId : NumaId
  pageSize : Nat
  usedMem : Int
  socketId : Int
  isLocal : Bool

structure VmDomainInfo where
  pid : Pid
  name : string
  numaInfo : List VmDomainNumaInfo

/-- What the agent collects of a process on a NUMA node, in bytes. -/
structure MetaNumaInfo where
  numaId : NumaId
  isLocalNuma : Bool
  socketId : Int
  numaUsedMem : Nat

structure PidInfo where
  pid : Pid
  localNumaIds : List NumaId
  metaNumaInfos : List MetaNumaInfo

/-- What a virtual machine uses of the faulty NUMA nodes, and the size of its pages there. -/
structure VmCollectEntry where
  pidInfo : PidMemInfo
  faultNumaCollected : Map NumaId (Nat × Nat) := ∅

/-- **A node as it is asked**: what it finds out, and what succeeds. The second look at the virtual
machines is after their pages have come to rest. -/
structure NodeCollectEnv where
  vmInfos : Option (List VmDomainInfo) := some []
  stableVmInfos : Option (List VmDomainInfo) := some []
  processConfig : NumaId → Option (List ProcessPayload) := fun _ => some []
  disable : List Pid → Bool := fun _ => true
  cgroup : Pid → Option (List string) := fun _ => none
  pidNumaInfos : Option (List PidInfo) := some []
  basePageSize : Nat := 4096
  vmOrder : Map.Iteration Pid VmCollectEntry := default
  pidOrder : Map.Iteration Pid PidMemInfo := default

/-- The answer of a node. -/
structure FaultPidQueryResponse where
  retCode : MpResult := MEM_POOLING_OK
  pidMemDistribution : List PidMemInfo := []
  pendingFaultNumaIds : List NumaId := []

/-! ### Virtual machines -/

/-- One NUMA node of a virtual machine. -/
def VmCollectEntry.addNuma (faultNumaIds : List NumaId) (entry : VmCollectEntry)
    (numaInfo : VmDomainNumaInfo) : VmCollectEntry :=
  if numaInfo.usedMem ≤ 0 then entry
  else if numaInfo.isLocal then
    { entry with pidInfo := { entry.pidInfo with
        localNumaIds := entry.pidInfo.localNumaIds ++ [numaInfo.numaId]
        socketId := if entry.pidInfo.socketId < 0 ∧ 0 ≤ numaInfo.socketId then numaInfo.socketId
          else entry.pidInfo.socketId } }
  else if numaInfo.numaId ∈ faultNumaIds then
    let collectedKB := ((entry.faultNumaCollected.lookup numaInfo.numaId).getD (0, 0)).1
    { entry with
      faultNumaCollected := entry.faultNumaCollected.insert numaInfo.numaId
        (collectedKB + numaInfo.usedMem.toNat, numaInfo.pageSize) }
  else entry

def collectVmFaultNumaSnapshot (faultNumaIds : List NumaId) (vmInfos : List VmDomainInfo) :
    Map Pid VmCollectEntry :=
  vmInfos.foldl (fun vmEntries info =>
    let entry := (vmEntries.lookup info.pid).getD { pidInfo := { pid := info.pid } }
    let named := { entry with pidInfo := { entry.pidInfo with
      pid := info.pid
      instanceId := info.name } }
    vmEntries.insert info.pid (info.numaInfo.foldl (·.addNuma faultNumaIds) named)) ∅

/-- What a virtual machine uses of a NUMA node, 0 if nothing is collected. -/
def VmCollectEntry.collectedKB (entry : VmCollectEntry) (numaId : NumaId) : Nat :=
  ((entry.faultNumaCollected.lookup numaId).getD (0, 0)).1

/-- The processes under control of a NUMA node, none if that cannot be read. -/
def managedPids (env : NodeCollectEnv) (numaId : NumaId) : List Pid :=
  match env.processConfig numaId with
  | none => []
  | some payloadList => (payloadList.filter (·.validQuota)).map (·.pid)

/-- The NUMA nodes that are in use and whose control cannot be read. -/
def pendingNumas (env : NodeCollectEnv) (faultNumaIds : List NumaId)
    (vmEntries : Map Pid VmCollectEntry) : List NumaId :=
  faultNumaIds.filter fun numaId => env.processConfig numaId = none ∧
    (vmEntries.entries.map fun e => e.2.collectedKB numaId).sum ≠ 0

/-- What is to be migrated of a virtual machine. -/
def stableUsages (env : NodeCollectEnv) (faultNumaIds : List NumaId) (pid : Pid)
    (entry : VmCollectEntry) : List NumaMemUsage :=
  faultNumaIds.filterMap fun numaId =>
    if pid ∈ managedPids env numaId ∧ entry.collectedKB numaId ≠ 0 then
      some ⟨pid, numaId, ((entry.faultNumaCollected.lookup numaId).getD (0, 0)).2,
        entry.collectedKB numaId⟩
    else none

/-- The virtual machines that have something to be migrated. -/
def reportVms (env : NodeCollectEnv) (faultNumaIds : List NumaId)
    (vmEntries : Map Pid VmCollectEntry) : List PidMemInfo :=
  ((env.vmOrder.run vmEntries).map fun e => { e.2.pidInfo with
    faultNumaUsages := stableUsages env faultNumaIds e.1 e.2 }).filter (·.faultNumaUsages ≠ [])

/-- **The answer for virtual machines.** -/
def collectVmPidMemInfos (env : NodeCollectEnv) (faultNumaIds : List NumaId) :
    FaultPidQueryResponse :=
  match env.vmInfos with
  | none => { retCode := MEM_POOLING_FAULT_RESOURCE_COLLECT_ERROR }
  | some vmInfos =>
    let vmEntries := collectVmFaultNumaSnapshot faultNumaIds vmInfos
    let pending := pendingNumas env faultNumaIds vmEntries
    let disablePids := (faultNumaIds.flatMap (managedPids env)).dedup
    if disablePids = [] then
      { pidMemDistribution := reportVms env faultNumaIds vmEntries, pendingFaultNumaIds := pending }
    else if env.disable disablePids = false then
      { retCode := MEM_POOLING_FAULT_RESOURCE_COLLECT_ERROR, pendingFaultNumaIds := pending }
    else
      match env.stableVmInfos with
      | none => {
          retCode := MEM_POOLING_FAULT_RESOURCE_COLLECT_ERROR
          pendingFaultNumaIds := pending ++ faultNumaIds.filter fun numaId =>
            managedPids env numaId ≠ [] }
      | some stableVmInfos => {
          pidMemDistribution := reportVms env faultNumaIds
            (collectVmFaultNumaSnapshot faultNumaIds stableVmInfos)
          pendingFaultNumaIds := pending }

/-! ### Containers -/

def isxdigit (c : UInt8) : Bool :=
  48 ≤ c ∧ c ≤ 57 ∨ 65 ≤ c ∧ c ≤ 70 ∨ 97 ≤ c ∧ c ≤ 102

def CONTAINER_ID_LEN : Nat := 64

/-- The first run of hex digits that is as long as the id of a container. The digits of the run
that is being read come first, backwards. -/
def findContainerId : string → string → Option string
  | run, [] => if run.length = CONTAINER_ID_LEN then some run.reverse else none
  | run, c :: rest =>
    if isxdigit c then findContainerId (c :: run) rest
    else if run.length = CONTAINER_ID_LEN then some run.reverse
    else findContainerId [] rest

/-- The container of a process, empty if it cannot be told. -/
def getContainerIdByPid (env : NodeCollectEnv) (pid : Pid) : string :=
  match env.cgroup pid with
  | none => []
  | some lines => (lines.findSome? (findContainerId [])).getD []

def KB_1024 : Nat := 1024

theorem findContainerId_spec {run line id : string} (hrun : ∀ c ∈ run, isxdigit c)
    (h : findContainerId run line = some id) :
    id.length = CONTAINER_ID_LEN ∧ ∀ c ∈ id, isxdigit c := by
  have hread : ∀ run : string, (∀ c ∈ run, isxdigit c) → run.length = CONTAINER_ID_LEN →
      run.reverse.length = CONTAINER_ID_LEN ∧ ∀ c ∈ run.reverse, isxdigit c := fun run hrun hlen =>
    ⟨by rw [List.length_reverse, hlen], fun c hc => hrun c (List.mem_reverse.1 hc)⟩
  induction line generalizing run with
  | nil =>
    rw [findContainerId, Option.ite_none_right_eq_some] at h
    obtain ⟨hlen, h⟩ := h
    obtain rfl := Option.some.inj h
    exact hread run hrun hlen
  | cons c line ih =>
    rw [findContainerId] at h
    split at h
    next hc => exact ih (List.forall_mem_cons.2 ⟨hc, hrun⟩) h
    next =>
      split at h
      next hlen =>
        obtain rfl := Option.some.inj h
        exact hread run hrun hlen
      next => exact ih (fun _ hc => absurd hc List.not_mem_nil) h

/-- The container of a process is known by its full id, or not at all. -/
theorem getContainerIdByPid_spec (env : NodeCollectEnv) (pid : Pid) :
    getContainerIdByPid env pid = [] ∨
      (getContainerIdByPid env pid).length = CONTAINER_ID_LEN ∧
        ∀ c ∈ getContainerIdByPid env pid, isxdigit c := by
  rw [getContainerIdByPid]
  split
  · exact Or.inl rfl
  · rename_i lines _
    cases h : lines.findSome? (findContainerId []) with
    | none => exact Or.inl rfl
    | some id =>
      obtain ⟨line, -, hline⟩ := List.exists_of_findSome?_eq_some h
      exact Or.inr (findContainerId_spec (fun _ hc => absurd hc List.not_mem_nil) hline)

/-- What the agent has collected of a process is filled in. -/
def PidMemInfo.fill (faultNumaIds : List NumaId) (basePageKB : Nat) (pidInfo : PidMemInfo)
    (collected : PidInfo) : PidMemInfo :=
  { pidInfo with
    localNumaIds := collected.localNumaIds
    socketId := collected.metaNumaInfos.foldl (fun socketId numaInfo =>
      if numaInfo.isLocalNuma ∧ socketId < 0 ∧ 0 ≤ numaInfo.socketId then numaInfo.socketId
      else socketId) pidInfo.socketId
    faultNumaUsages := pidInfo.faultNumaUsages ++ collected.metaNumaInfos.filterMap
      fun numaInfo =>
        if numaInfo.isLocalNuma = false ∧ numaInfo.numaId ∈ faultNumaIds ∧
            numaInfo.numaUsedMem ≠ 0 then
          some ⟨collected.pid, numaInfo.numaId, basePageKB, numaInfo.numaUsedMem / KB_1024⟩
        else none }

def fillContainerPidMemInfosByCollect (faultNumaIds : List NumaId) (basePageKB : Nat)
    (pidInfoList : List PidInfo) (pidInfoMap : Map Pid PidMemInfo) : Map Pid PidMemInfo :=
  pidInfoList.foldl (fun pidInfoMap collected =>
    match pidInfoMap.lookup collected.pid with
    | none => pidInfoMap
    | some pidInfo => pidInfoMap.insert collected.pid (pidInfo.fill faultNumaIds basePageKB collected))
    pidInfoMap

/-- **The answer for containers.** Here any NUMA node whose control cannot be read fails the
query. -/
def collectContainerPidMemInfos (env : NodeCollectEnv) (faultNumaIds : List NumaId) :
    FaultPidQueryResponse :=
  let overallRet := if ∃ numaId ∈ faultNumaIds, env.processConfig numaId = none then
    MEM_POOLING_FAULT_RESOURCE_COLLECT_ERROR else MEM_POOLING_OK
  let pids := (faultNumaIds.flatMap (managedPids env)).dedup
  if pids = [] then { retCode := overallRet }
  else if env.disable pids = false then { retCode := MEM_POOLING_FAULT_RESOURCE_COLLECT_ERROR }
  else
    match env.pidNumaInfos with
    | none => {
        retCode := MEM_POOLING_FAULT_RESOURCE_COLLECT_ERROR
        pendingFaultNumaIds := faultNumaIds }
    | some pidInfoList => {
        retCode := overallRet
        pidMemDistribution := ((env.pidOrder.run (fillContainerPidMemInfosByCollect faultNumaIds
          (env.basePageSize / KB_1024) pidInfoList (Map.ofKeys pids fun pid =>
            { pid := pid, instanceId := getContainerIdByPid env pid }))).map Prod.snd).filter
          (·.faultNumaUsages ≠ []) }

/-- **A node is asked.** -/
def pidQueryRecvHandler (sceneType : MpSceneType) (env : NodeCollectEnv)
    (faultNumaIds : List NumaId) : FaultPidQueryResponse :=
  match sceneType with
  | .CONTAINER_SCENE => collectContainerPidMemInfos env faultNumaIds
  | .VIRTUAL_SCENE => collectVmPidMemInfos env faultNumaIds

/-! ### The master -/

/-- A borrowing, as the ledger has it. -/
structure UbseNumaMemoryDebtInfo where
  name : string
  lentNodeId : string
  borrowNodeId : string
  remoteNumaId : Int
  uid : Nat := 0
  username : string := []
  borrowSocketIdList : List Int := []
  deriving DecidableEq

/-- **The ledger.** The borrowings of a node are told apart by their names. -/
structure DebtLedger where
  debtInfos : List UbseNumaMemoryDebtInfo := []
  nodup : (debtInfos.map fun debt => (debt.borrowNodeId, debt.name)).Nodup := by decide

/-- **What the master collects** in a round, node by node. -/
structure OverCommitFaultContext where
  affectedBorrowInNodeIds : List string
  actualBorrowInNodeIds : List string
  nodeToFaultNumaIds : string → List NumaId
  nodeToPendingFaultNumaIds : string → List NumaId
  nodeToPidMemInfos : string → Option (List PidMemInfo)
  nodeReachability : string → Bool
  nodeToBorrowIds : string → List string
  nodeToNumaBorrowIds : string → NumaId → List string
  nodeToBorrowUser : string → BorrowUserInfo

/-- **The master's surroundings when it collects**: the ledger, whether a node counts (it is
working, or faulty itself), whether it is reached, and what it finds out. -/
structure CollectEnv where
  ledger : Option DebtLedger
  nodeCounts : string → Bool := fun _ => true
  queryReached : string → Bool := fun _ => true
  node : string → NodeCollectEnv
  numaBindType : string → Option NumaBindType := fun _ => none

section Collect

variable (sceneType : MpSceneType) (faultNodeId : string) (env : CollectEnv)

/-- The borrowings from the faulty node that are dealt with. -/
def acceptedDebts (debtInfos : List UbseNumaMemoryDebtInfo) : List UbseNumaMemoryDebtInfo :=
  debtInfos.filter fun debt =>
    debt.lentNodeId = faultNodeId ∧ 0 < debt.remoteNumaId ∧ env.nodeCounts debt.borrowNodeId

/-- The faulty NUMA nodes of a node, in their order. -/
def faultNumas (debtInfos : List UbseNumaMemoryDebtInfo) (node : string) : List NumaId :=
  (((acceptedDebts faultNodeId env debtInfos).filter (·.borrowNodeId = node)).map
    (·.remoteNumaId.toNat)).dedup.insertionSort (· ≤ ·)

def borrowUserOf (debt : UbseNumaMemoryDebtInfo) : BorrowUserInfo where
  uid := debt.uid
  username := debt.username
  socketId := debt.borrowSocketIdList.head?.getD (-1)

/-- The answer of a node, `none` if it is not reached. -/
def queryNode (debtInfos : List UbseNumaMemoryDebtInfo) (node : string) :
    Option FaultPidQueryResponse :=
  if env.queryReached node then
    some (pidQueryRecvHandler sceneType (env.node node) (faultNumas faultNodeId env debtInfos node))
  else none

/-- The answer of a node, if it is one. -/
def answerOf (debtInfos : List UbseNumaMemoryDebtInfo) (node : string) :
    Option FaultPidQueryResponse :=
  (queryNode sceneType faultNodeId env debtInfos node).filter (·.retCode = MEM_POOLING_OK)

/-- The constraint of a process is that of its node for containers, and strict for virtual
machines. -/
def markSocketConstraint (node : string) (info : PidMemInfo) : PidMemInfo :=
  { info with bindType := match sceneType with
      | .CONTAINER_SCENE => (env.numaBindType node).getD .BIND_SINGLE
      | .VIRTUAL_SCENE => .BIND_SINGLE }

def collectContext (debtInfos : List UbseNumaMemoryDebtInfo) : OverCommitFaultContext where
  affectedBorrowInNodeIds :=
    ((acceptedDebts faultNodeId env debtInfos).map (·.borrowNodeId)).dedup
  actualBorrowInNodeIds := debtInfos.map (·.borrowNodeId)
  nodeToFaultNumaIds := faultNumas faultNodeId env debtInfos
  nodeToPendingFaultNumaIds node :=
    ((answerOf sceneType faultNodeId env debtInfos node).map (·.pendingFaultNumaIds)).getD []
  nodeToPidMemInfos node :=
    (answerOf sceneType faultNodeId env debtInfos node).map fun response =>
      response.pidMemDistribution.map (markSocketConstraint sceneType env node)
  nodeReachability node := (answerOf sceneType faultNodeId env debtInfos node).isSome
  nodeToBorrowIds node :=
    ((acceptedDebts faultNodeId env debtInfos).filter (·.borrowNodeId = node)).map (·.name)
  nodeToNumaBorrowIds node numaId :=
    ((acceptedDebts faultNodeId env debtInfos).filter fun debt =>
      debt.borrowNodeId = node ∧ debt.remoteNumaId.toNat = numaId).map (·.name)
  nodeToBorrowUser node :=
    (((acceptedDebts faultNodeId env debtInfos).find? (·.borrowNodeId = node)).map
      borrowUserOf).getD {}

/-- The error of a node whose query failed. -/
def queryError (debtInfos : List UbseNumaMemoryDebtInfo) (node : string) : Option MpResult :=
  match queryNode sceneType faultNodeId env debtInfos node with
  | none => some MEM_POOLING_FAULT_IPC_ERROR
  | some response =>
    if response.retCode = MEM_POOLING_OK then none else some response.retCode

/-- **Collecting**: it fails without a ledger, and when no node answers. -/
def collect : Except MpResult OverCommitFaultContext :=
  match env.ledger with
  | none => .error MEM_POOLING_FAULT_RESOURCE_COLLECT_ERROR
  | some ledger =>
    let context := collectContext sceneType faultNodeId env ledger.debtInfos
    if context.affectedBorrowInNodeIds ≠ [] ∧
        ∀ node ∈ context.affectedBorrowInNodeIds, context.nodeReachability node = false then
      .error (earliestFaultErrorCode (context.affectedBorrowInNodeIds.filterMap
        (queryError sceneType faultNodeId env ledger.debtInfos)))
    else .ok context

end Collect

end Fault

end UbsEngine
