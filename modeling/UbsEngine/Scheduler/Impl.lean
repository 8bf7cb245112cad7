import UbsEngine.Scheduler.Filter

/-!
# The scheduler

A request is placed in four steps: the sizes and the links of all nodes are read, the filters
drop candidates, the scores pick one of the sockets that are left, and the request is laid
out over numas of that socket. The placement is then recorded as an account.

Two things are not determined by the cache. The scores are floating-point numbers, and a tie
between numas is broken by an unstable sort; both are taken as choices that come with the
event (`UbsEngine.Scheduler.Choice`), so that what is proved holds for every outcome of
either.
-/

namespace UbsEngine

namespace Scheduler

/-- What a placement leaves to the scores and to the sort. -/
structure Choice where
  /-- The candidate that the scores put first. -/
  best : NodeId × SocketId
  /-- How the sort orders numas that compare equal. -/
  tie : NumaId → Nat

/-- What the node controller answers during a placement. -/
structure Cluster where
  /-- `GetAllNodes`. -/
  nodes : List (NodeId × UbseNodeInfo)
  /-- `UbseGetAllDeployedNode`. -/
  deployed : List Nat := []

/-- The caches of the scheduler. -/
structure SchedulerImpl where
  nodeInfo : SchedulerNodeManager := {}
  account : SchedulerAccountManager := {}

/-! ### Laying out a request -/

/-- The export location of a piece. -/
def exportPiece (nodeId : NodeId) (socketId : SocketId) (numaId : NumaId) (size : Nat) :
    UbseMemDebtNumaInfo where
  nodeId := nodeId
  socketId := asInt32 socketId
  numaId := numaId.toNat
  size := size

/-- One piece of a placement: its export location and, for a borrow, the import location of
the same socket id on the importer. -/
def addPiece (request : SchedulerRequest) (nodeId : NodeId) (socketId : SocketId)
    (numaId : NumaId) (size : Nat) (algoResult : UbseMemAlgoResult) : UbseMemAlgoResult :=
  { algoResult with
    exportNumaInfos := algoResult.exportNumaInfos ++ [exportPiece nodeId socketId numaId size]
    importNumaInfos :=
      match request.requestMode with
      | .borrow =>
        algoResult.importNumaInfos ++ [exportPiece request.importNodeId socketId numaId size]
      | .share => algoResult.importNumaInfos }

/-- The block of a placement in bytes, `1` when it does not fit 64 bits. -/
def placementBlock (algoResult : UbseMemAlgoResult) : Nat :=
  (sizeMb2Byte algoResult.blockSize.toNat).getD 1

/-- `FillFromNumaList`: each numa takes what it can hold in whole blocks, until nothing
remains. -/
def fillFromNumaList (request : SchedulerRequest) (node : NodeId × SocketId) :
    List (NumaId × SchedulerNumaInfo) → UbseMemAlgoResult → Nat → UbseMemAlgoResult × Nat
  | [], algoResult, remaining => (algoResult, remaining)
  | (numaId, numa) :: numas, algoResult, remaining =>
    if remaining = 0 then (algoResult, remaining)
    else
      let blockSize := placementBlock algoResult
      let available := floorBlock (numa.getAvailableLendSize request.waterLine) blockSize
      if available < blockSize then fillFromNumaList request node numas algoResult remaining
      else
        let borrowSize := min available remaining
        fillFromNumaList request node numas
          (addPiece request node.1 node.2 numaId borrowSize algoResult) (remaining - borrowSize)

/-- Whether a numa goes before another: more free memory, or the sort puts it there. -/
def freeFirst (tie : NumaId → Nat) (a b : NumaId × SchedulerNumaInfo) : Prop :=
  b.2.memFree < a.2.memFree ∨ (a.2.memFree = b.2.memFree ∧ tie a.1 ≤ tie b.1)

instance (tie : NumaId → Nat) : DecidableRel (freeFirst tie) := fun a b => by
  unfold freeFirst; infer_instance

/-- Whether a numa goes before another when lenders are balanced: fewer borrowers first. -/
def fewBorrowersFirst (count : NumaId → Nat) (tie : NumaId → Nat)
    (a b : NumaId × SchedulerNumaInfo) : Prop :=
  count a.1 < count b.1 ∨ (count a.1 = count b.1 ∧ freeFirst tie a b)

instance (count tie : NumaId → Nat) : DecidableRel (fewBorrowersFirst count tie) := fun a b => by
  unfold fewBorrowersFirst; infer_instance

section Placement

variable (s : SchedulerImpl) (choice : Choice) (request : SchedulerRequest)
variable (node : NodeId × SocketId) (algoResult : UbseMemAlgoResult)

/-- `GetSortedNumaList`. -/
def getSortedNumaList : List (NumaId × SchedulerNumaInfo) :=
  match s.nodeInfo.getNodeInfo node.1 with
  | none => []
  | some info =>
    match info.getSocketInfo node.2 with
    | none => []
    | some _ => (info.getAllNumaInfos node.2).insertionSort (freeFirst choice.tie)

/-- `SelectNumaByFreeMemory`. -/
def selectNumaByFreeMemory : UbseMemAlgoResult × UbseResult :=
  match getSortedNumaList s choice node with
  | [] => (algoResult, .error .error)
  | numaList =>
    let (algoResult, remaining) :=
      fillFromNumaList request node numaList algoResult request.requestSize
    (algoResult, if remaining > 0 then .error .error else .ok ())

/-- `SelectNumaByReliable`: first the numas the importer borrows from already. -/
def selectNumaByReliable : UbseMemAlgoResult × UbseResult :=
  match getSortedNumaList s choice node with
  | [] => (algoResult, .error .error)
  | allNumas =>
    let provided := fun n : NumaId × SchedulerNumaInfo =>
      s.account.borrowedByRequestor node.1 node.2 request.importNodeId n.1
    let order := fewBorrowersFirst (s.account.borrowerCount node.1 node.2) choice.tie
    let providedNumas := (allNumas.filter provided).insertionSort order
    let notProvidedNumas := (allNumas.filter fun n => !provided n).insertionSort order
    let (algoResult, remaining) :=
      fillFromNumaList request node providedNumas algoResult request.requestSize
    let (algoResult, remaining) :=
      fillFromNumaList request node notProvidedNumas algoResult remaining
    (algoResult, if remaining > 0 then .error .error else .ok ())

/-- The size of a lender rounded up to blocks, in 64 bits. -/
def roundUpBlock (size blockSize : Nat) : Nat :=
  (size + blockSize - 1) % 2 ^ 64 / blockSize * blockSize

/-- `SelectNumaByLenderInfo`: the numa and the size that the lender names. -/
def selectNumaByLenderInfo (lenderInfo : UbseMemLenderInfo) (algoResult : UbseMemAlgoResult) :
    UbseMemAlgoResult :=
  addPiece request lenderInfo.nodeId algoResult.attachSocketId lenderInfo.numaId
    (roundUpBlock lenderInfo.lenderSize (placementBlock algoResult)) algoResult

/-- `SelectNumaForAddr`: the exact size, from the numa that the lender names. -/
def selectNumaForAddr (lenderInfo : UbseMemLenderInfo) (algoResult : UbseMemAlgoResult) :
    UbseMemAlgoResult :=
  addPiece request lenderInfo.nodeId algoResult.attachSocketId lenderInfo.numaId
    request.requestSize algoResult

/-- The lenders that decide where the pieces go: those of the request, when the first one
names a numa. -/
def placingLenders : Option (UbseMemLenderInfo × List UbseMemLenderInfo) :=
  match request.lenderInfos with
  | some (first :: lenders) =>
    if first.numaId ≠ invalidId then some (first, first :: lenders) else none
  | _ => none

/-- `FillAlgoResult`. -/
def fillAlgoResult : UbseMemAlgoResult × UbseResult :=
  match s.nodeInfo.getNodeInfo node.1 with
  | none => (algoResult, .error .error)
  | some info =>
    let algoResult := { algoResult with blockSize := info.blockSize }
    if info.blockSize = 0 then (algoResult, .error .error)
    else
      let algoResult := { algoResult with attachSocketId := node.2 }
      match placingLenders request with
      | some (first, lenders) =>
        if request.isAddr then (selectNumaForAddr request first algoResult, .ok ())
        else
          ((lenders.filter (·.numaId ≠ invalidId)).foldl
            (fun algoResult lender => selectNumaByLenderInfo request lender algoResult)
            algoResult, .ok ())
      | none =>
        if request.lenderBalance ∧ request.requestMode = .borrow then
          selectNumaByReliable s choice request node algoResult
        else selectNumaByFreeMemory s choice request node algoResult

end Placement

/-! ### Scheduling -/

/-- The sockets that are left, with their nodes: what the scores are about. -/
def candidates (nodes : List NodeInfo) : List (NodeId × SocketId) :=
  nodes.flatMap fun node => node.socketInfos.map fun socketInfo => (node.nodeId, socketInfo.socketId)

/-- The size of the smallest request, with which the scheduler tells why nothing is left. -/
def probeSize (mgr : SchedulerNodeManager) (request : SchedulerRequest) : Nat :=
  let probeBlockMb :=
    SchedulerRequest.getRequestNodeBlockSize request.importNodeId request.requestNodeId mgr
  if probeBlockMb = 0 then oneM else (sizeMb2Byte probeBlockMb).getD oneM

/-- Why no candidate is left. -/
def noCandidate (s : SchedulerImpl) (request : SchedulerRequest) : UbseError :=
  let mgr := s.nodeInfo
  if mgr.getAllNodes.any fun node =>
      (mgr.getNodeInfo node.nodeId).any (·.clusterState = .smoothing) then .nodeReconcile
  else
    match filterNodes mgr s.account { request with requestSize := probeSize mgr request }
        mgr.getAllNodes with
    | ([], _) => .noNodeCanLend
    | (_ :: _, _) => .sizeExceedLend

/-- What `ScheduleBorrow` reads from the node controller before it filters. -/
def refresh (s : SchedulerImpl) (cluster : Cluster) : SchedulerImpl × UbseResult :=
  match s.nodeInfo.updateAllNumaMemInfo cluster.nodes with
  | (mgr, .error e) => ({ s with nodeInfo := mgr }, .error e)
  | (mgr, .ok ()) =>
    let (mgr, ret) := mgr.updateAllLinkInfo cluster.nodes cluster.deployed
    ({ s with nodeInfo := mgr }, ret)

/-- The part of `ScheduleBorrow` after the reading: the filters, the pick and the layout. The
scores rank the sockets of the nodes that are left; nodes without a socket have none to rank. -/
def place (s : SchedulerImpl) (choice : Choice) (request : SchedulerRequest)
    (algoResult : UbseMemAlgoResult) : UbseMemAlgoResult × UbseResult :=
  match filterNodes s.nodeInfo s.account request s.nodeInfo.getAllNodes with
  | (_, .error e) => (algoResult, .error e)
  | ([], .ok ()) => (algoResult, .error (noCandidate s request))
  | (nodes, .ok ()) =>
    if choice.best ∈ candidates nodes then
      fillAlgoResult s choice request choice.best algoResult
    else (algoResult, .error (if candidates nodes = [] then .noNodeCanLend else .error))

/-- `ScheduleBorrow`: the caches after the reading, the placement, and whether it succeeded. -/
def scheduleBorrow (s : SchedulerImpl) (cluster : Cluster) (choice : Choice)
    (request : SchedulerRequest) (algoResult : UbseMemAlgoResult) :
    SchedulerImpl × UbseMemAlgoResult × UbseResult :=
  match refresh s cluster with
  | (s, .error e) => (s, algoResult, .error e)
  | (s, .ok ()) => (s, place s choice request algoResult)

/-! ### The handlers -/

/-- A borrow object, of any kind and side: its request, where it is placed, its state. -/
structure MemObj where
  req : MemReq
  algoResult : UbseMemAlgoResult := {}
  state : UbseMemState

/-- The account of an object goes through the object's state. -/
def recordState (s : SchedulerImpl) (obj : MemObj) : SchedulerImpl × UbseResult :=
  let ((account, nodeInfo), ret) := s.account.updateSchedulerAccount s.nodeInfo obj.req.name
    obj.algoResult obj.state obj.req.type
  ({ nodeInfo, account }, ret)

/-- `MemoryObjChangeHandler`: an object that is to be scheduled is placed first. -/
def memoryObjChangeHandler (s : SchedulerImpl) (cluster : Cluster) (choice : Choice)
    (obj : MemObj) : SchedulerImpl × MemObj × UbseResult :=
  if obj.state = .scheduling then
    match scheduleBorrow s cluster choice (SchedulerRequest.buildRequest obj.req s.nodeInfo)
        obj.algoResult with
    | (s, algoResult, .error e) => (s, { obj with algoResult }, .error e)
    | (s, algoResult, .ok ()) =>
      let (s, ret) := recordState s { obj with algoResult }
      (s, { obj with algoResult }, ret)
  else
    let (s, ret) := recordState s obj
    (s, obj, ret)

/-- `NodeObjChangeHandler`. -/
def nodeObjChangeHandler (s : SchedulerImpl) (info : UbseNodeInfo) (deployed : List Nat) :
    SchedulerImpl × UbseResult :=
  let (nodeInfo, ret) := s.nodeInfo.updateNodeInfo info deployed
  ({ s with nodeInfo }, ret)

/-- What happens to the scheduler. -/
inductive SchedulerEvent
  /-- `MemoryObjChangeHandler`. -/
  | memoryObjChange (cluster : Cluster) (choice : Choice) (obj : MemObj)
  /-- `NodeObjChangeHandler`. -/
  | nodeObjChange (info : UbseNodeInfo) (deployed : List Nat)

/-- The caches after an event. -/
def SchedulerImpl.step (s : SchedulerImpl) : SchedulerEvent → SchedulerImpl
  | .memoryObjChange cluster choice obj => (memoryObjChangeHandler s cluster choice obj).1
  | .nodeObjChange info deployed => (nodeObjChangeHandler s info deployed).1

end Scheduler

end UbsEngine
