import UbsEngine.Scheduler.Account

/-!
# The requests of the scheduler

A borrow object asks for memory with the request of its kind. The scheduler turns each kind
into one form, `UbsEngine.Scheduler.SchedulerRequest`: the size rounded up to the block of
the node that borrows, the filters the candidates have to pass, in their order, and what
these filters look at. How candidates are scored is left open here, so the names and the
weights of the scores are not kept.
-/

namespace UbsEngine

namespace Scheduler

/-- The registered filters. -/
inductive FilterName
  | configConsistency
  | roleConflict
  | lenderRole
  | group
  | provider
  | nodeState
  | region
  | radiusBorrow
  | radiusLender
  | lendCount
  | topoReachability
  | maxLentSize
  | sharedPool
  | freeMemory
  | requestedProviders
  | specifiedLender
  | specifiedLink
  | socketAffinity
  deriving DecidableEq

/-- `RequestMode`. -/
inductive RequestMode
  | borrow
  | share
  deriving DecidableEq

/-- `UbseMemLenderInfo`: a lender the request insists on. -/
structure UbseMemLenderInfo where
  lenderSize : Nat := 0
  nodeId : NodeId
  socketId : SocketId := invalidId
  numaId : NumaId := invalidId
  portId : PortId := invalidId

/-- `UbseMemLenderLinkInfo`: a socket the request insists on. -/
structure UbseMemLenderLinkInfo where
  lenderNode : NodeId
  lenderSocketId : Int := -1

/-! ### The requests as they arrive -/

/-- `UbseMemFdBorrowReq`. -/
structure UbseMemFdBorrowReq where
  name : String
  requestNodeId : NodeId
  importNodeId : NodeId
  size : Nat
  /-- Nodes and numas the request insists on. -/
  lenderLocs : List (NodeId × NumaId) := []
  /-- How much each of them is to lend. -/
  lenderSizes : List Nat := []
  /-- The nodes that may lend; empty is all. -/
  candidateNodeList : List NodeId := []

/-- `UbseMemNumaBorrowReq`. -/
structure UbseMemNumaBorrowReq extends UbseMemFdBorrowReq where
  srcSocket : Int := -1
  highWatermark : Nat := 100
  samePlanePrefer : Bool := false
  linkInfo : UbseMemLenderLinkInfo := { lenderNode := "" }

/-- `UbseMemAddrBorrowReq`. -/
structure UbseMemAddrBorrowReq where
  name : String
  requestNodeId : NodeId
  importNodeId : NodeId
  exportNodeId : NodeId
  dstSocket : Int := -1
  dstNuma : Int := -1
  /-- The sizes of the exported ranges. -/
  exportAddrList : List Nat := []

/-- `UbseMemShareBorrowReq`. -/
structure UbseMemShareBorrowReq where
  name : String
  requestNodeId : NodeId
  size : Nat
  providerList : List NodeId := []
  /-- The nodes of the share region. -/
  shmRegion : List NodeId := []
  /-- The socket whose plane is required, if one is. -/
  withAffinity : Option SocketId := none
  lenderInfo : UbseMemLenderInfo := { nodeId := "" }

/-- The request of a borrow object, by its kind. -/
inductive MemReq
  | fd (req : UbseMemFdBorrowReq)
  | numa (req : UbseMemNumaBorrowReq)
  | addr (req : UbseMemAddrBorrowReq)
  | shm (req : UbseMemShareBorrowReq)

/-- `MemObjType`. -/
def MemReq.type : MemReq → BorrowedType
  | .fd _ => .fd
  | .numa _ => .numa
  | .addr _ => .addr
  | .shm _ => .shm

/-- The name of the borrow. -/
def MemReq.name : MemReq → String
  | .fd req => req.name
  | .numa req => req.name
  | .addr req => req.name
  | .shm req => req.name

/-! ### The common form -/

/-- `SchedulerRequest`. The parameters that the source keeps in a map by their name are
fields, `none` where the source has no entry. -/
structure SchedulerRequest where
  name : String
  requestMode : RequestMode
  requestNodeId : NodeId
  importNodeId : NodeId := ""
  requestSize : Nat
  provideNodes : List NodeId := []
  highWatermark : Option Nat := none
  lenderInfos : Option (List UbseMemLenderInfo) := none
  linkInfo : Option UbseMemLenderLinkInfo := none
  affinitySocketId : Option Int := none
  shmRegion : Option (List NodeId) := none
  isAddr : Bool := false
  lenderBalance : Bool := false
  filterNames : List FilterName

namespace SchedulerRequest

/-- `AlignRequestSize`: rounded up to whole blocks, as far as that can be done. -/
def alignRequestSize (size : Nat) (blockSizeMb : Nat) : Nat :=
  if size = 0 ∨ blockSizeMb = 0 then size
  else
    match sizeMb2Byte blockSizeMb with
    | none => size
    | some blockBytes =>
      match safeAdd size (blockBytes - 1) with
      | none => size
      | some aligned => aligned / blockBytes * blockBytes

/-- `GetRequestNodeBlockSize`: the block of the importer, or of the requester when no importer
is named; `0` when the node is not known. -/
def getRequestNodeBlockSize (importNodeId requestNodeId : NodeId) (mgr : SchedulerNodeManager) :
    Nat :=
  let sizeNodeId := if importNodeId = "" then requestNodeId else importNodeId
  match mgr.getNodeInfo sizeNodeId with
  | none => 0
  | some node => node.blockSize.toNat

/-- The lenders an FD or NUMA request insists on; a missing size is `0`. -/
def lendersOf (req : UbseMemFdBorrowReq) : List UbseMemLenderInfo :=
  req.lenderLocs.zipIdx.map fun l =>
    { nodeId := l.1.1, numaId := l.1.2, lenderSize := (req.lenderSizes[l.2]?).getD 0 }

/-- The filters FD and NUMA requests begin with. -/
def borrowFilters : List FilterName :=
  [.configConsistency, .roleConflict, .lenderRole, .group, .provider, .nodeState, .radiusBorrow,
    .radiusLender, .lendCount, .topoReachability, .maxLentSize, .sharedPool, .freeMemory]

/-- `BuildFromFdBorrow`. -/
def buildFromFdBorrow (req : UbseMemFdBorrowReq) (mgr : SchedulerNodeManager) : SchedulerRequest where
  name := req.name
  requestMode := .borrow
  requestNodeId := req.requestNodeId
  importNodeId := req.importNodeId
  requestSize := alignRequestSize req.size
    (getRequestNodeBlockSize req.importNodeId req.requestNodeId mgr)
  provideNodes := req.candidateNodeList
  lenderInfos := if req.lenderLocs = [] then none else some (lendersOf req)
  filterNames := borrowFilters
    ++ (if req.candidateNodeList = [] then [] else [.requestedProviders])
    ++ (if req.lenderLocs = [] then [] else [.specifiedLender])

/-- `BuildFromNumaBorrow`. -/
def buildFromNumaBorrow (req : UbseMemNumaBorrowReq) (mgr : SchedulerNodeManager) :
    SchedulerRequest where
  name := req.name
  requestMode := .borrow
  requestNodeId := req.requestNodeId
  importNodeId := req.importNodeId
  requestSize := alignRequestSize req.size
    (getRequestNodeBlockSize req.importNodeId req.requestNodeId mgr)
  provideNodes := req.candidateNodeList
  highWatermark := some (if req.highWatermark > 100 then 100 else req.highWatermark)
  linkInfo := if req.linkInfo.lenderSocketId ≠ -1 then some req.linkInfo else none
  lenderInfos :=
    if req.linkInfo.lenderSocketId ≠ -1 ∨ req.lenderLocs = [] then none
    else some (lendersOf req.toUbseMemFdBorrowReq)
  affinitySocketId := if req.srcSocket ≠ -1 then some req.srcSocket else none
  filterNames := borrowFilters
    ++ (if req.linkInfo.lenderSocketId ≠ -1 then [.specifiedLink]
        else if req.lenderLocs = [] then [] else [.specifiedLender])
    ++ (if req.candidateNodeList = [] then [] else [.requestedProviders])
    ++ (if req.srcSocket ≠ -1 ∧ !req.samePlanePrefer then [.socketAffinity] else [])

/-- The sizes of the ranges of an address request added up; half of the largest 64-bit value
when that overflows. -/
def addrSize : Nat → List Nat → Nat
  | total, [] => total
  | total, size :: sizes =>
    match safeAdd total size with
    | none => (2 ^ 64 - 1) / 2
    | some total => addrSize total sizes

/-- `BuildFromAddrBorrow`. -/
def buildFromAddrBorrow (req : UbseMemAddrBorrowReq) : SchedulerRequest :=
  let hasLender := req.dstSocket ≠ -1 ∧ req.dstNuma ≠ -1 ∧ req.exportAddrList ≠ []
  { name := req.name
    requestMode := .borrow
    requestNodeId := req.requestNodeId
    importNodeId := req.importNodeId
    requestSize := addrSize 0 req.exportAddrList
    lenderInfos :=
      if hasLender then
        some [{ nodeId := req.exportNodeId, socketId := UInt32.ofInt req.dstSocket,
                numaId := UInt32.ofInt req.dstNuma }]
      else none
    isAddr := true
    filterNames := [.lenderRole, .nodeState, .roleConflict]
      ++ (if hasLender then [.specifiedLender] else []) }

/-- `BuildFromShareBorrow`. -/
def buildFromShareBorrow (req : UbseMemShareBorrowReq) (mgr : SchedulerNodeManager) :
    SchedulerRequest where
  name := req.name
  requestMode := .share
  requestNodeId := req.requestNodeId
  requestSize := alignRequestSize req.size (getRequestNodeBlockSize "" req.requestNodeId mgr)
  provideNodes := req.providerList
  shmRegion := some req.shmRegion
  affinitySocketId := req.withAffinity.map asInt32
  lenderInfos := if req.lenderInfo.lenderSize ≠ 0 then some [req.lenderInfo] else none
  filterNames :=
    [.configConsistency, .lenderRole, .provider, .nodeState, .region, .lendCount,
      .topoReachability, .maxLentSize, .sharedPool, .freeMemory]
    ++ (if req.providerList = [] then [] else [.requestedProviders])
    ++ (if req.withAffinity.isSome then [.socketAffinity] else [])
    ++ (if req.lenderInfo.lenderSize ≠ 0 then [.specifiedLender] else [])

/-- `SetupFromNodeConf`, as far as it reaches beyond the scores. -/
def setupFromNodeConf (req : SchedulerRequest) (mgr : SchedulerNodeManager) : SchedulerRequest :=
  match req.requestMode with
  | .share => req
  | .borrow => { req with lenderBalance := mgr.getLenderBalance }

/-- `BuildRequest`. -/
def buildRequest (req : MemReq) (mgr : SchedulerNodeManager) : SchedulerRequest :=
  match req with
  | .fd req => setupFromNodeConf (buildFromFdBorrow req mgr) mgr
  | .numa req => setupFromNodeConf (buildFromNumaBorrow req mgr) mgr
  | .addr req => setupFromNodeConf (buildFromAddrBorrow req) mgr
  | .shm req => setupFromNodeConf (buildFromShareBorrow req mgr) mgr

/-- The watermark the capacity checks use: `highWatermark`, or 100 %. -/
def waterLine (request : SchedulerRequest) : Nat := request.highWatermark.getD 100

end SchedulerRequest

end Scheduler

end UbsEngine
