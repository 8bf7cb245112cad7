import UbsEngine.Scheduler.Request

/-!
# The filters of the scheduler

A filter takes the candidates that are left – nodes, with those of their sockets that are
left, with those of their numas that are left – and drops some of them, or ends the chain
with an error. The chain runs the filters a request names, in its order.

What a filter does to the candidates before it reports an error is kept: the scheduler looks
at what is left of them after a failed run as well.
-/

namespace UbsEngine

namespace Scheduler

/-- What a filter leaves of the candidates, and whether the chain goes on. -/
abbrev Filtered := List NodeInfo × UbseResult

/-- `EraseNodesIf`, by what is kept. -/
def keepNodes (p : NodeInfo → Bool) (nodes : List NodeInfo) : List NodeInfo := nodes.filter p

/-- `EraseSocketsIf` on every node, by what is kept. -/
def keepSockets (p : NodeInfo → SocketInfo → Bool) (nodes : List NodeInfo) : List NodeInfo :=
  nodes.map fun node => { node with socketInfos := node.socketInfos.filter (p node) }

/-- `RemoveEmptyNodes`. -/
def removeEmptyNodes (nodes : List NodeInfo) : List NodeInfo :=
  nodes.filter fun node => node.socketInfos ≠ []

section Filters

variable (mgr : SchedulerNodeManager) (accounts : SchedulerAccountManager)
variable (request : SchedulerRequest) (nodes : List NodeInfo)

/-! ### Filters on nodes -/

/-- The loop of `ConfigConsistencyFilter`: the allocator and the block of the first lender,
if there is one, when all lenders agree with it. -/
def lenderConfig : Option (UbseAllocator × UInt32) → List NodeInfo →
    Except UbseError (Option (UbseAllocator × UInt32))
  | first, [] => .ok first
  | first, node :: nodes =>
    match mgr.getNodeInfo node.nodeId with
    | none => .error .schedulerInval
    | some info =>
      if !info.isLender then lenderConfig first nodes
      else
        match first with
        | none => lenderConfig (some (info.allocator, info.blockSize)) nodes
        | some (allocator, blockSize) =>
          if info.allocator ≠ allocator ∨ info.blockSize ≠ blockSize then .error .confInvalid
          else lenderConfig first nodes

/-- `ConfigConsistencyFilter`: the lenders agree on a legal block. -/
def configConsistencyFilter : Filtered :=
  match lenderConfig mgr none nodes with
  | .error e => (nodes, .error e)
  | .ok none => (nodes, .ok ())
  | .ok (some (_, blockSize)) =>
    if blockSize < 4 ∨ blockSize > 4096 ∨ blockSize % 2 ≠ 0 then (nodes, .error .confInvalid)
    else (nodes, .ok ())

/-- `RoleConflictFilter`: the importer has not lent, and the lender has not borrowed. -/
def roleConflictFilter : Filtered :=
  match mgr.getNodeInfo request.importNodeId with
  | none => (nodes, .error .schedulerInval)
  | some importer =>
    if importer.getLentSizeExcludingShared > 0 then (nodes, .error .schedulerInval)
    else
      (keepNodes (fun node =>
        node.nodeId ≠ request.importNodeId &&
          match mgr.getNodeInfo node.nodeId with
          | none => false
          | some info => info.getBorrowSize = 0) nodes, .ok ())

/-- `LenderRoleFilter`. -/
def lenderRoleFilter : Filtered :=
  (keepNodes (fun node => (mgr.getNodeInfo node.nodeId).any (·.isLender)) nodes, .ok ())

/-- `GroupFilter`: the group of the node that requests. -/
def groupFilter : Filtered :=
  (keepNodes (fun node => node.nodeId ∈ mgr.getGroupNodes request.requestNodeId) nodes, .ok ())

/-- `ProviderFilter`. -/
def providerFilter : Filtered :=
  if mgr.providerNodes = [] then (nodes, .ok ())
  else (keepNodes (fun node => node.nodeId ∈ mgr.providerNodes) nodes, .ok ())

/-- `NodeStateFilter`. -/
def nodeStateFilter : Filtered :=
  (keepNodes (fun node =>
    (mgr.getNodeInfo node.nodeId).any (·.clusterState = .working)) nodes, .ok ())

/-- `RadiusBorrowFilter`: a new lender only while the importer has fewer than it may have. -/
def radiusBorrowFilter : Filtered :=
  if mgr.conf.radiusBorrow = 65535 then (nodes, .ok ())
  else
    let lenderCount := accounts.countDistinctLenders request.importNodeId
    (keepNodes (fun node =>
      node.nodeId = request.importNodeId ||
        accounts.hasBorrowedFrom request.importNodeId node.nodeId ||
          lenderCount < mgr.conf.radiusBorrow) nodes, .ok ())

/-- `RadiusLenderFilter`: a new borrower only while the lender has fewer than it may have. -/
def radiusLenderFilter : Filtered :=
  if mgr.conf.radiusLender = 65535 then (nodes, .ok ())
  else
    (keepNodes (fun node =>
      node.nodeId = request.importNodeId ||
        accounts.hasBorrowedFrom request.importNodeId node.nodeId ||
          accounts.countDistinctBorrowers node.nodeId < mgr.conf.radiusLender) nodes, .ok ())

/-- Whether a node of a share region reaches all other nodes of it that are registered. -/
def reachesRegion (region : List NodeId) (nodeId : NodeId) : Bool :=
  (region.filter fun other => other ≠ nodeId && (mgr.getNodeInfo other).isSome).all fun target =>
    (mgr.getReachablePeers nodeId).any fun peer => peer.1 = target

/-- `RegionFilter`. -/
def regionFilter : Filtered :=
  match request.shmRegion with
  | none => (nodes, .ok ())
  | some region =>
    if region.all (· ∈ mgr.staticNodes) then
      (keepNodes (fun node =>
        node.nodeId ∈ region && reachesRegion mgr region node.nodeId) nodes, .ok ())
    else (nodes, .error .schedulerInval)

/-- `RequestedProvidersFilter`. -/
def requestedProvidersFilter : Filtered :=
  if request.provideNodes = [] then (nodes, .ok ())
  else (keepNodes (fun node => node.nodeId ∈ request.provideNodes) nodes, .ok ())

/-! ### Filters on sockets -/

/-- The blocks of a lender that the request takes: its megabytes over the block, in 32
bits. -/
def requiredBlocks (blockSize : UInt32) : Nat :=
  request.requestSize / oneM / blockSize.toNat % 2 ^ 32

/-- `LendCountFilter`: the blocks of the request fit below the times a socket may export. -/
def lendCountFilter : Filtered :=
  (removeEmptyNodes (keepSockets (fun node socketInfo =>
    match mgr.getNodeInfo node.nodeId with
    | none => false
    | some info =>
      info.blockSize ≠ 0 &&
        match info.getSocketInfo socketInfo.socketId with
        | none => false
        | some socket =>
          (safeAdd socket.lentCount (requiredBlocks request info.blockSize)).any
            (· ≤ socket.maxExportTimes.toNat)) nodes), .ok ())

/-- `TopoReachabilityFilter`: the sockets that the requesting node has a link to, and its
own. -/
def topoReachabilityFilter : Filtered :=
  match mgr.getNodeInfo request.requestNodeId with
  | none => (nodes, .error .schedulerInval)
  | some node =>
    let peerSet := mgr.getReachablePeers request.requestNodeId ++
      node.getAllSocketInfo.map fun s => (request.requestNodeId, s.1)
    (removeEmptyNodes (keepSockets (fun node socketInfo =>
      (node.nodeId, socketInfo.socketId) ∈ peerSet) nodes), .ok ())

/-- `MaxLentSizeFilter`: the request fits below the bytes a socket may lend. -/
def maxLentSizeFilter : Filtered :=
  (removeEmptyNodes (keepSockets (fun node socketInfo =>
    match mgr.getNodeInfo node.nodeId with
    | none => false
    | some info =>
      match info.getSocketInfo socketInfo.socketId with
      | none => false
      | some socket =>
        (safeAdd request.requestSize (info.getSocketLentSize socketInfo.socketId)).any fun total =>
          socket.maxLentSize = 0 || total ≤ socket.maxLentSize) nodes), .ok ())

/-- The bytes a node may lend, `0` for no limit. -/
def poolBytes (info : SchedulerNodeInfo) : Nat := info.nodeMaxLendGb.toNat * 1073741824

/-- What `SharedPoolFilter` leaves of a node. -/
def sharedPoolNode (node : NodeInfo) : NodeInfo :=
  match mgr.getNodeInfo node.nodeId with
  | none => node
  | some info =>
    if poolBytes info = 0 ∨
        (safeAdd info.getLentSize request.requestSize).any (· ≤ poolBytes info) then node
    else { node with socketInfos := [] }

/-- `SharedPoolFilter`: the request fits below the bytes a node may lend. -/
def sharedPoolFilter : Filtered :=
  (removeEmptyNodes (nodes.map (sharedPoolNode mgr request)), .ok ())

/-- What `FreeMemoryFilter` leaves of the sockets of a node. -/
def freeMemorySockets (info : SchedulerNodeInfo) (socketInfos : List SocketInfo) :
    List SocketInfo :=
  (sizeMb2Byte info.blockSize.toNat).elim [] fun blockSizeByte =>
    if info.blockSize = 0 then []
    else socketInfos.filter fun socketInfo =>
      (info.getSocketInfo socketInfo.socketId).isSome &&
        request.requestSize ≤
          info.getSocketAvailableLendSize socketInfo.socketId request.waterLine blockSizeByte

/-- What `FreeMemoryFilter` leaves of a node. -/
def freeMemoryNode (node : NodeInfo) : NodeInfo :=
  if request.requestSize = 0 then node
  else
    match mgr.getNodeInfo node.nodeId with
    | none => { node with socketInfos := [] }
    | some info => { node with socketInfos := freeMemorySockets request info node.socketInfos }

/-- `FreeMemoryFilter`: the whole blocks a socket can lend hold the request. -/
def freeMemoryFilter : Filtered :=
  (removeEmptyNodes (nodes.map (freeMemoryNode mgr request)), .ok ())

/-- `SocketAffinityFilter`: the plane of a socket of the requesting node. -/
def socketAffinityFilter : Filtered :=
  match request.affinitySocketId with
  | none => (nodes, .ok ())
  | some affinity =>
    if affinity = -1 then (nodes, .ok ())
    else
      let socketId := UInt32.ofInt affinity
      -- `GetSamePlaneSockets`: the peers of the socket, and the socket itself
      let peerSockets := (request.requestNodeId, socketId) ::
        mgr.getReachablePeersOfSocket request.requestNodeId socketId
      (removeEmptyNodes (keepSockets (fun node socketInfo =>
        (node.nodeId, socketInfo.socketId) ∈ peerSockets) nodes), .ok ())

/-- `SpecifiedLinkFilter`: the node, and the socket on the first node that is left. -/
def specifiedLinkFilter : Filtered :=
  match request.linkInfo with
  | none => (nodes, .ok ())
  | some linkInfo =>
    if linkInfo.lenderNode = "" then (nodes, .error .schedulerInval)
    else
      match keepNodes (fun node => node.nodeId = linkInfo.lenderNode) nodes with
      | [] => ([], .ok ())
      | node :: nodes =>
        ({ node with
           socketInfos := node.socketInfos.filter fun socketInfo =>
             socketInfo.socketId = UInt32.ofInt linkInfo.lenderSocketId } :: nodes, .ok ())

/-! ### The filter on specified lenders -/

/-- The socket a lender names, itself or through its numa. -/
def lenderSocket (lender : UbseMemLenderInfo) : SocketId :=
  if lender.socketId = invalidId ∧ lender.numaId ≠ invalidId then
    mgr.getSocketIdByNumaId lender.nodeId lender.numaId
  else lender.socketId

/-- What `ValidateLenderConsistency` asks of each lender: the node and the socket of the first
one, a port of the socket that is up, a numa of the socket. -/
def isConsistentLender (first lender : UbseMemLenderInfo) : Bool :=
  let socketId := lenderSocket mgr lender
  !(lender.portId ≠ invalidId && lender.socketId = invalidId && lender.numaId = invalidId) &&
    lender.nodeId = first.nodeId && socketId = lenderSocket mgr first &&
    (lender.portId = invalidId ||
      (mgr.getSocketInfo lender.nodeId socketId).any (lender.portId ∈ ·.ports)) &&
    (lender.numaId = invalidId || socketId = invalidId ||
      mgr.getSocketIdByNumaId lender.nodeId lender.numaId = socketId)

/-- `outNumaToSize` of `ValidateLenderConsistency`: the size the last lender of a numa asks of
it. -/
def numaToSize (lenders : List UbseMemLenderInfo) : Map NumaId Nat :=
  (lenders.filter (·.numaId ≠ invalidId)).foldl
    (fun sizes lender => sizes.insert lender.numaId lender.lenderSize) ∅

/-- The block in which the capacity of a node is counted, `1` when it has none. -/
def capacityBlock (info : SchedulerNodeInfo) : Nat :=
  if info.blockSize = 0 then 1 else (sizeMb2Byte info.blockSize.toNat).getD 1

/-- Whether a numa of a node holds, in whole blocks, what the request asks of it. -/
def hasCapacity (nodeId : NodeId) (blockSize : Nat) (sizes : Map NumaId Nat) (waterLine : Nat)
    (numaId : NumaId) : Bool :=
  (sizes.lookup numaId).any fun requiredSize =>
    (mgr.getNumaInfo nodeId numaId).any fun numa =>
      requiredSize ≤ floorBlock (numa.getAvailableLendSize waterLine) blockSize

/-- `CheckNumaCapacity`: on the first node that is left, the numas that hold what is asked. -/
def checkNumaCapacity (sizes : Map NumaId Nat) : List NodeInfo → Filtered
  | [] => ([], .ok ())
  | node :: nodes =>
    if sizes.entries = [] then (node :: nodes, .ok ())
    else
      match mgr.getNodeInfo node.nodeId with
      | none => (node :: nodes, .error .error)
      | some info =>
        ({ node with
           socketInfos := node.socketInfos.map fun socketInfo =>
             { socketInfo with
               numaInfos := socketInfo.numaInfos.filter
                 (hasCapacity mgr node.nodeId (capacityBlock info) sizes
                   request.waterLine) } } :: nodes, .ok ())

/-- `FilterBySocketId`, on the first node that is left. -/
def filterBySocketId (socketId : SocketId) : List NodeInfo → List NodeInfo
  | [] => []
  | node :: nodes =>
    if socketId = invalidId then node :: nodes
    else
      { node with socketInfos := node.socketInfos.filter (·.socketId = socketId) } :: nodes

/-- `FilterByNumaIds`, on the first node that is left. -/
def filterByNumaIds (sizes : Map NumaId Nat) : List NodeInfo → List NodeInfo
  | [] => []
  | node :: nodes =>
    if sizes.entries = [] then node :: nodes
    else
      { node with
        socketInfos := node.socketInfos.map fun socketInfo =>
          { socketInfo with numaInfos := socketInfo.numaInfos.filter (· ∈ sizes) } } :: nodes

/-- `CleanupEmptyNodes`. -/
def cleanupEmptyNodes (nodes : List NodeInfo) : List NodeInfo :=
  removeEmptyNodes (keepSockets (fun _ socketInfo => socketInfo.numaInfos ≠ []) nodes)

/-- `SpecifiedLenderFilter`. -/
def specifiedLenderFilter : Filtered :=
  match request.lenderInfos with
  | none | some [] => (nodes, .ok ())
  | some (first :: lenders) =>
    if (first :: lenders).all (isConsistentLender mgr first) then
      let sizes := numaToSize (first :: lenders)
      let nodes := keepNodes (fun node => node.nodeId = first.nodeId) nodes
      let nodes := filterBySocketId (lenderSocket mgr first) nodes
      let nodes := filterByNumaIds sizes nodes
      match checkNumaCapacity mgr request sizes nodes with
      | (nodes, .error e) => (nodes, .error e)
      | (nodes, .ok ()) => (cleanupEmptyNodes nodes, .ok ())
    else ([], .error .schedulerInval)

/-! ### The chain -/

/-- The filter of a name. -/
def applyFilter (name : FilterName) : Filtered :=
  match name with
  | .configConsistency => configConsistencyFilter mgr nodes
  | .roleConflict => roleConflictFilter mgr request nodes
  | .lenderRole => lenderRoleFilter mgr nodes
  | .group => groupFilter mgr request nodes
  | .provider => providerFilter mgr nodes
  | .nodeState => nodeStateFilter mgr nodes
  | .region => regionFilter mgr request nodes
  | .radiusBorrow => radiusBorrowFilter mgr accounts request nodes
  | .radiusLender => radiusLenderFilter mgr accounts request nodes
  | .lendCount => lendCountFilter mgr request nodes
  | .topoReachability => topoReachabilityFilter mgr request nodes
  | .maxLentSize => maxLentSizeFilter mgr request nodes
  | .sharedPool => sharedPoolFilter mgr request nodes
  | .freeMemory => freeMemoryFilter mgr request nodes
  | .requestedProviders => requestedProvidersFilter request nodes
  | .specifiedLender => specifiedLenderFilter mgr request nodes
  | .specifiedLink => specifiedLinkFilter request nodes
  | .socketAffinity => socketAffinityFilter mgr request nodes

end Filters

/-- `FilterByNames`: one filter after the other, up to the first error. -/
def filterByNames (mgr : SchedulerNodeManager) (accounts : SchedulerAccountManager)
    (request : SchedulerRequest) : List FilterName → List NodeInfo → Filtered
  | [], nodes => (nodes, .ok ())
  | name :: names, nodes =>
    match applyFilter mgr accounts request nodes name with
    | (nodes, .error e) => (nodes, .error e)
    | (nodes, .ok ()) => filterByNames mgr accounts request names nodes

/-- `FilterNodes` of the filter manager. -/
def filterNodes (mgr : SchedulerNodeManager) (accounts : SchedulerAccountManager)
    (request : SchedulerRequest) (nodes : List NodeInfo) : Filtered :=
  filterByNames mgr accounts request request.filterNames nodes

end Scheduler

end UbsEngine
