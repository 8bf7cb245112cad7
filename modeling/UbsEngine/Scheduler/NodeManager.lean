import UbsEngine.Scheduler.Cache

/-!
# The nodes of the scheduler

The table of nodes, the lists the configuration makes of them and the links between their
sockets, with the two ways they change: a node reports a change of its state
(`UbsEngine.Scheduler.SchedulerNodeManager.updateNodeInfo`), or the scheduler reads the
memory and the links of all nodes before it places a request
(`UbsEngine.Scheduler.SchedulerNodeManager.updateAllNumaMemInfo`,
`UbsEngine.Scheduler.SchedulerNodeManager.updateAllLinkInfo`).

A node that reports for the first time, that initialises, or that comes back from being lost
or down is built anew, and a node built anew has all its counters at zero.
-/

namespace UbsEngine

namespace Scheduler

/-- The result codes of the scheduler, `OK` apart. -/
inductive UbseError
  /-- `UBSE_ERROR`. -/
  | error
  /-- `UBSE_ERROR_INVAL`. -/
  | inval
  /-- `UBSE_ERROR_CONF_INVALID`. -/
  | confInvalid
  /-- `UBSE_SCHEDULER_ERROR_INVAL`. -/
  | schedulerInval
  /-- `UBSE_SCHEDULER_ERROR_NO_NODE_CAN_LEND`, 801. -/
  | noNodeCanLend
  /-- `UBSE_SCHEDULER_ERROR_NODE_RECONCILE`, 802. -/
  | nodeReconcile
  /-- `UBSE_SCHEDULER_ERROR_SIZE_EXCEED_LEND`, 803. -/
  | sizeExceedLend
  deriving DecidableEq

/-- `UbseResult`: nothing is wrong, or an error. -/
abbrev UbseResult := Except UbseError Unit

/-- `SchedulerMode`. -/
inductive SchedulerMode
  | freePriority
  | reliabilityPriority
  | performancePriority
  deriving DecidableEq

/-- The configuration the scheduler reads, with the host name lists split and their invalid
names removed; `none` is a key that cannot be read. -/
structure SchedulerConf where
  /-- `provider`. -/
  provider : Option (List String) := none
  /-- `group`. -/
  group : Option (List (List String)) := none
  /-- `radius.borrow`. -/
  radiusBorrow : Nat := 65535
  /-- `radius.lender`. -/
  radiusLender : Nat := 65535
  /-- `scheduler.mode`. -/
  schedulerMode : SchedulerMode := .freePriority

/-- `SchedulerNodeManager`. -/
structure SchedulerNodeManager where
  /-- What `Init` read from the configuration. -/
  conf : SchedulerConf := {}
  nodeMap : Map NodeId SchedulerNodeInfo := ∅
  /-- The nodes as the filters start from them, in the order of their last registration. -/
  nodeInfos : List NodeInfo := []
  staticNodes : List NodeId := []
  providerNodes : List NodeId := []
  groupNodes : List (List NodeId) := []
  chipToSocket : Map NodeId (Map SocketId ChipId) := ∅
  socketToChip : Map NodeId (Map ChipId SocketId) := ∅

namespace SchedulerNodeManager

variable (mgr : SchedulerNodeManager)

/-! ### Reading -/

/-- `GetNodeInfo`. -/
def getNodeInfo (nodeId : NodeId) : Option SchedulerNodeInfo := mgr.nodeMap.lookup nodeId

/-- `GetSocketInfo`. -/
def getSocketInfo (nodeId : NodeId) (socketId : SocketId) : Option SchedulerSocketInfo :=
  (mgr.getNodeInfo nodeId).bind fun node => node.getSocketInfo socketId

/-- `GetNumaInfo`: the numa, in whichever socket of the node it is. -/
def getNumaInfo (nodeId : NodeId) (numaId : NumaId) : Option SchedulerNumaInfo :=
  (mgr.getNodeInfo nodeId).bind fun node => node.findNuma numaId

/-- `GetSocketIdByNumaId`. -/
def getSocketIdByNumaId (nodeId : NodeId) (numaId : NumaId) : SocketId :=
  ((mgr.getNumaInfo nodeId numaId).map (·.socketId)).getD invalidId

/-- `GetAllNodes`. -/
def getAllNodes : List NodeInfo := mgr.nodeInfos

/-- `GetGroupNodes`: the first group the node is in. -/
def getGroupNodes (nodeId : NodeId) : List NodeId :=
  (mgr.groupNodes.find? fun group => nodeId ∈ group).getD []

/-- `GetReachablePeers` of a node: what the ports of its sockets lead to. -/
def getReachablePeers (nodeId : NodeId) : List (NodeId × SocketId) :=
  match mgr.getNodeInfo nodeId with
  | none => []
  | some node => node.getAllSocketInfo.flatMap fun s => s.2.resolveRawPorts mgr.socketToChip

/-- `GetReachablePeers` of a socket. -/
def getReachablePeersOfSocket (nodeId : NodeId) (socketId : SocketId) :
    List (NodeId × SocketId) :=
  match mgr.getSocketInfo nodeId socketId with
  | none => []
  | some socket => socket.resolveRawPorts mgr.socketToChip

/-- `GetLenderBalance`. -/
def getLenderBalance : Bool := mgr.conf.schedulerMode = .reliabilityPriority

/-! ### Changing one numa or socket -/

/-- The change of a numa that `GetNumaInfo` finds. -/
def modifyNuma (nodeId : NodeId) (numaId : NumaId) (f : SchedulerNumaInfo → SchedulerNumaInfo) :
    SchedulerNodeManager :=
  if (mgr.getNumaInfo nodeId numaId).isSome then
    { mgr with nodeMap := mgr.nodeMap.modify nodeId fun node => node.modifyNuma numaId f }
  else mgr

/-- The change of a socket that `GetSocketInfo` finds. -/
def modifySocket (nodeId : NodeId) (socketId : SocketId)
    (f : SchedulerSocketInfo → SchedulerSocketInfo) : SchedulerNodeManager :=
  { mgr with nodeMap := mgr.nodeMap.modify nodeId fun node => node.modifySocket socketId f }

/-! ### A node reports -/

/-- `UpdateNodeInfoCache`: the node goes to the end of the list. -/
def updateNodeInfoCache (nodeId : NodeId) : SchedulerNodeManager :=
  match mgr.getNodeInfo nodeId with
  | none => mgr
  | some node =>
    { mgr with nodeInfos := (mgr.nodeInfos.filter (·.nodeId ≠ nodeId)) ++ [node.getNodeInfo] }

/-- `InitOneNodeData`. -/
def initOneNodeData (info : UbseNodeInfo) : SchedulerNodeManager :=
  { mgr with nodeMap := mgr.nodeMap.insert info.nodeId (SchedulerNodeInfo.create info) }

/-- The chips of one cpu. -/
def linkChip (cpu : UbseCpuInfo) (chipId : ChipId) : SchedulerNodeManager :=
  let slot := toString cpu.slotId.toNat
  { mgr with
    chipToSocket := mgr.chipToSocket.insert slot
      (((mgr.chipToSocket.lookup slot).getD ∅).insert cpu.socketId chipId)
    socketToChip := mgr.socketToChip.insert slot
      (((mgr.socketToChip.lookup slot).getD ∅).insert chipId cpu.socketId) }

/-- The chips of all cpus, up to the first whose chip id is no number. -/
def linkChips :
    SchedulerNodeManager → List UbseCpuInfo → SchedulerNodeManager × UbseResult
  | mgr, [] => (mgr, .ok ())
  | mgr, cpu :: cpus =>
    match cpu.chipId with
    | none => (mgr, .error .inval)
    | some chipId => linkChips (mgr.linkChip cpu chipId) cpus

/-- An id put into a set, kept as a list. -/
def insertId (nodeId : NodeId) (ids : List NodeId) : List NodeId :=
  if nodeId ∈ ids then ids else nodeId :: ids

/-- `UpdateProviderNodeList`: every node provides, unless the configuration lists hosts. -/
def updateProviderNodeList (nodeId : NodeId) (hostName : String) : SchedulerNodeManager :=
  match mgr.conf.provider with
  | none | some [] => { mgr with providerNodes := insertId nodeId mgr.providerNodes }
  | some hosts =>
    if hostName ∈ hosts then { mgr with providerNodes := insertId nodeId mgr.providerNodes }
    else mgr

/-- A node put into the `i`-th set of a list of sets, which is made long enough. -/
def insertGroup (groups : List (List NodeId)) (i : Nat) (nodeId : NodeId) : List (List NodeId) :=
  let groups := groups ++ List.replicate (i + 1 - groups.length) []
  groups.modify i (insertId nodeId)

/-- `UpdateGroupNodeList`: the first group, unless the configuration lists groups. -/
def updateGroupNodeList (nodeId : NodeId) (hostName : String) : SchedulerNodeManager :=
  match (mgr.conf.group.map fun groups => groups.filter (· ≠ [])) with
  | none | some [] => { mgr with groupNodes := insertGroup mgr.groupNodes 0 nodeId }
  | some groups =>
    { mgr with
      groupNodes := (groups.zipIdx.filter fun g => hostName ∈ g.1).foldl
        (fun sets g => insertGroup sets g.2 nodeId) mgr.groupNodes }

/-- `UpdateStaticNodeInfo`. -/
def updateStaticNodeInfo (deployed : List Nat) : SchedulerNodeManager :=
  { mgr with
    staticNodes := deployed.foldl (fun ids n => insertId (toString n) ids) mgr.staticNodes }

/-- Whether a report builds its node anew: the first one, one of a node that initialises, and
one of a node that was lost or down. -/
def rebuilds (info : UbseNodeInfo) : Bool :=
  match mgr.getNodeInfo info.nodeId with
  | none => true
  | some node =>
    info.clusterState = .init || node.clusterState = .unknown || node.clusterState = .fault

/-- What every report ends with: the state and the host name of the node. -/
def updateNodeState (info : UbseNodeInfo) : SchedulerNodeManager :=
  { mgr with
    nodeMap := mgr.nodeMap.modify info.nodeId fun node =>
      { node with clusterState := info.clusterState, hostName := info.hostName } }

/-- `UpdateNodeInfo`, with the slots that `UbseGetAllDeployedNode` knows. A node that is down
is not built: its report has no numas. -/
def updateNodeInfo (info : UbseNodeInfo) (deployed : List Nat) :
    SchedulerNodeManager × UbseResult :=
  if info.nodeId = "" then (mgr, .error .error)
  else if mgr.rebuilds info then
    if info.clusterState = .fault then (mgr, .ok ())
    else
      match ((mgr.initOneNodeData info).updateNodeInfoCache info.nodeId).linkChips info.cpuInfos with
      | (mgr, .error e) => (mgr, .error e)
      | (mgr, .ok ()) =>
        let mgr := mgr.updateProviderNodeList info.nodeId info.hostName
        let mgr := mgr.updateGroupNodeList info.nodeId info.hostName
        let mgr := mgr.updateStaticNodeInfo deployed
        (mgr.updateNodeState info, .ok ())
  else (mgr.updateNodeState info, .ok ())

/-! ### The scheduler reads all nodes -/

/-- Whether what the node controller has of a node can be used. -/
def isReliable (info : UbseNodeInfo) : Bool :=
  info.clusterState ≠ .fault ∧ info.clusterState ≠ .unknown

/-- The new sizes of the numas of a node. -/
def updateNumas (nodeId : NodeId) (numas : List (NumaId × UbseNumaInfo)) : SchedulerNodeManager :=
  numas.foldl (fun mgr e =>
    { mgr with
      nodeMap := mgr.nodeMap.modify nodeId fun node =>
        if (node.getNumaInfo e.2.socketId e.1).isSome then
          node.modifyNuma e.1 fun numa => numa.updateNumaMemorySize e.2
        else node }) mgr

/-- `UpdateAllNumaMemInfo`: the nodes in the order given, up to the first unknown one. -/
def updateAllNumaMemInfo :
    SchedulerNodeManager → List (NodeId × UbseNodeInfo) → SchedulerNodeManager × UbseResult
  | mgr, [] => (mgr, .ok ())
  | mgr, (nodeId, info) :: nodes =>
    if isReliable info then
      match mgr.getNodeInfo nodeId with
      | none => (mgr, .error .error)
      | some _ =>
        updateAllNumaMemInfo
          (mgr.updateNumas nodeId (info.numaInfos.entries.map fun e => (e.1, e.2))) nodes
    else updateAllNumaMemInfo mgr nodes

/-- The new links of the sockets of a node. -/
def updateLinks (nodeId : NodeId) (cpus : List UbseCpuInfo) : SchedulerNodeManager :=
  cpus.foldl (fun mgr cpu => mgr.modifySocket nodeId cpu.socketId (·.updateLinkInfo cpu)) mgr

/-- The loop of `UpdateAllLinkInfo`. -/
def updateAllLinks :
    SchedulerNodeManager → List (NodeId × UbseNodeInfo) → SchedulerNodeManager × UbseResult
  | mgr, [] => (mgr, .ok ())
  | mgr, (nodeId, info) :: nodes =>
    if isReliable info then
      match mgr.getNodeInfo nodeId with
      | none => (mgr, .error .error)
      | some _ => updateAllLinks (mgr.updateLinks nodeId info.cpuInfos) nodes
    else updateAllLinks mgr nodes

/-- `UpdateAllLinkInfo`. -/
def updateAllLinkInfo (nodes : List (NodeId × UbseNodeInfo)) (deployed : List Nat) :
    SchedulerNodeManager × UbseResult :=
  (mgr.updateStaticNodeInfo deployed).updateAllLinks nodes

end SchedulerNodeManager

end Scheduler

end UbsEngine
