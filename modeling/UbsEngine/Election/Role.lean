import UbsEngine.Library.Assoc
import Mathlib.Data.List.Sort
import Mathlib.Data.String.Basic

/-!
# The roles of an election

Every node of a cluster is, at any time, in one of four roles: an initializer that has not
found a master yet, an agent or the standby of a master, or the master. A role is an object
with a state of its own, built by a constructor from a context that the previous role hands
over, and it answers to two calls: `ProcTimer`, from the node's only timer thread, and
`RecvPkt`, for every packet that arrives.

This file has the data: the packets, the configuration of a node, the state of each role,
and the constructors. Node ids are strings, compared as C++ compares them, and the empty
string is the id of no node. Terms (`turnId`) are 64-bit numbers, which is visible in the
one place that adds to them. The clock readings that the functions take from the operating
system are arguments of the functions that follow.
-/

namespace UbsEngine

namespace Election

/-- The id of a node: `UBSE_ID_TYPE`. -/
abbrev NodeId := String

/-- `INVALID_NODE_ID`. -/
def invalidNodeId : NodeId := ""

/-- Whether a node has been reconciled: `UbseNodeLocalState`. -/
inductive UbseNodeLocalState
  | restore
  | ready
  deriving DecidableEq, Repr

/-! ### Packets -/

/-- The type field of an `ElectionPkt`. -/
inductive ElectionPktType
  /-- `ELECTION_PKT_TYPE_SELECT`. -/
  | select
  /-- `ELECTION_PKT_TYPE_HEART`. -/
  | heart
  /-- Any other value of the field. -/
  | other
  deriving DecidableEq, Repr

/-- `ElectionPkt`: a request for a vote, or the heartbeat of a master. -/
structure ElectionPkt where
  type : ElectionPktType
  /-- The sender of a request, the master of a heartbeat. -/
  masterId : NodeId
  standbyId : NodeId := invalidNodeId
  turnId : ℕ := 0
  sequenceId : ℕ := 0
  agentCount : ℕ := 0
  agentIds : List NodeId := []
  masterStatus : ℕ := 0
  standbyStatus : ℕ := 0
  /-- Whether the receiver has been told already that the master is online. -/
  broadcast : Bool := false
  deriving DecidableEq, Repr

/-- The answer to a packet: `ELECTION_PKT_RESULT_ACCEPT`, `ELECTION_PKT_TYPE_REJECT` and
`ELECTION_PKT_TYPE_REJECT_HAS_MASTER`. -/
inductive ReplyResult
  | accept
  | reject
  | rejectHasMaster
  deriving DecidableEq, Repr

/-- `ElectionReplyPkt`; the handlers fill in a reply that is created with the defaults. -/
structure ElectionReplyPkt where
  replyId : NodeId := invalidNodeId
  replyResult : ReplyResult := .accept
  masterId : NodeId := invalidNodeId
  turnId : ℕ := 0
  standbyStatus : ℕ := 0
  broadcast : Bool := false
  deriving DecidableEq, Repr

/-! ### The configuration of a node -/

/-- The default interval is within the bounds. -/
theorem twoSeconds_mem : 1000 ≤ 2000 ∧ 2000 ≤ 60000 := by decide

/-- So is the default of the losses. -/
theorem threeTimes_mem : 3 ≤ 3 ∧ 3 ≤ 20 := by decide

/-- What a node reads from its configuration and its node manager: who it is, the nodes of
the cluster, the nodes it is connected to, and the settings of the election. The bounds of
the heartbeat settings are those the node manager enforces when it loads them. -/
structure NodeConfig where
  /-- `GetMyselfNode`. -/
  myselfId : NodeId
  /-- `GetAllNode`. -/
  allNodes : List NodeId
  /-- `GetConnectedNodes`. -/
  connectedNodes : List NodeId
  /-- `election.candidateNodes`; the empty list stands for "not configured". -/
  candidateNodes : List NodeId := []
  /-- `election.candidate`. -/
  electionCandidate : Bool := true
  /-- `election.wait`. -/
  electionWait : Bool := true
  /-- `GetHeartTimeInterval`, in milliseconds. -/
  heartTimeInterval : ℕ := 2000
  /-- `GetHbLostTimes`. -/
  hbLostTimes : ℕ := 3
  heartTimeInterval_mem : 1000 ≤ heartTimeInterval ∧ heartTimeInterval ≤ 60000 := by
    first | exact twoSeconds_mem | decide
  hbLostTimes_mem : 3 ≤ hbLostTimes ∧ hbLostTimes ≤ 20 := by
    first | exact threeTimes_mem | decide

namespace NodeConfig

variable (cfg : NodeConfig)

/-- `GetElectionCandidate`: the list of candidates decides when there is one. -/
def getElectionCandidate : Bool :=
  if cfg.candidateNodes ≠ [] then decide (cfg.myselfId ∈ cfg.candidateNodes)
  else cfg.electionCandidate

/-- `IsAllowedMasterNode`. -/
def isAllowedMasterNode (nodeId : NodeId) : Bool :=
  cfg.candidateNodes = [] ∨ nodeId ∈ cfg.candidateNodes

/-- `GetAllNeighbourNode`; on an error the list stays empty. -/
def getAllNeighbourNode : List NodeId :=
  if cfg.myselfId ∈ cfg.allNodes then cfg.allNodes.filter (· ≠ cfg.myselfId) else []

end NodeConfig

/-! ### Choosing the smallest id -/

/-- `FindSmallestId`. -/
def findSmallestId (allNodes : List NodeId) : NodeId :=
  allNodes.foldl (fun smallestId nodeId =>
    if smallestId = invalidNodeId ∨ nodeId < smallestId then nodeId else smallestId)
    invalidNodeId

/-- `FindSmallestIdExcludingMaster`. -/
def findSmallestIdExcludingMaster (masterId : NodeId) (allNodes : List NodeId) : NodeId :=
  findSmallestId (allNodes.filter (· ≠ masterId))

/-- `FindSmallestIdExcludingMasterAndAgent`. -/
def findSmallestIdExcludingMasterAndAgent (allNodes : List NodeId) (masterId agentId : NodeId) :
    NodeId :=
  findSmallestId (allNodes.filter fun nodeId => nodeId ≠ masterId ∧ nodeId ≠ agentId)

/-- `IsSmallestNode`. -/
def isSmallestNode (myself : NodeId) (allNodes : List NodeId) : Bool :=
  if allNodes.length < 2 then true
  else allNodes.all fun node => node = invalidNodeId ∨ myself ≤ node

/-- `IsSecondSmallestNode`. -/
def isSecondSmallestNode (myself : NodeId) (allNodes : List NodeId) : Bool :=
  if allNodes.length < 2 then true
  else
    let validNodes := allNodes.filter (· ≠ invalidNodeId)
    if validNodes.length < 2 then true
    else (validNodes.insertionSort (· ≤ ·))[1]? = some myself

/-! ### The roles -/

/-- `RoleContext`: what a role hands to its successor. -/
structure RoleContext where
  turnId : ℕ := 0
  masterId : NodeId := invalidNodeId
  standbyId : NodeId := invalidNodeId
  deriving DecidableEq, Repr

/-- What a master remembers of one node: `BroadcastStatus`. -/
structure BroadcastStatus where
  /-- `masterOnlineBcStatus = BROADCAST`. -/
  masterOnlineBcStatus : Bool := false
  masterOnlineBcTimes : ℕ := 0
  /-- `activeStatus = ACTIVE`. -/
  active : Bool := false
  heartBeatLossCnt : ℕ := 0
  deriving DecidableEq, Repr

/-- The state of an `Initializer`. -/
structure InitializerState where
  startTimeMs : ℕ
  lastTimeMs : ℕ
  isStartTimeSet : Bool := false
  deriving DecidableEq, Repr

/-- The state of an `Agent`. -/
structure AgentState where
  masterId : NodeId
  standbyId : NodeId
  turnId : ℕ
  lastHeartTime : ℕ
  sequenceId : ℕ := 0
  agentIds : List NodeId := []
  masterStatus : ℕ := 0
  standbyStatus : ℕ := 0
  deriving DecidableEq, Repr

/-- The state of a `Standby`; its `standbyId` is the node itself. -/
structure StandbyState where
  masterId : NodeId
  standbyId : NodeId
  turnId : ℕ
  lastHeartTime : ℕ
  sequenceId : ℕ := 0
  agentIds : List NodeId := []
  masterStatus : ℕ := 0
  deriving DecidableEq, Repr

/-- The state of a `Master`; its `masterId` is the node itself. -/
structure MasterState where
  masterId : NodeId
  standbyId : NodeId
  turnId : ℕ
  lastTimeMs : ℕ := 0
  sequenceId : ℕ := 0
  standbyStatus : ℕ := 0
  broadcast : Map NodeId BroadcastStatus := ∅
  preNodes : List NodeId := []

/-- The current role of a node. -/
inductive ElectionRole
  | initializer (s : InitializerState)
  | agent (s : AgentState)
  | standby (s : StandbyState)
  | master (s : MasterState)

namespace ElectionRole

/-- The node believes that it is the master. -/
def IsMaster : ElectionRole → Prop
  | master _ => True
  | _ => False

/-- `GetTurnId`. -/
def getTurnId : ElectionRole → ℕ
  | initializer _ => 0
  | agent s => s.turnId
  | standby s => s.turnId
  | master s => s.turnId

@[simp] theorem isMaster_initializer (s : InitializerState) : ¬(initializer s).IsMaster := id
@[simp] theorem isMaster_agent (s : AgentState) : ¬(agent s).IsMaster := id
@[simp] theorem isMaster_standby (s : StandbyState) : ¬(standby s).IsMaster := id
@[simp] theorem isMaster_master (s : MasterState) : (master s).IsMaster := trivial

instance : DecidablePred IsMaster
  | master _ => isTrue trivial
  | initializer _ => isFalse id
  | agent _ => isFalse id
  | standby _ => isFalse id

end ElectionRole

/-- The roles that `SwitchRole` can be asked for. -/
inductive RoleType
  | master
  | standby
  | agent
  | initializer
  deriving DecidableEq, Repr

/-! ### The constructors -/

/-- `Initializer::Initializer`. -/
def mkInitializer (bootTime : ℕ) : InitializerState where
  startTimeMs := bootTime
  lastTimeMs := bootTime

/-- `Agent::Agent`: the term of the context is not taken over. -/
def mkAgent (bootTime : ℕ) (ctx : RoleContext) : AgentState where
  masterId := ctx.masterId
  standbyId := ctx.standbyId
  turnId := 0
  lastHeartTime := bootTime

/-- `Standby::Standby`. -/
def mkStandby (cfg : NodeConfig) (bootTime : ℕ) (ctx : RoleContext) : StandbyState where
  masterId := ctx.masterId
  standbyId := cfg.myselfId
  turnId := ctx.turnId
  lastHeartTime := bootTime

/-- `Master::InitNodesStatus`. -/
def initNodesStatus (nodes : List NodeId) : Map NodeId BroadcastStatus :=
  nodes.foldl (fun broadcast nodeId => broadcast.insert nodeId {}) ∅

/-- `Master::Master`: a new term, in 64 bits. -/
def mkMaster (cfg : NodeConfig) (ctx : RoleContext) : MasterState where
  masterId := cfg.myselfId
  standbyId := ctx.standbyId
  turnId := (ctx.turnId + 1) % 2 ^ 64
  broadcast := initNodesStatus cfg.getAllNeighbourNode

/-- `SwitchRole`: the role that is constructed. -/
def newRole (cfg : NodeConfig) (bootTime : ℕ) (ctx : RoleContext) : RoleType → ElectionRole
  | .master => .master (mkMaster cfg ctx)
  | .standby => .standby (mkStandby cfg bootTime ctx)
  | .agent => .agent (mkAgent bootTime ctx)
  | .initializer => .initializer (mkInitializer bootTime)

end Election

end UbsEngine
