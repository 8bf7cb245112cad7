import UbsEngine.Election.Role

/-!
# What a role does

The handlers of the four roles, and the node around them.

A handler of the source runs under the lock of its role object, with one exception: an
initializer and an agent ask the other nodes for their votes *outside* that lock, one after
the other, and decide in a second critical section. So an election is a part of the state of
the node, `UbsEngine.Election.Ballot`, which lives between the timer call that starts it and
`UbsEngine.Election.Node.conclude`, and in between the node receives packets like any other.
The role object that started a ballot may have been replaced when it ends; the number
`epoch` stands for the identity of the role object, and both sections compare it, as the
source compares pointers.

`UbsEngine.Election.Node.recvPkt` is the whole of `RecvPkt`: it takes the reply as it is
created and returns it filled in, together with the node. The clock is the argument
`bootTime`, the readiness of the process is the argument `workReadiness`.
-/

namespace UbsEngine

namespace Election

variable (cfg : NodeConfig)

/-! ### Heartbeat timeouts -/

/-- `IsAgentHeartBeatTimeout` and `IsStandbyHeartBeatTimeout`. -/
def isHeartBeatTimeout (bootTime lastHeartTime heartbeatMultiplier : ℕ) : Bool :=
  if bootTime < lastHeartTime then false
  else bootTime - lastHeartTime > heartbeatMultiplier * cfg.heartTimeInterval

/-! ### The master -/

/-- The notifications a master publishes. -/
inductive Notification
  /-- `NODE_UP`. -/
  | nodeUp (nodeId : NodeId)
  /-- `NODE_DOWN`. -/
  | nodeDown (nodeId : NodeId)
  /-- `CHANGE_SWITCH_TO_STANDBY`. -/
  | changeSwitchToStandby (nodeId : NodeId)
  deriving DecidableEq, Repr

namespace MasterState

variable (m : MasterState)

/-- `broadcast_[id]`, where a missing entry is created with zeros. -/
def status (id : NodeId) : BroadcastStatus := (m.broadcast.lookup id).getD {}

/-- Overwrite `broadcast_[id]`. -/
def setStatus (id : NodeId) (b : BroadcastStatus) : MasterState :=
  { m with broadcast := m.broadcast.insert id b }

/-- `GetActiveNodes`, in the order of the map. -/
def getActiveNodes : List NodeId :=
  (m.broadcast.keys.insertionSort (· ≤ ·)).filter fun id => (m.status id).active

/-- `GetAllAgentIDs`: the active nodes but the master and its standby. -/
def getAllAgentIDs : List NodeId :=
  m.getActiveNodes.filter fun id => id ≠ m.masterId ∧ id ≠ m.standbyId

/-- `DealHbCnt`: one more heartbeat without an answer. -/
def dealHbCnt (id : NodeId) : MasterState :=
  let b := m.status id
  let b := { b with heartBeatLossCnt := b.heartBeatLossCnt + 1 }
  if b.heartBeatLossCnt > cfg.hbLostTimes then
    m.setStatus id { b with active := false, masterOnlineBcStatus := false, masterOnlineBcTimes := 0 }
  else m.setStatus id b

/-- `DealNodeUpdate`: what became of the nodes since the last round. -/
def dealNodeUpdate : List Notification :=
  let currentNodes := m.getActiveNodes.insertionSort (· ≤ ·)
  let preNodes := m.preNodes.insertionSort (· ≤ ·)
  if currentNodes = preNodes then []
  else
    ((currentNodes.filter (· ∉ preNodes)).map .nodeUp) ++
      ((preNodes.filter (· ∉ currentNodes)).map .nodeDown)

/-- `PrepareElectionPkt`. -/
def prepareElectionPkt (workReadiness : ℕ) : ElectionPkt where
  type := .heart
  masterId := m.masterId
  standbyId := m.standbyId
  turnId := m.turnId
  sequenceId := m.sequenceId
  agentIds := m.getAllAgentIDs
  agentCount := m.getAllAgentIDs.length
  masterStatus := workReadiness
  standbyStatus := m.standbyStatus

/-- The first step of a round: a master without a standby appoints one. -/
def appointStandby : MasterState × List Notification :=
  if m.standbyId = invalidNodeId then
    let standbyId := findSmallestIdExcludingMaster m.masterId m.getActiveNodes
    ({ m with standbyId },
      if standbyId ≠ invalidNodeId then [.changeSwitchToStandby standbyId] else [])
  else (m, [])

/-- `ReplaceStandbyNode`: a standby that has missed too many heartbeats is replaced, in the
state and in the packet that is about to be sent. -/
def replaceStandbyNode (pkt : ElectionPkt) : MasterState × ElectionPkt × List Notification :=
  if m.standbyId ≠ invalidNodeId ∧ (m.status m.standbyId).heartBeatLossCnt ≥ cfg.hbLostTimes then
    let smallestId :=
      findSmallestIdExcludingMasterAndAgent m.getActiveNodes m.masterId m.standbyId
    ({ m with standbyId := smallestId }, { pkt with standbyId := smallestId },
      if smallestId ≠ invalidNodeId then [.changeSwitchToStandby smallestId] else [])
  else (m, pkt, [])

/-- The heartbeat of a round, and the state in which the round leaves the standby. -/
def buildHeartbeat (workReadiness : ℕ) : MasterState × ElectionPkt × List Notification :=
  let (m, appointed) := m.appointStandby
  let (m, pkt, replaced) := m.replaceStandbyNode cfg (m.prepareElectionPkt workReadiness)
  (m, pkt, appointed ++ replaced)

/-- One heartbeat leaves for each connected node, and counts as lost until it is answered. -/
def sendHeartbeats (pkt : ElectionPkt) : MasterState × List (NodeId × ElectionPkt) :=
  cfg.connectedNodes.foldl
    (fun (m, sent) id =>
      (m.dealHbCnt cfg id,
        sent ++ [(id, { pkt with broadcast := (m.status id).masterOnlineBcStatus })]))
    (m, [])

/-- `Master::ProcTimer`: the state after a round, the heartbeats sent and the notifications
published. -/
def procTimer (bootTime workReadiness : ℕ) :
    MasterState × List (NodeId × ElectionPkt) × List Notification :=
  if bootTime - m.lastTimeMs > cfg.heartTimeInterval then
    let (m, pkt, appointed) := m.buildHeartbeat cfg workReadiness
    let (m, sent) := m.sendHeartbeats cfg pkt
    ({ m with
        preNodes := m.getActiveNodes
        sequenceId := m.sequenceId + 1
        lastTimeMs := bootTime },
      sent, appointed ++ m.dealNodeUpdate)
  else (m, [], [])

/-- `UpdateBroadcastStatus`: the answer to a heartbeat. -/
def updateBroadcastStatus (nodeId : NodeId) (reply : ElectionReplyPkt) : MasterState :=
  let b := m.status nodeId
  let m' :=
    if reply.replyResult = .accept then
      m.setStatus nodeId
        (if reply.broadcast then
          { b with heartBeatLossCnt := 0, active := true, masterOnlineBcStatus := true }
        else
          { b with
            heartBeatLossCnt := 0
            active := true
            masterOnlineBcTimes := b.masterOnlineBcTimes + 1 })
    else m.setStatus nodeId b
  { m' with standbyStatus := reply.standbyStatus }

/-- `SetNodeDownStatus`. -/
def setNodeDownStatus (nodeId : NodeId) : MasterState × List Notification :=
  let b := m.status nodeId
  let (m, published) :=
    if b.active then
      ({ m.setStatus nodeId
          { b with active := false, masterOnlineBcStatus := false, masterOnlineBcTimes := 0 } with
          preNodes := m.preNodes.erase nodeId },
        [Notification.nodeDown nodeId])
    else (m.setStatus nodeId b, [])
  (if nodeId = m.standbyId then { m with standbyId := invalidNodeId } else m, published)

/-- The number of nodes that a master counts as its own: agents and standby. -/
def followerCount : ℕ :=
  m.getAllAgentIDs.length + if m.standbyId ≠ invalidNodeId then 1 else 0

end MasterState

/-- The number of nodes that a heartbeat announces. -/
def ElectionPkt.followerCount (pkt : ElectionPkt) : ℕ :=
  pkt.agentIds.length + if pkt.standbyId ≠ invalidNodeId then 1 else 0

/-! ### The node -/

/-- An election that is under way: the role object that runs it, the nodes still to be
asked, and whether somebody has refused. -/
structure Ballot where
  /-- The identity of the role object whose timer started the election. -/
  epoch : ℕ
  /-- The nodes that have not answered yet, in the order in which they are asked. -/
  remaining : List NodeId
  /-- Some node has refused, which ends the election. -/
  rejected : Bool := false
  deriving DecidableEq, Repr

/-- A node: its local state, its role, and the election its timer thread is busy with. -/
structure Node where
  localState : UbseNodeLocalState
  role : ElectionRole
  /-- The identity of the current role object. -/
  epoch : ℕ := 0
  ballot : Option Ballot := none

namespace Node

variable (n : Node)

/-- `RoleMgr::SwitchRole`. -/
def switchRole (bootTime : ℕ) (type : RoleType) (ctx : RoleContext) : Node :=
  { n with role := newRole cfg bootTime ctx type, epoch := n.epoch + 1 }

/-- Whether an initializer runs for master now: at once, or in the phase of its rank. -/
def wantsElection (s : InitializerState) : Bool :=
  cfg.getElectionCandidate &&
    if cfg.electionWait then
      if s.lastTimeMs - s.startTimeMs ≤ cfg.heartTimeInterval * 2 then
        isSmallestNode cfg.myselfId cfg.allNodes
      else if s.lastTimeMs - s.startTimeMs ≤ cfg.heartTimeInterval * 4 then
        isSecondSmallestNode cfg.myselfId cfg.allNodes
      else true
    else true

/-- The part of `Initializer::ProcTimer` before the votes are asked for. -/
def initializerTimer (bootTime : ℕ) (s : InitializerState) : Node :=
  match n.localState with
  | .restore => n
  | .ready =>
    let s := if s.isStartTimeSet then s
      else { s with startTimeMs := bootTime, isStartTimeSet := true }
    let s := { s with lastTimeMs := bootTime }
    { n with
      role := .initializer s
      ballot := if wantsElection cfg s then some { epoch := n.epoch, remaining := cfg.connectedNodes }
        else none }

/-- The part of `Agent::ProcTimer` before the votes are asked for, with `ForceElection`: an
agent that is no candidate, or that knows of a smaller connected node, is refused at once. -/
def agentTimer (bootTime : ℕ) (s : AgentState) : Node :=
  if isHeartBeatTimeout cfg bootTime s.lastHeartTime (cfg.hbLostTimes + 2) then
    let accepted := cfg.getElectionCandidate ∧
      (cfg.connectedNodes = [] ∨ cfg.myselfId ≤ findSmallestId cfg.connectedNodes)
    { n with
      ballot := some
        { epoch := n.epoch, remaining := cfg.connectedNodes, rejected := decide ¬accepted } }
  else n

/-- `Standby::SwitchMaster`. -/
def switchMaster (bootTime : ℕ) (s : StandbyState) : Node :=
  n.switchRole cfg bootTime .master
    { masterId := s.standbyId, standbyId := invalidNodeId, turnId := (s.turnId + 1) % 2 ^ 64 }

/-- `Standby::ProcTimer`. -/
def standbyTimer (bootTime : ℕ) (s : StandbyState) : Node :=
  if isHeartBeatTimeout cfg bootTime s.lastHeartTime cfg.hbLostTimes then
    if cfg.getElectionCandidate then n.switchMaster cfg bootTime s
    else n.switchRole cfg bootTime .initializer {}
  else n

/-- `RoleMgr::ProcTimer`, up to the point where votes are asked for. The timer thread that
is still busy with an election does not call it. -/
def procTimer (bootTime workReadiness : ℕ) :
    Node × List (NodeId × ElectionPkt) × List Notification :=
  match n.ballot, n.role with
  | some _, _ => (n, [], [])
  | none, .initializer s => (n.initializerTimer cfg bootTime s, [], [])
  | none, .agent s => (n.agentTimer cfg bootTime s, [], [])
  | none, .standby s => (n.standbyTimer cfg bootTime s, [], [])
  | none, .master s =>
    let (s, sent, published) := s.procTimer cfg bootTime workReadiness
    ({ n with role := .master s }, sent, published)

/-- The packet of `SendElectionPkt`. -/
def selectPkt : ElectionPkt := { type := .select, masterId := cfg.myselfId }

/-- One answer inside `SendElectionPkt`, for the first node still to be asked. A packet that
could not be sent or was not answered in time, `none`, counts as accepted. -/
def selectAnswer (reply : Option ElectionReplyPkt) : Node :=
  match n.ballot with
  | none => n
  | some b =>
    if b.rejected then n
    else
      match b.remaining, reply with
      | [], _ => n
      | _ :: rest, none => { n with ballot := some { b with remaining := rest } }
      | _ :: rest, some r =>
        if r.replyResult = .accept then { n with ballot := some { b with remaining := rest } }
        else { n with ballot := some { b with rejected := true } }

/-- The end of an election: the second critical section of `ProcTimer`. Nothing happens
unless the role object that started it is still the current one. -/
def conclude (bootTime : ℕ) : Node :=
  match n.ballot with
  | none => n
  | some b =>
    if b.rejected ∨ b.remaining = [] then
      let n' := { n with ballot := none }
      if b.epoch ≠ n.epoch then n'
      else
        match n.role with
        | .initializer _ =>
          if b.rejected then n'
          else n'.switchRole cfg bootTime .master { turnId := 0, masterId := cfg.myselfId }
        | .agent s =>
          if b.rejected then n'.switchRole cfg bootTime .initializer {}
          else n'.switchRole cfg bootTime .master
            { turnId := s.turnId, masterId := cfg.myselfId, standbyId := invalidNodeId }
        | .standby _ => n'
        | .master _ => n'
    else n

/-! ### Receiving a packet -/

/-- The context that a heartbeat provides for the next role. -/
def heartCtx (pkt : ElectionPkt) : RoleContext where
  turnId := pkt.turnId
  masterId := pkt.masterId
  standbyId := pkt.standbyId

/-- `Initializer::RecvPkt`. -/
def initializerRecvPkt (bootTime : ℕ) (pkt : ElectionPkt) (reply : ElectionReplyPkt) :
    Node × ElectionReplyPkt :=
  match n.localState with
  | .restore =>
    match pkt.type with
    | .select => (n, { reply with replyResult := .accept, replyId := cfg.myselfId })
    | .heart => (n, { reply with replyResult := .reject, replyId := cfg.myselfId })
    | .other => (n, { reply with replyId := cfg.myselfId })
  | .ready =>
    match pkt.type with
    | .select =>
      (n, { reply with
        replyResult :=
          if cfg.getElectionCandidate ∧ cfg.myselfId < pkt.masterId then .reject else .accept
        replyId := cfg.myselfId })
    | .heart =>
      (n.switchRole cfg bootTime
          (if pkt.standbyId = cfg.myselfId then .standby else .agent) (heartCtx pkt),
        { reply with replyId := cfg.myselfId, replyResult := .accept })
    | .other => (n, reply)

/-- `Agent::HandleMasterChange`. -/
def handleMasterChange (bootTime : ℕ) (s : AgentState) (pkt : ElectionPkt)
    (reply : ElectionReplyPkt) : Node × ElectionReplyPkt :=
  if isHeartBeatTimeout cfg bootTime s.lastHeartTime (cfg.hbLostTimes - 1) then
    ({ n with
        role := .agent
          { s with
            masterId := pkt.masterId
            standbyId := pkt.standbyId
            turnId := pkt.turnId
            lastHeartTime := bootTime
            masterStatus := pkt.masterStatus
            standbyStatus := pkt.standbyStatus } },
      { reply with replyId := cfg.myselfId, replyResult := .accept })
  else
    ({ n with
        role := .agent
          { s with masterStatus := pkt.masterStatus, standbyStatus := pkt.standbyStatus } },
      { reply with replyId := cfg.myselfId, replyResult := .rejectHasMaster })

/-- The state of an agent that has heard from its master. -/
def heardMaster (bootTime : ℕ) (s : AgentState) (pkt : ElectionPkt) : AgentState where
  masterId := pkt.masterId
  standbyId := pkt.standbyId
  turnId := if s.turnId < pkt.turnId then pkt.turnId else s.turnId
  lastHeartTime := bootTime
  sequenceId := pkt.sequenceId
  agentIds := pkt.agentIds
  masterStatus := pkt.masterStatus
  standbyStatus := pkt.standbyStatus

/-- `Agent::RecvPktForHeart`. -/
def agentRecvHeart (bootTime : ℕ) (s : AgentState) (pkt : ElectionPkt)
    (reply : ElectionReplyPkt) : Node × ElectionReplyPkt :=
  if pkt.masterId = s.masterId then
    let n := { n with role := .agent (heardMaster bootTime s pkt) }
    (if pkt.standbyId = cfg.myselfId then n.switchRole cfg bootTime .standby (heartCtx pkt) else n,
      { reply with replyId := cfg.myselfId, replyResult := .accept, broadcast := true })
  else n.handleMasterChange cfg bootTime s pkt reply

/-- `Agent::RecvPktForSelect`. -/
def agentRecvSelect (bootTime : ℕ) (s : AgentState) (reply : ElectionReplyPkt) :
    ElectionReplyPkt :=
  if isHeartBeatTimeout cfg bootTime s.lastHeartTime (cfg.hbLostTimes - 1) then
    { reply with replyId := cfg.myselfId, replyResult := .accept }
  else
    { reply with
      replyId := cfg.myselfId, masterId := s.masterId, replyResult := .rejectHasMaster }

/-- `Standby::RecvPktForHeart`. -/
def standbyRecvHeart (bootTime workReadiness : ℕ) (s : StandbyState) (pkt : ElectionPkt)
    (reply : ElectionReplyPkt) : Node × ElectionReplyPkt :=
  if pkt.masterId = s.masterId then
    if pkt.standbyId = s.standbyId then
      ({ n with
          role := .standby
            { s with
              turnId := pkt.turnId
              sequenceId := pkt.sequenceId
              lastHeartTime := bootTime
              masterStatus := pkt.masterStatus
              agentIds := pkt.agentIds } },
        { reply with
          standbyStatus := workReadiness
          replyId := s.standbyId
          replyResult := .accept
          broadcast := if pkt.broadcast then reply.broadcast else true })
    else
      (n.switchRole cfg bootTime .agent (heartCtx pkt), { reply with replyResult := .accept })
  else if isHeartBeatTimeout cfg bootTime s.lastHeartTime (cfg.hbLostTimes - 1) then
    (n.switchRole cfg bootTime .agent (heartCtx pkt), { reply with replyResult := .accept })
  else (n, { reply with replyId := s.standbyId, replyResult := .rejectHasMaster })

/-- `acceptNewMaster`: a master gives way, to the role the heartbeat has for it. -/
def acceptNewMaster (bootTime : ℕ) (masterId : NodeId) (pkt : ElectionPkt)
    (reply : ElectionReplyPkt) : Node × ElectionReplyPkt :=
  (if pkt.standbyId = masterId then
      n.switchRole cfg bootTime .standby
        { masterId := pkt.masterId, turnId := pkt.turnId, standbyId := masterId }
    else
      n.switchRole cfg bootTime .agent { masterId := pkt.masterId, turnId := pkt.turnId },
    { reply with replyResult := .accept })

/-- `Master::HandleSplitBrainMerge`: of two equals the smaller id stays master. -/
def handleSplitBrainMerge (bootTime : ℕ) (s : MasterState) (pkt : ElectionPkt)
    (reply : ElectionReplyPkt) : Node × ElectionReplyPkt :=
  let newMasterId := if s.masterId < pkt.masterId then s.masterId else pkt.masterId
  if newMasterId = s.masterId then
    (n, { reply with replyResult := .rejectHasMaster, masterId := s.masterId })
  else
    (n.switchRole cfg bootTime .agent (heartCtx pkt), { reply with replyResult := .accept })

/-- `Master::RecvPktHeart`: the heartbeat of another master. -/
def masterRecvHeart (bootTime : ℕ) (s : MasterState) (pkt : ElectionPkt)
    (reply : ElectionReplyPkt) : Node × ElectionReplyPkt :=
  if cfg.allNodes = [] then (n, reply)
  else if s.followerCount + 1 > cfg.allNodes.length / 2 then
    (n, { reply with replyResult := .rejectHasMaster })
  else if s.followerCount > pkt.followerCount then
    (n, { reply with replyResult := .rejectHasMaster })
  else if s.followerCount < pkt.followerCount then
    n.acceptNewMaster cfg bootTime s.masterId pkt reply
  else if pkt.turnId > s.turnId then n.acceptNewMaster cfg bootTime s.masterId pkt reply
  else if pkt.turnId = s.turnId then n.handleSplitBrainMerge cfg bootTime s pkt reply
  else (n, { reply with replyResult := .rejectHasMaster })

/-- The id a role answers under when it refuses a master that is no candidate. -/
def refusal (reply : ElectionReplyPkt) : ElectionReplyPkt :=
  match n.role with
  | .initializer _ =>
    { reply with replyId := cfg.myselfId, replyResult := .rejectHasMaster }
  | .agent s =>
    { reply with replyId := cfg.myselfId, masterId := s.masterId, replyResult := .rejectHasMaster }
  | .standby s =>
    { reply with replyId := s.standbyId, masterId := s.masterId, replyResult := .rejectHasMaster }
  | .master s =>
    { reply with replyId := s.masterId, masterId := s.masterId, replyResult := .rejectHasMaster }

/-- `RecvPkt` of the current role object. -/
def recvPkt (bootTime workReadiness : ℕ) (pkt : ElectionPkt) (reply : ElectionReplyPkt) :
    Node × ElectionReplyPkt :=
  if pkt.type ≠ .other ∧ ¬cfg.isAllowedMasterNode pkt.masterId then (n, n.refusal cfg reply)
  else
    match n.role, pkt.type with
    | .initializer _, _ => n.initializerRecvPkt cfg bootTime pkt reply
    | .agent s, .select => (n, agentRecvSelect cfg bootTime s reply)
    | .agent s, .heart => n.agentRecvHeart cfg bootTime s pkt reply
    | .standby s, .select =>
      (n, { reply with
        replyId := s.standbyId, masterId := s.masterId, replyResult := .rejectHasMaster })
    | .standby s, .heart => n.standbyRecvHeart cfg bootTime workReadiness s pkt reply
    | .master s, .select =>
      (n, { reply with
        replyResult := .rejectHasMaster
        replyId := s.masterId
        masterId := s.masterId
        turnId := s.turnId })
    | .master s, .heart => n.masterRecvHeart cfg bootTime s pkt reply
    | _, .other => (n, reply)

/-- `UbseElectionModule::SwitchMasterFromStandby`, on the report of a faulty master. -/
def switchMasterFromStandby (bootTime : ℕ) : Node :=
  match n.role with
  | .standby s => if cfg.getElectionCandidate then n.switchMaster cfg bootTime s else n
  | _ => n

/-- `UbseElectionModule::SwitchAgentFromMaster`. -/
def switchAgentFromMaster (bootTime : ℕ) : Node :=
  match n.role with
  | .master s =>
    n.switchRole cfg bootTime .agent
      { masterId := s.standbyId, standbyId := invalidNodeId, turnId := s.turnId }
  | _ => n

/-- The answer to a packet, from a reply that is created with the defaults. A role object that
has been replaced between the fetch of the role and its lock refuses without looking. -/
def reply (stale : Bool) (bootTime workReadiness : ℕ) (pkt : ElectionPkt) : ElectionReplyPkt :=
  if stale then { replyResult := .reject } else (n.recvPkt cfg bootTime workReadiness pkt {}).2

end Node

/-! ### The events of a node -/

/-- What can happen to one node. -/
inductive NodeEvent
  /-- The timer thread calls `ProcTimer`. -/
  | timer (bootTime workReadiness : ℕ)
  /-- The node that is asked for its vote answers, or does not. -/
  | selectAnswer (reply : Option ElectionReplyPkt)
  /-- The timer thread ends its election. -/
  | conclude (bootTime : ℕ)
  /-- A packet is handled, possibly by a role object that has just been replaced. -/
  | recvPkt (stale : Bool) (bootTime workReadiness : ℕ) (pkt : ElectionPkt)
  /-- The answer to a heartbeat reaches the master that sent it. -/
  | heartReply (nodeId : NodeId) (reply : ElectionReplyPkt)
  /-- A master is told that a node is down. -/
  | setNodeDown (nodeId : NodeId)
  /-- The local state of the node changes. -/
  | setLocalState (localState : UbseNodeLocalState)
  /-- The standby is told that its master is faulty. -/
  | switchMasterFromStandby (bootTime : ℕ)
  /-- The master is told to give up its role. -/
  | switchAgentFromMaster (bootTime : ℕ)

/-- The node after an event. -/
def Node.step (n : Node) : NodeEvent → Node
  | .timer t w => (n.procTimer cfg t w).1
  | .selectAnswer reply => n.selectAnswer reply
  | .conclude t => n.conclude cfg t
  | .recvPkt stale t w pkt => if stale then n else (n.recvPkt cfg t w pkt {}).1
  | .heartReply nodeId reply =>
    match n.role with
    | .master s => { n with role := .master (s.updateBroadcastStatus nodeId reply) }
    | _ => n
  | .setNodeDown nodeId =>
    match n.role with
    | .master s => { n with role := .master (s.setNodeDownStatus nodeId).1 }
    | _ => n
  | .setLocalState localState => { n with localState }
  | .switchMasterFromStandby t => n.switchMasterFromStandby cfg t
  | .switchAgentFromMaster t => n.switchAgentFromMaster cfg t

end Election

end UbsEngine
