import UbsEngine.Election.Machine
import UbsEngine.Library.Run
import Mathlib.Logic.Function.Basic

/-!
# A cluster that starts

Any number of nodes, each with a configuration of its own and connected to all the others,
and the messages between them: requests for a vote, which are answered one at a time since the
asking node waits, and the heartbeats of masters with their answers. Nothing is lost; an event
of `UbsEngine.Election.ClusterEvent` is one critical section of one node, and every order of
them is a run of `UbsEngine.Election.clusterSystem`.

The runs considered here are those of a start without heartbeat timeouts: wherever a node
compares the clock with its last heartbeat, the smallest of its thresholds has not passed
(`UbsEngine.Election.NoTimeout`).
-/

namespace UbsEngine

namespace Election

/-- A cluster of fully connected nodes. -/
structure Cluster where
  /-- The ids of the nodes. -/
  nodes : List NodeId
  /-- The configuration of each node. -/
  cfg : NodeId → NodeConfig
  /-- Every node knows its id. -/
  myselfId_cfg : ∀ i ∈ nodes, (cfg i).myselfId = i
  /-- Every node is connected to all the others. -/
  mem_connectedNodes : ∀ i ∈ nodes, ∀ j, j ∈ (cfg i).connectedNodes ↔ j ∈ nodes ∧ j ≠ i

/-- A heartbeat on its way. -/
structure Heartbeat where
  /-- The master that sent it, and the identity of its role object. -/
  source : NodeId
  epoch : ℕ
  dest : NodeId
  pkt : ElectionPkt
  deriving DecidableEq

/-- The answer to a heartbeat, on its way to the role object that sent the heartbeat. -/
structure HeartbeatReply where
  dest : NodeId
  epoch : ℕ
  source : NodeId
  reply : ElectionReplyPkt
  deriving DecidableEq

/-- The state of a cluster: its nodes and the messages on their way. -/
structure ClusterState where
  node : NodeId → Node
  /-- The answer on its way to a node that asks for votes. While there is none, the request to
  the first of the remaining nodes of its ballot is on its way. -/
  answer : NodeId → Option ElectionReplyPkt
  hearts : List Heartbeat
  heartReplies : List HeartbeatReply

namespace ClusterState

variable (s : ClusterState)

/-- Replace one node. -/
def setNode (i : NodeId) (n : Node) : ClusterState := { s with node := Function.update s.node i n }

/-- Replace the answer on its way to one node. -/
def setAnswer (i : NodeId) (a : Option ElectionReplyPkt) : ClusterState :=
  { s with answer := Function.update s.answer i a }

@[simp] theorem setNode_answer (i : NodeId) (n : Node) : (s.setNode i n).answer = s.answer := rfl

@[simp] theorem setAnswer_node (i : NodeId) (a : Option ElectionReplyPkt) :
    (s.setAnswer i a).node = s.node := rfl

end ClusterState

/-- The clock shows no timeout to a role that waits for heartbeats. -/
def NoTimeout (cfg : NodeConfig) (bootTime : ℕ) : ElectionRole → Prop
  | .agent s => isHeartBeatTimeout cfg bootTime s.lastHeartTime (cfg.hbLostTimes - 1) = false
  | .standby s => isHeartBeatTimeout cfg bootTime s.lastHeartTime (cfg.hbLostTimes - 1) = false
  | _ => True

/-- What can happen in a cluster. -/
inductive ClusterEvent
  /-- The local state of a node becomes ready. -/
  | ready (i : NodeId)
  /-- The timer of a node. -/
  | timer (i : NodeId) (bootTime workReadiness : ℕ)
  /-- The request of `i` reaches the node it asks. -/
  | deliverSelect (i : NodeId) (stale : Bool) (bootTime workReadiness : ℕ)
  /-- The answer reaches `i`. -/
  | deliverAnswer (i : NodeId)
  /-- The timer thread of a node ends its election. -/
  | conclude (i : NodeId) (bootTime : ℕ)
  /-- A heartbeat reaches its destination. -/
  | deliverHeart (h : Heartbeat) (stale : Bool) (bootTime workReadiness : ℕ)
  /-- The answer to a heartbeat reaches the master. -/
  | deliverHeartReply (h : HeartbeatReply)

/-- The node that `i` is asking for its vote, when the request is still on its way. -/
def asked (s : ClusterState) (i : NodeId) : Option NodeId :=
  match (s.node i).ballot, s.answer i with
  | some b, none => if b.rejected then none else b.remaining.head?
  | _, _ => none

/-- **One critical section of one node.** -/
inductive ClusterStep (C : Cluster) : ClusterState → ClusterEvent → ClusterState → Prop
  | ready (s : ClusterState) (i : NodeId) : i ∈ C.nodes →
      ClusterStep C s (.ready i) (s.setNode i ((s.node i).step (C.cfg i) (.setLocalState .ready)))
  | timer (s : ClusterState) (i : NodeId) (t w : ℕ) : i ∈ C.nodes →
      NoTimeout (C.cfg i) t (s.node i).role →
      ClusterStep C s (.timer i t w)
        { s.setNode i ((s.node i).step (C.cfg i) (.timer t w)) with
          hearts := s.hearts ++ ((s.node i).procTimer (C.cfg i) t w).2.1.map fun x =>
            { source := i, epoch := (s.node i).epoch, dest := x.1, pkt := x.2 } }
  | deliverSelect (s : ClusterState) (i j : NodeId) (stale : Bool) (t w : ℕ) : i ∈ C.nodes →
      asked s i = some j → NoTimeout (C.cfg j) t (s.node j).role →
      ClusterStep C s (.deliverSelect i stale t w)
        ((s.setNode j
            ((s.node j).step (C.cfg j) (.recvPkt stale t w (Node.selectPkt (C.cfg i))))).setAnswer i
          (some ((s.node j).reply (C.cfg j) stale t w (Node.selectPkt (C.cfg i)))))
  | deliverAnswer (s : ClusterState) (i : NodeId) (r : ElectionReplyPkt) : i ∈ C.nodes →
      s.answer i = some r →
      ClusterStep C s (.deliverAnswer i)
        ((s.setNode i ((s.node i).step (C.cfg i) (.selectAnswer (some r)))).setAnswer i none)
  | conclude (s : ClusterState) (i : NodeId) (t : ℕ) : i ∈ C.nodes →
      ClusterStep C s (.conclude i t) (s.setNode i ((s.node i).step (C.cfg i) (.conclude t)))
  | deliverHeart (s : ClusterState) (h : Heartbeat) (stale : Bool) (t w : ℕ) : h.dest ∈ C.nodes →
      h ∈ s.hearts → NoTimeout (C.cfg h.dest) t (s.node h.dest).role →
      ClusterStep C s (.deliverHeart h stale t w)
        { s.setNode h.dest ((s.node h.dest).step (C.cfg h.dest) (.recvPkt stale t w h.pkt)) with
          hearts := s.hearts.erase h
          heartReplies := s.heartReplies ++
            [{ dest := h.source
               epoch := h.epoch
               source := h.dest
               reply := (s.node h.dest).reply (C.cfg h.dest) stale t w h.pkt }] }
  | deliverHeartReply (s : ClusterState) (h : HeartbeatReply) : h.dest ∈ C.nodes →
      h ∈ s.heartReplies →
      ClusterStep C s (.deliverHeartReply h)
        { (if (s.node h.dest).epoch = h.epoch then
            s.setNode h.dest
              ((s.node h.dest).step (C.cfg h.dest) (.heartReply h.source h.reply))
          else s) with
          heartReplies := s.heartReplies.erase h }

/-- The state of a cluster that starts. -/
structure IsColdStart (s : ClusterState) : Prop where
  node_eq : ∀ i, (∃ r, (s.node i).role = .initializer r) ∧ (s.node i).localState = .restore ∧
    (s.node i).ballot = none
  answer_eq : ∀ i, s.answer i = none
  hearts_eq : s.hearts = []
  heartReplies_eq : s.heartReplies = []

/-- **A cluster from its cold start on**, without heartbeat timeouts. -/
def clusterSystem (C : Cluster) : System ClusterState ClusterEvent where
  init := IsColdStart
  step := ClusterStep C

end Election

end UbsEngine
