import UbsEngine.Library.Alternate
import UbsEngine.Library.Run
import UbsEngine.Election.Master

/-!
# Nodes that come and go

A master publishes that a node is up, and that a node is down, on two paths. At the end of each
round of heartbeats it compares the nodes that answer with those that answered when the last round
ended; and when a connection is lost it is told so, publishes that the node is down at once, and
forgets that it was there. In between, the answers to the heartbeats arrive.

A node that has answered since the last round, and is lost before the next one, has never been
published to be up: the second path does not look. `UbsEngine.Election.alternate_iff` says that
this is all that can go wrong. That the nodes the master remembers are those that were last
published to be up is true in every run.
-/

namespace UbsEngine

namespace Election

/-- A master, and all that it has published so far. -/
structure MasterRun where
  master : MasterState
  published : List Notification

/-- What happens to a master. The lock is released for each heartbeat that is sent, so that
anything may come between the parts of a round. -/
inductive MasterEvent
  /-- A round begins. -/
  | startRound (workReadiness : ℕ)
  /-- A heartbeat has been sent to a node, and counts as lost until it is answered. -/
  | sendHeartbeat (nodeId : NodeId)
  /-- A round ends. -/
  | endRound (bootTime : ℕ)
  /-- The answer of a node arrives. -/
  | reply (nodeId : NodeId) (reply : ElectionReplyPkt)
  | setNodeDownStatus (nodeId : NodeId)

section Model

variable (cfg : NodeConfig)

/-- The last lines of `ProcTimer`. -/
def MasterState.endRound (m : MasterState) (bootTime : ℕ) : MasterState :=
  { m with
    preNodes := m.getActiveNodes
    sequenceId := m.sequenceId + 1
    lastTimeMs := bootTime }

def masterStep (s : MasterRun) : MasterEvent → MasterRun
  | .startRound workReadiness =>
    let r := s.master.buildHeartbeat cfg workReadiness
    ⟨r.1, s.published ++ r.2.2⟩
  | .sendHeartbeat nodeId => ⟨s.master.dealHbCnt cfg nodeId, s.published⟩
  | .endRound bootTime =>
    ⟨s.master.endRound bootTime, s.published ++ s.master.dealNodeUpdate⟩
  | .reply nodeId reply => ⟨s.master.updateBroadcastStatus nodeId reply, s.published⟩
  | .setNodeDownStatus nodeId =>
    ⟨(s.master.setNodeDownStatus nodeId).1,
      s.published ++ (s.master.setNodeDownStatus nodeId).2⟩

/-- The parts of a round. -/
def roundEvents (bootTime workReadiness : ℕ) : List MasterEvent :=
  .startRound workReadiness :: (cfg.connectedNodes.map .sendHeartbeat ++ [.endRound bootTime])

theorem foldl_sendHeartbeat (pkt : ElectionPkt) (ids : List NodeId) (m : MasterState)
    (sent : List (NodeId × ElectionPkt)) (published : List Notification) :
    (ids.map .sendHeartbeat).foldl (masterStep cfg) ⟨m, published⟩ =
      ⟨(ids.foldl (fun (m, sent) id => (m.dealHbCnt cfg id,
        sent ++ [(id, { pkt with broadcast := (m.status id).masterOnlineBcStatus })]))
        (m, sent)).1, published⟩ := by
  induction ids generalizing m sent with
  | nil => rfl
  | cons id ids ih => exact ih _ _

/-- **`ProcTimer` is its parts, one after the other.** -/
theorem procTimer_eq_round (m : MasterState) (published : List Notification) {t : ℕ} (w : ℕ)
    (hdue : t - m.lastTimeMs > cfg.heartTimeInterval) :
    (roundEvents cfg t w).foldl (masterStep cfg) ⟨m, published⟩ =
      ⟨(m.procTimer cfg t w).1, published ++ (m.procTimer cfg t w).2.2⟩ := by
  rw [roundEvents, List.foldl_cons, List.foldl_append, masterStep,
    foldl_sendHeartbeat cfg (m.buildHeartbeat cfg w).2.1 _ _ [], MasterState.procTimer,
    if_pos hdue, ← List.append_assoc]
  rfl

end Model

/-! ### What is published of a node -/

/-- Whether a notification says that the node is up, or down. -/
def nodeEvent (n : NodeId) : Notification → Option Bool
  | .nodeUp nodeId => if nodeId = n then some true else none
  | .nodeDown nodeId => if nodeId = n then some false else none
  | .changeSwitchToStandby _ => none

/-- What is published of a node, oldest first. -/
def eventsOf (n : NodeId) (published : List Notification) : List Bool :=
  published.filterMap (nodeEvent n)

/-- **The events of every node alternate**, and begin with its coming up. -/
def AllAlternate (s : MasterRun) : Prop := ∀ n, Alternates (eventsOf n s.published)

/-- **The master remembers the nodes that were last published to be up.** -/
structure Remembers (s : MasterRun) : Prop where
  nodup : s.master.preNodes.Nodup
  mem_iff : ∀ n, n ∈ s.master.preNodes ↔ isOn (eventsOf n s.published) = true

/-- **What must not be lost is a node that is not remembered**: one that is lost while it answers
was there when the last round ended. -/
def KnownWhenLost (s : MasterRun) (e : MasterEvent) : Prop :=
  ∀ nodeId, e = .setNodeDownStatus nodeId → (s.master.status nodeId).active = true →
    nodeId ∈ s.master.preNodes

/-! ### The end of a round -/

namespace MasterState

variable (m : MasterState)

theorem nodup_getActiveNodes : m.getActiveNodes.Nodup :=
  ((List.perm_insertionSort _ _).nodup_iff.mpr m.broadcast.nodupKeys).filter _

/-- If nothing has changed there is nothing to publish either way. -/
theorem dealNodeUpdate_eq :
    m.dealNodeUpdate =
      (((m.getActiveNodes.insertionSort (· ≤ ·)).filter (· ∉ m.preNodes)).map .nodeUp) ++
        ((m.preNodes.insertionSort (· ≤ ·)).filter (· ∉ m.getActiveNodes)).map .nodeDown := by
  have hmem : ∀ (l : List NodeId) n, n ∈ l.insertionSort (· ≤ ·) ↔ n ∈ l :=
    fun l n => (List.perm_insertionSort _ l).mem_iff
  rw [dealNodeUpdate]
  simp only [hmem]
  split
  next h =>
    have hsame : ∀ n, n ∈ m.getActiveNodes ↔ n ∈ m.preNodes := fun n => by
      rw [← hmem, h, hmem]
    have hup : (m.getActiveNodes.insertionSort (· ≤ ·)).filter (· ∉ m.preNodes) = [] :=
      List.filter_eq_nil_iff.mpr fun n hn => by
        simpa using (hsame n).mp ((hmem _ n).mp hn)
    have hdown : (m.preNodes.insertionSort (· ≤ ·)).filter (· ∉ m.getActiveNodes) = [] :=
      List.filter_eq_nil_iff.mpr fun n hn => by
        simpa using (hsame n).mpr ((hmem _ n).mp hn)
    rw [hup, hdown]
    rfl
  · rfl

end MasterState

section Events

variable {n : NodeId}

theorem eventsOf_append (l l' : List Notification) :
    eventsOf n (l ++ l') = eventsOf n l ++ eventsOf n l' :=
  List.filterMap_append

/-- A list that names no node twice says at most one thing of a node. -/
theorem eventsOf_map {l : List NodeId} (hl : l.Nodup) {f : NodeId → Notification} {b : Bool}
    (hf : ∀ nodeId, nodeEvent n (f nodeId) = if nodeId = n then some b else none) :
    eventsOf n (l.map f) = if n ∈ l then [b] else [] := by
  rw [eventsOf, List.filterMap_map]
  induction l with
  | nil => rfl
  | cons a l ih =>
    obtain ⟨ha, hl⟩ := List.nodup_cons.mp hl
    rw [List.filterMap_cons, Function.comp, hf]
    by_cases han : a = n
    · subst han
      rw [if_pos rfl, if_pos List.mem_cons_self, ih hl, if_neg ha]
    · rw [if_neg han, ih hl]
      refine if_congr ?_ rfl rfl
      rw [List.mem_cons, or_iff_right (Ne.symm han)]

/-- What the end of a round publishes of a node. -/
theorem eventsOf_dealNodeUpdate {m : MasterState} (hpre : m.preNodes.Nodup) :
    eventsOf n m.dealNodeUpdate =
      if n ∈ m.getActiveNodes then (if n ∈ m.preNodes then [] else [true])
      else if n ∈ m.preNodes then [false] else [] := by
  have hsort : ∀ {l : List NodeId}, l.Nodup → (l.insertionSort (· ≤ ·)).Nodup :=
    fun hl => (List.perm_insertionSort _ _).nodup_iff.mpr hl
  rw [m.dealNodeUpdate_eq, eventsOf_append,
    eventsOf_map ((hsort m.nodup_getActiveNodes).filter _) (b := true) fun _ => rfl,
    eventsOf_map ((hsort hpre).filter _) (b := false) fun _ => rfl]
  simp only [List.mem_filter, (List.perm_insertionSort _ _).mem_iff, decide_eq_true_eq]
  by_cases hact : n ∈ m.getActiveNodes <;> by_cases hpre : n ∈ m.preNodes <;> simp [hact, hpre]

/-- The appointment of a standby says nothing of a node. -/
theorem eventsOf_buildHeartbeat (cfg : NodeConfig) (m : MasterState) (w : ℕ) :
    eventsOf n (m.buildHeartbeat cfg w).2.2 = [] := by
  have happointed : eventsOf n m.appointStandby.2 = [] := by
    rw [MasterState.appointStandby]
    split
    · dsimp only
      split <;> rfl
    · rfl
  have hreplaced : ∀ (m : MasterState) pkt,
      eventsOf n (m.replaceStandbyNode cfg pkt).2.2 = [] := by
    intro m pkt
    rw [MasterState.replaceStandbyNode]
    split
    · dsimp only
      split <;> rfl
    · rfl
  rw [MasterState.buildHeartbeat]
  dsimp only
  rw [eventsOf_append, happointed, hreplaced]
  rfl

end Events

/-! ### One step -/

namespace MasterState

variable (cfg : NodeConfig) (m : MasterState)

theorem preNodes_buildHeartbeat (w : ℕ) :
    (m.buildHeartbeat cfg w).1.preNodes = m.preNodes := by
  have happointed : m.appointStandby.1.preNodes = m.preNodes := by
    rw [appointStandby]
    split <;> rfl
  have hreplaced : ∀ (m : MasterState) pkt,
      (m.replaceStandbyNode cfg pkt).1.preNodes = m.preNodes := by
    intro m pkt
    rw [replaceStandbyNode]
    split <;> rfl
  rw [buildHeartbeat]
  dsimp only
  rw [hreplaced, happointed]

theorem preNodes_dealHbCnt (id : NodeId) : (m.dealHbCnt cfg id).preNodes = m.preNodes := by
  rw [dealHbCnt]
  dsimp only
  split <;> rfl

theorem preNodes_updateBroadcastStatus (id : NodeId) (reply : ElectionReplyPkt) :
    (m.updateBroadcastStatus id reply).preNodes = m.preNodes := by
  rw [updateBroadcastStatus]
  dsimp only
  split <;> rfl

/-- A node that is lost while it answers is published to be down, and forgotten. -/
theorem setNodeDownStatus_of_active {nodeId : NodeId} (h : (m.status nodeId).active = true) :
    (m.setNodeDownStatus nodeId).1.preNodes = m.preNodes.erase nodeId ∧
      (m.setNodeDownStatus nodeId).2 = [.nodeDown nodeId] := by
  rw [setNodeDownStatus]
  dsimp only
  rw [if_pos h]
  dsimp only
  constructor
  · split <;> rfl
  · rfl

theorem setNodeDownStatus_of_not_active {nodeId : NodeId} (h : (m.status nodeId).active = false) :
    (m.setNodeDownStatus nodeId).1.preNodes = m.preNodes ∧ (m.setNodeDownStatus nodeId).2 = [] := by
  rw [setNodeDownStatus]
  dsimp only
  have hlost : ¬(m.status nodeId).active = true := by
    rw [h]
    exact Bool.false_ne_true
  rw [if_neg hlost]
  dsimp only
  constructor
  · split <;> rfl
  · rfl

end MasterState

section Step

variable {cfg : NodeConfig} {s t : MasterRun}

/-- What neither touches the remembered nodes nor says anything of a node changes nothing. -/
theorem Remembers.congr (h : Remembers s) (hpre : t.master.preNodes = s.master.preNodes)
    (hev : ∀ n, eventsOf n t.published = eventsOf n s.published) : Remembers t := by
  constructor
  · rw [hpre]
    exact h.nodup
  · intro n
    rw [hpre, hev]
    exact h.mem_iff n

theorem remembers_endRound (h : Remembers s) (bootTime : ℕ) :
    Remembers (masterStep cfg s (.endRound bootTime)) := by
  refine ⟨s.master.nodup_getActiveNodes, fun n => ?_⟩
  change n ∈ s.master.getActiveNodes ↔ _
  rw [masterStep, eventsOf_append, eventsOf_dealNodeUpdate h.nodup]
  have hmem := h.mem_iff n
  by_cases hact : n ∈ s.master.getActiveNodes
  · rw [if_pos hact]
    split
    next hpre => simpa [hact] using hmem.mp hpre
    next => simp [hact]
  · rw [if_neg hact]
    split
    next => simp [hact]
    next hpre => simpa [hact] using fun hon => hpre (hmem.mpr hon)

theorem alternates_endRound (h : Remembers s) (halt : AllAlternate s) (bootTime : ℕ) :
    AllAlternate (masterStep cfg s (.endRound bootTime)) := by
  intro n
  rw [masterStep, eventsOf_append, eventsOf_dealNodeUpdate h.nodup]
  have hmem := h.mem_iff n
  -- A node that comes up was not remembered, so that it was down; one that goes was up.
  split
  · split
    next => simpa using halt n
    next hpre => exact (alternates_snoc _ _).mpr ⟨halt n, by simpa using fun hon => hpre (hmem.mpr hon)⟩
  · split
    next hpre => exact (alternates_snoc _ _).mpr ⟨halt n, hmem.mp hpre⟩
    next => simpa using halt n

theorem eventsOf_nodeDown (n nodeId : NodeId) (published : List Notification) :
    eventsOf n (published ++ [.nodeDown nodeId]) =
      eventsOf n published ++ if nodeId = n then [false] else [] := by
  rw [eventsOf_append]
  refine congrArg _ ?_
  by_cases h : nodeId = n <;> simp [eventsOf, nodeEvent, h]

theorem remembers_setNodeDownStatus (h : Remembers s) (nodeId : NodeId) :
    Remembers (masterStep cfg s (.setNodeDownStatus nodeId)) := by
  cases hact : (s.master.status nodeId).active with
  | false =>
    obtain ⟨hpre, hpub⟩ := s.master.setNodeDownStatus_of_not_active hact
    refine h.congr hpre fun n => ?_
    rw [masterStep, hpub, List.append_nil]
  | true =>
    obtain ⟨hpre, hpub⟩ := s.master.setNodeDownStatus_of_active hact
    refine ⟨?_, fun n => ?_⟩
    · change (s.master.setNodeDownStatus nodeId).1.preNodes.Nodup
      rw [hpre]
      exact h.nodup.erase nodeId
    · change n ∈ (s.master.setNodeDownStatus nodeId).1.preNodes ↔ _
      rw [hpre, h.nodup.mem_erase_iff, masterStep, hpub, eventsOf_nodeDown]
      by_cases hn : nodeId = n
      · rw [if_pos hn, isOn_snoc]
        exact iff_of_false (fun hne => hne.1 hn.symm) Bool.false_ne_true
      · rw [if_neg hn, List.append_nil, ← h.mem_iff n]
        exact and_iff_right (Ne.symm hn)

/-- **Where the events may fail to alternate**: at a node that is lost before it was published to
be up. -/
theorem alternates_setNodeDownStatus_iff (h : Remembers s) (halt : AllAlternate s)
    (nodeId : NodeId) :
    AllAlternate (masterStep cfg s (.setNodeDownStatus nodeId)) ↔
      ((s.master.status nodeId).active = true → nodeId ∈ s.master.preNodes) := by
  cases hact : (s.master.status nodeId).active with
  | false =>
    obtain ⟨-, hpub⟩ := s.master.setNodeDownStatus_of_not_active hact
    refine iff_of_true (fun n => ?_) fun h => (nomatch h)
    rw [masterStep, hpub, List.append_nil]
    exact halt n
  | true =>
    obtain ⟨-, hpub⟩ := s.master.setNodeDownStatus_of_active hact
    rw [h.mem_iff nodeId, AllAlternate]
    constructor
    · intro hall _
      have hnode := hall nodeId
      rw [masterStep, hpub, eventsOf_nodeDown, if_pos rfl, alternates_snoc] at hnode
      exact hnode.2
    · intro hon n
      rw [masterStep, hpub, eventsOf_nodeDown]
      by_cases hn : nodeId = n
      · rw [if_pos hn, alternates_snoc]
        exact ⟨halt n, hn ▸ hon rfl⟩
      · rw [if_neg hn, List.append_nil]
        exact halt n

/-- What is remembered is right after every step. -/
theorem remembers_step (h : Remembers s) (e : MasterEvent) : Remembers (masterStep cfg s e) := by
  cases e with
  | startRound w =>
    refine h.congr (s.master.preNodes_buildHeartbeat cfg w) fun n => ?_
    rw [masterStep, eventsOf_append, eventsOf_buildHeartbeat, List.append_nil]
  | sendHeartbeat nodeId => exact h.congr (s.master.preNodes_dealHbCnt cfg nodeId) fun _ => rfl
  | endRound bootTime => exact remembers_endRound h bootTime
  | reply nodeId reply =>
    exact h.congr (s.master.preNodes_updateBroadcastStatus nodeId reply) fun _ => rfl
  | setNodeDownStatus nodeId => exact remembers_setNodeDownStatus h nodeId

theorem alternates_step_iff (h : Remembers s) (halt : AllAlternate s) (e : MasterEvent) :
    AllAlternate (masterStep cfg s e) ↔ KnownWhenLost s e := by
  cases e with
  | startRound w =>
    refine iff_of_true (fun n => ?_) nofun
    rw [masterStep, eventsOf_append, eventsOf_buildHeartbeat, List.append_nil]
    exact halt n
  | sendHeartbeat nodeId => exact iff_of_true halt nofun
  | endRound bootTime => exact iff_of_true (alternates_endRound h halt bootTime) nofun
  | reply nodeId reply => exact iff_of_true halt nofun
  | setNodeDownStatus nodeId =>
    rw [alternates_setNodeDownStatus_iff h halt]
    exact ⟨fun hknown _ he => MasterEvent.setNodeDownStatus.inj he ▸ hknown,
      fun hknown => hknown nodeId rfl⟩

end Step

/-! ### Runs -/

/-- A master when it takes over. -/
def startMaster (cfg : NodeConfig) (ctx : RoleContext) : MasterRun := ⟨mkMaster cfg ctx, []⟩

theorem remembers_startMaster (cfg : NodeConfig) (ctx : RoleContext) :
    Remembers (startMaster cfg ctx) :=
  ⟨List.nodup_nil, fun _ => iff_of_false List.not_mem_nil Bool.false_ne_true⟩

/-- **Which runs publish alternating events**: those in which no node is lost while it answers
that had not been published to be up. In every run the master remembers, not only after the end
of a round, the nodes that were last published to be up. -/
theorem alternate_iff (cfg : NodeConfig) (ctx : RoleContext) (es : List MasterEvent) :
    (System.Keeps AllAlternate (System.trace (masterStep cfg) (startMaster cfg ctx) es) ↔
      System.Guarded KnownWhenLost (System.trace (masterStep cfg) (startMaster cfg ctx) es)) ∧
    System.Keeps Remembers (System.trace (masterStep cfg) (startMaster cfg ctx) es) := by
  have hrun := System.run_trace (startMaster cfg ctx) (masterStep cfg) (startMaster cfg ctx) es
  have hremembers : System.Keeps Remembers
      (System.trace (masterStep cfg) (startMaster cfg ctx) es) := by
    refine hrun.keeps_of_guarded (G := fun _ _ => True) ?_ (remembers_startMaster cfg ctx)
      fun _ _ => trivial
    rintro s e _ h - rfl
    exact remembers_step h e
  refine ⟨?_, hremembers⟩
  have hexact := hrun.exact (I := fun s => Remembers s ∧ AllAlternate s) (G := KnownWhenLost) ?_
    ⟨remembers_startMaster cfg ctx, fun _ => alternates_nil⟩
  · rw [← hexact, System.keeps_and]
    exact (and_iff_right hremembers).symm
  · rintro s e _ ⟨h, halt⟩ rfl
    exact (and_iff_right (remembers_step h e)).trans (alternates_step_iff h halt e)

/-! ### A node that is lost at once -/

/-- The master "1" of the cluster of "1" and "2". -/
def masterOfTwo : NodeConfig where
  myselfId := "1"
  allNodes := ["1", "2"]
  connectedNodes := ["2"]

/-- The node answers the heartbeat of a round, and is lost before the next round ends. -/
def answeredAndLost : List MasterEvent :=
  roundEvents masterOfTwo 3000 0 ++ [.reply "2" {}, .setNodeDownStatus "2"]

/-- **The first thing that is published of the node is that it is down.** -/
theorem not_alternate :
    (answeredAndLost.foldl (masterStep masterOfTwo) (startMaster masterOfTwo {})).published =
        [.nodeDown "2"] ∧
      ¬System.Keeps AllAlternate
        (System.trace (masterStep masterOfTwo) (startMaster masterOfTwo {}) answeredAndLost) := by
  refine ⟨by decide +kernel, fun h => ?_⟩
  exact absurd (h _ (.tail _ (.tail _ (.tail _ (.tail _ (.head _))))) "2") (by decide +kernel)

end Election

end UbsEngine
