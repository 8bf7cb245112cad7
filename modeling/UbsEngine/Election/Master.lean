import UbsEngine.Election.Machine

/-!
# The round of a master

What every operation on a master keeps, whatever it does to the nodes that the master
watches: its id and its term (`UbsEngine.Election.MasterState.procTimer_spec`). The heartbeats
of a round all leave under these two.
-/

namespace UbsEngine

namespace Election

namespace MasterState

variable (cfg : NodeConfig) (m : MasterState)

@[simp] theorem setStatus_masterId (id : NodeId) (b : BroadcastStatus) :
    (m.setStatus id b).masterId = m.masterId := rfl

@[simp] theorem setStatus_turnId (id : NodeId) (b : BroadcastStatus) :
    (m.setStatus id b).turnId = m.turnId := rfl

@[simp] theorem dealHbCnt_masterId (id : NodeId) : (m.dealHbCnt cfg id).masterId = m.masterId := by
  unfold dealHbCnt
  dsimp only
  split <;> rfl

@[simp] theorem dealHbCnt_turnId (id : NodeId) : (m.dealHbCnt cfg id).turnId = m.turnId := by
  unfold dealHbCnt
  dsimp only
  split <;> rfl

@[simp] theorem appointStandby_masterId : m.appointStandby.1.masterId = m.masterId := by
  unfold appointStandby
  split <;> rfl

@[simp] theorem appointStandby_turnId : m.appointStandby.1.turnId = m.turnId := by
  unfold appointStandby
  split <;> rfl

@[simp] theorem replaceStandbyNode_masterId (pkt : ElectionPkt) :
    (m.replaceStandbyNode cfg pkt).1.masterId = m.masterId := by
  unfold replaceStandbyNode
  split <;> rfl

@[simp] theorem replaceStandbyNode_turnId (pkt : ElectionPkt) :
    (m.replaceStandbyNode cfg pkt).1.turnId = m.turnId := by
  unfold replaceStandbyNode
  split <;> rfl

/-- The replacement of the standby rewrites one field of the packet. -/
theorem replaceStandbyNode_pkt (pkt : ElectionPkt) :
    (m.replaceStandbyNode cfg pkt).2.1 =
      { pkt with standbyId := (m.replaceStandbyNode cfg pkt).2.1.standbyId } := by
  unfold replaceStandbyNode
  split <;> rfl

theorem buildHeartbeat_pkt (w : ℕ) :
    (m.buildHeartbeat cfg w).2.1.type = .heart ∧
      (m.buildHeartbeat cfg w).2.1.masterId = m.masterId ∧
      (m.buildHeartbeat cfg w).2.1.turnId = m.turnId := by
  simp only [buildHeartbeat]
  rw [replaceStandbyNode_pkt]
  simp [prepareElectionPkt]

theorem buildHeartbeat_state (w : ℕ) :
    (m.buildHeartbeat cfg w).1.masterId = m.masterId ∧
      (m.buildHeartbeat cfg w).1.turnId = m.turnId := by
  simp [buildHeartbeat]

/-- The heartbeats of a round differ in one flag, and sending them changes neither the
master's id nor its term. -/
theorem sendHeartbeats_spec (pkt : ElectionPkt) :
    ((m.sendHeartbeats cfg pkt).1.masterId = m.masterId ∧
      (m.sendHeartbeats cfg pkt).1.turnId = m.turnId) ∧
    ∀ x ∈ (m.sendHeartbeats cfg pkt).2, x.2 = { pkt with broadcast := x.2.broadcast } := by
  unfold sendHeartbeats
  -- The induction is over the connected nodes, from any state and any packets sent before.
  suffices h : ∀ (ids : List NodeId) (m : MasterState) (sent : List (NodeId × ElectionPkt)),
      (∀ x ∈ sent, x.2 = { pkt with broadcast := x.2.broadcast }) →
      let r := ids.foldl
        (fun r id =>
          (r.1.dealHbCnt cfg id,
            r.2 ++ [(id, { pkt with broadcast := (r.1.status id).masterOnlineBcStatus })]))
        (m, sent)
      (r.1.masterId = m.masterId ∧ r.1.turnId = m.turnId) ∧
        ∀ x ∈ r.2, x.2 = { pkt with broadcast := x.2.broadcast } from
    h cfg.connectedNodes m [] (by simp)
  intro ids
  induction ids with
  | nil => intro m sent hsent; exact ⟨⟨rfl, rfl⟩, hsent⟩
  | cons id ids ih =>
    intro m sent hsent
    have := ih (m.dealHbCnt cfg id)
      (sent ++ [(id, { pkt with broadcast := (m.status id).masterOnlineBcStatus })]) (by
        intro x hx
        rcases List.mem_append.1 hx with hx | hx
        · exact hsent x hx
        · rw [List.mem_singleton.1 hx])
    simpa using this

/-- **What a round sends**: heartbeats under the master's id and term, both of which the
round keeps. -/
theorem procTimer_spec (t w : ℕ) :
    ((m.procTimer cfg t w).1.masterId = m.masterId ∧
      (m.procTimer cfg t w).1.turnId = m.turnId) ∧
    ∀ x ∈ (m.procTimer cfg t w).2.1,
      x.2.type = .heart ∧ x.2.masterId = m.masterId ∧ x.2.turnId = m.turnId := by
  unfold procTimer
  split
  · obtain ⟨htype, hid, hturn⟩ := m.buildHeartbeat_pkt cfg w
    obtain ⟨hid', hturn'⟩ := m.buildHeartbeat_state cfg w
    obtain ⟨⟨hid'', hturn''⟩, hsent⟩ :=
      (m.buildHeartbeat cfg w).1.sendHeartbeats_spec cfg (m.buildHeartbeat cfg w).2.1
    refine ⟨⟨hid''.trans hid', hturn''.trans hturn'⟩, fun x hx => ?_⟩
    rw [hsent x hx]
    exact ⟨htype, hid, hturn⟩
  · exact ⟨⟨rfl, rfl⟩, by simp⟩

@[simp] theorem updateBroadcastStatus_turnId (id : NodeId) (reply : ElectionReplyPkt) :
    (m.updateBroadcastStatus id reply).turnId = m.turnId := by
  unfold updateBroadcastStatus
  dsimp only
  split <;> rfl

@[simp] theorem setNodeDownStatus_turnId (id : NodeId) :
    (m.setNodeDownStatus id).1.turnId = m.turnId := by
  unfold setNodeDownStatus
  dsimp only
  split <;> split <;> rfl

end MasterState

end Election

end UbsEngine
