import UbsEngine.Election.Master
import Mathlib.Data.Prod.Lex

/-!
# Merging a split brain

Two masters of one cluster learn of each other by their heartbeats, and each decides on its
own, from what it holds and what the other announces, whether it gives way
(`UbsEngine.Election.stepsDown_iff`): never with a majority behind it, otherwise to the
larger following, then to the higher term, then to the smaller id.

Were a heartbeat to announce exactly the following its sender holds, the two decisions would
be opposite. It does not always: a round that replaces the standby puts the new standby into
a packet whose list of agents has been taken before, so that the new standby is announced
twice (`UbsEngine.Election.MasterState.followerCount_replaceStandbyNode`), and a round may lose a
follower after its heartbeat is built. The receiver of such a heartbeat is
`UbsEngine.Election.Misled` when the difference decides. The exact condition under which one
and only one of the masters gives way, `UbsEngine.Election.xor_stepsDown_iff`, is that they
do not both hold a majority, and that both or neither of them is misled.
-/

namespace UbsEngine

namespace Election

/-! ### Followers -/

namespace MasterState

variable (m : MasterState)

/-- The nodes that a master counts as its own. -/
def followers : List NodeId :=
  m.getAllAgentIDs ++ if m.standbyId ≠ invalidNodeId then [m.standbyId] else []

theorem length_followers : m.followers.length = m.followerCount := by
  unfold followers followerCount
  split <;> simp

end MasterState

theorem findSmallestId_mem (ids : List NodeId) (h : findSmallestId ids ≠ invalidNodeId) :
    findSmallestId ids ∈ ids := by
  unfold findSmallestId at h ⊢
  suffices hs : ∀ (ids : List NodeId) (x : NodeId),
      let r := ids.foldl (fun smallestId nodeId =>
        if smallestId = invalidNodeId ∨ nodeId < smallestId then nodeId else smallestId) x
      r = x ∨ r ∈ ids from (hs ids invalidNodeId).resolve_left h
  intro ids
  induction ids with
  | nil => exact fun x => Or.inl rfl
  | cons id ids ih =>
    intro x
    rw [List.foldl_cons]
    rcases ih (if x = invalidNodeId ∨ id < x then id else x) with h | h
    · rw [h]
      split
      · exact Or.inr (List.mem_cons_self ..)
      · exact Or.inl rfl
    · exact Or.inr (List.mem_cons_of_mem _ h)

/-- **The new standby is announced twice.** When a round replaces the standby by another node,
the heartbeat of that round has the new standby among its agents as well. -/
theorem MasterState.standbyId_mem_agentIds (cfg : NodeConfig) (m : MasterState) (w : ℕ)
    (hreplaced : (m.buildHeartbeat cfg w).2.1.standbyId ≠ m.appointStandby.1.standbyId)
    (hvalid : (m.buildHeartbeat cfg w).2.1.standbyId ≠ invalidNodeId) :
    (m.buildHeartbeat cfg w).2.1.standbyId ∈ (m.buildHeartbeat cfg w).2.1.agentIds := by
  simp only [buildHeartbeat] at hreplaced hvalid ⊢
  set m := m.appointStandby.1
  unfold replaceStandbyNode at hreplaced hvalid ⊢
  split at hreplaced
  next hlost =>
    simp only [if_pos hlost] at hvalid ⊢
    have hmem := findSmallestId_mem _ hvalid
    simp only [List.mem_filter, decide_eq_true_eq] at hmem
    simpa [prepareElectionPkt, getAllAgentIDs, findSmallestIdExcludingMasterAndAgent] using hmem
  next => exact absurd rfl hreplaced

/-! ### The decision of one master -/

variable (cfg : NodeConfig)

/-- A node that is master when the packet arrives gives up the role. -/
def StepsDown (t w : ℕ) (n : Node) (pkt : ElectionPkt) : Prop :=
  ¬(n.recvPkt cfg t w pkt {}).1.role.IsMaster

/-- A master that holds, with itself, more than half of the cluster. -/
def HasMajority (held : ℕ) : Prop := held + 1 > cfg.allNodes.length / 2

/-- The **rank** of a master: the size of its following, then its term, then its id, of which
the smaller one ranks higher. -/
abbrev Rank := ℕ ×ₗ ℕ ×ₗ NodeIdᵒᵈ

/-- The rank of a master with so many followers, of that term and of that id. -/
def rank (followers turnId : ℕ) (masterId : NodeId) : Rank :=
  toLex (followers, toLex (turnId, OrderDual.toDual masterId))

theorem rank_lt_rank {a b t t' : ℕ} {i i' : NodeId} :
    rank a t i < rank b t' i' ↔ a < b ∨ a = b ∧ (t < t' ∨ t = t' ∧ i' < i) := by
  rw [rank, rank, Prod.Lex.toLex_lt_toLex]
  dsimp only
  rw [Prod.Lex.toLex_lt_toLex]
  exact Iff.rfl

theorem rank_ne_rank {a b t t' : ℕ} {i i' : NodeId} (h : i ≠ i') :
    rank a t i ≠ rank b t' i' := fun he =>
  h (congrArg (fun r : Rank => (ofLex (ofLex r).2).2) he)

/-- The rank a master holds. -/
def MasterState.rank (s : MasterState) : Rank := Election.rank s.followerCount s.turnId s.masterId

/-- The rank a heartbeat announces. -/
def ElectionPkt.rank (pkt : ElectionPkt) : Rank :=
  Election.rank pkt.followerCount pkt.turnId pkt.masterId

theorem not_isMaster_acceptNewMaster (t : ℕ) (n : Node) (id : NodeId) (pkt : ElectionPkt)
    (reply : ElectionReplyPkt) :
    ¬(n.acceptNewMaster cfg t id pkt reply).1.role.IsMaster := by
  unfold Node.acceptNewMaster
  split <;> exact fun h => h

theorem isMaster_handleSplitBrainMerge {t : ℕ} {n : Node} {s : MasterState} {pkt : ElectionPkt}
    {reply : ElectionReplyPkt} (hrole : n.role = .master s) (hne : s.masterId ≠ pkt.masterId) :
    (n.handleSplitBrainMerge cfg t s pkt reply).1.role.IsMaster ↔ s.masterId < pkt.masterId := by
  unfold Node.handleSplitBrainMerge
  by_cases h : s.masterId < pkt.masterId
  · simp [h, hrole]
  · rw [if_neg h, if_neg hne.symm]
    exact iff_of_false id h

/-- **When a master gives way** to the heartbeat of another one: without a majority, and
outranked by what the heartbeat announces. -/
theorem stepsDown_iff {t w : ℕ} {n : Node} {s : MasterState} {pkt : ElectionPkt}
    (hrole : n.role = .master s) (htype : pkt.type = .heart)
    (hallowed : cfg.isAllowedMasterNode pkt.masterId = true) (hnodes : cfg.allNodes ≠ [])
    (hne : s.masterId ≠ pkt.masterId) :
    StepsDown cfg t w n pkt ↔ ¬HasMajority cfg s.followerCount ∧ s.rank < pkt.rank := by
  have hrecv : n.recvPkt cfg t w pkt {} = n.masterRecvHeart cfg t s pkt {} := by
    simp [Node.recvPkt, hrole, htype, hallowed]
  have hstay : n.role.IsMaster := by rw [hrole]; trivial
  rw [StepsDown, hrecv, Node.masterRecvHeart, if_neg hnodes, HasMajority, MasterState.rank,
    ElectionPkt.rank, rank_lt_rank]
  by_cases hmaj : s.followerCount + 1 > cfg.allNodes.length / 2
  · rw [if_pos hmaj]
    exact iff_of_false (fun h => h hstay) fun h => h.1 hmaj
  rw [if_neg hmaj]
  rcases lt_trichotomy s.followerCount pkt.followerCount with hlt | heq | hgt
  · rw [if_neg hlt.not_gt, if_pos hlt]
    exact iff_of_true (not_isMaster_acceptNewMaster cfg _ _ _ _ _) ⟨hmaj, Or.inl hlt⟩
  · rw [if_neg heq.not_gt, if_neg heq.not_lt]
    rcases lt_trichotomy s.turnId pkt.turnId with ht | ht | ht
    · rw [if_pos ht]
      exact iff_of_true (not_isMaster_acceptNewMaster cfg _ _ _ _ _)
        ⟨hmaj, Or.inr ⟨heq, Or.inl ht⟩⟩
    · rw [if_neg ht.not_lt, if_pos ht.symm, isMaster_handleSplitBrainMerge cfg hrole hne]
      constructor
      · exact fun h => ⟨hmaj, Or.inr ⟨heq, Or.inr ⟨ht, lt_of_le_of_ne (not_lt.1 h) hne.symm⟩⟩⟩
      · rintro ⟨-, hlt | ⟨-, ht' | ⟨-, hi⟩⟩⟩
        · exact absurd heq hlt.ne
        · exact absurd ht ht'.ne
        · exact hi.not_gt
    · rw [if_neg ht.not_gt, if_neg ht.ne]
      refine iff_of_false (fun h => h hstay) ?_
      rintro ⟨-, hlt | ⟨-, ht' | ⟨ht', -⟩⟩⟩
      · exact hlt.ne heq
      · exact ht.not_gt ht'
      · exact ht.ne' ht'
  · rw [if_pos hgt]
    refine iff_of_false (fun h => h hstay) ?_
    rintro ⟨-, hlt | ⟨heq, -⟩⟩
    · exact hgt.not_gt hlt
    · exact hgt.ne' heq

/-! ### Two masters -/

/-- The receiver is **misled** by a heartbeat: it has no majority to fall back on, and what
the heartbeat announces ranks on the other side of it than what its sender holds. -/
def Misled (receiver sender : MasterState) (pkt : ElectionPkt) : Prop :=
  ¬HasMajority cfg receiver.followerCount ∧
    ¬(receiver.rank < pkt.rank ↔ receiver.rank < sender.rank)

theorem misled_congr_false {receiver sender : MasterState} {pkt : ElectionPkt}
    (h : pkt.rank = sender.rank) : ¬Misled cfg receiver sender pkt := fun hm =>
  hm.2 (by rw [h])

/-- One round of a master: the node after the round, the role it has then, and the heartbeat
that left for `dest`. -/
structure Round (n n' : Node) (s : MasterState) (dest : NodeId) (pkt : ElectionPkt) : Prop where
  /-- The node is master after the round. -/
  role_eq : n'.role = .master s
  /-- The round is a call of the timer, and `pkt` is what it sends to `dest`. -/
  sent : ∃ t w, n' = (n.procTimer cfg t w).1 ∧ (dest, pkt) ∈ (n.procTimer cfg t w).2.1

theorem Round.pkt_eq {n n' : Node} {s : MasterState} {dest : NodeId} {pkt : ElectionPkt}
    (h : Round cfg n n' s dest pkt) :
    pkt.type = .heart ∧ pkt.masterId = s.masterId ∧ pkt.turnId = s.turnId := by
  obtain ⟨hrole, t, w, rfl, hsent⟩ := h
  unfold Node.procTimer at hrole hsent
  cases hb : n.ballot with
  | some b => simp [hb] at hsent
  | none =>
    cases hr : n.role with
    | initializer i => simp [hb, hr] at hsent
    | agent i => simp [hb, hr] at hsent
    | standby i => simp [hb, hr] at hsent
    | master m =>
      simp only [hb, hr, ElectionRole.master.injEq] at hrole hsent
      obtain ⟨⟨hid, hturn⟩, hpkt⟩ := m.procTimer_spec cfg t w
      obtain ⟨htype, hid', hturn'⟩ := hpkt _ hsent
      rw [← hrole, hid, hturn]
      exact ⟨htype, hid', hturn'⟩

variable {cfgA cfgB : NodeConfig} {A A' B B' : Node} {a b : MasterState} {pktA pktB : ElectionPkt}

/-- Two parties decide by opposite facts `L` and `L'`, which they know as `O` and `O'`, unless
they have a majority, `M` and `N`: then exactly one gives way if and only if one of them may and
both or neither err. -/
theorem xor_iff_misled {M N O O' L L' : Prop} (hL : L ↔ ¬L') (hab : L → M → N)
    (hba : L' → N → M) :
    Xor (¬M ∧ O) (¬N ∧ O') ↔
      ¬(M ∧ N) ∧ ((¬M ∧ ¬(O ↔ L)) ↔ (¬N ∧ ¬(O' ↔ L'))) := by
  unfold Xor
  grind

/-- **Which of two masters gives way.** Exactly one of them does if and only if they do not
both hold a majority, and both or neither of them is misled by the other's heartbeat. -/
theorem xor_stepsDown_iff {tA tB wA wB : ℕ}
    (hA : Round cfgA A A' a b.masterId pktA) (hB : Round cfgB B B' b a.masterId pktB)
    (hne : a.masterId ≠ b.masterId) (hcluster : cfgA.allNodes = cfgB.allNodes)
    (hnodes : cfgA.allNodes ≠ []) (hallowB : cfgA.isAllowedMasterNode b.masterId = true)
    (hallowA : cfgB.isAllowedMasterNode a.masterId = true) :
    Xor (StepsDown cfgA tA wA A' pktB) (StepsDown cfgB tB wB B' pktA) ↔
      ¬(HasMajority cfgA a.followerCount ∧ HasMajority cfgA b.followerCount) ∧
        (Misled cfgA a b pktB ↔ Misled cfgA b a pktA) := by
  obtain ⟨htA, hidA, -⟩ := hA.pkt_eq
  obtain ⟨htB, hidB, -⟩ := hB.pkt_eq
  have hmajB : HasMajority cfgB b.followerCount ↔ HasMajority cfgA b.followerCount := by
    rw [HasMajority, HasMajority, hcluster]
  rw [stepsDown_iff cfgA hA.role_eq htB (hidB ▸ hallowB) hnodes (hidB ▸ hne),
    stepsDown_iff cfgB hB.role_eq htA (hidA ▸ hallowA) (hcluster ▸ hnodes) (hidA ▸ hne.symm),
    hmajB]
  -- By what they hold, exactly one of the two is outranked, and the other has the larger part.
  have hrank : a.rank < b.rank ↔ ¬b.rank < a.rank :=
    ⟨fun h => h.not_gt, fun h => lt_of_le_of_ne (not_lt.1 h) (rank_ne_rank hne)⟩
  have hmono : ∀ {x y : MasterState}, x.rank < y.rank → HasMajority cfgA x.followerCount →
      HasMajority cfgA y.followerCount := by
    intro x y hxy hx
    have hle : x.followerCount ≤ y.followerCount := by
      rcases rank_lt_rank.1 hxy with h | ⟨h, -⟩
      · exact h.le
      · exact h.le
    unfold HasMajority at hx ⊢
    omega
  exact xor_iff_misled hrank hmono hmono

/-- Two masters whose parts of the cluster are disjoint do not both hold a majority of it. -/
theorem not_both_hasMajority {cfg : NodeConfig}
    (hparts : (a.masterId :: a.followers ++ b.masterId :: b.followers).Nodup)
    (hsub : (a.masterId :: a.followers ++ b.masterId :: b.followers) ⊆ cfg.allNodes) :
    ¬(HasMajority cfg a.followerCount ∧ HasMajority cfg b.followerCount) := by
  have hlen := (List.subperm_of_subset hparts hsub).length_le
  simp only [List.length_append, List.length_cons, MasterState.length_followers] at hlen
  unfold HasMajority
  omega

/-- **Accurate heartbeats decide.** Two masters with disjoint parts of the cluster, each of
which announces as many followers as it holds: exactly one gives way. -/
theorem xor_stepsDown_of_accurate {tA tB wA wB : ℕ}
    (hA : Round cfgA A A' a b.masterId pktA) (hB : Round cfgB B B' b a.masterId pktB)
    (hcluster : cfgA.allNodes = cfgB.allNodes)
    (hallowB : cfgA.isAllowedMasterNode b.masterId = true)
    (hallowA : cfgB.isAllowedMasterNode a.masterId = true)
    (hparts : (a.masterId :: a.followers ++ b.masterId :: b.followers).Nodup)
    (hsub : (a.masterId :: a.followers ++ b.masterId :: b.followers) ⊆ cfgA.allNodes)
    (haccA : pktA.followerCount = a.followerCount) (haccB : pktB.followerCount = b.followerCount) :
    Xor (StepsDown cfgA tA wA A' pktB) (StepsDown cfgB tB wB B' pktA) := by
  have hne : a.masterId ≠ b.masterId := by
    have := (List.nodup_append.1 hparts).2.2
    exact this _ (List.mem_cons_self ..) _ (List.mem_cons_self ..)
  have hnodes : cfgA.allNodes ≠ [] := List.ne_nil_of_mem (hsub (List.mem_cons_self ..))
  obtain ⟨-, hidA, hturnA⟩ := hA.pkt_eq
  obtain ⟨-, hidB, hturnB⟩ := hB.pkt_eq
  refine (xor_stepsDown_iff hA hB hne hcluster hnodes hallowB hallowA).2
    ⟨not_both_hasMajority hparts hsub, iff_of_false ?_ ?_⟩
  · exact misled_congr_false cfgA (by rw [ElectionPkt.rank, MasterState.rank, hidB, hturnB, haccB])
  · exact misled_congr_false cfgA (by rw [ElectionPkt.rank, MasterState.rank, hidA, hturnA, haccA])

/-! ### A round that replaces its standby -/

/-- A cluster of six nodes, seen from one of them. -/
def sixNodes (myselfId : NodeId) : NodeConfig where
  myselfId := myselfId
  allNodes := ["1", "2", "3", "4", "5", "6"]
  connectedNodes := ["1", "2", "3", "4", "5", "6"].filter (· ≠ myselfId)

/-- The master `1`, whose standby `2` has missed three heartbeats, and whose agent is `3`. -/
def losingStandby : MasterState where
  masterId := "1"
  standbyId := "2"
  turnId := 1
  broadcast := ((∅ : Map NodeId BroadcastStatus).insert "2" { active := true, heartBeatLossCnt := 3 }).insert
    "3" { active := true }

/-- The master `4`, of the next term, whose standby is `5`. -/
def keepingStandby : MasterState where
  masterId := "4"
  standbyId := "5"
  turnId := 2
  broadcast := (∅ : Map NodeId BroadcastStatus).insert "5" { active := true }

/-- The heartbeat of the round in which `1` makes `3` its standby. -/
def losingStandbyPkt : ElectionPkt where
  type := .heart
  masterId := "1"
  standbyId := "3"
  turnId := 1
  agentIds := ["3"]
  agentCount := 1
  masterStatus := 1

/-- The heartbeat of a round of `4`. -/
def keepingStandbyPkt : ElectionPkt where
  type := .heart
  masterId := "4"
  standbyId := "5"
  turnId := 2
  masterStatus := 1

/-- A master as a node that nothing else occupies. -/
def masterNode (m : MasterState) : Node where
  localState := .ready
  role := .master m

theorem round_losingStandby :
    Round (sixNodes "1") (masterNode losingStandby)
      ((masterNode losingStandby).procTimer (sixNodes "1") 5000 1).1
      (losingStandby.procTimer (sixNodes "1") 5000 1).1 "4" losingStandbyPkt :=
  ⟨rfl, 5000, 1, rfl, by decide⟩

theorem round_keepingStandby :
    Round (sixNodes "4") (masterNode keepingStandby)
      ((masterNode keepingStandby).procTimer (sixNodes "4") 5000 1).1
      (keepingStandby.procTimer (sixNodes "4") 5000 1).1 "1" keepingStandbyPkt :=
  ⟨rfl, 5000, 1, rfl, by decide⟩

/-- The condition at a concrete pair of rounds. -/
theorem xor_stepsDown_sixNodes :
    Xor
        (StepsDown (sixNodes "1") 6000 1
          ((masterNode losingStandby).procTimer (sixNodes "1") 5000 1).1 keepingStandbyPkt)
        (StepsDown (sixNodes "4") 6000 1
          ((masterNode keepingStandby).procTimer (sixNodes "4") 5000 1).1 losingStandbyPkt) ↔
      ¬(HasMajority (sixNodes "1")
            (losingStandby.procTimer (sixNodes "1") 5000 1).1.followerCount ∧
          HasMajority (sixNodes "1")
            (keepingStandby.procTimer (sixNodes "4") 5000 1).1.followerCount) ∧
        (Misled (sixNodes "1") (losingStandby.procTimer (sixNodes "1") 5000 1).1
            (keepingStandby.procTimer (sixNodes "4") 5000 1).1 keepingStandbyPkt ↔
          Misled (sixNodes "1") (keepingStandby.procTimer (sixNodes "4") 5000 1).1
            (losingStandby.procTimer (sixNodes "1") 5000 1).1 losingStandbyPkt) :=
  xor_stepsDown_iff round_losingStandby round_keepingStandby (by decide) (by decide) (by decide)
    (by decide) (by decide)

/-- Two masters with disjoint parts of a cluster both give way: the one of the lower term has
just replaced its standby, announces two followers and holds one. -/
theorem not_xor_stepsDown :
    ¬∀ (cfgA cfgB : NodeConfig) (A A' B B' : Node) (a b : MasterState) (pktA pktB : ElectionPkt)
      (tA tB wA wB : ℕ), Round cfgA A A' a b.masterId pktA → Round cfgB B B' b a.masterId pktB →
      a.masterId ≠ b.masterId → cfgA.allNodes = cfgB.allNodes → cfgA.allNodes ≠ [] →
      cfgA.isAllowedMasterNode b.masterId = true → cfgB.isAllowedMasterNode a.masterId = true →
      (a.masterId :: a.followers ++ b.masterId :: b.followers).Nodup →
      Xor (StepsDown cfgA tA wA A' pktB) (StepsDown cfgB tB wB B' pktA) := by
  intro h
  have hx := h (sixNodes "1") (sixNodes "4") _ _ _ _ (losingStandby.procTimer (sixNodes "1") 5000 1).1
    (keepingStandby.procTimer (sixNodes "4") 5000 1).1 _ _ 6000 6000 1 1
    round_losingStandby round_keepingStandby
    (by decide) (by decide) (by decide) (by decide) (by decide) (by decide)
  rcases hx with ⟨-, hB⟩ | ⟨-, hA⟩
  · exact hB (by unfold StepsDown; decide)
  · exact hA (by unfold StepsDown; decide)

end Election

end UbsEngine
