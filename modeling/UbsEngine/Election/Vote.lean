import UbsEngine.Election.Cluster

/-!
# At most one master after a cold start

A node becomes master when every other node has granted its request, so two masters have
granted each other. The rule by which a ready initializer votes makes that impossible between
two candidates that are both ready: it refuses whoever has the larger id. But an initializer
that is not ready yet grants every request and keeps no record of it, and may run itself a
moment later: its request is granted by the very node whose request it has granted, and whose
election is still open.

`UbsEngine.Election.Granted` says of a node that it counts on the vote of another one, and
`UbsEngine.Election.MutualVote` names the step by which two nodes come to count on each other.
Without that step no two nodes ever do (`UbsEngine.Election.exclusive_of_reachable`), and there
is at most one master (`UbsEngine.Election.atMostOneMaster`).
-/

namespace UbsEngine

namespace Election

/-! ### What a handler leaves alone -/

/-- A step that does not advance an election: the ballot stays, the role object is the same or
a newer one, and the node does not become master. -/
structure Passive (n n' : Node) : Prop where
  ballot_eq : n'.ballot = n.ballot
  epoch_le : n.epoch ≤ n'.epoch
  isMaster : n'.role.IsMaster → n.role.IsMaster

variable (cfg : NodeConfig)

theorem Passive.refl (n : Node) : Passive n n := ⟨rfl, le_rfl, id⟩

theorem passive_role {n : Node} {r : ElectionRole} (h : r.IsMaster → n.role.IsMaster) :
    Passive n { n with role := r } := ⟨rfl, le_rfl, h⟩

theorem passive_switchRole (n : Node) (t : ℕ) {type : RoleType} (ctx : RoleContext)
    (h : type ≠ .master) : Passive n (n.switchRole cfg t type ctx) := by
  refine ⟨rfl, Nat.le_succ _, ?_⟩
  cases type with
  | master => exact absurd rfl h
  | standby => exact fun h => absurd h id
  | agent => exact fun h => absurd h id
  | initializer => exact fun h => absurd h id

theorem passive_initializerRecvPkt (n : Node) (t : ℕ) (pkt : ElectionPkt)
    (reply : ElectionReplyPkt) : Passive n (n.initializerRecvPkt cfg t pkt reply).1 := by
  unfold Node.initializerRecvPkt
  split
  · split <;> exact .refl n
  · split
    · exact .refl n
    · exact passive_switchRole cfg n t _ (by split <;> simp)
    · exact .refl n

theorem passive_agentRecvHeart (n : Node) (t : ℕ) (s : AgentState) (pkt : ElectionPkt)
    (reply : ElectionReplyPkt) : Passive n (n.agentRecvHeart cfg t s pkt reply).1 := by
  unfold Node.agentRecvHeart
  split
  · dsimp only
    split
    · exact ⟨rfl, Nat.le_succ _, fun h => absurd h id⟩
    · exact passive_role fun h => absurd h id
  · unfold Node.handleMasterChange
    split <;> exact passive_role fun h => absurd h id

theorem passive_standbyRecvHeart (n : Node) (t w : ℕ) (s : StandbyState) (pkt : ElectionPkt)
    (reply : ElectionReplyPkt) : Passive n (n.standbyRecvHeart cfg t w s pkt reply).1 := by
  unfold Node.standbyRecvHeart
  split
  · split
    · exact passive_role fun h => absurd h id
    · exact passive_switchRole cfg n t _ (by simp)
  · split
    · exact passive_switchRole cfg n t _ (by simp)
    · exact .refl n

theorem passive_acceptNewMaster (n : Node) (t : ℕ) (id : NodeId) (pkt : ElectionPkt)
    (reply : ElectionReplyPkt) : Passive n (n.acceptNewMaster cfg t id pkt reply).1 := by
  unfold Node.acceptNewMaster
  split <;> exact passive_switchRole cfg n t _ (by simp)

theorem passive_masterRecvHeart (n : Node) (t : ℕ) (s : MasterState) (pkt : ElectionPkt)
    (reply : ElectionReplyPkt) : Passive n (n.masterRecvHeart cfg t s pkt reply).1 := by
  unfold Node.masterRecvHeart
  split
  · exact .refl n
  split
  · exact .refl n
  split
  · exact .refl n
  split
  · exact passive_acceptNewMaster cfg n t _ pkt reply
  split
  · exact passive_acceptNewMaster cfg n t _ pkt reply
  split
  · unfold Node.handleSplitBrainMerge
    generalize (if s.masterId < pkt.masterId then s.masterId else pkt.masterId) = newMasterId
    dsimp only
    split
    · exact .refl n
    · exact passive_switchRole cfg n t _ (by simp)
  · exact .refl n

/-- Packets do not advance an election. -/
theorem passive_recvPkt (n : Node) (t w : ℕ) (pkt : ElectionPkt) (reply : ElectionReplyPkt) :
    Passive n (n.recvPkt cfg t w pkt reply).1 := by
  unfold Node.recvPkt
  split
  · exact .refl n
  split
  · exact passive_initializerRecvPkt cfg n t pkt reply
  · exact .refl n
  · exact passive_agentRecvHeart cfg n t _ pkt reply
  · exact .refl n
  · exact passive_standbyRecvHeart cfg n t w _ pkt reply
  · exact .refl n
  · exact passive_masterRecvHeart cfg n t _ pkt reply
  · exact .refl n

theorem passive_step_recvPkt (n : Node) (stale : Bool) (t w : ℕ) (pkt : ElectionPkt) :
    Passive n (n.step cfg (.recvPkt stale t w pkt)) := by
  cases stale with
  | true => exact .refl n
  | false => exact passive_recvPkt cfg n t w pkt {}

theorem passive_step_heartReply (n : Node) (id : NodeId) (reply : ElectionReplyPkt) :
    Passive n (n.step cfg (.heartReply id reply)) := by
  unfold Node.step
  dsimp only
  split
  next s hrole => exact passive_role fun _ => by rw [hrole]; trivial
  next => exact .refl n

theorem passive_setLocalState (n : Node) (localState : UbseNodeLocalState) :
    Passive n (n.step cfg (.setLocalState localState)) := ⟨rfl, le_rfl, id⟩

/-- The timer of a node without heartbeat timeout: it opens a ballot with all connected nodes
still to be asked, or advances nothing. -/
theorem timer_cases {n : Node} {t : ℕ} (w : ℕ) (ht : NoTimeout cfg t n.role) :
    Passive n (n.step cfg (.timer t w)) ∨
      n.ballot = none ∧ ¬(n.step cfg (.timer t w)).role.IsMaster ∧
        (n.step cfg (.timer t w)).epoch = n.epoch ∧
        (n.step cfg (.timer t w)).ballot =
          some { epoch := n.epoch, remaining := cfg.connectedNodes } := by
  have hmono : ∀ {last k : ℕ}, cfg.hbLostTimes - 1 ≤ k →
      isHeartBeatTimeout cfg t last (cfg.hbLostTimes - 1) = false →
      isHeartBeatTimeout cfg t last k = false := by
    intro last k hk h
    unfold isHeartBeatTimeout at h ⊢
    split
    · rfl
    next hlt =>
      rw [if_neg hlt] at h
      simp only [decide_eq_false_iff_not, not_lt] at h ⊢
      exact h.trans (Nat.mul_le_mul_right _ hk)
  unfold Node.step Node.procTimer
  dsimp only
  split
  next => exact Or.inl (.refl n)
  next s hb hrole =>
    unfold Node.initializerTimer
    split
    · exact Or.inl (.refl n)
    · dsimp only
      generalize (if s.isStartTimeSet then s
        else { s with startTimeMs := t, isStartTimeSet := true }) = s'
      by_cases hw : Node.wantsElection cfg { s' with lastTimeMs := t } = true
      · exact Or.inr ⟨hb, id, rfl, by simp [hw]⟩
      · exact Or.inl ⟨by simp [hw, hb], le_rfl, fun h => absurd h id⟩
  next s hb hrole =>
    rw [hrole] at ht
    unfold Node.agentTimer
    rw [hmono (by omega) ht]
    exact Or.inl (.refl n)
  next s hb hrole =>
    rw [hrole] at ht
    unfold Node.standbyTimer
    rw [hmono (by omega) ht]
    exact Or.inl (.refl n)
  next s hb hrole => exact Or.inl (passive_role fun _ => by rw [hrole]; trivial)

/-! ### Counting on a vote -/

/-- In its open election, the node has the vote of `j`: it has got the answer, or the answer is
on its way. -/
def Pledged (n : Node) (answer : Option ElectionReplyPkt) (j : NodeId) : Prop :=
  ∃ b, n.ballot = some b ∧ b.rejected = false ∧ b.epoch = n.epoch ∧
    (j ∉ b.remaining ∨
      b.remaining.head? = some j ∧ ∃ r, answer = some r ∧ r.replyResult = .accept)

/-- The node **counts on** the vote of `j`: it is master, or has the vote in its election. -/
def Granted (n : Node) (answer : Option ElectionReplyPkt) (j : NodeId) : Prop :=
  n.role.IsMaster ∨ Pledged n answer j

/-- Ballots are of role objects that exist, and answers are to ballots. -/
structure WellFormed (n : Node) (answer : Option ElectionReplyPkt) : Prop where
  epoch_le : ∀ b, n.ballot = some b → b.epoch ≤ n.epoch
  ballot_of_answer : ∀ r, answer = some r →
    ∃ b, n.ballot = some b ∧ b.rejected = false ∧ b.remaining ≠ []

variable {cfg}
variable {n n' : Node} {a : Option ElectionReplyPkt} {j : NodeId}

theorem Granted.of_passive (hp : Passive n n') (hwf : WellFormed n a) (h : Granted n' a j) :
    Granted n a j := by
  rcases h with h | ⟨b, hb, hrej, hepoch, hvote⟩
  · exact Or.inl (hp.isMaster h)
  · -- The ballot belongs to the current role object, which was current before.
    rw [hp.ballot_eq] at hb
    have := hwf.epoch_le b hb
    have := hp.epoch_le
    exact Or.inr ⟨b, hb, hrej, by omega, hvote⟩

theorem WellFormed.of_passive (hp : Passive n n') (hwf : WellFormed n a) : WellFormed n' a where
  epoch_le b hb := (hwf.epoch_le b (hp.ballot_eq ▸ hb)).trans hp.epoch_le
  ballot_of_answer r hr := by rw [hp.ballot_eq]; exact hwf.ballot_of_answer r hr

theorem granted_timer {t w : ℕ} (ht : NoTimeout cfg t n.role) (hwf : WellFormed n a)
    (hj : j ∈ cfg.connectedNodes) (h : Granted (n.step cfg (.timer t w)) a j) : Granted n a j := by
  rcases timer_cases cfg w ht with hp | ⟨hb, hmaster, -, hballot⟩
  · exact h.of_passive hp hwf
  · rcases h with h | ⟨b, hb', -, -, hvote⟩
    · exact absurd h hmaster
    · -- In the new ballot nobody has been asked, and no answer can be on its way.
      rw [hballot, Option.some_inj] at hb'
      subst hb'
      rcases hvote with hvote | ⟨-, r, hr, -⟩
      · exact absurd hj hvote
      · obtain ⟨b, hb', -⟩ := hwf.ballot_of_answer r hr
        simp [hb] at hb'

theorem wellFormed_timer {t w : ℕ} (ht : NoTimeout cfg t n.role) (hwf : WellFormed n a) :
    WellFormed (n.step cfg (.timer t w)) a := by
  rcases timer_cases cfg w ht with hp | ⟨hb, -, hepoch, hballot⟩
  · exact hwf.of_passive hp
  · refine ⟨fun b hb' => ?_, fun r hr => ?_⟩
    · rw [hballot, Option.some_inj] at hb'
      rw [← hb', hepoch]
    · obtain ⟨b, hb', -⟩ := hwf.ballot_of_answer r hr
      simp [hb] at hb'

/-- The answer of the node that was asked takes it off the ballot, or ends the election. -/
theorem selectAnswer_eq {b : Ballot} {r : ElectionReplyPkt} (hb : n.ballot = some b)
    (hrej : b.rejected = false) (hne : b.remaining ≠ []) :
    n.selectAnswer (some r) =
      if r.replyResult = .accept then { n with ballot := some { b with remaining := b.remaining.tail } }
      else { n with ballot := some { b with rejected := true } } := by
  unfold Node.selectAnswer
  rw [hb]
  dsimp only
  rw [hrej]
  cases hr : b.remaining with
  | nil => exact absurd hr hne
  | cons k rest => simp

theorem granted_selectAnswer {r : ElectionReplyPkt} (hwf : WellFormed n (some r))
    (h : Granted (n.selectAnswer (some r)) none j) : Granted n (some r) j := by
  obtain ⟨b, hb, hrej, hne⟩ := hwf.ballot_of_answer r rfl
  rw [selectAnswer_eq hb hrej hne] at h
  split at h
  next hacc =>
    rcases h with h | ⟨b', hb', -, hepoch, hvote⟩
    · exact Or.inl h
    · simp only [Option.some_inj] at hb'
      subst hb'
      refine Or.inr ⟨b, hb, hrej, hepoch, ?_⟩
      rcases hvote with hvote | ⟨-, r', hr', -⟩
      · by_cases hhead : b.remaining.head? = some j
        · exact Or.inr ⟨hhead, r, rfl, hacc⟩
        · refine Or.inl fun hmem => hvote ?_
          cases hrem : b.remaining with
          | nil => exact absurd hrem hne
          | cons k rest =>
            rw [hrem] at hmem hhead
            rcases List.mem_cons.1 hmem with rfl | hmem
            · exact absurd rfl hhead
            · exact hmem
      · cases hr'
  next =>
    rcases h with h | ⟨b', hb', hrej', -⟩
    · exact Or.inl h
    · simp only [Option.some_inj] at hb'
      subst hb'
      simp at hrej'

theorem wellFormed_selectAnswer {r : ElectionReplyPkt} (hwf : WellFormed n (some r)) :
    WellFormed (n.selectAnswer (some r)) none := by
  obtain ⟨b, hb, hrej, hne⟩ := hwf.ballot_of_answer r rfl
  rw [selectAnswer_eq hb hrej hne]
  refine ⟨fun b' hb' => ?_, by simp⟩
  split at hb'
  all_goals
    simp only [Option.some_inj] at hb'
    subst hb'
    have := hwf.epoch_le b hb
    split <;> exact this

/-- **The end of an election makes no new grants**: who becomes master had everybody's vote. -/
theorem conclude_cases (n : Node) (t : ℕ) :
    n.step cfg (.conclude t) = n ∨
      (n.step cfg (.conclude t)).ballot = none ∧
        n.epoch ≤ (n.step cfg (.conclude t)).epoch ∧
        ((n.step cfg (.conclude t)).role.IsMaster → ∀ a j, Granted n a j) ∧
        ∀ b, n.ballot = some b → b.rejected = true ∨ b.remaining = [] := by
  unfold Node.step Node.conclude
  dsimp only
  split
  next => exact Or.inl rfl
  next b hb =>
    split
    next hend =>
      refine Or.inr ?_
      rw [hb]
      have hall : ∀ b', some b = some b' → b'.rejected = true ∨ b'.remaining = [] := by
        rintro b' ⟨⟩
        exact hend
      have hwon : b.epoch = n.epoch → b.rejected = false → ∀ a j, Granted n a j := by
        intro hepoch hrej a j
        have hrem := hend.resolve_left (by simp [hrej])
        exact Or.inr ⟨b, hb, hrej, hepoch, Or.inl (by simp [hrem])⟩
      split
      next => exact ⟨rfl, le_rfl, fun h a j => Or.inl h, hall⟩
      next hepoch =>
        rw [not_not] at hepoch
        split
        next s hrole =>
          split
          next hrej => exact ⟨rfl, le_rfl, fun h => absurd h (by simp [hrole]), hall⟩
          next hrej =>
            exact ⟨rfl, Nat.le_succ _, fun _ => hwon hepoch (by simpa using hrej), hall⟩
        next s hrole =>
          split
          next hrej => exact ⟨rfl, Nat.le_succ _, fun h => absurd h id, hall⟩
          next hrej =>
            exact ⟨rfl, Nat.le_succ _, fun _ => hwon hepoch (by simpa using hrej), hall⟩
        next => exact ⟨rfl, le_rfl, fun h a j => Or.inl h, hall⟩
        next => exact ⟨rfl, le_rfl, fun h a j => Or.inl h, hall⟩
    next => exact Or.inl rfl

theorem granted_conclude {t : ℕ} (h : Granted (n.step cfg (.conclude t)) a j) :
    Granted n a j := by
  rcases @conclude_cases cfg n t with heq | ⟨hballot, -, hmaster, -⟩
  · rwa [heq] at h
  · rcases h with h | ⟨b, hb, -⟩
    · exact hmaster h a j
    · simp [hballot] at hb

theorem wellFormed_conclude {t : ℕ} (hwf : WellFormed n a) :
    WellFormed (n.step cfg (.conclude t)) a := by
  rcases @conclude_cases cfg n t with heq | ⟨hballot, -, -, hend⟩
  · rwa [heq]
  · refine ⟨fun b hb => by simp [hballot] at hb, fun r hr => ?_⟩
    obtain ⟨b, hb, hrej, hne⟩ := hwf.ballot_of_answer r hr
    rcases hend b hb with h | h
    · simp [hrej] at h
    · exact absurd h hne

/-- A master refuses to vote. -/
theorem not_isMaster_of_accept {stale : Bool} {t w : ℕ} {pkt : ElectionPkt}
    (htype : pkt.type = .select) (h : (n.reply cfg stale t w pkt).replyResult = .accept) :
    ¬n.role.IsMaster := by
  intro hm
  cases hrole : n.role with
  | master m =>
    unfold Node.reply Node.recvPkt Node.refusal at h
    split at h
    · simp at h
    · split at h <;> simp [hrole, htype] at h
  | _ => simp [hrole] at hm

/-! ### The cluster -/

variable {C : Cluster} {s s' : ClusterState} {e : ClusterEvent}

/-- **Two nodes come to count on each other**: a node votes for one that has voted for it, in an
election of its own that is still open. -/
def MutualVote (C : Cluster) (s : ClusterState) : ClusterEvent → Prop
  | .deliverSelect i stale t w =>
    ∃ j, asked s i = some j ∧
      ((s.node j).reply (C.cfg j) stale t w (Node.selectPkt (C.cfg i))).replyResult = .accept ∧
      Pledged (s.node j) (s.answer j) i
  | _ => False

/-- No two nodes count on each other's votes. -/
def Exclusive (C : Cluster) (s : ClusterState) : Prop :=
  ∀ i ∈ C.nodes, ∀ j ∈ C.nodes, i ≠ j → Granted (s.node i) (s.answer i) j →
    ¬Granted (s.node j) (s.answer j) i

/-- Every node is well formed. -/
def AllWellFormed (s : ClusterState) : Prop := ∀ i, WellFormed (s.node i) (s.answer i)

theorem asked_eq_some {i : NodeId} (h : asked s i = some j) :
    s.answer i = none ∧ ∃ b, (s.node i).ballot = some b ∧ b.rejected = false ∧
      b.remaining.head? = some j := by
  unfold asked at h
  split at h
  next b hb ha =>
    split at h
    · cases h
    next hrej => exact ⟨ha, b, hb, by simpa using hrej, h⟩
  · cases h

/-- The node that is asked gives its answer; all other grants are as before. -/
theorem Granted.of_answer {r : ElectionReplyPkt} {b : Ballot} {k : NodeId}
    (hb : n.ballot = some b) (hhead : b.remaining.head? = some k)
    (h : Granted n (some r) j) : Granted n none j ∨ j = k ∧ r.replyResult = .accept := by
  rcases h with h | ⟨b', hb', hrej, hepoch, hvote⟩
  · exact Or.inl (Or.inl h)
  · obtain rfl : b = b' := Option.some_inj.1 (hb.symm.trans hb')
    rcases hvote with hvote | ⟨hj, r', hr', hacc⟩
    · exact Or.inl (Or.inr ⟨b, hb, hrej, hepoch, Or.inl hvote⟩)
    · obtain rfl := Option.some_inj.1 hr'
      exact Or.inr ⟨Option.some_inj.1 (hj.symm.trans hhead), hacc⟩

/-- A step that replaces one node, and maybe the answer on its way to it, makes no grants but
those that the replacement makes. -/
theorem granted_update {k i : NodeId} {m : Node} {a' : Option ElectionReplyPkt}
    (hk : Granted m a' j → Granted (s.node k) (s.answer k) j)
    (h : Granted (Function.update s.node k m i) (Function.update s.answer k a' i) j) :
    Granted (s.node i) (s.answer i) j := by
  by_cases hi : i = k
  · subst hi
    simp only [Function.update_self] at h
    exact hk h
  · simpa only [Function.update_of_ne hi] using h

theorem allWellFormed_update (hwf : AllWellFormed s) {k : NodeId} {m : Node}
    {a' : Option ElectionReplyPkt} (hk : WellFormed m a') (i : NodeId) :
    WellFormed (Function.update s.node k m i) (Function.update s.answer k a' i) := by
  by_cases hi : i = k
  · subst hi
    simpa only [Function.update_self] using hk
  · simpa only [Function.update_of_ne hi] using hwf i

/-- The vote that a step brings: the request of `i` is granted by `j`. -/
def Votes (C : Cluster) (s : ClusterState) (i j : NodeId) : ClusterEvent → Prop
  | .deliverSelect i' stale t w => i' = i ∧ asked s i = some j ∧
      ((s.node j).reply (C.cfg j) stale t w (Node.selectPkt (C.cfg i))).replyResult = .accept
  | _ => False

/-- **What a step can do to the grants**: none is made but the vote that the step brings. -/
theorem granted_step (hwf : AllWellFormed s) (hst : ClusterStep C s e s') {i : NodeId}
    (hi : i ∈ C.nodes) (hj : j ∈ C.nodes) (hne : i ≠ j)
    (h : Granted (s'.node i) (s'.answer i) j) :
    Granted (s.node i) (s.answer i) j ∨ Votes C s i j e := by
  -- Except for a delivered request, one node changes and the answer to it stays or goes.
  have keep : ∀ {k : NodeId} {m : Node},
      (Granted m (s.answer k) j → Granted (s.node k) (s.answer k) j) →
      Granted (Function.update s.node k m i) (s.answer i) j →
      Granted (s.node i) (s.answer i) j := by
    intro k m hk h
    have := @granted_update j s k i m (s.answer k) hk
    rw [Function.update_eq_self] at this
    exact this h
  cases hst with
  | ready k hk =>
    exact Or.inl (keep (fun h => h.of_passive (passive_setLocalState _ _ _) (hwf k)) h)
  | timer k t w hk ht =>
    refine Or.inl ?_
    by_cases hik : i = k
    · subst hik
      have hmem := (C.mem_connectedNodes i hi j).2 ⟨hj, hne.symm⟩
      refine granted_timer (w := w) ht (hwf i) hmem ?_
      simpa [ClusterState.setNode] using h
    · simpa [ClusterState.setNode, Function.update_of_ne hik] using h
  | deliverSelect k l stale t w hk hasked ht =>
    obtain ⟨hnone, b, hb, hrej, hhead⟩ := asked_eq_some hasked
    -- The asked node handles a packet; the asking node gets an answer.
    have hpassive : ∀ x, Passive (s.node x) (Function.update s.node l
        ((s.node l).step (C.cfg l) (.recvPkt stale t w (Node.selectPkt (C.cfg k)))) x) := by
      intro x
      by_cases hx : x = l
      · subst hx
        rw [Function.update_self]
        exact passive_step_recvPkt _ _ _ _ _ _
      · rw [Function.update_of_ne hx]
        exact .refl _
    by_cases hik : i = k
    · subst hik
      have hwf' : WellFormed (s.node i) (some
          ((s.node l).reply (C.cfg l) stale t w (Node.selectPkt (C.cfg i)))) :=
        ⟨(hwf i).epoch_le, fun _ _ => ⟨b, hb, hrej, by rintro h; simp [h] at hhead⟩⟩
      have h' : Granted (s.node i) (some
          ((s.node l).reply (C.cfg l) stale t w (Node.selectPkt (C.cfg i)))) j := by
        refine Granted.of_passive (hpassive i) hwf' ?_
        simpa [ClusterState.setNode, ClusterState.setAnswer] using h
      rcases h'.of_answer hb hhead with h' | ⟨rfl, hacc⟩
      · exact Or.inl (by rwa [hnone])
      · exact Or.inr ⟨rfl, hasked, hacc⟩
    · refine Or.inl (Granted.of_passive (hpassive i) (hwf i) ?_)
      simpa [ClusterState.setNode, ClusterState.setAnswer, Function.update_of_ne hik] using h
  | deliverAnswer k r hk hr =>
    refine Or.inl (granted_update (fun h => ?_) h)
    rw [hr]
    exact granted_selectAnswer (hr ▸ hwf k) h
  | conclude k t hk => exact Or.inl (keep granted_conclude h)
  | deliverHeart m stale t w hk hm ht =>
    exact Or.inl (keep (fun h => h.of_passive (passive_step_recvPkt _ _ _ _ _ _) (hwf _)) h)
  | deliverHeartReply m hk hm =>
    refine Or.inl ?_
    split at h
    · exact keep (fun h => h.of_passive (passive_step_heartReply _ _ _ _) (hwf _)) h
    · exact h

theorem allWellFormed_step (hwf : AllWellFormed s) (hst : ClusterStep C s e s') :
    AllWellFormed s' := by
  have keep : ∀ {k : NodeId} {m : Node}, WellFormed m (s.answer k) →
      ∀ i, WellFormed (Function.update s.node k m i) (s.answer i) := by
    intro k m hk i
    have := allWellFormed_update (k := k) hwf hk i
    rwa [Function.update_eq_self] at this
  intro i
  cases hst with
  | ready k hk => exact keep ((hwf k).of_passive (passive_setLocalState _ _ _)) i
  | timer k t w hk ht => exact keep (wellFormed_timer ht (hwf k)) i
  | deliverSelect k l stale t w hk hasked ht =>
    obtain ⟨hnone, b, hb, hrej, hhead⟩ := asked_eq_some hasked
    have hl := keep ((hwf l).of_passive
      (passive_step_recvPkt (C.cfg l) (s.node l) stale t w (Node.selectPkt (C.cfg k))))
    have hkeep : (Function.update s.node l ((s.node l).step (C.cfg l)
        (.recvPkt stale t w (Node.selectPkt (C.cfg k)))) k).ballot = some b := by
      by_cases hkl : k = l
      · subst hkl
        rw [Function.update_self, (passive_step_recvPkt _ _ _ _ _ _).ballot_eq, hb]
      · rw [Function.update_of_ne hkl, hb]
    by_cases hik : i = k
    · subst hik
      refine ⟨(hl i).epoch_le, fun _ _ => ⟨b, hkeep, hrej, ?_⟩⟩
      rintro h
      simp [h] at hhead
    · simpa [ClusterState.setNode, ClusterState.setAnswer, Function.update_of_ne hik] using hl i
  | deliverAnswer k r hk hr =>
    exact allWellFormed_update hwf (wellFormed_selectAnswer (hr ▸ hwf k)) i
  | conclude k t hk => exact keep (wellFormed_conclude (hwf k)) i
  | deliverHeart m stale t w hk hm ht =>
    exact keep ((hwf _).of_passive (passive_step_recvPkt _ _ _ _ _ _)) i
  | deliverHeartReply m hk hm =>
    dsimp only
    split
    · exact keep ((hwf _).of_passive (passive_step_heartReply _ _ _ _)) i
    · exact hwf i

/-- A step without a mutual vote keeps the grants exclusive. -/
theorem exclusive_step (hwf : AllWellFormed s) (hex : Exclusive C s)
    (hmutual : ¬MutualVote C s e) (hst : ClusterStep C s e s') : Exclusive C s' := by
  intro i hi j hj hne hij hji
  -- A new vote of `j` for `i` meets neither an old nor a new one of `i` for `j`.
  have key : ∀ {i j : NodeId}, i ∈ C.nodes → j ∈ C.nodes → i ≠ j → Votes C s i j e →
      Granted (s'.node j) (s'.answer j) i → False := by
    intro i j hi hj hne hv hji
    cases e with
    | deliverSelect k stale t w =>
      obtain ⟨rfl, hasked, hacc⟩ := hv
      rcases granted_step hwf hst hj hi hne.symm hji with hji | ⟨rfl, -, -⟩
      · rcases hji with hm | hpledged
        · exact not_isMaster_of_accept rfl hacc hm
        · exact hmutual ⟨j, hasked, hacc, hpledged⟩
      · exact hne rfl
    | _ => exact hv
  rcases granted_step hwf hst hi hj hne hij with hij' | hv
  · rcases granted_step hwf hst hj hi hne.symm hji with hji' | hv
    · exact hex i hi j hj hne hij' hji'
    · exact key hj hi hne.symm hv hij
  · exact key hi hj hne hv hji

theorem exclusive_of_reachable
    (h : (clusterSystem C).ReachableUnder (fun s e => ¬MutualVote C s e) s) :
    AllWellFormed s ∧ Exclusive C s := by
  refine h.invariant (I := fun s => AllWellFormed s ∧ Exclusive C s) (fun s hs => ?_)
    fun s e t h hG hst => ⟨allWellFormed_step h.1 hst, exclusive_step h.1 h.2 hG hst⟩
  have hballot := fun i => (hs.node_eq i).2.2
  refine ⟨fun i => ⟨fun b hb => by simp [hballot] at hb, fun r hr => by simp [hs.answer_eq] at hr⟩,
    fun i _ j _ _ hij => ?_⟩
  obtain ⟨⟨r, hr⟩, -, -⟩ := hs.node_eq i
  rcases hij with hm | ⟨b, hb, -⟩
  · exact absurd hm (by simp [hr])
  · simp [hballot] at hb

/-- **At most one master.** From a cold start, no run without a mutual vote reaches a state with
two masters. -/
theorem atMostOneMaster
    (h : (clusterSystem C).ReachableUnder (fun s e => ¬MutualVote C s e) s) {i j : NodeId}
    (hi : i ∈ C.nodes) (hj : j ∈ C.nodes) (hmi : (s.node i).role.IsMaster)
    (hmj : (s.node j).role.IsMaster) : i = j := by
  by_contra hne
  exact (exclusive_of_reachable h).2 i hi j hj hne (Or.inl hmi) (Or.inl hmj)

/-! ### Two nodes -/

/-- Two nodes, connected to each other. -/
def twoNodes : Cluster where
  nodes := ["1", "2"]
  cfg i :=
    { myselfId := i, allNodes := ["1", "2"], connectedNodes := ["1", "2"].filter (· ≠ i) }
  myselfId_cfg _ _ := rfl
  mem_connectedNodes i _ j := by simp

/-- A cluster at its cold start. -/
def coldStart : ClusterState where
  node _ := { localState := .restore, role := .initializer (mkInitializer 0) }
  answer _ := none
  hearts := []
  heartReplies := []

theorem isColdStart_coldStart : IsColdStart coldStart :=
  ⟨fun _ => ⟨⟨_, rfl⟩, rfl, rfl⟩, fun _ => rfl, rfl, rfl⟩

/-- One election, without a mutual vote. -/
theorem reachable_oneMaster :
    ∃ s, (clusterSystem twoNodes).ReachableUnder (fun s e => ¬MutualVote twoNodes s e) s ∧
      (s.node "1").role.IsMaster := by
  have r₀ : (clusterSystem twoNodes).ReachableUnder (fun s e => ¬MutualVote twoNodes s e)
      coldStart := .start isColdStart_coldStart
  have r₁ := r₀.tail id (ClusterStep.ready _ "1" (by decide))
  have r₂ := r₁.tail id (ClusterStep.timer _ "1" 0 1 (by decide) trivial)
  have r₃ := r₂.tail (by
    rintro ⟨j, hj, -, b, hb, -⟩
    obtain rfl := Option.some_inj.1 hj
    cases hb) (ClusterStep.deliverSelect _ "1" "2" false 0 1 (by decide) rfl trivial)
  have r₄ := r₃.tail id (ClusterStep.deliverAnswer _ "1" _ (by decide) rfl)
  exact ⟨_, r₄.tail id (ClusterStep.conclude _ "1" 0 (by decide)), trivial⟩

/-- At the end of that run there is no second master. -/
theorem atMostOneMaster_twoNodes :
    ∃ s : ClusterState, (s.node "1").role.IsMaster ∧ ((s.node "2").role.IsMaster → "2" = "1") := by
  obtain ⟨s, hs, hm⟩ := reachable_oneMaster
  exact ⟨s, hm, fun hm' => atMostOneMaster (C := twoNodes) hs (by decide) (by decide) hm' hm⟩

/-- Node `1` grants the request of `2` before it is ready, becomes ready, and runs itself; `2`
grants its request, and both become master. -/
theorem not_atMostOneMaster :
    ¬∀ (C : Cluster) (s : ClusterState), (clusterSystem C).Reachable s →
      ∀ i ∈ C.nodes, ∀ j ∈ C.nodes, (s.node i).role.IsMaster → (s.node j).role.IsMaster →
        i = j := by
  intro h
  have r₀ := System.Run.nil (S := clusterSystem twoNodes) coldStart
  have r₁ := r₀.snoc (ClusterStep.ready _ "2" (by decide))
  have r₂ := r₁.snoc (ClusterStep.timer _ "2" 0 1 (by decide) trivial)
  have r₃ := r₂.snoc (ClusterStep.timer _ "2" 5000 1 (by decide) trivial)
  have r₄ := r₃.snoc (ClusterStep.deliverSelect _ "2" "1" false 5000 1 (by decide) rfl trivial)
  have r₅ := r₄.snoc (ClusterStep.ready _ "1" (by decide))
  have r₆ := r₅.snoc (ClusterStep.timer _ "1" 5000 1 (by decide) trivial)
  have r₇ := r₆.snoc (ClusterStep.deliverSelect _ "1" "2" false 5000 1 (by decide) rfl trivial)
  have r₈ := r₇.snoc (ClusterStep.deliverAnswer _ "1" _ (by decide) rfl)
  have r₉ := r₈.snoc (ClusterStep.conclude _ "1" 5000 (by decide))
  have r₁₀ := r₉.snoc (ClusterStep.deliverAnswer _ "2" _ (by decide) rfl)
  have r₁₁ := r₁₀.snoc (ClusterStep.conclude _ "2" 5000 (by decide))
  have heq := h twoNodes _ ⟨_, _, isColdStart_coldStart, r₁₁⟩ "1" (by decide) "2" (by decide)
    (by decide) (by decide)
  exact absurd heq (by decide)

end Election

end UbsEngine
