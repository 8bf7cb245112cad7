import UbsEngine.Election.Master
import UbsEngine.Library.Run

/-!
# The terms of one node

A new master takes a term above the one its role object carries, and the question is what
that object still knows of the heartbeats the *node* has accepted. The answer is a fact about
the constructors and the handlers, one role at a time, and is collected in
`UbsEngine.Election.RoleMove`: an agent starts from term zero whatever heartbeat made it an
agent, follows its own master upwards, and takes over the term of another master; a standby
carries the term of its last heartbeat; an initializer carries nothing.

So what a node can recall is what it has heard in its present role, `UbsEngine.Election.heard`,
a function of the heartbeats it accepted and of the roles it was in.
`UbsEngine.Election.termsGrow_iff` is the exact condition on a run for its new terms to exceed
every term accepted before: whenever the node becomes master, what it recalls must reach all
of them.
-/

namespace UbsEngine

namespace Election

variable (cfg : NodeConfig)

/-! ### What a step does to the role -/

/-- The term of the master heartbeat that a node accepts in an event, if it does. -/
def acceptedTerm (n : Node) : NodeEvent → Option ℕ
  | .recvPkt stale t w pkt =>
    if pkt.type = .heart ∧ (n.reply cfg stale t w pkt).replyResult = .accept then some pkt.turnId
    else none
  | _ => none

/-- **What a step does to a role and its term**, given the term of the heartbeat that is
accepted in the step. -/
inductive RoleMove : ElectionRole → Option ℕ → ElectionRole → Prop
  /-- An initializer waits. -/
  | initializer (s s') : RoleMove (.initializer s) none (.initializer s')
  /-- An agent accepts nothing. -/
  | agent {s s' : AgentState} : s'.masterId = s.masterId → s'.turnId = s.turnId →
      RoleMove (.agent s) none (.agent s')
  /-- An agent hears its master. -/
  | agentHeard {s s' : AgentState} (t : ℕ) : s'.masterId = s.masterId →
      s'.turnId = max s.turnId t → RoleMove (.agent s) (some t) (.agent s')
  /-- An agent takes another master. -/
  | agentChange {s s' : AgentState} (t : ℕ) : s'.masterId ≠ s.masterId →
      s'.turnId = t → RoleMove (.agent s) (some t) (.agent s')
  /-- A standby accepts nothing. -/
  | standby (s) : RoleMove (.standby s) none (.standby s)
  /-- A standby hears its master. -/
  | standbyHeard {s s' : StandbyState} (t : ℕ) : s'.turnId = t →
      RoleMove (.standby s) (some t) (.standby s')
  /-- A master goes on. -/
  | master {s s' : MasterState} (a) : s'.turnId = s.turnId → RoleMove (.master s) a (.master s')
  /-- A new agent starts from term zero. -/
  | newAgent {r : ElectionRole} {s : AgentState} (a) : (∀ s', r ≠ .agent s') → s.turnId = 0 →
      RoleMove r a (.agent s)
  /-- A new standby starts from the term of the heartbeat that appoints it. -/
  | newStandby {r : ElectionRole} {s : StandbyState} (t : ℕ) : (∀ s', r ≠ .standby s') →
      s.turnId = t → RoleMove r (some t) (.standby s)
  /-- A node starts all over. -/
  | newInitializer (r s) : RoleMove r none (.initializer s)
  /-- An initializer becomes the master of the first term. -/
  | masterOfInitializer {s} {s' : MasterState} : s'.turnId = 1 →
      RoleMove (.initializer s) none (.master s')
  /-- An agent becomes the master of the next term. -/
  | masterOfAgent {s : AgentState} {s' : MasterState} : s'.turnId = (s.turnId + 1) % 2 ^ 64 →
      RoleMove (.agent s) none (.master s')
  /-- A standby becomes the master of the term after the next. -/
  | masterOfStandby {s : StandbyState} {s' : MasterState} :
      s'.turnId = (s.turnId + 1 + 1) % 2 ^ 64 → RoleMove (.standby s) none (.master s')

theorem RoleMove.refl : ∀ r : ElectionRole, RoleMove r none r
  | .initializer s => .initializer s s
  | .agent _ => .agent rfl rfl
  | .standby s => .standby s
  | .master _ => .master none rfl

theorem turnId_switchMaster (s : StandbyState) :
    (mkMaster cfg { masterId := s.standbyId, turnId := (s.turnId + 1) % 2 ^ 64 }).turnId =
      (s.turnId + 1 + 1) % 2 ^ 64 := by
  simp [mkMaster, Nat.add_mod]

variable {cfg}

theorem roleMove_timer (n : Node) (t w : ℕ) :
    RoleMove n.role none (n.procTimer cfg t w).1.role := by
  unfold Node.procTimer
  split
  next => exact .refl _
  next s _ hrole =>
    rw [hrole]
    unfold Node.initializerTimer
    split
    · rw [hrole]; exact .refl _
    · exact .initializer _ _
  next s _ hrole =>
    unfold Node.agentTimer
    split <;> exact .refl _
  next s _ hrole =>
    unfold Node.standbyTimer
    split
    · split
      · rw [hrole]
        exact .masterOfStandby (turnId_switchMaster cfg s)
      · exact .newInitializer _ _
    · exact .refl _
  next s _ hrole =>
    rw [hrole]
    exact .master none (s.procTimer_spec cfg t w).1.2

theorem roleMove_selectAnswer (n : Node) (reply : Option ElectionReplyPkt) :
    RoleMove n.role none (n.selectAnswer reply).role := by
  unfold Node.selectAnswer
  split
  · exact .refl _
  · split
    · exact .refl _
    · split
      · exact .refl _
      · exact .refl _
      · split <;> exact .refl _

theorem roleMove_conclude (n : Node) (t : ℕ) : RoleMove n.role none (n.conclude cfg t).role := by
  unfold Node.conclude
  split
  · exact .refl _
  split
  · dsimp only
    split
    · exact .refl _
    · split
      next s hrole =>
        split
        · exact .refl _
        · rw [hrole]; exact .masterOfInitializer rfl
      next s hrole =>
        split
        · exact .newInitializer _ _
        · rw [hrole]; exact .masterOfAgent rfl
      next => exact .refl _
      next => exact .refl _
  · exact .refl _

/-- Handling a packet, with the answer it gets. -/
def RecvMove (pkt : ElectionPkt) (r : ElectionRole) (out : Node × ElectionReplyPkt) : Prop :=
  RoleMove r (if pkt.type = .heart ∧ out.2.replyResult = .accept then some pkt.turnId else none)
    out.1.role

theorem recvMove_of_reject {pkt : ElectionPkt} {n : Node} {reply : ElectionReplyPkt}
    (h : reply.replyResult ≠ .accept) : RecvMove pkt n.role (n, reply) := by
  simpa [RecvMove, h] using RoleMove.refl n.role

theorem recvMove_of_not_heart {pkt : ElectionPkt} {n : Node} {reply : ElectionReplyPkt}
    (h : pkt.type ≠ .heart) : RecvMove pkt n.role (n, reply) := by
  simpa [RecvMove, h] using RoleMove.refl n.role

/-- A role that is given up for the agent of the sender. -/
theorem recvMove_newAgent {pkt : ElectionPkt} {n n' : Node} {reply : ElectionReplyPkt} {t : ℕ}
    {ctx : RoleContext} (hr : ∀ s', n.role ≠ .agent s') :
    RecvMove pkt n.role (n'.switchRole cfg t .agent ctx, reply) :=
  .newAgent _ hr rfl

/-- A role that is given up for the standby of the sender. -/
theorem recvMove_newStandby {pkt : ElectionPkt} {n n' : Node} {reply : ElectionReplyPkt} {t : ℕ}
    {ctx : RoleContext} (hr : ∀ s', n.role ≠ .standby s') (htype : pkt.type = .heart)
    (hturn : ctx.turnId = pkt.turnId) (hreply : reply.replyResult = .accept) :
    RecvMove pkt n.role (n'.switchRole cfg t .standby ctx, reply) := by
  rw [RecvMove, if_pos ⟨htype, hreply⟩]
  exact .newStandby _ hr hturn

theorem recvMove_initializer {n : Node} {s : InitializerState} (hrole : n.role = .initializer s)
    (t : ℕ) (pkt : ElectionPkt) :
    RecvMove pkt n.role (n.initializerRecvPkt cfg t pkt {}) := by
  unfold Node.initializerRecvPkt
  split
  · split
    next h => exact recvMove_of_not_heart (by simp [h])
    next h => exact recvMove_of_reject (by simp)
    next h => exact recvMove_of_not_heart (by simp [h])
  · split
    next h => exact recvMove_of_not_heart (by simp [h])
    next h =>
      split
      · exact recvMove_newStandby (by simp [hrole]) h rfl rfl
      · exact recvMove_newAgent (by simp [hrole])
    next h => exact recvMove_of_not_heart (by simp [h])

theorem recvMove_agent {n : Node} {s : AgentState} (hrole : n.role = .agent s)
    (t : ℕ) {pkt : ElectionPkt} (htype : pkt.type = .heart) :
    RecvMove pkt n.role (n.agentRecvHeart cfg t s pkt {}) := by
  unfold Node.agentRecvHeart
  split
  next hmaster =>
    dsimp only
    split
    · exact recvMove_newStandby (by simp [hrole]) htype rfl rfl
    · rw [RecvMove, if_pos ⟨htype, rfl⟩, hrole]
      refine .agentHeard _ hmaster ?_
      simp only [Node.heardMaster]
      split <;> omega
  next hmaster =>
    unfold Node.handleMasterChange
    split
    · rw [RecvMove, if_pos ⟨htype, rfl⟩, hrole]
      exact .agentChange _ hmaster rfl
    · rw [RecvMove, if_neg (by simp), hrole]
      exact .agent rfl rfl

theorem recvMove_standby {n : Node} {s : StandbyState} (hrole : n.role = .standby s)
    (t w : ℕ) {pkt : ElectionPkt} (htype : pkt.type = .heart) :
    RecvMove pkt n.role (n.standbyRecvHeart cfg t w s pkt {}) := by
  unfold Node.standbyRecvHeart
  split
  · split
    · rw [RecvMove, if_pos ⟨htype, rfl⟩, hrole]
      exact .standbyHeard _ rfl
    · exact recvMove_newAgent (by simp [hrole])
  · split
    · exact recvMove_newAgent (by simp [hrole])
    · exact recvMove_of_reject (by simp)

theorem recvMove_acceptNewMaster {n : Node} {s : MasterState} (hrole : n.role = .master s)
    (t : ℕ) {pkt : ElectionPkt} (htype : pkt.type = .heart) :
    RecvMove pkt n.role (n.acceptNewMaster cfg t s.masterId pkt {}) := by
  unfold Node.acceptNewMaster
  split
  · exact recvMove_newStandby (by simp [hrole]) htype rfl rfl
  · exact recvMove_newAgent (by simp [hrole])

theorem recvMove_handleSplitBrainMerge {n : Node} {s : MasterState} (hrole : n.role = .master s)
    (t : ℕ) {pkt : ElectionPkt} :
    RecvMove pkt n.role (n.handleSplitBrainMerge cfg t s pkt {}) := by
  unfold Node.handleSplitBrainMerge
  generalize (if s.masterId < pkt.masterId then s.masterId else pkt.masterId) = newMasterId
  dsimp only
  split
  · exact recvMove_of_reject (by simp)
  · exact recvMove_newAgent (by simp [hrole])

theorem recvMove_master {n : Node} {s : MasterState} (hrole : n.role = .master s)
    (t : ℕ) {pkt : ElectionPkt} (htype : pkt.type = .heart) :
    RecvMove pkt n.role (n.masterRecvHeart cfg t s pkt {}) := by
  unfold Node.masterRecvHeart
  split
  · rw [RecvMove, hrole]
    exact .master _ rfl
  split
  · exact recvMove_of_reject (by simp)
  split
  · exact recvMove_of_reject (by simp)
  split
  · exact recvMove_acceptNewMaster hrole t htype
  split
  · exact recvMove_acceptNewMaster hrole t htype
  split
  · exact recvMove_handleSplitBrainMerge hrole t
  · exact recvMove_of_reject (by simp)

theorem recvMove_recvPkt (n : Node) (t w : ℕ) (pkt : ElectionPkt) :
    RecvMove pkt n.role (n.recvPkt cfg t w pkt {}) := by
  unfold Node.recvPkt
  split
  · refine recvMove_of_reject ?_
    unfold Node.refusal
    split <;> simp
  split
  next s hrole => exact recvMove_initializer hrole t pkt
  next s _ htype => exact recvMove_of_not_heart (by simp [htype])
  next s hrole htype => exact recvMove_agent hrole t htype
  next s _ htype => exact recvMove_of_not_heart (by simp [htype])
  next s hrole htype => exact recvMove_standby hrole t w htype
  next s _ htype => exact recvMove_of_not_heart (by simp [htype])
  next s hrole htype => exact recvMove_master hrole t htype
  next htype _ => exact recvMove_of_not_heart (by simp [htype])

/-- **Every step of a node is a move of its role.** -/
theorem roleMove_step (n : Node) (e : NodeEvent) :
    RoleMove n.role (acceptedTerm cfg n e) (n.step cfg e).role := by
  cases e with
  | timer t w => exact roleMove_timer n t w
  | selectAnswer reply => exact roleMove_selectAnswer n reply
  | conclude t => exact roleMove_conclude n t
  | recvPkt stale t w pkt =>
    cases stale with
    | true => simpa [acceptedTerm, Node.reply, Node.step] using RoleMove.refl n.role
    | false => exact recvMove_recvPkt n t w pkt
  | heartReply nodeId reply =>
    simp only [Node.step, acceptedTerm]
    split
    next s hrole => rw [hrole]; exact .master none (by simp)
    next => exact .refl _
  | setNodeDown nodeId =>
    simp only [Node.step, acceptedTerm]
    split
    next s hrole => rw [hrole]; exact .master none (by simp)
    next => exact .refl _
  | setLocalState localState => exact .refl _
  | switchMasterFromStandby t =>
    simp only [Node.step, Node.switchMasterFromStandby, acceptedTerm]
    split
    next s hrole =>
      split
      · rw [hrole]; exact .masterOfStandby (turnId_switchMaster cfg s)
      · exact .refl _
    next => exact .refl _
  | switchAgentFromMaster t =>
    simp only [Node.step, Node.switchAgentFromMaster, acceptedTerm]
    split
    next s hrole => exact .newAgent _ (by simp [hrole]) rfl
    next => exact .refl _

/-! ### Runs -/

/-- The fields of the packets that a node receives are 64-bit numbers. -/
def NodeEvent.WellFormed : NodeEvent → Prop
  | .recvPkt _ _ _ pkt => pkt.turnId < 2 ^ 64
  | _ => True

variable (cfg) in
/-- One node on its own: it starts as an initializer and meets any sequence of events. -/
def nodeSystem : System Node NodeEvent where
  init n := (∃ s, n.role = .initializer s) ∧ n.ballot = none
  step n e n' := e.WellFormed ∧ n.step cfg e = n'

variable (cfg) in
/-- The terms of the heartbeats that the node accepts along a run. -/
def acceptedTerms (tr : List (Transition Node NodeEvent)) : List ℕ :=
  tr.filterMap fun x => acceptedTerm cfg x.pre x.event

variable (cfg) in
/-- What a node still has of the heartbeats after a step: an agent keeps those of its master,
and a standby the last one; a node that takes another role keeps nothing but the heartbeat that
made it the standby. -/
def hear (h : List ℕ) (x : Transition Node NodeEvent) : List ℕ :=
  match x.pre.role, acceptedTerm cfg x.pre x.event, x.post.role with
  | .agent s, some t, .agent s' => if s'.masterId = s.masterId then t :: h else [t]
  | .agent _, none, .agent _ => h
  | .standby _, none, .standby _ => h
  | _, some t, .standby _ => [t]
  | _, _, _ => []

variable (cfg) in
/-- **What a node has heard in its present role**, along a run. -/
def heard (tr : List (Transition Node NodeEvent)) : List ℕ := tr.foldl (hear cfg) []

/-- The term below the one that a node takes when it becomes master, by what it has heard. -/
def recalled (role : ElectionRole) (h : List ℕ) : ℕ :=
  match role with
  | .agent _ => h.foldr max 0
  | .standby _ => h.headD 0 + 1
  | _ => 0

/-- The node becomes master in this step. -/
def BecomesMaster (x : Transition Node NodeEvent) : Prop :=
  ¬x.pre.role.IsMaster ∧ x.post.role.IsMaster

variable (cfg) in
/-- **Terms grow**: whenever the node becomes master, its term exceeds the term of every master
heartbeat it accepted earlier in the run. -/
def TermsGrow (tr : List (Transition Node NodeEvent)) : Prop :=
  ∀ earlier x later, tr = earlier ++ x :: later → BecomesMaster x →
    ∀ t ∈ acceptedTerms cfg earlier, t < x.post.role.getTurnId

variable (cfg) in
/-- Whenever the node becomes master, what it recalls reaches every term accepted earlier, and
leaves room for the next term. -/
def RecallsTerms (tr : List (Transition Node NodeEvent)) : Prop :=
  ∀ earlier x later, tr = earlier ++ x :: later → BecomesMaster x →
    ∀ t ∈ acceptedTerms cfg earlier,
      t ≤ recalled x.pre.role (heard cfg earlier) ∧
        recalled x.pre.role (heard cfg earlier) + 1 < 2 ^ 64

@[simp] theorem acceptedTerms_snoc (tr : List (Transition Node NodeEvent))
    (x : Transition Node NodeEvent) :
    acceptedTerms cfg (tr ++ [x]) =
      acceptedTerms cfg tr ++ (acceptedTerm cfg x.pre x.event).toList := by
  simp only [acceptedTerms, List.filterMap_append, List.filterMap_cons, List.filterMap_nil]
  cases acceptedTerm cfg x.pre x.event <;> rfl

@[simp] theorem heard_snoc (tr : List (Transition Node NodeEvent))
    (x : Transition Node NodeEvent) : heard cfg (tr ++ [x]) = hear cfg (heard cfg tr) x := by
  simp [heard]

/-- The role carries what the node has heard in it. -/
def Carries (role : ElectionRole) (h : List ℕ) : Prop :=
  match role with
  | .agent s => s.turnId = h.foldr max 0
  | .standby s => h = [s.turnId]
  | _ => True

theorem carries_hear {n : Node} {e : NodeEvent} {h : List ℕ} (hc : Carries n.role h) :
    Carries (n.step cfg e).role (hear cfg h ⟨n, e, n.step cfg e⟩) := by
  have hmove := @roleMove_step cfg n e
  unfold hear
  dsimp only
  generalize n.role = r at hc hmove ⊢
  generalize acceptedTerm cfg n e = a at hmove ⊢
  generalize (n.step cfg e).role = r' at hmove ⊢
  cases hmove with
  | initializer s s' => trivial
  | agent hid hturn => exact hturn.trans hc
  | agentHeard t hid hturn =>
    dsimp only
    rw [if_pos hid]
    change _ = max t (h.foldr max 0)
    rw [hturn, max_comm, show _ = _ from hc]
  | agentChange t hid hturn => simpa [if_neg hid, Carries] using hturn
  | standby s => exact hc
  | standbyHeard t hturn => simp [Carries, hturn]
  | master a hturn => trivial
  | newAgent a hr hturn =>
    cases r with
    | agent s => exact absurd rfl (hr s)
    | _ => cases a <;> simpa [Carries] using hturn
  | newStandby t hr hturn => cases r <;> simp [Carries, hturn]
  | newInitializer r s => trivial
  | masterOfInitializer hturn => trivial
  | masterOfAgent hturn => trivial
  | masterOfStandby hturn => trivial

/-- A step into the role of master takes the term after the recalled one. -/
theorem getTurnId_of_becomesMaster {n : Node} {e : NodeEvent} {h : List ℕ}
    (hc : Carries n.role h) (hb : BecomesMaster ⟨n, e, n.step cfg e⟩) :
    (n.step cfg e).role.getTurnId = (recalled n.role h + 1) % 2 ^ 64 := by
  have hmove := @roleMove_step cfg n e
  unfold BecomesMaster at hb
  dsimp only at hb
  generalize n.role = r at hc hmove hb ⊢
  generalize acceptedTerm cfg n e = a at hmove
  generalize (n.step cfg e).role = r' at hmove hb ⊢
  obtain ⟨hpre, hpost⟩ := hb
  cases hmove with
  | master a hturn => exact absurd trivial hpre
  | masterOfInitializer hturn => exact hturn
  | masterOfAgent hturn => exact hturn.trans (by rw [show _ = _ from hc]; rfl)
  | masterOfStandby hturn => exact hturn.trans (by rw [show h = _ from hc]; rfl)
  | _ => exact absurd hpost id

/-- Everything an agent or a standby has heard was accepted by the node. -/
theorem hear_subset {n : Node} {e : NodeEvent} {h acc : List ℕ} (hsub : h ⊆ acc) :
    hear cfg h ⟨n, e, n.step cfg e⟩ ⊆ acc ++ (acceptedTerm cfg n e).toList := by
  have hacc : acc ⊆ acc ++ (acceptedTerm cfg n e).toList := List.subset_append_left _ _
  unfold hear
  dsimp only
  split
  next t _ ht _ =>
    rw [ht]
    split
    · exact List.cons_subset.2 ⟨by simp, List.Subset.trans hsub (by simp)⟩
    · simp
  next => exact List.Subset.trans hsub hacc
  next => exact List.Subset.trans hsub hacc
  next t _ ht _ => rw [ht]; simp
  next => simp

/-- What a run keeps: the role carries what has been heard in it, all of which was accepted, and
every accepted term is a 64-bit number. -/
structure TermInv (cfg : NodeConfig) (n : Node) (tr : List (Transition Node NodeEvent)) : Prop where
  carries : Carries n.role (heard cfg tr)
  heard_subset : heard cfg tr ⊆ acceptedTerms cfg tr
  accepted_lt : ∀ t ∈ acceptedTerms cfg tr, t < 2 ^ 64

theorem termInv_of_run {n n' : Node} {tr : List (Transition Node NodeEvent)}
    (hinit : (nodeSystem cfg).init n) (hrun : (nodeSystem cfg).Run n tr n') :
    TermInv cfg n' tr := by
  induction hrun with
  | nil =>
    obtain ⟨⟨s, hs⟩, -⟩ := hinit
    exact ⟨by rw [hs]; trivial, by simp [heard], by simp [acceptedTerms]⟩
  | @snoc n₁ n₂ tr e hrun hlast ih =>
    obtain ⟨hwf, rfl⟩ := hlast
    refine ⟨by rw [heard_snoc]; exact carries_hear ih.carries,
      by rw [heard_snoc, acceptedTerms_snoc]; exact hear_subset ih.heard_subset, fun t ht => ?_⟩
    rw [acceptedTerms_snoc, List.mem_append] at ht
    rcases ht with ht | ht
    · exact ih.accepted_lt t ht
    · cases e with
      | recvPkt stale t w pkt =>
        simp only [acceptedTerm] at ht
        split at ht
        · rw [List.mem_singleton.1 ht]; exact hwf
        · simp at ht
      | _ => simp [acceptedTerm] at ht

/-- A run stops after any of its steps. -/
theorem run_prefix {n n' : Node} {earlier later : List (Transition Node NodeEvent)}
    {x : Transition Node NodeEvent} (hrun : (nodeSystem cfg).Run n (earlier ++ x :: later) n') :
    (nodeSystem cfg).Run n earlier x.pre ∧ (nodeSystem cfg).step x.pre x.event x.post := by
  induction later using List.reverseRecOn generalizing n' with
  | nil =>
    generalize htr : earlier ++ [x] = tr at hrun
    cases hrun with
    | nil => simp at htr
    | snoc hrun hlast =>
      obtain ⟨rfl, hx⟩ := List.append_inj' htr rfl
      obtain rfl := List.singleton_inj.1 hx
      exact ⟨hrun, hlast⟩
  | append_singleton later y ih =>
    generalize htr : earlier ++ x :: (later ++ [y]) = tr at hrun
    cases hrun with
    | nil => simp at htr
    | snoc hrun hlast =>
      rw [← List.cons_append, ← List.append_assoc] at htr
      obtain ⟨rfl, -⟩ := List.append_inj' htr rfl
      exact ih hrun

/-- What is recalled is a term, or one more than a term that was heard. -/
theorem recalled_lt {role : ElectionRole} {h : List ℕ} (hc : Carries role h)
    (hlt : ∀ t ∈ h, t < 2 ^ 64) :
    recalled role h < 2 ^ 64 ∨ ∃ t ∈ h, recalled role h = t + 1 := by
  cases role with
  | agent s =>
    refine Or.inl ?_
    unfold recalled
    dsimp only
    clear hc
    induction h with
    | nil => simp
    | cons a h ih =>
      rw [List.foldr_cons]
      exact max_lt (hlt a (by simp)) (ih fun t ht => hlt t (by simp [ht]))
  | standby s =>
    obtain rfl : h = [s.turnId] := hc
    exact Or.inr ⟨s.turnId, by simp, rfl⟩
  | _ => exact Or.inl (by simp [recalled])

/-- **When terms grow.** Along a run of a node, every term it takes as a master exceeds every
term it accepted before if and only if, whenever it becomes master, what it has heard in the role
it leaves reaches every term it accepted before. -/
theorem termsGrow_iff {n n' : Node} {tr : List (Transition Node NodeEvent)}
    (hinit : (nodeSystem cfg).init n) (hrun : (nodeSystem cfg).Run n tr n') :
    TermsGrow cfg tr ↔ RecallsTerms cfg tr := by
  refine forall_congr' fun earlier => forall_congr' fun x => forall_congr' fun later =>
    forall_congr' fun htr => forall_congr' fun hb => ?_
  rw [htr] at hrun
  obtain ⟨hearlier, hwf, hpost⟩ := run_prefix hrun
  have hinv := termInv_of_run hinit hearlier
  obtain ⟨m, e, m'⟩ := x
  obtain rfl : m.step cfg e = m' := hpost
  have hturn := getTurnId_of_becomesMaster hinv.carries hb
  have hrecalled := recalled_lt hinv.carries fun t ht => hinv.accepted_lt t (hinv.heard_subset ht)
  dsimp only
  rw [hturn]
  generalize recalled m.role (heard cfg earlier) = r at hrecalled ⊢
  refine ⟨fun hgrow t ht => ?_, fun hrec t ht => ?_⟩
  · -- A recalled term above 64 bits would have been heard, and the new term would not exceed it.
    rcases hrecalled with hr | ⟨u, hu, rfl⟩
    · have := hgrow t ht
      omega
    · have hut := hgrow u (hinv.heard_subset hu)
      have hu := hinv.accepted_lt u (hinv.heard_subset hu)
      have := hgrow t ht
      omega
  · obtain ⟨hle, hlt⟩ := hrec t ht
    rw [Nat.mod_eq_of_lt hlt]
    omega

/-! ### A term that is forgotten -/

variable (cfg) in
/-- Processing well-formed events is a run of the node. -/
theorem run_node (n : Node) (es : List NodeEvent) (hwf : ∀ e ∈ es, e.WellFormed) :
    (nodeSystem cfg).Run n (System.trace (Node.step cfg) n es) (es.foldl (Node.step cfg) n) := by
  induction es using List.reverseRecOn with
  | nil => exact .nil n
  | append_singleton es e ih =>
    rw [System.trace_snoc, List.foldl_append]
    exact (ih fun e he => hwf e (by simp [he])).snoc ⟨hwf e (by simp), rfl⟩

/-- The smaller node of a cluster of two. -/
def smallerOfTwo : NodeConfig where
  myselfId := "1"
  allNodes := ["1", "2"]
  connectedNodes := ["2"]

/-- A node as it starts. -/
def freshNode : Node where
  localState := .restore
  role := .initializer (mkInitializer 0)

/-- The node follows a master of the fifth term, loses it, and runs for master itself. -/
def forgetfulEvents : List NodeEvent :=
  [.setLocalState .ready, .recvPkt false 1000 1 { type := .heart, masterId := "2", turnId := 5 },
    .timer 20000 1, .selectAnswer none]

/-- The run in which the node becomes master of the first term after that. -/
def forgetfulRun : List (Transition Node NodeEvent) :=
  System.trace (Node.step smallerOfTwo) freshNode (forgetfulEvents ++ [.conclude 21000])

theorem run_forgetful :
    (nodeSystem smallerOfTwo).Run freshNode forgetfulRun
      ((forgetfulEvents ++ [NodeEvent.conclude 21000]).foldl (Node.step smallerOfTwo)
        freshNode) :=
  run_node _ _ _ (by simp [forgetfulEvents, NodeEvent.WellFormed])

theorem init_freshNode (cfg : NodeConfig) : (nodeSystem cfg).init freshNode :=
  ⟨⟨_, rfl⟩, rfl⟩

/-- The exact condition at that run. -/
theorem termsGrow_forgetful :
    TermsGrow smallerOfTwo forgetfulRun ↔ RecallsTerms smallerOfTwo forgetfulRun :=
  termsGrow_iff (init_freshNode _) run_forgetful

/-- A node that accepted a heartbeat of the fifth term becomes master of the first. -/
theorem not_termsGrow :
    ¬∀ (cfg : NodeConfig) (n n' : Node) (tr : List (Transition Node NodeEvent)),
      (nodeSystem cfg).init n → (nodeSystem cfg).Run n tr n' → TermsGrow cfg tr := by
  intro h
  have hgrow := h _ _ _ _ (init_freshNode smallerOfTwo) run_forgetful
  have hlt := hgrow (System.trace (Node.step smallerOfTwo) freshNode forgetfulEvents) _ []
    (System.trace_snoc _ _ _ _) ⟨by decide, by decide⟩ 5 (by decide)
  exact absurd hlt (by decide)

end Election

end UbsEngine
