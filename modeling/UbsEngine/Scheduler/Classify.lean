import UbsEngine.Scheduler.Monotone
import UbsEngine.Scheduler.Overdraw

/-!
# Why a request finds no lender

When the filters leave no socket for a request, the requester is told one of three things:
to try again while a node is being reconciled, that no node can lend, or that the size is too
large. The last two are told apart by a second run of the filters for one block, and by
whether that run leaves a *node*.

`SpecifiedLinkFilter` is the only filter that leaves a node without sockets. A request that
names a link so ends in one of two wrong ways
(`UbsEngine.Scheduler.classifies_iff`): its own run leaves the lender with no socket, and the
scores, with nothing to rank, answer that no node can lend, whatever a smaller size would
get; or the run for one block does, and the answer is that the size is too large.
-/

namespace UbsEngine

namespace Scheduler

open SchedulerRequest

/-! ### The filters of a borrow -/

/-- **The filters of an FD or NUMA request**: those every borrow begins with, and then the ones
for what the request insists on. -/
inductive BorrowChain (request : SchedulerRequest) : Prop
  /-- No link is named. -/
  | free (names : List FilterName) (hlink : request.linkInfo = none)
      (hfilters : request.filterNames = borrowFilters ++ names)
      (hnames : ∀ name ∈ names,
        name = .requestedProviders ∨ name = .specifiedLender ∨ name = .socketAffinity)
  /-- A link is named. -/
  | link (linkInfo : UbseMemLenderLinkInfo) (providers affinity : List FilterName)
      (hlink : request.linkInfo = some linkInfo)
      (hfilters : request.filterNames =
        borrowFilters ++ .specifiedLink :: (providers ++ affinity))
      (hproviders : providers = if request.provideNodes = [] then [] else [.requestedProviders])
      (haffinity : affinity = [] ∨ affinity = [.socketAffinity] ∧
        ∃ socketId, request.affinitySocketId = some socketId ∧ socketId ≠ -1)

theorem borrowChain_buildRequest {req : MemReq} (hreq : req.type = .fd ∨ req.type = .numa)
    (mgr : SchedulerNodeManager) (size : Nat) : BorrowChain ((buildRequest req mgr).ofSize size) := by
  cases req with
  | addr req => rcases hreq with h | h <;> cases h
  | shm req => rcases hreq with h | h <;> cases h
  | fd req =>
    refine .free ((if req.candidateNodeList = [] then [] else [.requestedProviders]) ++
      (if req.lenderLocs = [] then [] else [.specifiedLender])) rfl ?_ fun name hname => ?_
    · exact List.append_assoc _ _ _
    · rcases List.mem_append.1 hname with h | h
      · split at h
        · cases h
        · exact Or.inl (List.mem_singleton.1 h)
      · split at h
        · cases h
        · exact Or.inr (Or.inl (List.mem_singleton.1 h))
  | numa req =>
    by_cases hlink : req.linkInfo.lenderSocketId ≠ -1
    · refine .link req.linkInfo (if req.candidateNodeList = [] then [] else [.requestedProviders])
        (if req.srcSocket ≠ -1 ∧ !req.samePlanePrefer then [.socketAffinity] else [])
        (if_pos hlink) ?_ rfl ?_
      · simp only [SchedulerRequest.ofSize, buildRequest, setupFromNodeConf, buildFromNumaBorrow,
          if_pos hlink, List.append_assoc, List.cons_append, List.nil_append]
      · split
        next h =>
          refine Or.inr ⟨rfl, req.srcSocket, ?_, h.1⟩
          simp only [SchedulerRequest.ofSize, buildRequest, setupFromNodeConf, buildFromNumaBorrow,
            if_pos h.1]
        next => exact Or.inl rfl
    · refine .free ((if req.lenderLocs = [] then [] else [.specifiedLender]) ++
        ((if req.candidateNodeList = [] then [] else [.requestedProviders]) ++
          (if req.srcSocket ≠ -1 ∧ !req.samePlanePrefer then [.socketAffinity] else [])))
        (if_neg hlink) ?_ fun name hname => ?_
      · simp only [SchedulerRequest.ofSize, buildRequest, setupFromNodeConf, buildFromNumaBorrow,
          if_neg hlink, List.append_assoc]
      · rcases List.mem_append.1 hname with h | h
        · split at h
          · cases h
          · exact Or.inr (Or.inl (List.mem_singleton.1 h))
        rcases List.mem_append.1 h with h | h
        · split at h
          · cases h
          · exact Or.inl (List.mem_singleton.1 h)
        · split at h
          · exact Or.inr (Or.inr (List.mem_singleton.1 h))
          · cases h

theorem BorrowChain.filterNames {request : SchedulerRequest} (h : BorrowChain request) :
    ∃ names, request.filterNames = .configConsistency :: names ∧ .configConsistency ∉ names ∧
      .lendCount ∈ names := by
  rcases h with ⟨names, -, hfilters, hnames⟩ |
    ⟨linkInfo, providers, affinity, -, hfilters, hproviders, haffinity⟩
  · refine ⟨borrowFilters.tail ++ names, hfilters, ?_, List.mem_append_left _ (by decide)⟩
    rw [List.mem_append, not_or]
    refine ⟨by decide, fun hmem => ?_⟩
    rcases hnames _ hmem with h | h | h <;> cases h
  · refine ⟨borrowFilters.tail ++ .specifiedLink :: (providers ++ affinity), hfilters, ?_,
      List.mem_append_left _ (by decide)⟩
    simp only [List.mem_append, List.mem_cons, not_or]
    refine ⟨by decide, by decide, ?_, ?_⟩
    · rw [hproviders]
      split <;> decide
    · rcases haffinity with rfl | ⟨rfl, -⟩ <;> decide

/-! ### Nodes without sockets -/

/-- Every node that is left has a socket left. -/
def Full (nodes : List NodeInfo) : Prop := ∀ node ∈ nodes, node.socketInfos ≠ []

theorem full_removeEmptyNodes (nodes : List NodeInfo) : Full (removeEmptyNodes nodes) :=
  fun _ hnode => of_decide_eq_true (List.mem_filter.1 hnode).2

theorem Full.keepNodes {nodes : List NodeInfo} (h : Full nodes) (p : NodeInfo → Bool) :
    Full (keepNodes p nodes) :=
  fun node hnode => h node (List.mem_filter.1 hnode).1

theorem Full.eq_nil {nodes : List NodeInfo} (h : Full nodes) (hc : candidates nodes = []) :
    nodes = [] := by
  rcases nodes with _ | ⟨node, nodes⟩
  · rfl
  · rw [candidates, List.flatMap_cons, List.append_eq_nil_iff, List.map_eq_nil_iff] at hc
    exact absurd hc.1 (h node List.mem_cons_self)

section Full

variable {mgr : SchedulerNodeManager} {accounts : SchedulerAccountManager}
variable {request : SchedulerRequest} {nodes after kept : List NodeInfo}

/-- The filter on links apart, a filter leaves no node without sockets. -/
theorem Full.applyFilter {name : FilterName} (h : Full nodes) (hname : name ≠ .specifiedLink)
    (hok : applyFilter mgr accounts request nodes name = (after, .ok ())) : Full after := by
  cases name with
  | specifiedLink => exact absurd rfl hname
  | configConsistency =>
    obtain ⟨rfl, -⟩ := configConsistency_ok hok
    exact h
  | roleConflict =>
    rw [Scheduler.applyFilter, roleConflictFilter] at hok
    split at hok
    · cases hok
    · split at hok
      · cases hok
      · cases hok
        exact h.keepNodes _
  | lenderRole =>
    cases hok
    exact h.keepNodes _
  | group =>
    cases hok
    exact h.keepNodes _
  | provider =>
    rw [Scheduler.applyFilter, providerFilter] at hok
    split at hok
    · cases hok
      exact h
    · cases hok
      exact h.keepNodes _
  | nodeState =>
    cases hok
    exact h.keepNodes _
  | region =>
    rw [Scheduler.applyFilter, regionFilter] at hok
    split at hok
    · cases hok
      exact h
    · split at hok
      · cases hok
        exact h.keepNodes _
      · cases hok
  | radiusBorrow =>
    rw [Scheduler.applyFilter, radiusBorrowFilter] at hok
    split at hok
    · cases hok
      exact h
    · cases hok
      exact h.keepNodes _
  | radiusLender =>
    rw [Scheduler.applyFilter, radiusLenderFilter] at hok
    split at hok
    · cases hok
      exact h
    · cases hok
      exact h.keepNodes _
  | lendCount =>
    cases hok
    exact full_removeEmptyNodes _
  | topoReachability =>
    rw [Scheduler.applyFilter, topoReachabilityFilter] at hok
    split at hok
    · cases hok
    · cases hok
      exact full_removeEmptyNodes _
  | maxLentSize =>
    cases hok
    exact full_removeEmptyNodes _
  | sharedPool =>
    cases hok
    exact full_removeEmptyNodes _
  | freeMemory =>
    cases hok
    exact full_removeEmptyNodes _
  | requestedProviders =>
    rw [Scheduler.applyFilter, requestedProvidersFilter] at hok
    split at hok
    · cases hok
      exact h
    · cases hok
      exact h.keepNodes _
  | specifiedLender =>
    rcases hlenders : request.lenderInfos with _ | _ | ⟨first, lenders⟩
    · rw [Scheduler.applyFilter, specifiedLenderFilter, hlenders] at hok
      cases hok
      exact h
    · rw [Scheduler.applyFilter, specifiedLenderFilter, hlenders] at hok
      cases hok
      exact h
    · rw [specifiedLenderFilter_ok hlenders hok]
      exact full_removeEmptyNodes _
  | socketAffinity =>
    rw [Scheduler.applyFilter, socketAffinityFilter] at hok
    split at hok
    · cases hok
      exact h
    · split at hok
      · cases hok
        exact h
      · cases hok
        exact full_removeEmptyNodes _

theorem Full.filterByNames {names : List FilterName} (h : Full nodes)
    (hnames : .specifiedLink ∉ names)
    (hok : filterByNames mgr accounts request names nodes = (kept, .ok ())) : Full kept := by
  induction names generalizing nodes with
  | nil =>
    cases hok
    exact h
  | cons name names ih =>
    rw [List.mem_cons, not_or] at hnames
    obtain ⟨after, hafter, hrest⟩ := filterByNames_cons hok
    exact ih (h.applyFilter (Ne.symm hnames.1) hafter) hnames.2 hrest

theorem filterByNames_append {names names' : List FilterName} :
    filterByNames mgr accounts request (names ++ names') nodes = (kept, .ok ()) ↔
      ∃ after, filterByNames mgr accounts request names nodes = (after, .ok ()) ∧
        filterByNames mgr accounts request names' after = (kept, .ok ()) := by
  induction names generalizing nodes with
  | nil =>
    constructor
    · exact fun h => ⟨nodes, rfl, h⟩
    · rintro ⟨_, ⟨⟩, h⟩
      exact h
  | cons name names ih =>
    rw [List.cons_append, Scheduler.filterByNames, Scheduler.filterByNames]
    split
    · constructor
      · exact fun h => by cases h
      · rintro ⟨_, h, -⟩
        cases h
    · exact ih

/-- The filters every borrow begins with end with one that drops nodes without sockets. -/
theorem full_borrowFilters
    (h : filterByNames mgr accounts request borrowFilters nodes = (kept, .ok ())) : Full kept := by
  have hsplit : borrowFilters = borrowFilters.dropLast ++ [.freeMemory] := rfl
  rw [hsplit] at h
  obtain ⟨after, -, hlast⟩ := filterByNames_append.1 h
  cases hlast
  exact full_removeEmptyNodes _

end Full

/-! ### A link that is missed -/

section Link

variable (s : SchedulerImpl) (request : SchedulerRequest)

/-- What the filters every borrow begins with leave of the node that lends on a link. -/
def lendersOn (linkInfo : UbseMemLenderLinkInfo) : List NodeInfo :=
  keepNodes (fun node => node.nodeId = linkInfo.lenderNode)
    (filterByNames s.nodeInfo s.account request borrowFilters s.nodeInfo.getAllNodes).1

/-- **A request misses its link**: the node of the link is left with sockets, the socket of the
link is not among them, and no filter that follows drops the node. -/
def MissesLink : Prop :=
  ∃ linkInfo node, request.linkInfo = some linkInfo ∧ .socketAffinity ∉ request.filterNames ∧
    (request.provideNodes = [] ∨ linkInfo.lenderNode ∈ request.provideNodes) ∧
    lendersOn s request linkInfo = [node] ∧
    ∀ info ∈ node.socketInfos, info.socketId ≠ UInt32.ofInt linkInfo.lenderSocketId

variable {s request} {kept : List NodeInfo}

/-- What is left of the node of a link has sockets, and none of them but the one of the link is
kept. -/
theorem candidates_link {linkInfo : UbseMemLenderLinkInfo} {node : NodeInfo} {nodes : List NodeInfo}
    (hfull : Full nodes) :
    candidates ({ node with
        socketInfos := node.socketInfos.filter fun socketInfo =>
          socketInfo.socketId = UInt32.ofInt linkInfo.lenderSocketId } :: nodes) = [] ↔
      nodes = [] ∧
        ∀ info ∈ node.socketInfos, info.socketId ≠ UInt32.ofInt linkInfo.lenderSocketId := by
  rw [candidates, List.flatMap_cons, List.append_eq_nil_iff, List.map_eq_nil_iff,
    List.filter_eq_nil_iff]
  simp only [decide_eq_true_eq]
  constructor
  · rintro ⟨hsockets, hrest⟩
    exact ⟨hfull.eq_nil hrest, hsockets⟩
  · rintro ⟨rfl, hsockets⟩
    exact ⟨hsockets, rfl⟩

/-- What the filter on providers leaves of nodes of one id, when the request lists providers. -/
theorem keepNodes_providers {nodes : List NodeInfo} {n : NodeId} (hn : ∀ node ∈ nodes, node.nodeId = n) :
    keepNodes (fun node => node.nodeId ∈ request.provideNodes) nodes =
      if n ∈ request.provideNodes then nodes else [] := by
  split
  next hmem =>
    refine List.filter_eq_self.2 fun node hnode => decide_eq_true ?_
    rwa [hn node hnode]
  next hmem =>
    refine List.filter_eq_nil_iff.2 fun node hnode hin => hmem ?_
    rw [← hn node hnode]
    exact of_decide_eq_true hin

/-- **The filters leave nodes without a socket exactly when the request misses its link.** -/
theorem hollow_iff (hchain : BorrowChain request)
    (h : filterNodes s.nodeInfo s.account request s.nodeInfo.getAllNodes = (kept, .ok ())) :
    (kept ≠ [] ∧ candidates kept = []) ↔ MissesLink s request := by
  have hfull : Full kept → ¬(kept ≠ [] ∧ candidates kept = []) :=
    fun hfull hc => hc.1 (hfull.eq_nil hc.2)
  rw [filterNodes] at h
  rcases hchain with ⟨names, hlink, hfilters, hnames⟩ |
    ⟨linkInfo, providers, affinity, hlink, hfilters, hproviders, haffinity⟩
  · rw [hfilters] at h
    obtain ⟨kept₀, hkept₀, hrest⟩ := filterByNames_append.1 h
    have hspecified : FilterName.specifiedLink ∉ names := by
      intro hmem
      rcases hnames _ hmem with h | h | h <;> cases h
    refine iff_of_false (hfull ((full_borrowFilters hkept₀).filterByNames hspecified hrest)) ?_
    rintro ⟨linkInfo, -, hsome, -⟩
    rw [hlink] at hsome
    cases hsome
  · rw [hfilters] at h
    obtain ⟨kept₀, hkept₀, hrest⟩ := filterByNames_append.1 h
    obtain ⟨one, hone, hrest⟩ := filterByNames_cons hrest
    obtain ⟨two, htwo, hlast⟩ := filterByNames_append.1 hrest
    rcases haffinity with rfl | ⟨rfl, socketId, hsocket, hne⟩
    swap
    · -- The filter on affinity comes last and drops nodes without sockets.
      obtain ⟨last, hlast, hnil⟩ := filterByNames_cons hlast
      cases hnil
      have hfullKept : Full kept := by
        rw [applyFilter, socketAffinityFilter, hsocket] at hlast
        dsimp only at hlast
        rw [if_neg hne] at hlast
        cases hlast
        exact full_removeEmptyNodes _
      refine iff_of_false (hfull hfullKept) ?_
      rintro ⟨_, _, -, hnot, -⟩
      rw [hfilters] at hnot
      exact hnot (by simp)
    cases hlast
    have hlenders : lendersOn s request linkInfo =
        keepNodes (fun node => node.nodeId = linkInfo.lenderNode) kept₀ := by
      rw [lendersOn, hkept₀]
    have hids : ∀ node ∈ lendersOn s request linkInfo, node.nodeId = linkInfo.lenderNode := by
      rw [hlenders]
      exact fun node hnode => of_decide_eq_true (List.mem_filter.1 hnode).2
    have hfullLenders : Full (lendersOn s request linkInfo) := by
      rw [hlenders]
      exact (full_borrowFilters hkept₀).keepNodes _
    have hone := specifiedLinkFilter_ok hlink hone
    rw [← hlenders] at hone
    have haff : FilterName.socketAffinity ∉ request.filterNames := by
      rw [hfilters, hproviders]
      split <;> decide
    rcases hl : lendersOn s request linkInfo with _ | ⟨node, nodes⟩
    · -- The node of the link is gone.
      rw [hl] at hone
      subst hone
      have hkept : kept = [] := by
        rw [hproviders] at htwo
        split at htwo
        · cases htwo
          rfl
        next hlist =>
          obtain ⟨after, hafter, hnil⟩ := filterByNames_cons htwo
          cases hnil
          rw [applyFilter, requestedProvidersFilter, if_neg hlist] at hafter
          cases hafter
          rfl
      refine iff_of_false (fun hc => hc.1 hkept) ?_
      rintro ⟨linkInfo', node, hlink', -, -, hnode, -⟩
      obtain rfl : linkInfo = linkInfo' := Option.some.inj (hlink.symm.trans hlink')
      rw [hl] at hnode
      cases hnode
    · rw [hl] at hone hids hfullLenders
      rw [List.modifyHead_cons] at hone
      have hrestFull : Full nodes := fun n hn => hfullLenders n (List.mem_cons_of_mem _ hn)
      -- The node of the link stays if it may provide.
      have hkept : kept = if request.provideNodes = [] ∨ linkInfo.lenderNode ∈ request.provideNodes
          then one else [] := by
        rw [hproviders] at htwo
        split at htwo
        next hnone =>
          cases htwo
          rw [if_pos (Or.inl hnone)]
        next hlist =>
          obtain ⟨after, hafter, hnil⟩ := filterByNames_cons htwo
          cases hnil
          rw [applyFilter, requestedProvidersFilter, if_neg hlist] at hafter
          cases hafter
          have honeIds : ∀ n ∈ one, n.nodeId = linkInfo.lenderNode := by
            intro n hn
            rw [hone] at hn
            rcases List.mem_cons.1 hn with rfl | hn
            · exact hids node List.mem_cons_self
            · exact hids n (List.mem_cons_of_mem _ hn)
          rw [keepNodes_providers honeIds]
          simp only [hlist, false_or]
      rw [hkept]
      constructor
      · rintro ⟨hne, hc⟩
        split at hne
        next hprovides =>
          rw [if_pos hprovides, hone, candidates_link hrestFull] at hc
          obtain ⟨rfl, hsockets⟩ := hc
          exact ⟨linkInfo, node, hlink, haff, hprovides, hl, hsockets⟩
        next => exact absurd rfl hne
      · rintro ⟨linkInfo', node', hlink', -, hprovides, hnode, hsockets⟩
        obtain rfl : linkInfo = linkInfo' := Option.some.inj (hlink.symm.trans hlink')
        obtain ⟨rfl, rfl⟩ := List.cons.inj (hl.symm.trans hnode)
        rw [if_pos hprovides, hone]
        exact ⟨List.cons_ne_nil _ _, (candidates_link hrestFull).2 ⟨rfl, hsockets⟩⟩

end Link

/-! ### The answer -/

section Answer

variable (s : SchedulerImpl) (request : SchedulerRequest)

/-- Some socket of some node can satisfy a request. -/
def Feasible : Prop := ∃ c, KeepsSocket s request c

/-- **No candidate can satisfy a request**: the filters run through and leave no socket. -/
def NoCandidate : Prop :=
  ∃ kept, filterNodes s.nodeInfo s.account request s.nodeInfo.getAllNodes = (kept, .ok ()) ∧
    candidates kept = []

/-- The request for one block of the node that borrows. -/
def oneBlock : SchedulerRequest := request.ofSize (probeSize s.nodeInfo request)

/-- A node is being reconciled. -/
def Smoothing : Prop :=
  ∃ node ∈ s.nodeInfo.getAllNodes, ∃ info, s.nodeInfo.getNodeInfo node.nodeId = some info ∧
    info.clusterState = .smoothing

/-- **What the requester is to be told** when no candidate is left. -/
structure Classified (answer : UbseResult) : Prop where
  /-- While a node is being reconciled: try again. -/
  nodeReconcile : Smoothing s → answer = .error .nodeReconcile
  /-- No node can lend: not even one block. -/
  noNodeCanLend : ¬Smoothing s → (answer = .error .noNodeCanLend ↔ ¬Feasible s (oneBlock s request))
  /-- The size is too large: one block can be had. -/
  sizeExceedLend : ¬Smoothing s → (answer = .error .sizeExceedLend ↔ Feasible s (oneBlock s request))

/-- **The classification of failures**: the answer when no candidate is left, and the
monotonicity of the filters that it rests on. -/
def Classifies (answer : UbseResult) : Prop :=
  (NoCandidate s request → Classified s request answer) ∧ KeepsForSmaller s request

/-- **When failures are classified**: a request that misses its link has no smaller size to fall
back on and meets no node that is being reconciled; one that would miss it for one block alone
meets such a node; and the blocks of what is kept fit for every smaller size. -/
structure Classifiable : Prop where
  missed : NoCandidate s request → MissesLink s request →
    ¬Smoothing s ∧ ¬Feasible s (oneBlock s request)
  missed_oneBlock : NoCandidate s request → ¬MissesLink s request →
    MissesLink s (oneBlock s request) → Smoothing s
  fits : ∀ c, KeepsSocket s request c → ∀ size, LegalSize s request size →
    CountFits s.nodeInfo (request.ofSize size) c

variable {s request}

theorem smoothing_iff :
    Smoothing s ↔ (s.nodeInfo.getAllNodes.any fun node =>
      (s.nodeInfo.getNodeInfo node.nodeId).any (·.clusterState = .smoothing)) = true := by
  simp only [Smoothing, List.any_eq_true, Option.any_eq_true_iff_get, decide_eq_true_eq]
  constructor
  · rintro ⟨node, hnode, info, hinfo, hstate⟩
    refine ⟨node, hnode, Option.isSome_iff_exists.2 ⟨info, hinfo⟩, ?_⟩
    simpa [hinfo] using hstate
  · rintro ⟨node, hnode, hsome, hstate⟩
    exact ⟨node, hnode, _, (Option.some_get hsome).symm, hstate⟩

theorem feasible_iff_candidates_ne_nil {kept : List NodeInfo}
    (h : filterNodes s.nodeInfo s.account request s.nodeInfo.getAllNodes = (kept, .ok ())) :
    Feasible s request ↔ candidates kept ≠ [] := by
  constructor
  · rintro ⟨c, kept', hkept', hc⟩ hnil
    obtain ⟨rfl, -⟩ := Prod.mk.inj (h.symm.trans hkept')
    rw [hnil] at hc
    cases hc
  · intro hne
    obtain ⟨c, hc⟩ := List.exists_mem_of_ne_nil _ hne
    exact ⟨c, kept, h, hc⟩

/-- What is answered when the request misses its link. -/
theorem place_of_missesLink (hchain : BorrowChain request) {kept : List NodeInfo}
    (hkept : filterNodes s.nodeInfo s.account request s.nodeInfo.getAllNodes = (kept, .ok ()))
    (hmiss : MissesLink s request) (choice : Choice) (algoResult : UbseMemAlgoResult) :
    (place s choice request algoResult).2 = .error .noNodeCanLend := by
  obtain ⟨hne, hnil⟩ := (hollow_iff hchain hkept).2 hmiss
  rw [place, hkept]
  rcases kept with _ | ⟨node, nodes⟩
  · exact absurd rfl hne
  · dsimp only
    rw [hnil, if_neg List.not_mem_nil, if_pos rfl]

/-- What is answered when the filters leave no node. -/
theorem place_of_nil
    (hkept : filterNodes s.nodeInfo s.account request s.nodeInfo.getAllNodes = ([], .ok ()))
    (choice : Choice) (algoResult : UbseMemAlgoResult) :
    (place s choice request algoResult).2 = .error (noCandidate s request) := by
  rw [place, hkept]

/-- The second run decides by the nodes that it leaves. -/
theorem noCandidate_eq {kept₁ : List NodeInfo} (hsmooth : ¬Smoothing s)
    (hkept₁ : filterNodes s.nodeInfo s.account (oneBlock s request) s.nodeInfo.getAllNodes =
      (kept₁, .ok ())) :
    noCandidate s request = if kept₁ = [] then .noNodeCanLend else .sizeExceedLend := by
  have hprobe : filterNodes s.nodeInfo s.account
      { request with requestSize := probeSize s.nodeInfo request } s.nodeInfo.getAllNodes =
        (kept₁, .ok ()) := hkept₁
  rw [noCandidate, if_neg fun h => hsmooth (smoothing_iff.2 h), hprobe]
  rcases kept₁ with _ | ⟨node, nodes⟩
  · rfl
  · rfl

theorem noCandidate_of_smoothing (hsmooth : Smoothing s) :
    noCandidate s request = .nodeReconcile := by
  rw [noCandidate, if_pos (smoothing_iff.1 hsmooth)]

/-- **The answer, exactly**, for one state: a failure is classified if and only if links are not
missed. -/
theorem classified_iff (hs : DistinctNodes s.nodeInfo.nodeInfos) (hchain : BorrowChain request)
    (hchain₁ : BorrowChain (oneBlock s request)) (hno : NoCandidate s request) (choice : Choice)
    (algoResult : UbseMemAlgoResult) :
    Classified s request (place s choice request algoResult).2 ↔
      (MissesLink s request → ¬Smoothing s ∧ ¬Feasible s (oneBlock s request)) ∧
        (¬MissesLink s request → MissesLink s (oneBlock s request) → Smoothing s) := by
  obtain ⟨kept, hkept, hnil⟩ := hno
  obtain ⟨names, hfilters, hconfig, -⟩ := hchain.filterNames
  obtain ⟨kept₁, hkept₁, -⟩ :=
    filterNodes_ofSize hs hfilters hconfig hkept (probeSize s.nodeInfo request)
  have hfeasible : Feasible s (oneBlock s request) ↔ candidates kept₁ ≠ [] :=
    feasible_iff_candidates_ne_nil hkept₁
  by_cases hmiss : MissesLink s request
  · rw [place_of_missesLink hchain hkept hmiss]
    constructor
    · intro h
      have hsmooth : ¬Smoothing s := fun hsmooth => by cases h.nodeReconcile hsmooth
      exact ⟨fun _ => ⟨hsmooth, (h.noNodeCanLend hsmooth).1 rfl⟩, fun hnot => absurd hmiss hnot⟩
    · rintro ⟨h, -⟩
      obtain ⟨hsmooth, hinfeasible⟩ := h hmiss
      exact ⟨fun h => absurd h hsmooth, fun _ => iff_of_true rfl hinfeasible,
        fun _ => iff_of_false nofun hinfeasible⟩
  · have hempty : kept = [] := by
      by_contra hne
      exact hmiss ((hollow_iff hchain hkept).1 ⟨hne, hnil⟩)
    subst hempty
    rw [place_of_nil hkept]
    by_cases hsmooth : Smoothing s
    · rw [noCandidate_of_smoothing hsmooth]
      exact iff_of_true
        ⟨fun _ => rfl, fun hnot => absurd hsmooth hnot, fun hnot => absurd hsmooth hnot⟩
        ⟨fun h => absurd h hmiss, fun _ _ => hsmooth⟩
    · rw [noCandidate_eq hsmooth hkept₁]
      have hmiss₁ := hollow_iff hchain₁ hkept₁
      by_cases hnone : kept₁ = []
      · subst hnone
        rw [if_pos rfl]
        have hinfeasible : ¬Feasible s (oneBlock s request) := fun h => hfeasible.1 h rfl
        refine iff_of_true ⟨fun h => absurd h hsmooth, fun _ => iff_of_true rfl hinfeasible,
          fun _ => iff_of_false nofun hinfeasible⟩
          ⟨fun h => absurd h hmiss, fun _ h => absurd (hmiss₁.2 h).1 (not_not_intro rfl)⟩
      · rw [if_neg hnone]
        -- The answer is that the size is too large: right when a socket is left, too.
        constructor
        · intro h
          have hc := hfeasible.1 ((h.sizeExceedLend hsmooth).1 rfl)
          exact ⟨fun h => absurd h hmiss, fun _ h => absurd (hmiss₁.2 h).2 hc⟩
        · rintro ⟨-, h⟩
          have hfeas : Feasible s (oneBlock s request) := by
            refine hfeasible.2 fun hc => hsmooth (h hmiss (hmiss₁.1 ⟨hnone, hc⟩))
          exact ⟨fun h => absurd h hsmooth, fun _ => iff_of_false nofun (not_not_intro hfeas),
            fun _ => iff_of_true rfl hfeas⟩

end Answer

/-- **The classification of failures, exactly**: in every state of the scheduler, the failure of
an FD or NUMA request is classified, and the filters are monotone for it, if and only if it is
classifiable. -/
theorem classifies_iff {conf : SchedulerConf} {s s₁ : SchedulerImpl}
    (hs : (schedulerSystem conf).Reachable s) {cluster : Cluster}
    (hrefresh : refresh s cluster = (s₁, .ok ())) {req : MemReq}
    (hreq : req.type = .fd ∨ req.type = .numa) (choice : Choice)
    (algoResult : UbseMemAlgoResult) :
    Classifies s₁ (buildRequest req s.nodeInfo)
        (scheduleBorrow s cluster choice (buildRequest req s.nodeInfo) algoResult).2.2 ↔
      Classifiable s₁ (buildRequest req s.nodeInfo) := by
  have hchain : ∀ size, BorrowChain ((buildRequest req s.nodeInfo).ofSize size) :=
    borrowChain_buildRequest hreq s.nodeInfo
  have hchain₀ : BorrowChain (buildRequest req s.nodeInfo) := hchain (buildRequest req s.nodeInfo).requestSize
  have hdistinct : DistinctNodes s₁.nodeInfo.nodeInfos := by
    have hlayout := (sameLayout_refresh s cluster).nodeInfos
    rw [hrefresh] at hlayout
    rw [hlayout]
    exact distinctNodes_of_reachable hs
  obtain ⟨names, hfilters, hconfig, hcount⟩ := hchain₀.filterNames
  have hfits := keepsForSmaller_iff hdistinct hfilters hconfig hcount
  have hclass := fun hno => classified_iff hdistinct hchain₀ (hchain _) hno choice algoResult
  rw [scheduleBorrow, hrefresh]
  constructor
  · rintro ⟨h, hkeeps⟩
    exact ⟨fun hno => ((hclass hno).1 (h hno)).1, fun hno => ((hclass hno).1 (h hno)).2,
      hfits.1 hkeeps⟩
  · rintro ⟨hmissed, hmissed₁, h⟩
    exact ⟨fun hno => (hclass hno).2 ⟨hmissed hno, hmissed₁ hno⟩, hfits.2 h⟩

/-! ### A lender with two sockets -/

/-- A node with a socket, and two ports to the chips of another node. -/
def borrowerReport : UbseNodeInfo where
  nodeId := "1"
  numaInfos := (∅ : Map NumaId UbseNumaInfo).insert 0
    { socketId := 0, memTotal := 2 ^ 32, memUsed := 0, memFree := 2 ^ 32 }
  cpuInfos := [{ slotId := 1, socketId := 0, chipId := some 1,
                 portInfos := [{ portId := some 1, isUp := true, remoteSlotId := "2",
                                 remoteChipId := some 1 },
                               { portId := some 2, isUp := true, remoteSlotId := "2",
                                 remoteChipId := some 2 }] }]
  clusterState := .working

/-- The other node: two blocks on its first socket, and 4 GiB on its second. -/
def twoSocketsReport : UbseNodeInfo where
  nodeId := "2"
  numaInfos := ((∅ : Map NumaId UbseNumaInfo).insert 0
    { socketId := 0, memTotal := 2 ^ 28, memUsed := 0, memFree := 2 ^ 28 }).insert 1
    { socketId := 1, memTotal := 2 ^ 32, memUsed := 0, memFree := 2 ^ 32 }
  cpuInfos := [{ slotId := 2, socketId := 0, chipId := some 1, portInfos := [] },
               { slotId := 2, socketId := 1, chipId := some 2, portInfos := [] }]
  clusterState := .working

/-- What the node controller knows of both. -/
def twoSocketsCluster : Cluster where
  nodes := [("1", borrowerReport), ("2", twoSocketsReport)]
  deployed := [1, 2]

/-- The scheduler after both have reported. -/
def twoSocketsState : SchedulerImpl :=
  [SchedulerEvent.nodeObjChange borrowerReport [1, 2],
    .nodeObjChange twoSocketsReport [1, 2]].foldl SchedulerImpl.step (.start {})

theorem reachable_twoSocketsState : (schedulerSystem {}).Reachable twoSocketsState :=
  ⟨_, _, rfl, System.run_trace _ _ _ _⟩

theorem refresh_twoSocketsState :
    refresh twoSocketsState twoSocketsCluster =
      ((refresh twoSocketsState twoSocketsCluster).1, .ok ()) :=
  Prod.ext rfl (by decide)

/-- A request of node 1 for a size. -/
def sizeRequest (size : Nat) : MemReq :=
  .fd { name := "a", requestNodeId := "1", importNodeId := "1", size }

/-- A request of node 1 for four blocks, on the link to the first socket of node 2. -/
def linkRequest : MemReq :=
  .numa { name := "a", requestNodeId := "1", importNodeId := "1", size := 2 ^ 29,
          linkInfo := { lenderNode := "2", lenderSocketId := 0 } }

/-- A request for more than any socket has: its size is too large. -/
theorem classifies_sizeRequest :
    Classifies (refresh twoSocketsState twoSocketsCluster).1
      (buildRequest (sizeRequest (2 ^ 33)) twoSocketsState.nodeInfo)
      (scheduleBorrow twoSocketsState twoSocketsCluster pickTwo
        (buildRequest (sizeRequest (2 ^ 33)) twoSocketsState.nodeInfo) {}).2.2 := by
  have hlink : ∀ s size, ¬MissesLink s
      ((buildRequest (sizeRequest (2 ^ 33)) twoSocketsState.nodeInfo).ofSize size) := by
    rintro s size ⟨linkInfo, -, hsome, -⟩
    cases hsome
  refine (classifies_iff reachable_twoSocketsState refresh_twoSocketsState (Or.inl rfl) pickTwo {}).2
    ⟨fun _ h => absurd h (hlink _ _), fun _ _ h => absurd h (hlink _ _), ?_⟩
  rintro c ⟨kept, hkept, hc⟩
  have hnil : (filterNodes (refresh twoSocketsState twoSocketsCluster).1.nodeInfo
      (refresh twoSocketsState twoSocketsCluster).1.account
      (buildRequest (sizeRequest (2 ^ 33)) twoSocketsState.nodeInfo)
      (refresh twoSocketsState twoSocketsCluster).1.nodeInfo.getAllNodes).1 = [] := by
    decide +kernel
  rw [hkept] at hnil
  rw [show kept = [] from hnil] at hc
  cases hc

/-- The first socket has no four blocks, the second has, and the request is told that no node can
lend, though the first has one block. -/
theorem not_classifies :
    ¬∀ (conf : SchedulerConf) (s s₁ : SchedulerImpl), (schedulerSystem conf).Reachable s →
      ∀ cluster, refresh s cluster = (s₁, .ok ()) → ∀ req : MemReq,
      (req.type = .fd ∨ req.type = .numa) → ∀ choice algoResult,
      Classifies s₁ (buildRequest req s.nodeInfo)
        (scheduleBorrow s cluster choice (buildRequest req s.nodeInfo) algoResult).2.2 := by
  intro h
  obtain ⟨hclass, -⟩ := h {} _ _ reachable_twoSocketsState _ refresh_twoSocketsState linkRequest
    (Or.inr rfl) pickTwo {}
  have hno : NoCandidate (refresh twoSocketsState twoSocketsCluster).1
      (buildRequest linkRequest twoSocketsState.nodeInfo) :=
    ⟨_, Prod.ext rfl (by decide +kernel), by decide +kernel⟩
  have hfeasible : Feasible (refresh twoSocketsState twoSocketsCluster).1
      (oneBlock (refresh twoSocketsState twoSocketsCluster).1
        (buildRequest linkRequest twoSocketsState.nodeInfo)) :=
    ⟨("2", 0), _, Prod.ext rfl (by decide +kernel), by decide +kernel⟩
  have hsmooth : ¬Smoothing (refresh twoSocketsState twoSocketsCluster).1 := by
    rw [smoothing_iff]
    decide +kernel
  have hanswer : (scheduleBorrow twoSocketsState twoSocketsCluster pickTwo
      (buildRequest linkRequest twoSocketsState.nodeInfo) {}).2.2 = .error .noNodeCanLend := by
    decide +kernel
  exact ((hclass hno).noNodeCanLend hsmooth).1 hanswer hfeasible

end Scheduler

end UbsEngine
