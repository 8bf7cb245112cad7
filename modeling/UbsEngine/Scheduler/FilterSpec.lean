import UbsEngine.Scheduler.Impl

/-!
# What the filters promise

Filters only drop candidates, so what one of them has checked of a candidate is true of
every candidate that is left at the end of the chain
(`UbsEngine.Scheduler.filterByNames_ok`). This file says what that is for the filters the
limits rest on, each time for a node and a socket that are left.
-/

namespace UbsEngine

namespace Scheduler

theorem mem_candidates {nodes : List NodeInfo} {n : NodeId} {s : SocketId} :
    (n, s) ∈ candidates nodes ↔
      ∃ node ∈ nodes, node.nodeId = n ∧ ∃ info ∈ node.socketInfos, info.socketId = s := by
  simp only [candidates, List.mem_flatMap, List.mem_map, Prod.mk.injEq]
  constructor
  · rintro ⟨node, hnode, info, hinfo, hn, hs⟩
    exact ⟨node, hnode, hn, info, hinfo, hs⟩
  · rintro ⟨node, hnode, hn, info, hinfo, hs⟩
    exact ⟨node, hnode, info, hinfo, hn, hs⟩

/-! ### Dropping nodes and sockets -/

theorem mem_candidates_filter {p : NodeInfo → Bool} {nodes : List NodeInfo} {n : NodeId}
    {s : SocketId} (h : (n, s) ∈ candidates (nodes.filter p)) :
    (n, s) ∈ candidates nodes ∧ ∃ node, node.nodeId = n ∧ p node = true := by
  obtain ⟨node, hnode, hn, hinfo⟩ := mem_candidates.1 h
  obtain ⟨hmem, hp⟩ := List.mem_filter.1 hnode
  exact ⟨mem_candidates.2 ⟨node, hmem, hn, hinfo⟩, node, hn, hp⟩

/-- A node that is left is a node that was there, with some of its sockets. -/
def Shrinks (f : NodeInfo → NodeInfo) : Prop :=
  ∀ node, (f node).nodeId = node.nodeId ∧
    ∀ info ∈ (f node).socketInfos, ∃ info' ∈ node.socketInfos, info'.socketId = info.socketId

theorem mem_candidates_map {f : NodeInfo → NodeInfo} (hf : Shrinks f) {nodes : List NodeInfo}
    {n : NodeId} {s : SocketId} (h : (n, s) ∈ candidates (nodes.map f)) :
    ∃ node ∈ nodes, node.nodeId = n ∧ (∃ info ∈ (f node).socketInfos, info.socketId = s) ∧
      (n, s) ∈ candidates nodes := by
  obtain ⟨node', hnode', hn, info, hinfo, hs⟩ := mem_candidates.1 h
  obtain ⟨node, hnode, rfl⟩ := List.mem_map.1 hnode'
  obtain ⟨hid, hsock⟩ := hf node
  obtain ⟨info', hinfo', hs'⟩ := hsock info hinfo
  have hn' : node.nodeId = n := hid.symm.trans hn
  exact ⟨node, hnode, hn', ⟨info, hinfo, hs⟩,
    mem_candidates.2 ⟨node, hnode, hn', info', hinfo', hs'.trans hs⟩⟩

theorem mem_candidates_keepSockets {p : NodeInfo → SocketInfo → Bool} {nodes : List NodeInfo}
    {n : NodeId} {s : SocketId} (h : (n, s) ∈ candidates (keepSockets p nodes)) :
    (n, s) ∈ candidates nodes ∧
      ∃ node info, node.nodeId = n ∧ info.socketId = s ∧ p node info = true := by
  have hf : Shrinks fun node : NodeInfo =>
      { node with socketInfos := node.socketInfos.filter (p node) } :=
    fun _ => ⟨rfl, fun info hinfo => ⟨info, (List.mem_filter.1 hinfo).1, rfl⟩⟩
  obtain ⟨node, -, hn, ⟨info, hinfo, hs⟩, hmem⟩ := mem_candidates_map hf h
  exact ⟨hmem, node, info, hn, hs, (List.mem_filter.1 hinfo).2⟩

theorem mem_candidates_removeEmptyNodes {nodes : List NodeInfo} {n : NodeId} {s : SocketId}
    (h : (n, s) ∈ candidates (removeEmptyNodes nodes)) : (n, s) ∈ candidates nodes :=
  (mem_candidates_filter h).1

/-! ### Filters only drop -/

section Subset

variable (mgr : SchedulerNodeManager) (accounts : SchedulerAccountManager)
variable (request : SchedulerRequest) (nodes : List NodeInfo) {n : NodeId} {s : SocketId}

/-- A first node that keeps its sockets, or some of them, and nodes that stay. -/
theorem mem_candidates_cons {node node' : NodeInfo} (h : (n, s) ∈ candidates (node' :: nodes))
    (hn : node'.nodeId = node.nodeId)
    (hs : ∀ info' ∈ node'.socketInfos, ∃ info ∈ node.socketInfos, info.socketId = info'.socketId) :
    (n, s) ∈ candidates (node :: nodes) := by
  obtain ⟨node'', hnode'', hn'', info, hinfo, hs''⟩ := mem_candidates.1 h
  rcases List.mem_cons.1 hnode'' with rfl | hnode''
  · obtain ⟨info', hinfo', hs'⟩ := hs info hinfo
    exact mem_candidates.2
      ⟨node, List.mem_cons_self, hn.symm.trans hn'', info', hinfo', hs'.trans hs''⟩
  · exact mem_candidates.2 ⟨node'', List.mem_cons_of_mem _ hnode'', hn'', info, hinfo, hs''⟩

theorem mem_candidates_checkNumaCapacity {sizes : Map NumaId Nat}
    (h : (n, s) ∈ candidates (checkNumaCapacity mgr request sizes nodes).1) :
    (n, s) ∈ candidates nodes := by
  cases nodes with
  | nil => exact h
  | cons node nodes =>
    simp only [checkNumaCapacity] at h
    split at h
    · exact h
    split at h
    · exact h
    · refine mem_candidates_cons nodes h rfl fun info' hinfo' => ?_
      obtain ⟨info, hinfo, rfl⟩ := List.mem_map.1 hinfo'
      exact ⟨info, hinfo, rfl⟩

theorem mem_candidates_filterByNumaIds {sizes : Map NumaId Nat}
    (h : (n, s) ∈ candidates (filterByNumaIds sizes nodes)) : (n, s) ∈ candidates nodes := by
  cases nodes with
  | nil => exact h
  | cons node nodes =>
    simp only [filterByNumaIds] at h
    split at h
    · exact h
    · refine mem_candidates_cons nodes h rfl fun info' hinfo' => ?_
      obtain ⟨info, hinfo, rfl⟩ := List.mem_map.1 hinfo'
      exact ⟨info, hinfo, rfl⟩

theorem mem_candidates_filterBySocketId {socketId : SocketId}
    (h : (n, s) ∈ candidates (filterBySocketId socketId nodes)) : (n, s) ∈ candidates nodes := by
  cases nodes with
  | nil => exact h
  | cons node nodes =>
    simp only [filterBySocketId] at h
    split at h
    · exact h
    · exact mem_candidates_cons nodes h rfl
        fun info' hinfo' => ⟨info', (List.mem_filter.1 hinfo').1, rfl⟩

theorem shrinks_sharedPoolNode : Shrinks (sharedPoolNode mgr request) := by
  intro node
  unfold sharedPoolNode
  split
  · exact ⟨rfl, fun info hinfo => ⟨info, hinfo, rfl⟩⟩
  split
  · exact ⟨rfl, fun info hinfo => ⟨info, hinfo, rfl⟩⟩
  · exact ⟨rfl, fun _ hinfo => by cases hinfo⟩

theorem mem_freeMemorySockets {info : SchedulerNodeInfo} {socketInfos : List SocketInfo}
    {socket : SocketInfo} (h : socket ∈ freeMemorySockets request info socketInfos) :
    socket ∈ socketInfos := by
  unfold freeMemorySockets at h
  rw [sizeMb2Byte_toNat, Option.elim_some] at h
  split at h
  · cases h
  · exact (List.mem_filter.1 h).1

theorem shrinks_freeMemoryNode : Shrinks (freeMemoryNode mgr request) := by
  intro node
  unfold freeMemoryNode
  split
  · exact ⟨rfl, fun info hinfo => ⟨info, hinfo, rfl⟩⟩
  split
  · exact ⟨rfl, fun _ hinfo => by cases hinfo⟩
  · exact ⟨rfl, fun info hinfo => ⟨info, mem_freeMemorySockets request hinfo, rfl⟩⟩

theorem mem_candidates_specifiedLenderFilter
    (h : (n, s) ∈ candidates (specifiedLenderFilter mgr request nodes).1) :
    (n, s) ∈ candidates nodes := by
  unfold specifiedLenderFilter at h
  split at h
  · exact h
  · exact h
  next first lenders _ =>
    split at h
    · have hchain : ∀ {nodes' : List NodeInfo}, (n, s) ∈ candidates nodes' →
          nodes' = (checkNumaCapacity mgr request (numaToSize (first :: lenders))
            (filterByNumaIds (numaToSize (first :: lenders)) (filterBySocketId
              (lenderSocket mgr first)
                (keepNodes (fun node => node.nodeId = first.nodeId) nodes)))).1 →
          (n, s) ∈ candidates nodes := by
        rintro _ h rfl
        have h := mem_candidates_checkNumaCapacity mgr request _ h
        have h := mem_candidates_filterByNumaIds _ h
        have h := mem_candidates_filterBySocketId _ h
        exact (mem_candidates_filter h).1
      dsimp only at h
      split at h
      next nodes' e heq => exact hchain h (by rw [heq])
      next nodes' heq =>
        have h := (mem_candidates_keepSockets (mem_candidates_removeEmptyNodes h)).1
        exact hchain h (by rw [heq])
    · cases h

/-- **A filter only drops candidates**. -/
theorem mem_candidates_applyFilter {name : FilterName}
    (h : (n, s) ∈ candidates (applyFilter mgr accounts request nodes name).1) :
    (n, s) ∈ candidates nodes := by
  cases name with
  | configConsistency =>
    simp only [applyFilter, configConsistencyFilter] at h
    split at h
    · exact h
    · exact h
    · split at h <;> exact h
  | roleConflict =>
    simp only [applyFilter, roleConflictFilter] at h
    split at h
    · exact h
    · split at h
      · exact h
      · exact (mem_candidates_filter h).1
  | lenderRole => exact (mem_candidates_filter h).1
  | group => exact (mem_candidates_filter h).1
  | provider =>
    simp only [applyFilter, providerFilter] at h
    split at h
    · exact h
    · exact (mem_candidates_filter h).1
  | nodeState => exact (mem_candidates_filter h).1
  | region =>
    simp only [applyFilter, regionFilter] at h
    split at h
    · exact h
    · split at h
      · exact (mem_candidates_filter h).1
      · exact h
  | radiusBorrow =>
    simp only [applyFilter, radiusBorrowFilter] at h
    split at h
    · exact h
    · exact (mem_candidates_filter h).1
  | radiusLender =>
    simp only [applyFilter, radiusLenderFilter] at h
    split at h
    · exact h
    · exact (mem_candidates_filter h).1
  | lendCount => exact (mem_candidates_keepSockets (mem_candidates_removeEmptyNodes h)).1
  | topoReachability =>
    simp only [applyFilter, topoReachabilityFilter] at h
    split at h
    · exact h
    · exact (mem_candidates_keepSockets (mem_candidates_removeEmptyNodes h)).1
  | maxLentSize => exact (mem_candidates_keepSockets (mem_candidates_removeEmptyNodes h)).1
  | sharedPool =>
    obtain ⟨-, -, -, -, hmem⟩ := mem_candidates_map (shrinks_sharedPoolNode mgr request)
      (mem_candidates_removeEmptyNodes h)
    exact hmem
  | freeMemory =>
    obtain ⟨-, -, -, -, hmem⟩ := mem_candidates_map (shrinks_freeMemoryNode mgr request)
      (mem_candidates_removeEmptyNodes h)
    exact hmem
  | requestedProviders =>
    simp only [applyFilter, requestedProvidersFilter] at h
    split at h
    · exact h
    · exact (mem_candidates_filter h).1
  | specifiedLender => exact mem_candidates_specifiedLenderFilter mgr request nodes h
  | specifiedLink =>
    simp only [applyFilter, specifiedLinkFilter] at h
    split at h
    · exact h
    split at h
    · exact h
    split at h
    · cases h
    next linkInfo _ _ _ node nodes' heq =>
      have hsub : (n, s) ∈ candidates (node :: nodes') :=
        mem_candidates_cons nodes' h rfl
          fun info' hinfo' => ⟨info', (List.mem_filter.1 hinfo').1, rfl⟩
      rw [← heq] at hsub
      exact (mem_candidates_filter hsub).1
  | socketAffinity =>
    simp only [applyFilter, socketAffinityFilter] at h
    split at h
    · exact h
    split at h
    · exact h
    · exact (mem_candidates_keepSockets (mem_candidates_removeEmptyNodes h)).1

end Subset

/-- **The chain**: every filter it names has run without an error, and what is left at the end
was left by it. -/
theorem filterByNames_ok {mgr : SchedulerNodeManager} {accounts : SchedulerAccountManager}
    {request : SchedulerRequest} {names : List FilterName} {nodes kept : List NodeInfo}
    (h : filterByNames mgr accounts request names nodes = (kept, .ok ())) {name : FilterName}
    (hname : name ∈ names) :
    ∃ before after, applyFilter mgr accounts request before name = (after, .ok ()) ∧
      ∀ c ∈ candidates kept, c ∈ candidates after := by
  have hdrop : ∀ names nodes, filterByNames mgr accounts request names nodes = (kept, .ok ()) →
      ∀ c ∈ candidates kept, c ∈ candidates nodes := by
    intro names
    induction names with
    | nil => rintro nodes h c hc; cases h; exact hc
    | cons name names ih =>
      intro nodes h c hc
      unfold filterByNames at h
      split at h
      · cases h
      next nodes' heq =>
        have hc' := ih nodes' h c hc
        have hstep : c ∈ candidates (applyFilter mgr accounts request nodes name).1 := by
          rw [heq]
          exact hc'
        exact mem_candidates_applyFilter mgr accounts request nodes hstep
  induction names generalizing nodes with
  | nil => cases hname
  | cons name' names ih =>
    unfold filterByNames at h
    split at h
    · cases h
    next nodes' heq =>
      rcases List.mem_cons.1 hname with rfl | hname
      · exact ⟨nodes, nodes', heq, hdrop names nodes' h⟩
      · exact ih h hname

/-! ### What a candidate that is left has passed -/

section Passed

variable {mgr : SchedulerNodeManager} {accounts : SchedulerAccountManager}
variable {request : SchedulerRequest} {before after : List NodeInfo} {n : NodeId} {s : SocketId}

/-- `LendCountFilter`: the whole blocks of the request fit. -/
theorem lendCount_passed
    (h : applyFilter mgr accounts request before .lendCount = (after, .ok ()))
    (hc : (n, s) ∈ candidates after) :
    ∃ node socket, mgr.getNodeInfo n = some node ∧ node.getSocketInfo s = some socket ∧
      socket.lentCount + requiredBlocks request node.blockSize ≤ socket.maxExportTimes.toNat := by
  cases h
  obtain ⟨-, node, info, rfl, rfl, hp⟩ :=
    mem_candidates_keepSockets (mem_candidates_removeEmptyNodes hc)
  split at hp
  · cases hp
  next node' hnode =>
    rw [Bool.and_eq_true] at hp
    obtain ⟨-, hp⟩ := hp
    split at hp
    · cases hp
    next socket hsocket =>
      refine ⟨node', socket, hnode, hsocket, ?_⟩
      unfold safeAdd at hp
      split at hp
      · simpa using hp
      · cases hp

/-- `MaxLentSizeFilter`: the bytes of the request fit what the socket may lend. -/
theorem maxLentSize_passed
    (h : applyFilter mgr accounts request before .maxLentSize = (after, .ok ()))
    (hc : (n, s) ∈ candidates after) :
    ∃ node socket, mgr.getNodeInfo n = some node ∧ node.getSocketInfo s = some socket ∧
      request.requestSize + node.getSocketLentSize s < 2 ^ 64 ∧
      (socket.maxLentSize = 0 ∨
        request.requestSize + node.getSocketLentSize s ≤ socket.maxLentSize) := by
  cases h
  obtain ⟨-, node, info, rfl, rfl, hp⟩ :=
    mem_candidates_keepSockets (mem_candidates_removeEmptyNodes hc)
  split at hp
  · cases hp
  next node' hnode =>
    split at hp
    · cases hp
    next socket hsocket =>
      refine ⟨node', socket, hnode, hsocket, ?_⟩
      unfold safeAdd at hp
      split at hp
      next hlt => exact ⟨hlt, by simpa using hp⟩
      next => cases hp

/-- `SharedPoolFilter`: the bytes of the request fit what the node may lend. -/
theorem sharedPool_passed
    (h : applyFilter mgr accounts request before .sharedPool = (after, .ok ()))
    (hc : (n, s) ∈ candidates after) {node : SchedulerNodeInfo}
    (hnode : mgr.getNodeInfo n = some node) :
    poolBytes node = 0 ∨ node.getLentSize + request.requestSize ≤ poolBytes node := by
  cases h
  obtain ⟨node', -, rfl, ⟨info, hinfo, -⟩, -⟩ := mem_candidates_map
    (shrinks_sharedPoolNode mgr request) (mem_candidates_removeEmptyNodes hc)
  unfold sharedPoolNode at hinfo
  rw [hnode] at hinfo
  dsimp only at hinfo
  split at hinfo
  next hp =>
    refine hp.imp id fun hp => ?_
    unfold safeAdd at hp
    split at hp
    · simpa using hp
    · cases hp
  next => cases hinfo

/-- `RoleConflictFilter`: the importer lends nothing, and the lender is another node that
borrows nothing. -/
theorem roleConflict_passed
    (h : applyFilter mgr accounts request before .roleConflict = (after, .ok ()))
    (hc : (n, s) ∈ candidates after) :
    ∃ importer lender, mgr.getNodeInfo request.importNodeId = some importer ∧
      mgr.getNodeInfo n = some lender ∧ n ≠ request.importNodeId ∧
      importer.getLentSizeExcludingShared = 0 ∧ lender.getBorrowSize = 0 := by
  simp only [applyFilter, roleConflictFilter] at h
  split at h
  · cases h
  next importer himporter =>
    split at h
    · cases h
    next hlent =>
      cases h
      obtain ⟨-, node, rfl, hp⟩ := mem_candidates_filter hc
      rw [Bool.and_eq_true] at hp
      obtain ⟨hne, hp⟩ := hp
      split at hp
      · cases hp
      next lender hlender =>
        exact ⟨importer, lender, himporter, hlender, by simpa using hne, by omega,
          by simpa using hp⟩

theorem isConsistentLender_nodeId {first lender : UbseMemLenderInfo}
    (h : isConsistentLender mgr first lender = true) : lender.nodeId = first.nodeId := by
  simp only [isConsistentLender, Bool.and_eq_true, decide_eq_true_eq] at h
  exact h.1.1.1.2

/-- `SpecifiedLenderFilter`: all lenders agree, on the node that is left and, if they name
one, on the socket. -/
theorem specifiedLender_passed {first : UbseMemLenderInfo} {lenders : List UbseMemLenderInfo}
    (hl : request.lenderInfos = some (first :: lenders))
    (h : applyFilter mgr accounts request before .specifiedLender = (after, .ok ()))
    (hc : (n, s) ∈ candidates after) :
    n = first.nodeId ∧ ∀ lender ∈ first :: lenders, isConsistentLender mgr first lender = true := by
  simp only [applyFilter, specifiedLenderFilter, hl] at h
  split at h
  swap
  · cases h
  next hall =>
    refine ⟨?_, fun lender hlender => List.all_eq_true.1 hall lender hlender⟩
    split at h
    · cases h
    next nodes' heq =>
      cases h
      have hc := (mem_candidates_keepSockets (mem_candidates_removeEmptyNodes hc)).1
      rw [show nodes' = (checkNumaCapacity mgr request (numaToSize (first :: lenders))
            (filterByNumaIds (numaToSize (first :: lenders)) (filterBySocketId
              (lenderSocket mgr first)
                (keepNodes (fun node => node.nodeId = first.nodeId) before)))).1 by rw [heq]] at hc
      have hc := mem_candidates_checkNumaCapacity mgr request _ hc
      have hc := mem_candidates_filterByNumaIds _ hc
      have hc := mem_candidates_filterBySocketId _ hc
      obtain ⟨-, node, rfl, hp⟩ := mem_candidates_filter hc
      simpa using hp

end Passed

end Scheduler

end UbsEngine
