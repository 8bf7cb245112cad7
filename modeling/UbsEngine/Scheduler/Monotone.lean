import UbsEngine.Scheduler.Registered
import UbsEngine.Scheduler.FilterSpec

/-!
# The filters for a smaller request

A request that finds no socket is run through the filters once more for one block, and what
that run leaves decides what the requester is told. This rests on the filters being
monotone: what is left for a size should be left for a smaller one.

A filter keeps a socket, with its numas, by what it knows of the node and of the socket;
it does not depend on the other candidates. So a socket is followed through the two runs side
by side (`UbsEngine.Scheduler.Carried`): every filter that keeps it for the size keeps it for
the smaller one, `LendCountFilter` apart, which counts the blocks of the request in 32 bits.
That filter decides it (`UbsEngine.Scheduler.keepsForSmaller_iff`).
-/

namespace UbsEngine

namespace Scheduler

/-- The request for another size. -/
def SchedulerRequest.ofSize (request : SchedulerRequest) (size : Nat) : SchedulerRequest :=
  { request with requestSize := size }

/-- All nodes are registered. -/
def Known (mgr : SchedulerNodeManager) (nodes : List NodeInfo) : Prop :=
  ∀ nodeId ∈ ids nodes, (mgr.getNodeInfo nodeId).isSome

/-! ### A socket in two lists of candidates -/

/-- A list of candidates offers a socket of a node, with the numas that are left of it. -/
def Offers (nodes : List NodeInfo) (n : NodeId) (info : SocketInfo) : Prop :=
  ∃ node ∈ nodes, node.nodeId = n ∧ info ∈ node.socketInfos

/-- **A socket is carried over**: what one list offers of it, the other offers too. -/
def Carried (c : NodeId × SocketId) (nodes nodes' : List NodeInfo) : Prop :=
  ∀ info : SocketInfo, info.socketId = c.2 → Offers nodes c.1 info → Offers nodes' c.1 info

theorem mem_candidates_iff_offers {nodes : List NodeInfo} {c : NodeId × SocketId} :
    c ∈ candidates nodes ↔ ∃ info : SocketInfo, info.socketId = c.2 ∧ Offers nodes c.1 info := by
  rw [show c = (c.1, c.2) from rfl, mem_candidates]
  constructor
  · rintro ⟨node, hnode, hn, info, hinfo, hs⟩
    exact ⟨info, hs, node, hnode, hn, hinfo⟩
  · rintro ⟨info, hs, node, hnode, hn, hinfo⟩
    exact ⟨node, hnode, hn, info, hinfo, hs⟩

namespace Carried

variable {c : NodeId × SocketId} {nodes nodes' : List NodeInfo}

theorem refl (c : NodeId × SocketId) (nodes : List NodeInfo) : Carried c nodes nodes :=
  fun _ _ h => h

theorem mem_candidates (h : Carried c nodes nodes') (hc : c ∈ candidates nodes) :
    c ∈ candidates nodes' := by
  obtain ⟨info, hs, hoffers⟩ := mem_candidates_iff_offers.1 hc
  exact mem_candidates_iff_offers.2 ⟨info, hs, h info hs hoffers⟩

/-- Nodes are dropped by their id alone. -/
theorem keepNodes (h : Carried c nodes nodes') {p : NodeInfo → Bool}
    (hp : ∀ node node' : NodeInfo, node.nodeId = node'.nodeId → p node = p node') :
    Carried c (keepNodes p nodes) (Scheduler.keepNodes p nodes') := by
  rintro info hs ⟨node, hnode, hn, hinfo⟩
  obtain ⟨hmem, hq⟩ := List.mem_filter.1 hnode
  obtain ⟨node', hnode', hn', hinfo'⟩ := h info hs ⟨node, hmem, hn, hinfo⟩
  refine ⟨node', List.mem_filter.2 ⟨hnode', ?_⟩, hn', hinfo'⟩
  rwa [hp node' node (hn'.trans hn.symm)]

theorem removeEmptyNodes (h : Carried c nodes nodes') :
    Carried c (removeEmptyNodes nodes) (Scheduler.removeEmptyNodes nodes') := by
  rintro info hs ⟨node, hnode, hn, hinfo⟩
  obtain ⟨node', hnode', hn', hinfo'⟩ := h info hs ⟨node, (List.mem_filter.1 hnode).1, hn, hinfo⟩
  refine ⟨node', List.mem_filter.2 ⟨hnode', ?_⟩, hn', hinfo'⟩
  exact decide_eq_true (List.ne_nil_of_mem hinfo')

/-- Each node keeps its id, and what the first change leaves of the socket comes from what the
second change leaves the same of. -/
theorem map (h : Carried c nodes nodes') {f g : NodeInfo → NodeInfo}
    (hf : ∀ node, (f node).nodeId = node.nodeId) (hg : ∀ node, (g node).nodeId = node.nodeId)
    (hinfos : ∀ node : NodeInfo, node.nodeId = c.1 →
      ∀ info ∈ (f node).socketInfos, info.socketId = c.2 →
        ∃ info₀ ∈ node.socketInfos, info₀.socketId = c.2 ∧
          ∀ node' : NodeInfo, node'.nodeId = c.1 → info₀ ∈ node'.socketInfos →
            info ∈ (g node').socketInfos) :
    Carried c (nodes.map f) (nodes'.map g) := by
  rintro info hs ⟨_, hnode, hn, hinfo⟩
  obtain ⟨node, hmem, rfl⟩ := List.mem_map.1 hnode
  rw [hf] at hn
  obtain ⟨info₀, hinfo₀, hs₀, hleft⟩ := hinfos node hn info hinfo hs
  obtain ⟨node', hnode', hn', hinfo'⟩ := h info₀ hs₀ ⟨node, hmem, hn, hinfo₀⟩
  exact ⟨g node', List.mem_map_of_mem hnode', (hg node').trans hn', hleft node' hn' hinfo'⟩

/-- Sockets are dropped by what is known of the node and of the socket. -/
theorem keepSockets (h : Carried c nodes nodes') {p q : NodeInfo → SocketInfo → Bool}
    (hpq : ∀ node node' : NodeInfo, node.nodeId = c.1 → node'.nodeId = c.1 →
      ∀ info : SocketInfo, info.socketId = c.2 → p node info = true → q node' info = true) :
    Carried c (keepSockets p nodes) (Scheduler.keepSockets q nodes') := by
  refine h.map (fun _ => rfl) (fun _ => rfl) fun node hn info hinfo hs => ?_
  obtain ⟨hmem, hp⟩ := List.mem_filter.1 hinfo
  exact ⟨info, hmem, hs, fun node' hn' hmem' =>
    List.mem_filter.2 ⟨hmem', hpq node node' hn hn' info hs hp⟩⟩

/-- A change of the first node, where there is no other. -/
theorem modifyHead (h : Carried c nodes nodes') (hl : nodes.length ≤ 1) (hl' : nodes'.length ≤ 1)
    {f : NodeInfo → NodeInfo} (hf : ∀ node, (f node).nodeId = node.nodeId)
    (hinfos : ∀ node : NodeInfo, node.nodeId = c.1 →
      ∀ info ∈ (f node).socketInfos, info.socketId = c.2 →
        ∃ info₀ ∈ node.socketInfos, info₀.socketId = c.2 ∧
          ∀ node' : NodeInfo, node'.nodeId = c.1 → info₀ ∈ node'.socketInfos →
            info ∈ (f node').socketInfos) :
    Carried c (nodes.modifyHead f) (nodes'.modifyHead f) := by
  have hmap : ∀ {l : List NodeInfo}, l.length ≤ 1 → l.modifyHead f = l.map f := by
    rintro (_ | ⟨node, _ | ⟨node', l⟩⟩) hl
    · rfl
    · rfl
    · simp only [List.length_cons] at hl
      omega
  rw [hmap hl, hmap hl']
  exact h.map hf hf hinfos

end Carried

/-! ### Ids only go away -/

section Ids

variable (mgr : SchedulerNodeManager) (accounts : SchedulerAccountManager)
variable (request : SchedulerRequest) (nodes : List NodeInfo)

theorem ids_keepNodes (p : NodeInfo → Bool) : (ids (keepNodes p nodes)).Sublist (ids nodes) :=
  List.filter_sublist.map _

theorem ids_removeEmptyNodes : (ids (removeEmptyNodes nodes)).Sublist (ids nodes) :=
  List.filter_sublist.map _

theorem ids_map {f : NodeInfo → NodeInfo} (hf : ∀ node, (f node).nodeId = node.nodeId) :
    ids (nodes.map f) = ids nodes := by
  rw [ids, List.map_map]
  exact List.map_congr_left fun node _ => hf node

theorem ids_keepSockets (p : NodeInfo → SocketInfo → Bool) :
    ids (keepSockets p nodes) = ids nodes := ids_map nodes fun _ => rfl

theorem ids_removeEmptyNodes_map {f : NodeInfo → NodeInfo}
    (hf : ∀ node, (f node).nodeId = node.nodeId) :
    (ids (removeEmptyNodes (nodes.map f))).Sublist (ids nodes) :=
  ids_map nodes hf ▸ ids_removeEmptyNodes _

theorem ids_filterBySocketId (socketId : SocketId) :
    ids (filterBySocketId socketId nodes) = ids nodes := by
  cases nodes with
  | nil => rfl
  | cons node nodes =>
    rw [filterBySocketId]
    split <;> rfl

theorem ids_filterByNumaIds (sizes : Map NumaId Nat) :
    ids (filterByNumaIds sizes nodes) = ids nodes := by
  cases nodes with
  | nil => rfl
  | cons node nodes =>
    rw [filterByNumaIds]
    split <;> rfl

theorem ids_checkNumaCapacity (sizes : Map NumaId Nat) :
    ids (checkNumaCapacity mgr request sizes nodes).1 = ids nodes := by
  cases nodes with
  | nil => rfl
  | cons node nodes =>
    rw [checkNumaCapacity]
    split
    · rfl
    · split <;> rfl

theorem nodeId_sharedPoolNode (node : NodeInfo) :
    (sharedPoolNode mgr request node).nodeId = node.nodeId :=
  (shrinks_sharedPoolNode mgr request node).1

theorem nodeId_freeMemoryNode (node : NodeInfo) :
    (freeMemoryNode mgr request node).nodeId = node.nodeId :=
  (shrinks_freeMemoryNode mgr request node).1

theorem ids_specifiedLenderFilter :
    (ids (specifiedLenderFilter mgr request nodes).1).Sublist (ids nodes) := by
  rw [specifiedLenderFilter]
  split
  · exact List.Sublist.refl _
  · exact List.Sublist.refl _
  next first lenders _ =>
    split
    swap
    · exact List.nil_sublist _
    have hids := ids_checkNumaCapacity mgr request
      (filterByNumaIds (numaToSize (first :: lenders)) (filterBySocketId (lenderSocket mgr first)
        (keepNodes (fun node => node.nodeId = first.nodeId) nodes))) (numaToSize (first :: lenders))
    rw [ids_filterByNumaIds, ids_filterBySocketId] at hids
    dsimp only
    split
    next heq =>
      rw [heq] at hids
      exact hids ▸ ids_keepNodes nodes _
    next heq =>
      rw [heq] at hids
      refine (ids_removeEmptyNodes _).trans ?_
      rw [ids_keepSockets]
      exact hids ▸ ids_keepNodes nodes _

/-- **A filter adds no node.** -/
theorem ids_applyFilter (name : FilterName) :
    (ids (applyFilter mgr accounts request nodes name).1).Sublist (ids nodes) := by
  cases name with
  | configConsistency =>
    rw [applyFilter, configConsistencyFilter]
    split
    · exact List.Sublist.refl _
    · exact List.Sublist.refl _
    · split <;> exact List.Sublist.refl _
  | roleConflict =>
    rw [applyFilter, roleConflictFilter]
    split
    · exact List.Sublist.refl _
    · split
      · exact List.Sublist.refl _
      · exact ids_keepNodes nodes _
  | lenderRole => exact ids_keepNodes nodes _
  | group => exact ids_keepNodes nodes _
  | provider =>
    rw [applyFilter, providerFilter]
    split
    · exact List.Sublist.refl _
    · exact ids_keepNodes nodes _
  | nodeState => exact ids_keepNodes nodes _
  | region =>
    rw [applyFilter, regionFilter]
    split
    · exact List.Sublist.refl _
    · split
      · exact ids_keepNodes nodes _
      · exact List.Sublist.refl _
  | radiusBorrow =>
    rw [applyFilter, radiusBorrowFilter]
    split
    · exact List.Sublist.refl _
    · exact ids_keepNodes nodes _
  | radiusLender =>
    rw [applyFilter, radiusLenderFilter]
    split
    · exact List.Sublist.refl _
    · exact ids_keepNodes nodes _
  | lendCount => exact ids_removeEmptyNodes_map nodes fun _ => rfl
  | topoReachability =>
    rw [applyFilter, topoReachabilityFilter]
    split
    · exact List.Sublist.refl _
    · exact ids_removeEmptyNodes_map nodes fun _ => rfl
  | maxLentSize => exact ids_removeEmptyNodes_map nodes fun _ => rfl
  | sharedPool => exact ids_removeEmptyNodes_map nodes (nodeId_sharedPoolNode mgr request)
  | freeMemory => exact ids_removeEmptyNodes_map nodes (nodeId_freeMemoryNode mgr request)
  | requestedProviders =>
    rw [applyFilter, requestedProvidersFilter]
    split
    · exact List.Sublist.refl _
    · exact ids_keepNodes nodes _
  | specifiedLender => exact ids_specifiedLenderFilter mgr request nodes
  | specifiedLink =>
    rw [applyFilter, specifiedLinkFilter]
    split
    · exact List.Sublist.refl _
    split
    · exact List.Sublist.refl _
    split
    · exact List.nil_sublist _
    next linkInfo _ _ _ node nodes' heq =>
      have hkeep := ids_keepNodes nodes fun node => node.nodeId = linkInfo.lenderNode
      rw [heq] at hkeep
      exact hkeep
  | socketAffinity =>
    rw [applyFilter, socketAffinityFilter]
    split
    · exact List.Sublist.refl _
    split
    · exact List.Sublist.refl _
    · exact ids_removeEmptyNodes_map nodes fun _ => rfl

end Ids

/-! ### Errors do not depend on the size -/

/-- The filters that look at the size of the request. -/
def sizeFilters : List FilterName := [.lendCount, .maxLentSize, .sharedPool, .freeMemory]

section Errors

variable {mgr : SchedulerNodeManager} {accounts : SchedulerAccountManager}
variable {request : SchedulerRequest} {nodes nodes' : List NodeInfo}

theorem applyFilter_ofSize {name : FilterName} (hname : name ∉ sizeFilters) (size : Nat) :
    applyFilter mgr accounts (request.ofSize size) nodes name =
      applyFilter mgr accounts request nodes name := by
  cases name with
  | lendCount => exact absurd (by decide) hname
  | maxLentSize => exact absurd (by decide) hname
  | sharedPool => exact absurd (by decide) hname
  | freeMemory => exact absurd (by decide) hname
  | _ => rfl

theorem checkNumaCapacity_ok (request : SchedulerRequest) (hknown : Known mgr nodes)
    (sizes : Map NumaId Nat) :
    (checkNumaCapacity mgr request sizes nodes).2 = .ok () := by
  cases nodes with
  | nil => rfl
  | cons node nodes =>
    rw [checkNumaCapacity]
    split
    · rfl
    · split
      next hnone =>
        have hsome := hknown node.nodeId List.mem_cons_self
        rw [hnone] at hsome
        cases hsome
      next => rfl

/-- **A filter that reports no error reports none for another size**, nor for other nodes that
are registered. `ConfigConsistencyFilter` looks at the nodes, and is run on all of them. -/
theorem applyFilter_ok {name : FilterName} (hname : name ≠ .configConsistency)
    (h : (applyFilter mgr accounts request nodes name).2 = .ok ()) (hknown : Known mgr nodes')
    (size : Nat) : (applyFilter mgr accounts (request.ofSize size) nodes' name).2 = .ok () := by
  cases name with
  | configConsistency => exact absurd rfl hname
  | roleConflict =>
    rw [applyFilter, roleConflictFilter] at h ⊢
    dsimp only [SchedulerRequest.ofSize]
    split at h
    · cases h
    next importer himporter =>
      split at h
      · cases h
      next hlent => rw [if_neg hlent]
  | lenderRole => rfl
  | group => rfl
  | provider =>
    rw [applyFilter, providerFilter]
    split <;> rfl
  | nodeState => rfl
  | region =>
    rw [applyFilter, regionFilter] at h ⊢
    dsimp only [SchedulerRequest.ofSize]
    split at h
    · rfl
    · split at h
      next hall => rw [if_pos hall]
      next => cases h
  | radiusBorrow =>
    rw [applyFilter, radiusBorrowFilter]
    split <;> rfl
  | radiusLender =>
    rw [applyFilter, radiusLenderFilter]
    split <;> rfl
  | lendCount => rfl
  | topoReachability =>
    rw [applyFilter, topoReachabilityFilter] at h ⊢
    dsimp only [SchedulerRequest.ofSize]
    split at h
    · cases h
    · rfl
  | maxLentSize => rfl
  | sharedPool => rfl
  | freeMemory => rfl
  | requestedProviders =>
    rw [applyFilter, requestedProvidersFilter]
    split <;> rfl
  | specifiedLender =>
    rw [applyFilter, specifiedLenderFilter] at h ⊢
    dsimp only [SchedulerRequest.ofSize]
    split at h
    · rfl
    · rfl
    next first lenders _ =>
      split at h
      swap
      · cases h
      next hall =>
        rw [if_pos hall]
        have hids : Known mgr (filterByNumaIds (numaToSize (first :: lenders)) (filterBySocketId
            (lenderSocket mgr first) (keepNodes (fun node => node.nodeId = first.nodeId) nodes'))) := by
          rw [Known, ids_filterByNumaIds, ids_filterBySocketId]
          exact fun nodeId hmem => hknown nodeId ((ids_keepNodes nodes' _).subset hmem)
        have hok := checkNumaCapacity_ok request hids (numaToSize (first :: lenders))
        split
        next heq =>
          have hok' := checkNumaCapacity_ok (request.ofSize size) hids
            (numaToSize (first :: lenders))
          cases (congrArg Prod.snd heq).symm.trans hok'
        next => rfl
  | specifiedLink =>
    rw [applyFilter, specifiedLinkFilter] at h ⊢
    dsimp only [SchedulerRequest.ofSize]
    split at h
    · rfl
    next linkInfo _ =>
      split at h
      · cases h
      next hne =>
        rw [if_neg hne]
        split <;> rfl
  | socketAffinity =>
    rw [applyFilter, socketAffinityFilter]
    dsimp only [SchedulerRequest.ofSize]
    split
    · rfl
    · split <;> rfl

end Errors

/-! ### The filters on what is specified -/

section Specified

variable {mgr : SchedulerNodeManager} {request : SchedulerRequest}
variable {c : NodeId × SocketId} {nodes nodes' after after' : List NodeInfo}

/-- Of distinct nodes, one at most has an id. -/
theorem DistinctNodes.length_le_one (h : DistinctNodes nodes) (n : NodeId) :
    (keepNodes (fun node => node.nodeId = n) nodes).length ≤ 1 := by
  have hnodup : (ids (keepNodes (fun node => node.nodeId = n) nodes)).Nodup :=
    h.sublist (ids_keepNodes nodes _)
  rw [← List.length_map (f := fun node : NodeInfo => node.nodeId)]
  refine (List.nodup_iff_count_le_one.1 hnodup n).trans' (le_of_eq ?_)
  refine (List.count_eq_length.2 fun nodeId hid => ?_).symm
  obtain ⟨node, hnode, rfl⟩ := List.mem_map.1 hid
  exact (of_decide_eq_true (List.mem_filter.1 hnode).2).symm

/-- `FilterBySocketId` is a change of the first node. -/
theorem filterBySocketId_eq (socketId : SocketId) :
    filterBySocketId socketId nodes = nodes.modifyHead fun node =>
      if socketId = invalidId then node
      else { node with socketInfos := node.socketInfos.filter (·.socketId = socketId) } := by
  cases nodes with
  | nil => rfl
  | cons node nodes =>
    rw [filterBySocketId, List.modifyHead_cons]
    split <;> rfl

/-- `FilterByNumaIds` is a change of the first node. -/
theorem filterByNumaIds_eq (sizes : Map NumaId Nat) :
    filterByNumaIds sizes nodes = nodes.modifyHead fun node =>
      if sizes.entries = [] then node
      else
        { node with
          socketInfos := node.socketInfos.map fun socketInfo =>
            { socketInfo with numaInfos := socketInfo.numaInfos.filter (· ∈ sizes) } } := by
  cases nodes with
  | nil => rfl
  | cons node nodes =>
    rw [filterByNumaIds, List.modifyHead_cons]
    split <;> rfl

/-- What `CheckNumaCapacity` leaves of a node. -/
def capacityNode (mgr : SchedulerNodeManager) (request : SchedulerRequest) (sizes : Map NumaId Nat)
    (node : NodeInfo) : NodeInfo :=
  if sizes.entries = [] then node
  else
    { node with
      socketInfos := node.socketInfos.map fun socketInfo =>
        { socketInfo with
          numaInfos := socketInfo.numaInfos.filter fun numaId =>
            (mgr.getNodeInfo node.nodeId).any fun info =>
              hasCapacity mgr node.nodeId (capacityBlock info) sizes request.waterLine numaId } }

/-- `CheckNumaCapacity`, where it reports no error, is a change of the first node. -/
theorem checkNumaCapacity_eq {sizes : Map NumaId Nat}
    (h : checkNumaCapacity mgr request sizes nodes = (after, .ok ())) :
    after = nodes.modifyHead (capacityNode mgr request sizes) := by
  cases nodes with
  | nil =>
    cases h
    rfl
  | cons node nodes =>
    rw [checkNumaCapacity] at h
    rw [List.modifyHead_cons, capacityNode]
    split at h
    next hempty =>
      cases h
      rw [if_pos hempty]
    next hsizes =>
      rw [if_neg hsizes]
      split at h
      · cases h
      next info hinfo =>
        cases h
        rw [hinfo]
        rfl

/-- What `SpecifiedLenderFilter` leaves, where it reports no error: of the node that is named,
the socket that is named, with those of its numas that are named and hold what is asked. -/
theorem specifiedLenderFilter_ok {first : UbseMemLenderInfo} {lenders : List UbseMemLenderInfo}
    (hl : request.lenderInfos = some (first :: lenders))
    (h : specifiedLenderFilter mgr request nodes = (after, .ok ())) :
    after = cleanupEmptyNodes ((filterByNumaIds (numaToSize (first :: lenders))
      (filterBySocketId (lenderSocket mgr first)
        (keepNodes (fun node => node.nodeId = first.nodeId) nodes))).modifyHead
          (capacityNode mgr request (numaToSize (first :: lenders)))) := by
  rw [specifiedLenderFilter, hl] at h
  dsimp only at h
  split at h
  swap
  · cases h
  split at h
  · cases h
  next heq =>
    cases h
    rw [← checkNumaCapacity_eq heq]

/-- What `SpecifiedLinkFilter` leaves, where it reports no error: of the node that is named, the
socket that is named. -/
theorem specifiedLinkFilter_ok {linkInfo : UbseMemLenderLinkInfo}
    (hl : request.linkInfo = some linkInfo)
    (h : specifiedLinkFilter request nodes = (after, .ok ())) :
    after = (keepNodes (fun node => node.nodeId = linkInfo.lenderNode) nodes).modifyHead
      fun node => { node with
        socketInfos := node.socketInfos.filter fun socketInfo =>
          socketInfo.socketId = UInt32.ofInt linkInfo.lenderSocketId } := by
  rw [specifiedLinkFilter, hl] at h
  dsimp only at h
  split at h
  · cases h
  split at h
  next heq =>
    cases h
    rw [heq]
    rfl
  next heq =>
    cases h
    rw [heq]
    rfl

namespace Carried

theorem keepNode (h : Carried c nodes nodes') (n : NodeId) :
    Carried c (Scheduler.keepNodes (fun node => node.nodeId = n) nodes)
      (Scheduler.keepNodes (fun node => node.nodeId = n) nodes') :=
  h.keepNodes fun node node' hid => by rw [hid]

theorem filterBySocketId (h : Carried c nodes nodes') (hl : nodes.length ≤ 1)
    (hl' : nodes'.length ≤ 1) (socketId : SocketId) :
    Carried c (Scheduler.filterBySocketId socketId nodes)
      (Scheduler.filterBySocketId socketId nodes') := by
  rw [filterBySocketId_eq, filterBySocketId_eq]
  refine h.modifyHead hl hl' (fun node => by split <;> rfl) fun node hn info hinfo hs => ?_
  split at hinfo
  next hinvalid =>
    refine ⟨info, hinfo, hs, fun node' _ hinfo' => ?_⟩
    rwa [if_pos hinvalid]
  next hvalid =>
    obtain ⟨hmem, hsocket⟩ := List.mem_filter.1 hinfo
    refine ⟨info, hmem, hs, fun node' _ hinfo' => ?_⟩
    rw [if_neg hvalid]
    exact List.mem_filter.2 ⟨hinfo', hsocket⟩

theorem filterByNumaIds (h : Carried c nodes nodes') (hl : nodes.length ≤ 1)
    (hl' : nodes'.length ≤ 1) (sizes : Map NumaId Nat) :
    Carried c (Scheduler.filterByNumaIds sizes nodes)
      (Scheduler.filterByNumaIds sizes nodes') := by
  rw [filterByNumaIds_eq, filterByNumaIds_eq]
  refine h.modifyHead hl hl' (fun node => by split <;> rfl) fun node hn info hinfo hs => ?_
  split at hinfo
  next hempty =>
    refine ⟨info, hinfo, hs, fun node' _ hinfo' => ?_⟩
    rwa [if_pos hempty]
  next hsizes =>
    obtain ⟨info₀, hmem, rfl⟩ := List.mem_map.1 hinfo
    refine ⟨info₀, hmem, hs, fun node' _ hinfo' => ?_⟩
    rw [if_neg hsizes]
    exact List.mem_map_of_mem hinfo'

theorem capacity (mgr : SchedulerNodeManager) (request : SchedulerRequest)
    (h : Carried c nodes nodes') (hl : nodes.length ≤ 1) (hl' : nodes'.length ≤ 1)
    (sizes : Map NumaId Nat) :
    Carried c (nodes.modifyHead (capacityNode mgr request sizes))
      (nodes'.modifyHead (capacityNode mgr request sizes)) := by
  refine h.modifyHead hl hl' (fun node => by rw [capacityNode]; split <;> rfl)
    fun node hn info hinfo hs => ?_
  rw [capacityNode] at hinfo
  split at hinfo
  next hempty =>
    refine ⟨info, hinfo, hs, fun node' _ hinfo' => ?_⟩
    rwa [capacityNode, if_pos hempty]
  next hsizes =>
    obtain ⟨info₀, hmem, rfl⟩ := List.mem_map.1 hinfo
    refine ⟨info₀, hmem, hs, fun node' hn' hinfo' => ?_⟩
    rw [capacityNode, if_neg hsizes, hn, ← hn']
    exact List.mem_map_of_mem hinfo'

theorem specifiedLender (h : Carried c nodes nodes') (hd : DistinctNodes nodes)
    (hd' : DistinctNodes nodes')
    (hok : specifiedLenderFilter mgr request nodes = (after, .ok ()))
    (hok' : specifiedLenderFilter mgr request nodes' = (after', .ok ())) :
    Carried c after after' := by
  rcases hlenders : request.lenderInfos with _ | _ | ⟨first, lenders⟩
  · rw [specifiedLenderFilter, hlenders] at hok hok'
    cases hok
    cases hok'
    exact h
  · rw [specifiedLenderFilter, hlenders] at hok hok'
    cases hok
    cases hok'
    exact h
  · rw [specifiedLenderFilter_ok hlenders hok, specifiedLenderFilter_ok hlenders hok']
    have hlen : ∀ {l : List NodeInfo}, DistinctNodes l →
        (Scheduler.filterBySocketId (lenderSocket mgr first)
          (Scheduler.keepNodes (fun node => node.nodeId = first.nodeId) l)).length ≤ 1 := by
      intro l hl
      rw [filterBySocketId_eq, List.length_modifyHead]
      exact hl.length_le_one _
    have hlen' : ∀ {l : List NodeInfo}, DistinctNodes l →
        (Scheduler.filterByNumaIds (numaToSize (first :: lenders))
          (Scheduler.filterBySocketId (lenderSocket mgr first)
            (Scheduler.keepNodes (fun node => node.nodeId = first.nodeId) l))).length ≤ 1 := by
      intro l hl
      rw [filterByNumaIds_eq, List.length_modifyHead]
      exact hlen hl
    have hsocket := (h.keepNode first.nodeId).filterBySocketId (hd.length_le_one _)
      (hd'.length_le_one _) (lenderSocket mgr first)
    have hnumas := hsocket.filterByNumaIds (hlen hd) (hlen hd') (numaToSize (first :: lenders))
    have hcapacity := hnumas.capacity mgr request (hlen' hd) (hlen' hd')
      (numaToSize (first :: lenders))
    rw [cleanupEmptyNodes, cleanupEmptyNodes]
    refine Carried.removeEmptyNodes (hcapacity.keepSockets ?_)
    exact fun _ _ _ _ _ _ hnumas => hnumas

theorem specifiedLink (h : Carried c nodes nodes') (hd : DistinctNodes nodes)
    (hd' : DistinctNodes nodes') (hok : specifiedLinkFilter request nodes = (after, .ok ()))
    (hok' : specifiedLinkFilter request nodes' = (after', .ok ())) : Carried c after after' := by
  rcases hlink : request.linkInfo with _ | linkInfo
  · rw [specifiedLinkFilter, hlink] at hok hok'
    cases hok
    cases hok'
    exact h
  · rw [specifiedLinkFilter_ok hlink hok, specifiedLinkFilter_ok hlink hok']
    refine (h.keepNode linkInfo.lenderNode).modifyHead (hd.length_le_one _) (hd'.length_le_one _)
      (fun _ => rfl) fun node hn info hinfo hs => ?_
    obtain ⟨hmem, hsocket⟩ := List.mem_filter.1 hinfo
    exact ⟨info, hmem, hs, fun node' _ hinfo' => List.mem_filter.2 ⟨hinfo', hsocket⟩⟩

end Carried

end Specified

/-! ### The filters on sizes -/

section Sizes

variable (mgr : SchedulerNodeManager) (request : SchedulerRequest)

/-- **The blocks fit**: the blocks of a request, as `LendCountFilter` counts them, fit below the
times a socket may export. -/
def CountFits (c : NodeId × SocketId) : Prop :=
  ∀ info, mgr.getNodeInfo c.1 = some info → ∀ socket, info.getSocketInfo c.2 = some socket →
    socket.lentCount + requiredBlocks request info.blockSize ≤ socket.maxExportTimes.toNat

variable {mgr request} {c : NodeId × SocketId} {nodes nodes' : List NodeInfo} {size : Nat}

namespace Carried

theorem lendCount (h : Carried c nodes nodes') (hfits : CountFits mgr (request.ofSize size) c) :
    Carried c (lendCountFilter mgr request nodes).1
      (lendCountFilter mgr (request.ofSize size) nodes').1 := by
  refine Carried.removeEmptyNodes (h.keepSockets fun node node' hn hn' info hs hp => ?_)
  rw [hn']
  rw [hn] at hp
  split at hp
  · cases hp
  next known hknown =>
    rw [hs] at hp ⊢
    rw [Bool.and_eq_true] at hp ⊢
    obtain ⟨hblock, hp⟩ := hp
    refine ⟨hblock, ?_⟩
    split at hp
    · cases hp
    next socket hsocket =>
      have hle := hfits known hknown socket hsocket
      have hlt := socket.maxExportTimes.toNat_lt
      rw [safeAdd, if_pos (by omega)]
      simpa using hle

theorem maxLentSize (h : Carried c nodes nodes') (hsize : size ≤ request.requestSize) :
    Carried c (maxLentSizeFilter mgr request nodes).1
      (maxLentSizeFilter mgr (request.ofSize size) nodes').1 := by
  refine Carried.removeEmptyNodes (h.keepSockets fun node node' hn hn' info hs hp => ?_)
  rw [hn']
  rw [hn] at hp
  split at hp
  · cases hp
  next known hknown =>
    split at hp
    · cases hp
    next socket hsocket =>
      dsimp only [SchedulerRequest.ofSize]
      rw [safeAdd] at hp ⊢
      split at hp
      next hlt =>
        rw [if_pos (by omega)]
        simp only [Option.any_some, Bool.or_eq_true, decide_eq_true_eq] at hp ⊢
        exact hp.imp_right fun hp => (Nat.add_le_add_right hsize _).trans hp
      next => cases hp

theorem sharedPool (h : Carried c nodes nodes') (hsize : size ≤ request.requestSize) :
    Carried c (sharedPoolFilter mgr request nodes).1
      (sharedPoolFilter mgr (request.ofSize size) nodes').1 := by
  refine Carried.removeEmptyNodes (h.map (nodeId_sharedPoolNode mgr request)
    (nodeId_sharedPoolNode mgr _) fun node hn info hinfo hs => ?_)
  rw [sharedPoolNode] at hinfo
  split at hinfo
  next hnone =>
    refine ⟨info, hinfo, hs, fun node' hn' hinfo' => ?_⟩
    rw [hn, ← hn'] at hnone
    rwa [sharedPoolNode, hnone]
  next known hknown =>
    split at hinfo
    next hpool =>
      refine ⟨info, hinfo, hs, fun node' hn' hinfo' => ?_⟩
      rw [hn, ← hn'] at hknown
      rw [sharedPoolNode, hknown]
      dsimp only [SchedulerRequest.ofSize]
      refine (if_pos (hpool.imp_right fun hfits => ?_)).symm ▸ hinfo'
      rw [safeAdd] at hfits ⊢
      split at hfits
      next hlt =>
        rw [if_pos (by omega)]
        simp only [Option.any_some, decide_eq_true_eq] at hfits ⊢
        omega
      next => cases hfits
    next => cases hinfo

theorem freeMemory (h : Carried c nodes nodes') (hpos : 0 < size)
    (hsize : size ≤ request.requestSize) :
    Carried c (freeMemoryFilter mgr request nodes).1
      (freeMemoryFilter mgr (request.ofSize size) nodes').1 := by
  refine Carried.removeEmptyNodes (h.map (nodeId_freeMemoryNode mgr request)
    (nodeId_freeMemoryNode mgr _) fun node hn info hinfo hs => ?_)
  rw [freeMemoryNode, if_neg (by omega)] at hinfo
  split at hinfo
  · cases hinfo
  next known hknown =>
    refine ⟨info, mem_freeMemorySockets request hinfo, hs, fun node' hn' hinfo' => ?_⟩
    rw [hn, ← hn'] at hknown
    rw [freeMemoryNode, if_neg (show (request.ofSize size).requestSize ≠ 0 from hpos.ne'), hknown]
    dsimp only
    rw [freeMemorySockets, sizeMb2Byte_toNat, Option.elim_some] at hinfo ⊢
    split at hinfo
    · cases hinfo
    next hblock =>
      rw [if_neg hblock]
      obtain ⟨-, hroom⟩ := List.mem_filter.1 hinfo
      refine List.mem_filter.2 ⟨hinfo', ?_⟩
      simp only [Bool.and_eq_true, decide_eq_true_eq] at hroom ⊢
      exact ⟨hroom.1, hsize.trans hroom.2⟩

/-- A filter that does not look at the size carries every socket over. -/
theorem applyFilter_same {accounts : SchedulerAccountManager} {after after' : List NodeInfo}
    {name : FilterName} (h : Carried c nodes nodes') (hname : name ≠ .configConsistency)
    (hsizes : name ∉ sizeFilters) (hd : DistinctNodes nodes) (hd' : DistinctNodes nodes')
    (hok : applyFilter mgr accounts request nodes name = (after, .ok ()))
    (hok' : applyFilter mgr accounts request nodes' name = (after', .ok ())) :
    Carried c after after' := by
  cases name with
  | configConsistency => exact absurd rfl hname
  | lendCount => exact absurd (by decide) hsizes
  | maxLentSize => exact absurd (by decide) hsizes
  | sharedPool => exact absurd (by decide) hsizes
  | freeMemory => exact absurd (by decide) hsizes
  | roleConflict =>
    rw [Scheduler.applyFilter, roleConflictFilter] at hok hok'
    split at hok
    · cases hok
    next importer himporter =>
      split at hok
      · cases hok
      next hlent =>
        rw [himporter] at hok'
        dsimp only at hok'
        rw [if_neg hlent] at hok'
        cases hok
        cases hok'
        exact h.keepNodes fun node node' hid => by simp only [hid]
  | lenderRole =>
    cases hok
    cases hok'
    exact h.keepNodes fun node node' hid => by rw [hid]
  | group =>
    cases hok
    cases hok'
    exact h.keepNodes fun node node' hid => by simp only [hid]
  | provider =>
    rw [Scheduler.applyFilter, providerFilter] at hok hok'
    split at hok
    next hnone =>
      rw [if_pos hnone] at hok'
      cases hok
      cases hok'
      exact h
    next hsome =>
      rw [if_neg hsome] at hok'
      cases hok
      cases hok'
      exact h.keepNodes fun node node' hid => by rw [hid]
  | nodeState =>
    cases hok
    cases hok'
    exact h.keepNodes fun node node' hid => by rw [hid]
  | region =>
    rw [Scheduler.applyFilter, regionFilter] at hok hok'
    split at hok
    next hnone =>
      rw [hnone] at hok'
      cases hok
      cases hok'
      exact h
    next region hregion =>
      rw [hregion] at hok'
      dsimp only at hok'
      split at hok
      next hall =>
        rw [if_pos hall] at hok'
        cases hok
        cases hok'
        exact h.keepNodes fun node node' hid => by rw [hid]
      next => cases hok
  | radiusBorrow =>
    rw [Scheduler.applyFilter, radiusBorrowFilter] at hok hok'
    split at hok
    next hfree =>
      rw [if_pos hfree] at hok'
      cases hok
      cases hok'
      exact h
    next hbound =>
      rw [if_neg hbound] at hok'
      cases hok
      cases hok'
      exact h.keepNodes fun node node' hid => by simp only [hid]
  | radiusLender =>
    rw [Scheduler.applyFilter, radiusLenderFilter] at hok hok'
    split at hok
    next hfree =>
      rw [if_pos hfree] at hok'
      cases hok
      cases hok'
      exact h
    next hbound =>
      rw [if_neg hbound] at hok'
      cases hok
      cases hok'
      exact h.keepNodes fun node node' hid => by simp only [hid]
  | topoReachability =>
    rw [Scheduler.applyFilter, topoReachabilityFilter] at hok hok'
    split at hok
    · cases hok
    next requester hrequester =>
      rw [hrequester] at hok'
      cases hok
      cases hok'
      refine Carried.removeEmptyNodes (h.keepSockets fun node node' hn hn' info hs hp => ?_)
      rwa [hn', ← hn]
  | requestedProviders =>
    rw [Scheduler.applyFilter, requestedProvidersFilter] at hok hok'
    split at hok
    next hnone =>
      rw [if_pos hnone] at hok'
      cases hok
      cases hok'
      exact h
    next hsome =>
      rw [if_neg hsome] at hok'
      cases hok
      cases hok'
      exact h.keepNodes fun node node' hid => by rw [hid]
  | specifiedLender => exact h.specifiedLender hd hd' hok hok'
  | specifiedLink => exact h.specifiedLink hd hd' hok hok'
  | socketAffinity =>
    rw [Scheduler.applyFilter, socketAffinityFilter] at hok hok'
    split at hok
    next hnone =>
      rw [hnone] at hok'
      cases hok
      cases hok'
      exact h
    next affinity haffinity =>
      rw [haffinity] at hok'
      dsimp only at hok'
      split at hok
      next hany =>
        rw [if_pos hany] at hok'
        cases hok
        cases hok'
        exact h
      next hsocket =>
        rw [if_neg hsocket] at hok'
        cases hok
        cases hok'
        refine Carried.removeEmptyNodes (h.keepSockets fun node node' hn hn' info hs hp => ?_)
        rwa [hn', ← hn]

/-- **A filter carries a socket over to a smaller size**, and `LendCountFilter` does so when the
blocks of that size fit. `ConfigConsistencyFilter` looks at the nodes, and drops none. -/
theorem applyFilter {accounts : SchedulerAccountManager} {after after' : List NodeInfo}
    {name : FilterName} (h : Carried c nodes nodes') (hname : name ≠ .configConsistency)
    (hd : DistinctNodes nodes) (hd' : DistinctNodes nodes') (hpos : 0 < size)
    (hsize : size ≤ request.requestSize)
    (hfits : name = .lendCount → CountFits mgr (request.ofSize size) c)
    (hok : applyFilter mgr accounts request nodes name = (after, .ok ()))
    (hok' : Scheduler.applyFilter mgr accounts (request.ofSize size) nodes' name =
      (after', .ok ())) :
    Carried c after after' := by
  by_cases hsizes : name ∈ sizeFilters
  · simp only [sizeFilters, List.mem_cons, List.not_mem_nil, or_false] at hsizes
    rcases hsizes with rfl | rfl | rfl | rfl
    · cases hok
      cases hok'
      exact h.lendCount (hfits rfl)
    · cases hok
      cases hok'
      exact h.maxLentSize hsize
    · cases hok
      cases hok'
      exact h.sharedPool hsize
    · cases hok
      cases hok'
      exact h.freeMemory hpos hsize
  · rw [applyFilter_ofSize hsizes] at hok'
    exact h.applyFilter_same hname hsizes hd hd' hok hok'

end Carried

end Sizes

/-! ### The chain -/

section Chain

variable {mgr : SchedulerNodeManager} {accounts : SchedulerAccountManager}
variable {request : SchedulerRequest} {nodes nodes' kept : List NodeInfo} {names : List FilterName}

theorem filterByNames_cons {name : FilterName} (h : filterByNames mgr accounts request (name :: names)
    nodes = (kept, .ok ())) :
    ∃ after, applyFilter mgr accounts request nodes name = (after, .ok ()) ∧
      filterByNames mgr accounts request names after = (kept, .ok ()) := by
  rw [filterByNames] at h
  split at h
  · cases h
  next after heq => exact ⟨after, heq, h⟩

/-- **The chain for another size** runs through as well, and each socket it keeps is kept for a
smaller size whose blocks fit. -/
theorem filterByNames_ofSize (hnames : .configConsistency ∉ names) (hd : DistinctNodes nodes)
    (hd' : DistinctNodes nodes') (hknown : Known mgr nodes')
    (h : filterByNames mgr accounts request names nodes = (kept, .ok ())) (size : Nat) :
    ∃ kept', filterByNames mgr accounts (request.ofSize size) names nodes' = (kept', .ok ()) ∧
      ∀ c, Carried c nodes nodes' → 0 < size → size ≤ request.requestSize →
        CountFits mgr (request.ofSize size) c → Carried c kept kept' := by
  induction names generalizing nodes nodes' with
  | nil =>
    cases h
    exact ⟨nodes', rfl, fun c hc _ _ _ => hc⟩
  | cons name names ih =>
    rw [List.mem_cons, not_or] at hnames
    obtain ⟨hname, hnames⟩ := hnames
    obtain ⟨after, hafter, hrest⟩ := filterByNames_cons h
    -- The first filter reports no error for the other size either.
    have hok := applyFilter_ok (Ne.symm hname) (congrArg Prod.snd hafter) hknown size
    obtain ⟨after', hafter'⟩ : ∃ after', applyFilter mgr accounts (request.ofSize size) nodes' name =
        (after', .ok ()) := ⟨_, Prod.ext rfl hok⟩
    have hids : (ids after).Sublist (ids nodes) := by
      have := ids_applyFilter mgr accounts request nodes name
      rwa [hafter] at this
    have hids' : (ids after').Sublist (ids nodes') := by
      have := ids_applyFilter mgr accounts (request.ofSize size) nodes' name
      rwa [hafter'] at this
    obtain ⟨kept', hkept', hcarried⟩ := ih hnames (hd.sublist hids) (hd'.sublist hids')
      (fun nodeId hmem => hknown nodeId (hids'.subset hmem)) hrest
    refine ⟨kept', ?_, fun c hc hpos hsize hfits => ?_⟩
    · rw [filterByNames, hafter']
      exact hkept'
    · exact hcarried c (hc.applyFilter (Ne.symm hname) hd hd' hpos hsize (fun _ => hfits) hafter
        hafter') hpos hsize hfits

/-- A configuration that can be read of all nodes is one of registered nodes. -/
theorem known_of_lenderConfig {first config : Option (UbseAllocator × UInt32)}
    (h : lenderConfig mgr first nodes = .ok config) : Known mgr nodes := by
  induction nodes generalizing first with
  | nil => exact fun nodeId hmem => absurd hmem List.not_mem_nil
  | cons node nodes ih =>
    have hcons : (mgr.getNodeInfo node.nodeId).isSome → Known mgr nodes → Known mgr (node :: nodes) := by
      intro hsome hknown nodeId hmem
      rcases List.mem_cons.1 hmem with rfl | hmem
      · exact hsome
      · exact hknown nodeId hmem
    rw [lenderConfig] at h
    split at h
    · cases h
    next info hinfo =>
      refine hcons (Option.isSome_iff_exists.2 ⟨info, hinfo⟩) ?_
      split at h
      · exact ih h
      · split at h
        · exact ih h
        · split at h
          · cases h
          · exact ih h

theorem configConsistency_ok {after : List NodeInfo}
    (h : configConsistencyFilter mgr nodes = (after, .ok ())) : after = nodes ∧ Known mgr nodes := by
  rw [configConsistencyFilter] at h
  split at h
  · cases h
  next hconfig =>
    cases h
    exact ⟨rfl, known_of_lenderConfig hconfig⟩
  next hconfig =>
    split at h
    · cases h
    · cases h
      exact ⟨rfl, known_of_lenderConfig hconfig⟩

end Chain

/-! ### What is kept for a size and for a smaller one -/

section Keeps

variable (s : SchedulerImpl) (request : SchedulerRequest)

/-- **The chain keeps a socket of a node.** -/
def KeepsSocket (c : NodeId × SocketId) : Prop :=
  ∃ kept, filterNodes s.nodeInfo s.account request s.nodeInfo.getAllNodes = (kept, .ok ()) ∧
    c ∈ candidates kept

/-- A smaller size a request may have: whole blocks of the node that borrows. -/
def LegalSize (size : Nat) : Prop :=
  0 < size ∧ size ≤ request.requestSize ∧ probeSize s.nodeInfo request ∣ size

/-- **The chain is monotone** for a request: what it keeps it keeps for every smaller legal
size. -/
def KeepsForSmaller : Prop :=
  ∀ c, KeepsSocket s request c → ∀ size, LegalSize s request size →
    KeepsSocket s (request.ofSize size) c

variable {s request} {names : List FilterName}

/-- The chain runs through for another size, when it does for the size of the request. -/
theorem filterNodes_ofSize (hs : DistinctNodes s.nodeInfo.nodeInfos)
    (hfilters : request.filterNames = .configConsistency :: names)
    (hnames : .configConsistency ∉ names) {kept : List NodeInfo}
    (h : filterNodes s.nodeInfo s.account request s.nodeInfo.getAllNodes = (kept, .ok ()))
    (size : Nat) :
    ∃ kept', filterNodes s.nodeInfo s.account (request.ofSize size) s.nodeInfo.getAllNodes =
        (kept', .ok ()) ∧
      ∀ c, 0 < size → size ≤ request.requestSize → CountFits s.nodeInfo (request.ofSize size) c →
        Carried c kept kept' := by
  rw [filterNodes, hfilters] at h
  obtain ⟨after, hconfig, hrest⟩ := filterByNames_cons h
  obtain ⟨rfl, hknown⟩ := configConsistency_ok hconfig
  obtain ⟨kept', hkept', hcarried⟩ := filterByNames_ofSize hnames hs hs hknown hrest size
  refine ⟨kept', ?_, fun c => hcarried c (.refl c _)⟩
  rw [filterNodes, show (request.ofSize size).filterNames = request.filterNames from rfl, hfilters,
    filterByNames, show applyFilter s.nodeInfo s.account (request.ofSize size)
      s.nodeInfo.getAllNodes .configConsistency = (s.nodeInfo.getAllNodes, .ok ()) from hconfig]
  exact hkept'

/-- **The chain is monotone exactly when `LendCountFilter` is**: for every socket it keeps, the
blocks of every smaller legal size fit. -/
theorem keepsForSmaller_iff (hs : DistinctNodes s.nodeInfo.nodeInfos)
    (hfilters : request.filterNames = .configConsistency :: names)
    (hnames : .configConsistency ∉ names) (hcount : .lendCount ∈ names) :
    KeepsForSmaller s request ↔ ∀ c, KeepsSocket s request c → ∀ size, LegalSize s request size →
      CountFits s.nodeInfo (request.ofSize size) c := by
  constructor
  · rintro h c hc size hsize info hinfo socket hsocket
    obtain ⟨kept', hkept', hmem⟩ := h c hc size hsize
    rw [filterNodes, show (request.ofSize size).filterNames = request.filterNames from rfl,
      hfilters] at hkept'
    obtain ⟨before, after, happly, hafter⟩ :=
      filterByNames_ok hkept' (List.mem_cons_of_mem _ hcount)
    obtain ⟨info', socket', hinfo', hsocket', hle⟩ := lendCount_passed happly (hafter c hmem)
    obtain rfl : info = info' := Option.some.inj (hinfo.symm.trans hinfo')
    obtain rfl : socket = socket' := Option.some.inj (hsocket.symm.trans hsocket')
    exact hle
  · rintro h c hc size hsize
    obtain ⟨kept, hkept, hmem⟩ := hc
    obtain ⟨kept', hkept', hcarried⟩ := filterNodes_ofSize hs hfilters hnames hkept size
    have hfits := h c ⟨kept, hkept, hmem⟩ size hsize
    exact ⟨kept', hkept', (hcarried c hsize.1 hsize.2.1 hfits).mem_candidates hmem⟩

/-- Below `2 ^ 32` blocks the blocks of a smaller size are fewer. -/
theorem requiredBlocks_ofSize_le {size : Nat} (hsize : size ≤ request.requestSize)
    {blockSize : UInt32} (h : request.requestSize / oneM / blockSize.toNat < 2 ^ 32) :
    requiredBlocks (request.ofSize size) blockSize ≤ requiredBlocks request blockSize := by
  have hle : size / oneM / blockSize.toNat ≤ request.requestSize / oneM / blockSize.toNat :=
    Nat.div_le_div_right (Nat.div_le_div_right hsize)
  rw [requiredBlocks, requiredBlocks, Nat.mod_eq_of_lt h]
  exact (Nat.mod_le _ _).trans hle

/-- **Below `2 ^ 32` blocks the chain is monotone.** -/
theorem keepsForSmaller_of_lt (hs : DistinctNodes s.nodeInfo.nodeInfos)
    (hfilters : request.filterNames = .configConsistency :: names)
    (hnames : .configConsistency ∉ names) (hcount : .lendCount ∈ names)
    (h : ∀ nodeId info, s.nodeInfo.getNodeInfo nodeId = some info →
      request.requestSize / oneM / info.blockSize.toNat < 2 ^ 32) :
    KeepsForSmaller s request := by
  refine (keepsForSmaller_iff hs hfilters hnames hcount).2 ?_
  rintro c ⟨kept, hkept, hmem⟩ size hsize info hinfo socket hsocket
  rw [filterNodes, hfilters] at hkept
  obtain ⟨before, after, happly, hafter⟩ := filterByNames_ok hkept (List.mem_cons_of_mem _ hcount)
  obtain ⟨info', socket', hinfo', hsocket', hle⟩ := lendCount_passed happly (hafter c hmem)
  obtain rfl : info = info' := Option.some.inj (hinfo.symm.trans hinfo')
  obtain rfl : socket = socket' := Option.some.inj (hsocket.symm.trans hsocket')
  have hblocks := requiredBlocks_ofSize_le hsize.2.1 (h c.1 info hinfo)
  omega

end Keeps

end Scheduler

end UbsEngine
