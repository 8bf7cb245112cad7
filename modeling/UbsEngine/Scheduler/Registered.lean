import UbsEngine.Scheduler.Conservation

/-!
# What books and reads leave alone

A report of a node fills the tables of the scheduler: the table of nodes, the list the filters
start from, the chips, the lists of providers and of groups. Everything else the scheduler
does – reading sizes and links, charging accounts – changes counters, sizes and ports of
nodes, and leaves alone which nodes there are, with which sockets and numas, and all of the
other tables (`UbsEngine.Scheduler.SchedulerNodeManager.SameLayout`).

So in every state of the scheduler each node is in the list of nodes once
(`UbsEngine.Scheduler.distinctNodes_of_reachable`).
-/

namespace UbsEngine

namespace Scheduler

/-! ### The sockets and numas of a node -/

namespace SchedulerNodeInfo

variable (node : SchedulerNodeInfo)

theorem map_fst_getAllSocketInfo_modifySocket (g : SchedulerSocketInfo → SchedulerSocketInfo)
    (s : SocketId) :
    (node.modifySocket s g).getAllSocketInfo.map (·.1) = node.getAllSocketInfo.map (·.1) := by
  have hsort : ∀ l : List (SocketId × SchedulerSocketInfo),
      (l.insertionSort fun a b => a.1 ≤ b.1).map (·.1) = (l.map (·.1)).insertionSort (· ≤ ·) :=
    fun l => List.map_insertionSort (r := fun a b : SocketId × SchedulerSocketInfo => a.1 ≤ b.1)
      (s := fun a b : SocketId => a ≤ b) (·.1) l fun _ _ _ _ => Iff.rfl
  rw [getAllSocketInfo, getAllSocketInfo, hsort, hsort]
  congr 1
  simp only [modifySocket, Map.modify, Map.mapValues, List.map_map, Function.comp_def]

theorem getNodeInfo_congr {node' : SchedulerNodeInfo} (hid : node'.nodeId = node.nodeId)
    (hsockets : node'.getAllSocketInfo.map (·.1) = node.getAllSocketInfo.map (·.1))
    (hnumas : ∀ s, (node'.getAllNumaInfos s).map (·.1) = (node.getAllNumaInfos s).map (·.1)) :
    node'.getNodeInfo = node.getNodeInfo := by
  have hmap : ∀ n : SchedulerNodeInfo, n.getNodeInfo =
      ⟨n.nodeId, (n.getAllSocketInfo.map (·.1)).map fun s =>
        ⟨s, (n.getAllNumaInfos s).map (·.1)⟩⟩ := by
    intro n
    rw [getNodeInfo, List.map_map]
    rfl
  rw [hmap, hmap, hid, hsockets]
  simp only [hnumas]

/-- A change of a socket leaves the sockets and numas that the filters start from. -/
theorem getNodeInfo_modifySocket (g : SchedulerSocketInfo → SchedulerSocketInfo) (s : SocketId) :
    (node.modifySocket s g).getNodeInfo = node.getNodeInfo :=
  node.getNodeInfo_congr rfl (node.map_fst_getAllSocketInfo_modifySocket g s) fun _ => rfl

/-- So does a change of a numa that leaves it in its socket. -/
theorem getNodeInfo_modifyNuma {f : SchedulerNumaInfo → SchedulerNumaInfo}
    (hf : ∀ numa, (f numa).socketId = numa.socketId) (k : NumaId) :
    (node.modifyNuma k f).getNodeInfo = node.getNodeInfo := by
  refine node.getNodeInfo_congr rfl rfl fun s => ?_
  rw [getAllNumaInfos_modifyNuma node hf, List.map_map]
  rfl

end SchedulerNodeInfo

/-! ### The same layout -/

namespace SchedulerNodeManager

/-- The sockets and numas of a node that is in the table. -/
def layout (mgr : SchedulerNodeManager) (nodeId : NodeId) : Option NodeInfo :=
  (mgr.getNodeInfo nodeId).map (·.getNodeInfo)

/-- **Nothing but counters, sizes and ports has changed.** -/
structure SameLayout (mgr mgr' : SchedulerNodeManager) : Prop where
  conf : mgr'.conf = mgr.conf
  nodeInfos : mgr'.nodeInfos = mgr.nodeInfos
  providerNodes : mgr'.providerNodes = mgr.providerNodes
  groupNodes : mgr'.groupNodes = mgr.groupNodes
  chipToSocket : mgr'.chipToSocket = mgr.chipToSocket
  socketToChip : mgr'.socketToChip = mgr.socketToChip
  layout : ∀ nodeId, mgr'.layout nodeId = mgr.layout nodeId

namespace SameLayout

theorem refl (mgr : SchedulerNodeManager) : SameLayout mgr mgr :=
  ⟨rfl, rfl, rfl, rfl, rfl, rfl, fun _ => rfl⟩

theorem trans {mgr mgr' mgr'' : SchedulerNodeManager} (h : SameLayout mgr mgr')
    (h' : SameLayout mgr' mgr'') : SameLayout mgr mgr'' :=
  ⟨h'.conf.trans h.conf, h'.nodeInfos.trans h.nodeInfos, h'.providerNodes.trans h.providerNodes,
    h'.groupNodes.trans h.groupNodes, h'.chipToSocket.trans h.chipToSocket,
    h'.socketToChip.trans h.socketToChip,
    fun nodeId => (h'.layout nodeId).trans (h.layout nodeId)⟩

theorem foldl {α : Type*} {f : SchedulerNodeManager → α → SchedulerNodeManager}
    (hf : ∀ mgr a, SameLayout mgr (f mgr a)) (mgr : SchedulerNodeManager) (l : List α) :
    SameLayout mgr (l.foldl f mgr) := by
  induction l generalizing mgr with
  | nil => exact refl mgr
  | cons a l ih => exact (hf mgr a).trans (ih (f mgr a))

/-- A change of one node that leaves its sockets and numas. -/
theorem modify (mgr : SchedulerNodeManager) (nodeId : NodeId)
    {f : SchedulerNodeInfo → SchedulerNodeInfo} (hf : ∀ node, (f node).getNodeInfo = node.getNodeInfo) :
    SameLayout mgr { mgr with nodeMap := mgr.nodeMap.modify nodeId f } := by
  refine ⟨rfl, rfl, rfl, rfl, rfl, rfl, fun nodeId' => ?_⟩
  rw [SchedulerNodeManager.layout, SchedulerNodeManager.layout, getNodeInfo, Map.lookup_modify]
  split
  · rw [Option.map_map]
    refine congrArg (Option.map · _) (funext fun node => ?_)
    exact hf node
  · rfl

variable (mgr : SchedulerNodeManager)

theorem modifyNuma (nodeId : NodeId) (numaId : NumaId) {f : SchedulerNumaInfo → SchedulerNumaInfo}
    (hf : ∀ numa, (f numa).socketId = numa.socketId) :
    SameLayout mgr (mgr.modifyNuma nodeId numaId f) := by
  rw [SchedulerNodeManager.modifyNuma]
  split
  · exact modify mgr nodeId fun node => node.getNodeInfo_modifyNuma hf numaId
  · exact refl mgr

theorem modifySocket (nodeId : NodeId) (socketId : SocketId)
    (f : SchedulerSocketInfo → SchedulerSocketInfo) :
    SameLayout mgr (mgr.modifySocket nodeId socketId f) :=
  modify mgr nodeId fun node => node.getNodeInfo_modifySocket f socketId

theorem updateNumas (nodeId : NodeId) (numas : List (NumaId × UbseNumaInfo)) :
    SameLayout mgr (mgr.updateNumas nodeId numas) := by
  rw [SchedulerNodeManager.updateNumas]
  refine foldl (fun mgr e => modify mgr nodeId fun node => ?_) mgr numas
  split
  · refine node.getNodeInfo_modifyNuma ?_ e.1
    exact fun _ => rfl
  · rfl

theorem updateAllNumaMemInfo (nodes : List (NodeId × UbseNodeInfo)) :
    SameLayout mgr (mgr.updateAllNumaMemInfo nodes).1 := by
  induction nodes generalizing mgr with
  | nil => exact refl mgr
  | cons node nodes ih =>
    obtain ⟨nodeId, info⟩ := node
    rw [SchedulerNodeManager.updateAllNumaMemInfo]
    split
    · split
      · exact refl mgr
      · exact (updateNumas mgr nodeId _).trans (ih _)
    · exact ih mgr

theorem updateAllLinks (nodes : List (NodeId × UbseNodeInfo)) :
    SameLayout mgr (mgr.updateAllLinks nodes).1 := by
  induction nodes generalizing mgr with
  | nil => exact refl mgr
  | cons node nodes ih =>
    obtain ⟨nodeId, info⟩ := node
    rw [SchedulerNodeManager.updateAllLinks]
    split
    · split
      · exact refl mgr
      · rw [SchedulerNodeManager.updateLinks]
        exact (foldl (fun mgr (cpu : UbseCpuInfo) => modifySocket mgr nodeId cpu.socketId _) mgr _).trans (ih _)
    · exact ih mgr

theorem updateStaticNodeInfo (deployed : List Nat) :
    SameLayout mgr (mgr.updateStaticNodeInfo deployed) :=
  ⟨rfl, rfl, rfl, rfl, rfl, rfl, fun _ => rfl⟩

theorem updateNodeState (info : UbseNodeInfo) : SameLayout mgr (mgr.updateNodeState info) :=
  modify mgr info.nodeId fun _ => rfl

end SameLayout

end SchedulerNodeManager

open SchedulerNodeManager (SameLayout)

namespace SchedulerAccountInfo

variable (account : SchedulerAccountInfo) (mgr : SchedulerNodeManager)

theorem sameLayout_chargeImports {f : Nat → SchedulerNumaInfo → SchedulerNumaInfo}
    (hf : ∀ x numa, (f x numa).socketId = numa.socketId) :
    SameLayout mgr (account.chargeImports f mgr) := by
  refine SameLayout.foldl (fun mgr info => ?_) mgr _
  rw [chargeImport]
  split
  · exact .refl mgr
  · exact .modifyNuma mgr _ _ (hf info.size)

theorem sameLayout_chargeExports {f : Nat → SchedulerNumaInfo → SchedulerNumaInfo}
    (hf : ∀ x numa, (f x numa).socketId = numa.socketId)
    (g : Nat → SchedulerSocketInfo → SchedulerSocketInfo) :
    SameLayout mgr (account.chargeExports f g mgr) := by
  refine SameLayout.foldl (fun mgr info => ?_) mgr _
  exact (SameLayout.modifyNuma mgr _ _ (hf info.size)).trans (.modifySocket _ _ _ _)

theorem sameLayout_addImport : SameLayout mgr (account.addImport mgr) := by
  rw [addImport]
  split
  · exact .refl mgr
  · refine account.sameLayout_chargeImports mgr ?_
    exact fun _ _ => rfl

theorem sameLayout_subImport : SameLayout mgr (account.subImport mgr) := by
  rw [subImport]
  split
  · exact .refl mgr
  · refine account.sameLayout_chargeImports mgr ?_
    exact fun _ _ => rfl

theorem sameLayout_addExport : SameLayout mgr (account.addExport mgr) := by
  rw [addExport]
  split
  · refine account.sameLayout_chargeExports mgr ?_ _
    exact fun _ _ => rfl
  · refine account.sameLayout_chargeExports mgr ?_ _
    exact fun _ _ => rfl

theorem sameLayout_subExport : SameLayout mgr (account.subExport mgr) := by
  rw [subExport]
  split
  · refine account.sameLayout_chargeExports mgr ?_ _
    exact fun _ _ => rfl
  · refine account.sameLayout_chargeExports mgr ?_ _
    exact fun _ _ => rfl

theorem sameLayout_updateAccountState (state : UbseMemState) :
    SameLayout mgr (account.updateAccountState mgr state).2 := by
  rw [updateAccountState]
  split
  · cases state with
    | failed => exact (account.sameLayout_subImport mgr).trans (account.sameLayout_subExport _)
    | exportDestroyed => exact account.sameLayout_subExport mgr
    | importDestroyed => exact account.sameLayout_subImport mgr
    | _ => exact .refl mgr
  · cases state with
    | failed => exact account.sameLayout_subExport mgr
    | importSuccess => exact account.sameLayout_addImport mgr
    | exportDestroyed => exact account.sameLayout_subExport mgr
    | _ => exact .refl mgr
  · cases state with
    | failed => exact account.sameLayout_subImport mgr
    | exportSuccess => exact account.sameLayout_addExport mgr
    | importDestroyed => exact account.sameLayout_subImport mgr
    | _ => exact .refl mgr
  · cases state with
    | scheduling => exact (account.sameLayout_addImport mgr).trans (account.sameLayout_addExport _)
    | importSuccess => exact account.sameLayout_addImport mgr
    | exportSuccess => exact account.sameLayout_addExport mgr
    | _ => exact .refl mgr

end SchedulerAccountInfo

theorem sameLayout_updateSchedulerAccount (accounts : SchedulerAccountManager)
    (mgr : SchedulerNodeManager) (name : String) (algoResult : UbseMemAlgoResult)
    (state : UbseMemState) (type : BorrowedType) :
    SameLayout mgr (accounts.updateSchedulerAccount mgr name algoResult state type).1.2 := by
  rcases accounts.updateSchedulerAccount_cases mgr name algoResult state type with heq |
    ⟨account, -, heq⟩
  · rw [heq]
    exact .refl mgr
  · rw [heq]
    exact account.sameLayout_updateAccountState mgr state

theorem sameLayout_recordState (s : SchedulerImpl) (obj : MemObj) :
    SameLayout s.nodeInfo (recordState s obj).1.nodeInfo :=
  sameLayout_updateSchedulerAccount s.account s.nodeInfo _ _ _ _

theorem sameLayout_refresh (s : SchedulerImpl) (cluster : Cluster) :
    SameLayout s.nodeInfo (refresh s cluster).1.nodeInfo := by
  have hnuma := SameLayout.updateAllNumaMemInfo s.nodeInfo cluster.nodes
  rw [refresh]
  split
  next heq => rwa [heq] at hnuma
  next mgr heq =>
    rw [heq] at hnuma
    exact (hnuma.trans (.updateStaticNodeInfo _ _)).trans (.updateAllLinks _ _)

theorem sameLayout_scheduleBorrow (s : SchedulerImpl) (cluster : Cluster) (choice : Choice)
    (request : SchedulerRequest) (algoResult : UbseMemAlgoResult) :
    SameLayout s.nodeInfo (scheduleBorrow s cluster choice request algoResult).1.nodeInfo := by
  have hrefresh := sameLayout_refresh s cluster
  rw [scheduleBorrow]
  split
  next heq => rwa [heq] at hrefresh
  next heq => rwa [heq] at hrefresh

/-- **What happens to objects leaves the layout of the nodes alone.** -/
theorem sameLayout_memoryObjChangeHandler (s : SchedulerImpl) (cluster : Cluster) (choice : Choice)
    (obj : MemObj) :
    SameLayout s.nodeInfo (memoryObjChangeHandler s cluster choice obj).1.nodeInfo := by
  rw [memoryObjChangeHandler]
  split
  · have hborrow := sameLayout_scheduleBorrow s cluster choice
      (SchedulerRequest.buildRequest obj.req s.nodeInfo) obj.algoResult
    split
    next heq => rwa [heq] at hborrow
    next heq =>
      rw [heq] at hborrow
      exact hborrow.trans (sameLayout_recordState _ _)
  · exact sameLayout_recordState s obj

/-! ### A node reports -/

/-- The ids of the nodes that are left. -/
def ids (nodes : List NodeInfo) : List NodeId := nodes.map (·.nodeId)

/-- No node is listed twice. -/
def DistinctNodes (nodes : List NodeInfo) : Prop := (ids nodes).Nodup

namespace SchedulerNodeManager

@[simp] theorem nodeInfos_linkChips (mgr : SchedulerNodeManager) (cpus : List UbseCpuInfo) :
    (mgr.linkChips cpus).1.nodeInfos = mgr.nodeInfos := by
  induction cpus generalizing mgr with
  | nil => rfl
  | cons cpu cpus ih =>
    rw [linkChips]
    split
    · rfl
    · exact ih _

@[simp] theorem nodeInfos_updateProviderNodeList (mgr : SchedulerNodeManager) (nodeId : NodeId)
    (hostName : String) : (mgr.updateProviderNodeList nodeId hostName).nodeInfos = mgr.nodeInfos := by
  rw [updateProviderNodeList]
  split
  · rfl
  · rfl
  · split <;> rfl

@[simp] theorem nodeInfos_updateGroupNodeList (mgr : SchedulerNodeManager) (nodeId : NodeId)
    (hostName : String) : (mgr.updateGroupNodeList nodeId hostName).nodeInfos = mgr.nodeInfos := by
  rw [updateGroupNodeList]
  split <;> rfl

/-- A node that is built is taken out of the list before it is put at its end. -/
theorem nodeInfos_init (mgr : SchedulerNodeManager) (info : UbseNodeInfo) :
    ((mgr.initOneNodeData info).updateNodeInfoCache info.nodeId).nodeInfos =
      (mgr.nodeInfos.filter (·.nodeId ≠ info.nodeId)) ++
        [(SchedulerNodeInfo.create info).getNodeInfo] := by
  have hget : (mgr.initOneNodeData info).getNodeInfo info.nodeId =
      some (SchedulerNodeInfo.create info) := AList.lookup_insert _
  rw [updateNodeInfoCache, hget]
  rfl

end SchedulerNodeManager

theorem distinctNodes_updateNodeInfo {mgr : SchedulerNodeManager} (h : DistinctNodes mgr.nodeInfos)
    (info : UbseNodeInfo) (deployed : List Nat) :
    DistinctNodes (mgr.updateNodeInfo info deployed).1.nodeInfos := by
  have hinit : DistinctNodes
      ((mgr.initOneNodeData info).updateNodeInfoCache info.nodeId).nodeInfos := by
    rw [SchedulerNodeManager.nodeInfos_init, DistinctNodes, ids, List.map_append]
    refine List.nodup_append.2 ⟨?_, List.nodup_singleton _, ?_⟩
    · exact h.sublist (List.filter_sublist.map _)
    · rintro nodeId hmem _ hnew rfl
      obtain ⟨node, hnode, hid⟩ := List.mem_map.1 hmem
      refine of_decide_eq_true (List.mem_filter.1 hnode).2 (hid.trans ?_)
      exact List.mem_singleton.1 hnew
  rw [SchedulerNodeManager.updateNodeInfo]
  split
  · exact h
  split
  · split
    · exact h
    · have hlink := SchedulerNodeManager.nodeInfos_linkChips
        ((mgr.initOneNodeData info).updateNodeInfoCache info.nodeId) info.cpuInfos
      split
      next heq =>
        rw [heq] at hlink
        rwa [← hlink] at hinit
      next mgr' heq =>
        rw [heq] at hlink
        rw [← hlink] at hinit
        have hlists : (((mgr'.updateProviderNodeList info.nodeId info.hostName).updateGroupNodeList
            info.nodeId info.hostName).updateStaticNodeInfo deployed).nodeInfos = mgr'.nodeInfos :=
          (SchedulerNodeManager.nodeInfos_updateGroupNodeList _ _ _).trans
            (SchedulerNodeManager.nodeInfos_updateProviderNodeList _ _ _)
        rw [← hlists] at hinit
        exact hinit
  · exact h

/-- The scheduler, started with empty caches. -/
def schedulerSystem (conf : SchedulerConf) : System SchedulerImpl SchedulerEvent :=
  System.ofFun (.start conf) SchedulerImpl.step

theorem distinctNodes_step {s : SchedulerImpl} (h : DistinctNodes s.nodeInfo.nodeInfos)
    (e : SchedulerEvent) : DistinctNodes (s.step e).nodeInfo.nodeInfos := by
  cases e with
  | memoryObjChange cluster choice obj =>
    rw [SchedulerImpl.step, (sameLayout_memoryObjChangeHandler s cluster choice obj).nodeInfos]
    exact h
  | nodeObjChange info deployed => exact distinctNodes_updateNodeInfo h info deployed

/-- **A node registers once**, in every state of the scheduler. -/
theorem distinctNodes_of_reachable {conf : SchedulerConf} {s : SchedulerImpl}
    (h : (schedulerSystem conf).Reachable s) : DistinctNodes s.nodeInfo.nodeInfos := by
  obtain ⟨_, tr, rfl, hrun⟩ := h
  have hstep : ∀ (s : SchedulerImpl) (e : SchedulerEvent) (t : SchedulerImpl),
      DistinctNodes s.nodeInfo.nodeInfos → True → (schedulerSystem conf).step s e t →
      DistinctNodes t.nodeInfo.nodeInfos := by
    rintro s e _ hs - rfl
    exact distinctNodes_step hs e
  exact hrun.invariant hstep List.nodup_nil fun _ _ => trivial

end Scheduler

end UbsEngine
