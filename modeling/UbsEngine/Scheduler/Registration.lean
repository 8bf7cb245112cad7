import UbsEngine.Library.Nested
import UbsEngine.Scheduler.Registered

/-!
# The registration of a node

A report that builds its node fills five structures one after the other: the table of nodes, the
list the filters start from, the chips of the sockets, the list of providers and the lists of the
groups. The chips come from texts, and a text that is no number ends the report with an error – in
the middle, when the table and the list are written already. As the node is in the table then, its
next report takes the short way and leaves the rest as it is.

`UbsEngine.Scheduler.registration_of_numeric` says what holds as long as every report that builds
its node has numbers for chips: a report that fails changes nothing, and after one that succeeds
the node is registered in all five structures, as in the report it was last built from.
-/

namespace UbsEngine

namespace Scheduler

namespace SchedulerNodeManager

/-! ### The five structures -/

/-- The chip of a socket, by the slot of its node. -/
def chipOf (mgr : SchedulerNodeManager) (slot : NodeId) (socketId : SocketId) : Option ChipId :=
  Map.get₂ mgr.chipToSocket slot socketId

/-- The socket of a chip. -/
def socketOf (mgr : SchedulerNodeManager) (slot : NodeId) (chipId : ChipId) : Option SocketId :=
  Map.get₂ mgr.socketToChip slot chipId

/-- The slot of a cpu, as the key of the chips. -/
def slotOf (cpu : UbseCpuInfo) : NodeId := toString cpu.slotId.toNat

/-- The hosts of the configuration, if it lists any, say who provides. -/
def Provides (conf : SchedulerConf) (hostName : String) : Prop :=
  match conf.provider with
  | none | some [] => True
  | some hosts => hostName ∈ hosts

/-- The places of the groups that a host is in. -/
def groupsOf (conf : SchedulerConf) (hostName : String) : List Nat :=
  match conf.group.map fun groups => groups.filter (· ≠ []) with
  | none | some [] => [0]
  | some groups => (groups.zipIdx.filter fun g => hostName ∈ g.1).map (·.2)

/-- A node is in the `i`-th group. -/
def InGroup (groups : List (List NodeId)) (i : Nat) (nodeId : NodeId) : Prop :=
  ∃ group ∈ groups[i]?, nodeId ∈ group

/-- **A node is registered as in a report**: it is in the table and once in the list, with all its
sockets and numas; all its cpus have chips; and it is among the providers and in the groups that
the configuration gives its host. -/
structure RegisteredAs (mgr : SchedulerNodeManager) (info : UbseNodeInfo) : Prop where
  table : mgr.layout info.nodeId = some (SchedulerNodeInfo.create info).getNodeInfo
  once : mgr.nodeInfos.filter (·.nodeId = info.nodeId) =
    [(SchedulerNodeInfo.create info).getNodeInfo]
  chips : ∀ cpu ∈ info.cpuInfos, ∃ chipId, cpu.chipId = some chipId ∧
    (mgr.chipOf (slotOf cpu) cpu.socketId).isSome ∧ (mgr.socketOf (slotOf cpu) chipId).isSome
  provides : Provides mgr.conf info.hostName → info.nodeId ∈ mgr.providerNodes
  groups : ∀ i ∈ groupsOf mgr.conf info.hostName, InGroup mgr.groupNodes i info.nodeId

/-- The chips are those of the report, where it names a socket or a chip once: of several cpus the
last one counts. -/
structure LinkedAs (mgr : SchedulerNodeManager) (info : UbseNodeInfo) : Prop where
  chip : ∀ l cpu l', info.cpuInfos = l ++ cpu :: l' →
    (∀ cpu' ∈ l', (slotOf cpu', cpu'.socketId) ≠ (slotOf cpu, cpu.socketId)) →
    mgr.chipOf (slotOf cpu) cpu.socketId = cpu.chipId
  socket : ∀ l cpu l' chipId, info.cpuInfos = l ++ cpu :: l' → cpu.chipId = some chipId →
    (∀ cpu' ∈ l', (slotOf cpu', cpu'.chipId) ≠ (slotOf cpu, cpu.chipId)) →
    mgr.socketOf (slotOf cpu) chipId = some cpu.socketId

/-- All chips of a report are numbers. -/
def Numeric (info : UbseNodeInfo) : Prop := ∀ cpu ∈ info.cpuInfos, cpu.chipId ≠ none

instance (info : UbseNodeInfo) : Decidable (Numeric info) := by
  unfold Numeric
  infer_instance

end SchedulerNodeManager

open SchedulerNodeManager

/-! ### The scheduler with the reports its nodes were built from -/

structure Registry where
  impl : SchedulerImpl
  /-- The last report from which a node was built without an error. -/
  builtFrom : NodeId → Option UbseNodeInfo

namespace Registry

def start (conf : SchedulerConf) : Registry := ⟨.start conf, fun _ => none⟩

def step (s : Registry) (e : SchedulerEvent) : Registry where
  impl := s.impl.step e
  builtFrom := match e with
    | .memoryObjChange _ _ _ => s.builtFrom
    | .nodeObjChange info _ =>
      if s.impl.nodeInfo.Builds info ∧ Numeric info then
        Function.update s.builtFrom info.nodeId (some info)
      else s.builtFrom

end Registry

def registrySystem (conf : SchedulerConf) : System Registry SchedulerEvent :=
  System.ofFun (.start conf) Registry.step

/-- A node is registered as in the report it was last built from. -/
def IsRegistered (s : Registry) (nodeId : NodeId) : Prop :=
  ∃ info, s.builtFrom nodeId = some info ∧ info.nodeId = nodeId ∧ s.impl.nodeInfo.RegisteredAs info

/-- **All or nothing**: a report that fails leaves the nodes as they were. After one that
succeeds its node is registered, as in this report if it built the node; only the report of a
failed node that would have to be built is answered without doing anything. -/
def AllOrNothing (s : Registry) : SchedulerEvent → Prop
  | .memoryObjChange _ _ _ => True
  | .nodeObjChange info deployed =>
    match nodeObjChangeHandler s.impl info deployed with
    | (impl, .error _) => impl.nodeInfo = s.impl.nodeInfo
    | (impl, .ok ()) =>
      if s.impl.nodeInfo.rebuilds info ∧ info.clusterState = .fault then
        impl.nodeInfo = s.impl.nodeInfo
      else
        IsRegistered (s.step (.nodeObjChange info deployed)) info.nodeId ∧
          (s.impl.nodeInfo.Builds info → impl.nodeInfo.RegisteredAs info ∧
            impl.nodeInfo.LinkedAs info)

/-- A report that builds its node has numbers for chips. -/
def NumericWhenBuilt (s : Registry) : SchedulerEvent → Prop
  | .memoryObjChange _ _ _ => True
  | .nodeObjChange info _ => s.impl.nodeInfo.Builds info → Numeric info

/-! ### The chips -/

namespace SchedulerNodeManager

variable (mgr : SchedulerNodeManager)

theorem chipOf_linkChip (cpu : UbseCpuInfo) (chipId : ChipId) (slot : NodeId) (socketId : SocketId) :
    (mgr.linkChip cpu chipId).chipOf slot socketId =
      if slot = slotOf cpu ∧ socketId = cpu.socketId then some chipId
      else mgr.chipOf slot socketId :=
  Map.get₂_set₂ _ _ _ _ _ _

theorem socketOf_linkChip (cpu : UbseCpuInfo) (chipId chipId' : ChipId) (slot : NodeId) :
    (mgr.linkChip cpu chipId).socketOf slot chipId' =
      if slot = slotOf cpu ∧ chipId' = chipId then some cpu.socketId
      else mgr.socketOf slot chipId' :=
  Map.get₂_set₂ _ _ _ _ _ _

/-- Everything but the chips stays. -/
structure SameButChips (mgr mgr' : SchedulerNodeManager) : Prop where
  conf : mgr'.conf = mgr.conf
  nodeMap : mgr'.nodeMap = mgr.nodeMap
  nodeInfos : mgr'.nodeInfos = mgr.nodeInfos
  providerNodes : mgr'.providerNodes = mgr.providerNodes
  groupNodes : mgr'.groupNodes = mgr.groupNodes
  chipOf : ∀ slot socketId, (mgr.chipOf slot socketId).isSome → (mgr'.chipOf slot socketId).isSome
  socketOf : ∀ slot chipId, (mgr.socketOf slot chipId).isSome → (mgr'.socketOf slot chipId).isSome

theorem sameButChips_linkChips (cpus : List UbseCpuInfo) :
    SameButChips mgr (mgr.linkChips cpus).1 := by
  induction cpus generalizing mgr with
  | nil => exact ⟨rfl, rfl, rfl, rfl, rfl, fun _ _ h => h, fun _ _ h => h⟩
  | cons cpu cpus ih =>
    rw [linkChips]
    split
    · exact ⟨rfl, rfl, rfl, rfl, rfl, fun _ _ h => h, fun _ _ h => h⟩
    next chipId _ =>
      obtain ⟨hconf, hmap, hinfos, hprov, hgroup, hchip, hsocket⟩ := ih (mgr.linkChip cpu chipId)
      refine ⟨hconf, hmap, hinfos, hprov, hgroup, fun slot socketId h => hchip _ _ ?_,
        fun slot chipId' h => hsocket _ _ ?_⟩
      · rw [chipOf_linkChip]
        split
        · rfl
        · exact h
      · rw [socketOf_linkChip]
        split
        · rfl
        · exact h

theorem linkChips_ok {cpus : List UbseCpuInfo} (h : ∀ cpu ∈ cpus, cpu.chipId ≠ none) :
    (mgr.linkChips cpus).2 = .ok () := by
  induction cpus generalizing mgr with
  | nil => rfl
  | cons cpu cpus ih =>
    rw [List.forall_mem_cons] at h
    obtain ⟨chipId, hchip⟩ := Option.ne_none_iff_exists'.1 h.1
    rw [linkChips, hchip]
    exact ih (mgr.linkChip cpu chipId) h.2

theorem linkChips_append {l : List UbseCpuInfo} (h : ∀ cpu ∈ l, cpu.chipId ≠ none)
    (l' : List UbseCpuInfo) : mgr.linkChips (l ++ l') = (mgr.linkChips l).1.linkChips l' := by
  induction l generalizing mgr with
  | nil => rfl
  | cons cpu l ih =>
    rw [List.forall_mem_cons] at h
    obtain ⟨chipId, hchip⟩ := Option.ne_none_iff_exists'.1 h.1
    rw [List.cons_append, linkChips, linkChips, hchip]
    exact ih (mgr.linkChip cpu chipId) h.2

theorem chipOf_linkChips_of_ne {cpus : List UbseCpuInfo} {slot : NodeId} {socketId : SocketId}
    (h : ∀ cpu ∈ cpus, (slotOf cpu, cpu.socketId) ≠ (slot, socketId)) :
    (mgr.linkChips cpus).1.chipOf slot socketId = mgr.chipOf slot socketId := by
  induction cpus generalizing mgr with
  | nil => rfl
  | cons cpu cpus ih =>
    rw [List.forall_mem_cons] at h
    rw [linkChips]
    split
    · rfl
    · rw [ih _ h.2, chipOf_linkChip, if_neg]
      rintro ⟨rfl, rfl⟩
      exact h.1 rfl

theorem socketOf_linkChips_of_ne {cpus : List UbseCpuInfo} {slot : NodeId} {chipId : ChipId}
    (h : ∀ cpu ∈ cpus, (slotOf cpu, cpu.chipId) ≠ (slot, some chipId)) :
    (mgr.linkChips cpus).1.socketOf slot chipId = mgr.socketOf slot chipId := by
  induction cpus generalizing mgr with
  | nil => rfl
  | cons cpu cpus ih =>
    rw [List.forall_mem_cons] at h
    rw [linkChips]
    split
    · rfl
    next chipId' hchip =>
      rw [ih _ h.2, socketOf_linkChip, if_neg]
      rintro ⟨rfl, rfl⟩
      exact h.1 (Prod.ext rfl hchip)

variable {mgr} in
/-- What the chips are after those of a cpu and of the cpus after it were linked. -/
theorem linkChips_of_append {l l' : List UbseCpuInfo} {cpu : UbseCpuInfo} {chipId : ChipId}
    (h : ∀ cpu' ∈ l, cpu'.chipId ≠ none) (hchip : cpu.chipId = some chipId) :
    mgr.linkChips (l ++ cpu :: l') = ((mgr.linkChips l).1.linkChip cpu chipId).linkChips l' := by
  rw [linkChips_append mgr h, linkChips, hchip]

/-- Every cpu has a chip in the end. -/
theorem chips_linkChips {cpus : List UbseCpuInfo} (h : ∀ cpu ∈ cpus, cpu.chipId ≠ none) :
    ∀ cpu ∈ cpus, ∃ chipId, cpu.chipId = some chipId ∧
      ((mgr.linkChips cpus).1.chipOf (slotOf cpu) cpu.socketId).isSome ∧
      ((mgr.linkChips cpus).1.socketOf (slotOf cpu) chipId).isSome := by
  intro cpu hcpu
  obtain ⟨chipId, hchip⟩ := Option.ne_none_iff_exists'.1 (h cpu hcpu)
  obtain ⟨l, l', rfl⟩ := List.append_of_mem hcpu
  have hl : ∀ cpu' ∈ l, cpu'.chipId ≠ none := fun cpu' hcpu' =>
    h cpu' (List.mem_append_left _ hcpu')
  rw [linkChips_of_append hl hchip]
  have hsame := sameButChips_linkChips ((mgr.linkChips l).1.linkChip cpu chipId) l'
  refine ⟨chipId, hchip, hsame.chipOf _ _ ?_, hsame.socketOf _ _ ?_⟩
  · rw [chipOf_linkChip, if_pos ⟨rfl, rfl⟩]
    rfl
  · rw [socketOf_linkChip, if_pos ⟨rfl, rfl⟩]
    rfl

theorem linkedAs_linkChips {info : UbseNodeInfo} (h : Numeric info) :
    (mgr.linkChips info.cpuInfos).1.LinkedAs info := by
  constructor
  · rintro l cpu l' hcpus hlast
    rw [Numeric, hcpus] at h
    obtain ⟨chipId, hchip⟩ := Option.ne_none_iff_exists'.1 (h cpu (by simp))
    rw [hcpus, linkChips_of_append (fun cpu' hcpu' => h cpu' (List.mem_append_left _ hcpu')) hchip,
      chipOf_linkChips_of_ne _ hlast, chipOf_linkChip, if_pos ⟨rfl, rfl⟩, hchip]
  · rintro l cpu l' chipId hcpus hchip hlast
    rw [Numeric, hcpus] at h
    rw [hchip] at hlast
    rw [hcpus, linkChips_of_append (fun cpu' hcpu' => h cpu' (List.mem_append_left _ hcpu')) hchip,
      socketOf_linkChips_of_ne _ hlast, socketOf_linkChip, if_pos ⟨rfl, rfl⟩]

/-! ### Providers and groups -/

theorem mem_insertId {nodeId nodeId' : NodeId} {ids : List NodeId} :
    nodeId' ∈ insertId nodeId ids ↔ nodeId' = nodeId ∨ nodeId' ∈ ids := by
  rw [insertId]
  split
  next h => exact ⟨Or.inr, fun h' => h'.elim (fun heq => heq ▸ h) id⟩
  next => exact List.mem_cons

theorem mem_providerNodes {nodeId nodeId' : NodeId} {hostName : String} :
    nodeId' ∈ (mgr.updateProviderNodeList nodeId hostName).providerNodes ↔
      (nodeId' = nodeId ∧ Provides mgr.conf hostName) ∨ nodeId' ∈ mgr.providerNodes := by
  rcases h : mgr.conf.provider with _ | _ | ⟨host, hosts⟩
  · simp only [updateProviderNodeList, Provides, h, mem_insertId, and_true]
  · simp only [updateProviderNodeList, Provides, h, mem_insertId, and_true]
  · simp only [updateProviderNodeList, Provides, h]
    split
    next hmem => rw [mem_insertId, and_iff_left hmem]
    next hmem => exact ⟨Or.inr, fun h' => h'.resolve_left fun heq => hmem heq.2⟩

/-- Making a list of groups long enough puts nobody into a group. -/
theorem inGroup_append_replicate {groups : List (List NodeId)} {n j : Nat} {nodeId : NodeId} :
    InGroup (groups ++ List.replicate n []) j nodeId ↔ InGroup groups j nodeId := by
  constructor
  · rintro ⟨group, hgroup, hmem⟩
    rw [Option.mem_def, List.getElem?_append] at hgroup
    split at hgroup
    · exact ⟨group, hgroup, hmem⟩
    · rw [List.eq_of_mem_replicate (List.mem_of_getElem? hgroup)] at hmem
      exact absurd hmem List.not_mem_nil
  · rintro ⟨group, hgroup, hmem⟩
    obtain ⟨hlt, -⟩ := List.getElem?_eq_some_iff.1 hgroup
    exact ⟨group, (List.getElem?_append_left hlt).trans hgroup, hmem⟩

theorem inGroup_insertGroup {groups : List (List NodeId)} {i j : Nat} {nodeId nodeId' : NodeId} :
    InGroup (insertGroup groups i nodeId) j nodeId' ↔
      (j = i ∧ nodeId' = nodeId) ∨ InGroup groups j nodeId' := by
  have hgroups : InGroup (groups ++ List.replicate (i + 1 - groups.length) []) j nodeId' ↔
      InGroup groups j nodeId' := inGroup_append_replicate
  rw [insertGroup, ← hgroups]
  have hlength : i < (groups ++ List.replicate (i + 1 - groups.length) []).length := by
    rw [List.length_append, List.length_replicate]
    omega
  generalize groups ++ List.replicate (i + 1 - groups.length) [] = l at hlength ⊢
  rw [InGroup, InGroup, List.getElem?_modify]
  rcases eq_or_ne i j with rfl | hne
  · rw [List.getElem?_eq_getElem hlength]
    simp [mem_insertId]
  · rw [or_iff_right fun h => hne h.1.symm]
    simp [hne]

theorem inGroup_foldl {places : List Nat} {groups : List (List NodeId)} {j : Nat}
    {nodeId nodeId' : NodeId} :
    InGroup (places.foldl (fun sets i => insertGroup sets i nodeId) groups) j nodeId' ↔
      (j ∈ places ∧ nodeId' = nodeId) ∨ InGroup groups j nodeId' := by
  induction places generalizing groups with
  | nil => simp
  | cons i places ih =>
    rw [List.foldl_cons, ih, inGroup_insertGroup, List.mem_cons]
    tauto

theorem inGroup_updateGroupNodeList {nodeId nodeId' : NodeId} {hostName : String} {j : Nat} :
    InGroup (mgr.updateGroupNodeList nodeId hostName).groupNodes j nodeId' ↔
      (j ∈ groupsOf mgr.conf hostName ∧ nodeId' = nodeId) ∨ InGroup mgr.groupNodes j nodeId' := by
  rw [← inGroup_foldl]
  refine iff_of_eq (congrArg (InGroup · j nodeId') ?_)
  rw [updateGroupNodeList, groupsOf]
  -- the two sides look at the same lists
  generalize (mgr.conf.group.map fun groups => groups.filter (· ≠ [])) = lists
  rcases lists with _ | _ | ⟨group, groups⟩
  · rfl
  · rfl
  · dsimp only
    rw [List.foldl_map]

/-! ### A report that builds its node -/

/-- The nodes after a report that builds its node, if its chips are numbers. -/
def built (info : UbseNodeInfo) (deployed : List Nat) : SchedulerNodeManager :=
  ((((((mgr.initOneNodeData info).updateNodeInfoCache info.nodeId).linkChips
    info.cpuInfos).1.updateProviderNodeList info.nodeId info.hostName).updateGroupNodeList
      info.nodeId info.hostName).updateStaticNodeInfo deployed).updateNodeState info

theorem updateNodeInfo_of_builds {info : UbseNodeInfo} (hbuilds : mgr.Builds info)
    (hnumeric : Numeric info) (deployed : List Nat) :
    mgr.updateNodeInfo info deployed = (mgr.built info deployed, .ok ()) := by
  obtain ⟨hid, hre, hfault⟩ := hbuilds
  have hok := linkChips_ok ((mgr.initOneNodeData info).updateNodeInfoCache info.nodeId) hnumeric
  rw [updateNodeInfo, if_neg hid, if_pos hre, if_neg hfault, built]
  split
  next heq =>
    rw [heq] at hok
    cases hok
  next heq => rw [heq]

/-- The table and the list, where the other nodes are concerned, and what only grows. -/
structure Extends (nodeId : NodeId) (mgr mgr' : SchedulerNodeManager) : Prop where
  conf : mgr'.conf = mgr.conf
  layout : ∀ n, n ≠ nodeId → mgr'.layout n = mgr.layout n
  nodeInfos : ∀ n, n ≠ nodeId →
    mgr'.nodeInfos.filter (·.nodeId = n) = mgr.nodeInfos.filter (·.nodeId = n)
  chipOf : ∀ slot socketId, (mgr.chipOf slot socketId).isSome → (mgr'.chipOf slot socketId).isSome
  socketOf : ∀ slot chipId, (mgr.socketOf slot chipId).isSome → (mgr'.socketOf slot chipId).isSome
  providerNodes : ∀ n ∈ mgr.providerNodes, n ∈ mgr'.providerNodes
  groupNodes : ∀ i n, InGroup mgr.groupNodes i n → InGroup mgr'.groupNodes i n

/-- A node stays registered while others register. -/
theorem RegisteredAs.of_extends {mgr mgr' : SchedulerNodeManager} {info : UbseNodeInfo}
    {nodeId : NodeId} (h : mgr.RegisteredAs info) (hne : info.nodeId ≠ nodeId)
    (hext : Extends nodeId mgr mgr') : mgr'.RegisteredAs info where
  table := (hext.layout _ hne).trans h.table
  once := (hext.nodeInfos _ hne).trans h.once
  chips cpu hcpu := by
    obtain ⟨chipId, hchip, hchipOf, hsocketOf⟩ := h.chips cpu hcpu
    exact ⟨chipId, hchip, hext.chipOf _ _ hchipOf, hext.socketOf _ _ hsocketOf⟩
  provides hprovides := hext.providerNodes _ (h.provides (hext.conf ▸ hprovides))
  groups i hi := hext.groupNodes i _ (h.groups i (hext.conf ▸ hi))

theorem RegisteredAs.of_sameLayout {mgr mgr' : SchedulerNodeManager} {info : UbseNodeInfo}
    (h : mgr.RegisteredAs info) (hsame : SameLayout mgr mgr') : mgr'.RegisteredAs info where
  table := (hsame.layout _).trans h.table
  once := by rw [hsame.nodeInfos, h.once]
  chips cpu hcpu := by
    rw [SchedulerNodeManager.chipOf, hsame.chipToSocket]
    obtain ⟨chipId, hchip, hchipOf, hsocketOf⟩ := h.chips cpu hcpu
    refine ⟨chipId, hchip, hchipOf, ?_⟩
    rw [SchedulerNodeManager.socketOf, hsame.socketToChip]
    exact hsocketOf
  provides hprovides := by
    rw [hsame.providerNodes]
    exact h.provides (hsame.conf ▸ hprovides)
  groups i hi := by
    rw [hsame.groupNodes]
    exact h.groups i (hsame.conf ▸ hi)

section Built

variable (info : UbseNodeInfo) (deployed : List Nat)

/-- The nodes before the chips are linked. -/
def listed : SchedulerNodeManager := (mgr.initOneNodeData info).updateNodeInfoCache info.nodeId

theorem layout_listed (nodeId : NodeId) :
    (mgr.listed info).layout nodeId =
      if nodeId = info.nodeId then some (SchedulerNodeInfo.create info).getNodeInfo
      else mgr.layout nodeId := by
  rw [SchedulerNodeManager.layout, getNodeInfo, listed, nodeMap_updateNodeInfoCache,
    initOneNodeData, Map.lookup_insert_ite]
  split
  · rfl
  · rfl

theorem nodeInfos_listed (nodeId : NodeId) :
    (mgr.listed info).nodeInfos.filter (·.nodeId = nodeId) =
      if nodeId = info.nodeId then [(SchedulerNodeInfo.create info).getNodeInfo]
      else mgr.nodeInfos.filter (·.nodeId = nodeId) := by
  rw [listed, nodeInfos_init, List.filter_append, List.filter_filter]
  split
  next h =>
    rw [List.filter_cons_of_pos (by exact decide_eq_true h.symm), List.filter_nil,
      List.filter_eq_nil_iff.2, List.nil_append]
    rintro node - hnode
    rw [Bool.and_eq_true, decide_eq_true_eq, decide_eq_true_eq] at hnode
    exact hnode.2 (hnode.1.trans h)
  next h =>
    rw [List.filter_cons_of_neg (by exact fun heq => h (of_decide_eq_true heq).symm),
      List.filter_nil, List.append_nil]
    refine List.filter_congr fun node _ => ?_
    by_cases hnode : node.nodeId = nodeId
    · have hne : node.nodeId ≠ info.nodeId := hnode ▸ h
      simp [hnode, h]
    · simp [hnode]

/-- The other structures are those from before. -/
theorem listed_eq : (mgr.listed info).conf = mgr.conf ∧
    (mgr.listed info).providerNodes = mgr.providerNodes ∧
    (mgr.listed info).groupNodes = mgr.groupNodes ∧
    (mgr.listed info).chipToSocket = mgr.chipToSocket ∧
    (mgr.listed info).socketToChip = mgr.socketToChip := by
  rw [listed, updateNodeInfoCache]
  split
  · exact ⟨rfl, rfl, rfl, rfl, rfl⟩
  · exact ⟨rfl, rfl, rfl, rfl, rfl⟩

theorem updateProviderNodeList_eq (nodeId : NodeId) (hostName : String) :
    mgr.updateProviderNodeList nodeId hostName = { mgr with
      providerNodes := (mgr.updateProviderNodeList nodeId hostName).providerNodes } := by
  rw [updateProviderNodeList]
  split
  · rfl
  · rfl
  · split <;> rfl

theorem updateGroupNodeList_eq (nodeId : NodeId) (hostName : String) :
    mgr.updateGroupNodeList nodeId hostName = { mgr with
      groupNodes := (mgr.updateGroupNodeList nodeId hostName).groupNodes } := by
  rw [updateGroupNodeList]
  split <;> rfl

/-- The nodes before the state of the node is written. -/
def grouped : SchedulerNodeManager :=
  ((((mgr.listed info).linkChips info.cpuInfos).1.updateProviderNodeList info.nodeId
    info.hostName).updateGroupNodeList info.nodeId info.hostName)

theorem sameLayout_built : SameLayout (mgr.grouped info) (mgr.built info deployed) :=
  (SameLayout.updateStaticNodeInfo _ deployed).trans (.updateNodeState _ info)

/-- Everything but the lists of providers and groups is as the chips were linked. -/
theorem grouped_eq : mgr.grouped info = { ((mgr.listed info).linkChips info.cpuInfos).1 with
    providerNodes := (mgr.grouped info).providerNodes
    groupNodes := (mgr.grouped info).groupNodes } := by
  rw [grouped, updateGroupNodeList_eq, updateProviderNodeList_eq]

theorem conf_grouped : (mgr.grouped info).conf = mgr.conf := by
  rw [grouped_eq]
  exact (sameButChips_linkChips _ _).conf.trans (listed_eq mgr info).1

theorem layout_grouped (nodeId : NodeId) :
    (mgr.grouped info).layout nodeId = (mgr.listed info).layout nodeId := by
  rw [grouped_eq]
  exact congrArg (fun m : Map NodeId SchedulerNodeInfo => (m.lookup nodeId).map (·.getNodeInfo))
    (sameButChips_linkChips (mgr.listed info) info.cpuInfos).nodeMap

theorem nodeInfos_grouped : (mgr.grouped info).nodeInfos = (mgr.listed info).nodeInfos := by
  rw [grouped_eq]
  exact (sameButChips_linkChips _ _).nodeInfos

theorem mem_providerNodes_grouped {nodeId : NodeId} :
    nodeId ∈ (mgr.grouped info).providerNodes ↔
      (nodeId = info.nodeId ∧ Provides mgr.conf info.hostName) ∨ nodeId ∈ mgr.providerNodes := by
  have hsame := sameButChips_linkChips (mgr.listed info) info.cpuInfos
  obtain ⟨hconf, hproviders, -⟩ := listed_eq mgr info
  rw [grouped, updateGroupNodeList_eq]
  change nodeId ∈ (updateProviderNodeList _ _ _).providerNodes ↔ _
  rw [mem_providerNodes, hsame.conf, hsame.providerNodes, hconf, hproviders]

theorem inGroup_grouped {i : Nat} {nodeId : NodeId} :
    InGroup (mgr.grouped info).groupNodes i nodeId ↔
      (i ∈ groupsOf mgr.conf info.hostName ∧ nodeId = info.nodeId) ∨
        InGroup mgr.groupNodes i nodeId := by
  have hsame := sameButChips_linkChips (mgr.listed info) info.cpuInfos
  obtain ⟨hconf, -, hgroups, -⟩ := listed_eq mgr info
  rw [grouped, inGroup_updateGroupNodeList, updateProviderNodeList_eq]
  change _ ∈ groupsOf (linkChips _ _).1.conf _ ∧ _ ∨ InGroup (linkChips _ _).1.groupNodes _ _ ↔ _
  rw [hsame.conf, hsame.groupNodes, hconf, hgroups]

/-- **A report with numbers for chips registers its node.** -/
theorem registeredAs_built (hnumeric : Numeric info) :
    (mgr.built info deployed).RegisteredAs info := by
  refine RegisteredAs.of_sameLayout ⟨?_, ?_, ?_, ?_, ?_⟩ (sameLayout_built mgr info deployed)
  · rw [layout_grouped, layout_listed, if_pos rfl]
  · rw [nodeInfos_grouped, nodeInfos_listed, if_pos rfl]
  · rw [grouped_eq]
    exact chips_linkChips (mgr.listed info) hnumeric
  · intro hprovides
    rw [conf_grouped] at hprovides
    exact (mem_providerNodes_grouped mgr info).2 (Or.inl ⟨rfl, hprovides⟩)
  · intro i hi
    rw [conf_grouped] at hi
    exact (inGroup_grouped mgr info).2 (Or.inl ⟨hi, rfl⟩)

theorem linkedAs_built (hnumeric : Numeric info) : (mgr.built info deployed).LinkedAs info := by
  have hsame := sameLayout_built mgr info deployed
  obtain ⟨hchip, hsocket⟩ := linkedAs_linkChips (mgr.listed info) hnumeric
  have hgrouped := grouped_eq mgr info
  refine ⟨fun l cpu l' hcpus hlast => ?_, fun l cpu l' chipId hcpus hc hlast => ?_⟩
  · rw [chipOf, hsame.chipToSocket, hgrouped]
    exact hchip l cpu l' hcpus hlast
  · rw [socketOf, hsame.socketToChip, hgrouped]
    exact hsocket l cpu l' chipId hcpus hc hlast

/-- The other nodes are as they were. -/
theorem extends_grouped : Extends info.nodeId mgr (mgr.grouped info) := by
  have hsame := sameButChips_linkChips (mgr.listed info) info.cpuInfos
  obtain ⟨-, -, -, hchips, hsockets⟩ := listed_eq mgr info
  refine ⟨conf_grouped mgr info, fun n hn => ?_, fun n hn => ?_, fun slot socketId h => ?_,
    fun slot chipId h => ?_, fun n hn => ?_, fun i n hn => ?_⟩
  · rw [layout_grouped, layout_listed, if_neg hn]
  · rw [nodeInfos_grouped, nodeInfos_listed, if_neg hn]
  · rw [chipOf, ← hchips] at h
    rw [grouped_eq]
    exact hsame.chipOf slot socketId h
  · rw [socketOf, ← hsockets] at h
    rw [grouped_eq]
    exact hsame.socketOf slot chipId h
  · exact (mem_providerNodes_grouped mgr info).2 (Or.inr hn)
  · exact (inGroup_grouped mgr info).2 (Or.inr hn)

end Built

/-- **What a report does**, if one that builds its node has numbers for chips. -/
theorem updateNodeInfo_cases {info : UbseNodeInfo} (hnumeric : mgr.Builds info → Numeric info)
    (deployed : List Nat) :
    (info.nodeId = "" ∧ mgr.updateNodeInfo info deployed = (mgr, .error .error)) ∨
      (mgr.Builds info ∧ mgr.updateNodeInfo info deployed = (mgr.built info deployed, .ok ())) ∨
      (mgr.rebuilds info = true ∧ info.clusterState = .fault ∧
        mgr.updateNodeInfo info deployed = (mgr, .ok ())) ∨
      (mgr.rebuilds info = false ∧
        mgr.updateNodeInfo info deployed = (mgr.updateNodeState info, .ok ())) := by
  by_cases hid : info.nodeId = ""
  · exact Or.inl ⟨hid, if_pos hid⟩
  right
  by_cases hre : mgr.rebuilds info = true
  · by_cases hfault : info.clusterState = .fault
    · refine Or.inr (Or.inl ⟨hre, hfault, ?_⟩)
      rw [updateNodeInfo, if_neg hid, if_pos hre, if_pos hfault]
    · have hbuilds : mgr.Builds info := ⟨hid, hre, hfault⟩
      exact Or.inl ⟨hbuilds, updateNodeInfo_of_builds mgr hbuilds (hnumeric hbuilds) deployed⟩
  · refine Or.inr (Or.inr ⟨Bool.eq_false_of_not_eq_true hre, ?_⟩)
    rw [updateNodeInfo, if_neg hid, if_neg hre]

end SchedulerNodeManager

/-! ### Runs -/

/-- Every node of the table is registered as in the report it was last built from. -/
structure AllRegistered (s : Registry) : Prop where
  built : ∀ nodeId info, s.builtFrom nodeId = some info →
    info.nodeId = nodeId ∧ s.impl.nodeInfo.RegisteredAs info
  table : ∀ nodeId, (s.impl.nodeInfo.layout nodeId).isSome → (s.builtFrom nodeId).isSome

variable {s : Registry}

/-- Whatever leaves the layout of the nodes leaves them registered. -/
theorem AllRegistered.of_sameLayout (h : AllRegistered s) {impl : SchedulerImpl}
    (hsame : SameLayout s.impl.nodeInfo impl.nodeInfo) : AllRegistered ⟨impl, s.builtFrom⟩ where
  built nodeId info hinfo :=
    ⟨(h.built nodeId info hinfo).1, (h.built nodeId info hinfo).2.of_sameLayout hsame⟩
  table nodeId hnode := h.table nodeId (by rwa [hsame.layout] at hnode)

theorem AllRegistered.of_built (h : AllRegistered s) {info : UbseNodeInfo}
    (hnumeric : Numeric info) (deployed : List Nat) :
    AllRegistered ⟨{ s.impl with nodeInfo := s.impl.nodeInfo.built info deployed },
      Function.update s.builtFrom info.nodeId (some info)⟩ := by
  have hsame := sameLayout_built s.impl.nodeInfo info deployed
  constructor
  · intro nodeId info' hinfo'
    dsimp only at hinfo'
    rcases eq_or_ne nodeId info.nodeId with rfl | hne
    · rw [Function.update_self, Option.some.injEq] at hinfo'
      subst hinfo'
      exact ⟨rfl, registeredAs_built _ _ deployed hnumeric⟩
    · rw [Function.update_of_ne hne] at hinfo'
      obtain ⟨rfl, hreg⟩ := h.built nodeId info' hinfo'
      exact ⟨rfl, (hreg.of_extends hne (extends_grouped _ info)).of_sameLayout hsame⟩
  · intro nodeId hnode
    dsimp only at hnode ⊢
    rcases eq_or_ne nodeId info.nodeId with rfl | hne
    · rw [Function.update_self]
      rfl
    · rw [Function.update_of_ne hne]
      refine h.table nodeId ?_
      rwa [hsame.layout, (extends_grouped _ info).layout nodeId hne] at hnode

theorem allRegistered_step (h : AllRegistered s) {e : SchedulerEvent} (hG : NumericWhenBuilt s e) :
    AllRegistered (s.step e) := by
  cases e with
  | memoryObjChange cluster choice obj =>
    exact h.of_sameLayout (sameLayout_memoryObjChangeHandler s.impl cluster choice obj)
  | nodeObjChange info deployed =>
    rw [Registry.step, SchedulerImpl.step, nodeObjChangeHandler]
    rcases s.impl.nodeInfo.updateNodeInfo_cases hG deployed with ⟨hid, heq⟩ | ⟨hbuilds, heq⟩ |
      ⟨-, hfault, heq⟩ | ⟨hre, heq⟩
    · rw [heq, if_neg fun hb => hb.1.1 hid]
      exact h
    · rw [heq, if_pos ⟨hbuilds, hG hbuilds⟩]
      exact h.of_built (hG hbuilds) deployed
    · rw [heq, if_neg fun hb => hb.1.2.2 hfault]
      exact h
    · rw [heq, if_neg fun hb => Bool.false_ne_true (hre.symm.trans hb.1.2.1)]
      exact h.of_sameLayout (.updateNodeState _ info)

theorem allOrNothing_of_allRegistered (h : AllRegistered s) {e : SchedulerEvent}
    (hG : NumericWhenBuilt s e) : AllOrNothing s e := by
  have hstep := allRegistered_step h hG
  cases e with
  | memoryObjChange cluster choice obj => trivial
  | nodeObjChange info deployed =>
    rw [AllOrNothing, nodeObjChangeHandler]
    rcases s.impl.nodeInfo.updateNodeInfo_cases hG deployed with ⟨-, heq⟩ | ⟨hbuilds, heq⟩ |
      ⟨hre, hfault, heq⟩ | ⟨hre, heq⟩
    · rw [heq]
    · rw [heq]
      dsimp only
      rw [if_neg fun hb => hbuilds.2.2 hb.2]
      have hreg := registeredAs_built s.impl.nodeInfo info deployed (hG hbuilds)
      refine ⟨⟨info, ?_, rfl, ?_⟩, fun _ => ⟨hreg, linkedAs_built _ info deployed (hG hbuilds)⟩⟩
      · rw [Registry.step]
        dsimp only
        rw [if_pos ⟨hbuilds, hG hbuilds⟩, Function.update_self]
      · rw [Registry.step, SchedulerImpl.step, nodeObjChangeHandler, heq]
        exact hreg
    · rw [heq]
      dsimp only
      rw [if_pos ⟨hre, hfault⟩]
    · rw [heq]
      dsimp only
      rw [if_neg fun hb => Bool.false_ne_true (hre.symm.trans hb.1)]
      refine ⟨?_, fun hbuilds => absurd (hre.symm.trans hbuilds.2.1) Bool.false_ne_true⟩
      -- the node is in the table, for else the report would build it
      have hnode : ((s.step (.nodeObjChange info deployed)).impl.nodeInfo.layout
          info.nodeId).isSome := by
        rw [Registry.step, SchedulerImpl.step, nodeObjChangeHandler, heq]
        dsimp only
        rw [(SameLayout.updateNodeState s.impl.nodeInfo info).layout, SchedulerNodeManager.layout]
        rw [SchedulerNodeManager.rebuilds] at hre
        split at hre
        · cases hre
        next hget => rw [hget]; rfl
      obtain ⟨info', hinfo'⟩ := Option.isSome_iff_exists.1 (hstep.table info.nodeId hnode)
      exact ⟨info', hinfo', hstep.built info.nodeId info' hinfo'⟩

/-- A report of a node with one cpu. -/
def cpuReport (chipId : Option ChipId) : UbseNodeInfo where
  nodeId := "1"
  hostName := "host"
  cpuInfos := [{ slotId := 1, socketId := 0, chipId := chipId, portInfos := [] }]
  clusterState := .working

end Scheduler

end UbsEngine
