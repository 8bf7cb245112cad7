import UbsEngine.Scheduler.Impl

/-!
# The counters of the scheduler

Four kinds of counters follow the accounts: what a numa lends, what it shares, how many
blocks a socket has exported, and what a socket borrows, which is kept at its first numa.
They are read here through one function of one argument, the
`UbsEngine.Scheduler.Meter`, so that what an operation does to the counters is one
statement and not four.

Every operation of the cache is described by its effect on the meters: reading the memory and
the links of all nodes does not move them, a report of a node moves only those of the node,
and only if the node is built anew.
-/

namespace UbsEngine

namespace Scheduler

/-- A counter of a node. -/
inductive NodeMeter
  /-- What a numa lends. -/
  | lent (numaId : NumaId)
  /-- What a numa shares. -/
  | shared (numaId : NumaId)
  /-- How many blocks a socket has exported. -/
  | lentCount (socketId : SocketId)
  /-- What a socket borrows. -/
  | borrow (socketId : SocketId)
  deriving DecidableEq

/-- A **counter** of the cache: a node and a counter of it. -/
structure Meter where
  nodeId : NodeId
  meter : NodeMeter
  deriving DecidableEq

/-! ### The counters of a node -/

namespace SchedulerNodeInfo

variable (node : SchedulerNodeInfo)

/-- The value of a counter, if the node has it. -/
def read : NodeMeter → Option Nat
  | .lent numaId => (node.findNuma numaId).map (·.memLent)
  | .shared numaId => (node.findNuma numaId).map (·.memShared)
  | .lentCount socketId => (node.getSocketInfo socketId).map (·.lentCount)
  | .borrow socketId =>
    (node.firstNuma socketId).bind fun numaId => (node.findNuma numaId).map (·.memBorrow)

theorem findNuma_modifyNuma {f : SchedulerNumaInfo → SchedulerNumaInfo}
    (hf : ∀ numa, (f numa).socketId = numa.socketId) (k k' : NumaId) :
    (node.modifyNuma k f).findNuma k' =
      if k' = k then (node.findNuma k').map f else node.findNuma k' := by
  unfold findNuma modifyNuma getSocketInfo
  simp only [Map.lookup_modify]
  split
  · cases node.numaInfoMap.lookup k' with
    | none => rfl
    | some numa =>
      rw [Option.map_some, Option.filter_some, Option.filter_some, hf]
      split <;> rfl
  · rfl

theorem findNuma_modifySocket (g : SchedulerSocketInfo → SchedulerSocketInfo) (s : SocketId)
    (k : NumaId) : (node.modifySocket s g).findNuma k = node.findNuma k := by
  unfold findNuma modifySocket getSocketInfo
  congr 1
  funext numa
  rw [Map.lookup_modify]
  split <;> simp

@[simp] theorem getSocketInfo_modifyNuma (f : SchedulerNumaInfo → SchedulerNumaInfo)
    (k : NumaId) (s : SocketId) :
    (node.modifyNuma k f).getSocketInfo s = node.getSocketInfo s := rfl

theorem getSocketInfo_modifySocket (g : SchedulerSocketInfo → SchedulerSocketInfo)
    (s s' : SocketId) :
    (node.modifySocket s g).getSocketInfo s' =
      if s' = s then (node.getSocketInfo s').map g else node.getSocketInfo s' :=
  Map.lookup_modify _ _ _ _

@[simp] theorem getAllNumaInfos_modifySocket (g : SchedulerSocketInfo → SchedulerSocketInfo)
    (s s' : SocketId) : (node.modifySocket s g).getAllNumaInfos s' = node.getAllNumaInfos s' :=
  rfl

/-- A change of a numa changes it in the list of its socket, where it stays in its place. -/
theorem getAllNumaInfos_modifyNuma {f : SchedulerNumaInfo → SchedulerNumaInfo}
    (hf : ∀ numa, (f numa).socketId = numa.socketId) (k : NumaId) (s : SocketId) :
    (node.modifyNuma k f).getAllNumaInfos s =
      (node.getAllNumaInfos s).map fun e => (e.1, if e.1 = k then f e.2 else e.2) := by
  unfold getAllNumaInfos modifyNuma Map.modify Map.mapValues
  rw [List.map_insertionSort (r := fun a b : NumaId × SchedulerNumaInfo => a.1 ≤ b.1)
    (s := fun a b : NumaId × SchedulerNumaInfo => a.1 ≤ b.1)]
  · congr 1
    simp only [List.map_map, List.filter_map, Function.comp_def]
    congr 1
    refine List.filter_congr fun e _ => ?_
    split <;> simp [hf]
  · exact fun _ _ _ _ => Iff.rfl

theorem firstNuma_modifyNuma {f : SchedulerNumaInfo → SchedulerNumaInfo}
    (hf : ∀ numa, (f numa).socketId = numa.socketId) (k : NumaId) (s : SocketId) :
    (node.modifyNuma k f).firstNuma s = node.firstNuma s := by
  unfold firstNuma
  simp [getAllNumaInfos_modifyNuma node hf, Function.comp_def]

theorem firstNuma_modifySocket (g : SchedulerSocketInfo → SchedulerSocketInfo)
    (s s' : SocketId) : (node.modifySocket s g).firstNuma s' = node.firstNuma s' := by
  unfold firstNuma
  rw [getSocketInfo_modifySocket]
  split
  · cases node.getSocketInfo s' <;> rfl
  · rfl

/-- The counters after a change of a numa. -/
theorem read_modifyNuma {f : SchedulerNumaInfo → SchedulerNumaInfo}
    (hf : ∀ numa, (f numa).socketId = numa.socketId) (k : NumaId) (m : NodeMeter) :
    (node.modifyNuma k f).read m =
      match m with
      | .lent k' => (node.findNuma k').map fun numa => (if k' = k then f numa else numa).memLent
      | .shared k' =>
        (node.findNuma k').map fun numa => (if k' = k then f numa else numa).memShared
      | .lentCount s => node.read (.lentCount s)
      | .borrow s =>
        (node.firstNuma s).bind fun k' =>
          (node.findNuma k').map fun numa => (if k' = k then f numa else numa).memBorrow := by
  cases m with
  | lent k' =>
    simp only [read, findNuma_modifyNuma node hf]
    split <;> simp [Function.comp_def]
  | shared k' =>
    simp only [read, findNuma_modifyNuma node hf]
    split <;> simp [Function.comp_def]
  | lentCount s => rfl
  | borrow s =>
    simp only [read, firstNuma_modifyNuma node hf, findNuma_modifyNuma node hf]
    congr 1
    funext k'
    split <;> simp [Function.comp_def]

/-- The counters after a change of a socket. -/
theorem read_modifySocket (g : SchedulerSocketInfo → SchedulerSocketInfo) (s : SocketId)
    (m : NodeMeter) :
    (node.modifySocket s g).read m =
      match m with
      | .lentCount s' =>
        (node.getSocketInfo s').map fun socket =>
          (if s' = s then g socket else socket).lentCount
      | m => node.read m := by
  cases m with
  | lent k => simp only [read, findNuma_modifySocket]
  | shared k => simp only [read, findNuma_modifySocket]
  | borrow s' => simp only [read, findNuma_modifySocket, firstNuma_modifySocket]
  | lentCount s' =>
    simp only [read, getSocketInfo_modifySocket]
    split <;> simp [Function.comp_def]

end SchedulerNodeInfo

/-! ### A fresh node -/

section Create

variable (info : UbseNodeInfo)

theorem mem_socketIds {info : UbseNodeInfo} {k : NumaId} {numa : UbseNumaInfo}
    (h : info.numaInfos.lookup k = some numa) : numa.socketId ∈ info.socketIds :=
  List.mem_map.2 ⟨⟨k, numa⟩, Map.mem_entries_iff.2 h, rfl⟩

theorem getSocketInfo_create (s : SocketId) :
    (SchedulerNodeInfo.create info).getSocketInfo s =
      if s ∈ info.socketIds then some { maxExportTimes := info.exportTotalTimes } else none :=
  Map.lookup_ofKeys _ _ _

theorem findNuma_create (k : NumaId) :
    (SchedulerNodeInfo.create info).findNuma k =
      (info.numaInfos.lookup k).map SchedulerNumaInfo.create := by
  unfold SchedulerNodeInfo.findNuma SchedulerNodeInfo.create
  simp only [Map.lookup_mapValues]
  cases h : info.numaInfos.lookup k with
  | none => rfl
  | some numa =>
    have hs := getSocketInfo_create info numa.socketId
    rw [if_pos (mem_socketIds h)] at hs
    have hs' : ((SchedulerNodeInfo.create info).getSocketInfo numa.socketId).isSome := by
      rw [hs]; rfl
    rw [Option.map_some, Option.filter_some]
    exact if_pos hs'

/-- The counters of a fresh node are at zero. -/
theorem read_create_eq_zero {m : NodeMeter} {v : Nat}
    (h : (SchedulerNodeInfo.create info).read m = some v) : v = 0 := by
  cases m with
  | lent k =>
    simp only [SchedulerNodeInfo.read, findNuma_create, Option.map_map] at h
    obtain ⟨numa, -, rfl⟩ := Option.map_eq_some_iff.1 h
    rfl
  | shared k =>
    simp only [SchedulerNodeInfo.read, findNuma_create, Option.map_map] at h
    obtain ⟨numa, -, rfl⟩ := Option.map_eq_some_iff.1 h
    rfl
  | lentCount s =>
    simp only [SchedulerNodeInfo.read, getSocketInfo_create] at h
    split at h <;> simp_all
  | borrow s =>
    simp only [SchedulerNodeInfo.read, findNuma_create, Option.map_map] at h
    obtain ⟨k, -, hk⟩ := Option.bind_eq_some_iff.1 h
    obtain ⟨numa, -, rfl⟩ := Option.map_eq_some_iff.1 hk
    rfl

theorem read_create_lent (k : NumaId) :
    ((SchedulerNodeInfo.create info).read (.lent k)).isSome ↔ k ∈ info.numaInfos := by
  simp [SchedulerNodeInfo.read, findNuma_create, AList.lookup_isSome]

theorem read_create_shared (k : NumaId) :
    ((SchedulerNodeInfo.create info).read (.shared k)).isSome ↔ k ∈ info.numaInfos := by
  simp [SchedulerNodeInfo.read, findNuma_create, AList.lookup_isSome]

theorem read_create_lentCount (s : SocketId) :
    ((SchedulerNodeInfo.create info).read (.lentCount s)).isSome ↔ s ∈ info.socketIds := by
  simp only [SchedulerNodeInfo.read, getSocketInfo_create]
  split <;> simp_all

end Create

/-! ### The counters of the cache -/

namespace SchedulerNodeManager

variable (mgr : SchedulerNodeManager)

/-- The value of a counter, if the cache has it. -/
def read (m : Meter) : Option Nat := (mgr.getNodeInfo m.nodeId).bind fun node => node.read m.meter

/-- The counters after a change of one node. -/
theorem read_modify (n : NodeId) (F : SchedulerNodeInfo → SchedulerNodeInfo) (m : Meter) :
    ({ mgr with nodeMap := mgr.nodeMap.modify n F } : SchedulerNodeManager).read m =
      if m.nodeId = n then (mgr.getNodeInfo n).bind fun node => (F node).read m.meter
      else mgr.read m := by
  unfold read getNodeInfo
  simp only [Map.lookup_modify]
  split
  next h => rw [h, Option.bind_map]; rfl
  next => rfl

/-- A change of a node that moves none of its counters moves none. -/
theorem read_modify_eq {n : NodeId} {F : SchedulerNodeInfo → SchedulerNodeInfo}
    (hF : ∀ node m, (F node).read m = node.read m) (m : Meter) :
    ({ mgr with nodeMap := mgr.nodeMap.modify n F } : SchedulerNodeManager).read m =
      mgr.read m := by
  rw [read_modify]
  split
  next h => simp only [hF, read, h]
  next => rfl

/-- The counters after a change of a numa that `GetNumaInfo` finds; one it does not find has
no counters. -/
theorem read_modifyNuma {f : SchedulerNumaInfo → SchedulerNumaInfo}
    (hf : ∀ numa, (f numa).socketId = numa.socketId) (n : NodeId) (k : NumaId) (m : Meter) :
    (mgr.modifyNuma n k f).read m =
      if m.nodeId = n then
        (mgr.getNodeInfo n).bind fun node => (node.modifyNuma k f).read m.meter
      else mgr.read m := by
  unfold modifyNuma
  split
  · exact mgr.read_modify n _ m
  next h =>
    split
    next hn =>
      unfold read
      rw [hn]
      cases hnode : mgr.getNodeInfo n with
      | none => rfl
      | some node =>
        have hk : node.findNuma k = none := by simpa [getNumaInfo, hnode] using h
        have hmiss : ∀ k', k' = k → node.findNuma k' = none := fun k' hk' => hk' ▸ hk
        rw [Option.bind_some, Option.bind_some, SchedulerNodeInfo.read_modifyNuma node hf]
        cases m.meter with
        | lent k' => by_cases hk' : k' = k <;> simp [SchedulerNodeInfo.read, hk', hk]
        | shared k' => by_cases hk' : k' = k <;> simp [SchedulerNodeInfo.read, hk', hk]
        | lentCount s => rfl
        | borrow s =>
          simp only [SchedulerNodeInfo.read]
          cases node.firstNuma s with
          | none => rfl
          | some k' => by_cases hk' : k' = k <;> simp [hk', hk]
    next => rfl

theorem read_modifySocket (g : SchedulerSocketInfo → SchedulerSocketInfo) (n : NodeId)
    (s : SocketId) (m : Meter) :
    (mgr.modifySocket n s g).read m =
      if m.nodeId = n then
        (mgr.getNodeInfo n).bind fun node => (node.modifySocket s g).read m.meter
      else mgr.read m :=
  mgr.read_modify n _ m

/-! ### Reading the memory and the links -/

/-- The sizes a numa reports are not counters. -/
theorem read_updateNumaMemorySize (node : SchedulerNodeInfo) (k : NumaId) (info : UbseNumaInfo)
    (m : NodeMeter) :
    (node.modifyNuma k fun numa => numa.updateNumaMemorySize info).read m = node.read m := by
  rw [SchedulerNodeInfo.read_modifyNuma node (f := fun numa => numa.updateNumaMemorySize info)
    fun _ => rfl]
  cases m with
  | lent k' => exact congrArg (Option.map · _) (by funext numa; split <;> rfl)
  | shared k' => exact congrArg (Option.map · _) (by funext numa; split <;> rfl)
  | lentCount s => rfl
  | borrow s =>
    simp only [SchedulerNodeInfo.read]
    congr 1
    funext k'
    exact congrArg (Option.map · _) (by funext numa; split <;> rfl)

@[simp] theorem read_updateNumas (n : NodeId) (numas : List (NumaId × UbseNumaInfo)) (m : Meter) :
    (mgr.updateNumas n numas).read m = mgr.read m := by
  unfold updateNumas
  induction numas generalizing mgr with
  | nil => rfl
  | cons e numas ih =>
    rw [List.foldl_cons, ih]
    refine mgr.read_modify_eq (fun node m => ?_) m
    split
    · exact read_updateNumaMemorySize node e.1 e.2 m
    · rfl

@[simp] theorem read_updateAllNumaMemInfo (nodes : List (NodeId × UbseNodeInfo)) (m : Meter) :
    (mgr.updateAllNumaMemInfo nodes).1.read m = mgr.read m := by
  induction nodes generalizing mgr with
  | nil => rfl
  | cons e nodes ih =>
    obtain ⟨n, info⟩ := e
    unfold updateAllNumaMemInfo
    split
    · split
      · rfl
      · rw [ih, read_updateNumas]
    · exact ih mgr

@[simp] theorem read_updateLinks (n : NodeId) (cpus : List UbseCpuInfo) (m : Meter) :
    (mgr.updateLinks n cpus).read m = mgr.read m := by
  unfold updateLinks
  induction cpus generalizing mgr with
  | nil => rfl
  | cons cpu cpus ih =>
    rw [List.foldl_cons, ih]
    refine mgr.read_modify_eq (fun node m => ?_) m
    rw [SchedulerNodeInfo.read_modifySocket]
    cases m with
    | lentCount s => exact congrArg (Option.map · _) (by funext socket; split <;> rfl)
    | lent k => rfl
    | shared k => rfl
    | borrow s => rfl

@[simp] theorem read_updateAllLinks (nodes : List (NodeId × UbseNodeInfo)) (m : Meter) :
    (mgr.updateAllLinks nodes).1.read m = mgr.read m := by
  induction nodes generalizing mgr with
  | nil => rfl
  | cons e nodes ih =>
    obtain ⟨n, info⟩ := e
    unfold updateAllLinks
    split
    · split
      · rfl
      · rw [ih, read_updateLinks]
    · exact ih mgr

@[simp] theorem read_updateAllLinkInfo (nodes : List (NodeId × UbseNodeInfo))
    (deployed : List Nat) (m : Meter) :
    (mgr.updateAllLinkInfo nodes deployed).1.read m = mgr.read m :=
  read_updateAllLinks _ nodes m

end SchedulerNodeManager

/-- Reading all nodes does not move the counters. -/
@[simp] theorem read_refresh (s : SchedulerImpl) (cluster : Cluster) (m : Meter) :
    (refresh s cluster).1.nodeInfo.read m = s.nodeInfo.read m := by
  unfold refresh
  have h := SchedulerNodeManager.read_updateAllNumaMemInfo s.nodeInfo cluster.nodes m
  split
  next heq => rw [heq] at h; exact h
  next mgr heq =>
    rw [heq] at h
    exact (SchedulerNodeManager.read_updateAllLinkInfo mgr cluster.nodes cluster.deployed m).trans h

@[simp] theorem account_refresh (s : SchedulerImpl) (cluster : Cluster) :
    (refresh s cluster).1.account = s.account := by
  unfold refresh
  split <;> rfl

/-! ### A node reports -/

namespace SchedulerNodeManager

variable (mgr : SchedulerNodeManager)

theorem nodeMap_linkChips (cpus : List UbseCpuInfo) :
    (mgr.linkChips cpus).1.nodeMap = mgr.nodeMap := by
  induction cpus generalizing mgr with
  | nil => rfl
  | cons cpu cpus ih =>
    unfold linkChips
    split
    · rfl
    · exact ih _

@[simp] theorem read_updateNodeState (info : UbseNodeInfo) (m : Meter) :
    (mgr.updateNodeState info).read m = mgr.read m :=
  mgr.read_modify_eq (fun _ m => by cases m <;> rfl) m

theorem read_congr {mgr mgr' : SchedulerNodeManager} (h : mgr'.nodeMap = mgr.nodeMap)
    (m : Meter) : mgr'.read m = mgr.read m := by
  unfold read getNodeInfo
  rw [h]

@[simp] theorem nodeMap_updateProviderNodeList (n : NodeId) (host : String) :
    (mgr.updateProviderNodeList n host).nodeMap = mgr.nodeMap := by
  unfold updateProviderNodeList
  split
  · rfl
  · rfl
  · split <;> rfl

@[simp] theorem nodeMap_updateGroupNodeList (n : NodeId) (host : String) :
    (mgr.updateGroupNodeList n host).nodeMap = mgr.nodeMap := by
  unfold updateGroupNodeList
  split <;> rfl

@[simp] theorem nodeMap_updateNodeInfoCache (n : NodeId) :
    (mgr.updateNodeInfoCache n).nodeMap = mgr.nodeMap := by
  unfold updateNodeInfoCache
  split <;> rfl

/-- Whether a report puts a new object in the place of its node. -/
def Builds (info : UbseNodeInfo) : Prop :=
  info.nodeId ≠ "" ∧ mgr.rebuilds info = true ∧ info.clusterState ≠ .fault

instance (info : UbseNodeInfo) : Decidable (mgr.Builds info) := by
  unfold Builds; infer_instance

/-- **What a report does to the counters**: those of a node that is built anew are the ones
of a fresh node, and no other counter moves – whether or not the report is then found to have
a chip that is no number. -/
theorem read_updateNodeInfo (info : UbseNodeInfo) (deployed : List Nat) (m : Meter) :
    (mgr.updateNodeInfo info deployed).1.read m =
      if mgr.Builds info ∧ m.nodeId = info.nodeId then (SchedulerNodeInfo.create info).read m.meter
      else mgr.read m := by
  unfold updateNodeInfo
  by_cases hid : info.nodeId = ""
  · simp [Builds, hid]
  by_cases hre : mgr.rebuilds info = true
  swap
  · simp [Builds, hid, hre]
  by_cases hfault : info.clusterState = .fault
  · simp [Builds, hid, hre, hfault]
  have hb : mgr.Builds info := ⟨hid, hre, hfault⟩
  have hinit : (mgr.initOneNodeData info).read m =
      if m.nodeId = info.nodeId then (SchedulerNodeInfo.create info).read m.meter
      else mgr.read m := by
    unfold read getNodeInfo initOneNodeData
    simp only [Map.lookup_insert_ite]
    split <;> rfl
  have hlink := nodeMap_linkChips
    ((mgr.initOneNodeData info).updateNodeInfoCache info.nodeId) info.cpuInfos
  rw [nodeMap_updateNodeInfoCache] at hlink
  simp only [hid, if_false, hre, if_true, hfault, hb, true_and]
  split
  next mgr' e heq =>
    rw [heq] at hlink
    rw [← hinit]
    exact read_congr hlink m
  next mgr' heq =>
    rw [heq] at hlink
    rw [← hinit, read_updateNodeState]
    refine read_congr ?_ m
    rw [← hlink]
    simp [updateStaticNodeInfo]

end SchedulerNodeManager

end Scheduler

end UbsEngine
