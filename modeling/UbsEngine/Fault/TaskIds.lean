import UbsEngine.Fault.Plan
import Mathlib.Data.List.Induction

/-!
# The tasks of a node are told apart by their ids

An answer names each process once, and says of a usage whose it is
(`UbsEngine.Fault.WellReported`). The id of a task is made of the id of its container or, if there
is none, of its process: the former has 64 hex digits and the latter at most ten digits, so that the
tasks of one node have different ids (`UbsEngine.Fault.nodup_taskId`). Nothing is said here of tasks
of different nodes, whose processes may have the same ids.
-/

namespace UbsEngine

namespace Fault

open Mem

/-! ### The processes of an answer -/

/-- What is known of the processes that are reported. The name of a virtual machine may be
anything. -/
structure WellReported (sceneType : MpSceneType) (infos : List PidMemInfo) : Prop where
  nodup : (infos.map (·.pid)).Nodup
  usages : ∀ info ∈ infos, ∀ usage ∈ info.faultNumaUsages, usage.pid = info.pid
  instances : sceneType = .CONTAINER_SCENE → ∀ info ∈ infos, info.instanceId = [] ∨
    info.instanceId.length = CONTAINER_ID_LEN ∧ ∀ c ∈ info.instanceId, isxdigit c

namespace WellReported

variable {sceneType : MpSceneType} {infos : List PidMemInfo}

theorem nil : WellReported sceneType [] := ⟨.nil, by simp, by simp⟩

theorem sublist (h : WellReported sceneType infos) {infos' : List PidMemInfo}
    (hsub : infos'.Sublist infos) : WellReported sceneType infos' where
  nodup := (hsub.map _).nodup h.nodup
  usages info hinfo := h.usages info (hsub.subset hinfo)
  instances hscene info hinfo := h.instances hscene info (hsub.subset hinfo)

/-- To mark the processes changes nothing of this. -/
theorem mark (h : WellReported sceneType infos) (env : CollectEnv) (node : string) :
    WellReported sceneType (infos.map (markSocketConstraint sceneType env node)) where
  nodup := by
    rw [List.map_map]
    exact h.nodup
  usages := List.forall_mem_map.2 h.usages
  instances hscene := List.forall_mem_map.2 (h.instances hscene)

end WellReported

theorem addNuma_pid (faultNumaIds : List NumaId) (entry : VmCollectEntry)
    (numaInfo : VmDomainNumaInfo) :
    (entry.addNuma faultNumaIds numaInfo).pidInfo.pid = entry.pidInfo.pid := by
  rw [VmCollectEntry.addNuma]
  split
  · rfl
  · split
    · rfl
    · split
      · rfl
      · rfl

theorem foldl_addNuma_pid (faultNumaIds : List NumaId) (numaInfos : List VmDomainNumaInfo)
    (entry : VmCollectEntry) :
    (numaInfos.foldl (·.addNuma faultNumaIds) entry).pidInfo.pid = entry.pidInfo.pid := by
  induction numaInfos generalizing entry with
  | nil => rfl
  | cons numaInfo numaInfos ih => exact (ih _).trans (addNuma_pid faultNumaIds entry numaInfo)

/-- What is collected of a process is filed under its id. -/
def FiledVms (vmEntries : Map Pid VmCollectEntry) : Prop :=
  ∀ pid entry, vmEntries.lookup pid = some entry → entry.pidInfo.pid = pid

theorem filedVms_snapshot (faultNumaIds : List NumaId) (vmInfos : List VmDomainInfo) :
    FiledVms (collectVmFaultNumaSnapshot faultNumaIds vmInfos) := by
  have hempty : FiledVms ∅ := fun _ _ h => nomatch h
  refine List.foldlRecOn vmInfos _ hempty fun vmEntries ih info _ pid entry h => ?_
  rw [Map.lookup_insert_ite] at h
  split at h
  next hpid =>
    obtain rfl := Option.some.inj h
    rw [foldl_addNuma_pid, hpid]
  next => exact ih pid entry h

theorem pid_of_mem_stableUsages {env : NodeCollectEnv} {faultNumaIds : List NumaId} {pid : Pid}
    {entry : VmCollectEntry} {usage : NumaMemUsage}
    (h : usage ∈ stableUsages env faultNumaIds pid entry) : usage.pid = pid := by
  obtain ⟨numaId, -, h⟩ := List.mem_filterMap.1 h
  split at h
  · obtain rfl := Option.some.inj h
    rfl
  · cases h

theorem wellReported_reportVms (env : NodeCollectEnv) (faultNumaIds : List NumaId)
    (vmInfos : List VmDomainInfo) :
    WellReported .VIRTUAL_SCENE
      (reportVms env faultNumaIds (collectVmFaultNumaSnapshot faultNumaIds vmInfos)) := by
  have hpid : ∀ e ∈ env.vmOrder.run (collectVmFaultNumaSnapshot faultNumaIds vmInfos),
      e.2.pidInfo.pid = e.1 := fun e he =>
    filedVms_snapshot faultNumaIds vmInfos e.1 e.2 (env.vmOrder.mem_run.1 he)
  have hall : WellReported .VIRTUAL_SCENE
      ((env.vmOrder.run (collectVmFaultNumaSnapshot faultNumaIds vmInfos)).map fun e =>
        { e.2.pidInfo with faultNumaUsages := stableUsages env faultNumaIds e.1 e.2 }) := by
    refine ⟨?_, ?_, nofun⟩
    · have hmap := List.map_congr_left hpid
      rw [List.map_map]
      exact hmap ▸ env.vmOrder.nodup_run
    · exact List.forall_mem_map.2 fun e he usage husage =>
        (pid_of_mem_stableUsages husage).trans (hpid e he).symm
  exact hall.sublist List.filter_sublist

theorem wellReported_collectVmPidMemInfos (env : NodeCollectEnv) (faultNumaIds : List NumaId) :
    WellReported .VIRTUAL_SCENE (collectVmPidMemInfos env faultNumaIds).pidMemDistribution := by
  rw [collectVmPidMemInfos]
  split
  · exact .nil
  · dsimp only
    split
    · exact wellReported_reportVms _ _ _
    · split
      · exact .nil
      · split
        · exact .nil
        · exact wellReported_reportVms _ _ _

/-! ### The processes of containers -/

/-- What is filed of a process is about it, with its container. -/
def Filed (env : NodeCollectEnv) (pidInfoMap : Map Pid PidMemInfo) : Prop :=
  ∀ pid info, pidInfoMap.lookup pid = some info → info.pid = pid ∧
    info.instanceId = getContainerIdByPid env pid ∧ ∀ usage ∈ info.faultNumaUsages, usage.pid = pid

theorem filed_ofKeys (env : NodeCollectEnv) (pids : List Pid) :
    Filed env (Map.ofKeys pids fun pid =>
      { pid := pid, instanceId := getContainerIdByPid env pid }) := by
  intro pid info h
  rw [Map.lookup_ofKeys, Option.ite_none_right_eq_some] at h
  obtain rfl := Option.some.inj h.2
  exact ⟨rfl, rfl, fun _ husage => nomatch husage⟩

theorem filed_fill {env : NodeCollectEnv} (faultNumaIds : List NumaId) (basePageKB : Nat)
    (pidInfoList : List PidInfo) {pidInfoMap : Map Pid PidMemInfo} (h : Filed env pidInfoMap) :
    Filed env (fillContainerPidMemInfosByCollect faultNumaIds basePageKB pidInfoList
      pidInfoMap) := by
  rw [fillContainerPidMemInfosByCollect]
  refine List.foldlRecOn pidInfoList _ h fun pidInfoMap ih collected _ pid info hinfo => ?_
  split at hinfo
  next => exact ih pid info hinfo
  next old hold =>
    rw [Map.lookup_insert_ite] at hinfo
    split at hinfo
    next hpid =>
      obtain rfl := Option.some.inj hinfo
      obtain ⟨hid, hinstance, husages⟩ := ih _ _ hold
      refine ⟨hid.trans hpid.symm, hinstance.trans (by rw [hpid]), fun usage husage => ?_⟩
      rcases List.mem_append.1 husage with husage | husage
      · exact (husages usage husage).trans hpid.symm
      · obtain ⟨numaInfo, -, husage⟩ := List.mem_filterMap.1 husage
        rw [Option.ite_none_right_eq_some] at husage
        obtain rfl := Option.some.inj husage.2
        exact hpid.symm
    next => exact ih pid info hinfo

theorem wellReported_of_filed {env : NodeCollectEnv} {pidInfoMap : Map Pid PidMemInfo}
    (h : Filed env pidInfoMap) (o : Map.Iteration Pid PidMemInfo) :
    WellReported .CONTAINER_SCENE ((o.run pidInfoMap).map Prod.snd) := by
  have hfiled : ∀ e ∈ o.run pidInfoMap, e.2.pid = e.1 ∧
      e.2.instanceId = getContainerIdByPid env e.1 ∧ ∀ usage ∈ e.2.faultNumaUsages,
        usage.pid = e.1 := fun e he => h e.1 e.2 (o.mem_run.1 he)
  refine ⟨?_, ?_, fun _ => ?_⟩
  · have hmap := List.map_congr_left fun e he => (hfiled e he).1
    rw [List.map_map]
    exact hmap ▸ o.nodup_run
  · exact List.forall_mem_map.2 fun e he usage husage =>
      ((hfiled e he).2.2 usage husage).trans (hfiled e he).1.symm
  · refine List.forall_mem_map.2 fun e he => ?_
    rw [(hfiled e he).2.1]
    exact getContainerIdByPid_spec env e.1

theorem wellReported_collectContainerPidMemInfos (env : NodeCollectEnv)
    (faultNumaIds : List NumaId) :
    WellReported .CONTAINER_SCENE
      (collectContainerPidMemInfos env faultNumaIds).pidMemDistribution := by
  rw [collectContainerPidMemInfos]
  split
  · exact .nil
  · split
    · exact .nil
    · split
      · exact .nil
      · exact (wellReported_of_filed (filed_fill _ _ _ (filed_ofKeys env _)) _).sublist
          List.filter_sublist

/-- **What a node answers is well reported.** -/
theorem wellReported_pidQueryRecvHandler (sceneType : MpSceneType) (env : NodeCollectEnv)
    (faultNumaIds : List NumaId) :
    WellReported sceneType (pidQueryRecvHandler sceneType env faultNumaIds).pidMemDistribution := by
  cases sceneType with
  | CONTAINER_SCENE => exact wellReported_collectContainerPidMemInfos env faultNumaIds
  | VIRTUAL_SCENE => exact wellReported_collectVmPidMemInfos env faultNumaIds

/-! ### The groups of processes -/

/-- The processes of one container, in their order. -/
theorem lookup_containerMap (pidInfos : List PidMemInfo) (key : string) :
    ((containerMap pidInfos).lookup key).getD [] =
      pidInfos.filter fun info => containerKey info = key := by
  induction pidInfos using List.reverseRecOn with
  | nil => rfl
  | append_singleton infos info ih =>
    rw [containerMap, List.foldl_append, List.foldl_cons, List.foldl_nil, ← containerMap,
      Map.lookup_insert_ite, List.filter_append, ← ih]
    split
    next hkey =>
      rw [Option.getD_some, hkey, List.filter_cons_of_pos (by simp), List.filter_nil]
    next hkey =>
      rw [List.filter_cons_of_neg (by simpa using Ne.symm hkey), List.filter_nil, List.append_nil]

/-- No group is empty. -/
theorem ne_nil_of_lookup_containerMap {pidInfos group : List PidMemInfo} {key : string}
    (h : (containerMap pidInfos).lookup key = some group) : group ≠ [] := by
  suffices hall : ∀ key group, (containerMap pidInfos).lookup key = some group → group ≠ [] from
    hall key group h
  have hstep : ∀ m : Map string (List PidMemInfo),
      (∀ key group, m.lookup key = some group → group ≠ []) → ∀ info ∈ pidInfos,
        ∀ key group, (m.insert (containerKey info)
          ((m.lookup (containerKey info)).getD [] ++ [info])).lookup key = some group →
            group ≠ [] := by
    intro m ih info _ key group h
    rw [Map.lookup_insert_ite] at h
    split at h
    next =>
      obtain rfl := Option.some.inj h
      exact List.append_ne_nil_of_right_ne_nil _ (List.cons_ne_nil _ _)
    next => exact ih key group h
  exact List.foldlRecOn (motive := fun m : Map string (List PidMemInfo) =>
    ∀ key group, m.lookup key = some group → group ≠ []) pidInfos _ (fun _ _ h => nomatch h) hstep

/-- A group has the processes of its key. -/
theorem group_of_lookup {pidInfos group : List PidMemInfo} {key : string}
    (h : (containerMap pidInfos).lookup key = some group) :
    group = pidInfos.filter fun info => containerKey info = key := by
  rw [← lookup_containerMap, h, Option.getD_some]

theorem containerKey_of_mem_group {pidInfos group : List PidMemInfo} {key : string}
    (h : (containerMap pidInfos).lookup key = some group) {info : PidMemInfo}
    (hinfo : info ∈ group) : info ∈ pidInfos ∧ containerKey info = key := by
  rw [group_of_lookup h, List.mem_filter, decide_eq_true_eq] at hinfo
  exact hinfo


/-! ### The ids -/

/-- What a process contributes to the id of its task: its container, or itself. -/
def localName (info : PidMemInfo) : string :=
  if info.instanceId = [] then to_string info.pid.toNat else info.instanceId

/-- The instance is that of a container, or not known. -/
def OfContainer (info : PidMemInfo) : Prop :=
  info.instanceId = [] ∨
    info.instanceId.length = CONTAINER_ID_LEN ∧ ∀ c ∈ info.instanceId, isxdigit c

/-- A text of hex digits is no `pid_` text. -/
theorem not_pid_key {id : string} (h : ∀ c ∈ id, isxdigit c) : ¬PID_PREFIX <+: id := by
  rintro ⟨rest, rfl⟩
  exact absurd (h 112 (by simp [PID_PREFIX])) (by decide)

/-- The local names tell the groups apart. -/
theorem containerKey_of_localName {info info' : PidMemInfo} (h : OfContainer info)
    (h' : OfContainer info') (heq : localName info = localName info') :
    containerKey info = containerKey info' := by
  have hne : ∀ {info info' : PidMemInfo}, info'.instanceId.length = CONTAINER_ID_LEN →
      to_string info.pid.toNat ≠ info'.instanceId := by
    intro info info' hlen heq
    have := length_to_string info.pid
    rw [heq, hlen] at this
    exact absurd this (by decide)
  have hpos : ∀ {info : PidMemInfo}, info.instanceId.length = CONTAINER_ID_LEN →
      info.instanceId ≠ [] := fun hlen => List.ne_nil_of_length_pos (by rw [hlen]; decide)
  rw [localName, localName] at heq
  rw [containerKey, containerKey]
  rcases h with h | ⟨hlen, -⟩ <;> rcases h' with h' | ⟨hlen', -⟩
  · rw [if_pos h, if_pos h'] at heq
    rw [if_pos h, if_pos h', heq]
  · rw [if_pos h, if_neg (hpos hlen')] at heq
    exact absurd heq (hne hlen')
  · rw [if_neg (hpos hlen), if_pos h'] at heq
    exact absurd heq.symm (hne hlen)
  · rw [if_neg (hpos hlen), if_neg (hpos hlen')] at heq
    rw [if_neg (hpos hlen), if_neg (hpos hlen'), heq]

/-- The id of the task of a group. -/
theorem taskId_containerTask (borrowIds : List string) {key : string} {info : PidMemInfo}
    {infos : List PidMemInfo} (h : OfContainer info) (hkey : containerKey info = key) :
    (containerTask borrowIds key (info :: infos)).taskId = CONTAINER_PREFIX ++ localName info := by
  rw [containerTask, localName, ← hkey, containerKey]
  dsimp only
  rcases h with h | ⟨hlen, hhex⟩
  · have hid : taskContainerId (PID_PREFIX ++ to_string info.pid.toNat) = [] :=
      if_pos (List.prefix_append _ _)
    rw [if_pos h, if_pos h, if_pos hid]
    rfl
  · have hne : info.instanceId ≠ [] := List.ne_nil_of_length_pos (by rw [hlen]; decide)
    have hid : taskContainerId info.instanceId = info.instanceId := if_neg (not_pid_key hhex)
    rw [if_neg hne, if_neg hne, hid, if_neg hne]

theorem nodup_taskId_containers {infos : List PidMemInfo}
    (h : WellReported .CONTAINER_SCENE infos) (o : Map.Iteration string (List PidMemInfo))
    (borrowIds : List string) :
    ((aggregateContainerTasks o borrowIds infos).map (·.taskId)).Nodup := by
  rw [aggregateContainerTasks, List.map_map]
  refine (o.nodup_run.of_map _).map_on fun e he e' he' heq => ?_
  -- The processes that two groups begin with have different local names.
  have hfirst : ∀ e ∈ o.run (containerMap infos), ∃ info, OfContainer info ∧
      containerKey info = e.1 ∧
        (containerTask borrowIds e.1 e.2).taskId = CONTAINER_PREFIX ++ localName info := by
    rintro ⟨key, group⟩ he
    have hlookup := o.mem_run.1 he
    match group, ne_nil_of_lookup_containerMap hlookup with
    | info :: group, _ =>
      obtain ⟨hinfo, hkey⟩ := containerKey_of_mem_group hlookup List.mem_cons_self
      exact ⟨info, h.instances rfl info hinfo, hkey,
        taskId_containerTask borrowIds (h.instances rfl info hinfo) hkey⟩
  obtain ⟨info, hinfo, hkey, hid⟩ := hfirst e he
  obtain ⟨info', hinfo', hkey', hid'⟩ := hfirst e' he'
  refine List.inj_on_of_nodup_map o.nodup_run he he' ?_
  rw [← hkey, ← hkey']
  have hnames : CONTAINER_PREFIX ++ localName info = CONTAINER_PREFIX ++ localName info' := by
    rw [← hid, ← hid']
    exact heq
  exact containerKey_of_localName hinfo hinfo' (List.append_cancel_left hnames)

theorem nodup_taskId_vms {infos : List PidMemInfo} (h : WellReported .VIRTUAL_SCENE infos)
    (borrowIds : List string) : ((buildVmTasks borrowIds infos).map (·.taskId)).Nodup := by
  have hmap : (buildVmTasks borrowIds infos).map (·.taskId) =
      (infos.map (·.pid)).map fun pid => VM_PREFIX ++ to_string pid.toNat := by
    rw [buildVmTasks, List.map_map, List.map_map]
    rfl
  rw [hmap]
  refine h.nodup.map fun pid pid' heq => ?_
  exact UInt32.toNat_inj.1 (to_string_injective (List.append_cancel_left heq))

section Node

variable {sceneType : MpSceneType} {faultNodeId : string} {env : CollectEnv}
  {debtInfos : List UbseNumaMemoryDebtInfo}

theorem wellReported_affectedPidInfos (node : string) :
    WellReported sceneType
      (affectedPidInfos (collectContext sceneType faultNodeId env debtInfos) node) := by
  have hinfos : WellReported sceneType (((answerOf sceneType faultNodeId env debtInfos node).map
      fun response => response.pidMemDistribution.map
        (markSocketConstraint sceneType env node)).getD []) := by
    rw [answerOf, queryNode]
    split
    · rw [Option.filter_some]
      split
      · exact (wellReported_pidQueryRecvHandler sceneType _ _).mark env node
      · exact .nil
    · exact .nil
  exact hinfos.sublist List.filter_sublist

/-- **The tasks of a node have different ids.** -/
theorem nodup_taskId (o : Map.Iteration string (List PidMemInfo)) (node : string) :
    ((buildTasksForNode sceneType o (collectContext sceneType faultNodeId env debtInfos)
      node).tasks.map (·.taskId)).Nodup := by
  have hinfos : WellReported sceneType
      (affectedPidInfos (collectContext sceneType faultNodeId env debtInfos) node) :=
    wellReported_affectedPidInfos node
  rw [buildTasksForNode]
  dsimp only
  split
  · exact .nil
  · cases sceneType with
    | CONTAINER_SCENE => exact nodup_taskId_containers hinfos o _
    | VIRTUAL_SCENE => exact nodup_taskId_vms hinfos _

end Node

end Fault

end UbsEngine
