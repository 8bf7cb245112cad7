import UbsEngine.Fault.Persisted

/-!
# Old borrowings are released when they are empty

A node gives back the old borrowings of which all tasks of its request have been taken out of
control. Every task is to give back all borrowings of its node, so that one task in the request is
enough for all of them to be released. But a request need not have all tasks that were built for
its node: some were dropped, and a NUMA node that is pending has none. And a task may count as taken
out of control although a process of it has not been migrated: the task was resumed in a late phase,
or the process has no quota.

What is released is empty if the request covers the NUMA node (`UbsEngine.Fault.Covers`). This is
so of every release exactly if every borrowing that is given back by condition is on a NUMA node
that the request covers (`UbsEngine.Fault.run_releasesEmpty`).
-/

namespace UbsEngine

namespace Fault

open Mem

section Statement

variable (sceneType : MpSceneType) (faultNodeId : string) (env : CollectEnv)
  (debtInfos : List UbseNumaMemoryDebtInfo) (node : string)

/-- **A process uses a faulty NUMA node**: its usage is reported, or it is why the NUMA node is
pending. -/
inductive UsesNuma (pid : Pid) (numaId : NumaId) : Prop where
  | reported (infos : List PidMemInfo) (info : PidMemInfo) (usage : NumaMemUsage)
      (answer : (collectContext sceneType faultNodeId env debtInfos).nodeToPidMemInfos node =
        some infos)
      (hinfo : info ∈ infos) (husage : usage ∈ info.faultNumaUsages) (hpid : usage.pid = pid)
      (hnuma : usage.numaId = numaId)
  | pending (vmInfos : List VmDomainInfo) (entry : VmCollectEntry)
      (hpending : numaId ∈
        (collectContext sceneType faultNodeId env debtInfos).nodeToPendingFaultNumaIds node)
      (collected : (env.node node).vmInfos = some vmInfos)
      (hentry : (collectVmFaultNumaSnapshot (faultNumas faultNodeId env debtInfos node)
        vmInfos).lookup pid = some entry)
      (husage : entry.collectedKB numaId ≠ 0)

end Statement

/-- A process has been migrated away from a NUMA node and taken out of its control. -/
structure Vacated (events : List NodeEvent) (pid : Pid) (numaId : NumaId) : Prop where
  migrated : ∃ srcNumaIds b, .migrate pid srcNumaIds b true ∈ events ∧ numaId ∈ srcNumaIds
  removed : ∃ pids, .removed pids numaId ∈ events ∧ pid ∈ pids

/-- The old borrowings that a request gives back by condition, if it is not lost. -/
def Sent.returned (env : RoundEnv) (s : Sent) : List string :=
  if env.dispatch s.plan.borrowInNodeId = .lost then []
  else (executeConditionalReturn (env.exec s.plan.borrowInNodeId) s.plan.tasks
    (advancedPhases (env.exec s.plan.borrowInNodeId) s.plan.tasks)).2

/-- **A request covers a NUMA node** of its node: the NUMA node is not pending, and every task that
was built for it is in the request, is still to be migrated, and can be migrated from there. -/
structure Covers (env : RoundEnv) (context : OverCommitFaultContext)
    (nodePlans : List BorrowInNodePlan) (s : Sent) (numaId : NumaId) : Prop where
  notPending : numaId ∉ context.nodeToPendingFaultNumaIds s.plan.borrowInNodeId
  tasks : ∀ nodePlan ∈ nodePlans, nodePlan.borrowInNodeId = s.plan.borrowInNodeId →
    ∀ task ∈ nodePlan.tasks, numaId ∈ srcNumaIds task →
      ∃ sent ∈ s.plan.tasks, sent.taskId = task.taskId ∧ sent.phase ≤ .BORROWED ∧
        ∀ usage ∈ sent.faultNumaUsages, usage.numaId = numaId →
          numaId ∈ payloadNumas (env.exec s.plan.borrowInNodeId) sent usage.pid

section Round

variable (sceneType : MpSceneType) (faultNodeId : string) (env : RoundEnv) (r : Round)

/-- **What a round releases is empty**: before an old borrowing is given back, every process that
uses its NUMA node has been migrated away and taken out of control there. -/
def ReleasesEmpty : Prop :=
  ∀ s ∈ r.executed.sent, ∀ before b after, s.events = before ++ .freed b :: after →
    ∀ ledger ∈ env.collect.ledger, ∀ debt ∈ acceptedDebts faultNodeId env.collect ledger.debtInfos,
      debt.borrowNodeId = s.plan.borrowInNodeId → debt.name = b → ∀ pid,
        UsesNuma sceneType faultNodeId env.collect ledger.debtInfos s.plan.borrowInNodeId pid
          debt.remoteNumaId.toNat → Vacated before pid debt.remoteNumaId.toNat

/-- Whatever is given back by condition is on a NUMA node that the request covers. -/
def ReturnsCovered : Prop :=
  ∀ s ∈ r.executed.sent, ∀ b ∈ s.returned env, ∀ context ∈ r.context,
    ∀ ledger ∈ env.collect.ledger, ∀ debt ∈ acceptedDebts faultNodeId env.collect ledger.debtInfos,
      debt.borrowNodeId = s.plan.borrowInNodeId → debt.name = b →
        Covers env context r.nodePlans s debt.remoteNumaId.toNat

end Round

/-! ### What a task does -/

theorem removePids_removed {env : NodeExecEnv} {task : MigrationTask} {numaIds : List NumaId}
    (h : ¬(removePids env task numaIds).1 < .REMOVED) :
    ∀ numaId ∈ numaIds,
      .removed (numaPids task numaId) numaId ∈ (removePids env task numaIds).2 := by
  induction numaIds with
  | nil => exact fun _ h => nomatch h
  | cons numaId numaIds ih =>
    by_cases hremove : env.remove task.taskId numaId
    · rw [removePids, if_pos hremove] at h ⊢
      exact List.forall_mem_cons.2 ⟨List.mem_cons_self,
        fun numaId hmem => List.mem_cons_of_mem _ (ih h numaId hmem)⟩
    · rw [removePids, if_neg hremove] at h
      exact absurd (show TaskPhase.MIGRATED < .REMOVED by decide) h

/-- A task that is migrated and taken out of control leaves no process behind that could be
migrated. -/
theorem vacated_of_migrateSingleTask {env : NodeExecEnv} {task : MigrationTask}
    (h : ¬(migrateSingleTask env task).1 < .REMOVED) {usage : NumaMemUsage}
    (husage : usage ∈ task.faultNumaUsages) (hpid : usage.pid ∈ task.pids)
    (hpayload : usage.numaId ∈ payloadNumas env task usage.pid) :
    Vacated (migrateSingleTask env task).2 usage.pid usage.numaId := by
  have hnone : TaskPhase.NONE < .REMOVED := by decide
  generalize hresult : migrateSingleTask env task = result at h ⊢
  rw [migrateSingleTask] at hresult
  split at hresult
  · subst hresult
    exact absurd hnone h
  split at hresult
  · subst hresult
    exact absurd hnone h
  next hmigrates =>
    subst hresult
    have hne : payloadNumas env task usage.pid ≠ [] := List.ne_nil_of_mem hpayload
    have hscope : usage.pid ∈ scopedPids task := by
      refine List.mem_filter.2 ⟨hpid, decide_eq_true ?_⟩
      exact List.ne_nil_of_mem (List.mem_of_mem_filter (List.mem_of_mem_take hpayload))
    have hdone : migratesPid env task usage.pid := by
      by_contra hfail
      exact hmigrates (Or.inr ⟨usage.pid, hscope, Bool.eq_false_iff.2 hfail⟩)
    constructor
    · refine ⟨_, task.newBorrowId, List.mem_append_left _ (List.mem_map.2 ⟨usage.pid,
        List.mem_filter.2 ⟨hscope, decide_eq_true hne⟩, ?_⟩), hpayload⟩
      rw [(of_decide_eq_true hdone).2]
    · refine ⟨_, List.mem_append_right _ (removePids_removed h usage.numaId ?_), ?_⟩
      · exact List.mem_dedup.2 (List.mem_map_of_mem husage)
      · exact List.mem_dedup.2 (List.mem_map.2
          ⟨usage, List.mem_filter.2 ⟨husage, decide_eq_true rfl⟩, rfl⟩)

theorem vacated_of_advanceTask {env : NodeExecEnv} {tasks : List MigrationTask}
    {task : MigrationTask} (hphase : task.phase ≤ .BORROWED)
    (h : ¬(advanceTask env tasks task).1 < .REMOVED) {usage : NumaMemUsage}
    (husage : usage ∈ task.faultNumaUsages) (hpid : usage.pid ∈ task.pids)
    (hpayload : usage.numaId ∈ payloadNumas env task usage.pid) :
    Vacated (advanceTask env tasks task).2 usage.pid usage.numaId := by
  have hlow : ∀ phase : TaskPhase, phase ≤ .BORROWED → phase < .REMOVED := by
    intro phase
    cases phase <;> decide
  generalize hresult : advanceTask env tasks task = result at h ⊢
  rw [advanceTask] at hresult
  split at hresult
  · rw [runTask] at hresult
    split at hresult
    · split at hresult
      · split at hresult
        · subst hresult
          exact vacated_of_migrateSingleTask h husage hpid hpayload
        · subst hresult
          exact absurd (hlow .BORROWED (by decide)) h
      · subst hresult
        exact absurd (hlow .BORROWED (by decide)) h
    next hmigrated =>
      rw [hmigrated] at hphase
      exact absurd hphase (by decide)
    · subst hresult
      exact absurd (hlow _ hphase) h
  · subst hresult
    exact absurd (hlow _ hphase) h

/-! ### Where a release stands -/

/-- A release is the first thing that is done, or comes after everything that is done for the
tasks. -/
theorem release_cases {env : NodeExecEnv} {tasks : List MigrationTask} {directIds : List string}
    {before after : List NodeEvent} {b : string}
    (h : (pidExecuteRecvHandler env tasks directIds).2 = before ++ .freed b :: after) :
    b ∈ directIds ∨
      b ∈ (executeConditionalReturn env tasks (advancedPhases env tasks)).2 ∧
        ∀ task ∈ tasks, (advanceTask env tasks task).2 ⊆ before := by
  have hdirect : ∀ event ∈ (directIds.filter env.freeDirect).map NodeEvent.freed,
      event = .freed b → b ∈ directIds := by
    rintro _ hevent rfl
    obtain ⟨b, hb, heq⟩ := List.mem_map.1 hevent
    cases heq
    exact (List.mem_filter.1 hb).1
  have htasks : .freed b ∉ tasks.flatMap fun task => (advanceTask env tasks task).2 := by
    intro hevent
    obtain ⟨task, -, hevent⟩ := List.mem_flatMap.1 hevent
    rcases (mem_advanceTask hevent).2 with hevent | ⟨_, heq⟩
    · obtain ⟨_, -, heq⟩ := List.mem_map.1 hevent
      cases heq
    · cases heq
  have hlast : ∀ mid, before = (directIds.filter env.freeDirect).map NodeEvent.freed ++
        tasks.flatMap (fun task => (advanceTask env tasks task).2) ++ mid →
      (executeConditionalReturn env tasks (advancedPhases env tasks)).2.map NodeEvent.freed =
        mid ++ .freed b :: after →
      b ∈ (executeConditionalReturn env tasks (advancedPhases env tasks)).2 ∧
        ∀ task ∈ tasks, (advanceTask env tasks task).2 ⊆ before := by
    intro mid hbefore hreturned
    refine ⟨?_, fun task htask event hevent => ?_⟩
    · have hmem : NodeEvent.freed b ∈ (executeConditionalReturn env tasks
          (advancedPhases env tasks)).2.map NodeEvent.freed := hreturned ▸ by simp
      obtain ⟨b, hb, heq⟩ := List.mem_map.1 hmem
      cases heq
      exact hb
    · rw [hbefore]
      exact List.mem_append_left _ (List.mem_append_right _
        (List.mem_flatMap.2 ⟨task, htask, hevent⟩))
  rcases List.append_eq_append_iff.1 (show _ ++ _ = before ++ .freed b :: after from h) with
    ⟨mid, hbefore, hreturned⟩ | ⟨mid, hfirst, hrest⟩
  · exact Or.inr (hlast mid hbefore hreturned)
  · cases mid with
    | nil =>
      refine Or.inr (hlast [] ?_ hrest.symm)
      rw [List.append_nil] at hfirst ⊢
      exact hfirst.symm
    | cons event mid =>
      obtain ⟨rfl, -⟩ := List.cons.inj hrest
      have hmem : NodeEvent.freed b ∈ (directIds.filter env.freeDirect).map NodeEvent.freed ++
          tasks.flatMap fun task => (advanceTask env tasks task).2 := by
        rw [hfirst]
        simp
      rcases List.mem_append.1 hmem with hmem | hmem
      · exact Or.inl (hdirect _ hmem rfl)
      · exact absurd hmem htasks

/-! ### What is built of a usage -/

section Built

variable {sceneType : MpSceneType} {faultNodeId : string} {env : CollectEnv}
  {debtInfos : List UbseNumaMemoryDebtInfo} {node : string}

/-- A process with a usage is in a task of its node, with this usage. The task is to give back all
borrowings of the node. -/
theorem exists_task_of_usage (o : Map.Iteration string (List PidMemInfo))
    (heffective : effectiveFaultNumaIds (collectContext sceneType faultNodeId env debtInfos) node ≠ [])
    {info : PidMemInfo}
    (hinfo : info ∈ affectedPidInfos (collectContext sceneType faultNodeId env debtInfos) node)
    {usage : NumaMemUsage} (husage : usage ∈ info.faultNumaUsages) :
    ∃ task ∈ (buildTasksForNode sceneType o (collectContext sceneType faultNodeId env debtInfos)
        node).tasks, usage ∈ task.faultNumaUsages ∧ usage.pid ∈ task.pids ∧
      task.relatedBorrowIds =
        (collectContext sceneType faultNodeId env debtInfos).nodeToBorrowIds node := by
  have hreported : WellReported sceneType
      (affectedPidInfos (collectContext sceneType faultNodeId env debtInfos) node) :=
    wellReported_affectedPidInfos node
  have hpid : usage.pid = info.pid := hreported.usages info hinfo usage husage
  rw [buildTasksForNode]
  dsimp only
  rw [if_neg heffective]
  cases sceneType with
  | VIRTUAL_SCENE =>
    exact ⟨_, List.mem_map_of_mem hinfo, husage, List.mem_singleton.2 hpid, rfl⟩
  | CONTAINER_SCENE =>
    have hgroup := lookup_containerMap (affectedPidInfos
      (collectContext .CONTAINER_SCENE faultNodeId env debtInfos) node) (containerKey info)
    have hmem : info ∈ (affectedPidInfos (collectContext .CONTAINER_SCENE faultNodeId env
        debtInfos) node).filter fun info' => containerKey info' = containerKey info :=
      List.mem_filter.2 ⟨hinfo, decide_eq_true rfl⟩
    rw [← hgroup] at hmem
    cases hlookup : (containerMap (affectedPidInfos (collectContext .CONTAINER_SCENE faultNodeId
        env debtInfos) node)).lookup (containerKey info) with
    | none =>
      rw [hlookup] at hmem
      cases hmem
    | some group =>
      rw [hlookup, Option.getD_some] at hmem
      exact ⟨_, List.mem_map_of_mem (o.mem_run.2 hlookup),
        List.mem_flatMap.2 ⟨info, hmem, husage⟩,
        List.mem_map.2 ⟨info, hmem, hpid.symm⟩, rfl⟩

/-- A borrowing that is given back at once is on a NUMA node that nobody uses. -/
theorem not_usesNuma_of_direct {directReturn : DirectReturnTask}
    (h : directReturn ∈ directReturnTasks (collectContext sceneType faultNodeId env debtInfos) node)
    {pid : Pid} : ¬UsesNuma sceneType faultNodeId env debtInfos node pid
      directReturn.faultNumaId := by
  obtain ⟨numaId, hnuma, h⟩ := List.mem_filterMap.1 h
  split at h
  · cases h
  obtain rfl := Option.some.inj h
  obtain ⟨heffective, hunused⟩ := List.mem_filter.1 hnuma
  rintro (⟨infos, info, usage, answer, hinfo, husage, -, rfl⟩ | ⟨_, _, hpending, -, -, -⟩)
  · refine of_decide_eq_true hunused (List.mem_flatMap.2 ⟨info, ?_, List.mem_map_of_mem husage⟩)
    rw [affectedPidInfos, answer]
    exact List.mem_filter.2 ⟨hinfo, decide_eq_true (List.ne_nil_of_mem husage)⟩
  · exact of_decide_eq_true (List.mem_filter.1 heffective).2 hpending

end Built

/-! ### A round -/

theorem Vacated.mono {events events' : List NodeEvent} {pid : Pid} {numaId : NumaId}
    (h : Vacated events pid numaId) (hsub : events ⊆ events') : Vacated events' pid numaId := by
  obtain ⟨⟨srcNumaIds, b, hevent, hmem⟩, pids, hremoved, hpid⟩ := h
  exact ⟨⟨srcNumaIds, b, hsub hevent, hmem⟩, pids, hsub hremoved, hpid⟩

theorem events_of_dispatch {env : RoundEnv} {s : Sent} (hsent : s = dispatchNodePlan env s.plan)
    (h : env.dispatch s.plan.borrowInNodeId ≠ .lost) :
    s.events = (pidExecuteRecvHandler (env.exec s.plan.borrowInNodeId) s.plan.tasks
      s.plan.directReturnBorrowIds).2 := by
  generalize s.plan = plan at hsent h ⊢
  subst hsent
  rw [dispatchNodePlan]
  cases hd : env.dispatch plan.borrowInNodeId with
  | lost => exact absurd hd h
  | unanswered => rfl
  | answered => rfl

/-- Nothing is done of a request that is lost. -/
theorem dispatch_ne_lost {env : RoundEnv} {s : Sent} (hsent : s = dispatchNodePlan env s.plan)
    {event : NodeEvent} (h : event ∈ s.events) :
    env.dispatch s.plan.borrowInNodeId ≠ .lost := by
  intro hd
  rw [hsent, dispatchNodePlan, hd] at h
  cases h

section Step

variable {sceneType : MpSceneType} {faultNodeId : string} {env : RoundEnv}
  {store : List TaskPersistState} {ledger : DebtLedger} {r : Round}

/-- The borrowings of a node are told apart by their names. -/
theorem debt_eq_of_name (ledger : DebtLedger) {debt debt' : UbseNumaMemoryDebtInfo}
    (h : debt ∈ acceptedDebts faultNodeId env.collect ledger.debtInfos)
    (h' : debt' ∈ acceptedDebts faultNodeId env.collect ledger.debtInfos)
    (hnode : debt.borrowNodeId = debt'.borrowNodeId) (hname : debt.name = debt'.name) :
    debt = debt' :=
  List.inj_on_of_nodup_map ledger.nodup (List.mem_filter.1 h).1 (List.mem_filter.1 h').1
    (by rw [hnode, hname])

/-- A task of a request is about what was built under its id. -/
theorem Staged.work_eq (h : Staged sceneType faultNodeId env store ledger r)
    {nodePlan : BorrowInNodePlan} (hmem : nodePlan ∈ r.nodePlans) {plan : FaultExecutePlan}
    (hderived : Derived nodePlan plan) {sent task : MigrationTask} (hsent : sent ∈ plan.tasks)
    (htask : task ∈ nodePlan.tasks) (hid : sent.taskId = task.taskId) : sent.work = task.work := by
  obtain ⟨built, hbuilt, hwork⟩ := List.mem_map.1
    (hderived.tasks.subset (List.mem_map_of_mem hsent))
  have hbuiltId : built.taskId = sent.taskId := congrArg (·.taskId) hwork
  rw [← hwork, List.inj_on_of_nodup_map (h.nodup_taskId hmem) hbuilt htask (hbuiltId.trans hid)]

/-- **A round whose requests cover what they give back releases what is empty.** -/
theorem releasesEmpty_of_covered (h : Staged sceneType faultNodeId env store ledger r)
    (hcovered : ReturnsCovered faultNodeId env r) : ReleasesEmpty sceneType faultNodeId env r := by
  intro s hs before b after hevents ledger' hledger debt hdebt hnode hname pid huses
  obtain rfl := Option.some.inj (h.ledger_eq.symm.trans hledger)
  obtain ⟨hplan, htype, hsent⟩ := h.sent hs
  obtain ⟨nodePlan, hmem, hderived⟩ := h.derived hplan
  have hbuilt := h.built hmem
  have hdispatch := dispatch_ne_lost hsent (hevents ▸ List.mem_append_right _ List.mem_cons_self)
  rw [events_of_dispatch hsent hdispatch] at hevents
  rcases release_cases hevents with hdirect | ⟨hreturned, htasks⟩
  · -- What is given back at once, nobody uses.
    rw [hderived.directReturns htype] at hdirect
    obtain ⟨directReturn, hd, hb⟩ := List.mem_flatMap.1 (List.mem_dedup.1 hdirect)
    rw [hbuilt, ← hderived.node] at hd
    refine absurd huses ?_
    have hnuma : directReturn.faultNumaId = debt.remoteNumaId.toNat := by
      obtain ⟨numaId, -, hd⟩ := List.mem_filterMap.1 hd
      split at hd
      · cases hd
      obtain rfl := Option.some.inj hd
      obtain ⟨debt', hdebt', hb'⟩ := List.mem_map.1 hb
      obtain ⟨hdebt', hnuma'⟩ := List.mem_filter.1 hdebt'
      obtain ⟨hnode', hnuma'⟩ := of_decide_eq_true hnuma'
      rw [debt_eq_of_name ledger hdebt hdebt' (hnode.trans hnode'.symm) (hname.trans hb'.symm)]
      exact hnuma'.symm
    exact hnuma ▸ not_usesNuma_of_direct hd
  · have hreturned' : b ∈ s.returned env := by
      rw [Sent.returned, if_neg hdispatch]
      exact hreturned
    have hcovers := hcovered s hs b hreturned' _ h.context ledger hledger debt hdebt hnode hname
    rcases huses with ⟨infos, info, usage, answer, hinfo, husage, rfl, hnuma⟩ |
      ⟨_, _, hpending, -, -, -⟩
    · -- The task of the process is in the request, and has vacated the NUMA node.
      have heffective : debt.remoteNumaId.toNat ∈ effectiveFaultNumaIds (collectContext sceneType
          faultNodeId env.collect ledger.debtInfos) s.plan.borrowInNodeId := by
        refine List.mem_filter.2 ⟨?_, decide_eq_true hcovers.notPending⟩
        exact (List.mem_insertionSort _).2 (List.mem_dedup.2 (List.mem_map.2
          ⟨debt, List.mem_filter.2 ⟨hdebt, decide_eq_true hnode⟩, rfl⟩))
      have haffected : info ∈ affectedPidInfos (collectContext sceneType faultNodeId env.collect
          ledger.debtInfos) s.plan.borrowInNodeId := by
        rw [affectedPidInfos, answer]
        exact List.mem_filter.2 ⟨hinfo, decide_eq_true (List.ne_nil_of_mem husage)⟩
      obtain ⟨task, htask, hused, hpid, hrelated⟩ := exists_task_of_usage env.containerOrder
        (List.ne_nil_of_mem heffective) haffected husage
      rw [hderived.node, ← hbuilt] at htask
      obtain ⟨sent, hsentMem, hid, hphase, hpayload⟩ := hcovers.tasks nodePlan hmem
        hderived.node.symm task htask (List.mem_dedup.2 (List.mem_map.2 ⟨usage, hused, hnuma⟩))
      have hwork := h.work_eq hmem hderived hsentMem htask hid
      have husages : sent.faultNumaUsages = task.faultNumaUsages :=
        congrArg (·.faultNumaUsages) hwork
      have hpids : sent.pids = task.pids := congrArg (·.pids) hwork
      have hborrows : sent.relatedBorrowIds = task.relatedBorrowIds :=
        congrArg (·.relatedBorrowIds) hwork
      have hremoved := of_decide_eq_true (List.mem_filter.1 (List.mem_filter.1 hreturned).1).2
        sent hsentMem (by
          rw [hborrows, hrelated]
          exact List.mem_map.2 ⟨debt, List.mem_filter.2 ⟨hdebt, decide_eq_true hnode⟩, hname⟩)
      rw [phaseOf_advancedPhases (h.nodup_plan hplan) hsentMem] at hremoved
      rw [← hnuma] at hpayload ⊢
      exact (vacated_of_advanceTask hphase hremoved (husages ▸ hused) (hpids ▸ hpid)
        (hpayload usage (husages ▸ hused) rfl)).mono (htasks sent hsentMem)
    · exact absurd hpending hcovers.notPending

end Step

/-! ### What an empty release says of the request -/

/-- Only a task that has just been borrowed for is migrated, from where its processes can be. -/
theorem migrates_of_mem {env : NodeExecEnv} {tasks : List MigrationTask} {task : MigrationTask}
    {pid : Pid} {numaIds : List NumaId} {b : string} {done : Bool}
    (h : .migrate pid numaIds b done ∈ (advanceTask env tasks task).2) :
    task.phase = .BORROWED ∧ numaIds = payloadNumas env task pid := by
  refine ⟨?_, ?_⟩
  · rw [advanceTask] at h
    split at h
    · rw [runTask] at h
      split at h
      next hphase => exact hphase
      next =>
        rw [removeSingleTaskFaultNumaManaged] at h
        split at h
        · cases h
        · obtain ⟨_, heq⟩ := mem_removePids h
          cases heq
      next => cases h
    · cases h
  · rcases (mem_advanceTask h).2 with h | ⟨_, heq⟩
    · obtain ⟨pid, -, heq⟩ := List.mem_map.1 h
      cases heq
      rfl
    · cases heq

/-- A borrowing that is given back by condition is so after what is done for the tasks. -/
theorem exists_split_of_returned {env : NodeExecEnv} {tasks : List MigrationTask}
    (directIds : List string) {b : string}
    (h : b ∈ (executeConditionalReturn env tasks (advancedPhases env tasks)).2) :
    ∃ before after, (pidExecuteRecvHandler env tasks directIds).2 = before ++ .freed b :: after ∧
      ∀ pid numaIds b' done, .migrate pid numaIds b' done ∈ before →
        ∃ task ∈ tasks, .migrate pid numaIds b' done ∈ (advanceTask env tasks task).2 := by
  obtain ⟨l, l', hsplit⟩ := List.append_of_mem h
  refine ⟨(directIds.filter env.freeDirect).map .freed ++
    tasks.flatMap (fun task => (advanceTask env tasks task).2) ++ l.map .freed, l'.map .freed, ?_, ?_⟩
  · rw [pidExecuteRecvHandler]
    dsimp only
    rw [hsplit, List.map_append, List.map_cons, List.append_assoc (_ ++ _)]
  · intro pid numaIds b' done hevent
    rcases List.mem_append.1 hevent with hevent | hevent
    · rcases List.mem_append.1 hevent with hevent | hevent
      · obtain ⟨_, -, heq⟩ := List.mem_map.1 hevent
        cases heq
      · exact List.mem_flatMap.1 hevent
    · obtain ⟨_, -, heq⟩ := List.mem_map.1 hevent
      cases heq

section Answers

variable {sceneType : MpSceneType} {env : NodeCollectEnv} {faultNumaIds : List NumaId}

/-- An answer for virtual machines, if it is one. -/
theorem collectVmPidMemInfos_ok
    (hok : (collectVmPidMemInfos env faultNumaIds).retCode = MEM_POOLING_OK) :
    ∃ vmInfos stable, env.vmInfos = some vmInfos ∧
      collectVmPidMemInfos env faultNumaIds = {
        pidMemDistribution := reportVms env faultNumaIds
          (collectVmFaultNumaSnapshot faultNumaIds stable)
        pendingFaultNumaIds := pendingNumas env faultNumaIds
          (collectVmFaultNumaSnapshot faultNumaIds vmInfos) } := by
  have hcollect : MEM_POOLING_FAULT_RESOURCE_COLLECT_ERROR ≠ MEM_POOLING_OK := by decide
  generalize hresponse : collectVmPidMemInfos env faultNumaIds = response at hok ⊢
  rw [collectVmPidMemInfos] at hresponse
  split at hresponse
  · subst hresponse
    exact absurd hok hcollect
  next vmInfos hvmInfos =>
    dsimp only at hresponse
    split at hresponse
    · exact ⟨vmInfos, vmInfos, hvmInfos, hresponse.symm⟩
    split at hresponse
    · subst hresponse
      exact absurd hok hcollect
    split at hresponse
    · subst hresponse
      exact absurd hok hcollect
    next stable _ => exact ⟨vmInfos, stable, hvmInfos, hresponse.symm⟩

/-- An answer for containers, if it is one, leaves nothing pending. -/
theorem collectContainerPidMemInfos_ok
    (hok : (collectContainerPidMemInfos env faultNumaIds).retCode = MEM_POOLING_OK) :
    (collectContainerPidMemInfos env faultNumaIds).pendingFaultNumaIds = [] := by
  have hcollect : MEM_POOLING_FAULT_RESOURCE_COLLECT_ERROR ≠ MEM_POOLING_OK := by decide
  generalize hresponse : collectContainerPidMemInfos env faultNumaIds = response at hok ⊢
  rw [collectContainerPidMemInfos] at hresponse
  split at hresponse
  · subst hresponse
    rfl
  split at hresponse
  · subst hresponse
    rfl
  split at hresponse
  · subst hresponse
    exact absurd hok hcollect
  · subst hresponse
    rfl

/-- What is pending is not reported. -/
theorem not_pending_of_usage
    (hok : (pidQueryRecvHandler sceneType env faultNumaIds).retCode = MEM_POOLING_OK)
    {info : PidMemInfo}
    (hinfo : info ∈ (pidQueryRecvHandler sceneType env faultNumaIds).pidMemDistribution)
    {usage : NumaMemUsage} (husage : usage ∈ info.faultNumaUsages) :
    usage.numaId ∉ (pidQueryRecvHandler sceneType env faultNumaIds).pendingFaultNumaIds := by
  intro hpending
  cases sceneType with
  | CONTAINER_SCENE =>
    have hnone : (pidQueryRecvHandler .CONTAINER_SCENE env faultNumaIds).pendingFaultNumaIds =
      [] := collectContainerPidMemInfos_ok hok
    rw [hnone] at hpending
    cases hpending
  | VIRTUAL_SCENE =>
    obtain ⟨vmInfos, stable, -, hresponse⟩ := collectVmPidMemInfos_ok hok
    have hresponse' : pidQueryRecvHandler .VIRTUAL_SCENE env faultNumaIds = _ := hresponse
    rw [hresponse'] at hinfo hpending
    have hunread : env.processConfig usage.numaId = none :=
      (of_decide_eq_true (List.mem_filter.1 hpending).2).1
    obtain ⟨e, -, rfl⟩ := List.mem_map.1 (List.mem_filter.1 hinfo).1
    obtain ⟨numaId, -, husage⟩ := List.mem_filterMap.1 husage
    rw [Option.ite_none_right_eq_some] at husage
    obtain ⟨⟨hmanaged, -⟩, heq⟩ := husage
    obtain rfl := Option.some.inj heq
    rw [managedPids, hunread] at hmanaged
    cases hmanaged

/-- Somebody uses what is pending. -/
theorem exists_user_of_pending
    (hok : (pidQueryRecvHandler sceneType env faultNumaIds).retCode = MEM_POOLING_OK)
    {numaId : NumaId}
    (hpending : numaId ∈ (pidQueryRecvHandler sceneType env faultNumaIds).pendingFaultNumaIds) :
    ∃ vmInfos, env.vmInfos = some vmInfos ∧ ∃ pid entry,
      (collectVmFaultNumaSnapshot faultNumaIds vmInfos).lookup pid = some entry ∧
        entry.collectedKB numaId ≠ 0 := by
  cases sceneType with
  | CONTAINER_SCENE =>
    have hnone : (pidQueryRecvHandler .CONTAINER_SCENE env faultNumaIds).pendingFaultNumaIds =
      [] := collectContainerPidMemInfos_ok hok
    rw [hnone] at hpending
    cases hpending
  | VIRTUAL_SCENE =>
    obtain ⟨vmInfos, stable, hvmInfos, hresponse⟩ := collectVmPidMemInfos_ok hok
    have hresponse' : pidQueryRecvHandler .VIRTUAL_SCENE env faultNumaIds = _ := hresponse
    rw [hresponse'] at hpending
    have hsum := (of_decide_eq_true (List.mem_filter.1 hpending).2).2
    refine ⟨vmInfos, hvmInfos, ?_⟩
    by_contra hnobody
    refine hsum (List.sum_eq_zero_iff_forall_eq_nat.2 (List.forall_mem_map.2 fun e he => ?_))
    by_contra hne
    exact hnobody ⟨e.1, e.2, Map.mem_entries_iff.1 he, hne⟩

end Answers

section Unique

variable {sceneType : MpSceneType} {faultNodeId : string} {env : CollectEnv}
  {debtInfos : List UbseNumaMemoryDebtInfo} {node : string}
  {o : Map.Iteration string (List PidMemInfo)}

/-- The task of a process. -/
def taskOf (sceneType : MpSceneType) (context : OverCommitFaultContext) (node : string)
    (info : PidMemInfo) : MigrationTask :=
  match sceneType with
  | .CONTAINER_SCENE => containerTask (context.nodeToBorrowIds node) (containerKey info)
      (((containerMap (affectedPidInfos context node)).lookup (containerKey info)).getD [])
  | .VIRTUAL_SCENE => vmTask (context.nodeToBorrowIds node) info

/-- Every usage of a task is that of a process which is reported, and whose task it is. -/
theorem exists_info_of_task {task : MigrationTask}
    (htask : task ∈ (buildTasksForNode sceneType o
      (collectContext sceneType faultNodeId env debtInfos) node).tasks)
    {usage : NumaMemUsage} (husage : usage ∈ task.faultNumaUsages) :
    ∃ info ∈ affectedPidInfos (collectContext sceneType faultNodeId env debtInfos) node,
      usage ∈ info.faultNumaUsages ∧
        task = taskOf sceneType (collectContext sceneType faultNodeId env debtInfos) node info := by
  rw [buildTasksForNode] at htask
  dsimp only at htask
  split at htask
  · cases htask
  cases sceneType with
  | CONTAINER_SCENE =>
    obtain ⟨⟨key, group⟩, hgroup, rfl⟩ := List.mem_map.1 htask
    obtain ⟨info, hinfo, husage⟩ := List.mem_flatMap.1 husage
    have hlookup := o.mem_run.1 hgroup
    obtain ⟨hmem, hkey⟩ := containerKey_of_mem_group hlookup hinfo
    refine ⟨info, hmem, husage, ?_⟩
    rw [taskOf, hkey, hlookup]
    rfl
  | VIRTUAL_SCENE =>
    obtain ⟨info, hinfo, rfl⟩ := List.mem_map.1 htask
    exact ⟨info, hinfo, husage, rfl⟩

/-- A process is in one task of its node. -/
theorem task_eq_of_usage {task task' : MigrationTask}
    (htask : task ∈ (buildTasksForNode sceneType o
      (collectContext sceneType faultNodeId env debtInfos) node).tasks)
    (htask' : task' ∈ (buildTasksForNode sceneType o
      (collectContext sceneType faultNodeId env debtInfos) node).tasks)
    {usage usage' : NumaMemUsage} (husage : usage ∈ task.faultNumaUsages)
    (husage' : usage' ∈ task'.faultNumaUsages) (hpid : usage.pid = usage'.pid) : task = task' := by
  have hreported : WellReported sceneType
      (affectedPidInfos (collectContext sceneType faultNodeId env debtInfos) node) :=
    wellReported_affectedPidInfos node
  obtain ⟨info, hinfo, hmem, rfl⟩ := exists_info_of_task htask husage
  obtain ⟨info', hinfo', hmem', rfl⟩ := exists_info_of_task htask' husage'
  have hsame : info.pid = info'.pid := by
    rw [← hreported.usages info hinfo usage hmem, hpid, hreported.usages info' hinfo' usage' hmem']
  rw [List.inj_on_of_nodup_map hreported.nodup hinfo hinfo' hsame]

/-- The processes that tasks are built of are reported. -/
theorem usesNuma_of_task {task : MigrationTask}
    (htask : task ∈ (buildTasksForNode sceneType o
      (collectContext sceneType faultNodeId env debtInfos) node).tasks)
    {usage : NumaMemUsage} (husage : usage ∈ task.faultNumaUsages) :
    UsesNuma sceneType faultNodeId env debtInfos node usage.pid usage.numaId := by
  obtain ⟨info, hinfo, hmem, -⟩ := exists_info_of_task htask husage
  have hinfo := (List.mem_filter.1 hinfo).1
  cases hanswer : (collectContext sceneType faultNodeId env debtInfos).nodeToPidMemInfos node with
  | none =>
    rw [hanswer] at hinfo
    cases hinfo
  | some infos =>
    rw [hanswer, Option.getD_some] at hinfo
    exact .reported infos info usage hanswer hinfo hmem rfl rfl

/-- The answer of a node, if it is one. -/
theorem exists_answer {response : FaultPidQueryResponse}
    (h : answerOf sceneType faultNodeId env debtInfos node = some response) :
    response = pidQueryRecvHandler sceneType (env.node node)
      (faultNumas faultNodeId env debtInfos node) ∧ response.retCode = MEM_POOLING_OK := by
  rw [answerOf, Option.filter_eq_some_iff, queryNode, Option.ite_none_right_eq_some] at h
  exact ⟨(Option.some.inj h.1.2).symm, of_decide_eq_true h.2⟩

/-- No task uses what is pending. -/
theorem not_pending_of_task {task : MigrationTask}
    (htask : task ∈ (buildTasksForNode sceneType o
      (collectContext sceneType faultNodeId env debtInfos) node).tasks)
    {usage : NumaMemUsage} (husage : usage ∈ task.faultNumaUsages) :
    usage.numaId ∉
      (collectContext sceneType faultNodeId env debtInfos).nodeToPendingFaultNumaIds node := by
  obtain ⟨info, hinfo, hmem, -⟩ := exists_info_of_task htask husage
  have hinfo : info ∈ ((answerOf sceneType faultNodeId env debtInfos node).map fun response =>
      response.pidMemDistribution.map (markSocketConstraint sceneType env node)).getD [] :=
    (List.mem_filter.1 hinfo).1
  intro hpending
  have hpending : usage.numaId ∈
    ((answerOf sceneType faultNodeId env debtInfos node).map (·.pendingFaultNumaIds)).getD [] :=
      hpending
  cases hanswer : answerOf sceneType faultNodeId env debtInfos node with
  | none =>
    rw [hanswer] at hpending
    cases hpending
  | some response =>
    rw [hanswer] at hinfo hpending
    obtain ⟨rfl, hok⟩ := exists_answer hanswer
    obtain ⟨info', hinfo', rfl⟩ := List.mem_map.1 hinfo
    exact not_pending_of_usage hok hinfo' hmem hpending

/-- Somebody uses what is pending at a node. -/
theorem exists_usesNuma_of_pending {numaId : NumaId} (h : numaId ∈
      (collectContext sceneType faultNodeId env debtInfos).nodeToPendingFaultNumaIds node) :
    ∃ pid, UsesNuma sceneType faultNodeId env debtInfos node pid numaId := by
  have hpending : numaId ∈
    ((answerOf sceneType faultNodeId env debtInfos node).map (·.pendingFaultNumaIds)).getD [] := h
  cases hanswer : answerOf sceneType faultNodeId env debtInfos node with
  | none =>
    rw [hanswer] at hpending
    cases hpending
  | some response =>
    rw [hanswer] at hpending
    obtain ⟨rfl, hok⟩ := exists_answer hanswer
    obtain ⟨vmInfos, hvmInfos, pid, entry, hentry, husage⟩ := exists_user_of_pending hok hpending
    exact ⟨pid, .pending vmInfos entry h hvmInfos hentry husage⟩

end Unique

/-- The processes that a task can be migrated from a NUMA node have a usage there. -/
theorem exists_usage_of_payload {env : NodeExecEnv} {task : MigrationTask} {pid : Pid}
    {numaId : NumaId} (h : numaId ∈ payloadNumas env task pid) :
    ∃ usage ∈ task.faultNumaUsages, usage.pid = pid ∧ usage.numaId = numaId := by
  have hscope := List.mem_dedup.1 (List.mem_of_mem_filter (List.mem_of_mem_take h))
  obtain ⟨usage, husage, hnuma⟩ := List.mem_map.1 hscope
  obtain ⟨hmem, hpid⟩ := List.mem_filter.1 husage
  exact ⟨usage, hmem, of_decide_eq_true hpid, hnuma⟩

section Exact

variable {sceneType : MpSceneType} {faultNodeId : string} {env : RoundEnv}
  {store : List TaskPersistState} {ledger : DebtLedger} {r : Round}

/-- **What a round releases is empty only if its requests cover what they give back.** Every user
of the NUMA node has been migrated, by a task that was still to be migrated and could be; this is
the task that was built for it. -/
theorem covered_of_releasesEmpty (h : Staged sceneType faultNodeId env store ledger r)
    (hempty : ReleasesEmpty sceneType faultNodeId env r) : ReturnsCovered faultNodeId env r := by
  intro s hs b hb context hcontext ledger' hledger debt hdebt hnode hname
  obtain rfl := Option.some.inj (h.ledger_eq.symm.trans hledger)
  obtain rfl := Option.some.inj (h.context.symm.trans hcontext)
  obtain ⟨hplan, -, hsent⟩ := h.sent hs
  obtain ⟨nodePlan, hmem, hderived⟩ := h.derived hplan
  have hbuilt := h.built hmem
  rw [← hderived.node] at hbuilt
  rw [Sent.returned] at hb
  split at hb
  · cases hb
  next hdispatch =>
    obtain ⟨before, after, hsplit, hmoves⟩ :=
      exists_split_of_returned s.plan.directReturnBorrowIds hb
    rw [← events_of_dispatch hsent hdispatch] at hsplit
    have hvacated := hempty s hs before b after hsplit ledger hledger debt hdebt hnode hname
    -- Whoever uses the NUMA node is migrated from there by a task that was built for it.
    have hmover : ∀ pid, UsesNuma sceneType faultNodeId env.collect ledger.debtInfos
        s.plan.borrowInNodeId pid debt.remoteNumaId.toNat →
          ∃ sent ∈ s.plan.tasks, sent.phase = .BORROWED ∧
            debt.remoteNumaId.toNat ∈ payloadNumas (env.exec s.plan.borrowInNodeId) sent pid ∧
            ∃ built ∈ nodePlan.tasks, built.work = sent.work := by
      intro pid huses
      obtain ⟨⟨numaIds, b', hevent, hnuma⟩, -⟩ := hvacated pid huses
      obtain ⟨sent, hsentMem, hevent⟩ := hmoves pid numaIds b' true hevent
      obtain ⟨hphase, rfl⟩ := migrates_of_mem hevent
      exact ⟨sent, hsentMem, hphase, hnuma,
        List.mem_map.1 (hderived.tasks.subset (List.mem_map_of_mem hsentMem))⟩
    constructor
    · intro hpending
      obtain ⟨pid, huses⟩ := exists_usesNuma_of_pending hpending
      obtain ⟨sent, -, -, hpayload, built, hbuiltMem, hwork⟩ := hmover pid huses
      obtain ⟨usage, husage, -, hnuma⟩ := exists_usage_of_payload hpayload
      have husages : built.faultNumaUsages = sent.faultNumaUsages :=
        congrArg (·.faultNumaUsages) hwork
      rw [hbuilt] at hbuiltMem
      exact not_pending_of_task hbuiltMem (husages ▸ husage) (hnuma ▸ hpending)
    · intro nodePlan' hmem' hnode' task htask hnuma
      obtain rfl := List.inj_on_of_nodup_map h.nodup_nodes hmem hmem'
        (hderived.node.symm.trans hnode'.symm)
      -- The task of a usage is the one that migrates its process.
      have hsame : ∀ usage ∈ task.faultNumaUsages,
          usage.numaId = debt.remoteNumaId.toNat → ∃ sent ∈ s.plan.tasks,
            sent.phase = .BORROWED ∧ debt.remoteNumaId.toNat ∈
              payloadNumas (env.exec s.plan.borrowInNodeId) sent usage.pid ∧
            sent.taskId = task.taskId := by
        intro usage husage hnuma
        have htask' := htask
        rw [hbuilt] at htask'
        obtain ⟨sent, hsentMem, hphase, hpayload, built, hbuiltMem, hwork⟩ :=
          hmover usage.pid (hnuma ▸ usesNuma_of_task htask' husage)
        obtain ⟨usage', husage', hpid, -⟩ := exists_usage_of_payload hpayload
        have husages : built.faultNumaUsages = sent.faultNumaUsages :=
          congrArg (·.faultNumaUsages) hwork
        rw [hbuilt] at hbuiltMem
        have heq := task_eq_of_usage htask' hbuiltMem husage (husages ▸ husage') hpid.symm
        have hid : built.taskId = sent.taskId := congrArg (·.taskId) hwork
        exact ⟨sent, hsentMem, hphase, hpayload, by rw [← hid, heq]⟩
      obtain ⟨usage, husage, hnuma⟩ := List.mem_map.1 (List.mem_dedup.1 hnuma)
      obtain ⟨sent, hsentMem, hphase, -, hid⟩ := hsame usage husage hnuma
      refine ⟨sent, hsentMem, hid, by rw [hphase]; decide, fun usage' husage' hnuma' => ?_⟩
      have husages : sent.faultNumaUsages = task.faultNumaUsages :=
        congrArg (·.faultNumaUsages) (h.work_eq hmem hderived hsentMem htask hid)
      obtain ⟨sent', hsentMem', -, hpayload', hid'⟩ :=
        hsame usage' (husages ▸ husage') hnuma'
      rw [List.inj_on_of_nodup_map (h.nodup_plan hplan) hsentMem hsentMem' (hid.trans hid'.symm)]
      exact hpayload'

/-- A round releases what is empty exactly if its requests cover what they give back. -/
theorem releasesEmpty_iff :
    ReleasesEmpty sceneType faultNodeId env
        (processBorrowOutNodeFaultByPid sceneType faultNodeId env store) ↔
      ReturnsCovered faultNodeId env
        (processBorrowOutNodeFaultByPid sceneType faultNodeId env store) := by
  rcases round_cases sceneType faultNodeId env store with ⟨context, ret, hr⟩ | ⟨ledger, h⟩
  · rw [hr]
    exact iff_of_true (fun _ h => nomatch h) fun _ h => nomatch h
  · exact ⟨covered_of_releasesEmpty h, releasesEmpty_of_covered h⟩

end Exact

/-! ### Runs -/

/-- **Whole runs**: every round releases what is empty exactly if in every round the requests cover
what they give back by condition. -/
theorem run_releasesEmpty (sceneType : MpSceneType) (faultNodeId : string)
    (envs : List RoundEnv) :
    System.Guarded (fun s env => ReleasesEmpty sceneType faultNodeId env
        (processBorrowOutNodeFaultByPid sceneType faultNodeId env s.store))
        (System.trace (FaultState.advance sceneType faultNodeId) {} envs) ↔
      System.Guarded (fun s env => ReturnsCovered faultNodeId env
        (processBorrowOutNodeFaultByPid sceneType faultNodeId env s.store))
        (System.trace (FaultState.advance sceneType faultNodeId) {} envs) :=
  forall₂_congr fun _ _ => releasesEmpty_iff

/-! ### A NUMA node that is pending -/

/-- Two virtual machines, each with a borrowing. The control of the second NUMA node cannot be
read. -/
def pendingNuma : RoundEnv where
  collect := {
    ledger := some twoNumas
    node := fun _ =>
      let vmInfos : List VmDomainInfo := [⟨1, [], [⟨0, 4, 100, 0, true⟩, ⟨5, 4, 8192, 0, false⟩]⟩,
        ⟨2, [], [⟨0, 4, 100, 0, true⟩, ⟨6, 4, 4096, 0, false⟩]⟩]
      { vmInfos := vmInfos
        stableVmInfos := vmInfos
        processConfig := fun numaId =>
          if numaId = 5 then some [⟨1, MIG_MEMSIZE_MODE, 0, 1⟩] else none } }
  decision := { snapshot := some [⟨[3], 0, 0, 100000⟩] }
  borrow := fun _ _ _ => lendsAll [10]
  exec := fun _ => { managed := fun _ _ => some [⟨1, MIG_MEMSIZE_MODE, 0, 1⟩] }

/-- **Memory in use is released.** The first machine is migrated, and its task gives back both
borrowings; the second machine lives on one of them. -/
theorem not_run_releasesEmpty :
    ¬∀ envs, System.Guarded (fun s env => ReleasesEmpty .VIRTUAL_SCENE [9] env
        (processBorrowOutNodeFaultByPid .VIRTUAL_SCENE [9] env s.store))
        (System.trace (FaultState.advance .VIRTUAL_SCENE [9]) {} envs) := by
  intro h
  have hround := h [pendingNuma] _ List.mem_cons_self
  have hreleased : ∃ s ∈ (processBorrowOutNodeFaultByPid .VIRTUAL_SCENE [9] pendingNuma
      []).executed.sent, s.plan.borrowInNodeId = [1] ∧
        s.events = [.migrate 1 [5] [10] true, .removed [1] 5, .freed [97]] ++ .freed [98] :: [] := by
    decide +kernel
  obtain ⟨s, hs, hnode, hevents⟩ := hreleased
  have huses : ∀ ledger ∈ pendingNuma.collect.ledger,
      UsesNuma .VIRTUAL_SCENE [9] pendingNuma.collect ledger.debtInfos [1] 2 6 := by
    rintro ledger ⟨⟩
    exact .pending _ _ (by decide +kernel) rfl rfl (by decide +kernel)
  have hvacated := hround s hs _ _ _ hevents _ rfl { lentByNine [98] [1] with remoteNumaId := 6 }
    (by decide +kernel) (by rw [hnode]; rfl) rfl 2 (by rw [hnode]; exact huses _ rfl)
  obtain ⟨⟨srcNumaIds, b, hevent, -⟩, -⟩ := hvacated
  simp at hevent

end Fault

end UbsEngine
