import UbsEngine.Fault.Persisted

/-!
# Tasks of different nodes

The id of a task is made of what its node calls its processes, and the store and the look for
vanished tasks know a task by its id alone. Nodes do not agree on the ids of processes, so that two
nodes may have tasks of one id. Then the state of one is overwritten by that of the other and
resumed in its place.

A round in which the ids tell the nodes (`UbsEngine.Fault.IdsTellNodes`) keeps the tasks of
different nodes apart (`UbsEngine.Fault.TasksApart`).
-/

namespace UbsEngine

namespace Fault

open Mem

/-- The tasks that are built for a node have no ids of tasks that are built, or persisted, for
another. -/
def IdsTellNodes (nodePlans : List BorrowInNodePlan) (store : List TaskPersistState) : Prop :=
  ∀ nodePlan ∈ nodePlans, ∀ task ∈ nodePlan.tasks,
    (∀ nodePlan' ∈ nodePlans, ∀ task' ∈ nodePlan'.tasks, task'.taskId = task.taskId →
      nodePlan'.borrowInNodeId = nodePlan.borrowInNodeId) ∧
    ∀ t ∈ store, t.taskId = task.taskId → t.borrowInNodeId = nodePlan.borrowInNodeId

instance (nodePlans : List BorrowInNodePlan) (store : List TaskPersistState) :
    Decidable (IdsTellNodes nodePlans store) :=
  inferInstanceAs (Decidable (∀ nodePlan ∈ nodePlans, ∀ task ∈ nodePlan.tasks, _))

/-- **A round keeps the tasks of different nodes apart**: what is resumed was persisted for the
node, a change of the store leaves alone what is persisted for other nodes, and whether a task has
vanished depends on the tasks of its own node. -/
structure TasksApart (store : List TaskPersistState) (r : Round) : Prop where
  resumed : ∀ plan ∈ r.decided, ∀ task ∈ plan.tasks, task.phase ≠ .NONE → ∃ t ∈ store,
    t.borrowInNodeId = plan.borrowInNodeId ∧ t.taskId = task.taskId ∧ t.phase = task.phase ∧
      t.newBorrowId = task.newBorrowId ∧ t.newRemoteNumaId = task.newRemoteNumaId
  kept : ∀ pre op post, r.ops = pre ++ op :: post →
    (op.apply (pre.foldl StoreOp.apply store)).filter (·.borrowInNodeId ≠ op.node) =
      (pre.foldl StoreOp.apply store).filter (·.borrowInNodeId ≠ op.node)
  orphans : ∀ context, r.context = some context → ∀ t ∈ store, isOrphan context r.nodePlans t =
    isOrphan context (r.nodePlans.filter (·.borrowInNodeId = t.borrowInNodeId)) t

/-! ### A change of the store -/

/-- What has the id of a change is of its node. -/
def Own (store : List TaskPersistState) (op : StoreOp) : Prop :=
  ∀ t ∈ store, t.taskId = op.taskId → t.borrowInNodeId = op.node

theorem filter_saveTaskState {store : List TaskPersistState} {t : TaskPersistState}
    (h : Own store (.save t)) :
    (saveTaskState t store).filter (·.borrowInNodeId ≠ t.borrowInNodeId) =
      store.filter (·.borrowInNodeId ≠ t.borrowInNodeId) := by
  induction store with
  | nil => exact List.filter_cons_of_neg (by simp)
  | cons head rest ih =>
    rw [saveTaskState]
    split
    next hid =>
      have hnode : head.borrowInNodeId = t.borrowInNodeId := h head List.mem_cons_self hid
      rw [List.filter_cons_of_neg (by simp), List.filter_cons_of_neg (by simpa using hnode)]
    next =>
      rw [List.filter_cons, List.filter_cons, ih fun t ht => h t (List.mem_cons_of_mem _ ht)]

/-- A change leaves other nodes alone if what it finds is of its own node. -/
theorem filter_apply {store : List TaskPersistState} {op : StoreOp} (h : Own store op) :
    (op.apply store).filter (·.borrowInNodeId ≠ op.node) =
      store.filter (·.borrowInNodeId ≠ op.node) := by
  cases op with
  | save t => exact filter_saveTaskState h
  | remove node taskId =>
    rw [StoreOp.apply, removeCompletedTask, List.filter_filter]
    refine List.filter_congr fun t ht => ?_
    by_cases hnode : t.borrowInNodeId = node
    · rw [StoreOp.node, hnode]
      simp
    · have hid : t.taskId ≠ taskId := fun hid => hnode (h t ht hid)
      rw [decide_eq_true hid, Bool.and_true]

/-! ### A round -/

section Step

variable {sceneType : MpSceneType} {faultNodeId : string} {env : RoundEnv}
  {store : List TaskPersistState} {ledger : DebtLedger} {r : Round}

/-- A task of a plan has the id of a task that was built for the same node. -/
theorem built_of_mem_plan {nodePlan : BorrowInNodePlan} {plan : FaultExecutePlan}
    (h : Derived nodePlan plan) {task : MigrationTask} (htask : task ∈ plan.tasks) :
    ∃ built ∈ nodePlan.tasks, built.taskId = task.taskId :=
  List.mem_map.1 (h.taskIds.subset (List.mem_map_of_mem htask))

/-- Every change finds what is of its own node. -/
theorem own_of_mem_ops (h : Staged sceneType faultNodeId env store ledger r)
    (hnodup : (store.map (·.taskId)).Nodup) (hids : IdsTellNodes r.nodePlans store)
    {pre post : List StoreOp} {op : StoreOp} (hops : r.ops = pre ++ op :: post) :
    Own (pre.foldl StoreOp.apply store) op := by
  intro t ht hid
  have hforget : ∀ op ∈ r.reconciled.ops, ∃ t ∈ store, op = .remove t.borrowInNodeId t.taskId := by
    intro op hop
    rw [h.reconciled] at hop
    obtain ⟨t, ht, -, rfl⟩ := mem_ops_reconcile hop
    exact ⟨t, ht, rfl⟩
  -- A change that is made as the plans are carried out is for a task that was built.
  have hexecuted : ∀ mid, pre = r.reconciled.ops ++ mid → r.executed.ops = mid ++ op :: post →
      t.borrowInNodeId = op.node := by
    intro mid hpre hrest
    have hop : op ∈ r.executed.ops := hrest ▸ List.mem_append_right _ List.mem_cons_self
    obtain ⟨plan, hplan, task, htask, hof⟩ := h.mem_ops hop
    obtain ⟨nodePlan, hmem, hderived⟩ := h.derived hplan
    obtain ⟨built, hbuilt, hbuiltId⟩ := built_of_mem_plan hderived htask
    obtain ⟨hplans, hstore⟩ := hids nodePlan hmem built hbuilt
    have hnode : op.node = nodePlan.borrowInNodeId := hof.node.trans hderived.node
    have hid' : t.taskId = built.taskId := hid.trans (hof.taskId.trans hbuiltId.symm)
    rcases mem_foldl_apply ht with ht | hsave
    · exact (hstore t ht hid').trans hnode.symm
    rw [hpre] at hsave
    rcases List.mem_append.1 hsave with hsave | hsave
    · obtain ⟨_, -, heq⟩ := hforget _ hsave
      cases heq
    · obtain ⟨plan', hplan', task', htask', hof'⟩ :=
        h.mem_ops (hrest ▸ List.mem_append_left _ hsave)
      obtain ⟨nodePlan', hmem', hderived'⟩ := h.derived hplan'
      obtain ⟨built', hbuilt', hbuiltId'⟩ := built_of_mem_plan hderived' htask'
      have hsame := hplans nodePlan' hmem' built' hbuilt'
        (hbuiltId'.trans (hof'.taskId.symm.trans hid'))
      exact ((hof'.node.trans hderived'.node).trans hsame).trans hnode.symm
  have hsplit : r.reconciled.ops ++ r.executed.ops = pre ++ op :: post := hops
  rcases List.append_eq_append_iff.1 hsplit with ⟨mid, hpre, hrest⟩ | ⟨mid, hpre, hrest⟩
  · exact hexecuted mid hpre hrest
  · cases mid with
    | nil => exact hexecuted [] (by simpa using hpre.symm) (by simpa using hrest.symm)
    | cons head mid =>
      -- A task that is forgotten was persisted, and there is one of its id.
      obtain ⟨rfl, -⟩ := List.cons.inj hrest
      obtain ⟨t', ht', rfl⟩ := hforget op (by rw [hpre]; simp)
      rcases mem_foldl_apply ht with ht | hsave
      · rw [List.inj_on_of_nodup_map hnodup ht ht' hid]
        rfl
      · obtain ⟨_, -, heq⟩ := hforget _ (hpre ▸ List.mem_append_left _ hsave)
        cases heq

/-- A task that is resumed was persisted for its node. -/
theorem resumed_of_mem_decided (h : Staged sceneType faultNodeId env store ledger r)
    (hids : IdsTellNodes r.nodePlans store) {plan : FaultExecutePlan} (hplan : plan ∈ r.decided)
    {task : MigrationTask} (htask : task ∈ plan.tasks) (hphase : task.phase ≠ .NONE) :
    ∃ t ∈ store, t.borrowInNodeId = plan.borrowInNodeId ∧ t.taskId = task.taskId ∧
      t.phase = task.phase ∧ t.newBorrowId = task.newBorrowId ∧
        t.newRemoteNumaId = task.newRemoteNumaId := by
  rcases h.executed with ⟨hnone, -⟩ | ⟨hdecided, -⟩
  · rw [hnone] at hplan
    cases hplan
  rw [hdecided] at hplan
  obtain ⟨merged, hmerged, hkept⟩ := Slots.exists_left (kept_makeDecisions _ _ _) hplan
  obtain ⟨nodePlan, hmem, hmerge⟩ := List.mem_filterMap.1 hmerged
  have hnode := hkept.node.trans (derived_mergePlan hmerge).node
  have htask' := hkept.tasks.subset htask
  rw [mergePlan] at hmerge
  split at hmerge
  next =>
    dsimp only at hmerge
    split at hmerge
    · cases hmerge
    obtain rfl := Option.some.inj hmerge
    obtain ⟨built, hbuilt, rfl⟩ := List.mem_map.1 htask'
    rw [mergeTask] at hphase ⊢
    split at hphase
    next => exact absurd rfl hphase
    next t hfind =>
      split at hphase
      next => exact absurd rfl hphase
      next hne =>
        have ht := List.mem_of_find?_eq_some hfind
        have hid : t.taskId = built.taskId := by simpa using List.find?_some hfind
        rw [if_neg hne]
        rcases mem_foldl_apply ht with ht | hsave
        · refine ⟨t, ht, ?_, hid, rfl, rfl, rfl⟩
          rw [hnode]
          exact (hids nodePlan hmem built hbuilt).2 t ht hid
        · rw [h.reconciled] at hsave
          obtain ⟨_, -, -, heq⟩ := mem_ops_reconcile hsave
          cases heq
  next =>
    obtain rfl := Option.some.inj hmerge
    cases htask'

/-- Whether a task has vanished depends on its own node. -/
theorem isOrphan_filter (hids : IdsTellNodes r.nodePlans store)
    (context : OverCommitFaultContext) {t : TaskPersistState} (ht : t ∈ store) :
    isOrphan context r.nodePlans t =
      isOrphan context (r.nodePlans.filter (·.borrowInNodeId = t.borrowInNodeId)) t := by
  rw [isOrphan, isOrphan, decide_eq_decide]
  refine and_congr_left fun _ => not_congr ⟨fun h => ?_, fun h => ?_⟩
  · obtain ⟨nodePlan, hmem, hid⟩ := List.mem_flatMap.1 h
    obtain ⟨built, hbuilt, hbuiltId⟩ := List.mem_map.1 hid
    have hnode := (hids nodePlan hmem built hbuilt).2 t ht hbuiltId.symm
    exact List.mem_flatMap.2 ⟨nodePlan, List.mem_filter.2 ⟨hmem, by simpa using hnode.symm⟩, hid⟩
  · obtain ⟨nodePlan, hmem, hid⟩ := List.mem_flatMap.1 h
    exact List.mem_flatMap.2 ⟨nodePlan, (List.mem_filter.1 hmem).1, hid⟩

/-- **A round in which the ids tell the nodes keeps the tasks apart.** -/
theorem tasksApart_of_ids (hnodup : (store.map (·.taskId)).Nodup)
    (hids : IdsTellNodes (processBorrowOutNodeFaultByPid sceneType faultNodeId env store).nodePlans
      store) :
    TasksApart store (processBorrowOutNodeFaultByPid sceneType faultNodeId env store) := by
  rcases round_cases sceneType faultNodeId env store with ⟨context, ret, hr⟩ | ⟨ledger, h⟩
  · rw [hr]
    exact ⟨fun _ h => (nomatch h), fun pre op post h => absurd h (by simp [Round.ops]),
      fun _ _ _ _ => rfl⟩
  · exact ⟨fun plan hplan task htask => resumed_of_mem_decided h hids hplan htask,
      fun pre op post hops => filter_apply (own_of_mem_ops h hnodup hids hops),
      fun context _ t ht => isOrphan_filter hids context ht⟩

end Step

/-! ### Runs -/

section Runs

variable {sceneType : MpSceneType} {faultNodeId : string}

/-- **Whole runs**: as long as the ids tell the nodes, every round keeps the tasks of different
nodes apart. -/
theorem run_tasksApart {tr : List (Transition FaultState RoundEnv)} {t : FaultState}
    (hrun : (faultSystem sceneType faultNodeId).Run {} tr t)
    (hids : System.Guarded (fun s env => IdsTellNodes
      (processBorrowOutNodeFaultByPid sceneType faultNodeId env s.store).nodePlans s.store) tr) :
    System.Guarded (fun s env => TasksApart s.store
      (processBorrowOutNodeFaultByPid sceneType faultNodeId env s.store)) tr := by
  refine hrun.guarded_of_step (I := fun s => (s.store.map (·.taskId)).Nodup) ?_
    (fun s env hnodup => tasksApart_of_ids hnodup) .nil hids
  rintro s env t hnodup - rfl
  exact nodup_foldl_apply hnodup _

end Runs

/-! ### Two nodes with a virtual machine of one process id -/

/-- The nodes have borrowed, and each has a virtual machine whose process is 1. Nothing is
migrated. -/
def vmsOf (debtInfos : DebtLedger) : RoundEnv where
  collect := { ledger := some debtInfos, node := fun _ => oneVm 1 8192 }
  decision := { snapshot := some [⟨[3], 0, 0, 100000⟩] }
  borrow := fun node _ _ => lendsAll (10 :: node)

/-- The borrowings of two nodes. -/
def twoNodes : DebtLedger where
  debtInfos := [lentByNine [97] [1], lentByNine [98] [2]]

/-- Two rounds of a single node: the ids tell the nodes, and the task is resumed. -/
theorem run_tasksApart_oneNode :
    System.Guarded (fun s env => TasksApart s.store
        (processBorrowOutNodeFaultByPid .VIRTUAL_SCENE [9] env s.store))
      (System.trace (FaultState.advance .VIRTUAL_SCENE [9]) {} [vmsOf oneNode, vmsOf oneNode]) :=
  run_tasksApart (run_faultSystem _ _ _) (by
    rw [System.trace_cons, System.trace_cons, System.trace_nil]
    refine List.forall_mem_cons.2 ⟨?_, List.forall_mem_singleton.2 ?_⟩ <;> decide +kernel)

/-- **Tasks of different nodes do mix.** The second round resumes the task of the node 1 with what
was borrowed for the node 2, as both are called `vm_1`. -/
theorem not_run_tasksApart :
    ¬∀ tr t, (faultSystem .VIRTUAL_SCENE [9]).Run {} tr t → System.Guarded (fun s env =>
      TasksApart s.store (processBorrowOutNodeFaultByPid .VIRTUAL_SCENE [9] env s.store)) tr := by
  intro h
  have hrun := h _ _ (run_faultSystem _ _ [vmsOf twoNodes, vmsOf twoNodes])
  have hsecond := hrun _ (List.mem_cons_of_mem _ List.mem_cons_self)
  have hmixed : ∃ plan ∈ (processBorrowOutNodeFaultByPid .VIRTUAL_SCENE [9] (vmsOf twoNodes)
        (FaultState.advance .VIRTUAL_SCENE [9] {} (vmsOf twoNodes)).store).decided,
      ∃ task ∈ plan.tasks, task.phase ≠ .NONE ∧
        ∀ t ∈ (FaultState.advance .VIRTUAL_SCENE [9] {} (vmsOf twoNodes)).store,
          t.borrowInNodeId ≠ plan.borrowInNodeId := by decide +kernel
  obtain ⟨plan, hplan, task, htask, hphase, hother⟩ := hmixed
  obtain ⟨t, ht, hnode, -⟩ := hsecond.resumed plan hplan task htask hphase
  exact hother t ht hnode

end Fault

end UbsEngine
