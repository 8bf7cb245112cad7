import UbsEngine.Fault.Derived

/-!
# What a round persists

A round forgets the tasks that have vanished, persists the tasks that it has borrowed for, and
persists or forgets the tasks that a node has answered for. What is persisted belongs to a task of
the plans as they are carried out, which has a borrowing (`UbsEngine.Fault.Staged.mem_ops`), and
what is forgotten was persisted, or belongs to such a task. Only tasks that have a borrowing are
migrated (`UbsEngine.Fault.mem_events`).
-/

namespace UbsEngine

namespace Fault

open Mem

/-! ### Changes of the store -/

theorem mem_saveTaskState {t t' : TaskPersistState} {store : List TaskPersistState}
    (h : t' ∈ saveTaskState t store) : t' = t ∨ t' ∈ store := by
  induction store with
  | nil => exact Or.inl (List.mem_singleton.1 h)
  | cons head rest ih =>
    rw [saveTaskState] at h
    split at h
    · exact (List.mem_cons.1 h).imp_right (List.mem_cons_of_mem _)
    · rcases List.mem_cons.1 h with rfl | h
      · exact Or.inr List.mem_cons_self
      · exact (ih h).imp_right (List.mem_cons_of_mem _)

/-- A save puts in the task, if its id was not there. -/
theorem taskIds_saveTaskState (t : TaskPersistState) (store : List TaskPersistState) :
    (saveTaskState t store).map (·.taskId) =
      if t.taskId ∈ store.map (·.taskId) then store.map (·.taskId)
      else store.map (·.taskId) ++ [t.taskId] := by
  induction store with
  | nil => rfl
  | cons head rest ih =>
    rw [saveTaskState]
    split
    next h => rw [List.map_cons, List.map_cons, h, if_pos List.mem_cons_self]
    next h =>
      rw [List.map_cons, List.map_cons, ih]
      split
      next hmem => rw [if_pos (List.mem_cons_of_mem _ hmem)]
      next hmem =>
        rw [if_neg (List.not_mem_cons_of_ne_of_not_mem (Ne.symm h) hmem), List.cons_append]

/-- What is persisted was persisted before, or by this change. -/
theorem mem_apply {t : TaskPersistState} {store : List TaskPersistState} {op : StoreOp}
    (h : t ∈ op.apply store) : t ∈ store ∨ op = .save t := by
  cases op with
  | save t' =>
    rcases mem_saveTaskState h with rfl | h
    · exact Or.inr rfl
    · exact Or.inl h
  | remove node taskId => exact Or.inl (List.mem_filter.1 h).1

theorem mem_foldl_apply {t : TaskPersistState} {store : List TaskPersistState}
    {ops : List StoreOp} (h : t ∈ ops.foldl StoreOp.apply store) : t ∈ store ∨ .save t ∈ ops := by
  induction ops generalizing store with
  | nil => exact Or.inl h
  | cons op ops ih =>
    rcases ih h with h | h
    · rcases mem_apply h with h | rfl
      · exact Or.inl h
      · exact Or.inr List.mem_cons_self
    · exact Or.inr (List.mem_cons_of_mem _ h)

/-- The persisted tasks have different ids. -/
theorem nodup_apply {store : List TaskPersistState} (h : (store.map (·.taskId)).Nodup)
    (op : StoreOp) : ((op.apply store).map (·.taskId)).Nodup := by
  cases op with
  | save t =>
    rw [StoreOp.apply, taskIds_saveTaskState]
    split
    · exact h
    next hmem => exact List.nodup_append'.2 ⟨h, List.nodup_singleton _, by simpa using hmem⟩
  | remove node taskId => exact (List.filter_sublist.map _).nodup h

theorem nodup_foldl_apply {store : List TaskPersistState} (h : (store.map (·.taskId)).Nodup)
    (ops : List StoreOp) : ((ops.foldl StoreOp.apply store).map (·.taskId)).Nodup :=
  List.foldlRecOn (motive := fun store : List TaskPersistState => (store.map (·.taskId)).Nodup)
    ops _ h fun _ hstore op _ => nodup_apply hstore op

/-! ### Tasks that have vanished -/

/-- The changes and what is given back are those of the single tasks. -/
theorem foldl_append_reconciled (rs : List Reconciled) (r : Reconciled) :
    (rs.foldl Reconciled.append r).ops = r.ops ++ rs.flatMap (·.ops) ∧
      (rs.foldl Reconciled.append r).freed = r.freed ++ rs.flatMap (·.freed) ∧
        (rs.foldl Reconciled.append r).errRecords = r.errRecords ++ rs.flatMap (·.errRecords) := by
  induction rs generalizing r with
  | nil => exact ⟨by simp, by simp, by simp⟩
  | cons head rest ih =>
    rw [List.foldl_cons]
    obtain ⟨hops, hfreed, herr⟩ := ih (r.append head)
    refine ⟨?_, ?_, ?_⟩
    · rw [hops, List.flatMap_cons, ← List.append_assoc]
      rfl
    · rw [hfreed, List.flatMap_cons, ← List.append_assoc]
      rfl
    · rw [herr, List.flatMap_cons, ← List.append_assoc]
      rfl

section Reconcile

variable {env : RoundEnv} {context : OverCommitFaultContext} {nodePlans : List BorrowInNodePlan}
  {store : List TaskPersistState}

/-- A task is forgotten that was persisted and has vanished. -/
theorem mem_ops_reconcile {op : StoreOp}
    (h : op ∈ (reconcileOrphanTasks env context nodePlans store).ops) :
    ∃ t ∈ store, isOrphan context nodePlans t ∧ op = .remove t.borrowInNodeId t.taskId := by
  rw [reconcileOrphanTasks, (foldl_append_reconciled _ _).1, List.nil_append] at h
  obtain ⟨r, hr, hop⟩ := List.mem_flatMap.1 h
  obtain ⟨t, ht, rfl⟩ := List.mem_map.1 hr
  rw [List.mem_filter] at ht
  refine ⟨t, ht.1, ht.2, ?_⟩
  rw [reconcileOrphan] at hop
  split at hop
  · cases hop
  · exact List.mem_singleton.1 hop

/-- A borrowing is given back of a task that was persisted and has vanished. -/
theorem mem_freed_reconcile {b : string}
    (h : b ∈ (reconcileOrphanTasks env context nodePlans store).freed) :
    ∃ t ∈ store, isOrphan context nodePlans t ∧ t.holdsBorrow ∧ t.newBorrowId = b ∧
      env.freeOrphan b := by
  rw [reconcileOrphanTasks, (foldl_append_reconciled _ _).2.1, List.nil_append] at h
  obtain ⟨r, hr, hb⟩ := List.mem_flatMap.1 h
  obtain ⟨t, ht, rfl⟩ := List.mem_map.1 hr
  rw [List.mem_filter] at ht
  rw [reconcileOrphan] at hb
  split at hb
  next => cases hb
  next hfree =>
    dsimp only at hb
    split at hb
    next hholds =>
      obtain rfl := List.mem_singleton.1 hb
      exact ⟨t, ht.1, ht.2, hholds, rfl, Bool.eq_true_of_not_eq_false fun h => hfree ⟨hholds, h⟩⟩
    next => cases hb

end Reconcile

/-! ### Tasks that have been borrowed for -/

/-- A later plan of the same node that still has the tasks with a borrowing. -/
structure Holds (plan plan' : FaultExecutePlan) : Prop where
  node : plan'.borrowInNodeId = plan.borrowInNodeId
  tasks : ∀ task ∈ plan.tasks, isNew task = false → task ∈ plan'.tasks

theorem Holds.refl (plan : FaultExecutePlan) : Holds plan plan := ⟨rfl, fun _ htask _ => htask⟩

/-- A change of the store that persists a task which has been borrowed for. -/
def PersistsBorrow (plans : List FaultExecutePlan) (op : StoreOp) : Prop :=
  ∃ plan ∈ plans, ∃ task ∈ plan.tasks, isNew task = false ∧
    op = .save (persistStateOf plan.borrowInNodeId task .BORROWED)

theorem PersistsBorrow.holds {plans plans' : List FaultExecutePlan} {op : StoreOp}
    (h : PersistsBorrow plans op) (hholds : List.Forall₂ Holds plans plans') :
    PersistsBorrow plans' op := by
  obtain ⟨plan, hplan, task, htask, hnew, rfl⟩ := h
  obtain ⟨plan', hplan', hh⟩ := Slots.exists_right hholds hplan
  exact ⟨plan', hplan', task, hh.tasks task htask hnew, hnew, by rw [hh.node]⟩

theorem ofGroup_of_not_new {group : PlanBorrowGroup} {task : MigrationTask}
    (h : isNew task = false) : ofGroup group task = false := by
  rw [ofGroup, h]
  simp

/-- Borrowing for one group: the tasks with a borrowing stay, and those that get one are
persisted. -/
theorem persistsBorrow_borrowRef (env : RoundEnv) (s : Borrowed) (ref : Nat × Nat)
    (h : ∀ op ∈ s.ops, PersistsBorrow s.plans op) :
    ∀ op ∈ (borrowRef env s ref).ops, PersistsBorrow (borrowRef env s ref).plans op := by
  rw [borrowRef]
  split
  next => exact h
  next plan hplan =>
    split
    next => exact h
    next group _ =>
      split
      next =>
        refine fun op hop => (h op hop).holds (Slots.forall₂_set Holds.refl hplan ⟨rfl, ?_⟩)
        exact fun task htask hnew => List.mem_filter.2
          ⟨htask, by rw [ofGroup_of_not_new hnew]; rfl⟩
      next b _ =>
        intro op hop
        rcases List.mem_append.1 hop with hop | hop
        · refine (h op hop).holds (Slots.forall₂_set Holds.refl hplan ⟨rfl, ?_⟩)
          exact fun task htask hnew => List.mem_map.2
            ⟨task, htask, by rw [if_neg (by rw [ofGroup_of_not_new hnew]; decide)]⟩
        · obtain ⟨task, htask, rfl⟩ := List.mem_map.1 hop
          rw [List.mem_filter] at htask
          have hplace := (List.getElem?_eq_some_iff.1 hplan).1
          exact ⟨_, List.mem_set hplace _, task.withBorrow b,
            List.mem_map.2 ⟨task, htask.1, if_pos htask.2⟩, rfl, rfl⟩

theorem persistsBorrow_serialBorrowOnMaster (env : RoundEnv) (plans : List FaultExecutePlan) :
    ∀ op ∈ (serialBorrowOnMaster env plans).ops,
      PersistsBorrow (serialBorrowOnMaster env plans).plans op :=
  List.foldlRecOn (motive := fun s : Borrowed => ∀ op ∈ s.ops, PersistsBorrow s.plans op)
    (borrowOrder env plans) (borrowRef env) (fun _ h => nomatch h)
    fun s h ref _ => persistsBorrow_borrowRef env s ref h

/-! ### Tasks that a node has answered for -/

/-- A task that nothing was borrowed for is left as it is. -/
theorem advanceTask_new (env : NodeExecEnv) (tasks : List MigrationTask) {task : MigrationTask}
    (h : isNew task) : advanceTask env tasks task = (.NONE, []) := by
  have hphase : task.phase = .NONE := of_decide_eq_true h
  rw [advanceTask, runTask, hphase, ite_self]

/-- The conditional return completes tasks that have been taken out of control, and changes no
other phase. -/
theorem phaseOf_executeConditionalReturn (env : NodeExecEnv) (tasks : List MigrationTask)
    (taskPhases : TaskPhases) (taskId : string) :
    phaseOf (executeConditionalReturn env tasks taskPhases).1 taskId = phaseOf taskPhases taskId ∨
      ¬phaseOf taskPhases taskId < .REMOVED ∧
        phaseOf (executeConditionalReturn env tasks taskPhases).1 taskId = .COMPLETED := by
  refine List.foldlRecOn (motive := fun m : TaskPhases =>
    phaseOf m taskId = phaseOf taskPhases taskId ∨
      ¬phaseOf taskPhases taskId < .REMOVED ∧ phaseOf m taskId = .COMPLETED)
    tasks _ (Or.inl rfl) fun m ih task _ => ?_
  split
  next => exact ih
  next hphase =>
    split
    next =>
      rw [phaseOf, Map.lookup_insert_ite]
      split
      next hid =>
        subst hid
        refine Or.inr ⟨?_, rfl⟩
        rcases ih with ih | ih
        · rw [← ih]
          exact hphase
        · exact ih.1
      next => exact ih
    next => exact ih

/-- The tasks of an answer. -/
theorem mem_taskResults {env : NodeExecEnv} {tasks : List MigrationTask} {directIds : List string}
    {result : TaskExecuteResult}
    (h : result ∈ (pidExecuteRecvHandler env tasks directIds).1.taskResults) :
    ∃ task ∈ tasks, result.taskId = task.taskId ∧ result.completedPhase =
      phaseOf (executeConditionalReturn env tasks (advancedPhases env tasks)).1 task.taskId := by
  obtain ⟨task, htask, rfl⟩ := List.mem_map.1 h
  exact ⟨task, htask, rfl, rfl⟩

theorem taskResults_dispatchNodePlan {env : RoundEnv} {plan : FaultExecutePlan}
    {result : TaskExecuteResult} (h : result ∈ (dispatchNodePlan env plan).taskResults) :
    result ∈ (pidExecuteRecvHandler (env.exec plan.borrowInNodeId) plan.tasks
      plan.directReturnBorrowIds).1.taskResults := by
  rw [dispatchNodePlan] at h
  cases hd : env.dispatch plan.borrowInNodeId with
  | lost => rw [hd] at h; cases h
  | unanswered => rw [hd] at h; cases h
  | answered => rw [hd] at h; exact h

/-- A task without a borrowing does not get anywhere. -/
theorem not_new_of_result {env : NodeExecEnv} {tasks : List MigrationTask}
    (hnodup : (tasks.map (·.taskId)).Nodup) {directIds : List string} {result : TaskExecuteResult}
    (h : result ∈ (pidExecuteRecvHandler env tasks directIds).1.taskResults)
    (hphase : .BORROWED ≤ result.completedPhase) {task : MigrationTask} (htask : task ∈ tasks)
    (hid : task.taskId = result.taskId) : isNew task = false := by
  by_contra hnew
  rw [Bool.not_eq_false] at hnew
  obtain ⟨task', htask', hid', hresult⟩ := mem_taskResults h
  obtain rfl := List.inj_on_of_nodup_map hnodup htask htask' (hid.trans hid')
  have hnone : phaseOf (advancedPhases env tasks) task.taskId = .NONE := by
    rw [phaseOf_advancedPhases hnodup htask, advanceTask_new env tasks hnew]
  rcases phaseOf_executeConditionalReturn env tasks (advancedPhases env tasks) task.taskId with
    hsame | ⟨hlow, -⟩
  · rw [hresult, hsame, hnone] at hphase
    exact absurd hphase (by decide)
  · rw [hnone] at hlow
    exact hlow (by decide)

/-- What a node's answer does to the store, it does for a task of the plan. -/
theorem mem_resultOps {s : Sent} {op : StoreOp} (h : op ∈ resultOps s) :
    ∃ result ∈ s.taskResults, ∃ task ∈ s.plan.tasks, task.taskId = result.taskId ∧
      (op = .remove s.plan.borrowInNodeId task.taskId ∨
        .BORROWED ≤ result.completedPhase ∧ ∃ freed,
          op = .save { persistStateOf s.plan.borrowInNodeId task result.completedPhase with
            freedOldBorrowIds := freed }) := by
  obtain ⟨result, hresult, hop⟩ := List.mem_filterMap.1 h
  obtain ⟨task, hfind, hop⟩ := Option.bind_eq_some_iff.1 hop
  rw [List.findRev?_eq_find?_reverse] at hfind
  refine ⟨result, hresult, task, List.mem_reverse.1 (List.mem_of_find?_eq_some hfind),
    by simpa using List.find?_some hfind, ?_⟩
  split at hop
  next => exact Or.inl (Option.some.inj hop).symm
  next =>
    rw [Option.ite_none_right_eq_some] at hop
    exact Or.inr ⟨hop.1, _, (Option.some.inj hop.2).symm⟩

/-- **A change of the store as the plans are carried out.** It is for a task of a plan, and what
is persisted has the borrowing of the task. -/
structure OpOf (plan : FaultExecutePlan) (task : MigrationTask) (op : StoreOp) : Prop where
  node : op.node = plan.borrowInNodeId
  taskId : op.taskId = task.taskId
  save : ∀ t, op = .save t → isNew task = false ∧ t.newBorrowId = task.newBorrowId ∧
    t.pids = task.pids ∧ t.borrowInNodeId = plan.borrowInNodeId

theorem Staged.mem_ops {sceneType : MpSceneType} {faultNodeId : string} {env : RoundEnv}
    {store : List TaskPersistState} {ledger : DebtLedger} {r : Round}
    (h : Staged sceneType faultNodeId env store ledger r) {op : StoreOp}
    (hop : op ∈ r.executed.ops) :
    ∃ plan ∈ r.executed.plans, ∃ task ∈ plan.tasks, OpOf plan task op := by
  rcases h.executed with ⟨-, hnone⟩ | ⟨-, hexecuted⟩
  · rw [hnone] at hop
    cases hop
  have hops : op ∈ (serialBorrowOnMaster env r.decided).ops ∨
      ∃ s ∈ r.executed.sent, op ∈ resultOps s := by
    rw [hexecuted, executeAll] at hop
    rw [hexecuted, sent_executeAll]
    split at hop
    next => exact Or.inl hop
    next => exact (List.mem_append.1 hop).imp_right List.mem_flatMap.1
  rcases hops with hop | ⟨s, hs, hop⟩
  · obtain ⟨plan, hplan, task, htask, hnew, rfl⟩ :=
      persistsBorrow_serialBorrowOnMaster env r.decided op hop
    rw [hexecuted, plans_executeAll]
    refine ⟨plan, hplan, task, htask, rfl, rfl, ?_⟩
    rintro t ⟨⟩
    exact ⟨hnew, rfl, rfl, rfl⟩
  · obtain ⟨hplan, -, hsent⟩ := h.sent hs
    obtain ⟨result, hresult, task, htask, hid, hop⟩ := mem_resultOps hop
    refine ⟨s.plan, hplan, task, htask, ?_⟩
    rcases hop with rfl | ⟨hphase, freed, rfl⟩
    · refine ⟨rfl, rfl, ?_⟩
      rintro t ⟨⟩
    · rw [hsent] at hresult
      have hnew := not_new_of_result (h.nodup_plan hplan)
        (taskResults_dispatchNodePlan hresult) hphase htask hid
      refine ⟨rfl, rfl, ?_⟩
      rintro t ⟨⟩
      exact ⟨hnew, rfl, rfl, rfl⟩

/-! ### What is done on a node -/

theorem events_dispatchNodePlan {env : RoundEnv} {plan : FaultExecutePlan} {event : NodeEvent}
    (h : event ∈ (dispatchNodePlan env plan).events) :
    event ∈ (pidExecuteRecvHandler (env.exec plan.borrowInNodeId) plan.tasks
      plan.directReturnBorrowIds).2 := by
  rw [dispatchNodePlan] at h
  cases hd : env.dispatch plan.borrowInNodeId with
  | lost => rw [hd] at h; cases h
  | unanswered => rw [hd] at h; exact h
  | answered => rw [hd] at h; exact h

theorem mem_removePids {env : NodeExecEnv} {task : MigrationTask} {numaIds : List NumaId}
    {event : NodeEvent} (h : event ∈ (removePids env task numaIds).2) :
    ∃ numaId, event = .removed (numaPids task numaId) numaId := by
  induction numaIds with
  | nil => cases h
  | cons numaId numaIds ih =>
    rw [removePids] at h
    split at h
    · rcases List.mem_cons.1 h with rfl | h
      · exact ⟨numaId, rfl⟩
      · exact ih h
    · cases h

theorem mem_migrateSingleTask {env : NodeExecEnv} {task : MigrationTask} {event : NodeEvent}
    (h : event ∈ (migrateSingleTask env task).2) :
    event ∈ migrateEvents env task ∨ ∃ numaId, event = .removed (numaPids task numaId) numaId := by
  rw [migrateSingleTask] at h
  split at h
  · cases h
  · split at h
    · exact Or.inl h
    · exact (List.mem_append.1 h).imp_right mem_removePids

/-- What is done for a task migrates its processes, or takes them out of control. Nothing is done
for a task without a borrowing. -/
theorem mem_advanceTask {env : NodeExecEnv} {tasks : List MigrationTask} {task : MigrationTask}
    {event : NodeEvent} (h : event ∈ (advanceTask env tasks task).2) : isNew task = false ∧
      (event ∈ migrateEvents env task ∨ ∃ numaId, event = .removed (numaPids task numaId) numaId) := by
  refine ⟨?_, ?_⟩
  · by_contra hnew
    rw [advanceTask_new env tasks (Bool.not_eq_false _ ▸ hnew)] at h
    cases h
  rw [advanceTask] at h
  split at h
  · rw [runTask] at h
    split at h
    · split at h
      · split at h
        · exact mem_migrateSingleTask h
        · exact mem_migrateSingleTask h
      · cases h
    · rw [removeSingleTaskFaultNumaManaged] at h
      split at h
      · cases h
      · exact Or.inr (mem_removePids h)
    · cases h
  · cases h

/-- **Only a task that has a borrowing is migrated**, and it is onto this borrowing. -/
theorem mem_events {env : NodeExecEnv} {tasks : List MigrationTask} {directIds : List string}
    {pid : Pid} {numaIds : List NumaId} {b : string} {done : Bool}
    (h : .migrate pid numaIds b done ∈ (pidExecuteRecvHandler env tasks directIds).2) :
    ∃ task ∈ tasks, isNew task = false ∧ b = task.newBorrowId ∧ pid ∈ task.pids := by
  rcases List.mem_append.1 h with h | h
  · rcases List.mem_append.1 h with h | h
    · obtain ⟨_, -, heq⟩ := List.mem_map.1 h
      cases heq
    · obtain ⟨task, htask, hevent⟩ := List.mem_flatMap.1 h
      obtain ⟨hnew, hevent⟩ := mem_advanceTask hevent
      refine ⟨task, htask, hnew, ?_⟩
      rcases hevent with hevent | ⟨_, heq⟩
      · obtain ⟨pid, hpid, heq⟩ := List.mem_map.1 hevent
        cases heq
        exact ⟨rfl, (List.mem_filter.1 (List.mem_filter.1 hpid).1).1⟩
      · cases heq
  · obtain ⟨_, -, heq⟩ := List.mem_map.1 h
    cases heq

end Fault

end UbsEngine
