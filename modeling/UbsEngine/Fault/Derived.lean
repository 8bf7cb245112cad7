import UbsEngine.Fault.Round
import UbsEngine.Fault.TaskIds
import UbsEngine.Library.Slots
import Mathlib.Data.List.Dedup
import Mathlib.Data.List.Perm.Subperm

/-!
# From the tasks that are built to those that are sent

Neither the decisions nor the borrowing change what a task is about: which processes it migrates,
from where, and which borrowings it is to give back (`UbsEngine.Fault.MigrationTask.work`). A plan
that is sent is one of a node that answered, and its tasks are some of those that were built for
that node (`UbsEngine.Fault.Derived`). Tasks of one node have different ids.
-/

namespace UbsEngine

namespace Fault

open Mem

/-! ### What the decisions keep -/

/-- A task as it was built. -/
def MigrationTask.work (task : MigrationTask) : MigrationTask :=
  { task with phase := .NONE, newBorrowId := [], newRemoteNumaId := 0, newBorrowSizeKB := 0 }

theorem MigrationTask.work_work (task : MigrationTask) : task.work.work = task.work := rfl

theorem MigrationTask.work_withBorrow (task : MigrationTask) (b : string × NumaId × Nat) :
    (task.withBorrow b).work = task.work := rfl

theorem work_mergeTask (store : List TaskPersistState) (task : MigrationTask) :
    (mergeTask store task).work = task.work := by
  rw [mergeTask]
  split
  · rfl
  · split
    · rfl
    · rfl

/-- A later plan of the same node, with no other tasks. -/
structure Kept (plan plan' : FaultExecutePlan) : Prop where
  node : plan'.borrowInNodeId = plan.borrowInNodeId
  planType : plan'.planType = plan.planType
  directReturns : plan'.directReturnBorrowIds = plan.directReturnBorrowIds
  tasks : plan'.tasks.Subperm plan.tasks

theorem Kept.refl (plan : FaultExecutePlan) : Kept plan plan := ⟨rfl, rfl, rfl, .refl _⟩

theorem Kept.trans (plan plan' plan'' : FaultExecutePlan) (h : Kept plan plan')
    (h' : Kept plan' plan'') : Kept plan plan'' :=
  ⟨h'.node.trans h.node, h'.planType.trans h.planType, h'.directReturns.trans h.directReturns,
    h'.tasks.trans h.tasks⟩

theorem greedySelect_sublist (availableKB accumulated : Nat) (tasks : List MigrationTask) :
    (greedySelect availableKB accumulated tasks).Sublist tasks := by
  induction tasks generalizing accumulated with
  | nil => exact .slnil
  | cons task tasks ih =>
    rw [greedySelect]
    split
    · exact (ih _).cons_cons _
    · exact (ih _).cons _

/-- A group is cut down to some of its tasks. -/
theorem shrunkTasks_subperm (o : BySize MigrationTask.migrationSizeKB)
    (snapshot : List LenderNumaCapacity) (plan : FaultExecutePlan) (group : PlanBorrowGroup) :
    (shrunkTasks o snapshot plan group).Subperm (plan.groupTasks group) :=
  (greedySelect_sublist _ _ _).subperm.trans (o.perm _).subperm

/-- The tasks of a group and the others are all tasks. -/
theorem groupTasks_append_perm (plan : FaultExecutePlan) (group : PlanBorrowGroup) :
    (plan.tasks.filter (·.taskId ∉ group.taskIds) ++ plan.groupTasks group).Perm plan.tasks := by
  have hperm := List.filter_append_perm (fun task : MigrationTask =>
    decide (task.taskId ∈ group.taskIds)) plan.tasks
  simp only [← decide_not] at hperm
  exact List.perm_append_comm.trans hperm

/-- The tasks outside a group together with some of the group. -/
theorem otherTasks_append_subperm {plan : FaultExecutePlan} {group : PlanBorrowGroup}
    {selected : List MigrationTask} (h : selected.Subperm (plan.groupTasks group)) :
    (plan.tasks.filter (·.taskId ∉ group.taskIds) ++ selected).Subperm plan.tasks :=
  (List.Subperm.append (.refl _) h).trans (groupTasks_append_perm plan group).subperm

theorem kept_assignGroup (o : BySize MigrationTask.migrationSizeKB)
    (snapshot : List LenderNumaCapacity) (plan : FaultExecutePlan) (g : Nat)
    (group : PlanBorrowGroup) : Kept plan (assignGroup o snapshot plan g group).2 := by
  rw [assignGroup]
  split
  · exact ⟨rfl, rfl, rfl, .refl _⟩
  · dsimp only
    split
    · exact ⟨rfl, rfl, rfl, otherTasks_append_subperm (shrunkTasks_subperm o snapshot plan group)⟩
    · exact ⟨rfl, rfl, rfl, List.filter_sublist.subperm⟩

theorem kept_assignRef (o : BySize MigrationTask.migrationSizeKB)
    (s : List LenderNumaCapacity × List FaultExecutePlan) (ref : Nat × Nat) :
    List.Forall₂ Kept s.2 (assignRef o s ref).2 := by
  rw [assignRef]
  split
  next => exact Slots.forall₂_refl Kept.refl _
  next plan hplan =>
    split
    · exact Slots.forall₂_refl Kept.refl _
    · exact Slots.forall₂_set Kept.refl hplan (kept_assignGroup _ _ _ _ _)

theorem kept_dropNewTasks (plan : FaultExecutePlan) : Kept plan (dropNewTasks plan) := by
  rw [dropNewTasks]
  split
  · exact ⟨rfl, rfl, rfl, List.filter_sublist.subperm⟩
  · exact .refl plan

/-- **The decisions keep to the plans**, entry by entry. -/
theorem kept_makeDecisions (env : DecisionEnv) (store : List TaskPersistState)
    (nodePlans : List BorrowInNodePlan) :
    List.Forall₂ Kept (nodePlans.filterMap (mergePlan store)) (makeDecisions env store nodePlans) := by
  rw [makeDecisions]
  split
  next =>
    rw [List.forall₂_map_right_iff]
    exact List.forall₂_same.2 fun plan _ => kept_dropNewTasks plan
  next snapshot _ =>
    exact Slots.forall₂_foldl Kept.refl Kept.trans (kept_assignRef _)
      (snapshot, _) _

/-! ### What borrowing keeps -/

theorem subperm_map {α β : Type} (f : α → β) {l l' : List α} (h : l.Subperm l') :
    (l.map f).Subperm (l'.map f) := by
  obtain ⟨m, hperm, hsub⟩ := h
  exact ⟨m.map f, hperm.map f, hsub.map f⟩

/-- A later plan of the same node, whose tasks are about the same. -/
structure Carries (plan plan' : FaultExecutePlan) : Prop where
  node : plan'.borrowInNodeId = plan.borrowInNodeId
  planType : plan'.planType = plan.planType
  directReturns : plan'.directReturnBorrowIds = plan.directReturnBorrowIds
  tasks : (plan'.tasks.map (·.work)).Subperm (plan.tasks.map (·.work))

theorem Carries.refl (plan : FaultExecutePlan) : Carries plan plan := ⟨rfl, rfl, rfl, .refl _⟩

theorem Carries.trans (plan plan' plan'' : FaultExecutePlan) (h : Carries plan plan')
    (h' : Carries plan' plan'') : Carries plan plan'' :=
  ⟨h'.node.trans h.node, h'.planType.trans h.planType, h'.directReturns.trans h.directReturns,
    h'.tasks.trans h.tasks⟩

theorem Kept.carries {plan plan' : FaultExecutePlan} (h : Kept plan plan') : Carries plan plan' :=
  ⟨h.node, h.planType, h.directReturns, subperm_map _ h.tasks⟩

/-- The tasks of a group get their borrowing, and are about the same as before. -/
theorem map_work_withBorrow (group : PlanBorrowGroup) (b : string × NumaId × Nat)
    (tasks : List MigrationTask) :
    (tasks.map fun task => if ofGroup group task then task.withBorrow b else task).map (·.work) =
      tasks.map (·.work) := by
  rw [List.map_map]
  refine List.map_congr_left fun task _ => ?_
  rw [Function.comp_apply]
  split
  · exact task.work_withBorrow b
  · rfl

theorem carries_borrowRef (env : RoundEnv) (s : Borrowed) (ref : Nat × Nat) :
    List.Forall₂ Carries s.plans (borrowRef env s ref).plans := by
  rw [borrowRef]
  split
  next => exact Slots.forall₂_refl Carries.refl _
  next plan hplan =>
    split
    next => exact Slots.forall₂_refl Carries.refl _
    next group _ =>
      split
      next =>
        refine Slots.forall₂_set Carries.refl hplan ⟨rfl, rfl, rfl, ?_⟩
        exact (List.filter_sublist.map _).subperm
      next b _ =>
        refine Slots.forall₂_set Carries.refl hplan ⟨rfl, rfl, rfl, ?_⟩
        dsimp only
        rw [map_work_withBorrow]

theorem carries_serialBorrowOnMaster (env : RoundEnv) (plans : List FaultExecutePlan) :
    List.Forall₂ Carries plans (serialBorrowOnMaster env plans).plans :=
  Slots.forall₂_foldl Carries.refl Carries.trans (carries_borrowRef env) { plans := plans } _

/-! ### Where a plan comes from -/

/-- **A plan comes from what was built for its node.** -/
structure Derived (nodePlan : BorrowInNodePlan) (plan : FaultExecutePlan) : Prop where
  node : plan.borrowInNodeId = nodePlan.borrowInNodeId
  tasks : (plan.tasks.map (·.work)).Subperm (nodePlan.tasks.map (·.work))
  directReturns : plan.planType = .EXECUTE →
    plan.directReturnBorrowIds = (nodePlan.directReturns.flatMap (·.relatedBorrowIds)).dedup

theorem derived_mergePlan {store : List TaskPersistState} {nodePlan : BorrowInNodePlan}
    {plan : FaultExecutePlan} (h : mergePlan store nodePlan = some plan) :
    Derived nodePlan plan := by
  rw [mergePlan] at h
  split at h
  · dsimp only at h
    split at h
    · cases h
    · obtain rfl := Option.some.inj h
      refine ⟨rfl, ?_, fun _ => rfl⟩
      have hwork : (nodePlan.tasks.map (mergeTask store)).map (·.work) =
          nodePlan.tasks.map (·.work) := by
        rw [List.map_map]
        exact List.map_congr_left fun task _ => work_mergeTask store task
      exact hwork ▸ .refl _
  · obtain rfl := Option.some.inj h
    exact ⟨rfl, List.nil_subperm, fun h => nomatch h⟩

theorem Derived.carries {nodePlan : BorrowInNodePlan} {plan plan' : FaultExecutePlan}
    (h : Derived nodePlan plan) (h' : Carries plan plan') : Derived nodePlan plan' :=
  ⟨h'.node.trans h.node, h'.tasks.trans h.tasks, fun htype =>
    h'.directReturns.trans (h.directReturns (h'.planType ▸ htype))⟩

/-- The ids of the tasks come with what these are about. -/
theorem Derived.taskIds {nodePlan : BorrowInNodePlan} {plan : FaultExecutePlan}
    (h : Derived nodePlan plan) :
    (plan.tasks.map (·.taskId)).Subperm (nodePlan.tasks.map (·.taskId)) := by
  have hids := subperm_map (·.taskId) h.tasks
  rw [List.map_map, List.map_map] at hids
  exact hids

theorem Derived.nodup {nodePlan : BorrowInNodePlan} {plan : FaultExecutePlan}
    (h : Derived nodePlan plan) (hnodup : (nodePlan.tasks.map (·.taskId)).Nodup) :
    (plan.tasks.map (·.taskId)).Nodup := by
  obtain ⟨ids, hperm, hsub⟩ := h.taskIds
  exact hperm.nodup_iff.1 (hsub.nodup hnodup)

/-! ### The stages of a round -/

section Stages

variable {sceneType : MpSceneType} {faultNodeId : string} {env : RoundEnv}
  {store : List TaskPersistState}

theorem collect_ok {env : CollectEnv} {context : OverCommitFaultContext}
    (h : collect sceneType faultNodeId env = .ok context) :
    ∃ ledger, env.ledger = some ledger ∧
      context = collectContext sceneType faultNodeId env ledger.debtInfos := by
  rw [collect] at h
  split at h
  next => cases h
  next ledger hledger =>
    dsimp only at h
    split at h
    · cases h
    · exact ⟨ledger, hledger, (Except.ok.inj h).symm⟩

/-- A round in which there is something to do. -/
structure Staged (sceneType : MpSceneType) (faultNodeId : string) (env : RoundEnv)
    (store : List TaskPersistState) (ledger : DebtLedger) (r : Round) : Prop where
  ledger_eq : env.collect.ledger = some ledger
  context : r.context = some (collectContext sceneType faultNodeId env.collect ledger.debtInfos)
  nodePlans : r.nodePlans = buildTasks sceneType env.containerOrder
    (collectContext sceneType faultNodeId env.collect ledger.debtInfos)
  reconciled : r.reconciled = reconcileOrphanTasks env
    (collectContext sceneType faultNodeId env.collect ledger.debtInfos) r.nodePlans store
  executed : r.decided = [] ∧ r.executed = { plans := [] } ∨
    r.decided = makeDecisions env.decision (r.reconciled.ops.foldl StoreOp.apply store)
      r.nodePlans ∧ r.executed = executeAll env r.decided

/-- **The stages of a round**, if it has any. -/
theorem round_cases (sceneType : MpSceneType) (faultNodeId : string) (env : RoundEnv)
    (store : List TaskPersistState) :
    (∃ context ret, processBorrowOutNodeFaultByPid sceneType faultNodeId env store =
        { context := context, ret := ret }) ∨
      ∃ ledger, Staged sceneType faultNodeId env store ledger
        (processBorrowOutNodeFaultByPid sceneType faultNodeId env store) := by
  generalize hr : processBorrowOutNodeFaultByPid sceneType faultNodeId env store = r
  rw [processBorrowOutNodeFaultByPid] at hr
  split at hr
  next code _ => exact Or.inl ⟨none, code, hr.symm⟩
  next context hcontext =>
    split at hr
    · exact Or.inl ⟨some context, _, hr.symm⟩
    · obtain ⟨ledger, hledger, rfl⟩ := collect_ok hcontext
      refine Or.inr ⟨ledger, ?_⟩
      dsimp only at hr
      split at hr
      next hnone =>
        subst hr
        exact ⟨hledger, rfl, hnone.symm, by rw [← hnone], Or.inl ⟨rfl, rfl⟩⟩
      next =>
        split at hr
        · subst hr
          exact ⟨hledger, rfl, rfl, rfl, Or.inl ⟨rfl, rfl⟩⟩
        · split at hr
          · subst hr
            exact ⟨hledger, rfl, rfl, rfl, Or.inl ⟨rfl, rfl⟩⟩
          · subst hr
            exact ⟨hledger, rfl, rfl, rfl, Or.inr ⟨rfl, rfl⟩⟩

end Stages

/-! ### The plans of a round -/

theorem plans_executeAll (env : RoundEnv) (plans : List FaultExecutePlan) :
    (executeAll env plans).plans = (serialBorrowOnMaster env plans).plans := by
  rw [executeAll]
  split
  · rfl
  · rfl

theorem sent_executeAll (env : RoundEnv) (plans : List FaultExecutePlan) :
    (executeAll env plans).sent =
      ((serialBorrowOnMaster env plans).plans.filter (·.dispatchable)).map
        (dispatchNodePlan env) := by
  rw [executeAll]
  split
  next h => exact h.symm
  next => rfl

theorem plan_dispatchNodePlan (env : RoundEnv) (plan : FaultExecutePlan) :
    (dispatchNodePlan env plan).plan = plan := by
  rw [dispatchNodePlan]
  cases env.dispatch plan.borrowInNodeId <;> rfl

namespace Staged

variable {sceneType : MpSceneType} {faultNodeId : string} {env : RoundEnv}
  {store : List TaskPersistState} {ledger : DebtLedger} {r : Round}

theorem built (h : Staged sceneType faultNodeId env store ledger r) {nodePlan : BorrowInNodePlan}
    (hplan : nodePlan ∈ r.nodePlans) :
    nodePlan = buildTasksForNode sceneType env.containerOrder
      (collectContext sceneType faultNodeId env.collect ledger.debtInfos)
      nodePlan.borrowInNodeId := by
  rw [h.nodePlans] at hplan
  obtain ⟨node, -, rfl⟩ := List.mem_map.1 (List.mem_filter.1 hplan).1
  rfl

theorem nodup_taskId (h : Staged sceneType faultNodeId env store ledger r)
    {nodePlan : BorrowInNodePlan} (hplan : nodePlan ∈ r.nodePlans) :
    (nodePlan.tasks.map (·.taskId)).Nodup := by
  rw [h.built hplan]
  exact Fault.nodup_taskId env.containerOrder nodePlan.borrowInNodeId

/-- There is one plan for a node. -/
theorem nodup_nodes (h : Staged sceneType faultNodeId env store ledger r) :
    (r.nodePlans.map (·.borrowInNodeId)).Nodup := by
  rw [h.nodePlans, buildTasks]
  refine (List.filter_sublist.map _).nodup ?_
  rw [List.map_map]
  exact (List.map_id _).symm ▸ List.nodup_dedup _

theorem derived_decided (h : Staged sceneType faultNodeId env store ledger r)
    {plan : FaultExecutePlan} (hplan : plan ∈ r.decided) :
    ∃ nodePlan ∈ r.nodePlans, Derived nodePlan plan := by
  rcases h.executed with ⟨hnone, -⟩ | ⟨hdecided, -⟩
  · rw [hnone] at hplan
    cases hplan
  · rw [hdecided] at hplan
    obtain ⟨merged, hmerged, hkept⟩ := Slots.exists_left (kept_makeDecisions _ _ _) hplan
    obtain ⟨nodePlan, hmem, hmerge⟩ := List.mem_filterMap.1 hmerged
    exact ⟨nodePlan, hmem, (derived_mergePlan hmerge).carries hkept.carries⟩

/-- **Every plan comes from what was built for its node.** -/
theorem derived (h : Staged sceneType faultNodeId env store ledger r) {plan : FaultExecutePlan}
    (hplan : plan ∈ r.executed.plans) : ∃ nodePlan ∈ r.nodePlans, Derived nodePlan plan := by
  rcases h.executed with ⟨-, hnone⟩ | ⟨-, hexecuted⟩
  · rw [hnone] at hplan
    cases hplan
  · rw [hexecuted, plans_executeAll] at hplan
    obtain ⟨decided, hdecided, hcarries⟩ :=
      Slots.exists_left (carries_serialBorrowOnMaster env r.decided) hplan
    obtain ⟨nodePlan, hmem, horigin⟩ := h.derived_decided hdecided
    exact ⟨nodePlan, hmem, horigin.carries hcarries⟩

/-- What is sent is the plan of a node. -/
theorem sent (h : Staged sceneType faultNodeId env store ledger r) {s : Sent}
    (hs : s ∈ r.executed.sent) :
    s.plan ∈ r.executed.plans ∧ s.plan.planType = .EXECUTE ∧ s = dispatchNodePlan env s.plan := by
  rcases h.executed with ⟨-, hnone⟩ | ⟨-, hexecuted⟩
  · rw [hnone] at hs
    cases hs
  · rw [hexecuted, sent_executeAll] at hs
    obtain ⟨plan, hplan, rfl⟩ := List.mem_map.1 hs
    obtain ⟨hmem, hdispatchable⟩ := List.mem_filter.1 hplan
    rw [plan_dispatchNodePlan, hexecuted, plans_executeAll]
    exact ⟨hmem, (of_decide_eq_true hdispatchable).1, rfl⟩

/-- The tasks of a plan have different ids. -/
theorem nodup_plan (h : Staged sceneType faultNodeId env store ledger r) {plan : FaultExecutePlan}
    (hplan : plan ∈ r.executed.plans) : (plan.tasks.map (·.taskId)).Nodup := by
  obtain ⟨nodePlan, hmem, horigin⟩ := h.derived hplan
  exact horigin.nodup (h.nodup_taskId hmem)

end Staged

/-! ### The phases that a request comes to -/

/-- The phase of a task after the migrations. -/
theorem phaseOf_advancedPhases {env : NodeExecEnv} {tasks : List MigrationTask}
    (hnodup : (tasks.map (·.taskId)).Nodup) {task : MigrationTask} (htask : task ∈ tasks) :
    phaseOf (advancedPhases env tasks) task.taskId = (advanceTask env tasks task).1 := by
  have hkeys : ((tasks.map fun task => (task.taskId, (advanceTask env tasks task).1)).map
      Prod.fst).Nodup := by
    rw [List.map_map]
    exact hnodup
  rw [phaseOf, advancedPhases, (Map.lookup_fill hkeys).2
    (List.mem_map.2 ⟨task, htask, rfl⟩), Option.getD_some]

end Fault

end UbsEngine
