import UbsEngine.Fault.Persisted

/-!
# What a successful round leaves behind

Every stage of a round records its errors, and a round succeeds when none is recorded. Tasks may be
given up without a record, though: all new tasks, when the capacity of the cluster cannot be read,
and those that do not fit, when a group is cut down to what can be borrowed for it in one piece
(`UbsEngine.Fault.DropsTasks`). A round that does this and in which nothing else fails
(`UbsEngine.Fault.GoesWell`) succeeds, and nobody comes back for these tasks. Any other round that
succeeds has completed all its tasks and given back what is given back at once
(`UbsEngine.Fault.leavesNothing_iff`).
-/

namespace UbsEngine

namespace Fault

open Mem

/-- **A round leaves no work behind**: every task that was built has been completed by its node, and
every borrowing that nobody uses has been given back. -/
structure LeavesNothing (r : Round) : Prop where
  tasks : ∀ nodePlan ∈ r.nodePlans, ∀ task ∈ nodePlan.tasks, ∃ s ∈ r.executed.sent,
    s.plan.borrowInNodeId = nodePlan.borrowInNodeId ∧ ∃ result ∈ s.taskResults,
      result.taskId = task.taskId ∧ result.completedPhase = .COMPLETED
  directReturns : ∀ nodePlan ∈ r.nodePlans, ∀ directReturn ∈ nodePlan.directReturns,
    ∀ b ∈ directReturn.relatedBorrowIds, ∃ s ∈ r.executed.sent,
      s.plan.borrowInNodeId = nodePlan.borrowInNodeId ∧ b ∈ s.freedBorrowIds

/-- A group is cut down: nobody can lend for all its tasks, somebody for fewer. -/
structure CutsDown (o : BySize MigrationTask.migrationSizeKB) (snapshot : List LenderNumaCapacity)
    (plan : FaultExecutePlan) (group : PlanBorrowGroup) : Prop where
  full : bestFitAssign snapshot plan.borrowInNodeId group group.demandKB = none
  shrunk : (shrunkAssign o snapshot plan group).isSome
  fewer : (shrunkTasks o snapshot plan group).length < (plan.groupTasks group).length

/-- The group at its place is cut down. -/
def CutsDownAt (o : BySize MigrationTask.migrationSizeKB)
    (s : List LenderNumaCapacity × List FaultExecutePlan) (ref : Nat × Nat) : Prop :=
  ∃ plan, s.2[ref.1]? = some plan ∧ ∃ group, plan.borrowGroups[ref.2]? = some group ∧
    CutsDown o s.1 plan group

/-- **Tasks are given up without a record**: there are new ones and the capacity cannot be read, or
a group is cut down. -/
def DropsTasks (env : DecisionEnv) (store : List TaskPersistState)
    (nodePlans : List BorrowInNodePlan) : Prop :=
  (env.snapshot = none ∧
      ∃ plan ∈ nodePlans.filterMap (mergePlan store), ∃ task ∈ plan.tasks, isNew task) ∨
    ∃ snapshot, env.snapshot = some snapshot ∧ ∃ before ref after,
      assignOrder env (nodePlans.filterMap (mergePlan store)) = before ++ ref :: after ∧
        CutsDownAt env.taskOrder (before.foldl (assignRef env.taskOrder)
          (snapshot, nodePlans.filterMap (mergePlan store))) ref

/-- **Nothing fails that is recorded.** -/
structure GoesWell (env : RoundEnv) (r : Round) : Prop where
  reconciled : r.reconciled.errRecords = []
  pending : r.nodePlans.any (·.hasPendingFaultNumas) = false
  marks : ∀ plan ∈ r.decided, plan.planType = .EXECUTE ∧ plan.capacityShortage = false
  borrowed : (serialBorrowOnMaster env r.decided).errRecords = []
  sent : r.executed.sent ≠ []
  answers : ∀ s ∈ r.executed.sent, s.success ∧
    ∀ result ∈ s.taskResults, resultErrors env s result = []

/-! ### Success -/

theorem borrowForGroup_error {env : RoundEnv} {node : string} {group : PlanBorrowGroup}
    {code : MpResult} (h : borrowForGroup env node group = .error code) :
    code ≠ MEM_POOLING_OK := by
  have hresult : ∀ (result : MemBorrowExecuteResult) (b : string × NumaId × Nat),
      (if result.ok then .ok b else .error (if result.ret ≠ MEM_POOLING_OK then result.ret
        else MEM_POOLING_FAULT_BORROW_MEM_ERROR) : Except MpResult _) = .error code →
        code ≠ MEM_POOLING_OK := by
    intro result b h
    split at h
    · cases h
    · rw [← Except.error.inj h]
      split
      next hne => exact hne
      next => decide
  rw [borrowForGroup] at h
  split at h
  · rw [← Except.error.inj h]
    decide
  · exact hresult _ _ h

theorem errRecords_borrowRef (env : RoundEnv) (s : Borrowed) (ref : Nat × Nat)
    (h : ∀ code ∈ s.errRecords, code ≠ MEM_POOLING_OK) :
    ∀ code ∈ (borrowRef env s ref).errRecords, code ≠ MEM_POOLING_OK := by
  rw [borrowRef]
  split
  next => exact h
  next plan _ =>
    split
    next => exact h
    next group _ =>
      split
      next code hcode =>
        refine List.forall_mem_append.2 ⟨h, List.forall_mem_singleton.2 ?_⟩
        exact borrowForGroup_error hcode
      next =>
        refine List.forall_mem_append.2 ⟨h, List.forall_mem_map.2 fun _ _ => ?_⟩
        decide

/-- No error is recorded with the code of a success. -/
theorem errRecords_executeAll (env : RoundEnv) (plans : List FaultExecutePlan) :
    ∀ code ∈ (executeAll env plans).errRecords, code ≠ MEM_POOLING_OK := by
  have hplans : ∀ code ∈ plans.flatMap planErrors, code ≠ MEM_POOLING_OK := by
    intro code hcode
    obtain ⟨plan, -, hcode⟩ := List.mem_flatMap.1 hcode
    rw [planErrors] at hcode
    rcases List.mem_append.1 hcode with hcode | hcode <;> split at hcode <;>
      simp only [List.mem_singleton, List.not_mem_nil] at hcode <;> subst hcode <;> decide
  have hborrow : ∀ code ∈ (serialBorrowOnMaster env plans).errRecords, code ≠ MEM_POOLING_OK :=
    List.foldlRecOn (motive := fun s : Borrowed => ∀ code ∈ s.errRecords, code ≠ MEM_POOLING_OK)
      (borrowOrder env plans) (borrowRef env) (fun _ h => nomatch h)
      fun s h ref _ => errRecords_borrowRef env s ref h
  have hnode : ∀ sent : List Sent, ∀ code ∈ sent.flatMap (nodeErrors env),
      code ≠ MEM_POOLING_OK := by
    intro sent code hcode
    obtain ⟨s, -, hcode⟩ := List.mem_flatMap.1 hcode
    rcases List.mem_append.1 hcode with hcode | hcode
    · obtain ⟨result, -, hcode⟩ := List.mem_flatMap.1 hcode
      rw [resultErrors] at hcode
      split at hcode
      · rcases List.mem_append.1 hcode with hcode | hcode
        · split at hcode
          · cases hcode
          next hne => exact (List.mem_singleton.1 hcode) ▸ hne
        · obtain ⟨_, -, rfl⟩ := List.mem_map.1 hcode
          decide
      · cases hcode
    · split at hcode
      · cases hcode
      · obtain rfl := List.mem_singleton.1 hcode
        split
        next hdef => exact isDefinedFaultErrorCode_ne hdef
        next => decide
  have herr := List.forall_mem_append.2 ⟨hplans, hborrow⟩
  rw [executeAll]
  split
  · split
    · exact List.forall_mem_singleton.2 (by decide)
    · exact herr
  · exact List.forall_mem_append.2 ⟨herr, hnode _⟩

theorem planErrors_eq_nil {plan : FaultExecutePlan} :
    planErrors plan = [] ↔ plan.planType = .EXECUTE ∧ plan.capacityShortage = false := by
  rw [planErrors, List.append_eq_nil_iff]
  refine and_congr ?_ ?_
  · cases plan.planType <;> simp
  · cases plan.capacityShortage <;> simp

theorem nodeErrors_eq_nil {env : RoundEnv} {s : Sent} :
    nodeErrors env s = [] ↔
      s.success ∧ ∀ result ∈ s.taskResults, resultErrors env s result = [] := by
  rw [nodeErrors, List.append_eq_nil_iff, List.flatMap_eq_nil_iff, and_comm]
  refine and_congr_left fun _ => ?_
  cases s.success <;> simp

theorem errRecords_executeAll_eq_nil {env : RoundEnv} {plans : List FaultExecutePlan} :
    (executeAll env plans).errRecords = [] ↔
      (∀ plan ∈ plans, plan.planType = .EXECUTE ∧ plan.capacityShortage = false) ∧
      (serialBorrowOnMaster env plans).errRecords = [] ∧ (executeAll env plans).sent ≠ [] ∧
      ∀ s ∈ (executeAll env plans).sent,
        s.success ∧ ∀ result ∈ s.taskResults, resultErrors env s result = [] := by
  have hmarks : plans.flatMap planErrors = [] ↔
      ∀ plan ∈ plans, plan.planType = .EXECUTE ∧ plan.capacityShortage = false := by
    rw [List.flatMap_eq_nil_iff]
    exact forall₂_congr fun _ _ => planErrors_eq_nil
  have hanswers : ∀ sent : List Sent, sent.flatMap (nodeErrors env) = [] ↔ ∀ s ∈ sent,
      s.success ∧ ∀ result ∈ s.taskResults, resultErrors env s result = [] := by
    intro sent
    rw [List.flatMap_eq_nil_iff]
    exact forall₂_congr fun _ _ => nodeErrors_eq_nil
  rw [executeAll, ← hmarks]
  split
  next =>
    refine iff_of_false (fun h => ?_) fun h => h.2.2.1 rfl
    dsimp only at h
    split at h
    next => cases h
    next hne => exact hne h
  next hne =>
    dsimp only
    rw [List.append_eq_nil_iff, List.append_eq_nil_iff, hanswers]
    constructor
    · rintro ⟨⟨hplans, hborrow⟩, hnode⟩
      exact ⟨hplans, hborrow, hne, hnode⟩
    · rintro ⟨hplans, hborrow, -, hnode⟩
      exact ⟨⟨hplans, hborrow⟩, hnode⟩

/-- **A round with something to do succeeds when nothing fails that is recorded.** -/
theorem ret_eq_ok_iff {sceneType : MpSceneType} {faultNodeId : string} {env : RoundEnv}
    {store : List TaskPersistState}
    (hplans : (processBorrowOutNodeFaultByPid sceneType faultNodeId env store).nodePlans ≠ []) :
    (processBorrowOutNodeFaultByPid sceneType faultNodeId env store).ret = MEM_POOLING_OK ↔
      GoesWell env (processBorrowOutNodeFaultByPid sceneType faultNodeId env store) := by
  generalize hr : processBorrowOutNodeFaultByPid sceneType faultNodeId env store = r at hplans ⊢
  rw [processBorrowOutNodeFaultByPid] at hr
  split at hr
  next =>
    subst hr
    exact absurd rfl hplans
  next context _ =>
    split at hr
    · subst hr
      exact absurd rfl hplans
    dsimp only at hr
    split at hr
    · subst hr
      exact absurd rfl hplans
    have hcollect : MEM_POOLING_FAULT_RESOURCE_COLLECT_ERROR ≠ MEM_POOLING_OK := by decide
    have hreturn : MEM_POOLING_FAULT_RETURN_MEM_ERROR ≠ MEM_POOLING_OK := by decide
    split at hr
    next hpending =>
      subst hr
      refine iff_of_false hcollect fun h => ?_
      rw [h.pending] at hpending
      exact absurd hpending.1 Bool.false_ne_true
    split at hr
    · subst hr
      exact iff_of_false hcollect fun h => h.sent rfl
    subst hr
    dsimp only
    -- The error of carrying out the plans comes first, then that of the vanished tasks.
    split
    next hret =>
      refine iff_of_false hret fun h => hret ?_
      rw [earliestFaultErrorCode_eq_ok (errRecords_executeAll env _)]
      exact errRecords_executeAll_eq_nil.2 ⟨h.marks, h.borrowed, h.sent, h.answers⟩
    next hret =>
      rw [not_not, earliestFaultErrorCode_eq_ok (errRecords_executeAll env _),
        errRecords_executeAll_eq_nil] at hret
      obtain ⟨hmarks, hborrowed, hsent, hanswers⟩ := hret
      by_cases hnone : (reconcileOrphanTasks env context
          (buildTasks sceneType env.containerOrder context) store).errRecords = []
      · rw [if_pos hnone, if_neg (not_not_intro rfl)]
        split
        next hpending =>
          refine iff_of_false hcollect fun h => ?_
          rw [h.pending] at hpending
          exact absurd hpending Bool.false_ne_true
        next hpending =>
          exact iff_of_true rfl ⟨hnone, Bool.eq_false_iff.2 hpending, hmarks, hborrowed, hsent,
            hanswers⟩
      · rw [if_neg hnone, if_pos hreturn]
        exact iff_of_false hreturn fun h => hnone h.reconciled

/-! ### A node that has done everything -/

theorem taskRetCode_eq_ok {phase : TaskPhase} :
    taskRetCode phase = MEM_POOLING_OK ↔ phase = .COMPLETED := by
  cases phase <;> decide

/-- **A node answers with success only when it has done everything.** -/
theorem pidExecuteRecvHandler_ok {env : NodeExecEnv} {tasks : List MigrationTask}
    {directIds : List string}
    (h : (pidExecuteRecvHandler env tasks directIds).1.retCode = MEM_POOLING_OK) :
    (∀ result ∈ (pidExecuteRecvHandler env tasks directIds).1.taskResults,
        result.completedPhase = .COMPLETED) ∧
      ∀ b ∈ directIds, b ∈ (pidExecuteRecvHandler env tasks directIds).1.freedBorrowIds := by
  rw [pidExecuteRecvHandler] at h ⊢
  dsimp only at h ⊢
  rw [earliestFaultErrorCode_eq_ok, List.append_eq_nil_iff, List.map_eq_nil_iff,
    List.filter_eq_nil_iff, List.filter_eq_nil_iff] at h
  · obtain ⟨hdirect, hresults⟩ := h
    refine ⟨fun result hresult => ?_, fun b hb => List.mem_append_left _ ?_⟩
    · have hcode := hresults _ (List.mem_map_of_mem hresult)
      obtain ⟨task, -, rfl⟩ := List.mem_map.1 hresult
      exact taskRetCode_eq_ok.1 (by simpa using hcode)
    · exact List.mem_filter.2 ⟨hb, by simpa using hdirect b hb⟩
  · refine List.forall_mem_append.2 ⟨List.forall_mem_map.2 fun _ _ => by decide, ?_⟩
    exact fun code hcode => by simpa using (List.mem_filter.1 hcode).2

section Answers

variable {sceneType : MpSceneType} {faultNodeId : string} {env : RoundEnv}
  {store : List TaskPersistState} {ledger : DebtLedger} {r : Round}

theorem GoesWell.answered (hwell : GoesWell env r)
    (h : Staged sceneType faultNodeId env store ledger r) {s : Sent} (hs : s ∈ r.executed.sent) :
    (∀ task ∈ s.plan.tasks, ∃ result ∈ s.taskResults,
        result.taskId = task.taskId ∧ result.completedPhase = .COMPLETED) ∧
      ∀ b ∈ s.plan.directReturnBorrowIds, b ∈ s.freedBorrowIds := by
  obtain ⟨-, -, hsent⟩ := h.sent hs
  have hsuccess := (hwell.answers s hs).1
  generalize s.plan = plan at hsent ⊢
  subst hsent
  rw [dispatchNodePlan] at hsuccess ⊢
  cases hd : env.dispatch plan.borrowInNodeId with
  | lost =>
    rw [hd] at hsuccess
    cases hsuccess
  | unanswered =>
    rw [hd] at hsuccess
    cases hsuccess
  | answered =>
    rw [hd] at hsuccess
    obtain ⟨hresults, hdirect⟩ := pidExecuteRecvHandler_ok (of_decide_eq_true hsuccess)
    refine ⟨fun task htask => ?_, hdirect⟩
    have hresult : _ ∈ (pidExecuteRecvHandler (env.exec plan.borrowInNodeId) plan.tasks
      plan.directReturnBorrowIds).1.taskResults := List.mem_map_of_mem htask
    exact ⟨_, hresult, rfl, hresults _ hresult⟩

end Answers

/-! ### Plans from which nothing is dropped -/

/-- A later plan has the same tasks, unless it is marked. -/
def Whole (plan plan' : FaultExecutePlan) : Prop :=
  plan'.capacityShortage = false → plan.capacityShortage = false ∧ plan'.tasks.Perm plan.tasks

theorem Whole.refl (plan : FaultExecutePlan) : Whole plan plan := fun h => ⟨h, .rfl⟩

theorem Whole.trans (plan plan' plan'' : FaultExecutePlan) (h : Whole plan plan')
    (h' : Whole plan' plan'') : Whole plan plan'' := fun hmark =>
  ⟨(h (h' hmark).1).1, (h' hmark).2.trans (h (h' hmark).1).2⟩

/-- A group that is not cut down keeps its tasks, or leaves a mark. -/
theorem whole_assignRef {o : BySize MigrationTask.migrationSizeKB}
    {s : List LenderNumaCapacity × List FaultExecutePlan} {ref : Nat × Nat}
    (h : ¬CutsDownAt o s ref) : List.Forall₂ Whole s.2 (assignRef o s ref).2 := by
  rw [assignRef]
  split
  next => exact Slots.forall₂_refl Whole.refl _
  next plan hplan =>
    split
    next => exact Slots.forall₂_refl Whole.refl _
    next group hgroup =>
      refine Slots.forall₂_set Whole.refl hplan ?_
      rw [assignGroup]
      split
      next => exact fun hmark => ⟨hmark, .rfl⟩
      next hfull =>
        dsimp only
        split
        next hshrunk =>
          refine fun hmark => ⟨hmark, ?_⟩
          -- As many tasks as the group has are all tasks of the group.
          have hlength : (plan.groupTasks group).length ≤
              (shrunkTasks o s.1 plan group).length := by
            by_contra hfewer
            exact h ⟨plan, hplan, group, hgroup, hfull, by rw [hshrunk]; rfl,
              Nat.lt_of_not_le hfewer⟩
          have hsame := (shrunkTasks_subperm o s.1 plan group).perm_of_length_le hlength
          exact (hsame.append_left _).trans (groupTasks_append_perm plan group)
        next =>
          intro hmark
          cases hmark

/-- **What the decisions do not drop, they keep or mark.** -/
theorem whole_makeDecisions {env : DecisionEnv} {store : List TaskPersistState}
    {nodePlans : List BorrowInNodePlan} (h : ¬DropsTasks env store nodePlans) :
    List.Forall₂ Whole (nodePlans.filterMap (mergePlan store))
      (makeDecisions env store nodePlans) := by
  rw [makeDecisions]
  split
  next hsnapshot =>
    rw [List.forall₂_map_right_iff]
    refine List.forall₂_same.2 fun plan hplan => ?_
    rw [dropNewTasks]
    split
    next =>
      refine fun hmark => ⟨hmark, ?_⟩
      rw [List.filter_eq_self.2 fun task htask => ?_]
      by_contra hnew
      exact h (Or.inl ⟨hsnapshot, plan, hplan, task, htask, by simpa using hnew⟩)
    next => exact Whole.refl plan
  next snapshot hsnapshot =>
    exact Slots.forall₂_foldl_of_splits Whole.refl Whole.trans fun before ref after hsplit =>
      whole_assignRef fun hcut =>
        h (Or.inr ⟨snapshot, hsnapshot, before, ref, after, hsplit, hcut⟩)

/-! ### Plans from which something is dropped -/

/-- Some plan ends up with fewer tasks than were built. -/
def Loses (plans plans' : List FaultExecutePlan) : Prop :=
  ∃ plan ∈ plans, ∃ plan' ∈ plans', Kept plan plan' ∧ plan'.tasks.length < plan.tasks.length

theorem Loses.of_kept {plans plans' plans'' : List FaultExecutePlan} (h : Loses plans plans')
    (hkept : List.Forall₂ Kept plans' plans'') : Loses plans plans'' := by
  obtain ⟨plan, hplan, plan', hplan', hk, hlength⟩ := h
  obtain ⟨plan'', hplan'', hk'⟩ := Slots.exists_right hkept hplan'
  exact ⟨plan, hplan, plan'', hplan'', hk.trans _ _ _ hk', hk'.tasks.length_le.trans_lt hlength⟩

/-- A group that is cut down takes tasks away. -/
theorem loses_assignRef {o : BySize MigrationTask.migrationSizeKB}
    {s : List LenderNumaCapacity × List FaultExecutePlan} {ref : Nat × Nat}
    {plans : List FaultExecutePlan} (hkept : List.Forall₂ Kept plans s.2)
    (h : CutsDownAt o s ref) : Loses plans (assignRef o s ref).2 := by
  obtain ⟨plan, hplan, group, hgroup, hcut⟩ := h
  obtain ⟨first, hfirst, hk⟩ := Slots.exists_left_at hkept hplan
  have hassign : (assignRef o s ref).2 = s.2.set ref.1 (assignGroup o s.1 plan ref.2 group).2 := by
    rw [assignRef, hplan]
    dsimp only
    rw [hgroup]
  refine ⟨first, List.mem_of_getElem? hfirst, (assignGroup o s.1 plan ref.2 group).2, ?_,
    hk.trans _ _ _ (kept_assignGroup _ _ _ _ _), lt_of_lt_of_le ?_ hk.tasks.length_le⟩
  · rw [hassign]
    exact List.mem_set (List.getElem?_eq_some_iff.1 hplan).1 _
  · obtain ⟨⟨snapshot', lender⟩, hshrunk⟩ := Option.isSome_iff_exists.1 hcut.shrunk
    rw [assignGroup, hcut.full, hshrunk]
    dsimp only
    have hall := (groupTasks_append_perm plan group).length_eq
    have hfewer := hcut.fewer
    rw [List.length_append] at hall ⊢
    omega

/-- **What is dropped without a record is lost.** -/
theorem loses_makeDecisions {env : DecisionEnv} {store : List TaskPersistState}
    {nodePlans : List BorrowInNodePlan} (h : DropsTasks env store nodePlans) :
    Loses (nodePlans.filterMap (mergePlan store)) (makeDecisions env store nodePlans) := by
  rcases h with ⟨hsnapshot, plan, hplan, task, htask, hnew⟩ |
    ⟨snapshot, hsnapshot, before, ref, after, hsplit, hcut⟩
  · rw [makeDecisions, hsnapshot]
    refine ⟨plan, hplan, dropNewTasks plan, List.mem_map_of_mem hplan, kept_dropNewTasks plan, ?_⟩
    have htype : plan.planType = .EXECUTE := by
      obtain ⟨nodePlan, -, hmerge⟩ := List.mem_filterMap.1 hplan
      rw [mergePlan] at hmerge
      split at hmerge
      · dsimp only at hmerge
        split at hmerge
        · cases hmerge
        · obtain rfl := Option.some.inj hmerge
          rfl
      · obtain rfl := Option.some.inj hmerge
        cases htask
    rw [dropNewTasks, if_pos htype]
    exact List.length_filter_lt_length_iff_exists.2 ⟨task, htask, by simp [hnew]⟩
  · rw [makeDecisions, hsnapshot]
    dsimp only
    rw [hsplit, List.foldl_append, List.foldl_cons]
    refine Loses.of_kept (loses_assignRef ?_ hcut) ?_
    · exact Slots.forall₂_foldl Kept.refl Kept.trans (kept_assignRef _) (snapshot, _) _
    · exact Slots.forall₂_foldl Kept.refl Kept.trans (kept_assignRef _) _ _

/-! ### Borrowing without an error -/

/-- A later plan whose tasks are about the same. -/
def SameWork (plan plan' : FaultExecutePlan) : Prop :=
  plan'.tasks.map (·.work) = plan.tasks.map (·.work)

theorem SameWork.refl (plan : FaultExecutePlan) : SameWork plan plan := rfl

theorem SameWork.trans (plan plan' plan'' : FaultExecutePlan) (h : SameWork plan plan')
    (h' : SameWork plan' plan'') : SameWork plan plan'' := Eq.trans h' h

theorem errRecords_borrowRef_eq_nil {env : RoundEnv} {s : Borrowed} {ref : Nat × Nat}
    (h : (borrowRef env s ref).errRecords = []) : s.errRecords = [] ∧
      List.Forall₂ SameWork s.plans (borrowRef env s ref).plans := by
  rw [borrowRef] at h ⊢
  split at h
  next => exact ⟨h, Slots.forall₂_refl SameWork.refl _⟩
  next plan hplan =>
    split at h
    next => exact ⟨h, Slots.forall₂_refl SameWork.refl _⟩
    next group _ =>
      split at h
      next => exact absurd h (List.append_ne_nil_of_right_ne_nil _ (List.cons_ne_nil _ _))
      next b _ =>
        exact ⟨(List.append_eq_nil_iff.1 h).1,
          Slots.forall₂_set SameWork.refl hplan (map_work_withBorrow group b plan.tasks)⟩

/-- When no borrowing fails, all tasks stay. -/
theorem map_work_serialBorrowOnMaster {env : RoundEnv} {plans : List FaultExecutePlan}
    (h : (serialBorrowOnMaster env plans).errRecords = []) :
    List.Forall₂ SameWork plans (serialBorrowOnMaster env plans).plans := by
  have hrefs : ∀ (refs : List (Nat × Nat)) (s : Borrowed),
      (refs.foldl (borrowRef env) s).errRecords = [] → s.errRecords = [] ∧
        List.Forall₂ SameWork s.plans (refs.foldl (borrowRef env) s).plans := by
    intro refs
    induction refs with
    | nil => exact fun s h => ⟨h, Slots.forall₂_refl SameWork.refl _⟩
    | cons ref refs ih =>
      intro s h
      obtain ⟨hstep, hrest⟩ := ih _ h
      obtain ⟨hnone, hfirst⟩ := errRecords_borrowRef_eq_nil hstep
      exact ⟨hnone, Slots.forall₂_trans SameWork.trans hfirst hrest⟩
  exact (hrefs _ _ h).2

/-! ### The report of a round -/

section Report

variable {sceneType : MpSceneType} {faultNodeId : string} {env : RoundEnv}
  {store : List TaskPersistState} {ledger : DebtLedger} {r : Round}

/-- In a round that goes well the plans are decided, and carried out. -/
theorem GoesWell.staged (hwell : GoesWell env r)
    (h : Staged sceneType faultNodeId env store ledger r) :
    r.decided = makeDecisions env.decision (r.reconciled.ops.foldl StoreOp.apply store)
      r.nodePlans ∧ r.executed = executeAll env r.decided := by
  rcases h.executed with ⟨-, hnone⟩ | hexecuted
  · refine absurd ?_ hwell.sent
    rw [hnone]
  · exact hexecuted

theorem mergePlan_execute {nodePlan : BorrowInNodePlan} {plan : FaultExecutePlan}
    (h : mergePlan store nodePlan = some plan) (htype : plan.planType = .EXECUTE) :
    plan.tasks = nodePlan.tasks.map (mergeTask store) ∧
      plan.directReturnBorrowIds = (nodePlan.directReturns.flatMap (·.relatedBorrowIds)).dedup ∧
      ¬(plan.tasks = [] ∧ plan.directReturnBorrowIds = []) := by
  rw [mergePlan] at h
  split at h
  · dsimp only at h
    split at h
    · cases h
    next hne =>
      obtain rfl := Option.some.inj h
      exact ⟨rfl, rfl, hne⟩
  · obtain rfl := Option.some.inj h
    cases htype

/-- What is built for a node that has something to do is sent, if nothing is dropped. -/
theorem GoesWell.sent_of_mem (hwell : GoesWell env r)
    (h : Staged sceneType faultNodeId env store ledger r)
    (hdrops : ¬DropsTasks env.decision (r.reconciled.ops.foldl StoreOp.apply store) r.nodePlans)
    {nodePlan : BorrowInNodePlan} (hmem : nodePlan ∈ r.nodePlans) {merged : FaultExecutePlan}
    (hmerge : mergePlan (r.reconciled.ops.foldl StoreOp.apply store) nodePlan = some merged) :
    ∃ s ∈ r.executed.sent, s.plan.borrowInNodeId = nodePlan.borrowInNodeId ∧
      (s.plan.tasks.map (·.taskId)).Perm (nodePlan.tasks.map (·.taskId)) ∧
      s.plan.directReturnBorrowIds =
        (nodePlan.directReturns.flatMap (·.relatedBorrowIds)).dedup := by
  obtain ⟨hdecided, hexecuted⟩ := hwell.staged h
  -- The plan of the node is followed at its place.
  obtain ⟨i, hmerged⟩ := List.getElem?_of_mem (List.mem_filterMap.2 ⟨nodePlan, hmem, hmerge⟩)
  obtain ⟨decided, hd, hkept⟩ := Slots.exists_right_at (kept_makeDecisions env.decision _ _) hmerged
  obtain ⟨_, hd', hwhole⟩ := Slots.exists_right_at (whole_makeDecisions hdrops) hmerged
  obtain rfl := Option.some.inj (hd.symm.trans hd')
  rw [← hdecided] at hd
  obtain ⟨plan, hp, hcarries⟩ := Slots.exists_right_at (carries_serialBorrowOnMaster env _) hd
  obtain ⟨_, hp', hwork⟩ := Slots.exists_right_at (map_work_serialBorrowOnMaster hwell.borrowed) hd
  obtain rfl := Option.some.inj (hp.symm.trans hp')
  obtain ⟨htype, hmark⟩ := hwell.marks decided (List.mem_of_getElem? hd)
  obtain ⟨htasks, hdirect, hne⟩ := mergePlan_execute hmerge (hkept.planType.symm.trans htype)
  have hids : (plan.tasks.map (·.taskId)).Perm (nodePlan.tasks.map (·.taskId)) := by
    have hsame : plan.tasks.map (·.taskId) = decided.tasks.map (·.taskId) := by
      have hmap := congrArg (List.map (·.taskId)) hwork
      rw [List.map_map, List.map_map] at hmap
      exact hmap
    have hmergeId : merged.tasks.map (·.taskId) = nodePlan.tasks.map (·.taskId) := by
      rw [htasks, List.map_map]
      exact List.map_congr_left fun task _ => congrArg (·.taskId) (work_mergeTask _ task)
    rw [hsame, ← hmergeId]
    exact (hwhole hmark).2.map _
  have hdirectIds := hcarries.directReturns.trans (hkept.directReturns.trans hdirect)
  refine ⟨dispatchNodePlan env plan, ?_, ?_, ?_, ?_⟩
  · rw [hexecuted, sent_executeAll]
    refine List.mem_map_of_mem (List.mem_filter.2 ⟨List.mem_of_getElem? hp, ?_⟩)
    refine decide_eq_true ⟨hcarries.planType.trans htype, fun ⟨hnone, hnodirect⟩ => hne ⟨?_, ?_⟩⟩
    · rw [hnone] at hids
      rw [htasks, List.map_eq_nil_iff.1 hids.symm.eq_nil, List.map_nil]
    · rw [hdirect, ← hdirectIds, hnodirect]
  · rw [plan_dispatchNodePlan]
    exact hcarries.node.trans (hkept.node.trans (derived_mergePlan hmerge).node)
  · rw [plan_dispatchNodePlan]
    exact hids
  · rw [plan_dispatchNodePlan]
    exact hdirectIds

/-- **Nothing is left behind if nothing is dropped.** -/
theorem leavesNothing_of_not_drops (hwell : GoesWell env r)
    (h : Staged sceneType faultNodeId env store ledger r)
    (hdrops : ¬DropsTasks env.decision (r.reconciled.ops.foldl StoreOp.apply store) r.nodePlans) :
    LeavesNothing r := by
  have hsent : ∀ nodePlan ∈ r.nodePlans, ∀ merged,
      mergePlan (r.reconciled.ops.foldl StoreOp.apply store) nodePlan = some merged →
        ∃ s ∈ r.executed.sent, s.plan.borrowInNodeId = nodePlan.borrowInNodeId ∧
          (∀ task ∈ nodePlan.tasks, ∃ result ∈ s.taskResults, result.taskId = task.taskId ∧
            result.completedPhase = .COMPLETED) ∧
          ∀ b ∈ (nodePlan.directReturns.flatMap (·.relatedBorrowIds)).dedup,
            b ∈ s.freedBorrowIds := by
    intro nodePlan hmem merged hmerge
    obtain ⟨s, hs, hnode, hids, hdirect⟩ := hwell.sent_of_mem h hdrops hmem hmerge
    obtain ⟨hresults, hfreed⟩ := hwell.answered h hs
    refine ⟨s, hs, hnode, fun task htask => ?_, fun b hb => hfreed b (by rw [hdirect]; exact hb)⟩
    obtain ⟨task', htask', hid⟩ := List.mem_map.1
      (hids.symm.subset (List.mem_map_of_mem htask))
    obtain ⟨result, hresult, hid', hphase⟩ := hresults task' htask'
    exact ⟨result, hresult, hid'.trans hid, hphase⟩
  -- A plan without anything to be done is not merged.
  have hnothing : ∀ nodePlan : BorrowInNodePlan,
      mergePlan (r.reconciled.ops.foldl StoreOp.apply store) nodePlan = none →
        nodePlan.tasks = [] ∧ (nodePlan.directReturns.flatMap (·.relatedBorrowIds)).dedup = [] := by
    intro nodePlan hmerge
    rw [mergePlan] at hmerge
    split at hmerge
    · dsimp only at hmerge
      split at hmerge
      next hnone => exact ⟨List.map_eq_nil_iff.1 hnone.1, hnone.2⟩
      next => cases hmerge
    · cases hmerge
  refine ⟨fun nodePlan hmem task htask => ?_, fun nodePlan hmem directReturn hdirect b hb => ?_⟩
  · cases hmerge : mergePlan (r.reconciled.ops.foldl StoreOp.apply store) nodePlan with
    | none =>
      rw [(hnothing nodePlan hmerge).1] at htask
      cases htask
    | some merged =>
      obtain ⟨s, hs, hnode, hresults, -⟩ := hsent nodePlan hmem merged hmerge
      exact ⟨s, hs, hnode, hresults task htask⟩
  · have hb' : b ∈ (nodePlan.directReturns.flatMap (·.relatedBorrowIds)).dedup :=
      List.mem_dedup.2 (List.mem_flatMap.2 ⟨directReturn, hdirect, hb⟩)
    cases hmerge : mergePlan (r.reconciled.ops.foldl StoreOp.apply store) nodePlan with
    | none =>
      rw [(hnothing nodePlan hmerge).2] at hb'
      cases hb'
    | some merged =>
      obtain ⟨s, hs, hnode, -, hfreed⟩ := hsent nodePlan hmem merged hmerge
      exact ⟨s, hs, hnode, hfreed b hb'⟩

theorem nodes_mergePlan (nodePlans : List BorrowInNodePlan) :
    ((nodePlans.filterMap (mergePlan store)).map (·.borrowInNodeId)).Sublist
      (nodePlans.map (·.borrowInNodeId)) := by
  induction nodePlans with
  | nil => exact .slnil
  | cons nodePlan nodePlans ih =>
    cases hmerge : mergePlan store nodePlan with
    | none =>
      rw [List.filterMap_cons_none hmerge]
      exact ih.cons _
    | some merged =>
      rw [List.filterMap_cons_some hmerge, List.map_cons, List.map_cons,
        (derived_mergePlan hmerge).node]
      exact ih.cons_cons _

theorem nodes_kept {plans plans' : List FaultExecutePlan} (h : List.Forall₂ Kept plans plans') :
    plans'.map (·.borrowInNodeId) = plans.map (·.borrowInNodeId) := by
  induction h with
  | nil => rfl
  | cons hkept _ ih => rw [List.map_cons, List.map_cons, hkept.node, ih]

/-- **What is dropped without a record is left behind.** The tasks of the node are more than those
that are decided on, and only these are answered for. -/
theorem not_leavesNothing_of_drops (hwell : GoesWell env r)
    (h : Staged sceneType faultNodeId env store ledger r)
    (hdrops : DropsTasks env.decision (r.reconciled.ops.foldl StoreOp.apply store) r.nodePlans) :
    ¬LeavesNothing r := by
  intro hleaves
  obtain ⟨hdecided, hexecuted⟩ := hwell.staged h
  obtain ⟨merged, hmerged, decided, hd, hkept, hfewer⟩ := loses_makeDecisions hdrops
  obtain ⟨nodePlan, hmem, hmerge⟩ := List.mem_filterMap.1 hmerged
  rw [← hdecided] at hd
  have hnodes : (r.decided.map (·.borrowInNodeId)).Nodup := by
    rw [hdecided, nodes_kept (kept_makeDecisions _ _ _)]
    exact (nodes_mergePlan _).nodup h.nodup_nodes
  have hnode := hkept.node.trans (derived_mergePlan hmerge).node
  have hsubset : nodePlan.tasks.map (·.taskId) ⊆ decided.tasks.map (·.taskId) := by
    intro taskId htaskId
    obtain ⟨task, htask, rfl⟩ := List.mem_map.1 htaskId
    obtain ⟨s, hs, hsnode, result, hresult, hid, -⟩ := hleaves.tasks nodePlan hmem task htask
    obtain ⟨hplan, -, hsent⟩ := h.sent hs
    rw [hexecuted, plans_executeAll] at hplan
    obtain ⟨decided', hd', hcarries⟩ :=
      Slots.exists_left (carries_serialBorrowOnMaster env r.decided) hplan
    obtain rfl := List.inj_on_of_nodup_map hnodes hd hd'
      (hnode.trans (hsnode.symm.trans hcarries.node))
    rw [hsent] at hresult
    obtain ⟨task', htask', hid', -⟩ := mem_taskResults (taskResults_dispatchNodePlan hresult)
    obtain ⟨task'', htask'', hwork⟩ := List.mem_map.1
      (hcarries.tasks.subset (List.mem_map_of_mem htask'))
    rw [← hid, hid']
    exact List.mem_map.2 ⟨task'', htask'', congrArg (·.taskId) hwork⟩
  have hlength := ((h.nodup_taskId hmem).subperm hsubset).length_le
  rw [List.length_map, List.length_map] at hlength
  have hmergedLength := (derived_mergePlan hmerge).tasks.length_le
  rw [List.length_map, List.length_map] at hmergedLength
  omega

end Report

/-- A node with two borrowings, of which its virtual machine uses one. The capacity of the cluster
cannot be read. -/
def noSnapshot : RoundEnv where
  collect := { ledger := some twoNumas, node := fun _ => oneVm 1 8192 }
  decision := { snapshot := none }

end Fault

end UbsEngine
