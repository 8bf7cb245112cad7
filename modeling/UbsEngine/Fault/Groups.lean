import UbsEngine.Fault.Derived

/-!
# The groups of the new tasks

The new tasks of a plan are put into groups, each into one (`UbsEngine.Fault.Grouped`). When a group
is given its lender, or is cut down, or is given up, the tasks that are left are still in one group
each, and nothing happens to the tasks that have been begun
(`UbsEngine.Fault.regrouped_assignGroup`).
-/

namespace UbsEngine

namespace Fault

open Mem

/-! ### Tasks and groups of a plan -/

namespace FaultExecutePlan

def newTasks (plan : FaultExecutePlan) : List MigrationTask := plan.tasks.filter isNew

/-- The tasks that have been begun. -/
def resumedTasks (plan : FaultExecutePlan) : List MigrationTask :=
  plan.tasks.filter fun task => !isNew task

/-- The ids in the groups. -/
def groupedIds (plan : FaultExecutePlan) : List string := plan.borrowGroups.flatMap (·.taskIds)

end FaultExecutePlan

/-- The tasks have different ids, and the groups have those of the new ones, once each. -/
structure Grouped (plan : FaultExecutePlan) : Prop where
  nodup : (plan.tasks.map (·.taskId)).Nodup
  ids : plan.groupedIds.Perm (plan.newTasks.map (·.taskId))

/-! ### Building the groups -/

@[simp] theorem PlanBorrowGroup.key_add (group : PlanBorrowGroup) (task : MigrationTask) :
    (group.add task).key = group.key := rfl

/-- Where no two groups have one key, a task joins one of them. -/
theorem flatMap_add_perm {groups : List PlanBorrowGroup} {task : MigrationTask}
    (hnodup : (groups.map (·.key)).Nodup) (hmem : task.groupKey ∈ groups.map (·.key)) :
    ((groups.map fun group => if group.key = task.groupKey then group.add task
      else group).flatMap (·.taskIds)).Perm (task.taskId :: groups.flatMap (·.taskIds)) := by
  induction groups with
  | nil => cases hmem
  | cons group groups ih =>
    obtain ⟨hfresh, hnodup⟩ := List.nodup_cons.1 hnodup
    change group.key ∉ groups.map (·.key) at hfresh
    rw [List.map_cons, List.flatMap_cons, List.flatMap_cons]
    by_cases hkey : group.key = task.groupKey
    · have hothers : (groups.map fun group => if group.key = task.groupKey then group.add task
          else group) = groups := by
        refine (List.map_congr_left fun other hother => ?_).trans (List.map_id _)
        refine if_neg fun hsame => hfresh ?_
        rw [hkey, ← hsame]
        exact List.mem_map.2 ⟨other, hother, rfl⟩
      rw [if_pos hkey, hothers]
      exact (List.perm_append_singleton task.taskId group.taskIds).append_right _
    · rw [if_neg hkey]
      have hmem' := (List.mem_cons.1 hmem).resolve_left (Ne.symm hkey)
      exact ((ih hnodup hmem').append_left _).trans List.perm_middle

theorem joinGroup_spec {groups : List PlanBorrowGroup} (hnodup : (groups.map (·.key)).Nodup)
    (task : MigrationTask) :
    ((joinGroup groups task).map (·.key)).Nodup ∧
      ((joinGroup groups task).flatMap (·.taskIds)).Perm
        (task.taskId :: groups.flatMap (·.taskIds)) := by
  rw [joinGroup]
  by_cases hmem : task.groupKey ∈ groups.map (·.key)
  · rw [if_pos hmem]
    refine ⟨?_, flatMap_add_perm hnodup hmem⟩
    have hkeys : (groups.map fun group => if group.key = task.groupKey then group.add task
        else group).map (·.key) = groups.map (·.key) := by
      rw [List.map_map]
      refine List.map_congr_left fun group _ => ?_
      rw [Function.comp_apply]
      split
      · exact group.key_add task
      · rfl
    rw [hkeys]
    exact hnodup
  · rw [if_neg hmem]
    constructor
    · have hkey : ((newGroup task).add task).key = task.groupKey := rfl
      rw [List.map_append, List.map_singleton, hkey]
      exact List.nodup_append.2 ⟨hnodup, List.nodup_singleton _, fun key hkeys key' hkey' heq =>
        hmem (List.mem_singleton.1 hkey' ▸ heq ▸ hkeys)⟩
    · rw [List.flatMap_append, List.flatMap_singleton]
      exact List.perm_append_singleton task.taskId _

/-- **The groups have every new task once.** -/
theorem buildBorrowGroups_perm (tasks : List MigrationTask) :
    ((buildBorrowGroups tasks).flatMap (·.taskIds)).Perm
      ((tasks.filter isNew).map (·.taskId)) := by
  rw [buildBorrowGroups]
  generalize tasks.filter isNew = newTasks
  suffices hall : ((newTasks.foldl joinGroup []).map (·.key)).Nodup ∧
      ((newTasks.foldl joinGroup []).flatMap (·.taskIds)).Perm (newTasks.map (·.taskId)) from
    hall.2
  induction newTasks using List.reverseRecOn with
  | nil => exact ⟨.nil, .nil⟩
  | append_singleton newTasks task ih =>
    rw [List.foldl_append, List.foldl_cons, List.foldl_nil, List.map_append, List.map_singleton]
    obtain ⟨hnodup, hperm⟩ := joinGroup_spec ih.1 task
    exact ⟨hnodup, hperm.trans ((ih.2.cons _).trans (List.perm_append_singleton _ _).symm)⟩

theorem taskId_mergeTask (store : List TaskPersistState) (task : MigrationTask) :
    (mergeTask store task).taskId = task.taskId := by
  have hwork := congrArg MigrationTask.taskId (work_mergeTask store task)
  exact hwork

/-- The plan of a node is grouped before anybody has been asked to lend. -/
theorem grouped_mergePlan {store : List TaskPersistState} {nodePlan : BorrowInNodePlan}
    {plan : FaultExecutePlan} (hnodup : (nodePlan.tasks.map (·.taskId)).Nodup)
    (h : mergePlan store nodePlan = some plan) : Grouped plan := by
  rw [mergePlan] at h
  split at h
  · dsimp only at h
    split at h
    · cases h
    · obtain rfl := Option.some.inj h
      refine ⟨?_, buildBorrowGroups_perm _⟩
      rw [List.map_map]
      exact (List.map_congr_left fun task _ => taskId_mergeTask store task) ▸ hnodup
  · obtain rfl := Option.some.inj h
    exact ⟨.nil, .nil⟩

/-- A group has tasks, and no lender yet. -/
structure Fresh (group : PlanBorrowGroup) : Prop where
  taskIds : group.taskIds ≠ []
  lenders : group.candidateLenderNodes = []

theorem fresh_of_mem_buildBorrowGroups {tasks : List MigrationTask} {group : PlanBorrowGroup}
    (h : group ∈ buildBorrowGroups tasks) : Fresh group := by
  suffices hall : ∀ group ∈ (tasks.filter isNew).foldl joinGroup [], Fresh group from hall group h
  refine List.foldlRecOn (motive := fun groups : List PlanBorrowGroup =>
    ∀ group ∈ groups, Fresh group) _ _ nofun fun groups ih task _ group hgroup => ?_
  have hadd : ∀ group : PlanBorrowGroup, group.candidateLenderNodes = [] →
      Fresh (group.add task) := fun group hlenders =>
    ⟨List.append_ne_nil_of_right_ne_nil _ (List.cons_ne_nil _ _), hlenders⟩
  rw [joinGroup] at hgroup
  split at hgroup
  · obtain ⟨group', hgroup', rfl⟩ := List.mem_map.1 hgroup
    split
    · exact hadd group' (ih group' hgroup').lenders
    · exact ih group' hgroup'
  · rcases List.mem_append.1 hgroup with hgroup | hgroup
    · exact ih group hgroup
    · obtain rfl := List.mem_singleton.1 hgroup
      exact hadd _ rfl

theorem fresh_mergePlan {store : List TaskPersistState} {nodePlan : BorrowInNodePlan}
    {plan : FaultExecutePlan} (h : mergePlan store nodePlan = some plan) {group : PlanBorrowGroup}
    (hgroup : group ∈ plan.borrowGroups) : plan.planType = .EXECUTE ∧ Fresh group := by
  rw [mergePlan] at h
  split at h
  · dsimp only at h
    split at h
    · cases h
    · obtain rfl := Option.some.inj h
      exact ⟨rfl, fresh_of_mem_buildBorrowGroups hgroup⟩
  · obtain rfl := Option.some.inj h
    cases hgroup

/-- **A new task is in one group.** -/
theorem Grouped.existsUnique {plan : FaultExecutePlan} (h : Grouped plan) {task : MigrationTask}
    (htask : task ∈ plan.newTasks) : ∃! g : Nat, ∃ group : PlanBorrowGroup,
      plan.borrowGroups[g]? = some group ∧ task.taskId ∈ group.taskIds := by
  obtain ⟨group, hgroup, hid⟩ := List.mem_flatMap.1
    (h.ids.symm.subset (List.mem_map_of_mem (f := (·.taskId)) htask))
  obtain ⟨g, hg⟩ := List.mem_iff_getElem?.1 hgroup
  refine ⟨g, ⟨group, hg, hid⟩, ?_⟩
  rintro g' ⟨group', hg', hid'⟩
  have hnodup : plan.groupedIds.Nodup :=
    h.ids.nodup_iff.2 ((List.filter_sublist.map _).nodup h.nodup)
  have hapart := (List.nodup_flatMap.1 hnodup).2
  by_contra hne
  obtain ⟨hlt, rfl⟩ := List.getElem?_eq_some_iff.1 hg
  obtain ⟨hlt', rfl⟩ := List.getElem?_eq_some_iff.1 hg'
  rcases Nat.lt_or_gt_of_ne hne with hlow | hlow
  · exact List.pairwise_iff_getElem.1 hapart g' g hlt' hlt hlow hid' hid
  · exact List.pairwise_iff_getElem.1 hapart g g' hlt hlt' hlow hid hid'

/-! ### Giving a group its lender -/

/-- A later plan of the same node, whose groups are still groups of its new tasks. -/
structure Regrouped (plan plan' : FaultExecutePlan) : Prop where
  node : plan'.borrowInNodeId = plan.borrowInNodeId
  resumed : Grouped plan → plan'.resumedTasks = plan.resumedTasks
  grouped : Grouped plan → Grouped plan'

theorem Regrouped.refl (plan : FaultExecutePlan) : Regrouped plan plan := ⟨rfl, fun _ => rfl, id⟩

theorem Regrouped.trans (plan plan' plan'' : FaultExecutePlan) (h : Regrouped plan plan')
    (h' : Regrouped plan' plan'') : Regrouped plan plan'' where
  node := h'.node.trans h.node
  resumed hgrouped := (h'.resumed (h.grouped hgrouped)).trans (h.resumed hgrouped)
  grouped hgrouped := h'.grouped (h.grouped hgrouped)

section Regroup

variable {plan : FaultExecutePlan} {g : Nat} {group : PlanBorrowGroup}

/-- The ids in the groups, when one group is replaced. -/
theorem flatMap_set_perm {groups : List PlanBorrowGroup} {group : PlanBorrowGroup}
    (hgroup : groups[g]? = some group) (group' : PlanBorrowGroup) :
    (groups.flatMap (·.taskIds)).Perm
        (group.taskIds ++ (groups.eraseIdx g).flatMap (·.taskIds)) ∧
      ((groups.set g group').flatMap (·.taskIds)).Perm
        (group'.taskIds ++ (groups.eraseIdx g).flatMap (·.taskIds)) := by
  obtain ⟨hlt, rfl⟩ := List.getElem?_eq_some_iff.1 hgroup
  exact ⟨(List.getElem_cons_eraseIdx_perm hlt).symm.flatMap_right _,
    (List.set_perm_cons_eraseIdx hlt group').flatMap_right _⟩

/-- The tasks of a group are new, and have just its ids. -/
theorem Grouped.groupTasks (h : Grouped plan) (hgroup : plan.borrowGroups[g]? = some group) :
    (∀ task ∈ plan.groupTasks group, isNew task) ∧
      ((plan.groupTasks group).map (·.taskId)).Perm group.taskIds := by
  have hsub : ∀ id ∈ group.taskIds, id ∈ plan.newTasks.map (·.taskId) := fun id hid =>
    h.ids.subset (List.mem_flatMap.2 ⟨group, List.mem_of_getElem? hgroup, hid⟩)
  have hnew : ∀ task ∈ plan.groupTasks group, isNew task := by
    intro task htask
    obtain ⟨hmem, hid⟩ := List.mem_filter.1 htask
    obtain ⟨task', htask', hsame⟩ := List.mem_map.1 (hsub _ (of_decide_eq_true hid))
    obtain ⟨hmem', hnew⟩ := List.mem_filter.1 htask'
    exact List.inj_on_of_nodup_map h.nodup hmem' hmem hsame ▸ hnew
  refine ⟨hnew, (List.perm_ext_iff_of_nodup ?_ ?_).2 fun id => ⟨?_, ?_⟩⟩
  · exact (List.filter_sublist.map _).nodup h.nodup
  · have hids : plan.groupedIds.Nodup :=
      (h.ids.nodup_iff).2 ((List.filter_sublist.map _).nodup h.nodup)
    exact (List.nodup_append.1 ((flatMap_set_perm hgroup group).1.nodup_iff.1 hids)).1
  · intro hid
    obtain ⟨task, htask, rfl⟩ := List.mem_map.1 hid
    exact of_decide_eq_true (List.mem_filter.1 htask).2
  · intro hid
    obtain ⟨task, htask, rfl⟩ := List.mem_map.1 (hsub id hid)
    exact List.mem_map.2 ⟨task, List.mem_filter.2 ⟨(List.mem_filter.1 htask).1,
      decide_eq_true hid⟩, rfl⟩

/-- A group whose tasks are replaced by some of them. -/
theorem regrouped_replace (hgroup : plan.borrowGroups[g]? = some group)
    {selected : List MigrationTask} (hselected : selected.Subperm (plan.groupTasks group))
    {group' : PlanBorrowGroup} (hids : group'.taskIds = selected.map (·.taskId))
    {plan' : FaultExecutePlan} (hnode : plan'.borrowInNodeId = plan.borrowInNodeId)
    (htasks : plan'.tasks = plan.tasks.filter (·.taskId ∉ group.taskIds) ++ selected)
    (hgroups : plan'.borrowGroups = plan.borrowGroups.set g group') : Regrouped plan plan' := by
  refine ⟨hnode, fun h => ?_, fun h => ⟨?_, ?_⟩⟩
  · -- the group has none of the tasks that have been begun
    obtain ⟨hnew, -⟩ := h.groupTasks hgroup
    have hnone : (selected.filter fun task => !isNew task) = [] :=
      List.filter_eq_nil_iff.2 fun task htask => by
        rw [hnew task (hselected.subset htask)]
        decide
    rw [FaultExecutePlan.resumedTasks, FaultExecutePlan.resumedTasks, htasks, List.filter_append,
      hnone, List.append_nil, List.filter_filter]
    refine List.filter_congr fun task htask => ?_
    by_cases hmem : task.taskId ∈ group.taskIds
    · rw [hnew task (List.mem_filter.2 ⟨htask, decide_eq_true hmem⟩)]
      rfl
    · rw [decide_eq_true hmem, Bool.and_true]
  · rw [htasks]
    obtain ⟨ids, hperm, hsub⟩ := subperm_map (·.taskId) (otherTasks_append_subperm hselected)
    exact hperm.nodup_iff.1 (hsub.nodup h.nodup)
  · obtain ⟨hnew, hperm⟩ := h.groupTasks hgroup
    obtain ⟨hold, hset⟩ := flatMap_set_perm hgroup group'
    have hall : selected.filter isNew = selected :=
      List.filter_eq_self.2 fun task htask => hnew task (hselected.subset htask)
    have hgroupNew : (plan.groupTasks group).filter isNew = plan.groupTasks group :=
      List.filter_eq_self.2 hnew
    -- the ids outside the group are those of the other new tasks
    have hsplit := ((groupTasks_append_perm plan group).filter isNew).map (·.taskId)
    rw [List.filter_append, hgroupNew, List.map_append] at hsplit
    have hothers := (List.perm_append_comm.trans hsplit).trans (h.ids.symm.trans hold)
    have hrest := (List.perm_append_left_iff _).1 ((hperm.symm.append_right _).trans hothers)
    rw [FaultExecutePlan.groupedIds, FaultExecutePlan.newTasks, htasks, hgroups,
      List.filter_append, hall, List.map_append]
    rw [hids] at hset
    exact hset.trans (List.perm_append_comm.trans (hrest.symm.append_right _))

/-- **What is done to a group keeps the plan grouped.** -/
theorem regrouped_assignGroup (o : BySize MigrationTask.migrationSizeKB)
    (snapshot : List LenderNumaCapacity) (hgroup : plan.borrowGroups[g]? = some group) :
    Regrouped plan (assignGroup o snapshot plan g group).2 := by
  rw [assignGroup]
  split
  · next lender _ =>
    refine ⟨rfl, fun _ => rfl, fun h => ⟨h.nodup, ?_⟩⟩
    obtain ⟨hold, hset⟩ :=
      flatMap_set_perm hgroup { group with candidateLenderNodes := [lender] }
    exact hset.trans (hold.symm.trans h.ids)
  · dsimp only
    split
    · exact regrouped_replace hgroup (shrunkTasks_subperm o snapshot plan group) rfl rfl rfl rfl
    · have hnone : List.Subperm [] (plan.groupTasks group) := List.nil_subperm
      exact regrouped_replace hgroup hnone rfl rfl (List.append_nil _).symm rfl

theorem regrouped_assignRef (o : BySize MigrationTask.migrationSizeKB)
    (s : List LenderNumaCapacity × List FaultExecutePlan) (ref : Nat × Nat) :
    List.Forall₂ Regrouped s.2 (assignRef o s ref).2 := by
  rw [assignRef]
  split
  next => exact Slots.forall₂_refl Regrouped.refl _
  next plan hplan =>
    split
    next => exact Slots.forall₂_refl Regrouped.refl _
    next group hgroup =>
      exact Slots.forall₂_set Regrouped.refl hplan (regrouped_assignGroup o s.1 hgroup)

end Regroup

end Fault

end UbsEngine
