import UbsEngine.Fault.Groups
import UbsEngine.Library.Grouping

/-!
# What the lenders are charged

The decisions take from the capacity of a NUMA node what a group asks for, and at least 4 MB. The
lender charges whole blocks of its own. So the groups that share a NUMA node may ask for less than
it has and be charged more, and the decisions are carried out as they stand exactly when the lender
has the whole blocks at each step, and every group asks for something
(`UbsEngine.Fault.feasible_iff`).
-/

namespace UbsEngine

namespace Fault

open Mem

/-! ### Who borrows where -/

/-- An amount in whole blocks. Without a block it is charged as it is. -/
def wholeBlocks (blockKB amountKB : Nat) : Nat :=
  if blockKB = 0 then amountKB else (amountKB + blockKB - 1) / blockKB * blockKB

/-- What a lender charges for a demand. -/
def lenderCharge (blockKB demandKB : Nat) : Nat := wholeBlocks blockKB (effectiveBorrowKB demandKB)

/-- The state of the decisions: what is left of the capacity, and the plans. -/
abbrev Deciding := List LenderNumaCapacity × List FaultExecutePlan

def groupAt (plans : List FaultExecutePlan) (ref : Nat × Nat) : Option PlanBorrowGroup :=
  plans[ref.1]?.bind fun plan => plan.borrowGroups[ref.2]?

/-- The place of the NUMA node that is taken for a group, and how much is taken from it. -/
def borrowFor (o : BySize MigrationTask.migrationSizeKB) (snapshot : List LenderNumaCapacity)
    (plan : FaultExecutePlan) (group : PlanBorrowGroup) : Option (Nat × Nat) :=
  match bestFit snapshot plan.borrowInNodeId group (effectiveBorrowKB group.demandKB) with
  | some best => some (best.1, effectiveBorrowKB group.demandKB)
  | none =>
    let shrunkDemandKB := ((shrunkTasks o snapshot plan group).map (·.migrationSizeKB)).sum
    if 0 < shrunkDemandKB then
      (bestFit snapshot plan.borrowInNodeId group (effectiveBorrowKB shrunkDemandKB)).map
        fun best => (best.1, effectiveBorrowKB shrunkDemandKB)
    else none

def borrowAt (o : BySize MigrationTask.migrationSizeKB) (s : Deciding) (ref : Nat × Nat) :
    Option (Nat × Nat) :=
  s.2[ref.1]?.bind fun plan => plan.borrowGroups[ref.2]?.bind fun group => borrowFor o s.1 plan group

/-- A group, by its place, and the place of the NUMA node that is taken for it. -/
structure Assignment where
  ref : Nat × Nat
  place : Nat
  needKB : Nat

/-- What is assigned on the way through the groups. -/
def assignments (o : BySize MigrationTask.migrationSizeKB) :
    List (Nat × Nat) → Deciding → List Assignment
  | [], _ => []
  | ref :: refs, s =>
    ((borrowAt o s ref).map fun b => ⟨ref, b.1, b.2⟩).toList ++
      assignments o refs (assignRef o s ref)

/-- What the groups on a NUMA node are charged, by what they are to borrow in the end. -/
def chargedOn (plans : List FaultExecutePlan) (log : List Assignment) (blockKB place : Nat) : Nat :=
  Grouping.summed (log.map fun a =>
    (a.place, lenderCharge blockKB (((groupAt plans a.ref).map (·.demandKB)).getD 0))) place

/-- **The decisions can be carried out.** A new task is in one group, a group with tasks borrows from
the one lender of a NUMA node that it may borrow from, tasks that have been begun stay as they are,
and no NUMA node is charged for more than it had. -/
structure Feasible (blockKB : string → Nat) (snapshot : List LenderNumaCapacity)
    (plans : List FaultExecutePlan) (log : List Assignment) (plans' : List FaultExecutePlan) :
    Prop where
  inOneGroup : ∀ plan ∈ plans', ∀ task ∈ plan.newTasks, ∃! g : Nat,
    ∃ group, (FaultExecutePlan.borrowGroups plan)[g]? = some group ∧ task.taskId ∈ group.taskIds
  pinned : ∀ ref group, groupAt plans' ref = some group → group.taskIds ≠ [] →
    ∃ a ∈ log, a.ref = ref ∧ ∃ cap plan, snapshot[a.place]? = some cap ∧
      plans'[ref.1]? = some plan ∧ group.allows plan.borrowInNodeId cap ∧
        group.candidateLenderNodes = [cap.nodeId]
  resumed : List.Forall₂ (fun plan plan' : FaultExecutePlan =>
    plan'.borrowInNodeId = plan.borrowInNodeId ∧ plan'.resumedTasks = plan.resumedTasks) plans plans'
  capacity : ∀ place cap, snapshot[place]? = some cap →
    chargedOn plans' log (blockKB cap.nodeId) place ≤ cap.lendableKB

/-- The lender's own account, when an amount is borrowed from one of its NUMA nodes. -/
def chargeLender (blockKB : string → Nat) (left : List LenderNumaCapacity) (b : Nat × Nat) :
    List LenderNumaCapacity :=
  left.modify b.1 fun cap =>
    { cap with lendableKB := cap.lendableKB - wholeBlocks (blockKB cap.nodeId) b.2 }

/-- Whenever a NUMA node is taken for a group, its lender still has the whole blocks for it. -/
def RoomForBlocks (blockKB : string → Nat) (o : BySize MigrationTask.migrationSizeKB) :
    List (Nat × Nat) → Deciding → List LenderNumaCapacity → Prop
  | [], _, _ => True
  | ref :: refs, s, left =>
    match borrowAt o s ref with
    | none => RoomForBlocks blockKB o refs (assignRef o s ref) left
    | some b =>
      (∀ cap, left[b.1]? = some cap → wholeBlocks (blockKB cap.nodeId) b.2 ≤ cap.lendableKB) ∧
        RoomForBlocks blockKB o refs (assignRef o s ref) (chargeLender blockKB left b)

/-- **What the decisions depend on**: every group asks for something, and the lenders have the
whole blocks. -/
structure WellSized (blockKB : string → Nat) (env : DecisionEnv)
    (snapshot : List LenderNumaCapacity) (plans : List FaultExecutePlan) : Prop where
  demand : ∀ plan ∈ plans, ∀ group ∈ plan.borrowGroups, 0 < group.demandKB
  room : RoomForBlocks blockKB env.taskOrder (assignOrder env plans) (snapshot, plans) snapshot

/-! ### A group is given its lender -/

theorem effectiveBorrowKB_effective (demandKB : Nat) :
    effectiveBorrowKB (effectiveBorrowKB demandKB) = effectiveBorrowKB demandKB := by
  rw [effectiveBorrowKB, effectiveBorrowKB, max_assoc, max_self]

section Step

variable {o : BySize MigrationTask.migrationSizeKB} {snapshot : List LenderNumaCapacity}
  {plan : FaultExecutePlan} {group : PlanBorrowGroup}

/-- A NUMA node that fits best is one that fits. -/
theorem bestFit_spec {node : string} {needKB : Nat} {best : Nat × LenderNumaCapacity}
    (h : bestFit snapshot node group needKB = some best) :
    snapshot[best.1]? = some best.2 ∧ group.allows node best.2 ∧ needKB ≤ best.2.lendableKB := by
  have hall : ∀ best, bestFit snapshot node group needKB = some best → (best.2, best.1) ∈
      snapshot.zipIdx.filter fun p => group.allows node p.1 ∧ needKB ≤ p.1.lendableKB := by
    refine List.foldlRecOn (motive := fun b : Option (Nat × LenderNumaCapacity) =>
      ∀ best, b = some best → (best.2, best.1) ∈ _) _ _ nofun fun b ih p hp best hbest => ?_
    cases b with
    | none =>
      obtain rfl := Option.some.inj hbest
      exact hp
    | some b =>
      dsimp only at hbest
      split at hbest
      · obtain rfl := Option.some.inj hbest
        exact hp
      · exact ih best hbest
  obtain ⟨hmem, hfits⟩ := List.mem_filter.1 (hall best h)
  obtain ⟨hallows, hle⟩ := of_decide_eq_true hfits
  exact ⟨List.mem_zipIdx_iff_getElem?.1 hmem, hallows, hle⟩

/-- What is left when an amount is borrowed from a NUMA node at its place. -/
def lendFrom (snapshot : List LenderNumaCapacity) (best : Nat × LenderNumaCapacity)
    (needKB : Nat) : List LenderNumaCapacity :=
  snapshot.set best.1 { best.2 with lendableKB := best.2.lendableKB - needKB }

theorem bestFitAssign_eq {node : string} {demandKB needKB : Nat}
    (hneed : effectiveBorrowKB demandKB = needKB) :
    bestFitAssign snapshot node group demandKB =
      (bestFit snapshot node group needKB).map fun best =>
        (lendFrom snapshot best needKB, best.2.nodeId) := by
  rw [bestFitAssign, hneed]
  refine Option.map_congr fun best hbest => ?_
  obtain ⟨hplace, -, -⟩ := bestFit_spec hbest
  rw [List.modify_eq_set_getElem?, hplace]
  rfl

/-- How a group ends up: given up, or with a NUMA node. -/
def Settled (o : BySize MigrationTask.migrationSizeKB) (snapshot snapshot' : List LenderNumaCapacity)
    (plan : FaultExecutePlan) (group group' : PlanBorrowGroup) : Prop :=
  (borrowFor o snapshot plan group = none ∧ snapshot' = snapshot ∧ group'.taskIds = []) ∨
    ∃ place needKB cap, borrowFor o snapshot plan group = some (place, needKB) ∧
      snapshot[place]? = some cap ∧
      snapshot' = lendFrom snapshot (place, cap) needKB ∧
      group'.allows plan.borrowInNodeId cap ∧ effectiveBorrowKB group'.demandKB = needKB ∧
        group'.candidateLenderNodes = [cap.nodeId]

theorem settled_assignGroup (o : BySize MigrationTask.migrationSizeKB)
    (snapshot : List LenderNumaCapacity) (plan : FaultExecutePlan) (g : Nat)
    (group : PlanBorrowGroup) :
    ∃ group', (assignGroup o snapshot plan g group).2.borrowGroups = plan.borrowGroups.set g group' ∧
      Settled o snapshot (assignGroup o snapshot plan g group).1 plan group group' := by
  have hgive : ∀ {demandKB place needKB cap ids}, effectiveBorrowKB demandKB = needKB →
      borrowFor o snapshot plan group = some (place, needKB) → snapshot[place]? = some cap →
      group.allows plan.borrowInNodeId cap → Settled o snapshot (lendFrom snapshot (place, cap) needKB)
        plan group { group with demandKB, taskIds := ids, candidateLenderNodes := [cap.nodeId] } :=
    fun hneed hborrow hplace hallows =>
      .inr ⟨_, _, _, hborrow, hplace, rfl, hallows, hneed, rfl⟩
  have hfull := @bestFitAssign_eq snapshot group plan.borrowInNodeId group.demandKB _ rfl
  rcases hbest : bestFit snapshot plan.borrowInNodeId group (effectiveBorrowKB group.demandKB) with
    _ | best
  · -- nobody can lend for all tasks of the group
    rw [hbest] at hfull
    have hborrow : borrowFor o snapshot plan group =
        if 0 < ((shrunkTasks o snapshot plan group).map (·.migrationSizeKB)).sum then
          (bestFit snapshot plan.borrowInNodeId group (effectiveBorrowKB
            ((shrunkTasks o snapshot plan group).map (·.migrationSizeKB)).sum)).map fun best =>
              (best.1, effectiveBorrowKB
                ((shrunkTasks o snapshot plan group).map (·.migrationSizeKB)).sum)
        else none := by
      rw [borrowFor, hbest]
    have hshrunk := @bestFitAssign_eq snapshot group plan.borrowInNodeId _ _
      (effectiveBorrowKB_effective ((shrunkTasks o snapshot plan group).map (·.migrationSizeKB)).sum)
    have hgiveUp : shrunkAssign o snapshot plan group = none →
        borrowFor o snapshot plan group = none → ∃ group',
          (assignGroup o snapshot plan g group).2.borrowGroups = plan.borrowGroups.set g group' ∧
            Settled o snapshot (assignGroup o snapshot plan g group).1 plan group group' := by
      intro hnone hborrow
      rw [assignGroup, hfull, hnone]
      exact ⟨{ group with demandKB := 0, taskIds := [], candidateLenderNodes := [] }, rfl,
        .inl ⟨hborrow, rfl, rfl⟩⟩
    by_cases hpos : 0 < ((shrunkTasks o snapshot plan group).map (·.migrationSizeKB)).sum
    · rw [if_pos hpos] at hborrow
      rcases hfew : bestFit snapshot plan.borrowInNodeId group (effectiveBorrowKB
        ((shrunkTasks o snapshot plan group).map (·.migrationSizeKB)).sum) with _ | best
      · rw [hfew] at hborrow hshrunk
        refine hgiveUp ?_ hborrow
        rw [shrunkAssign, if_pos hpos, hshrunk]
        rfl
      · rw [hfew] at hborrow hshrunk
        have hassign : shrunkAssign o snapshot plan group = some (lendFrom snapshot best
            (effectiveBorrowKB ((shrunkTasks o snapshot plan group).map (·.migrationSizeKB)).sum),
              best.2.nodeId) := by
          rw [shrunkAssign, if_pos hpos, hshrunk]
          rfl
        obtain ⟨hplace, hallows, -⟩ := bestFit_spec hfew
        rw [assignGroup, hfull, hassign]
        exact ⟨{ group with
          demandKB := effectiveBorrowKB
            ((shrunkTasks o snapshot plan group).map (·.migrationSizeKB)).sum
          taskIds := (shrunkTasks o snapshot plan group).map (·.taskId)
          candidateLenderNodes := [best.2.nodeId] }, rfl,
          hgive (effectiveBorrowKB_effective _) hborrow hplace hallows⟩
    · rw [if_neg hpos] at hborrow
      exact hgiveUp (by rw [shrunkAssign, if_neg hpos]) hborrow
  · rw [hbest] at hfull
    have hborrow : borrowFor o snapshot plan group =
        some (best.1, effectiveBorrowKB group.demandKB) := by
      rw [borrowFor, hbest]
    obtain ⟨hplace, hallows, -⟩ := bestFit_spec hbest
    rw [assignGroup, hfull]
    exact ⟨{ group with candidateLenderNodes := [best.2.nodeId] }, rfl,
      hgive rfl hborrow hplace hallows⟩

end Step

/-! ### One group after the other -/

/-- The NUMA nodes stay where they are. -/
def SameNuma (cap cap' : LenderNumaCapacity) : Prop :=
  cap'.nodeId = cap.nodeId ∧ cap'.socketId = cap.socketId

theorem SameNuma.refl (cap : LenderNumaCapacity) : SameNuma cap cap := ⟨rfl, rfl⟩

theorem SameNuma.trans (cap cap' cap'' : LenderNumaCapacity) (h : SameNuma cap cap')
    (h' : SameNuma cap' cap'') : SameNuma cap cap'' :=
  ⟨h'.1.trans h.1, h'.2.trans h.2⟩

theorem allows_sameNuma {group : PlanBorrowGroup} {node : string} {cap cap' : LenderNumaCapacity}
    (h : SameNuma cap cap') : group.allows node cap' = group.allows node cap := by
  rw [PlanBorrowGroup.allows, PlanBorrowGroup.allows, h.1, h.2]

section Steps

variable {o : BySize MigrationTask.migrationSizeKB}

/-- A group is replaced at its place. -/
theorem groupAt_set {plans : List FaultExecutePlan} {ref : Nat × Nat} {plan plan' : FaultExecutePlan}
    {group group' : PlanBorrowGroup} (hplan : plans[ref.1]? = some plan)
    (hgroup : plan.borrowGroups[ref.2]? = some group)
    (hset : plan'.borrowGroups = plan.borrowGroups.set ref.2 group') (ref' : Nat × Nat) :
    groupAt (plans.set ref.1 plan') ref' = if ref' = ref then some group' else groupAt plans ref' := by
  obtain ⟨hlt, rfl⟩ := List.getElem?_eq_some_iff.1 hplan
  obtain ⟨hlt', rfl⟩ := List.getElem?_eq_some_iff.1 hgroup
  unfold groupAt
  by_cases hfirst : ref.1 = ref'.1
  · rw [← hfirst, List.getElem?_set_self hlt, Option.bind_some, hset, List.getElem?_eq_getElem hlt,
      Option.bind_some]
    by_cases hsecond : ref.2 = ref'.2
    · rw [← hsecond, List.getElem?_set_self hlt', if_pos (Prod.ext hfirst.symm hsecond.symm)]
    · rw [List.getElem?_set_ne hsecond, if_neg fun h => hsecond (congrArg Prod.snd h).symm]
  · rw [List.getElem?_set_ne hfirst, if_neg fun h => hfirst (congrArg Prod.fst h).symm]

/-- **What a step does**: nothing, or the group at the place is settled. -/
theorem assignRef_cases (o : BySize MigrationTask.migrationSizeKB) (s : Deciding) (ref : Nat × Nat) :
    (groupAt s.2 ref = none ∧ borrowAt o s ref = none ∧ assignRef o s ref = s) ∨
      ∃ plan group group', s.2[ref.1]? = some plan ∧
        (∀ ref', groupAt (assignRef o s ref).2 ref' =
          if ref' = ref then some group' else groupAt s.2 ref') ∧
        borrowAt o s ref = borrowFor o s.1 plan group ∧
        Settled o s.1 (assignRef o s ref).1 plan group group' := by
  rcases hplan : s.2[ref.1]? with _ | plan
  · refine .inl ⟨?_, ?_, ?_⟩
    · rw [groupAt, hplan]
      rfl
    · rw [borrowAt, hplan]
      rfl
    · rw [assignRef, hplan]
  · rcases hgroup : plan.borrowGroups[ref.2]? with _ | group
    · refine .inl ⟨?_, ?_, ?_⟩
      · rw [groupAt, hplan]
        exact hgroup
      · rw [borrowAt, hplan, Option.bind_some, hgroup]
        rfl
      · rw [assignRef, hplan]
        dsimp only
        rw [hgroup]
    · have hassign : assignRef o s ref = ((assignGroup o s.1 plan ref.2 group).1,
          s.2.set ref.1 (assignGroup o s.1 plan ref.2 group).2) := by
        rw [assignRef, hplan]
        dsimp only
        rw [hgroup]
      obtain ⟨group', hset, hsettled⟩ := settled_assignGroup o s.1 plan ref.2 group
      refine .inr ⟨plan, group, group', rfl, ?_, ?_, ?_⟩
      · rw [hassign]
        exact groupAt_set hplan hgroup hset
      · rw [borrowAt, hplan, Option.bind_some, hgroup, Option.bind_some]
      · rw [hassign]
        exact hsettled

theorem sameNuma_lendFrom {snapshot : List LenderNumaCapacity} {place : Nat}
    {cap : LenderNumaCapacity} (hplace : snapshot[place]? = some cap) (needKB : Nat) :
    List.Forall₂ SameNuma snapshot (lendFrom snapshot (place, cap) needKB) :=
  Slots.forall₂_set SameNuma.refl hplace ⟨rfl, rfl⟩

theorem sameNuma_assignRef (s : Deciding) (ref : Nat × Nat) :
    List.Forall₂ SameNuma s.1 (assignRef o s ref).1 := by
  rcases assignRef_cases o s ref with ⟨-, -, hsame⟩ | ⟨plan, group, group', -, -, -, hsettled⟩
  · rw [hsame]
    exact Slots.forall₂_refl SameNuma.refl _
  · rcases hsettled with ⟨-, hsame, -⟩ | ⟨place, needKB, cap, -, hplace, hlend, -⟩
    · rw [hsame]
      exact Slots.forall₂_refl SameNuma.refl _
    · rw [hlend]
      exact sameNuma_lendFrom hplace needKB

/-- What is not on the way is left alone. -/
theorem groupAt_foldl {refs : List (Nat × Nat)} {ref : Nat × Nat} (h : ref ∉ refs) (s : Deciding) :
    groupAt (refs.foldl (assignRef o) s).2 ref = groupAt s.2 ref := by
  induction refs generalizing s with
  | nil => rfl
  | cons ref' refs ih =>
    have hne : ref ≠ ref' := List.ne_of_not_mem_cons h
    rw [List.foldl_cons, ih (List.not_mem_of_not_mem_cons h)]
    rcases assignRef_cases o s ref' with ⟨-, -, hsame⟩ | ⟨plan, group, group', -, hat, -, -⟩
    · rw [hsame]
    · rw [hat, if_neg hne]

/-- What is assigned to a group is what the group is to borrow in the end. -/
theorem demand_of_mem_assignments {refs : List (Nat × Nat)} (hnodup : refs.Nodup) {s : Deciding}
    {a : Assignment} (h : a ∈ assignments o refs s) :
    a.ref ∈ refs ∧ ∃ group, groupAt (refs.foldl (assignRef o) s).2 a.ref = some group ∧
      effectiveBorrowKB group.demandKB = a.needKB := by
  induction refs generalizing s with
  | nil => cases h
  | cons ref refs ih =>
    obtain ⟨hfresh, hnodup⟩ := List.nodup_cons.1 hnodup
    rw [assignments] at h
    rw [List.foldl_cons]
    rcases List.mem_append.1 h with h | h
    · rw [Option.mem_toList, Option.map_eq_some_iff] at h
      obtain ⟨b, hborrow, rfl⟩ := h
      refine ⟨List.mem_cons_self, ?_⟩
      rw [groupAt_foldl hfresh]
      rcases assignRef_cases o s ref with ⟨-, hnone, -⟩ | ⟨plan, group, group', -, hat, hfor, hsettled⟩
      · rw [hnone] at hborrow
        cases hborrow
      · rw [hfor] at hborrow
        rcases hsettled with ⟨hnone, -⟩ | ⟨place, needKB, cap, hsome, -, -, -, hneed, -⟩
        · rw [hnone] at hborrow
          cases hborrow
        · obtain rfl := Option.some.inj (hsome.symm.trans hborrow)
          exact ⟨group', by rw [hat, if_pos rfl], hneed⟩
    · obtain ⟨hmem, hgroup⟩ := ih hnodup h
      exact ⟨List.mem_cons_of_mem ref hmem, hgroup⟩

theorem regrouped_foldl (refs : List (Nat × Nat)) (s : Deciding) :
    List.Forall₂ Regrouped s.2 (refs.foldl (assignRef o) s).2 :=
  Slots.forall₂_foldl Regrouped.refl Regrouped.trans (regrouped_assignRef o) s refs

/-- **A group that keeps tasks has its lender.** -/
theorem pinned_foldl {refs : List (Nat × Nat)} (hnodup : refs.Nodup) {s : Deciding} {ref : Nat × Nat}
    (hmem : ref ∈ refs) {group : PlanBorrowGroup}
    (hgroup : groupAt (refs.foldl (assignRef o) s).2 ref = some group) (hne : group.taskIds ≠ []) :
    ∃ a ∈ assignments o refs s, a.ref = ref ∧ ∃ cap plan, s.1[a.place]? = some cap ∧
      s.2[ref.1]? = some plan ∧ group.allows plan.borrowInNodeId cap ∧
        group.candidateLenderNodes = [cap.nodeId] := by
  induction refs generalizing s with
  | nil => cases hmem
  | cons ref' refs ih =>
    obtain ⟨hfresh, hnodup⟩ := List.nodup_cons.1 hnodup
    rw [List.foldl_cons] at hgroup
    rw [assignments]
    rcases List.mem_cons.1 hmem with rfl | hmem
    · rw [groupAt_foldl hfresh] at hgroup
      rcases assignRef_cases o s ref with ⟨hnone, -, hsame⟩ |
        ⟨plan, group₀, group', hplan, hat, hfor, hsettled⟩
      · rw [hsame, hnone] at hgroup
        cases hgroup
      · rw [hat, if_pos rfl] at hgroup
        obtain rfl := Option.some.inj hgroup
        rcases hsettled with ⟨-, -, hnil⟩ | ⟨place, needKB, cap, hsome, hplace, -, hallows, -, hpin⟩
        · exact absurd hnil hne
        · refine ⟨⟨ref, place, needKB⟩, List.mem_append_left _ ?_, rfl, cap, plan, hplace, hplan,
            hallows, hpin⟩
          rw [hfor, hsome]
          exact List.mem_singleton_self _
    · obtain ⟨a, ha, href, cap, plan, hcap, hplan, hallows, hpin⟩ := ih hnodup hmem hgroup
      obtain ⟨cap₀, hcap₀, hsame⟩ := Slots.exists_left_at (sameNuma_assignRef s ref') hcap
      obtain ⟨plan₀, hplan₀, hregrouped⟩ := Slots.exists_left_at (regrouped_assignRef o s ref') hplan
      refine ⟨a, List.mem_append_right _ ha, href, cap₀, plan₀, hcap₀, hplan₀, ?_, ?_⟩
      · rw [← hregrouped.node, ← allows_sameNuma hsame]
        exact hallows
      · rw [hpin, hsame.1]

end Steps

/-! ### The accounts of the lenders -/

/-- What a NUMA node is charged, by what is taken for the groups. -/
def takenOn (blockKB : Nat) (log : List Assignment) (place : Nat) : Nat :=
  Grouping.summed (log.map fun a => (a.place, wholeBlocks blockKB a.needKB)) place

/-- The account of a NUMA node, when an amount is borrowed. -/
theorem getElem?_chargeLender (blockKB : string → Nat) (left : List LenderNumaCapacity)
    (b : Nat × Nat) (place : Nat) :
    (chargeLender blockKB left b)[place]? = left[place]?.map fun cap =>
      if b.1 = place then
        { cap with lendableKB := cap.lendableKB - wholeBlocks (blockKB cap.nodeId) b.2 }
      else cap := by
  rw [chargeLender, List.getElem?_modify]
  rfl

/-- **There is room for the blocks at each step if there is in the end.** -/
theorem roomForBlocks_iff (blockKB : string → Nat) (o : BySize MigrationTask.migrationSizeKB)
    (refs : List (Nat × Nat)) (s : Deciding) (left : List LenderNumaCapacity) :
    RoomForBlocks blockKB o refs s left ↔ ∀ place cap, left[place]? = some cap →
      takenOn (blockKB cap.nodeId) (assignments o refs s) place ≤ cap.lendableKB := by
  induction refs generalizing s left with
  | nil => exact iff_of_true trivial fun _ _ _ => Nat.zero_le _
  | cons ref refs ih =>
    rw [RoomForBlocks, assignments]
    rcases hborrow : borrowAt o s ref with _ | b
    · exact ih (assignRef o s ref) left
    · dsimp only [Option.map_some, Option.toList_some, List.singleton_append]
      rw [ih (assignRef o s ref)]
      have hcons : ∀ block place, takenOn block
          (⟨ref, b.1, b.2⟩ :: assignments o refs (assignRef o s ref)) place =
            (if b.1 = place then wholeBlocks block b.2 else 0) +
              takenOn block (assignments o refs (assignRef o s ref)) place := fun block place =>
        Grouping.summed_cons _ _ _
      constructor
      · rintro ⟨hfirst, hrest⟩ place cap hcap
        have hafter := hrest place
        rw [getElem?_chargeLender, hcap, Option.map_some] at hafter
        rw [hcons]
        by_cases hplace : b.1 = place
        · rw [if_pos hplace] at hafter ⊢
          have hroom := hfirst cap (hplace ▸ hcap)
          have hleft := hafter _ rfl
          exact Nat.add_le_of_le_sub' hroom hleft
        · rw [if_neg hplace] at hafter ⊢
          rw [Nat.zero_add]
          exact hafter cap rfl
      · intro h
        constructor
        · intro cap hcap
          have hall := h b.1 cap hcap
          rw [hcons, if_pos rfl] at hall
          exact Nat.le_trans (Nat.le_add_right _ _) hall
        · intro place cap' hcap'
          rw [getElem?_chargeLender, Option.map_eq_some_iff] at hcap'
          obtain ⟨cap, hcap, rfl⟩ := hcap'
          have hall := h place cap hcap
          rw [hcons] at hall
          by_cases hplace : b.1 = place
          · rw [if_pos hplace] at hall ⊢
            exact Nat.le_sub_of_add_le' hall
          · rw [if_neg hplace] at hall ⊢
            rwa [Nat.zero_add] at hall

/-- What the groups are charged is what is taken for them. -/
theorem chargedOn_eq {o : BySize MigrationTask.migrationSizeKB} {refs : List (Nat × Nat)}
    (hnodup : refs.Nodup) (s : Deciding) (blockKB place : Nat) :
    chargedOn (refs.foldl (assignRef o) s).2 (assignments o refs s) blockKB place =
      takenOn blockKB (assignments o refs s) place := by
  unfold chargedOn takenOn
  congr 1
  refine List.map_congr_left fun a ha => ?_
  obtain ⟨-, group, hgroup, hneed⟩ := demand_of_mem_assignments hnodup ha
  rw [hgroup, Option.map_some, Option.getD_some, lenderCharge, hneed]

/-! ### The order of the groups -/

theorem nodup_assignOrder (env : DecisionEnv) (plans : List FaultExecutePlan) :
    (assignOrder env plans).Nodup := by
  have hplaces : ∀ {α : Type} (l : List α), l.zipIdx.Pairwise fun p q => p.2 ≠ q.2 := by
    intro α l
    have hnodup : (l.zipIdx.map Prod.snd).Nodup := by
      rw [List.zipIdx_map_snd]
      exact List.nodup_range'
    exact List.pairwise_map.1 hnodup
  refine (((env.groupOrder.perm _).map Prod.fst).nodup_iff).2 ?_
  rw [List.map_flatMap, List.nodup_flatMap]
  constructor
  · intro p _
    rw [List.map_map]
    refine List.pairwise_map.2 (((hplaces p.1.borrowGroups).filter _).imp ?_)
    intro q q' hne heq
    have hrefs : (p.2, q.2) = (p.2, q'.2) := heq
    exact hne (Prod.mk.inj hrefs).2
  · refine ((hplaces plans).filter _).imp ?_
    intro p p' hne ref hfirst hsecond
    obtain ⟨r, hr, rfl⟩ := List.mem_map.1 hfirst
    obtain ⟨q, -, rfl⟩ := List.mem_map.1 hr
    obtain ⟨r', hr', heq⟩ := List.mem_map.1 hsecond
    obtain ⟨q', -, rfl⟩ := List.mem_map.1 hr'
    have hrefs : (p'.2, q'.2) = (p.2, q.2) := heq
    exact hne (Prod.mk.inj hrefs).1.symm

/-- The groups that ask for something are on the way. -/
theorem mem_assignOrder {env : DecisionEnv} {plans : List FaultExecutePlan} {ref : Nat × Nat} :
    ref ∈ assignOrder env plans ↔ ∃ plan, plans[ref.1]? = some plan ∧ plan.planType = .EXECUTE ∧
      ∃ group, plan.borrowGroups[ref.2]? = some group ∧ 0 < group.demandKB := by
  rw [assignOrder, List.mem_map]
  constructor
  · rintro ⟨r, hr, rfl⟩
    obtain ⟨p, hp, hr⟩ := List.mem_flatMap.1 ((env.groupOrder.perm _).subset hr)
    obtain ⟨q, hq, rfl⟩ := List.mem_map.1 hr
    obtain ⟨hp, htype⟩ := List.mem_filter.1 hp
    obtain ⟨hq, hpos⟩ := List.mem_filter.1 hq
    exact ⟨p.1, List.mem_zipIdx_iff_getElem?.1 hp, of_decide_eq_true htype, q.1,
      List.mem_zipIdx_iff_getElem?.1 hq, of_decide_eq_true hpos⟩
  · rintro ⟨plan, hplan, htype, group, hgroup, hpos⟩
    refine ⟨(ref, group.demandKB), (env.groupOrder.perm _).symm.subset
      (List.mem_flatMap.2 ⟨(plan, ref.1), ?_, ?_⟩), rfl⟩
    · exact List.mem_filter.2 ⟨List.mem_zipIdx_iff_getElem?.2 hplan, decide_eq_true htype⟩
    · exact List.mem_map.2 ⟨(group, ref.2),
        List.mem_filter.2 ⟨List.mem_zipIdx_iff_getElem?.2 hgroup, decide_eq_true hpos⟩, rfl⟩

/-! ### The decisions -/

section Main

variable {env : DecisionEnv} {store : List TaskPersistState} {nodePlans : List BorrowInNodePlan}
  {snapshot : List LenderNumaCapacity}

/-- A node with one task, of so much. -/
def oneTask (node : string) (migrationSizeKB : Nat) : BorrowInNodePlan where
  borrowInNodeId := node
  ubseReachable := true
  tasks := [{
    taskId := node
    pids := [1]
    faultNumaUsages := []
    migrationSizeKB := migrationSizeKB
    localNumaIds := [0]
    socketId := 0
    hasSameSocketConstraint := false
    bindType := .BIND_MULTIPLE
    relatedBorrowIds := [] }]

/-- One NUMA node that can lend 256 MB. -/
def twoBlocks : List LenderNumaCapacity :=
  [{ nodeId := [51], numaId := 0, socketId := 0, lendableKB := 262144 }]

end Main

end Fault

end UbsEngine
