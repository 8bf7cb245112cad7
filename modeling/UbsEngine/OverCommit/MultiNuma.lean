import UbsEngine.OverCommit.VmStrategy
import UbsEngine.Library.Ration
import Mathlib.Data.List.Pairwise

/-!
# With several numas for a machine, memory is given out in turn

All remote numas together are one supply, and the machines are served from it one after the other:
those that have remote memory already come first, and among themselves those with the larger quotas
(`UbsEngine.OverCommit.InTurn`). Each gets its quota or all that is left, and what it gets is
taken from the numas, no more and no less (`UbsEngine.OverCommit.Rations`).

The results say for each machine and each numa what the machine is to have there: what it had and
what it got (`UbsEngine.OverCommit.Answers`). There is one result at most for both, and none
for nothing. That all this holds of whatever is returned is
`UbsEngine.OverCommit.processMemMigrateRemoteId_multiNuma`.
-/

namespace UbsEngine

namespace OverCommit

open FaultNode (Pid RemoteNUMA VMResult allocateEach sentTo sentOf sentTo_append sentOf_append
  sentOf_allocateEach)

/-! ### What is said of the results -/

/-- What there is of a remote numa. -/
def stock (numas : List RemoteNUMA) (remoteNumaId : Nat) : Nat :=
  Grouping.summed (numas.map fun numa => (numa.remoteNumaId, numa.borrowSize)) remoteNumaId

/-- What there is of all remote numas. -/
def held (numas : List RemoteNUMA) : Nat := (numas.map (·.borrowSize)).sum

/-- What is sent of a machine to a remote numa. -/
def sentOn (vmResults : List VMResult) (pid : Pid) (remoteNumaId : Nat) : Nat :=
  Grouping.summed (vmResults.map fun r => ((r.pid, r.remoteNumaId), r.size)) (pid, remoteNumaId)

def migrated (vmInfos : Map Pid VMInfo) (pid : Pid) : Prop :=
  ∃ vm, vmInfos.lookup pid = some vm ∧ vm.totalRemoteUsedMem ≠ 0

/-- **The order in which the machines are served.** -/
structure InTurn (calculateRemainingQuota : VMInfo → Nat) (vmInfos : Map Pid VMInfo)
    (turns : List (Pid × Nat)) : Prop where
  mem : ∀ vm, vm ∈ turns ↔ ∃ info, vmInfos.lookup vm.1 = some info ∧
    vm.2 = calculateRemainingQuota info
  nodup : (turns.map (·.1)).Nodup
  sorted : turns.Pairwise fun a b => (migrated vmInfos b.1 → migrated vmInfos a.1) ∧
    ((migrated vmInfos a.1 ↔ migrated vmInfos b.1) → b.2 ≤ a.2)

/-- **What the machines get is given out in turn.** -/
structure Rations (turns : List (Pid × Nat)) (free left : List RemoteNUMA)
    (given : List VMResult) : Prop where
  turn : ∀ before vm after, turns = before ++ vm :: after →
    sentOf given vm.1 = min vm.2 (held free - (before.map (·.2)).sum)
  others : ∀ pid, pid ∉ turns.map (·.1) → sentOf given pid = 0
  balance : ∀ remoteNumaId, sentTo given remoteNumaId + stock left remoteNumaId =
    stock free remoteNumaId
  /-- What is not used is not asked for. -/
  complete : held left ≠ 0 → ∀ vm ∈ turns, sentOf given vm.1 = vm.2

/-- What a machine has on a remote numa already. -/
def VMInfo.usedOn (vmInfo : VMInfo) (remoteNumaId : Nat) : Nat :=
  Grouping.summed ((vmInfo.metaNumaInfos.filter fun numa => !numa.isLocalNuma).map fun numa =>
    (numa.numaId, numa.numaUsedMem)) remoteNumaId

/-- **What is returned**: for a machine and a numa, all that the machine is to have there. -/
structure Answers (vmInfos : Map Pid VMInfo) (given : List VMResult)
    (results : List MemMigrateResult) : Prop where
  nodup : (results.map fun r => (r.pid, r.remoteNumaId)).Nodup
  mem : ∀ r, r ∈ results ↔ ∃ vm, vmInfos.lookup r.pid = some vm ∧ vm.totalUsedMem ≠ 0 ∧
    r.size = (vm.usedOn r.remoteNumaId + sentOn given r.pid r.remoteNumaId) % 2 ^ 64 ∧
    r.size ≠ 0 ∧ r.maxRatio = r.size * 100 % 2 ^ 64 / vm.totalUsedMem % 2 ^ 16

/-! ### One machine -/

theorem stock_cons (numa : RemoteNUMA) (numas : List RemoteNUMA) (k : Nat) :
    stock (numa :: numas) k =
      (if numa.remoteNumaId = k then numa.borrowSize else 0) + stock numas k :=
  Grouping.summed_cons _ _ _

theorem sentTo_cons (r : VMResult) (l : List VMResult) (k : Nat) :
    sentTo (r :: l) k = (if r.remoteNumaId = k then r.size else 0) + sentTo l k :=
  Grouping.summed_cons _ _ _

theorem held_cons (numa : RemoteNUMA) (numas : List RemoteNUMA) :
    held (numa :: numas) = numa.borrowSize + held numas := List.sum_cons

theorem stock_perm {l l' : List RemoteNUMA} (h : l.Perm l') (k : Nat) : stock l k = stock l' k :=
  Grouping.summed_perm (h.map _) k

theorem held_perm {l l' : List RemoteNUMA} (h : l.Perm l') : held l = held l' := (h.map _).sum_nat

/-- What a machine takes is missing afterwards. -/
theorem balance_allocateEach (pid : Pid) (maxRatio : Nat) (numas : List RemoteNUMA)
    (quota k : Nat) :
    sentTo (allocateEach pid maxRatio numas quota).2.2 k +
      stock (allocateEach pid maxRatio numas quota).1 k = stock numas k := by
  induction numas generalizing quota with
  | nil => rfl
  | cons numa numas ih =>
    rw [allocateEach]
    split_ifs with hfits hpos
    · rw [sentTo_cons, stock_cons, stock_cons]
      change (if numa.remoteNumaId = k then quota else 0) + 0 +
        ((if numa.remoteNumaId = k then numa.borrowSize - quota else 0) + stock numas k) = _
      split
      · omega
      · omega
    · have hrest := ih (quota - numa.borrowSize)
      rw [sentTo_cons, stock_cons, stock_cons]
      dsimp only
      rw [ite_self]
      omega
    · have hrest := ih quota
      dsimp only
      rw [stock_cons, stock_cons]
      omega

/-- A machine takes its quota, or all there is. -/
theorem held_allocateEach (pid : Pid) (maxRatio : Nat) (numas : List RemoteNUMA) (quota : Nat) :
    held (allocateEach pid maxRatio numas quota).1 = held numas - quota := by
  induction numas generalizing quota with
  | nil => exact (Nat.zero_sub _).symm
  | cons numa numas ih =>
    rw [allocateEach, held_cons]
    split_ifs with hfits hpos
    · rw [held_cons]
      change numa.borrowSize - quota + held numas = _
      omega
    · rw [held_cons, ih]
      change 0 + _ = _
      omega
    · rw [held_cons, ih]
      omega

section Strategy

variable {o : Orders} {calculateRemainingQuota : VMInfo → Nat} {vmInfos : Map Pid VMInfo}

variable (o vmInfos) in
theorem balance_allocateMemoryToRemoteVm (numas : List RemoteNUMA) (vm : Pid × Nat) (k : Nat) :
    sentTo (allocateMemoryToRemoteVm o vmInfos numas vm).2 k +
      stock (allocateMemoryToRemoteVm o vmInfos numas vm).1 k = stock numas k :=
  (balance_allocateEach ..).trans (stock_perm (o.remoteNUMAs.perm numas) k)

theorem held_allocateMemoryToRemoteVm (numas : List RemoteNUMA) (vm : Pid × Nat) :
    held (allocateMemoryToRemoteVm o vmInfos numas vm).1 = held numas - vm.2 :=
  (held_allocateEach ..).trans (congrArg (· - vm.2) (held_perm (o.remoteNUMAs.perm numas)))

theorem sentOf_allocateMemoryToRemoteVm (numas : List RemoteNUMA) (vm : Pid × Nat) (pid : Pid) :
    sentOf (allocateMemoryToRemoteVm o vmInfos numas vm).2 pid =
      if vm.1 = pid then min vm.2 (held numas) else 0 := by
  rw [← held_perm (o.remoteNUMAs.perm numas)]
  exact sentOf_allocateEach ..

/-! ### One machine after the other -/

/-- What machines take one after the other is missing afterwards, if it is for each of them. -/
theorem balance_eachVm
    {allocate : List RemoteNUMA → Pid × Nat → List RemoteNUMA × List VMResult} {k : Nat}
    (h : ∀ numas vm, sentTo (allocate numas vm).2 k + stock (allocate numas vm).1 k =
      stock numas k) (vms : List (Pid × Nat)) (st : List RemoteNUMA × List VMResult) :
    sentTo (eachVm allocate vms st).2 k + stock (eachVm allocate vms st).1 k =
      sentTo st.2 k + stock st.1 k := by
  induction vms generalizing st with
  | nil => rfl
  | cons vm vms ih =>
    have hstep := h st.1 vm
    refine (ih _).trans ?_
    dsimp only
    rw [sentTo_append]
    omega

theorem held_eachVm (vms : List (Pid × Nat)) (st : List RemoteNUMA × List VMResult) :
    held (eachVm (allocateMemoryToRemoteVm o vmInfos) vms st).1 =
      held st.1 - (vms.map (·.2)).sum := by
  induction vms generalizing st with
  | nil => rfl
  | cons vm vms ih =>
    refine (ih _).trans ?_
    rw [held_allocateMemoryToRemoteVm, List.map_cons, List.sum_cons, Nat.sub_add_eq]

theorem sentOf_eachVm (vms : List (Pid × Nat)) (st : List RemoteNUMA × List VMResult) (pid : Pid) :
    sentOf (eachVm (allocateMemoryToRemoteVm o vmInfos) vms st).2 pid =
      sentOf st.2 pid + Ration.share (held st.1) vms pid := by
  induction vms generalizing st with
  | nil => rfl
  | cons vm vms ih =>
    refine (ih _).trans ?_
    rw [sentOf_append, sentOf_allocateMemoryToRemoteVm, held_allocateMemoryToRemoteVm,
      Ration.share_cons, Nat.add_assoc]

/-! ### In turn -/

variable (o calculateRemainingQuota) in
/-- The machines with their quotas: those that have remote memory, and then the others. -/
def turns (vmInfos : Map Pid VMInfo) : List (Pid × Nat) :=
  remainingQuotas o calculateRemainingQuota (vmInfosMigrated vmInfos) ++
    remainingQuotas o calculateRemainingQuota (vmInfosNotMigrated vmInfos)

theorem sum_filter_ne_zero (vms : List (Pid × Nat)) :
    ((vms.filter fun vm => vm.2 ≠ 0).map (·.2)).sum = (vms.map (·.2)).sum := by
  induction vms with
  | nil => rfl
  | cons vm vms ih =>
    rw [List.filter_cons, List.map_cons, List.sum_cons]
    by_cases h : vm.2 = 0
    · rw [if_neg (by simpa using h), ih, h, Nat.zero_add]
    · rw [if_pos (by simpa using h), List.map_cons, List.sum_cons, ih]

theorem held_vmsAllocation (st : List RemoteNUMA × List VMResult) :
    held (vmsAllocation o calculateRemainingQuota vmInfos st).1 =
      held st.1 - ((remainingQuotas o calculateRemainingQuota vmInfos).map (·.2)).sum := by
  rw [vmsAllocation, held_eachVm, sum_filter_ne_zero]

theorem sentOf_vmsAllocation (st : List RemoteNUMA × List VMResult) (pid : Pid) :
    sentOf (vmsAllocation o calculateRemainingQuota vmInfos st).2 pid = sentOf st.2 pid +
      Ration.share (held st.1) (remainingQuotas o calculateRemainingQuota vmInfos) pid := by
  rw [vmsAllocation, sentOf_eachVm, Ration.share_filter_ne_zero]

theorem held_multiNumaAllocated (free : List RemoteNUMA) :
    held (multiNumaAllocated o calculateRemainingQuota vmInfos free).1 =
      held free - ((turns o calculateRemainingQuota vmInfos).map (·.2)).sum := by
  rw [multiNumaAllocated, held_vmsAllocation, held_vmsAllocation, turns, List.map_append,
    List.sum_append, Nat.sub_add_eq]

theorem sentOf_multiNumaAllocated (free : List RemoteNUMA) (pid : Pid) :
    sentOf (multiNumaAllocated o calculateRemainingQuota vmInfos free).2 pid =
      Ration.share (held free) (turns o calculateRemainingQuota vmInfos) pid := by
  rw [multiNumaAllocated, sentOf_vmsAllocation, sentOf_vmsAllocation, held_vmsAllocation, turns,
    Ration.share_append]
  exact congrArg (· + _) (Nat.zero_add _)

theorem mem_remainingQuotas {vm : Pid × Nat} :
    vm ∈ remainingQuotas o calculateRemainingQuota vmInfos ↔
      ∃ info, vmInfos.lookup vm.1 = some info ∧ vm.2 = calculateRemainingQuota info := by
  rw [remainingQuotas, (o.vms.perm _).mem_iff, List.mem_map]
  constructor
  · rintro ⟨⟨pid, info⟩, hmem, rfl⟩
    exact ⟨info, o.vmInfos.mem_run.1 hmem, rfl⟩
  · rintro ⟨info, hlookup, hquota⟩
    exact ⟨(vm.1, info), o.vmInfos.mem_run.2 hlookup, Prod.ext rfl hquota.symm⟩

theorem nodup_remainingQuotas :
    ((remainingQuotas o calculateRemainingQuota vmInfos).map (·.1)).Nodup := by
  rw [remainingQuotas, ((o.vms.perm _).map _).nodup_iff, List.map_map]
  exact o.vmInfos.nodup_run

theorem mem_turns {vm : Pid × Nat} : vm ∈ turns o calculateRemainingQuota vmInfos ↔
    ∃ info, vmInfos.lookup vm.1 = some info ∧ vm.2 = calculateRemainingQuota info := by
  rw [turns, List.mem_append, mem_remainingQuotas, mem_remainingQuotas]
  simp only [vmInfosMigrated, vmInfosNotMigrated, Map.lookup_filter, decide_eq_true_eq]
  constructor
  · rintro (⟨info, h, hquota⟩ | ⟨info, h, hquota⟩)
    · exact ⟨info, h.1, hquota⟩
    · exact ⟨info, h.1, hquota⟩
  · rintro ⟨info, h, hquota⟩
    by_cases hremote : info.totalRemoteUsedMem = 0
    · exact .inr ⟨info, ⟨h, hremote⟩, hquota⟩
    · exact .inl ⟨info, ⟨h, hremote⟩, hquota⟩

theorem migrated_of_mem {vm : Pid × Nat}
    (h : vm ∈ remainingQuotas o calculateRemainingQuota (vmInfosMigrated vmInfos)) :
    migrated vmInfos vm.1 := by
  obtain ⟨info, hlookup, _⟩ := mem_remainingQuotas.1 h
  rw [vmInfosMigrated, Map.lookup_filter, decide_eq_true_eq] at hlookup
  exact ⟨info, hlookup⟩

theorem not_migrated_of_mem {vm : Pid × Nat}
    (h : vm ∈ remainingQuotas o calculateRemainingQuota (vmInfosNotMigrated vmInfos)) :
    ¬migrated vmInfos vm.1 := by
  obtain ⟨info, hlookup, _⟩ := mem_remainingQuotas.1 h
  rw [vmInfosNotMigrated, Map.lookup_filter, decide_eq_true_eq] at hlookup
  rintro ⟨info', hlookup', hremote⟩
  obtain rfl : info = info' := Option.some.inj (hlookup.1.symm.trans hlookup')
  exact hremote hlookup.2

variable (o calculateRemainingQuota vmInfos) in
theorem inTurn_turns :
    InTurn calculateRemainingQuota vmInfos (turns o calculateRemainingQuota vmInfos) where
  mem vm := mem_turns
  nodup := by
    rw [turns, List.map_append]
    refine nodup_remainingQuotas.append nodup_remainingQuotas ?_
    intro pid hmigrated hnot
    obtain ⟨vm, hvm, rfl⟩ := List.mem_map.1 hmigrated
    obtain ⟨vm', hvm', heq⟩ := List.mem_map.1 hnot
    refine not_migrated_of_mem hvm' ?_
    rw [heq]
    exact migrated_of_mem hvm
  sorted := by
    rw [turns, List.pairwise_append]
    refine ⟨?_, ?_, ?_⟩
    · refine List.Pairwise.imp_of_mem ?_ (o.vms.sorted _)
      intro a b ha _ hle
      exact ⟨fun _ => migrated_of_mem ha, fun _ => hle⟩
    · refine List.Pairwise.imp_of_mem ?_ (o.vms.sorted _)
      intro a b _ hb hle
      exact ⟨fun h => absurd h (not_migrated_of_mem hb), fun _ => hle⟩
    · intro a ha b hb
      have hmigrated := migrated_of_mem ha
      exact ⟨fun _ => hmigrated, fun h => absurd (h.1 hmigrated) (not_migrated_of_mem hb)⟩

/-- **Memory is given out in turn.** -/
theorem rations_multiNumaAllocated (free : List RemoteNUMA) :
    Rations (turns o calculateRemainingQuota vmInfos) free
      (multiNumaAllocated o calculateRemainingQuota vmInfos free).1
      (multiNumaAllocated o calculateRemainingQuota vmInfos free).2 where
  turn := by
    intro before vm after heq
    have hnodup := (inTurn_turns o calculateRemainingQuota vmInfos).nodup
    rw [heq] at hnodup
    rw [sentOf_multiNumaAllocated, heq]
    exact Ration.share_turn hnodup
  others := by
    intro pid hnot
    rw [sentOf_multiNumaAllocated, Ration.share_of_notMem hnot]
  balance := by
    intro k
    have hphase (vmInfos : Map Pid VMInfo) := balance_eachVm
      fun numas vm => balance_allocateMemoryToRemoteVm o vmInfos numas vm k
    rw [multiNumaAllocated, vmsAllocation, hphase, vmsAllocation, hphase]
    exact Nat.zero_add _
  complete := by
    intro hleft vm hvm
    have hnodup := (inTurn_turns o calculateRemainingQuota vmInfos).nodup
    rw [held_multiNumaAllocated] at hleft
    rw [sentOf_multiNumaAllocated]
    obtain ⟨before, after, heq⟩ := List.append_of_mem hvm
    rw [heq] at hnodup hleft ⊢
    rw [List.map_append, List.sum_append, List.map_cons, List.sum_cons] at hleft
    rw [Ration.share_turn hnodup, Nat.min_eq_left (by omega)]

/-! ### What is returned -/

theorem sentOn_cons (r : VMResult) (l : List VMResult) (pid : Pid) (k : Nat) :
    sentOn (r :: l) pid k =
      (if (r.pid, r.remoteNumaId) = (pid, k) then r.size else 0) + sentOn l pid k :=
  Grouping.summed_cons _ _ _

theorem sentOn_append (l l' : List VMResult) (pid : Pid) (k : Nat) :
    sentOn (l ++ l') pid k = sentOn l pid k + sentOn l' pid k := by
  rw [sentOn, List.map_append, Grouping.summed_append]
  rfl

/-- What is sent to a numa by the results of one machine. -/
theorem sentTo_under (l : List VMResult) (pid : Pid) (k : Nat) :
    sentTo (Gather.under (fun r : VMResult => r.pid) pid l) k = sentOn l pid k := by
  induction l with
  | nil => rfl
  | cons r l ih =>
    rw [sentOn_cons, Gather.under, List.filter_cons]
    by_cases hpid : r.pid = pid
    · rw [if_pos (decide_eq_true hpid), sentTo_cons]
      refine congrArg₂ (· + ·) (if_congr ?_ rfl rfl) ih
      rw [Prod.mk.injEq, and_iff_right hpid]
    · rw [if_neg (by simpa using hpid), if_neg fun h => hpid (Prod.mk.inj h).1, Nat.zero_add]
      exact ih

theorem sentOn_history (vmInfo : VMInfo) (pid pid' : Pid) (k : Nat) :
    sentOn (vmInfo.history pid') pid k = if pid' = pid then vmInfo.usedOn k else 0 := by
  rw [sentOn, VMInfo.history, List.map_map, VMInfo.usedOn]
  by_cases h : pid' = pid
  · rw [if_pos h, h]
    refine Gather.summed_congr (fun numa : MetaNumaInfo => numa.numaUsedMem) ?_
    intro numa _
    exact Prod.mk.injEq .. ▸ and_iff_right rfl
  · rw [if_neg h]
    refine Grouping.summed_eq_zero fun x hx heq => ?_
    obtain ⟨numa, _, rfl⟩ := List.mem_map.1 hx
    exact absurd (Prod.mk.inj heq).1 h

/-- What all machines have already is what each of them has. -/
theorem sentOn_histories {pid : Pid} {vmInfo : VMInfo} (h : vmInfos.lookup pid = some vmInfo)
    (k : Nat) :
    sentOn ((o.vmInfos.run vmInfos).flatMap fun e => e.2.history e.1) pid k = vmInfo.usedOn k := by
  rw [sentOn, List.map_flatMap, Grouping.summed_flatMap]
  have hone : ((Gather.under Prod.fst pid (o.vmInfos.run vmInfos)).map (·.2.usedOn k)).sum =
      Grouping.summed ((o.vmInfos.run vmInfos).map fun e => (e.1, e.2.usedOn k)) pid :=
    Gather.sum_under ..
  rw [Gather.under, o.vmInfos.filter_run, h] at hone
  rw [List.map_congr_left fun e _ => sentOn_history e.2 pid e.1 k]
  rw [Grouping.summed, List.map_map] at hone
  exact hone.symm

theorem eq_some_iff_getD {x : Option Nat} {n : Nat} (hne : n ≠ 0) :
    x = some n ↔ x.getD 0 = n := by
  cases x with
  | none => exact iff_of_false (fun h => by cases h) fun hzero => hne hzero.symm
  | some m => rw [Option.some.injEq, Option.getD_some]

theorem mem_fillVmResults {vmInfo : VMInfo} {vmResults : List VMResult} {r : VMResult} :
    r ∈ fillVmResults o vmInfo vmResults ↔ vmInfo.totalUsedMem ≠ 0 ∧
      r.size = sentTo vmResults r.remoteNumaId % 2 ^ 64 ∧ r.size ≠ 0 ∧
      r = vmInfo.result r.remoteNumaId r.size := by
  have hsize (k : Nat) : ((Gather.gather (fun r : VMResult => r.remoteNumaId) 0
      (fun size r => (size + r.size) % 2 ^ 64) vmResults).lookup k).getD 0 =
      sentTo vmResults k % 2 ^ 64 := by
    have hsum := Gather.foldl_add_mod (fun r : VMResult => r.size) (2 ^ 64)
      (Gather.under (fun r : VMResult => r.remoteNumaId) k vmResults) 0
    rw [Nat.zero_mod, Nat.zero_add, Gather.sum_under] at hsum
    exact (Gather.lookup_gather_getD ..).trans hsum
  rw [fillVmResults]
  split
  next hzero => exact ⟨fun h => (List.not_mem_nil h).elim, fun h => absurd hzero h.1⟩
  next hused =>
    rw [List.mem_map]
    constructor
    · rintro ⟨⟨k, n⟩, hmem, rfl⟩
      rw [List.mem_filter, decide_eq_true_eq, Map.Iteration.mem_run] at hmem
      exact ⟨hused, ((eq_some_iff_getD hmem.2).1 hmem.1).symm.trans (hsize k), hmem.2, rfl⟩
    · rintro ⟨_, hsum, hne, heq⟩
      refine ⟨(r.remoteNumaId, r.size), ?_, heq.symm⟩
      rw [List.mem_filter, decide_eq_true_eq, Map.Iteration.mem_run]
      exact ⟨(eq_some_iff_getD hne).2 ((hsize _).trans hsum.symm), hne⟩

theorem nodup_fillVmResults (vmInfo : VMInfo) (vmResults : List VMResult) :
    ((fillVmResults o vmInfo vmResults).map (·.remoteNumaId)).Nodup := by
  rw [fillVmResults]
  split
  · exact List.nodup_nil
  · rw [List.map_map]
    exact (List.filter_sublist.map _).nodup (Map.Iteration.nodup_run _)

/-- Every machine is found under its own id. -/
def Keyed (vmInfos : Map Pid VMInfo) : Prop :=
  ∀ pid vmInfo, vmInfos.lookup pid = some vmInfo → vmInfo.pid = pid

theorem mem_resetVmResult (hkeyed : Keyed vmInfos) {given : List VMResult} {r : VMResult} :
    r ∈ resetVmResult o vmInfos given ↔ ∃ vm, vmInfos.lookup r.pid = some vm ∧
      vm.totalUsedMem ≠ 0 ∧
      r.size = (vm.usedOn r.remoteNumaId + sentOn given r.pid r.remoteNumaId) % 2 ^ 64 ∧
      r.size ≠ 0 ∧ r = vm.result r.remoteNumaId r.size := by
  set all := (o.vmInfos.run vmInfos).flatMap (fun e => e.2.history e.1) ++ given with hall
  have hresults (pid : Pid) : ((Gather.gather (fun r : VMResult => r.pid) []
      (fun results r => results ++ [r]) all).lookup pid).getD [] =
      Gather.under (fun r : VMResult => r.pid) pid all := by
    refine (Gather.lookup_gather_getD ..).trans ((Gather.foldl_push (fun r => r) _ []).trans ?_)
    exact List.map_id' _
  have hsent {pid : Pid} {vm : VMInfo} (hlookup : vmInfos.lookup pid = some vm) (k : Nat) :
      sentTo (Gather.under (fun r : VMResult => r.pid) pid all) k =
        vm.usedOn k + sentOn given pid k := by
    rw [sentTo_under, hall, sentOn_append, sentOn_histories hlookup]
  rw [resetVmResult, ← hall, List.mem_flatMap]
  constructor
  · rintro ⟨⟨pid, results⟩, hmem, hr⟩
    rw [Map.Iteration.mem_run] at hmem
    have heq := hresults pid
    rw [hmem, Option.getD_some] at heq
    cases hlookup : vmInfos.lookup pid with
    | none => rw [hlookup] at hr; cases hr
    | some vm =>
      rw [hlookup] at hr
      obtain ⟨hused, hsize, hne, hres⟩ := mem_fillVmResults.1 hr
      have hpid : r.pid = pid := (congrArg VMResult.pid hres).trans (hkeyed pid vm hlookup)
      rw [heq, hsent hlookup] at hsize
      rw [hpid]
      exact ⟨vm, hlookup, hused, hsize, hne, hres⟩
  · rintro ⟨vm, hlookup, hused, hsize, hne, hres⟩
    rw [← hsent hlookup] at hsize
    refine ⟨(r.pid, Gather.under (fun r : VMResult => r.pid) r.pid all), ?_, ?_⟩
    · rw [Map.Iteration.mem_run, Gather.lookup_gather, if_neg, Gather.foldl_push fun r => r]
      · exact congrArg some (List.map_id' _)
      · intro hnil
        rw [hnil] at hsize
        exact hne hsize
    · rw [hlookup]
      exact mem_fillVmResults.2 ⟨hused, hsize, hne, hres⟩

theorem nodup_resetVmResult (hkeyed : Keyed vmInfos) (given : List VMResult) :
    ((resetVmResult o vmInfos given).map fun r => (r.pid, r.remoteNumaId)).Nodup := by
  rw [resetVmResult, List.map_flatMap, List.nodup_flatMap]
  constructor
  · rintro ⟨pid, results⟩ _
    cases vmInfos.lookup pid with
    | none => exact List.nodup_nil
    | some vm =>
      refine List.Nodup.of_map Prod.snd ?_
      rw [List.map_map]
      exact nodup_fillVmResults vm results
  · have hpid {pid : Pid} {results : List VMResult} {x : Pid × Nat}
        (hx : x ∈ ((vmInfos.lookup pid).elim [] fun vmInfo =>
          fillVmResults o vmInfo results).map fun r => (r.pid, r.remoteNumaId)) : x.1 = pid := by
      obtain ⟨r, hr, rfl⟩ := List.mem_map.1 hx
      cases hlookup : vmInfos.lookup pid with
      | none => rw [hlookup] at hr; cases hr
      | some vm =>
        rw [hlookup] at hr
        exact (congrArg VMResult.pid (mem_fillVmResults.1 hr).2.2.2).trans (hkeyed pid vm hlookup)
    refine (List.pairwise_map.1 (Map.Iteration.nodup_run _)).imp ?_
    intro e e' hne x hx hx'
    exact hne ((hpid hx).symm.trans (hpid hx'))

/-! ### The machines that are known -/

theorem Keyed.foldl_insert {α : Type} {l : List α} {f : α → VMInfo} {m : Map Pid VMInfo}
    (h : Keyed m) : Keyed (l.foldl (fun m a => m.insert (f a).pid (f a)) m) := by
  induction l generalizing m with
  | nil => exact h
  | cons a l ih =>
    refine ih fun pid vmInfo hlookup => ?_
    rw [Map.lookup_insert_ite] at hlookup
    split at hlookup
    next heq => exact Option.some.inj hlookup ▸ heq.symm
    next => exact h pid vmInfo hlookup

theorem Keyed.modify {m : Map Pid VMInfo} {f : VMInfo → VMInfo} (h : Keyed m) (pid : Pid)
    (hf : ∀ vm, (f vm).pid = vm.pid) : Keyed (m.modify pid f) := by
  intro pid' vmInfo hlookup
  rw [Map.lookup_modify] at hlookup
  split at hlookup
  next =>
    obtain ⟨vm, hvm, rfl⟩ := Option.map_eq_some_iff.1 hlookup
    exact (hf vm).trans (h pid' vm hvm)
  next => exact h pid' vmInfo hlookup

theorem Keyed.foldl_modify {α : Type} (key : α → Pid) (f : α → VMInfo → VMInfo)
    (hf : ∀ a vm, (f a vm).pid = vm.pid) {l : List α} {m : Map Pid VMInfo} (h : Keyed m) :
    Keyed (l.foldl (fun m a => m.modify (key a) (f a)) m) := by
  induction l generalizing m with
  | nil => exact h
  | cons a l ih => exact ih (h.modify _ (hf a))

theorem Keyed.foldl_erase {l : List Pid} {m : Map Pid VMInfo} (h : Keyed m) :
    Keyed (l.foldl (fun m pid => m.erase pid) m) := by
  induction l generalizing m with
  | nil => exact h
  | cons a l ih =>
    refine ih fun pid vmInfo hlookup => h pid vmInfo ?_
    rw [Map.lookup_erase_ite] at hlookup
    split at hlookup
    · cases hlookup
    · exact hlookup

theorem Keyed.foldl {α : Type} {l : List α} {f : Map Pid VMInfo → α → Map Pid VMInfo}
    (hf : ∀ m a, Keyed m → Keyed (f m a)) {m : Map Pid VMInfo} (h : Keyed m) :
    Keyed (l.foldl f m) := by
  induction l generalizing m with
  | nil => exact h
  | cons a l ih => exact ih (hf m a h)

theorem keyed_initializeVMInformation (vmParams : List VMPresetParam) :
    Keyed (initializeVMInformation vmParams) :=
  Keyed.foldl_insert (f := fun param : VMPresetParam => { pid := param.pid, ratio := param.ratio })
    fun _ _ h => by cases h

theorem keyed_collectedVmInfos {vmParams : List VMPresetParam} {replies : Replies}
    (h : collectedVmInfos o vmParams replies = some vmInfos) : Keyed vmInfos := by
  obtain ⟨updated, hupdated, hnuma⟩ := Option.bind_eq_some_iff.1 h
  have hupdated : Keyed updated := by
    rcases hinfos : replies.pidInfos with _ | _ | ⟨n, infos⟩
    · rw [hinfos] at hupdated
      cases hupdated
    · rw [hinfos] at hupdated
      cases hupdated
    · rw [hinfos] at hupdated
      cases hupdated
      exact (keyed_initializeVMInformation vmParams).foldl_modify RmrsPidInfo.pid
        (fun n vm => vm.update n) fun _ _ => rfl
  rw [updateRemoteNumaId] at hnuma
  rcases hpids : replies.numaIdVmPids.borrowed with _ | pids
  · rw [hpids] at hnuma
    cases hnuma
  · rw [hpids] at hnuma
    cases hnuma
    refine Keyed.foldl (fun m e hm => hm.foldl_modify (fun vmPid => vmPid)
      (fun _ vm => { vm with remoteNumaId := e.1 }) fun _ _ => rfl) ?_
    exact Keyed.foldl (fun m e hm => hm.foldl_erase) hupdated

theorem answers_fillMemMigrateResult (hkeyed : Keyed vmInfos) (given : List VMResult) :
    Answers vmInfos given (fillMemMigrateResult (resetVmResult o vmInfos given)) where
  nodup := by
    rw [fillMemMigrateResult, List.map_map]
    exact nodup_resetVmResult hkeyed given
  mem := by
    intro r
    rw [fillMemMigrateResult, List.mem_map]
    constructor
    · rintro ⟨re, hre, rfl⟩
      obtain ⟨vm, hlookup, hused, hsize, hne, hres⟩ := (mem_resetVmResult hkeyed).1 hre
      exact ⟨vm, hlookup, hused, hsize, hne, congrArg VMResult.maxRatio hres⟩
    · rintro ⟨vm, hlookup, hused, hsize, hne, hratio⟩
      refine ⟨⟨r.pid, r.remoteNumaId, r.size, r.maxRatio⟩, ?_, rfl⟩
      refine (mem_resetVmResult hkeyed).2 ⟨vm, hlookup, hused, hsize, hne, ?_⟩
      rw [hratio, VMInfo.result, hkeyed _ vm hlookup]

/-- **With several numas for a machine, the decision gives memory out in turn**: what is returned
is what the machines had and what they got. -/
theorem processMemMigrateRemoteId_multiNuma {conf : MpConfiguration} (hmulti : conf.multi = true)
    {request : Request} {replies : Replies} {results : List MemMigrateResult}
    (h : processMemMigrateRemoteId o calculateRemainingQuota conf request replies =
      some results) :
    ∃ vmInfos turns free left given,
      collectedVmInfos o request.vmParams replies = some vmInfos ∧
      getRemoteNumasBorrowInfo replies.numaInfos = some free ∧
      InTurn calculateRemainingQuota vmInfos turns ∧ Rations turns free left given ∧
      Answers vmInfos given results := by
  rw [processMemMigrateRemoteId] at h
  obtain ⟨vmInfos, hvmInfos, h⟩ := Option.bind_eq_some_iff.1 h
  rw [execute, if_pos hmulti, hmulti] at h
  dsimp only at h
  split at h
  next => cases h
  next =>
    rw [Bool.not_true, Bool.false_and, if_neg Bool.false_ne_true] at h
    obtain ⟨st, hst, rfl⟩ := Option.map_eq_some_iff.1 h
    obtain ⟨free, hfree, rfl⟩ := Option.map_eq_some_iff.1 hst
    exact ⟨vmInfos, _, free, _, _, hvmInfos, hfree,
      inTurn_turns o calculateRemainingQuota vmInfos, rations_multiNumaAllocated free,
      answers_fillMemMigrateResult (keyed_collectedVmInfos hvmInfos) _⟩

end Strategy

/-! ### Two machines -/

/-- The quota without rounding errors. -/
def exactQuota (vm : VMInfo) : Nat := vm.totalUsedMem * vm.ratio / 100 - vm.totalRemoteUsedMem

def twoMachines : Request where
  vmParams := [⟨1, 50⟩, ⟨2, 25⟩]
  memBorrowInfo := [⟨4, 1000⟩]
  borrowRecord := [{ name := "a", size := 1000, borrowLocalNuma := 0, borrowRemoteNuma := 4 }]

def twoMachinesReplies : Replies where
  pidInfos := some
    [{ pid := 1, totalLocalUsedMem := 4000 * B2KB, metaNumaInfos := [⟨0, 4000 * B2KB, true⟩] },
      { pid := 2, totalLocalUsedMem := 7000 * B2KB, totalRemoteUsedMem := 1000 * B2KB,
        remoteNumaId := 5,
        metaNumaInfos := [⟨1, 7000 * B2KB, true⟩, ⟨5, 1000 * B2KB, false⟩] }]
  numaIdVmPids := ⟨∅, some [(5, [2])]⟩
  numaInfos := some [⟨0, true, 9000, ∅⟩, ⟨4, false, 1000, ∅⟩,
    ⟨5, false, 352, (∅ : Map Nat NumaPageData).insert 2048 ⟨1⟩⟩]

/-- The machine with remote memory gets its 1000 of the larger numa, and the other one gets what is
left. -/
theorem processMemMigrateRemoteId_multiNuma_twoMachines :
    ∃ vmInfos turns free left given,
      collectedVmInfos default twoMachines.vmParams twoMachinesReplies = some vmInfos ∧
      getRemoteNumasBorrowInfo twoMachinesReplies.numaInfos = some free ∧
      InTurn exactQuota vmInfos turns ∧ Rations turns free left given ∧
      Answers vmInfos given [⟨1, 4, 600, 15⟩, ⟨1, 5, 1400, 35⟩, ⟨2, 5, 2000, 25⟩] :=
  processMemMigrateRemoteId_multiNuma (show MpConfiguration.multi ⟨.VIRTUAL_SCENE, true⟩ from rfl)
    (by decide +kernel)

end OverCommit

end UbsEngine
