import UbsEngine.OverCommit.MultiNuma

/-!
# With one numa for a machine, memory stays where the machine is

A machine that has remote memory gets more of it on its own numa only, and each numa is a supply for
its own machines, which are served in the order of their quotas. The other machines come last, and
each of them takes what it can from the one numa with the most memory left.

The loops themselves do not keep a machine from being served twice: one that finds its numa in two
entries takes its quota from both. But the entries are sums by numa, so no numa comes twice
(`UbsEngine.OverCommit.distinct_genNumaCurBorrowSizes`), and then every machine gets one result
at most and keeps its quota (`UbsEngine.OverCommit.OnOneNuma`). That the decision is such is
`UbsEngine.OverCommit.processMemMigrateRemoteId_singleNuma`.
-/

namespace UbsEngine

namespace OverCommit

open FaultNode (Pid RemoteNUMA VMResult BorrowRecord sentTo sentOf sentTo_append sentOf_append)

/-- No numa comes twice. -/
def Distinct (numas : List RemoteNUMA) : Prop := (numas.map (·.remoteNumaId)).Nodup

/-- The numa of a machine. -/
def ownNuma (vmInfos : Map Pid VMInfo) (pid : Pid) : Nat :=
  ((vmInfos.lookup pid).map (·.remoteNumaId)).getD 0

/-- **What the machines get, each on one numa.** -/
structure OnOneNuma (calculateRemainingQuota : VMInfo → Nat) (vmInfos : Map Pid VMInfo)
    (free left : List RemoteNUMA) (given : List VMResult) : Prop where
  balance : ∀ remoteNumaId, sentTo given remoteNumaId + stock left remoteNumaId =
    stock free remoteNumaId
  once : (given.map (·.pid)).Nodup
  quota : ∀ pid info, vmInfos.lookup pid = some info →
    sentOf given pid ≤ calculateRemainingQuota info
  /-- Who has remote memory gets more of it in the same place. -/
  own : ∀ r ∈ given, ∃ info, vmInfos.lookup r.pid = some info ∧
    if info.totalRemoteUsedMem = 0 then info.remoteNumaId = 0
    else r.remoteNumaId = info.remoteNumaId
  /-- Each numa serves its own machines in the order of their quotas. -/
  turn : ∃ turns : List (Pid × Nat),
    (∀ vm, vm ∈ turns ↔ ∃ info, vmInfos.lookup vm.1 = some info ∧ info.totalRemoteUsedMem ≠ 0 ∧
      info.remoteNumaId ∈ free.map (·.remoteNumaId) ∧ vm.2 = calculateRemainingQuota info) ∧
    (turns.map (·.1)).Nodup ∧ (turns.Pairwise fun a b => b.2 ≤ a.2) ∧
    ∀ before vm after, turns = before ++ vm :: after →
      sentOf given vm.1 = min vm.2 (stock free (ownNuma vmInfos vm.1) -
        ((before.filter fun a => ownNuma vmInfos a.1 = ownNuma vmInfos vm.1).map (·.2)).sum)
  /-- Of the others, who gets too little has met no larger numa. -/
  largest : ∀ pid info, vmInfos.lookup pid = some info → info.totalRemoteUsedMem = 0 →
    info.remoteNumaId = 0 → sentOf given pid < calculateRemainingQuota info →
      ∀ remoteNumaId, stock left remoteNumaId ≤ sentOf given pid

/-! ### Distinct numas -/

theorem Distinct.perm {l l' : List RemoteNUMA} (h : l.Perm l') (hdistinct : Distinct l) :
    Distinct l' := ((h.map _).nodup_iff).1 hdistinct

theorem stock_of_notMem {numas : List RemoteNUMA} {k : Nat}
    (h : k ∉ numas.map (·.remoteNumaId)) : stock numas k = 0 := by
  refine Grouping.summed_eq_zero fun x hx heq => ?_
  obtain ⟨numa, hnuma, rfl⟩ := List.mem_map.1 hx
  exact absurd (List.mem_map.2 ⟨numa, hnuma, heq⟩) h

/-- Of a numa there is its entry. -/
theorem Distinct.stock_le {numas : List RemoteNUMA} (hdistinct : Distinct numas) {bound : Nat}
    (h : ∀ numa ∈ numas, numa.borrowSize ≤ bound) (k : Nat) : stock numas k ≤ bound := by
  induction numas with
  | nil => exact Nat.zero_le _
  | cons numa numas ih =>
    obtain ⟨hhead, htail⟩ := List.forall_mem_cons.1 h
    obtain ⟨hnot, hdistinct⟩ := List.nodup_cons.1 hdistinct
    rw [stock_cons]
    split
    next heq =>
      rw [stock_of_notMem (heq ▸ hnot)]
      exact hhead
    next => exact (Nat.zero_add _).symm ▸ ih hdistinct htail

/-- **What the borrowings come to, numa by numa.** -/
theorem stock_genNumaCurBorrowSizes (o : Orders) (borrowRecords : List BorrowRecord)
    (borrowIds : List String) (k : Nat) :
    stock (remoteNUMAsOf (genNumaCurBorrowSizes o borrowRecords borrowIds)) k =
      Grouping.summed ((borrowRecords.filter fun r => r.name ∈ borrowIds).map fun r =>
        (toUInt16 r.borrowRemoteNuma, r.size)) k % 2 ^ 64 := by
  set records := borrowRecords.filter fun r => r.name ∈ borrowIds
  set sizes := Gather.gather (fun r : BorrowRecord => toUInt16 r.borrowRemoteNuma) 0
    (fun size r => (size + r.size) % 2 ^ 64) records with hsizes
  have hlookup : (sizes.lookup k).getD 0 = Grouping.summed (records.map fun r =>
      (toUInt16 r.borrowRemoteNuma, r.size)) k % 2 ^ 64 := by
    have hsum := Gather.foldl_add_mod (fun r : BorrowRecord => r.size) (2 ^ 64)
      (Gather.under (fun r : BorrowRecord => toUInt16 r.borrowRemoteNuma) k records) 0
    rw [Nat.zero_mod, Nat.zero_add, Gather.sum_under] at hsum
    exact (Gather.lookup_gather_getD ..).trans hsum
  rw [← hlookup, stock, remoteNUMAsOf, genNumaCurBorrowSizes, List.map_map, List.map_map]
  have hone : ((Gather.under Prod.fst k (o.borrowSizes.run sizes)).map (·.2)).sum =
      Grouping.summed ((o.borrowSizes.run sizes).map fun e => (e.1, e.2)) k := Gather.sum_under ..
  rw [Gather.under, o.borrowSizes.filter_run] at hone
  refine hone.symm.trans ?_
  cases sizes.lookup k <;> rfl

theorem distinct_genNumaCurBorrowSizes (o : Orders) (borrowRecords : List BorrowRecord)
    (borrowIds : List String) :
    Distinct (remoteNUMAsOf (genNumaCurBorrowSizes o borrowRecords borrowIds)) := by
  rw [Distinct, remoteNUMAsOf, genNumaCurBorrowSizes, List.map_map, List.map_map]
  exact o.borrowSizes.nodup_run

/-! ### A machine on its own numa -/

theorem allocateUsed_of_notMem {vm : Pid × Nat} {own maxRatio : Nat} {numas : List RemoteNUMA}
    (h : own ∉ numas.map (·.remoteNumaId)) :
    allocateUsed vm own maxRatio numas = (numas, []) := by
  induction numas with
  | nil => rfl
  | cons numa numas ih =>
    rw [List.map_cons, List.mem_cons, not_or] at h
    rw [allocateUsed, if_neg fun heq => h.1 heq.symm, ih h.2]

theorem ids_allocateUsed (vm : Pid × Nat) (own maxRatio : Nat) (numas : List RemoteNUMA) :
    (allocateUsed vm own maxRatio numas).1.map (·.remoteNumaId) =
      numas.map (·.remoteNumaId) := by
  induction numas with
  | nil => rfl
  | cons numa numas ih =>
    rw [allocateUsed]
    split_ifs
    · exact congrArg (numa.remoteNumaId :: ·) ih
    · rfl
    · rfl
    · exact congrArg (numa.remoteNumaId :: ·) ih

/-- **A machine takes its quota of its own numa, or all that is left of it.** -/
theorem allocateUsed_of_distinct (vm : Pid × Nat) (own maxRatio : Nat) {numas : List RemoteNUMA}
    (hdistinct : Distinct numas) :
    (∀ k, stock (allocateUsed vm own maxRatio numas).1 k =
      stock numas k - if own = k then vm.2 else 0) ∧
    ((allocateUsed vm own maxRatio numas).2 = [] ∧ min vm.2 (stock numas own) = 0 ∨
      (allocateUsed vm own maxRatio numas).2 =
        [⟨vm.1, own, min vm.2 (stock numas own), maxRatio⟩]) := by
  induction numas with
  | nil => exact ⟨fun k => (Nat.zero_sub _).symm, .inl ⟨rfl, Nat.min_zero _⟩⟩
  | cons numa numas ih =>
    obtain ⟨hnot, hdistinct⟩ := List.nodup_cons.1 hdistinct
    rw [allocateUsed]
    by_cases hown : numa.remoteNumaId = own
    · rw [if_pos hown]
      have hnot : own ∉ numas.map (·.remoteNumaId) := hown ▸ hnot
      rw [allocateUsed_of_notMem hnot, stock_cons, if_pos hown, stock_of_notMem hnot, Nat.add_zero]
      have htail {k : Nat} (hk : own = k) : stock numas k = 0 := stock_of_notMem (hk ▸ hnot)
      split_ifs with hfits hpos
      · refine ⟨fun k => ?_, .inr ?_⟩
        · rw [stock_cons, stock_cons, hown]
          split
          next hk => rw [htail hk]; rfl
          next => rw [Nat.sub_zero]
        · rw [Nat.min_eq_left hfits, hown]
      · refine ⟨fun k => ?_, .inr ?_⟩
        · rw [stock_cons, stock_cons, hown]
          split
          next hk =>
            rw [htail hk]
            change 0 = numa.borrowSize - vm.2
            omega
          next => rw [Nat.sub_zero]
        · rw [Nat.min_eq_right (Nat.le_of_not_le hfits), hown]
      · refine ⟨fun k => ?_, .inl ⟨rfl, ?_⟩⟩
        · rw [stock_cons, hown]
          split
          next hk => rw [htail hk]; omega
          next => rw [Nat.sub_zero]
        · omega
    · obtain ⟨hstock, hgiven⟩ := ih hdistinct
      rw [if_neg hown, stock_cons, if_neg hown, Nat.zero_add]
      refine ⟨fun k => ?_, hgiven⟩
      rw [stock_cons, stock_cons, hstock]
      split
      next hk => rw [if_neg fun h => hown (hk.trans h.symm), Nat.sub_zero, Nat.sub_zero]
      next => rw [Nat.zero_add, Nat.zero_add]

theorem sentOf_cons (r : VMResult) (l : List VMResult) (pid : Pid) :
    sentOf (r :: l) pid = (if r.pid = pid then r.size else 0) + sentOf l pid :=
  Grouping.summed_cons _ _ _

theorem sentOf_of_notMem {l : List VMResult} {pid : Pid} (h : pid ∉ l.map (·.pid)) :
    sentOf l pid = 0 := by
  refine Grouping.summed_eq_zero fun x hx heq => ?_
  obtain ⟨r, hr, rfl⟩ := List.mem_map.1 hx
  exact absurd (List.mem_map.2 ⟨r, hr, heq⟩) h

/-- What is sent of a machine, and so to a numa, is missing there. -/
theorem balance_allocateUsed {vm : Pid × Nat} {own maxRatio : Nat} {numas : List RemoteNUMA}
    (hdistinct : Distinct numas) (k : Nat) :
    sentTo (allocateUsed vm own maxRatio numas).2 k +
      stock (allocateUsed vm own maxRatio numas).1 k = stock numas k := by
  obtain ⟨hstock, hnone | hone⟩ := allocateUsed_of_distinct vm own maxRatio hdistinct
  · rw [hstock, hnone.1]
    change 0 + _ = _
    split
    next hk => rw [← hk]; omega
    next => omega
  · rw [hstock, hone, sentTo_cons]
    change (if own = k then min vm.2 (stock numas own) else 0) + 0 + _ = _
    split
    next hk => rw [← hk]; omega
    next => omega

/-! ### One machine after the other -/

/-- What the loops have in common: the numas remain what they are, what is sent is missing
afterwards, and there is one result at most. -/
structure Orderly (allocate : List RemoteNUMA → Pid × Nat → List RemoteNUMA × List VMResult) :
    Prop where
  distinct : ∀ {numas} vm, Distinct numas → Distinct (allocate numas vm).1
  balance : ∀ {numas} vm, Distinct numas → ∀ k,
    sentTo (allocate numas vm).2 k + stock (allocate numas vm).1 k = stock numas k
  pids : ∀ {numas} vm, Distinct numas → ((allocate numas vm).2.map (·.pid)).Sublist [vm.1]

theorem eachVm_cons (allocate : List RemoteNUMA → Pid × Nat → List RemoteNUMA × List VMResult)
    (vm : Pid × Nat) (vms : List (Pid × Nat)) (st : List RemoteNUMA × List VMResult) :
    eachVm allocate (vm :: vms) st =
      eachVm allocate vms ((allocate st.1 vm).1, st.2 ++ (allocate st.1 vm).2) := rfl

/-- What a loop adds to the results. -/
structure Adds (vms : List (Pid × Nat)) (st st' : List RemoteNUMA × List VMResult)
    (new : List VMResult) : Prop where
  results : st'.2 = st.2 ++ new
  distinct : Distinct st'.1
  balance : ∀ k, sentTo new k + stock st'.1 k = stock st.1 k
  pids : (new.map (·.pid)).Sublist (vms.map (·.1))

theorem Orderly.adds {allocate : List RemoteNUMA → Pid × Nat → List RemoteNUMA × List VMResult}
    (h : Orderly allocate) (vms : List (Pid × Nat)) (st : List RemoteNUMA × List VMResult)
    (hst : Distinct st.1) : ∃ new, Adds vms st (eachVm allocate vms st) new := by
  induction vms generalizing st with
  | nil => exact ⟨[], (List.append_nil _).symm, hst, fun k => Nat.zero_add _, .slnil⟩
  | cons vm vms ih =>
    obtain ⟨new, hnew⟩ := ih (_, st.2 ++ (allocate st.1 vm).2) (h.distinct vm hst)
    rw [eachVm_cons]
    refine ⟨(allocate st.1 vm).2 ++ new, ?_, hnew.distinct, fun k => ?_, ?_⟩
    · exact hnew.results.trans (List.append_assoc ..)
    · rw [sentTo_append, Nat.add_assoc, hnew.balance k]
      exact h.balance vm hst k
    · rw [List.map_append, List.map_cons]
      exact (h.pids vm hst).append hnew.pids

theorem Adds.sentOf_of_notMem {vms : List (Pid × Nat)} {st st' : List RemoteNUMA × List VMResult}
    {new : List VMResult} (h : Adds vms st st' new) {pid : Pid} (hnot : pid ∉ vms.map (·.1)) :
    sentOf new pid = 0 :=
  OverCommit.sentOf_of_notMem fun hmem => hnot (h.pids.subset hmem)

section Strategy

variable {o : Orders} {calculateRemainingQuota : VMInfo → Nat} {vmInfos : Map Pid VMInfo}

/-! ### Machines that have remote memory -/

variable (vmInfos) in
theorem orderly_allocateMemoryToRemoteUsedVm :
    Orderly (allocateMemoryToRemoteUsedVm vmInfos) where
  distinct vm hdistinct := by
    rw [Distinct, allocateMemoryToRemoteUsedVm, ids_allocateUsed]
    exact hdistinct
  balance vm hdistinct := balance_allocateUsed hdistinct
  pids {numas} vm hdistinct := by
    rw [allocateMemoryToRemoteUsedVm]
    obtain ⟨_, hnone | hone⟩ := allocateUsed_of_distinct vm (ownNuma vmInfos vm.1)
      (ratioOf vmInfos vm.1) hdistinct
    · exact hnone.1 ▸ List.nil_sublist _
    · exact hone ▸ .refl _

theorem sentOf_allocateMemoryToRemoteUsedVm {numas : List RemoteNUMA} (vm : Pid × Nat)
    (hdistinct : Distinct numas) (pid : Pid) :
    sentOf (allocateMemoryToRemoteUsedVm vmInfos numas vm).2 pid =
      if vm.1 = pid then min vm.2 (stock numas (ownNuma vmInfos vm.1)) else 0 := by
  rw [allocateMemoryToRemoteUsedVm]
  obtain ⟨_, hnone | hone⟩ := allocateUsed_of_distinct vm (ownNuma vmInfos vm.1)
    (ratioOf vmInfos vm.1) hdistinct
  · rw [hnone.2, ite_self]
    exact congrArg (sentOf · pid) hnone.1
  · exact congrArg (sentOf · pid) hone

/-- **Each numa serves its own machines.** -/
theorem sentOf_eachUsed (vms : List (Pid × Nat)) (st : List RemoteNUMA × List VMResult)
    (hst : Distinct st.1) (pid : Pid) :
    sentOf (eachVm (allocateMemoryToRemoteUsedVm vmInfos) vms st).2 pid = sentOf st.2 pid +
      Ration.share (stock st.1 (ownNuma vmInfos pid))
        (vms.filter fun vm => ownNuma vmInfos vm.1 = ownNuma vmInfos pid) pid := by
  induction vms generalizing st with
  | nil => rfl
  | cons vm vms ih =>
    have hstock := (allocateUsed_of_distinct vm (ownNuma vmInfos vm.1) (ratioOf vmInfos vm.1)
      hst).1 (ownNuma vmInfos pid)
    have hrest := ih (_, st.2 ++ (allocateMemoryToRemoteUsedVm vmInfos st.1 vm).2)
      ((orderly_allocateMemoryToRemoteUsedVm vmInfos).distinct vm hst)
    rw [eachVm_cons, hrest, sentOf_append, sentOf_allocateMemoryToRemoteUsedVm vm hst,
      List.filter_cons, Nat.add_assoc]
    refine congrArg (sentOf st.2 pid + ·) ?_
    refine (congrArg (_ + Ration.share · _ pid) hstock).trans ?_
    by_cases hown : ownNuma vmInfos vm.1 = ownNuma vmInfos pid
    · rw [if_pos hown, if_pos (decide_eq_true hown), Ration.share_cons, hown]
    · have hpid : vm.1 ≠ pid := fun h => hown (congrArg _ h)
      rw [if_neg hown, if_neg hpid, if_neg (by simpa using hown), Nat.zero_add, Nat.sub_zero]

theorem own_of_mem_eachUsed {vms : List (Pid × Nat)} {st : List RemoteNUMA × List VMResult}
    (hst : Distinct st.1) (hown : ∀ r ∈ st.2, r.remoteNumaId = ownNuma vmInfos r.pid) :
    ∀ r ∈ (eachVm (allocateMemoryToRemoteUsedVm vmInfos) vms st).2,
      r.remoteNumaId = ownNuma vmInfos r.pid := by
  induction vms generalizing st with
  | nil => exact hown
  | cons vm vms ih =>
    refine ih ((orderly_allocateMemoryToRemoteUsedVm vmInfos).distinct vm hst) fun r hr => ?_
    rcases List.mem_append.1 hr with hr | hr
    · exact hown r hr
    · rw [allocateMemoryToRemoteUsedVm] at hr
      obtain ⟨_, hnone | hone⟩ := allocateUsed_of_distinct vm (ownNuma vmInfos vm.1)
        (ratioOf vmInfos vm.1) hst
      · change r ∈ (allocateUsed vm (ownNuma vmInfos vm.1) (ratioOf vmInfos vm.1) st.1).2 at hr
        rw [hnone.1] at hr
        cases hr
      · change r ∈ (allocateUsed vm (ownNuma vmInfos vm.1) (ratioOf vmInfos vm.1) st.1).2 at hr
        rw [hone, List.mem_singleton] at hr
        rw [hr]

variable (o calculateRemainingQuota vmInfos) in
/-- The machines that have remote memory on one of the numas, the largest quotas first. -/
def turnsBorrowed (free : List RemoteNUMA) : List (Pid × Nat) :=
  o.vms.run (filterBorrowedVms o calculateRemainingQuota (vmInfosMigrated vmInfos) free)

theorem mem_turnsBorrowed {free : List RemoteNUMA} {vm : Pid × Nat} :
    vm ∈ turnsBorrowed o calculateRemainingQuota vmInfos free ↔
      ∃ info, vmInfos.lookup vm.1 = some info ∧ info.totalRemoteUsedMem ≠ 0 ∧
        info.remoteNumaId ∈ free.map (·.remoteNumaId) ∧ vm.2 = calculateRemainingQuota info := by
  rw [turnsBorrowed, (o.vms.perm _).mem_iff, filterBorrowedVms, List.mem_flatMap]
  constructor
  · rintro ⟨⟨pid, info⟩, hmem, hvm⟩
    obtain ⟨numa, hnuma, rfl⟩ := List.mem_map.1 hvm
    rw [List.mem_filter, decide_eq_true_eq] at hnuma
    rw [Map.Iteration.mem_run, vmInfosMigrated, Map.lookup_filter, decide_eq_true_eq] at hmem
    exact ⟨info, hmem.1, hmem.2, List.mem_map.2 ⟨numa, hnuma.1, hnuma.2.symm⟩, rfl⟩
  · rintro ⟨info, hlookup, hremote, hfree, hquota⟩
    obtain ⟨numa, hnuma, hown⟩ := List.mem_map.1 hfree
    refine ⟨(vm.1, info), ?_, List.mem_map.2 ⟨numa, ?_, Prod.ext rfl hquota.symm⟩⟩
    · rw [Map.Iteration.mem_run, vmInfosMigrated, Map.lookup_filter, decide_eq_true_eq]
      exact ⟨hlookup, hremote⟩
    · exact List.mem_filter.2 ⟨hnuma, decide_eq_true hown.symm⟩

/-- A numa that does not come twice is met once. -/
theorem Distinct.nodup_entries {free : List RemoteNUMA} (hdistinct : Distinct free) (own : Nat)
    {α : Type} (a : α) :
    ((free.filter fun numa => own = numa.remoteNumaId).map fun _ => a).Nodup := by
  have hnodup : ((free.filter fun numa => own = numa.remoteNumaId).map
      (·.remoteNumaId)).Nodup := (List.filter_sublist.map _).nodup hdistinct
  have hall : ∀ numa ∈ free.filter (fun numa => own = numa.remoteNumaId),
      own = numa.remoteNumaId := fun numa h => of_decide_eq_true (List.mem_filter.1 h).2
  generalize free.filter (fun numa => own = numa.remoteNumaId) = entries at hnodup hall
  rcases entries with _ | ⟨numa, _ | ⟨numa', l⟩⟩
  · exact List.nodup_nil
  · exact List.nodup_singleton _
  · have heq : numa.remoteNumaId = numa'.remoteNumaId :=
      (hall numa (by simp)).symm.trans (hall numa' (by simp))
    simp [heq] at hnodup

variable (o calculateRemainingQuota vmInfos) in
theorem nodup_turnsBorrowed {free : List RemoteNUMA} (hdistinct : Distinct free) :
    ((turnsBorrowed o calculateRemainingQuota vmInfos free).map (·.1)).Nodup := by
  rw [turnsBorrowed, ((o.vms.perm _).map _).nodup_iff, filterBorrowedVms, List.map_flatMap,
    List.nodup_flatMap]
  constructor
  · rintro ⟨pid, info⟩ _
    rw [List.map_map]
    exact hdistinct.nodup_entries _ pid
  · refine (List.pairwise_map.1 (Map.Iteration.nodup_run _)).imp ?_
    intro e e' hne x hx hx'
    dsimp only at hx hx'
    rw [List.map_map, List.mem_map] at hx hx'
    obtain ⟨_, _, rfl⟩ := hx
    obtain ⟨_, _, heq⟩ := hx'
    exact hne heq.symm

/-! ### The other machines -/

variable (o vmInfos) in
/-- A machine takes from one entry, the largest. -/
theorem allocateMemoryToRemoteNoUsedVm_eq (numas : List RemoteNUMA) (vm : Pid × Nat) :
    (o.remoteNUMAs.run numas = [] ∧ allocateMemoryToRemoteNoUsedVm o vmInfos numas vm = ([], [])) ∨
    ∃ numa rest given, o.remoteNUMAs.run numas = numa :: rest ∧
      allocateMemoryToRemoteNoUsedVm o vmInfos numas vm =
        ({ numa with borrowSize := numa.borrowSize - vm.2 } :: rest, given) ∧
      (given = [] ∧ min vm.2 numa.borrowSize = 0 ∨
        given = [⟨vm.1, numa.remoteNumaId, min vm.2 numa.borrowSize, ratioOf vmInfos vm.1⟩]) := by
  rw [allocateMemoryToRemoteNoUsedVm]
  rcases o.remoteNUMAs.run numas with _ | ⟨numa, rest⟩
  · exact .inl ⟨rfl, rfl⟩
  · refine .inr ?_
    dsimp only
    split_ifs with hfits hpos
    · exact ⟨numa, rest, _, rfl, rfl, .inr (by rw [Nat.min_eq_left hfits])⟩
    · have hless : numa.borrowSize ≤ vm.2 := Nat.le_of_not_le hfits
      refine ⟨numa, rest, _, rfl, ?_, .inr (by rw [Nat.min_eq_right hless])⟩
      rw [Nat.sub_eq_zero_of_le hless]
    · have hzero : numa.borrowSize = 0 := Nat.eq_zero_of_not_pos hpos
      refine ⟨numa, rest, _, rfl, ?_, .inl ⟨rfl, by rw [hzero, Nat.min_zero]⟩⟩
      rw [hzero, Nat.zero_sub, ← hzero]

variable (o vmInfos) in
theorem orderly_allocateMemoryToRemoteNoUsedVm :
    Orderly (allocateMemoryToRemoteNoUsedVm o vmInfos) where
  distinct {numas} vm hdistinct := by
    have hperm := hdistinct.perm (o.remoteNUMAs.perm numas).symm
    obtain ⟨_, heq⟩ | ⟨numa, rest, given, hsorted, heq, _⟩ :=
      allocateMemoryToRemoteNoUsedVm_eq o vmInfos numas vm
    · rw [heq]
      exact List.nodup_nil
    · rw [heq]
      rw [hsorted] at hperm
      exact hperm
  balance {numas} vm _ k := by
    rw [← stock_perm (o.remoteNUMAs.perm numas)]
    obtain ⟨hnil, heq⟩ | ⟨numa, rest, given, hsorted, heq, hnone | hone⟩ :=
      allocateMemoryToRemoteNoUsedVm_eq o vmInfos numas vm
    · rw [heq, hnil]
      rfl
    · rw [heq, hsorted, hnone.1, stock_cons, stock_cons]
      have hmin := hnone.2
      change 0 + ((if numa.remoteNumaId = k then numa.borrowSize - vm.2 else 0) + _) = _
      split
      · omega
      · omega
    · rw [heq, hsorted, hone, sentTo_cons, stock_cons, stock_cons]
      change (if numa.remoteNumaId = k then min vm.2 numa.borrowSize else 0) + 0 +
        ((if numa.remoteNumaId = k then numa.borrowSize - vm.2 else 0) + _) = _
      split
      · omega
      · omega
  pids {numas} vm _ := by
    obtain ⟨_, heq⟩ | ⟨numa, rest, given, _, heq, hnone | hone⟩ :=
      allocateMemoryToRemoteNoUsedVm_eq o vmInfos numas vm
    · rw [heq]
      exact List.nil_sublist _
    · rw [heq, hnone.1]
      exact List.nil_sublist _
    · rw [heq, hone]
      exact .refl _

variable (o vmInfos) in
/-- What a machine takes is the most there is, unless its quota is less. -/
theorem allocateMemoryToRemoteNoUsedVm_largest (numas : List RemoteNUMA) (vm : Pid × Nat) :
    sentOf (allocateMemoryToRemoteNoUsedVm o vmInfos numas vm).2 vm.1 ≤ vm.2 ∧
    (sentOf (allocateMemoryToRemoteNoUsedVm o vmInfos numas vm).2 vm.1 < vm.2 →
      ∀ numa ∈ (allocateMemoryToRemoteNoUsedVm o vmInfos numas vm).1,
        numa.borrowSize ≤ sentOf (allocateMemoryToRemoteNoUsedVm o vmInfos numas vm).2 vm.1) ∧
    ∀ bound, (∀ numa ∈ numas, numa.borrowSize ≤ bound) →
      ∀ numa ∈ (allocateMemoryToRemoteNoUsedVm o vmInfos numas vm).1,
        numa.borrowSize ≤ bound := by
  obtain ⟨_, heq⟩ | ⟨numa, rest, given, hsorted, heq, hgiven⟩ :=
    allocateMemoryToRemoteNoUsedVm_eq o vmInfos numas vm
  · rw [heq]
    exact ⟨Nat.zero_le _, fun _ _ h => (List.not_mem_nil h).elim,
      fun _ _ _ h => (List.not_mem_nil h).elim⟩
  · have hsent : sentOf given vm.1 = min vm.2 numa.borrowSize := by
      rcases hgiven with ⟨rfl, hzero⟩ | rfl
      · exact hzero.symm
      · exact (sentOf_cons ..).trans (if_pos rfl)
    have hle : ∀ numa' ∈ rest, numa'.borrowSize ≤ numa.borrowSize := by
      have hpairwise := o.remoteNUMAs.sorted numas
      rw [hsorted] at hpairwise
      exact (List.pairwise_cons.1 hpairwise).1
    rw [heq]
    dsimp only
    rw [hsent]
    refine ⟨Nat.min_le_left _ _, fun hless => ?_, fun bound hbound => ?_⟩
    · refine List.forall_mem_cons.2 ⟨?_, fun numa' hmem => ?_⟩
      · dsimp only
        omega
      · have := hle numa' hmem
        omega
    · have hmem (numa' : RemoteNUMA) (h : numa' ∈ numa :: rest) : numa'.borrowSize ≤ bound :=
        hbound numa' ((o.remoteNUMAs.perm numas).mem_iff.1 (hsorted ▸ h))
      refine List.forall_mem_cons.2 ⟨?_, fun numa' h => hmem numa' (List.mem_cons_of_mem _ h)⟩
      exact (Nat.sub_le _ _).trans (hmem numa List.mem_cons_self)

variable (o vmInfos) in
/-- **Of these machines, who gets too little has met no larger numa.** -/
theorem eachNoUsed_largest (vms : List (Pid × Nat)) (hnodup : (vms.map (·.1)).Nodup)
    (st : List RemoteNUMA × List VMResult) (hst : Distinct st.1)
    (hfresh : ∀ vm ∈ vms, sentOf st.2 vm.1 = 0) :
    (∀ bound, (∀ numa ∈ st.1, numa.borrowSize ≤ bound) →
      ∀ numa ∈ (eachVm (allocateMemoryToRemoteNoUsedVm o vmInfos) vms st).1,
        numa.borrowSize ≤ bound) ∧
    ∀ vm ∈ vms,
      sentOf (eachVm (allocateMemoryToRemoteNoUsedVm o vmInfos) vms st).2 vm.1 ≤ vm.2 ∧
      (sentOf (eachVm (allocateMemoryToRemoteNoUsedVm o vmInfos) vms st).2 vm.1 < vm.2 →
        ∀ numa ∈ (eachVm (allocateMemoryToRemoteNoUsedVm o vmInfos) vms st).1,
          numa.borrowSize ≤
            sentOf (eachVm (allocateMemoryToRemoteNoUsedVm o vmInfos) vms st).2 vm.1) := by
  induction vms generalizing st with
  | nil => exact ⟨fun _ h => h, fun _ h => (List.not_mem_nil h).elim⟩
  | cons vm vms ih =>
    have horderly := orderly_allocateMemoryToRemoteNoUsedVm o vmInfos
    obtain ⟨hnot, hnodup⟩ := List.nodup_cons.1 hnodup
    obtain ⟨hzero, hfresh⟩ := List.forall_mem_cons.1 hfresh
    obtain ⟨hquota, hlargest, hkept⟩ :=
      allocateMemoryToRemoteNoUsedVm_largest o vmInfos st.1 vm
    set next := allocateMemoryToRemoteNoUsedVm o vmInfos st.1 vm with hnext
    have hdistinct : Distinct next.1 := horderly.distinct vm hst
    have hfirst : sentOf (st.2 ++ next.2) vm.1 = sentOf next.2 vm.1 := by
      rw [sentOf_append, hzero, Nat.zero_add]
    have hothers : ∀ vm' ∈ vms, sentOf (st.2 ++ next.2) vm'.1 = 0 := by
      intro vm' hmem
      rw [sentOf_append, hfresh vm' hmem, Nat.zero_add]
      refine sentOf_of_notMem fun h => hnot ?_
      have hpid : vm'.1 = vm.1 := List.mem_singleton.1 ((horderly.pids vm hst).subset h)
      exact List.mem_map.2 ⟨vm', hmem, hpid⟩
    obtain ⟨hbound, htail⟩ := ih hnodup (next.1, st.2 ++ next.2) hdistinct hothers
    have hhead : sentOf (eachVm (allocateMemoryToRemoteNoUsedVm o vmInfos) vms
        (next.1, st.2 ++ next.2)).2 vm.1 = sentOf next.2 vm.1 := by
      obtain ⟨new, hnew⟩ := horderly.adds vms (next.1, st.2 ++ next.2) hdistinct
      rw [hnew.results, sentOf_append, hnew.sentOf_of_notMem hnot, Nat.add_zero]
      exact hfirst
    rw [eachVm_cons]
    refine ⟨fun bound h => hbound bound (hkept bound h), ?_⟩
    refine List.forall_mem_cons.2 ⟨?_, htail⟩
    rw [hhead]
    exact ⟨hquota, fun hless => hbound _ (hlargest hless)⟩

theorem mem_filterUnborrowedVms {vm : Pid × Nat} :
    vm ∈ o.vms.run (filterUnborrowedVms o calculateRemainingQuota vmInfos) ↔
      ∃ info, vmInfos.lookup vm.1 = some info ∧ info.totalRemoteUsedMem = 0 ∧
        info.remoteNumaId = 0 ∧ vm.2 = calculateRemainingQuota info := by
  rw [(o.vms.perm _).mem_iff, filterUnborrowedVms, List.mem_map]
  constructor
  · rintro ⟨⟨pid, info⟩, hmem, rfl⟩
    rw [List.mem_filter, Map.Iteration.mem_run, Bool.and_eq_true, decide_eq_true_eq,
      decide_eq_true_eq] at hmem
    exact ⟨info, hmem.1, hmem.2.1, hmem.2.2, rfl⟩
  · rintro ⟨info, hlookup, hremote, hown, hquota⟩
    refine ⟨(vm.1, info), ?_, Prod.ext rfl hquota.symm⟩
    rw [List.mem_filter, Map.Iteration.mem_run, Bool.and_eq_true, decide_eq_true_eq,
      decide_eq_true_eq]
    exact ⟨hlookup, hremote, hown⟩

theorem nodup_filterUnborrowedVms :
    ((o.vms.run (filterUnborrowedVms o calculateRemainingQuota vmInfos)).map (·.1)).Nodup := by
  rw [((o.vms.perm _).map _).nodup_iff, filterUnborrowedVms, List.map_map]
  exact (List.filter_sublist.map _).nodup o.vmInfos.nodup_run

/-! ### Both -/

section Both

variable {free : List RemoteNUMA}

/-- What the machines on their own numas take. -/
structure FirstPhase (o : Orders) (calculateRemainingQuota : VMInfo → Nat)
    (vmInfos : Map Pid VMInfo) (free : List RemoteNUMA) (st : List RemoteNUMA × List VMResult) :
    Prop where
  adds : Adds (turnsBorrowed o calculateRemainingQuota vmInfos free) (free, []) st st.2
  sent : ∀ pid, sentOf st.2 pid = Ration.share (stock free (ownNuma vmInfos pid))
    ((turnsBorrowed o calculateRemainingQuota vmInfos free).filter fun vm =>
      ownNuma vmInfos vm.1 = ownNuma vmInfos pid) pid
  own : ∀ r ∈ st.2, r.remoteNumaId = ownNuma vmInfos r.pid

theorem firstPhase (hdistinct : Distinct free) :
    FirstPhase o calculateRemainingQuota vmInfos free
      (borrowedAllocated o calculateRemainingQuota vmInfos free) where
  adds := by
    obtain ⟨new, hnew⟩ := (orderly_allocateMemoryToRemoteUsedVm vmInfos).adds
      ((turnsBorrowed o calculateRemainingQuota vmInfos free).filter fun vm => vm.2 ≠ 0)
      (free, []) hdistinct
    have heq : (borrowedAllocated o calculateRemainingQuota vmInfos free).2 = new :=
      hnew.results
    rw [heq]
    exact ⟨heq, hnew.distinct, hnew.balance,
      hnew.pids.trans (List.filter_sublist.map _)⟩
  sent pid := by
    refine (sentOf_eachUsed _ _ hdistinct pid).trans ?_
    refine (Nat.zero_add _).trans ?_
    rw [List.filter_filter]
    simp only [Bool.and_comm]
    rw [← List.filter_filter, Ration.share_filter_ne_zero]
    rfl
  own := own_of_mem_eachUsed hdistinct fun r hr => (List.not_mem_nil hr).elim

/-- What the other machines take of what is left. -/
theorem secondPhase {st : List RemoteNUMA × List VMResult} (hst : Distinct st.1)
    (hfresh : ∀ vm ∈ o.vms.run (filterUnborrowedVms o calculateRemainingQuota vmInfos),
      sentOf st.2 vm.1 = 0) :
    let vms := o.vms.run (filterUnborrowedVms o calculateRemainingQuota vmInfos)
    let out := if finishBorrowedMemAllocation st.1 then st
      else eachVm (allocateMemoryToRemoteNoUsedVm o vmInfos) vms st
    ∃ new, Adds vms st out new ∧ ∀ vm ∈ vms, sentOf new vm.1 ≤ vm.2 ∧
      (sentOf new vm.1 < vm.2 → ∀ k, stock out.1 k ≤ sentOf new vm.1) := by
  dsimp only
  split
  next hfinish =>
    have hempty : ∀ numa ∈ st.1, numa.borrowSize ≤ 0 := by
      simpa [finishBorrowedMemAllocation] using hfinish
    exact ⟨[], ⟨(List.append_nil _).symm, hst, fun k => Nat.zero_add _, List.nil_sublist _⟩,
      fun vm _ => ⟨Nat.zero_le _, fun _ k => hst.stock_le hempty k⟩⟩
  next =>
    obtain ⟨new, hnew⟩ := (orderly_allocateMemoryToRemoteNoUsedVm o vmInfos).adds
      (o.vms.run (filterUnborrowedVms o calculateRemainingQuota vmInfos)) st hst
    refine ⟨new, hnew, fun vm hvm => ?_⟩
    have hserved :=
      (eachNoUsed_largest o vmInfos _ nodup_filterUnborrowedVms st hst hfresh).2 vm hvm
    rw [hnew.results, sentOf_append, hfresh vm hvm, Nat.zero_add] at hserved
    exact ⟨hserved.1, fun hless k => hnew.distinct.stock_le (hserved.2 hless) k⟩

theorem turn_turnsBorrowed {st : List RemoteNUMA × List VMResult} (hdistinct : Distinct free)
    (h : FirstPhase o calculateRemainingQuota vmInfos free st)
    {before after : List (Pid × Nat)} {vm : Pid × Nat}
    (heq : turnsBorrowed o calculateRemainingQuota vmInfos free = before ++ vm :: after) :
    sentOf st.2 vm.1 = min vm.2 (stock free (ownNuma vmInfos vm.1) -
      ((before.filter fun a => ownNuma vmInfos a.1 = ownNuma vmInfos vm.1).map (·.2)).sum) := by
  have hnodup := nodup_turnsBorrowed o calculateRemainingQuota vmInfos hdistinct
  have hsent := h.sent vm.1
  rw [heq, List.filter_append, List.filter_cons_of_pos (by simp)] at hsent
  rw [heq] at hnodup
  refine hsent.trans (Ration.share_turn ?_)
  have hsub : ((before.filter fun a => ownNuma vmInfos a.1 = ownNuma vmInfos vm.1) ++
      vm :: after.filter fun a => ownNuma vmInfos a.1 = ownNuma vmInfos vm.1).Sublist
      (before ++ vm :: after) :=
    List.filter_sublist.append (List.filter_sublist.cons_cons vm)
  exact (hsub.map _).nodup hnodup

/-- **Memory stays where the machine is.** -/
theorem onOneNuma_singleNumaVmAllocation (hdistinct : Distinct free) :
    OnOneNuma calculateRemainingQuota vmInfos free
      (singleNumaVmAllocation o calculateRemainingQuota vmInfos free).1
      (singleNumaVmAllocation o calculateRemainingQuota vmInfos free).2 := by
  set st := borrowedAllocated o calculateRemainingQuota vmInfos free with hst
  have hfirst : FirstPhase o calculateRemainingQuota vmInfos free st := firstPhase hdistinct
  have hmigrated {pid : Pid} (h : pid ∈ (turnsBorrowed o calculateRemainingQuota vmInfos free).map
      (·.1)) : migrated vmInfos pid := by
    obtain ⟨vm, hvm, rfl⟩ := List.mem_map.1 h
    obtain ⟨info, hlookup, hremote, _⟩ := mem_turnsBorrowed.1 hvm
    exact ⟨info, hlookup, hremote⟩
  have hfresh {pid : Pid} (h : ¬migrated vmInfos pid) : sentOf st.2 pid = 0 :=
    hfirst.adds.sentOf_of_notMem fun hmem => h (hmigrated hmem)
  have hnot {pid : Pid} (h : pid ∈ (o.vms.run (filterUnborrowedVms o calculateRemainingQuota
      vmInfos)).map (·.1)) : ¬migrated vmInfos pid := by
    obtain ⟨vm, hvm, rfl⟩ := List.mem_map.1 h
    obtain ⟨info, hlookup, hzero, _⟩ := mem_filterUnborrowedVms.1 hvm
    rintro ⟨info', hlookup', hremote⟩
    obtain rfl : info = info' := Option.some.inj (hlookup.symm.trans hlookup')
    exact hremote hzero
  obtain ⟨new, hsecond, hserved⟩ := secondPhase hfirst.adds.distinct
    fun vm hvm => hfresh (hnot (List.mem_map_of_mem hvm))
  have hresults : (singleNumaVmAllocation o calculateRemainingQuota vmInfos free).2 =
      st.2 ++ new := hsecond.results
  have hsent (pid : Pid) : sentOf (singleNumaVmAllocation o calculateRemainingQuota vmInfos free).2
      pid = sentOf st.2 pid + sentOf new pid := by
    rw [hresults, sentOf_append]
  have hnew {pid : Pid} (h : migrated vmInfos pid) : sentOf new pid = 0 :=
    hsecond.sentOf_of_notMem fun hmem => hnot hmem h
  refine ⟨fun k => ?_, ?_, fun pid info hlookup => ?_, ?_, ?_, ?_⟩
  · have hstart := hfirst.adds.balance k
    have hend : sentTo new k + stock (singleNumaVmAllocation o calculateRemainingQuota vmInfos
        free).1 k = stock st.1 k := hsecond.balance k
    rw [hresults, sentTo_append]
    dsimp only at hstart
    omega
  · rw [hresults, List.map_append]
    refine (hfirst.adds.pids.nodup (nodup_turnsBorrowed _ _ _ hdistinct)).append
      (hsecond.pids.nodup nodup_filterUnborrowedVms) ?_
    exact fun pid h h' => hnot (hsecond.pids.subset h') (hmigrated (hfirst.adds.pids.subset h))
  · rw [hsent]
    by_cases hremote : info.totalRemoteUsedMem = 0
    · have hzero : ¬migrated vmInfos pid := by
        rintro ⟨info', hlookup', hremote'⟩
        obtain rfl : info = info' := Option.some.inj (hlookup.symm.trans hlookup')
        exact hremote' hremote
      rw [hfresh hzero, Nat.zero_add]
      by_cases hmem : pid ∈ (o.vms.run (filterUnborrowedVms o calculateRemainingQuota
          vmInfos)).map (·.1)
      · obtain ⟨vm, hvm, rfl⟩ := List.mem_map.1 hmem
        obtain ⟨info', hlookup', _, _, hquota⟩ := mem_filterUnborrowedVms.1 hvm
        obtain rfl : info = info' := Option.some.inj (hlookup.symm.trans hlookup')
        exact hquota ▸ (hserved vm hvm).1
      · rw [hsecond.sentOf_of_notMem hmem]
        exact Nat.zero_le _
    · rw [hnew ⟨info, hlookup, hremote⟩, Nat.add_zero]
      by_cases hmem : pid ∈ (turnsBorrowed o calculateRemainingQuota vmInfos free).map (·.1)
      · obtain ⟨vm, hvm, rfl⟩ := List.mem_map.1 hmem
        obtain ⟨info', hlookup', _, _, hquota⟩ := mem_turnsBorrowed.1 hvm
        obtain rfl : info = info' := Option.some.inj (hlookup.symm.trans hlookup')
        obtain ⟨before, after, heq⟩ := List.append_of_mem hvm
        rw [turn_turnsBorrowed hdistinct hfirst heq, ← hquota]
        exact Nat.min_le_left _ _
      · rw [hfirst.adds.sentOf_of_notMem hmem]
        exact Nat.zero_le _
  · intro r hr
    rw [hresults] at hr
    rcases List.mem_append.1 hr with hr | hr
    · obtain ⟨info, hlookup, hremote⟩ :=
        hmigrated (hfirst.adds.pids.subset (List.mem_map_of_mem hr))
      refine ⟨info, hlookup, ?_⟩
      rw [if_neg hremote, hfirst.own r hr, ownNuma, hlookup]
      rfl
    · obtain ⟨vm, hvm, hpid⟩ := List.mem_map.1 (hsecond.pids.subset (List.mem_map_of_mem hr))
      obtain ⟨info, hlookup, hzero, hown, _⟩ := mem_filterUnborrowedVms.1 hvm
      exact ⟨info, hpid ▸ hlookup, (if_pos hzero).symm ▸ hown⟩
  · refine ⟨turnsBorrowed o calculateRemainingQuota vmInfos free, fun _ => mem_turnsBorrowed,
      nodup_turnsBorrowed _ _ _ hdistinct, o.vms.sorted _, ?_⟩
    intro before vm after heq
    have hmem : vm.1 ∈ (turnsBorrowed o calculateRemainingQuota vmInfos free).map (·.1) := by
      rw [heq]
      exact List.mem_map_of_mem (by simp)
    rw [hsent, hnew (hmigrated hmem), Nat.add_zero]
    exact turn_turnsBorrowed hdistinct hfirst heq
  · intro pid info hlookup hzero hown hless k
    have hvm : (pid, calculateRemainingQuota info) ∈
        o.vms.run (filterUnborrowedVms o calculateRemainingQuota vmInfos) :=
      mem_filterUnborrowedVms.2 ⟨info, hlookup, hzero, hown, rfl⟩
    have hstart : sentOf st.2 pid = 0 := hfresh (hnot (List.mem_map_of_mem hvm))
    rw [hsent, hstart, Nat.zero_add] at hless ⊢
    exact (hserved _ hvm).2 hless k

end Both

/-- **With one numa for a machine, the decision leaves memory where the machine is**: the entries
are sums of what was borrowed, numa by numa, and what is returned is what the machines get, or
nothing if something is left of several numas. -/
theorem processMemMigrateRemoteId_singleNuma {conf : MpConfiguration} {request : Request}
    {replies : Replies} {results : List MemMigrateResult} {borrowIds : List String}
    (hsingle : conf.multi = false)
    (hinfo : request.memBorrowInfo = genNumaCurBorrowSizes o request.borrowRecord borrowIds)
    (h : processMemMigrateRemoteId o calculateRemainingQuota conf request replies =
      some results) :
    ∃ vmInfos free left given,
      collectedVmInfos o request.vmParams replies = some vmInfos ∧
      (∀ k, stock free k = Grouping.summed ((request.borrowRecord.filter fun r =>
        r.name ∈ borrowIds).map fun r => (toUInt16 r.borrowRemoteNuma, r.size)) k % 2 ^ 64) ∧
      OnOneNuma calculateRemainingQuota vmInfos free left given ∧
      results = if held left % 2 ^ 64 ≠ 0 ∧ isOnlyRemoteNumaId request.borrowRecord = false then []
        else fillMemMigrateResult given := by
  rw [processMemMigrateRemoteId] at h
  obtain ⟨vmInfos, hvmInfos, h⟩ := Option.bind_eq_some_iff.1 h
  rw [execute, hsingle, if_neg Bool.false_ne_true, hinfo] at h
  dsimp only at h
  split at h
  next => cases h
  next =>
    refine ⟨vmInfos, _, _, _, hvmInfos, stock_genNumaCurBorrowSizes o request.borrowRecord
      borrowIds, onOneNuma_singleNumaVmAllocation
        (o := o) (distinct_genNumaCurBorrowSizes o request.borrowRecord borrowIds), ?_⟩
    rw [Option.elim_some, Option.map_some, Bool.not_false, Bool.true_and] at h
    split at h
    next hleft =>
      rw [Bool.and_eq_true, decide_eq_true_eq, Bool.not_eq_true'] at hleft
      rw [← Option.some.inj h]
      exact (if_pos hleft).symm
    next hleft =>
      rw [Bool.and_eq_true, decide_eq_true_eq, Bool.not_eq_true'] at hleft
      rw [← Option.some.inj h]
      exact (if_neg hleft).symm

end Strategy

/-! ### A machine at home and one that is new -/

def homeAndNew : Request where
  vmParams := [⟨1, 50⟩, ⟨2, 25⟩]
  memBorrowInfo := genNumaCurBorrowSizes default
    [{ name := "a", size := 600, borrowLocalNuma := 0, borrowRemoteNuma := 5 },
      { name := "b", size := 900, borrowLocalNuma := 0, borrowRemoteNuma := 4 },
      { name := "c", size := 700, borrowLocalNuma := 0, borrowRemoteNuma := 4 }] ["a", "b", "c"]
  borrowRecord :=
    [{ name := "a", size := 600, borrowLocalNuma := 0, borrowRemoteNuma := 5 },
      { name := "b", size := 900, borrowLocalNuma := 0, borrowRemoteNuma := 4 },
      { name := "c", size := 700, borrowLocalNuma := 0, borrowRemoteNuma := 4 }]

/-- One machine is on numa 5 and gets all of it, though its quota is more. The other one gets all of
the larger numa 4. -/
theorem processMemMigrateRemoteId_singleNuma_homeAndNew :
    ∃ vmInfos free left given,
      collectedVmInfos default homeAndNew.vmParams twoMachinesReplies = some vmInfos ∧
      (∀ k, stock free k = Grouping.summed ((homeAndNew.borrowRecord.filter fun r =>
        r.name ∈ ["a", "b", "c"]).map fun r => (toUInt16 r.borrowRemoteNuma, r.size)) k %
          2 ^ 64) ∧
      OnOneNuma exactQuota vmInfos free left given ∧
      [⟨2, 5, 600, 25⟩, ⟨1, 4, 1600, 50⟩] =
        if held left % 2 ^ 64 ≠ 0 ∧ isOnlyRemoteNumaId homeAndNew.borrowRecord = false then []
        else fillMemMigrateResult given :=
  processMemMigrateRemoteId_singleNuma
    (show MpConfiguration.multi ⟨.CONTAINER_SCENE, true⟩ = false from rfl) rfl (by decide +kernel)

end OverCommit

end UbsEngine
