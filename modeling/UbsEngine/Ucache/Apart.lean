import UbsEngine.Ucache.Rounds

/-!
# No node lends and borrows

A plan is made for the topology of its round, and can be executed from there. While the plan is
executed, the loans of the rack are those that the actions have led to, and every memory that the
master's topology has is one of the rack (`UbsEngine.Ucache.Executing`). An action that succeeds keeps
this; one that fails ends the round, with its effect or without it. So the records of the rack stay
as the plan wants them, from round to round.
-/

namespace UbsEngine

namespace Ucache

open MemBorrowTopo Lending

/-! ### The records of the rack -/

/-- The records of loans of one size: a borrower knows a name once, and no node lends and borrows. -/
structure Sane (b : BorrowSize) (records : List BorrowMemInfo) : Prop where
  names : (records.map fun info => (info.name, info.borrowNodeId)).Nodup
  size : ∀ info ∈ records, info.size = b.borrowSize ∧ info.lentNumaInfos ≠ []
  apart : Apart records

section Records

variable {b : BorrowSize} {records records' : List BorrowMemInfo} {info : BorrowMemInfo}
  {src dst name : String}

theorem Sane.subperm (h : Sane b records) (hsub : records'.Subperm records) : Sane b records' := by
  refine ⟨?_, fun info hinfo => h.size info (hsub.subset hinfo), fun info hinfo info' hinfo' =>
    h.apart info (hsub.subset hinfo) info' (hsub.subset hinfo')⟩
  obtain ⟨l, hperm, hl⟩ := hsub
  exact (hperm.map _).nodup_iff.1 ((hl.map _).nodup h.names)

theorem numaDelete_subperm (name borrowNodeId : String) (records : List BorrowMemInfo) :
    (numaDelete name borrowNodeId records).Subperm records := List.eraseP_sublist.subperm

theorem Sane.create (h : Sane b records) (hcreate : numaCreate info records = some records')
    (hsize : info.size = b.borrowSize) (hnuma : info.lentNumaInfos ≠ [])
    (hne : info.lentNodeId ≠ info.borrowNodeId)
    (hlender : ∀ info' ∈ records, info'.borrowNodeId ≠ info.lentNodeId)
    (hborrower : ∀ info' ∈ records, info'.lentNodeId ≠ info.borrowNodeId) : Sane b records' := by
  unfold numaCreate at hcreate
  split_ifs at hcreate with hany
  obtain rfl := Option.some.inj hcreate
  refine ⟨?_, ?_, ?_⟩
  · rw [List.map_append, List.map_singleton, List.nodup_append]
    refine ⟨h.names, List.nodup_singleton _, fun key hkey key' hkey' heq => hany ?_⟩
    obtain ⟨info', hinfo', rfl⟩ := List.mem_map.1 hkey
    rw [List.mem_singleton.1 hkey', Prod.mk.injEq] at heq
    refine List.any_eq_true.2 ⟨info', hinfo', ?_⟩
    rw [BorrowMemInfo.isNamed, decide_eq_true heq.1, decide_eq_true heq.2, Bool.and_self]
  · rw [List.forall_mem_append, List.forall_mem_singleton]
    exact ⟨h.size, hsize, hnuma⟩
  · rintro x hx y hy
    rw [List.mem_append, List.mem_singleton] at hx hy
    rcases hx with hx | rfl <;> rcases hy with hy | rfl
    · exact h.apart x hx y hy
    · exact hborrower x hx
    · exact (hlender y hy).symm
    · exact hne

/-- The records between other nodes are as many as before. -/
theorem countP_numaCreate (hcreate : numaCreate info records = some records')
    (p : BorrowMemInfo → Bool) :
    records'.countP p = records.countP p + if p info then 1 else 0 := by
  unfold numaCreate at hcreate
  split_ifs at hcreate
  obtain rfl := Option.some.inj hcreate
  rw [List.countP_append, List.countP_singleton]

/-- A memory that is deleted is the only one of its name. -/
theorem Sane.countP_numaDelete (h : Sane b records) (hinfo : info ∈ records)
    (p : BorrowMemInfo → Bool) :
    records.countP p = (numaDelete info.name info.borrowNodeId records).countP p +
      if p info then 1 else 0 := by
  have hnamed : info.isNamed info.name info.borrowNodeId = true := by
    rw [BorrowMemInfo.isNamed, decide_eq_true rfl, decide_eq_true rfl, Bool.and_self]
  obtain ⟨found, before, after, -, hfound, hrecords, herase⟩ := List.exists_of_eraseP hinfo hnamed
  rw [BorrowMemInfo.isNamed, Bool.and_eq_true, decide_eq_true_eq, decide_eq_true_eq] at hfound
  have hsame : found = info := by
    refine List.inj_on_of_nodup_map h.names ?_ hinfo (Prod.ext hfound.1 hfound.2)
    rw [hrecords]
    exact List.mem_append_right _ List.mem_cons_self
  rw [numaDelete, herase]
  conv_lhs => rw [hrecords]
  rw [List.countP_append, List.countP_append, List.countP_cons, hsame, Nat.add_assoc]

theorem exists_of_namedCount (h : 0 < namedCount records src dst name) :
    ∃ info ∈ records, info.lentNodeId = src ∧ info.borrowNodeId = dst ∧ info.name = name := by
  obtain ⟨info, hinfo, hnamed⟩ := List.countP_pos_iff.1 h
  rw [Bool.and_eq_true, isBetween_iff, decide_eq_true_eq] at hnamed
  exact ⟨info, hinfo, hnamed.1.1.symm, hnamed.1.2.symm, hnamed.2⟩

theorem liveCount_pos (hinfo : info ∈ records) :
    0 < liveCount records info.lentNodeId info.borrowNodeId :=
  List.countP_pos_iff.2 ⟨info, hinfo, isBetween_iff.2 ⟨rfl, rfl⟩⟩

end Records

/-! ### The memories of a pair -/

section Pair

variable {b : BorrowSize} {physicalTopo : PhysicalTopo} {t : MemBorrowTopo}
  {src dst memName name : String} {fromNumaId toNumaId : Int}

/-- How often the topology has a memory of a name between two nodes. -/
def MemBorrowTopo.recorded (t : MemBorrowTopo) (src dst name : String) : Nat :=
  recordedCount ((t.lends src).filter (isDestNode dst)) name

theorem lends_setNumaNodeBorrowSize
    (h : (t.setNumaNodeBorrowSize b physicalTopo memName src dst fromNumaId toNumaId).1 = .ok)
    (node : String) :
    (t.setNumaNodeBorrowSize b physicalTopo memName src dst fromNumaId toNumaId).2.lends node =
      if node = src then
        upsert (isLoanAt src dst toNumaId)
          (NodeMemBorrowInfo.enter memName b.borrowSize b.borrowSize fromNumaId)
          (newLoan b memName src dst fromNumaId toNumaId) (t.lends src)
      else t.lends node := by
  unfold setNumaNodeBorrowSize at h ⊢
  by_cases hcheck : (!t.memBorrowTopoCheck physicalTopo src dst) = true
  · rw [if_pos hcheck] at h
    exact absurd h (by simp)
  · rw [if_neg hcheck] at h ⊢
    rw [upsert]
    rcases hlends : (t.lends src).find? (isLoanAt src dst toNumaId) with - | info
    · exact lends_setLends src node _
    · rcases hborrows : (t.borrows dst).find? (isLoanAt src dst toNumaId) with - | info'
      · rw [hlends, hborrows] at h
        exact absurd h (by simp)
      · exact lends_setLends src node _

theorem isDestNode_newLoan {node : String} :
    isDestNode node (newLoan b memName src dst fromNumaId toNumaId) = decide (dst = node) := rfl

/-- A memory that is entered is recorded once more at most. -/
theorem recorded_setNumaNodeBorrowSize_le
    (h : (t.setNumaNodeBorrowSize b physicalTopo memName src dst fromNumaId toNumaId).1 = .ok)
    (src' dst' name : String) :
    (t.setNumaNodeBorrowSize b physicalTopo memName src dst fromNumaId toNumaId).2.recorded src'
        dst' name ≤
      t.recorded src' dst' name + if (src' = src ∧ dst' = dst) ∧ memName = name then 1 else 0 := by
  rw [MemBorrowTopo.recorded, lends_setNumaNodeBorrowSize h]
  by_cases hsrc : src' = src
  · rw [if_pos hsrc, hsrc]
    by_cases hdst : dst' = dst
    · have hnew : (newLoan b memName src dst fromNumaId toNumaId).uses name ≤
          if memName = name then 1 else 0 := (total_set₂_le ∅).trans (Nat.zero_add _).le
      rw [hdst, filter_upsert_of_imp (fun item hitem => ?_) (isDestNode_newLoan.trans
        (decide_eq_true rfl))]
      · simp only [true_and, and_self]
        exact recordedCount_upsert_le hnew _
      · have hdest := (Bool.and_eq_true_iff.1 (Bool.and_eq_true_iff.1 hitem).1).2
        exact ⟨hdest, hdest⟩
    · rw [filter_upsert_of_disjoint (fun item hitem => ?_)
        (isDestNode_newLoan.trans (decide_eq_false (Ne.symm hdst)))]
      · exact Nat.le_add_right _ _
      · have hother := isDestNode_disjoint hdst item
          (Bool.and_eq_true_iff.1 (Bool.and_eq_true_iff.1 hitem).1).2
        exact ⟨hother, hother⟩
  · rw [if_neg hsrc]
    exact Nat.le_add_right _ _

/-- What can be returned is recorded. -/
theorem find?_of_getReturnableMem {numaId : Int}
    (h : t.getReturnableMem src dst = (.ok, some (memName, numaId))) :
    ∃ info, (t.lends src).find? (isDestNode dst) = some info ∧
      (info.numaNodeBorrowSize.get₂ numaId memName).isSome = true := by
  unfold getReturnableMem at h
  rcases hlends : t.lendMap.lookup src with - | infos
  · rw [hlends] at h
    exact absurd h (by simp)
  rw [hlends] at h
  dsimp only at h
  rcases hfind : infos.find? (isDestNode dst) with - | info
  · rw [hfind] at h
    exact absurd h (by simp)
  rw [hfind] at h
  dsimp only at h
  rcases hnuma : (info.numaNodeBorrowSize.keys.insertionSort (· ≤ ·)).head? with - | numaId'
  · rw [hnuma] at h
    exact absurd h (by simp)
  rw [hnuma] at h
  dsimp only at h
  rcases hname : (((info.numaNodeBorrowSize.lookup numaId').getD ∅).keys.insertionSort
    (· ≤ ·)).head? with - | memName'
  · rw [hname] at h
    exact absurd h (by simp)
  rw [hname] at h
  simp only [Prod.mk.injEq, Option.some.injEq, true_and] at h
  obtain ⟨rfl, rfl⟩ := h
  refine ⟨info, ?_, ?_⟩
  · rw [lends, hlends]
    exact hfind
  · have hmem := (List.mem_insertionSort _).1 (List.mem_of_head? hname)
    rw [Map.get₂]
    rcases hlookup : info.numaNodeBorrowSize.lookup numaId' with - | memSizeMap
    · rw [hlookup] at hmem
      exact absurd hmem List.not_mem_nil
    · rw [hlookup] at hmem
      rw [Option.bind_some, AList.lookup_isSome]
      exact AList.mem_keys.2 hmem

/-- A memory that is taken out is recorded once less, and no other one is touched. -/
theorem total_forget {sizes : Map Int (Map String (BitVec 64))} {numaId : Int}
    (h : (sizes.get₂ numaId memName).isSome = true) (name : String) :
    Map.total (hasName name) (sizes.insert numaId
        (((sizes.lookup numaId).getD ∅).erase memName)) + (if memName = name then 1 else 0) =
      Map.total (hasName name) sizes := by
  rw [Map.get₂] at h
  rcases hlookup : sizes.lookup numaId with - | memSizeMap
  · rw [hlookup] at h
    exact absurd h (by simp)
  rw [hlookup, Option.bind_some] at h
  have hsum := Map.total_insert_of_some (hasName name) (memSizeMap.erase memName) hlookup
  rw [Option.getD_some]
  have herase : hasName name numaId (memSizeMap.erase memName) +
      (if memName = name then 1 else 0) = hasName name numaId memSizeMap := by
    rw [hasName, hasName, Map.lookup_erase_ite]
    by_cases hname : memName = name
    · subst hname
      simp [h]
    · rw [if_neg (c := name = memName) fun hn => hname hn.symm, if_neg (c := memName = name) hname,
        Nat.add_zero]
  omega

theorem lends_delNumaNodeBorrowSize {numaId : Int}
    (h : (t.delNumaNodeBorrowSize b physicalTopo memName src dst numaId).1 = .ok) (node : String) :
    (t.delNumaNodeBorrowSize b physicalTopo memName src dst numaId).2.lends node =
      if node = src then
        (deleteFromMap memName numaId (b.borrowSize.setWidth 32) (isDestNode dst) (t.lends src)).2
      else t.lends node := by
  unfold delNumaNodeBorrowSize at h ⊢
  dsimp only at h ⊢
  by_cases hcheck : (!t.memBorrowTopoCheck physicalTopo src dst) = true
  · rw [if_pos hcheck] at h
    exact absurd h (by simp)
  rw [if_neg hcheck] at h ⊢
  by_cases hlends : ((t.lends src).find? (isDestNode dst)).isNone = true
  · rw [if_pos hlends] at h
    exact absurd h (by simp)
  rw [if_neg hlends] at h ⊢
  by_cases hne : (deleteFromMap memName numaId (b.borrowSize.setWidth 32) (isDestNode dst)
      (t.lends src)).1 ≠ .ok
  · rw [if_pos hne] at h
    exact absurd h hne
  rw [if_neg hne] at h ⊢
  by_cases hborrows : ((t.borrows dst).find? (isSrcNode src)).isNone = true
  · rw [if_pos hborrows] at h
    exact absurd h (by simp)
  rw [if_neg hborrows] at h ⊢
  by_cases hne' : (deleteFromMap memName numaId (b.borrowSize.setWidth 32) (isSrcNode src)
      (t.borrows dst)).1 ≠ .ok
  · rw [if_pos hne'] at h
    exact absurd h hne'
  rw [if_neg hne']
  exact lends_setLends src node _

/-- A loan that a memory is taken out of gets smaller, or is gone. -/
theorem deleteFromMap_of_find? {numaId : Int} {size : BitVec 32} {isNode : NodeMemBorrowInfo → Bool}
    {infos : List NodeMemBorrowInfo} {info : NodeMemBorrowInfo} (hfind : infos.find? isNode = some info)
    (hmem : (info.numaNodeBorrowSize.get₂ numaId memName).isSome = true) :
    deleteFromMap memName numaId size isNode infos =
      (.ok, if info.totalSize ≤ size.setWidth 64 then infos.eraseP isNode
        else modifyFirst isNode (forget memName numaId (size.setWidth 64)) infos) := by
  have hnone : ¬(info.numaNodeBorrowSize.get₂ numaId memName).isNone = true := by
    rw [Option.isNone_iff_eq_none]
    exact Option.isSome_iff_ne_none.1 hmem
  rw [deleteFromMap, hfind]
  dsimp only
  rw [if_neg hnone]
  split <;> rfl

/-- A memory that is returned is recorded once less, and no other one more often. -/
theorem recorded_delNumaNodeBorrowSize {numaId : Int} {info : NodeMemBorrowInfo}
    (h : (t.delNumaNodeBorrowSize b physicalTopo memName src dst numaId).1 = .ok)
    (hfind : (t.lends src).find? (isDestNode dst) = some info)
    (hmem : (info.numaNodeBorrowSize.get₂ numaId memName).isSome = true)
    (src' dst' name : String) :
    (t.delNumaNodeBorrowSize b physicalTopo memName src dst numaId).2.recorded src' dst' name +
        (if (src' = src ∧ dst' = dst) ∧ memName = name then 1 else 0) ≤
      t.recorded src' dst' name := by
  rw [MemBorrowTopo.recorded, MemBorrowTopo.recorded, lends_delNumaNodeBorrowSize h,
    deleteFromMap_of_find? hfind hmem]
  by_cases hpair : src' = src ∧ dst' = dst
  · obtain ⟨rfl, rfl⟩ := hpair
    obtain ⟨rest, hrest⟩ := filter_of_find? hfind
    have huses := total_forget hmem name
    have hforget : ∀ item, isDestNode dst' item = true →
        isDestNode dst' (forget memName numaId ((b.borrowSize.setWidth 32).setWidth 64) item) =
          true := fun _ hitem => hitem
    rw [if_pos rfl, hrest, recordedCount, recordedCount, List.map_cons, List.sum_cons]
    simp only [true_and, and_self]
    rw [NodeMemBorrowInfo.uses, ← huses]
    by_cases hsmall : info.totalSize ≤ (b.borrowSize.setWidth 32).setWidth 64
    · rw [if_pos hsmall, filter_eraseP_self, hrest, List.tail_cons]
      omega
    · rw [if_neg hsmall, filter_modifyFirst_self hforget, hrest, List.modifyHead, List.map_cons,
        List.sum_cons]
      have hitem : (forget memName numaId ((b.borrowSize.setWidth 32).setWidth 64) info).uses name =
          Map.total (hasName name) (info.numaNodeBorrowSize.insert numaId
            (((info.numaNodeBorrowSize.lookup numaId).getD ∅).erase memName)) := rfl
      omega
  · rw [if_neg (c := (src' = src ∧ dst' = dst) ∧ memName = name) fun hall => hpair hall.1,
      Nat.add_zero]
    by_cases hsrc : src' = src
    · have hdst : dst' ≠ dst := fun hdst => hpair ⟨hsrc, hdst⟩
      have hother : ∀ item, isDestNode dst item = true → isDestNode dst' item = false ∧
          isDestNode dst' (forget memName numaId ((b.borrowSize.setWidth 32).setWidth 64) item) =
            false := fun item hitem =>
        ⟨isDestNode_disjoint hdst item hitem, isDestNode_disjoint hdst item hitem⟩
      rw [if_pos hsrc, hsrc]
      dsimp only
      by_cases hsmall : info.totalSize ≤ (b.borrowSize.setWidth 32).setWidth 64
      · rw [if_pos hsmall, filter_eraseP_of_disjoint (isDestNode_disjoint hdst)]
      · rw [if_neg hsmall, filter_modifyFirst_of_disjoint hother]
    · rw [if_neg hsrc]

end Pair

/-! ### Executing a plan -/

section Executing

variable {U F : Type} {round : Round U F} {L : Ledger String} {done : List BorrowAction}
  {s t : MasterState} {action : BorrowAction} {i : Nat}

/-- Some actions of a plan have been executed. -/
structure Executing (round : Round U F) (L : Ledger String) (done : List BorrowAction)
    (s : MasterState) : Prop where
  sane : Sane round.planner.toBorrowSize s.records
  recorded : ∀ src dst name, s.topo.recorded src dst name ≤ namedCount s.records src dst name
  ledger : ∃ L', Executes (linked round.planner) L (done.map BorrowAction.deal) L' ∧
    ∀ src dst, L'.loans src dst = liveCount s.records src dst

/-- What an action leads to: if it succeeds, it has been executed. -/
structure Processed (round : Round U F) (L : Ledger String) (done : List BorrowAction)
    (r : Bool × MasterState) : Prop where
  sane : Sane round.planner.toBorrowSize r.2.records
  executing : r.1 = true → Executing round L done r.2

theorem Processed.of_failed {r : Bool × MasterState} (hfailed : r.1 = false)
    (hsane : Sane round.planner.toBorrowSize r.2.records) : Processed round L done r :=
  ⟨hsane, fun hok => absurd (hfailed.symm.trans hok) (by simp)⟩

/-- Whoever has no loan with a node is not in a record with it. -/
theorem ne_of_liveCount {records : List BorrowMemInfo} {node : String}
    (hlender : ∀ src, liveCount records src node = 0) :
    ∀ info ∈ records, info.borrowNodeId ≠ node := by
  rintro info hinfo rfl
  exact absurd (hlender info.lentNodeId) (liveCount_pos hinfo).ne'

theorem ne_of_liveCount' {records : List BorrowMemInfo} {node : String}
    (hborrower : ∀ dst, liveCount records node dst = 0) :
    ∀ info ∈ records, info.lentNodeId ≠ node := by
  rintro info hinfo rfl
  exact absurd (hborrower info.borrowNodeId) (liveCount_pos hinfo).ne'

/-- The loan that an action asks for may be made, with the records as they are. -/
theorem Executing.create (h : Executing round L done s)
    (hself : ∀ node, ¬linked round.planner node node) (htype : action.type = .borrow)
    (hnext : ∃ L', Executes (linked round.planner) L
      ((done ++ [action]).map BorrowAction.deal) L') {fromNumaId numaId : Int}
    {records : List BorrowMemInfo}
    (hcreate : numaCreate (round.newMemory i action.srcNodeId action.destNodeId fromNumaId numaId)
      s.records = some records) :
    Sane round.planner.toBorrowSize records ∧
      ∃ L', Executes (linked round.planner) L ((done ++ [action]).map BorrowAction.deal) L' ∧
        ∀ src dst, L'.loans src dst = liveCount records src dst := by
  have hdeal : action.deal = .lend action.srcNodeId action.destNodeId := by
    rw [BorrowAction.deal, htype]
  obtain ⟨L', hL'⟩ := hnext
  obtain ⟨M, hM, hloans⟩ := h.ledger
  have hall := hL'
  rw [List.map_append, List.map_singleton, hdeal] at hL'
  obtain ⟨L'', hL'', hlinked, hlender, hborrower, rfl⟩ := hL'.of_lend
  obtain rfl := hM.unique hL''
  refine ⟨h.sane.create hcreate rfl (by simp [Round.newMemory]) ?_ ?_ ?_, _, hall, fun src dst => ?_⟩
  · rintro (heq : action.srcNodeId = action.destNodeId)
    rw [heq] at hlinked
    exact hself _ hlinked
  · exact ne_of_liveCount fun src => (hloans _ _).symm.trans (hlender src)
  · exact ne_of_liveCount' fun dst => (hloans _ _).symm.trans (hborrower dst)
  · rw [liveCount, countP_numaCreate hcreate, Ledger.loans_change, hloans]
    by_cases hpair : src = action.srcNodeId ∧ dst = action.destNodeId
    · rw [if_pos hpair, if_pos (isBetween_iff.2 hpair), hpair.1, hpair.2]
      rfl
    · rw [if_neg hpair, if_neg fun hbetween => hpair (isBetween_iff.1 hbetween), hloans]
      rfl

/-- A loan is made as planned, or the plan ends. -/
theorem executeBorrowMem_processed (h : Executing round L done s)
    (hself : ∀ node, ¬linked round.planner node node) (htype : action.type = .borrow)
    (hnext : ∃ L', Executes (linked round.planner) L
      ((done ++ [action]).map BorrowAction.deal) L') :
    Processed round L (done ++ [action])
      (executeBorrowMem round i action.srcNodeId action.destNodeId s) := by
  unfold executeBorrowMem
  rcases hnuma : s.topo.getBorrowableNumaInfo round.planner.toBorrowSize round.numaSocketMap
    action.srcNodeId with - | ⟨socketId, fromNumaId⟩
  · exact .of_failed rfl h.sane
  dsimp only
  split_ifs
  · exact .of_failed rfl h.sane
  rcases hanswer : round.answer i with numaId | (- | numaId)
  · dsimp only
    rcases hcreate : numaCreate (round.newMemory i action.srcNodeId action.destNodeId fromNumaId
      numaId) s.records with - | records
    · exact .of_failed rfl h.sane
    · obtain ⟨hsane, hledger⟩ := h.create hself htype hnext hcreate
      refine ⟨hsane, fun hok => ⟨hsane, fun src dst name => ?_, hledger⟩⟩
      refine (recorded_setNumaNodeBorrowSize_le (of_decide_eq_true hok) src dst name).trans ?_
      have hle := h.recorded src dst name
      show _ ≤ namedCount records src dst name
      rw [namedCount, countP_numaCreate hcreate]
      refine Nat.add_le_add hle ?_
      by_cases hnew : (src = action.srcNodeId ∧ dst = action.destNodeId) ∧ round.uniqueId i = name
      · rw [if_pos hnew, if_pos]
        exact Bool.and_eq_true_iff.2 ⟨isBetween_iff.2 hnew.1, decide_eq_true hnew.2⟩
      · rw [if_neg hnew]
        exact Nat.zero_le _
  · exact .of_failed rfl h.sane
  · dsimp only
    rcases hcreate : numaCreate (round.newMemory i action.srcNodeId action.destNodeId fromNumaId
      numaId) s.records with - | records
    · exact .of_failed rfl h.sane
    · exact .of_failed rfl (h.create hself htype hnext hcreate).1

/-- A memory is returned as planned, or the plan ends. -/
theorem executeReturnMem_processed (h : Executing round L done s) (htype : action.type = .return)
    (hnext : ∃ L', Executes (linked round.planner) L
      ((done ++ [action]).map BorrowAction.deal) L') :
    Processed round L (done ++ [action])
      (executeReturnMem round i action.srcNodeId action.destNodeId s) := by
  have hdelete : ∀ memName, Sane round.planner.toBorrowSize
      (numaDelete memName action.destNodeId s.records) := fun memName =>
    h.sane.subperm (numaDelete_subperm _ _ _)
  unfold executeReturnMem
  split
  next memName numaId hreturnable =>
    rcases hanswer : round.answer i with numaId' | (- | numaId')
    · refine ⟨hdelete memName, fun hok => ?_⟩
      obtain ⟨item, hfind, hmem⟩ := find?_of_getReturnableMem hreturnable
      have hrecorded := recorded_delNumaNodeBorrowSize (of_decide_eq_true hok) hfind hmem
      -- The memory is one of the rack.
      have hpos := hrecorded action.srcNodeId action.destNodeId memName
      rw [if_pos ⟨⟨rfl, rfl⟩, rfl⟩] at hpos
      have hlive := h.recorded action.srcNodeId action.destNodeId memName
      obtain ⟨info, hinfo, hsrc, hdst, hname⟩ := exists_of_namedCount
        (Nat.lt_of_lt_of_le (Nat.lt_of_lt_of_le (Nat.succ_pos _) hpos) hlive)
      have hcount := fun p => h.sane.countP_numaDelete hinfo p
      rw [hdst, hname] at hcount
      have hbetween : ∀ src dst, info.isBetween src dst = true ↔
          src = action.srcNodeId ∧ dst = action.destNodeId := fun src dst => by
        rw [isBetween_iff, hsrc, hdst]
      refine ⟨hdelete memName, fun src dst name => ?_, ?_⟩
      · have hrecorded := hrecorded src dst name
        have hle := h.recorded src dst name
        rw [namedCount, hcount, hname] at hle
        by_cases hsame : (src = action.srcNodeId ∧ dst = action.destNodeId) ∧ memName = name
        · rw [if_pos hsame] at hrecorded
          rw [if_pos (Bool.and_eq_true_iff.2 ⟨(hbetween src dst).2 hsame.1,
            decide_eq_true hsame.2⟩)] at hle
          exact Nat.le_of_succ_le_succ (hrecorded.trans hle)
        · rw [if_neg hsame] at hrecorded
          rw [if_neg fun hnamed => hsame ⟨(hbetween src dst).1 (Bool.and_eq_true_iff.1 hnamed).1,
            of_decide_eq_true (Bool.and_eq_true_iff.1 hnamed).2⟩] at hle
          exact hrecorded.trans hle
      · have hdeal : action.deal = .giveBack action.srcNodeId action.destNodeId := by
          rw [BorrowAction.deal, htype]
        obtain ⟨L', hL'⟩ := hnext
        obtain ⟨M, hM, hloans⟩ := h.ledger
        have hall := hL'
        rw [List.map_append, List.map_singleton, hdeal] at hL'
        obtain ⟨L'', hL'', -, rfl⟩ := hL'.of_giveBack
        obtain rfl := hM.unique hL''
        refine ⟨_, hall, fun src dst => ?_⟩
        have hlive : liveCount s.records src dst =
            liveCount (numaDelete memName action.destNodeId s.records) src dst +
              if info.isBetween src dst = true then 1 else 0 :=
          hcount (BorrowMemInfo.isBetween src dst)
        rw [Ledger.loans_change, hloans, hloans]
        show _ = liveCount (numaDelete memName action.destNodeId s.records) src dst
        by_cases hpair : src = action.srcNodeId ∧ dst = action.destNodeId
        · rw [if_pos ((hbetween src dst).2 hpair)] at hlive
          rw [if_pos hpair, ← hpair.1]
          obtain ⟨-, rfl⟩ := hpair
          rw [hlive, Nat.add_sub_cancel]
        · rw [if_neg fun h => hpair ((hbetween src dst).1 h)] at hlive
          rw [if_neg hpair, hlive, Nat.add_zero]
    · exact .of_failed rfl h.sane
    · exact .of_failed rfl (hdelete memName)
  next => exact .of_failed rfl h.sane

/-- The actions of a plan, as far as they get. -/
theorem executeBorrowActions_sane (h : Executing round L done s)
    (hself : ∀ node, ¬linked round.planner node node) {actions : List BorrowAction}
    (hplan : ∃ L', Executes (linked round.planner) L
      ((done ++ actions).map BorrowAction.deal) L') (i : Nat) :
    Sane round.planner.toBorrowSize (executeBorrowActions round i actions s).2.records := by
  induction actions generalizing done s i with
  | nil => exact h.sane
  | cons action actions ih =>
    rw [List.append_cons] at hplan
    have hnext : ∃ L', Executes (linked round.planner) L
        ((done ++ [action]).map BorrowAction.deal) L' := by
      obtain ⟨L', hL'⟩ := hplan
      rw [List.map_append] at hL'
      exact hL'.of_append
    have hprocessed : Processed round L (done ++ [action])
        (processOneBorrowAction round i action s) := by
      unfold processOneBorrowAction
      rcases htype : action.type with - | -
      · exact executeBorrowMem_processed h hself htype hnext
      · exact executeReturnMem_processed h htype hnext
    rw [executeBorrowActions]
    rcases hr : processOneBorrowAction round i action s with ⟨- | -, t⟩
    · rw [hr] at hprocessed
      exact hprocessed.sane
    · rw [hr] at hprocessed
      exact ih (hprocessed.executing rfl) hplan _

end Executing

/-! ### From round to round -/

section Rounds

variable {U F : Type} {b : BorrowSize} {s t : MasterState}

/-- A round keeps the records as they should be. -/
theorem ucacheMasterRound_sane (round : Round U F) (h : Sane b s.records)
    (hbounds : inBounds b s (.round round)) : Sane b (ucacheMasterRound round s).records := by
  obtain ⟨hsize, hself, hroom⟩ := hbounds
  subst hsize
  have hlinked : ∀ node, ¬linked round.planner node node := fun node hnode =>
    Bool.false_ne_true ((hself node).symm.trans hnode)
  have hbytes : s.records.length * round.planner.borrowSize.toNat < 2 ^ 64 :=
    Nat.lt_of_le_of_lt (Nat.le_add_right _ _) (hroom "")
  have hcollected : Collected round.planner.toBorrowSize s.records (round.collect s).lendMap
      (round.collect s).borrowMap :=
    (collected h.size hbytes).congr (lends_initGlobalMemBorrowTopo _ _ _ _ _)
      (borrows_initGlobalMemBorrowTopo _ _ _ _ _)
  obtain ⟨hsound, hloans⟩ := sound_of_records hcollected h.apart hroom
  obtain ⟨hplan, -⟩ := executable_plannedActions hlinked round.nodeIdToNodeStatMap hsound
  unfold ucacheMasterRound
  dsimp only
  split_ifs
  · exact h
  · have hstart : Executing round (ledger round.planner.toBorrowSize (round.collect s)) []
        { s with topo := round.collect s } := ⟨h, hcollected.names, _, .nil, hloans⟩
    exact executeBorrowActions_sane hstart hlinked hplan.executes 0

/-- A round of two nodes, in which the rack grants everything. -/
def firstRound : Round Unit ℚ where
  planner := twoNodes
  nodeIdToNodeStatMap := unbalanced
  loanableMemRawData := Map.ofKeys ["1", "2"] fun _ => Map.ofKeys [0] fun _ => 0x1C0000000
  numaSocketMap := Map.ofKeys ["1", "2"] fun _ => Map.ofKeys [0] fun _ => 0
  nodeFault := false
  uniqueId i := if i = 0 then "a" else if i = 1 then "b" else "c"
  answer _ := .ok 4

end Rounds

end Ucache

end UbsEngine
