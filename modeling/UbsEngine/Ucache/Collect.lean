import UbsEngine.Ucache.Sound
import UbsEngine.Ucache.Records
import Mathlib.Algebra.BigOperators.Ring.List

/-!
# The maps that are built from the records

Both maps are built from the same records, one by one, and so they mirror each other, loan by loan
and memory by memory (`UbsEngine.Ucache.collected`). If all memories are of one block, a round starts
with a sound topology, in which each pair of nodes has as many blocks as memories
(`UbsEngine.Ucache.sound_of_records`).
-/

namespace UbsEngine

namespace Ucache

open MemBorrowTopo Lending

/-- The memory has been lent by one node to the other. -/
def BorrowMemInfo.isBetween (src dst : String) (info : BorrowMemInfo) : Bool :=
  decide (info.lentNodeId = src) && decide (info.borrowNodeId = dst)

/-- The number of memories between two nodes, and of those with a name. -/
def liveCount (infos : List BorrowMemInfo) (src dst : String) : Nat :=
  infos.countP (BorrowMemInfo.isBetween src dst)

def namedCount (infos : List BorrowMemInfo) (src dst name : String) : Nat :=
  infos.countP fun info => info.isBetween src dst && decide (info.name = name)

/-- How often a loan has a memory of a name, by its numas. -/
def hasName (name : String) (_ : Int) (memSizeMap : Map String (BitVec 64)) : Nat :=
  if (memSizeMap.lookup name).isSome then 1 else 0

def NodeMemBorrowInfo.uses (name : String) (info : NodeMemBorrowInfo) : Nat :=
  Map.total (hasName name) info.numaNodeBorrowSize

/-- How often a pair has a memory of a name. -/
def recordedCount (infos : List NodeMemBorrowInfo) (name : String) : Nat :=
  (infos.map (NodeMemBorrowInfo.uses name)).sum

/-- The list of a node. -/
def infosOf (memMap : Map String (List NodeMemBorrowInfo)) (node : String) :
    List NodeMemBorrowInfo := (memMap.lookup node).getD []

/-- Both maps, after some records. -/
structure Collected (b : BorrowSize) (infos : List BorrowMemInfo)
    (lendMap borrowMap : Map String (List NodeMemBorrowInfo)) : Prop where
  mirrored : ∀ src dst, (infosOf lendMap src).filter (isDestNode dst) =
    (infosOf borrowMap dst).filter (isSrcNode src)
  lender : ∀ src, ∀ item ∈ infosOf lendMap src, item.srcNodeId = src
  borrower : ∀ dst, ∀ item ∈ infosOf borrowMap dst, item.destNodeId = dst
  blocks : ∀ src, ∀ item ∈ infosOf lendMap src,
    0 < item.totalSize.toNat ∧ b.borrowSize.toNat ∣ item.totalSize.toNat
  pair : ∀ src dst, (((infosOf lendMap src).filter (isDestNode dst)).map
    fun item => item.totalSize.toNat).sum = liveCount infos src dst * b.borrowSize.toNat
  all : ∀ src, ((infosOf lendMap src).map fun item => item.totalSize.toNat).sum =
    infos.countP (fun info => decide (info.lentNodeId = src)) * b.borrowSize.toNat
  names : ∀ src dst name,
    recordedCount ((infosOf lendMap src).filter (isDestNode dst)) name ≤
      namedCount infos src dst name

/-! ### Entering a memory -/

section Enter

variable {name name' : String} {size lentSize : BitVec 64} {numaId : Int}

/-- A memory that is entered is recorded once more at most. -/
theorem total_set₂_le (sizes : Map Int (Map String (BitVec 64))) :
    Map.total (hasName name) (sizes.set₂ numaId name' lentSize) ≤
      Map.total (hasName name) sizes + if name' = name then 1 else 0 := by
  have hinner : ∀ memSizeMap : Map String (BitVec 64),
      hasName name numaId (memSizeMap.insert name' lentSize) ≤
        hasName name numaId memSizeMap + if name' = name then 1 else 0 := by
    rintro memSizeMap
    rw [hasName, hasName, Map.lookup_insert_ite]
    by_cases hname : name' = name
    · rw [if_pos (c := name = name') hname.symm, if_pos (c := name' = name) hname]
      exact Nat.le_add_left _ _
    · rw [if_neg (c := name = name') fun h => hname h.symm]
      exact Nat.le_add_right _ _
  rw [Map.set₂]
  rcases hlookup : sizes.lookup numaId with - | memSizeMap
  · have hle : hasName name numaId ((∅ : Map String (BitVec 64)).insert name' lentSize) ≤
        0 + if name' = name then 1 else 0 := hinner ∅
    rw [Map.total_insert_of_none _ _ hlookup, Option.getD_none]
    omega
  · have hsum := Map.total_insert_of_some (hasName name) (memSizeMap.insert name' lentSize) hlookup
    have hle := hinner memSizeMap
    rw [Option.getD_some]
    omega

theorem uses_enter_le (item : NodeMemBorrowInfo) :
    (item.enter name' size lentSize numaId).uses name ≤
      item.uses name + if name' = name then 1 else 0 := total_set₂_le _

/-- A list with a memory that is entered. -/
theorem recordedCount_upsert_le {p : NodeMemBorrowInfo → Bool} {new : NodeMemBorrowInfo}
    (hnew : new.uses name ≤ if name' = name then 1 else 0) (items : List NodeMemBorrowInfo) :
    recordedCount (upsert p (NodeMemBorrowInfo.enter name' size lentSize numaId) new items) name ≤
      recordedCount items name + if name' = name then 1 else 0 :=
  sum_upsert_le _ uses_enter_le hnew

theorem uses_loan_le (info : BorrowMemInfo) (numaInfo : LentNumaInfo) :
    (info.loan numaInfo).uses name ≤ if info.name = name then 1 else 0 := by
  have hle : (info.loan numaInfo).uses name ≤
      Map.total (hasName name) ∅ + if info.name = name then 1 else 0 := total_set₂_le ∅
  rwa [Map.total_empty, Nat.zero_add] at hle

end Enter

/-! ### One record more -/

section Step

variable {b : BorrowSize} {infos : List BorrowMemInfo}
  {lendMap borrowMap : Map String (List NodeMemBorrowInfo)}

theorem collected_nil : Collected b [] ∅ ∅ :=
  ⟨fun _ _ => rfl, fun _ => List.forall_mem_nil _, fun _ => List.forall_mem_nil _,
    fun _ => List.forall_mem_nil _, fun _ _ => (Nat.zero_mul _).symm,
    fun _ => (Nat.zero_mul _).symm, fun _ _ _ => le_rfl⟩

theorem Collected.congr {lendMap' borrowMap' : Map String (List NodeMemBorrowInfo)}
    (h : Collected b infos lendMap borrowMap)
    (hlend : ∀ node, infosOf lendMap' node = infosOf lendMap node)
    (hborrow : ∀ node, infosOf borrowMap' node = infosOf borrowMap node) :
    Collected b infos lendMap' borrowMap' := by
  refine ⟨?_, ?_, ?_, ?_, ?_, ?_, ?_⟩ <;> simp only [hlend, hborrow]
  · exact h.mirrored
  · exact h.lender
  · exact h.borrower
  · exact h.blocks
  · exact h.pair
  · exact h.all
  · exact h.names

theorem infosOf_generateMap {info : BorrowMemInfo} {numaInfo : LentNumaInfo}
    {numaInfos : List LentNumaInfo} (h : info.lentNumaInfos = numaInfo :: numaInfos)
    (isItem : NodeMemBorrowInfo → Bool) (nodeId node : String)
    (memMap : Map String (List NodeMemBorrowInfo)) :
    infosOf (generateMap info isItem nodeId memMap) node =
      if node = nodeId then
        upsert isItem (NodeMemBorrowInfo.enter info.name info.size numaInfo.lentSize numaInfo.numaId)
          (info.loan numaInfo) (infosOf memMap nodeId)
      else infosOf memMap node := by
  rw [generateMap, h]
  dsimp only
  rw [infosOf, Map.lookup_insert_ite]
  split <;> rfl

theorem isDestNode_loan (info : BorrowMemInfo) (numaInfo : LentNumaInfo) (dst : String) :
    isDestNode dst (info.loan numaInfo) = decide (info.borrowNodeId = dst) := rfl

theorem isSrcNode_loan (info : BorrowMemInfo) (numaInfo : LentNumaInfo) (src : String) :
    isSrcNode src (info.loan numaInfo) = decide (info.lentNodeId = src) := rfl

/-- The loans of a pair on the side of the lender. -/
theorem filter_generateLendMap {info : BorrowMemInfo} {numaInfo : LentNumaInfo}
    {numaInfos : List LentNumaInfo} (h : info.lentNumaInfos = numaInfo :: numaInfos)
    (memMap : Map String (List NodeMemBorrowInfo)) (src dst : String) :
    (infosOf (generateLendMap info info.lentNodeId memMap) src).filter (isDestNode dst) =
      if src = info.lentNodeId ∧ dst = info.borrowNodeId then
        upsert (fun item => decide (item.destNodeId = info.borrowNodeId) &&
            decide (item.dstNumaId = info.dstNumaId))
          (NodeMemBorrowInfo.enter info.name info.size numaInfo.lentSize numaInfo.numaId)
          (info.loan numaInfo) ((infosOf memMap src).filter (isDestNode dst))
      else (infosOf memMap src).filter (isDestNode dst) := by
  rw [generateLendMap, infosOf_generateMap h]
  by_cases hsrc : src = info.lentNodeId
  · rw [if_pos hsrc, hsrc]
    by_cases hdst : dst = info.borrowNodeId
    · rw [if_pos ⟨rfl, hdst⟩, hdst]
      refine filter_upsert_of_imp (fun item hitem => ?_) ?_ _
      · exact ⟨(Bool.and_eq_true_iff.1 hitem).1, (Bool.and_eq_true_iff.1 hitem).1⟩
      · rw [isDestNode_loan, decide_eq_true rfl]
    · rw [if_neg fun h => hdst h.2]
      refine filter_upsert_of_disjoint (fun item hitem => ?_)
        ((isDestNode_loan info numaInfo dst).trans (decide_eq_false (Ne.symm hdst))) _
      have hother := isDestNode_disjoint hdst item (Bool.and_eq_true_iff.1 hitem).1
      exact ⟨hother, hother⟩
  · rw [if_neg hsrc, if_neg fun h => hsrc h.1]

/-- The loans of a pair on the side of the borrower. -/
theorem filter_generateBorrowMap {info : BorrowMemInfo} {numaInfo : LentNumaInfo}
    {numaInfos : List LentNumaInfo} (h : info.lentNumaInfos = numaInfo :: numaInfos)
    (memMap : Map String (List NodeMemBorrowInfo)) (src dst : String) :
    (infosOf (generateBorrowMap info info.borrowNodeId memMap) dst).filter (isSrcNode src) =
      if src = info.lentNodeId ∧ dst = info.borrowNodeId then
        upsert (fun item => decide (item.srcNodeId = info.lentNodeId) &&
            decide (item.dstNumaId = info.dstNumaId))
          (NodeMemBorrowInfo.enter info.name info.size numaInfo.lentSize numaInfo.numaId)
          (info.loan numaInfo) ((infosOf memMap dst).filter (isSrcNode src))
      else (infosOf memMap dst).filter (isSrcNode src) := by
  rw [generateBorrowMap, infosOf_generateMap h]
  by_cases hdst : dst = info.borrowNodeId
  · rw [if_pos hdst, hdst]
    by_cases hsrc : src = info.lentNodeId
    · rw [if_pos ⟨hsrc, rfl⟩, hsrc]
      refine filter_upsert_of_imp (fun item hitem => ?_) ?_ _
      · exact ⟨(Bool.and_eq_true_iff.1 hitem).1, (Bool.and_eq_true_iff.1 hitem).1⟩
      · rw [isSrcNode_loan, decide_eq_true rfl]
    · rw [if_neg fun h => hsrc h.1]
      refine filter_upsert_of_disjoint (fun item hitem => ?_)
        ((isSrcNode_loan info numaInfo src).trans (decide_eq_false (Ne.symm hsrc))) _
      have hother := isSrcNode_disjoint hsrc item (Bool.and_eq_true_iff.1 hitem).1
      exact ⟨hother, hother⟩
  · rw [if_neg hdst, if_neg fun h => hdst h.2]

theorem isBetween_iff {info : BorrowMemInfo} {src dst : String} :
    info.isBetween src dst = true ↔ src = info.lentNodeId ∧ dst = info.borrowNodeId := by
  rw [BorrowMemInfo.isBetween, Bool.and_eq_true, decide_eq_true_eq, decide_eq_true_eq, eq_comm,
    eq_comm (a := info.borrowNodeId)]

/-- A memory that is entered on both sides. -/
theorem collected_snoc (h : Collected b infos lendMap borrowMap) (info : BorrowMemInfo)
    (hsize : info.size = b.borrowSize) (hnuma : info.lentNumaInfos ≠ [])
    (hroom : (infos.length + 1) * b.borrowSize.toNat < 2 ^ 64) :
    Collected b (infos ++ [info]) (generateLendMap info info.lentNodeId lendMap)
      (generateBorrowMap info info.borrowNodeId borrowMap) := by
  obtain ⟨numaInfo, numaInfos, hinfos⟩ := List.exists_cons_of_ne_nil hnuma
  -- No loan gets too large.
  have hgrow : ∀ item ∈ infosOf lendMap info.lentNodeId, (item.totalSize + info.size).toNat =
      item.totalSize.toNat + b.borrowSize.toNat := by
    rintro item hitem
    have hle : item.totalSize.toNat ≤ infos.length * b.borrowSize.toNat := by
      refine (List.single_le_sum (fun _ _ => Nat.zero_le _) _
        (List.mem_map_of_mem (f := fun item => item.totalSize.toNat) hitem)).trans ?_
      rw [h.all]
      exact Nat.mul_le_mul_right _ List.countP_le_length
    rw [hsize, BitVec.toNat_add_of_lt]
    rw [Nat.succ_mul] at hroom
    omega
  have hsum : ∀ l : List NodeMemBorrowInfo, (∀ item ∈ l, item ∈ infosOf lendMap info.lentNodeId) →
      ((upsert (fun item => decide (item.destNodeId = info.borrowNodeId) &&
          decide (item.dstNumaId = info.dstNumaId))
        (NodeMemBorrowInfo.enter info.name info.size numaInfo.lentSize numaInfo.numaId)
        (info.loan numaInfo) l).map fun item => item.totalSize.toNat).sum =
      (l.map fun item => item.totalSize.toNat).sum + b.borrowSize.toNat := fun l hl =>
    sum_upsert _ (fun item hitem => hgrow item (hl item (List.mem_of_find?_eq_some hitem)))
      (congrArg BitVec.toNat hsize)
  refine ⟨fun src dst => ?_, fun src item hitem => ?_, fun dst item hitem => ?_,
    fun src item hitem => ?_, fun src dst => ?_, fun src => ?_, fun src dst name => ?_⟩
  · rw [filter_generateLendMap hinfos, filter_generateBorrowMap hinfos, h.mirrored]
    split_ifs with hpair
    · refine upsert_congr fun item hitem => ?_
      have hsrc : item.srcNodeId = src := of_decide_eq_true (List.mem_filter.1 hitem).2
      rw [← h.mirrored] at hitem
      have hdst : item.destNodeId = dst := of_decide_eq_true (List.mem_filter.1 hitem).2
      rw [hsrc, hdst, decide_eq_true hpair.1, decide_eq_true hpair.2]
    · rfl
  · rw [generateLendMap, infosOf_generateMap hinfos] at hitem
    split_ifs at hitem with hsrc
    · rcases mem_upsert hitem with hitem | rfl | ⟨item', hitem', rfl⟩
      · exact (h.lender _ item hitem).trans hsrc.symm
      · exact hsrc.symm
      · exact (h.lender _ item' (List.mem_of_find?_eq_some hitem')).trans hsrc.symm
    · exact h.lender src item hitem
  · rw [generateBorrowMap, infosOf_generateMap hinfos] at hitem
    split_ifs at hitem with hdst
    · rcases mem_upsert hitem with hitem | rfl | ⟨item', hitem', rfl⟩
      · exact (h.borrower _ item hitem).trans hdst.symm
      · exact hdst.symm
      · exact (h.borrower _ item' (List.mem_of_find?_eq_some hitem')).trans hdst.symm
    · exact h.borrower dst item hitem
  · rw [generateLendMap, infosOf_generateMap hinfos] at hitem
    split_ifs at hitem with hsrc
    · rcases mem_upsert hitem with hitem | rfl | ⟨item', hitem', rfl⟩
      · exact h.blocks _ item hitem
      · show 0 < info.size.toNat ∧ b.borrowSize.toNat ∣ info.size.toNat
        rw [hsize]
        exact ⟨borrowSize_pos b, dvd_rfl⟩
      · have hmem := List.mem_of_find?_eq_some hitem'
        show 0 < (item'.totalSize + info.size).toNat ∧
          b.borrowSize.toNat ∣ (item'.totalSize + info.size).toNat
        rw [hgrow item' hmem]
        exact ⟨Nat.add_pos_right _ (borrowSize_pos b), Nat.dvd_add (h.blocks _ item' hmem).2 dvd_rfl⟩
    · exact h.blocks src item hitem
  · rw [filter_generateLendMap hinfos, liveCount, List.countP_append, List.countP_singleton]
    split_ifs with hpair hbetween hbetween
    · rw [hsum _ fun item hitem => by
        rw [← hpair.1]
        exact (List.mem_filter.1 hitem).1, h.pair, liveCount, Nat.succ_mul]
    · exact absurd (isBetween_iff.2 hpair) hbetween
    · exact absurd (isBetween_iff.1 hbetween) hpair
    · rw [h.pair, liveCount, Nat.add_zero]
  · rw [generateLendMap, infosOf_generateMap hinfos, List.countP_append, List.countP_singleton]
    split_ifs with hsrc hlent hlent
    · rw [hsum _ fun _ hitem => hitem, h.all, hsrc, Nat.succ_mul]
    · exact absurd (decide_eq_true hsrc.symm) hlent
    · exact absurd (of_decide_eq_true hlent).symm hsrc
    · rw [h.all, Nat.add_zero]
  · rw [filter_generateLendMap hinfos, namedCount, List.countP_append, List.countP_singleton]
    have hle := h.names src dst name
    by_cases hpair : src = info.lentNodeId ∧ dst = info.borrowNodeId
    · rw [if_pos hpair, isBetween_iff.2 hpair, Bool.true_and]
      refine (recordedCount_upsert_le (uses_loan_le info numaInfo) _).trans ?_
      simp only [decide_eq_true_eq]
      exact Nat.add_le_add_right hle _
    · rw [if_neg hpair]
      exact hle.trans (Nat.le_add_right _ _)

/-- **Both maps**, after all records. -/
theorem collected (h : ∀ info ∈ infos, info.size = b.borrowSize ∧ info.lentNumaInfos ≠ [])
    (hroom : infos.length * b.borrowSize.toNat < 2 ^ 64) :
    Collected b infos (generatelendMemMap infos) (generateborrowMemMap infos) := by
  induction infos using List.reverseRecOn with
  | nil => exact collected_nil
  | append_singleton infos info ih =>
    rw [List.forall_mem_append, List.forall_mem_singleton] at h
    rw [List.length_append, List.length_singleton] at hroom
    have hfewer : infos.length * b.borrowSize.toNat < 2 ^ 64 :=
      (Nat.mul_le_mul_right _ (Nat.le_succ _)).trans_lt hroom
    rw [generatelendMemMap, generateborrowMemMap, List.foldl_append, List.foldl_append]
    exact collected_snoc (ih h.1 hfewer) info h.2.1 h.2.2 hroom

end Step

/-! ### The start of a round -/

section Start

variable {b : BorrowSize} {infos : List BorrowMemInfo} {topo : MemBorrowTopo}

theorem infosOf_fillEmpty (nodes : List String) (memMap : Map String (List NodeMemBorrowInfo))
    (node : String) : infosOf (fillEmpty nodes memMap) node = infosOf memMap node := by
  induction nodes generalizing memMap with
  | nil => rfl
  | cons node' nodes ih =>
    refine (ih _).trans ?_
    dsimp only
    split_ifs with hsome
    · rfl
    · rw [infosOf, infosOf, Map.lookup_insert_ite]
      split_ifs with hnode
      · rw [Option.not_isSome_iff_eq_none] at hsome
        rw [hnode, hsome]
        rfl
      · rfl

theorem lends_initGlobalMemBorrowTopo (physicalTopo : PhysicalTopo)
    (borrowMap lendMap : Map String (List NodeMemBorrowInfo))
    (loanableMemRawData : Map String (Map Int (BitVec 64))) (t : MemBorrowTopo) (node : String) :
    (t.initGlobalMemBorrowTopo physicalTopo borrowMap lendMap loanableMemRawData).2.lends node =
      infosOf lendMap node := by
  unfold initGlobalMemBorrowTopo
  dsimp only
  split_ifs
  · rfl
  · exact infosOf_fillEmpty _ _ _

theorem borrows_initGlobalMemBorrowTopo (physicalTopo : PhysicalTopo)
    (borrowMap lendMap : Map String (List NodeMemBorrowInfo))
    (loanableMemRawData : Map String (Map Int (BitVec 64))) (t : MemBorrowTopo) (node : String) :
    (t.initGlobalMemBorrowTopo physicalTopo borrowMap lendMap loanableMemRawData).2.borrows node =
      infosOf borrowMap node := by
  unfold initGlobalMemBorrowTopo
  dsimp only
  split_ifs
  · rfl
  · exact infosOf_fillEmpty _ _ _

/-- Whole blocks, added up. -/
theorem sum_blocksOf_mul (items : List NodeMemBorrowInfo)
    (h : ∀ item ∈ items, b.borrowSize.toNat ∣ item.totalSize.toNat) :
    (items.map (blocksOf b)).sum * b.borrowSize.toNat =
      (items.map fun item => item.totalSize.toNat).sum := by
  rw [← List.sum_map_mul_right]
  refine congrArg List.sum (List.map_congr_left fun item hitem => ?_)
  exact Nat.div_mul_cancel (h item hitem)

theorem exists_of_sum_pos {items : List NodeMemBorrowInfo} {p : BorrowMemInfo → Bool}
    (hpos : ∀ item ∈ items, 0 < item.totalSize.toNat) (hne : items ≠ [])
    (hsum : (items.map fun item => item.totalSize.toNat).sum =
      infos.countP p * b.borrowSize.toNat) : ∃ info ∈ infos, p info = true := by
  by_contra hnone
  have hzero : infos.countP p = 0 :=
    List.countP_eq_zero.2 fun info hinfo hp => hnone ⟨info, hinfo, hp⟩
  obtain ⟨item, rest, rfl⟩ := List.exists_cons_of_ne_nil hne
  have hitem := hpos item List.mem_cons_self
  rw [hzero, Nat.zero_mul, List.map_cons, List.sum_cons] at hsum
  omega

/-- **A round starts with a sound topology**, if all memories are of one block and no node lends and
borrows. Each pair of nodes has as many blocks as memories. -/
theorem sound_of_records (hmaps : Collected b infos topo.lendMap topo.borrowMap)
    (hapart : ∀ info ∈ infos, ∀ info' ∈ infos, info.lentNodeId ≠ info'.borrowNodeId)
    (hroom : ∀ node, infos.length * b.borrowSize.toNat + (topo.memInfo node).freeMem.toNat < 2 ^ 64) :
    topo.Sound b ∧ ∀ src dst, (ledger b topo).loans src dst = liveCount infos src dst := by
  refine ⟨⟨fun src dst => congrArg _ (hmaps.mirrored src dst), hmaps.borrower, hmaps.blocks,
    fun src => ?_, fun node => ?_⟩, fun src dst => ?_⟩
  · refine lt_of_le_of_lt (Nat.add_le_add_right ?_ _) (hroom src)
    have hall : ((topo.lends src).map fun info => info.totalSize.toNat).sum = _ := hmaps.all src
    rw [hall]
    exact Nat.mul_le_mul_right _ List.countP_le_length
  · by_contra hboth
    rw [not_or] at hboth
    obtain ⟨info, hinfo, hlent⟩ := exists_of_sum_pos (fun item hitem =>
      (hmaps.blocks node item hitem).1) hboth.1 (hmaps.all node)
    obtain ⟨item, hitem⟩ := List.exists_mem_of_ne_nil _ hboth.2
    -- The loan is also on the side of its lender.
    have hpair : item ∈ (infosOf topo.lendMap item.srcNodeId).filter (isDestNode node) := by
      rw [hmaps.mirrored]
      exact List.mem_filter.2 ⟨hitem, decide_eq_true rfl⟩
    obtain ⟨info', hinfo', hbetween⟩ := exists_of_sum_pos (fun item' hitem' =>
      (hmaps.blocks item.srcNodeId item' (List.mem_filter.1 hitem').1).1)
      (List.ne_nil_of_mem hpair) (hmaps.pair item.srcNodeId node)
    exact hapart info hinfo info' hinfo' ((of_decide_eq_true hlent).trans
      (isBetween_iff.1 hbetween).2)
  · have hblocks := sum_blocksOf_mul ((topo.lends src).filter (isDestNode dst))
      fun item hitem => (hmaps.blocks src item (List.mem_filter.1 hitem).1).2
    have hpair : _ = liveCount infos src dst * b.borrowSize.toNat := hmaps.pair src dst
    exact Nat.eq_of_mul_eq_mul_right (borrowSize_pos b) (hblocks.trans hpair)

end Start

end Ucache

end UbsEngine
