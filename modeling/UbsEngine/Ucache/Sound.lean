import UbsEngine.Ucache.Plan

/-!
# The topology of a planner is sound

What a planner does with its copy of the topology is what its actions do with the loans: a return
takes a block from a loan, and a new loan adds one (`UbsEngine.Ucache.MemBorrowTopo.delete_sound`,
`UbsEngine.Ucache.MemBorrowTopo.add_sound`). Both maps go on telling the same.
-/

namespace UbsEngine

namespace Ucache

open Lending

namespace MemBorrowTopo

variable {b : BorrowSize} {t : MemBorrowTopo} {physicalTopo : PhysicalTopo} {src dst : String}

/-! ### A change between two nodes -/

section Change

/-- The lists of the two nodes are replaced by others that differ in the entries of the pair. -/
theorem sound_of_change (h : t.Sound b) (A B : List NodeMemBorrowInfo)
    (memInfo : BorrowMemInfoPerNode) (hne : src ≠ dst) (hsrc : t.borrows src = [])
    (hdst : t.lends dst = [])
    (hA : ∀ y, y ≠ dst → A.filter (isDestNode y) = (t.lends src).filter (isDestNode y))
    (hB : ∀ x, x ≠ src → B.filter (isSrcNode x) = (t.borrows dst).filter (isSrcNode x))
    (hAB : (A.filter (isDestNode dst)).map NodeMemBorrowInfo.totalSize =
      (B.filter (isSrcNode src)).map NodeMemBorrowInfo.totalSize)
    (howner : ∀ info ∈ B, info.destNodeId = dst)
    (hblocks : ∀ info ∈ A, 0 < info.totalSize.toNat ∧ b.borrowSize.toNat ∣ info.totalSize.toNat)
    (hroom : (A.map fun info => info.totalSize.toNat).sum + memInfo.freeMem.toNat < 2 ^ 64) :
    (((t.setLends src A).setBorrows dst B).setMemInfo src memInfo).Sound b ∧
      ledger b (((t.setLends src A).setBorrows dst B).setMemInfo src memInfo) =
        (ledger b t).change src dst ((A.filter (isDestNode dst)).map (blocksOf b)).sum
          (memInfo.freeMem.toNat / b.borrowSize.toNat) := by
  have hlends : ∀ x, (((t.setLends src A).setBorrows dst B).setMemInfo src memInfo).lends x =
      if x = src then A else t.lends x := fun x => lends_setLends src x A
  have hborrows : ∀ y, (((t.setLends src A).setBorrows dst B).setMemInfo src memInfo).borrows y =
      if y = dst then B else t.borrows y := fun y => by
    rw [borrows_setMemInfo, borrows_setBorrows]
    rfl
  refine ⟨⟨fun x y => ?_, fun y => ?_, fun x => ?_, fun x => ?_, fun x => ?_⟩, ?_⟩
  · rw [hlends, hborrows]
    by_cases hx : x = src <;> by_cases hy : y = dst
    · rw [if_pos hx, if_pos hy, hx, hy]
      exact hAB
    · rw [if_pos hx, if_neg hy, hA y hy, hx]
      exact h.mirrored src y
    · rw [if_neg hx, if_pos hy, hB x hx, hy]
      exact h.mirrored x dst
    · rw [if_neg hx, if_neg hy]
      exact h.mirrored x y
  · rw [hborrows]
    split_ifs with hy
    · rw [hy]
      exact howner
    · exact h.owner y
  · rw [hlends]
    split_ifs
    · exact hblocks
    · exact h.blocks x
  · rw [hlends, memInfo_setMemInfo]
    split_ifs
    · exact hroom
    · exact h.room x
  · rw [hlends, hborrows]
    by_cases hx : x = src
    · rw [hx, if_neg hne]
      exact .inr hsrc
    · rw [if_neg hx]
      split_ifs with hy
      · rw [hy]
        exact .inl hdst
      · exact h.oneSided x
  · refine Ledger.ext (funext fun x => funext fun y => ?_) (funext fun x => ?_)
    · rw [Ledger.loans_change, loans_ledger, hlends]
      by_cases hx : x = src
      · rw [if_pos hx]
        by_cases hy : y = dst
        · rw [if_pos ⟨hx, hy⟩, hy]
        · rw [hA y hy, if_neg fun hxy => hy hxy.2, hx]
          rfl
      · rw [if_neg hx, if_neg fun hxy => hx hxy.1]
        rfl
    · rw [free_ledger, memInfo_setMemInfo, Ledger.free_change]
      split_ifs <;> rfl

end Change

/-! ### The entries of a pair -/

theorem filter_of_find? {p : NodeMemBorrowInfo → Bool} {infos : List NodeMemBorrowInfo}
    {info : NodeMemBorrowInfo} (h : infos.find? p = some info) :
    ∃ rest, infos.filter p = info :: rest := by
  rw [← List.head?_filter] at h
  exact List.head?_eq_some_iff.1 h

theorem isDestNode_disjoint {y : String} (hy : y ≠ dst) (info : NodeMemBorrowInfo)
    (hinfo : isDestNode dst info = true) : isDestNode y info = false := by
  simp only [isDestNode, decide_eq_true_eq, decide_eq_false_iff_not] at hinfo ⊢
  rw [hinfo]
  exact hy.symm

theorem isSrcNode_disjoint {x : String} (hx : x ≠ src) (info : NodeMemBorrowInfo)
    (hinfo : isSrcNode src info = true) : isSrcNode x info = false := by
  simp only [isSrcNode, decide_eq_true_eq, decide_eq_false_iff_not] at hinfo ⊢
  rw [hinfo]
  exact hx.symm

theorem blocksOf_shrink {info : NodeMemBorrowInfo}
    (hle : b.borrowSize.toNat ≤ info.totalSize.toNat) :
    blocksOf b (shrink b.borrowSize info) + 1 = blocksOf b info := by
  rw [blocksOf, blocksOf, Nat.div_eq_sub_div (borrowSize_pos b) hle, shrink,
    BitVec.toNat_sub_of_le (BitVec.le_def.2 hle)]

theorem toNat_grow {info : NodeMemBorrowInfo}
    (hlt : info.totalSize.toNat + b.borrowSize.toNat < 2 ^ 64) :
    (grow b.borrowSize info).totalSize.toNat = info.totalSize.toNat + b.borrowSize.toNat := by
  rw [grow, BitVec.toNat_add, Nat.mod_eq_of_lt hlt]

theorem blocksOf_grow {info : NodeMemBorrowInfo}
    (hlt : info.totalSize.toNat + b.borrowSize.toNat < 2 ^ 64) :
    blocksOf b (grow b.borrowSize info) = blocksOf b info + 1 := by
  rw [blocksOf, toNat_grow hlt, Nat.add_div_right _ (borrowSize_pos b)]
  rfl

/-- The entries of a pair after the first one got smaller, or is gone. -/
theorem filter_takeBack {p : NodeMemBorrowInfo → Bool} {infos rest : List NodeMemBorrowInfo}
    {info : NodeMemBorrowInfo} (hp : ∀ a, p (shrink b.borrowSize a) = p a)
    (h : infos.filter p = info :: rest) (removeEdge : Bool) :
    (takeBack b removeEdge p infos).filter p =
      if removeEdge then rest else shrink b.borrowSize info :: rest := by
  unfold takeBack
  split_ifs
  · rw [filter_eraseP_self, h, List.tail_cons]
  · rw [filter_modifyFirst_self (fun a ha => (hp a).trans ha), h, List.modifyHead]

theorem filter_takeBack_of_disjoint {p q : NodeMemBorrowInfo → Bool}
    (hq : ∀ a, q (shrink b.borrowSize a) = q a) (h : ∀ a, p a = true → q a = false)
    (removeEdge : Bool) (infos : List NodeMemBorrowInfo) :
    (takeBack b removeEdge p infos).filter q = infos.filter q := by
  unfold takeBack
  split_ifs
  · exact filter_eraseP_of_disjoint h infos
  · exact filter_modifyFirst_of_disjoint (fun a ha => ⟨h a ha, (hq a).trans (h a ha)⟩) infos

/-! ### Taking back and adding a block -/

/-- **A block less**, where there was one. -/
theorem delete_sound (h : t.Sound b)
    (hok : (t.deleteNodeMemBorrowInfo b physicalTopo src dst).1 = .ok) :
    (t.deleteNodeMemBorrowInfo b physicalTopo src dst).2.Sound b ∧
      0 < (ledger b t).loans src dst ∧
      ledger b (t.deleteNodeMemBorrowInfo b physicalTopo src dst).2 =
        (ledger b t).change src dst ((ledger b t).loans src dst - 1) ((ledger b t).free src + 1) := by
  obtain ⟨info, info', -, hfind, hfind', heq⟩ := deleteNodeMemBorrowInfo_of_ok hok
  rw [heq]
  obtain ⟨rest, hrest⟩ := filter_of_find? hfind
  obtain ⟨rest', hrest'⟩ := filter_of_find? hfind'
  have hmem := List.mem_of_find?_eq_some hfind
  have hmem' := List.mem_of_find?_eq_some hfind'
  -- The first entries of both sides are of the same size, and so are the others.
  have hmirrored := h.mirrored src dst
  rw [hrest, hrest', List.map_cons, List.map_cons, List.cons.injEq] at hmirrored
  obtain ⟨hsize, hsizes⟩ := hmirrored
  obtain ⟨hpos, hdvd⟩ := h.blocks src info hmem
  have hle := Nat.le_of_dvd hpos hdvd
  have hsub : (shrink b.borrowSize info).totalSize.toNat =
      info.totalSize.toNat - b.borrowSize.toNat := BitVec.toNat_sub_of_le (BitVec.le_def.2 hle)
  have hborrowed : t.borrows src = [] :=
    (h.oneSided src).resolve_left (List.ne_nil_of_mem hmem)
  have hlent : t.lends dst = [] := (h.oneSided dst).resolve_right (List.ne_nil_of_mem hmem')
  have hne : src ≠ dst := by
    rintro rfl
    rw [hlent] at hmem
    exact absurd hmem List.not_mem_nil
  have hAB : ((takeBack b (info.totalSize = b.borrowSize) (isDestNode dst) (t.lends src)).filter
        (isDestNode dst)).map NodeMemBorrowInfo.totalSize =
      ((takeBack b (info.totalSize = b.borrowSize) (isSrcNode src) (t.borrows dst)).filter
        (isSrcNode src)).map NodeMemBorrowInfo.totalSize := by
    rw [filter_takeBack (fun _ => rfl) hrest, filter_takeBack (fun _ => rfl) hrest']
    split_ifs
    · exact hsizes
    · rw [List.map_cons, List.map_cons, hsizes, shrink, shrink, hsize]
  have howner : ∀ x ∈ takeBack b (info.totalSize = b.borrowSize) (isSrcNode src) (t.borrows dst),
      x.destNodeId = dst := by
    rintro x hx
    unfold takeBack at hx
    split_ifs at hx
    · exact h.owner dst x (List.mem_of_mem_eraseP hx)
    · rcases mem_modifyFirst hx with hx | ⟨a, ha, rfl⟩
      · exact h.owner dst x hx
      · exact h.owner dst a (List.mem_of_find?_eq_some ha)
  have hblocks : ∀ x ∈ takeBack b (info.totalSize = b.borrowSize) (isDestNode dst) (t.lends src),
      0 < x.totalSize.toNat ∧ b.borrowSize.toNat ∣ x.totalSize.toNat := by
    rintro x hx
    unfold takeBack at hx
    split_ifs at hx with hremove
    · exact h.blocks src x (List.mem_of_mem_eraseP hx)
    · rcases mem_modifyFirst hx with hx | ⟨a, ha, rfl⟩
      · exact h.blocks src x hx
      · obtain rfl := Option.some.inj (hfind.symm.trans ha)
        have hneq : info.totalSize.toNat ≠ b.borrowSize.toNat := fun heq =>
          hremove (decide_eq_true (BitVec.eq_of_toNat_eq heq))
        rw [hsub]
        exact ⟨by omega, Nat.dvd_sub hdvd dvd_rfl⟩
  have hroom := h.room src
  have hsum : info.totalSize.toNat ≤ ((t.lends src).map fun info => info.totalSize.toNat).sum :=
    List.single_le_sum (fun _ _ => Nat.zero_le _) _ (List.mem_map_of_mem hmem)
  have hfree : ((t.memInfo src).freeMem + b.borrowSize).toNat =
      (t.memInfo src).freeMem.toNat + b.borrowSize.toNat :=
    BitVec.toNat_add_of_lt (by omega)
  have hroom' : ((takeBack b (info.totalSize = b.borrowSize) (isDestNode dst) (t.lends src)).map
        fun info => info.totalSize.toNat).sum +
      ((t.memInfo src).freeMem + b.borrowSize).toNat < 2 ^ 64 := by
    unfold takeBack
    split_ifs with hremove
    · have hsum := sum_eraseP (fun info : NodeMemBorrowInfo => info.totalSize.toNat) hfind
      rw [of_decide_eq_true hremove] at hsum
      omega
    · have hsum := sum_modifyFirst (fun info : NodeMemBorrowInfo => info.totalSize.toNat)
        (shrink b.borrowSize) hfind
      rw [hsub] at hsum
      omega
  obtain ⟨hsound, hset⟩ := sound_of_change h _ _
    { t.memInfo src with freeMem := (t.memInfo src).freeMem + b.borrowSize } hne hborrowed hlent
    (fun y hy => filter_takeBack_of_disjoint (fun _ => rfl) (isDestNode_disjoint hy) _ _)
    (fun x hx => filter_takeBack_of_disjoint (fun _ => rfl) (isSrcNode_disjoint hx) _ _)
    hAB howner hblocks hroom'
  have hloans : (ledger b t).loans src dst = blocksOf b info + (rest.map (blocksOf b)).sum := by
    rw [loans_ledger, hrest, List.map_cons, List.sum_cons]
  have hblock := h.blocksOf_pos hmem
  refine ⟨hsound, by rw [hloans]; omega, hset.trans (congrArg₂ _ ?_ ?_)⟩
  swap
  · dsimp only
    rw [hfree, Nat.add_div_right _ (borrowSize_pos b)]
    rfl
  rw [filter_takeBack (fun _ => rfl) hrest, hloans]
  split_ifs with hremove
  · have hone : blocksOf b info = 1 := by
      rw [blocksOf, of_decide_eq_true hremove, Nat.div_self (borrowSize_pos b)]
    omega
  · have hshrink := blocksOf_shrink hle
    rw [List.map_cons, List.sum_cons]
    omega

/-- **A block more**, from a node that has borrowed nothing to one that has lent nothing. -/
theorem add_sound (h : t.Sound b)
    (hok : (t.addNodeMemBorrowInfo b physicalTopo src dst).1 = .ok) (hne : src ≠ dst)
    (hborrowed : t.borrows src = []) (hlent : t.lends dst = [])
    (hfree : b.borrowSize.toNat ≤ (t.memInfo src).freeMem.toNat) :
    (t.addNodeMemBorrowInfo b physicalTopo src dst).2.Sound b ∧
      ledger b (t.addNodeMemBorrowInfo b physicalTopo src dst).2 =
        (ledger b t).change src dst ((ledger b t).loans src dst + 1) ((ledger b t).free src - 1) := by
  have hroom := h.room src
  have hsub : ((t.memInfo src).freeMem - b.borrowSize).toNat =
      (t.memInfo src).freeMem.toNat - b.borrowSize.toNat :=
    BitVec.toNat_sub_of_le (BitVec.le_def.2 hfree)
  have hleft : ((t.memInfo src).freeMem - b.borrowSize).toNat / b.borrowSize.toNat =
      (ledger b t).free src - 1 := by
    rw [hsub, free_ledger, Nat.div_eq_sub_div (borrowSize_pos b) hfree]
    rfl
  obtain ⟨-, ⟨info, info', hfind, hfind', heq⟩ | ⟨hnone, heq⟩⟩ := addNodeMemBorrowInfo_of_ok hok
  · rw [heq]
    obtain ⟨rest, hrest⟩ := filter_of_find? hfind
    obtain ⟨rest', hrest'⟩ := filter_of_find? hfind'
    have hmem := List.mem_of_find?_eq_some hfind
    have hmirrored := h.mirrored src dst
    rw [hrest, hrest', List.map_cons, List.map_cons, List.cons.injEq] at hmirrored
    obtain ⟨hsize, hsizes⟩ := hmirrored
    obtain ⟨hpos, hdvd⟩ := h.blocks src info hmem
    have hsum := sum_modifyFirst (fun info : NodeMemBorrowInfo => info.totalSize.toNat)
      (grow b.borrowSize) hfind
    have hle : info.totalSize.toNat ≤ ((t.lends src).map fun info => info.totalSize.toNat).sum :=
      List.single_le_sum (fun _ _ => Nat.zero_le _) _ (List.mem_map_of_mem hmem)
    have hlt : info.totalSize.toNat + b.borrowSize.toNat < 2 ^ 64 := by omega
    rw [toNat_grow hlt] at hsum
    have hgrow : ∀ a : NodeMemBorrowInfo, isDestNode dst a = true →
        isDestNode dst (grow b.borrowSize a) = true := fun _ ha => ha
    have hgrow' : ∀ a : NodeMemBorrowInfo, isSrcNode src a = true →
        isSrcNode src (grow b.borrowSize a) = true := fun _ ha => ha
    have hAB : ((modifyFirst (isDestNode dst) (grow b.borrowSize) (t.lends src)).filter
          (isDestNode dst)).map NodeMemBorrowInfo.totalSize =
        ((modifyFirst (isSrcNode src) (grow b.borrowSize) (t.borrows dst)).filter
          (isSrcNode src)).map NodeMemBorrowInfo.totalSize := by
      rw [filter_modifyFirst_self hgrow, filter_modifyFirst_self hgrow', hrest, hrest',
        List.modifyHead, List.modifyHead, List.map_cons, List.map_cons, hsizes, grow, grow, hsize]
    have howner : ∀ x ∈ modifyFirst (isSrcNode src) (grow b.borrowSize) (t.borrows dst),
        x.destNodeId = dst := by
      rintro x hx
      rcases mem_modifyFirst hx with hx | ⟨a, ha, rfl⟩
      · exact h.owner dst x hx
      · exact h.owner dst a (List.mem_of_find?_eq_some ha)
    have hblocks : ∀ x ∈ modifyFirst (isDestNode dst) (grow b.borrowSize) (t.lends src),
        0 < x.totalSize.toNat ∧ b.borrowSize.toNat ∣ x.totalSize.toNat := by
      rintro x hx
      rcases mem_modifyFirst hx with hx | ⟨a, ha, rfl⟩
      · exact h.blocks src x hx
      · obtain rfl := Option.some.inj (hfind.symm.trans ha)
        rw [toNat_grow hlt]
        exact ⟨by omega, Nat.dvd_add hdvd dvd_rfl⟩
    obtain ⟨hsound, hset⟩ := sound_of_change h _ _
      { t.memInfo src with freeMem := (t.memInfo src).freeMem - b.borrowSize } hne hborrowed hlent
      (fun y hy => filter_modifyFirst_of_disjoint (fun a ha => ⟨isDestNode_disjoint hy a ha,
        isDestNode_disjoint hy _ (hgrow a ha)⟩) _)
      (fun x hx => filter_modifyFirst_of_disjoint (fun a ha => ⟨isSrcNode_disjoint hx a ha,
        isSrcNode_disjoint hx _ (hgrow' a ha)⟩) _) hAB howner hblocks (by dsimp only; omega)
    refine ⟨hsound, hset.trans (congrArg₂ _ ?_ hleft)⟩
    rw [filter_modifyFirst_self hgrow, loans_ledger, hrest, List.modifyHead, List.map_cons,
      List.map_cons, List.sum_cons, List.sum_cons, blocksOf_grow hlt, Nat.add_right_comm]
  · -- The pair has no entry yet: both sides get the same one.
    obtain ⟨new, hnew⟩ : ∃ new : NodeMemBorrowInfo,
      new = { totalSize := b.borrowSize, srcNodeId := src, destNodeId := dst } := ⟨_, rfl⟩
    have hsize : new.totalSize = b.borrowSize := by rw [hnew]
    have hsource : ∀ x, isSrcNode x new = decide (src = x) := fun _ => by rw [hnew]; rfl
    have hdest : ∀ y, isDestNode y new = decide (dst = y) := fun _ => by rw [hnew]; rfl
    rw [heq, ← hnew]
    have hfilter : (t.lends src).filter (isDestNode dst) = [] := by
      rw [← List.head?_eq_none_iff, List.head?_filter, hnone]
    have hfilter' : (t.borrows dst).filter (isSrcNode src) = [] := by
      have hmirrored := h.mirrored src dst
      rw [hfilter] at hmirrored
      exact List.map_eq_nil_iff.1 hmirrored.symm
    have hAB : ((t.lends src ++ [new]).filter (isDestNode dst)).map NodeMemBorrowInfo.totalSize =
        ((t.borrows dst ++ [new]).filter (isSrcNode src)).map NodeMemBorrowInfo.totalSize := by
      rw [List.filter_append, List.filter_append, hfilter, hfilter']
      simp [hdest, hsource]
    have howner : ∀ x ∈ t.borrows dst ++ [new], x.destNodeId = dst := by
      rintro x hx
      rcases List.mem_append.1 hx with hx | hx
      · exact h.owner dst x hx
      · rw [List.mem_singleton.1 hx, hnew]
    have hblocks : ∀ x ∈ t.lends src ++ [new],
        0 < x.totalSize.toNat ∧ b.borrowSize.toNat ∣ x.totalSize.toNat := by
      rintro x hx
      rcases List.mem_append.1 hx with hx | hx
      · exact h.blocks src x hx
      · rw [List.mem_singleton.1 hx, hsize]
        exact ⟨borrowSize_pos b, dvd_rfl⟩
    have hsum : ((t.lends src ++ [new]).map fun info => info.totalSize.toNat).sum +
        ((t.memInfo src).freeMem - b.borrowSize).toNat < 2 ^ 64 := by
      rw [List.map_append, List.sum_append, List.map_singleton, List.sum_singleton, hsize]
      omega
    obtain ⟨hsound, hset⟩ := sound_of_change h _ _
      { t.memInfo src with freeMem := (t.memInfo src).freeMem - b.borrowSize } hne hborrowed hlent
      (fun y hy => by simp [List.filter_append, hdest, hy.symm])
      (fun x hx => by simp [List.filter_append, hsource, hx.symm]) hAB howner hblocks hsum
    refine ⟨hsound, hset.trans (congrArg₂ _ ?_ hleft)⟩
    rw [loans_ledger, List.filter_append, hfilter]
    simp [hdest, blocksOf, hsize, Nat.div_self (borrowSize_pos b)]

end MemBorrowTopo

end Ucache

end UbsEngine
