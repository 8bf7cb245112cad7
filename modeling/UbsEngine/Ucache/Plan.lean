import UbsEngine.Ucache.Strategy
import UbsEngine.Library.Lending
import Mathlib.Data.List.Sort

/-!
# The whole plan

A plan starts from what is recorded about the nodes and their loans (`UbsEngine.Ucache.init`). While
the balance asks for it, steps are planned up to a number of actions; when no node has an application
that is short of page cache, everything is returned instead (`UbsEngine.Ucache.start`).
-/

namespace UbsEngine

namespace Ucache

open Lending

variable {U F : Type} (p : Planner U F) (s : BorrowStrategy U F)

/-- `Init`. -/
def init (nodeIdToNodeStatMap : Map String (BorrowNodeStat U F)) (globalMemBorrowTopo : MemBorrowTopo) :
    UcacheRet × BorrowStrategy U F :=
  let s : BorrowStrategy U F := { nodeIdToNodeStatMap }
  if nodeIdToNodeStatMap.keys.isEmpty then (.scarcityInvalidInput, s)
  else
    (.ok,
      { s with
        nodeStats := p.sortNodeByScarcity (scarcityOf p s)
          (nodeIdToNodeStatMap.keys.insertionSort (· ≤ ·))
        curBorrowTopo := globalMemBorrowTopo })

/-- `ShouldBorrow`. Without a node there is no first one to look at. -/
def shouldBorrow : Bool :=
  match s.nodeStats.head? with
  | none => false
  | some front =>
    if p.ops.lt (scarcityOf p s front) p.scarcityThreshold then false
    else p.ops.lt p.balanceThreshold (getBalance p s)

/-! ### Returning everything -/

/-- `RaclaimMemoryOneNode`, for the whole blocks of a loan. -/
def raclaimMemoryOneNode (src dst : String) :
    Nat → List BorrowAction → UcacheRet × List BorrowAction
  | 0, borrowActionSet => (.ok, borrowActionSet)
  | blocks + 1, borrowActionSet =>
    let borrowActionSet := borrowActionSet ++ [⟨.return, p.borrowSize, src, dst⟩]
    if p.maxActionSize ≤ borrowActionSet.length then (.borrowScarcityLimit, borrowActionSet)
    else raclaimMemoryOneNode src dst blocks borrowActionSet

/-- The blocks of a loan. -/
def blocksOf (b : BorrowSize) (info : NodeMemBorrowInfo) : Nat :=
  info.totalSize.toNat / b.borrowSize.toNat

/-- The inner loop of `ReclaimAllMemory`. -/
def reclaimInfos :
    List NodeMemBorrowInfo → List BorrowAction → UcacheRet × List BorrowAction
  | [], borrowActionSet => (.ok, borrowActionSet)
  | info :: infos, borrowActionSet =>
    match raclaimMemoryOneNode p info.srcNodeId info.destNodeId (blocksOf p.toBorrowSize info)
      borrowActionSet with
    | (.ok, borrowActionSet) => reclaimInfos infos borrowActionSet
    | r => r

/-- The outer loop, over the nodes that borrow. -/
def reclaimNodes (t : MemBorrowTopo) :
    List String → List BorrowAction → UcacheRet × List BorrowAction
  | [], borrowActionSet => (.ok, borrowActionSet)
  | node :: nodes, borrowActionSet =>
    match reclaimInfos p (t.borrows node) borrowActionSet with
    | (.ok, borrowActionSet) => reclaimNodes t nodes borrowActionSet
    | r => r

def reclaimAllMemory : BorrowStrategy U F :=
  { s with
    borrowActionSet := (reclaimNodes p s.curBorrowTopo
      (s.curBorrowTopo.borrowMap.keys.insertionSort (· ≤ ·)) s.borrowActionSet).2 }

/-! ### Planning -/

/-- The loop of `Start`. Every turn of it adds an action, so that it ends by itself
(`UbsEngine.Ucache.schedule_stops`). -/
def schedule : Nat → UcacheRet → BorrowStrategy U F → UcacheRet × BorrowStrategy U F
  | 0, ret, s => (ret, s)
  | fuel + 1, ret, s =>
    if ret = .ok ∧ shouldBorrow p s = true ∧ s.borrowActionSet.length < p.maxActionSize then
      schedule fuel (calBorrowStrategy p s).1 (calBorrowStrategy p s).2
    else (ret, s)

def start : BorrowStrategy U F :=
  if s.nodeStats.any (hasPagecacheApp s) then (schedule p p.maxActionSize .ok s).2
  else reclaimAllMemory p s

/-- `GetActionSet` after `Init` and `Start`, as the master calls them. -/
def plannedActions (nodeIdToNodeStatMap : Map String (BorrowNodeStat U F))
    (globalMemBorrowTopo : MemBorrowTopo) : List BorrowAction :=
  match init p nodeIdToNodeStatMap globalMemBorrowTopo with
  | (.ok, s) => (start p s).borrowActionSet
  | (_, _) => []

/-! ### What a plan is about -/

/-- The blocks that are lent, and those that the nodes still have to lend. -/
def ledger (b : BorrowSize) (t : MemBorrowTopo) : Ledger String where
  loans src dst := (((t.lends src).filter (MemBorrowTopo.isDestNode dst)).map (blocksOf b)).sum
  free node := (t.memInfo node).freeMem.toNat / b.borrowSize.toNat

theorem loans_ledger (b : BorrowSize) (t : MemBorrowTopo) (src dst : String) :
    (ledger b t).loans src dst =
      (((t.lends src).filter (MemBorrowTopo.isDestNode dst)).map (blocksOf b)).sum := rfl

theorem free_ledger (b : BorrowSize) (t : MemBorrowTopo) (node : String) :
    (ledger b t).free node = (t.memInfo node).freeMem.toNat / b.borrowSize.toNat := rfl

/-- What an action does with a block. -/
def BorrowAction.deal (action : BorrowAction) : Deal String :=
  match action.type with
  | .borrow => .lend action.srcNodeId action.destNodeId
  | .return => .giveBack action.srcNodeId action.destNodeId

/-- Both maps tell the same about each pair of nodes, in whole blocks, nothing passes through a node,
and nothing is larger than memory. -/
structure MemBorrowTopo.Sound (b : BorrowSize) (t : MemBorrowTopo) : Prop where
  mirrored : ∀ src dst,
    ((t.lends src).filter (isDestNode dst)).map NodeMemBorrowInfo.totalSize =
      ((t.borrows dst).filter (isSrcNode src)).map NodeMemBorrowInfo.totalSize
  owner : ∀ dst, ∀ info ∈ t.borrows dst, info.destNodeId = dst
  blocks : ∀ src, ∀ info ∈ t.lends src, 0 < info.totalSize.toNat ∧
    b.borrowSize.toNat ∣ info.totalSize.toNat
  room : ∀ src, ((t.lends src).map fun info => info.totalSize.toNat).sum +
    (t.memInfo src).freeMem.toNat < 2 ^ 64
  oneSided : ∀ node, t.lends node = [] ∨ t.borrows node = []

namespace MemBorrowTopo

variable {b : BorrowSize} {t : MemBorrowTopo} {src dst : String}

theorem borrowSize_pos (b : BorrowSize) : 0 < b.borrowSize.toNat := by
  have hne := b.ne_zero
  by_contra hzero
  exact hne (BitVec.eq_of_toNat_eq (by simpa using hzero))

/-- A loan is of one block at least. -/
theorem Sound.blocksOf_pos (h : t.Sound b) {info : NodeMemBorrowInfo} (hinfo : info ∈ t.lends src) :
    0 < blocksOf b info := by
  obtain ⟨hpos, hdvd⟩ := h.blocks src info hinfo
  exact Nat.div_pos (Nat.le_of_dvd hpos hdvd) (borrowSize_pos b)

/-- The loans from the other side. -/
theorem Sound.loans_eq (h : t.Sound b) (src dst : String) :
    (ledger b t).loans src dst = (((t.borrows dst).filter (isSrcNode src)).map (blocksOf b)).sum := by
  have hblocks : ∀ infos : List NodeMemBorrowInfo, infos.map (blocksOf b) =
      (infos.map NodeMemBorrowInfo.totalSize).map fun size => size.toNat / b.borrowSize.toNat := by
    intro infos
    rw [List.map_map]
    rfl
  rw [loans_ledger, hblocks, h.mirrored, ← hblocks]

/-- Nothing is lent if there is no loan. -/
theorem Sound.lends_eq_nil (h : t.Sound b) (src : String) :
    t.lends src = [] ↔ ∀ dst, (ledger b t).loans src dst = 0 := by
  constructor
  · rintro hnil dst
    rw [loans_ledger, hnil]
    rfl
  · rintro hzero
    rcases hlends : t.lends src with _ | ⟨info, infos⟩
    · rfl
    · have hmem : info ∈ t.lends src := by
        rw [hlends]
        exact List.mem_cons_self
      have hsum := List.sum_eq_zero_iff.1 (hzero info.destNodeId) (blocksOf b info)
        (List.mem_map_of_mem (List.mem_filter.2 ⟨hmem, decide_eq_true rfl⟩))
      exact absurd hsum (h.blocksOf_pos hmem).ne'

theorem Sound.borrows_eq_nil (h : t.Sound b) (dst : String) :
    t.borrows dst = [] ↔ ∀ src, (ledger b t).loans src dst = 0 := by
  constructor
  · rintro hnil src
    rw [h.loans_eq, hnil]
    rfl
  · rintro hzero
    rcases hborrows : t.borrows dst with _ | ⟨info, infos⟩
    · rfl
    · -- The entry on the other side shows a block.
      have hmem : info.totalSize ∈ ((t.borrows dst).filter (isSrcNode info.srcNodeId)).map
          NodeMemBorrowInfo.totalSize := by
        rw [hborrows]
        exact List.mem_map_of_mem (List.mem_filter.2 ⟨List.mem_cons_self, decide_eq_true rfl⟩)
      rw [← h.mirrored] at hmem
      obtain ⟨info', hinfo', -⟩ := List.mem_map.1 hmem
      have hsum := List.sum_eq_zero_iff.1 (hzero info.srcNodeId) (blocksOf b info')
        (List.mem_map_of_mem hinfo')
      exact absurd hsum (h.blocksOf_pos (List.mem_filter.1 hinfo').1).ne'

theorem Sound.oneSided_ledger (h : t.Sound b) : (ledger b t).OneSided := fun node =>
  (h.oneSided node).imp (h.lends_eq_nil node).1 (h.borrows_eq_nil node).1

end MemBorrowTopo

end Ucache

end UbsEngine
