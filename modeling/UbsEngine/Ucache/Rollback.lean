import UbsEngine.Ucache.Strategy
import Mathlib.Algebra.Order.Ring.Unbundled.Rat
import Mathlib.Data.List.Sort

/-!
# Undoing a step that makes the balance worse

A step ends with `borrowScarcityShock` when the balance has got worse, and then its actions are taken
back. The statistics of a loan are taken back, but the topology that the loan was entered in is not,
and those of a return are changed once more in the same direction: the state before the step never
comes back (`UbsEngine.Ucache.not_restored`).
-/

namespace UbsEngine

namespace Ucache

/-! ### The topology after an action -/

namespace MemBorrowTopo

variable {t : MemBorrowTopo} {b : BorrowSize} {physicalTopo : PhysicalTopo} {src dst : String}

theorem shrink_ne (info : NodeMemBorrowInfo) : shrink b.borrowSize info ≠ info := by
  intro heq
  have htotal : info.totalSize - b.borrowSize = info.totalSize := congrArg (·.totalSize) heq
  have hne := b.ne_zero
  bv_omega

theorem grow_ne (info : NodeMemBorrowInfo) : grow b.borrowSize info ≠ info := by
  intro heq
  have htotal : info.totalSize + b.borrowSize = info.totalSize := congrArg (·.totalSize) heq
  have hne := b.ne_zero
  bv_omega

/-- Deleting a loan changes what the node has lent. -/
theorem lends_deleteNodeMemBorrowInfo_ne
    (h : (t.deleteNodeMemBorrowInfo b physicalTopo src dst).1 = .ok) :
    (t.deleteNodeMemBorrowInfo b physicalTopo src dst).2.lends src ≠ t.lends src := by
  obtain ⟨info, info', -, hfind, -, heq⟩ := deleteNodeMemBorrowInfo_of_ok h
  rw [heq, lends_setMemInfo, lends_setBorrows, lends_setLends, if_pos rfl]
  unfold takeBack
  split
  · exact eraseP_ne hfind
  · exact modifyFirst_ne hfind (shrink_ne info)

/-- Adding a loan changes what the node has lent. -/
theorem lends_addNodeMemBorrowInfo_ne
    (h : (t.addNodeMemBorrowInfo b physicalTopo src dst).1 = .ok) :
    (t.addNodeMemBorrowInfo b physicalTopo src dst).2.lends src ≠ t.lends src := by
  obtain ⟨-, ⟨info, info', hfind, -, heq⟩ | ⟨-, heq⟩⟩ := addNodeMemBorrowInfo_of_ok h
  · rw [heq, lends_setMemInfo, lends_setBorrows, lends_setLends, if_pos rfl]
    exact modifyFirst_ne hfind (grow_ne info)
  · rw [heq, lends_setMemInfo, lends_setBorrows, lends_setLends, if_pos rfl]
    exact fun happend => List.cons_ne_nil _ _ (List.append_right_eq_self.1 happend)

end MemBorrowTopo

/-! ### Taking back an action -/

section Undo

variable {U F : Type} {p : Planner U F} {s t : BorrowStrategy U F}

/-- The statistics after an action has been taken back. -/
def undone (p : Planner U F) (action : BorrowAction)
    (stats : Map String (BorrowNodeStat U F)) : Map String (BorrowNodeStat U F) :=
  match action.type with
  | .borrow =>
    (stats.modify action.destNodeId fun stat => stat.lendMem p.ops p.borrowSize).modify
      action.srcNodeId fun stat => stat.borrowMem p.ops p.borrowSize
  | .return =>
    (stats.modify action.srcNodeId fun stat => stat.restoreMem p.ops p.borrowSize).modify
      action.destNodeId fun stat => stat.borrowMem p.ops p.borrowSize

theorem curBorrowTopo_restoreActionSet (p : Planner U F) (s : BorrowStrategy U F) :
    (restoreActionSet p s).curBorrowTopo = s.curBorrowTopo := by
  unfold restoreActionSet
  split
  · rfl
  · split
    · dsimp only
      rw [((sameButNodes_insert p _ _).trans (sameButNodes_insert p _ _)).topo]
      split <;> rfl
    · rfl

/-- The last action is taken back, or nothing happens. -/
theorem restoreActionSet_of_append {action : BorrowAction} {actions : List BorrowAction}
    (h : s.borrowActionSet = actions ++ [action]) :
    ((restoreActionSet p s).borrowActionSet = actions ∧
      (restoreActionSet p s).nodeIdToNodeStatMap = undone p action s.nodeIdToNodeStatMap ∧
      known s action.srcNodeId = true) ∨ restoreActionSet p s = s := by
  unfold restoreActionSet
  rw [h, List.getLast?_concat]
  dsimp only
  split
  next hknown =>
    refine Or.inl ⟨?_, ?_, (Bool.and_eq_true_iff.1 hknown).1⟩
    · rw [((sameButNodes_insert p _ _).trans (sameButNodes_insert p _ _)).actions]
      have hsame : ∀ u : BorrowStrategy U F, u.borrowActionSet = s.borrowActionSet →
          u.borrowActionSet.dropLast = actions := by
        intro u hu
        rw [hu, h, List.dropLast_concat]
      refine hsame _ ?_
      split <;> rfl
    · rw [((sameButNodes_insert p _ _).trans (sameButNodes_insert p _ _)).stats]
      rcases action with ⟨_ | _, totalSize, src, dst⟩ <;> rfl
  next => exact Or.inr rfl

end Undo

/-! ### A step that is undone -/

section Step

variable {U F : Type} {p : Planner U F} {s : BorrowStrategy U F}

/-- The planning state before a step is back after it. -/
structure Restored (s t : BorrowStrategy U F) : Prop where
  actions : t.borrowActionSet = s.borrowActionSet
  stats : ∀ node, t.nodeIdToNodeStatMap.lookup node = s.nodeIdToNodeStatMap.lookup node
  lends : ∀ node, t.curBorrowTopo.lends node = s.curBorrowTopo.lends node
  borrows : ∀ node, t.curBorrowTopo.borrows node = s.curBorrowTopo.borrows node
  freeMem : ∀ node, (t.curBorrowTopo.memInfo node).freeMem = (s.curBorrowTopo.memInfo node).freeMem

/-! The operations of a step have their own errors; only the step itself reports a shock. -/

theorem deleteNodeMemBorrowInfo_ne_shock (t : MemBorrowTopo) (b : BorrowSize)
    (physicalTopo : PhysicalTopo) (src dst : String) :
    (t.deleteNodeMemBorrowInfo b physicalTopo src dst).1 ≠ .borrowScarcityShock := by
  unfold MemBorrowTopo.deleteNodeMemBorrowInfo
  split
  · exact fun h => nomatch h
  split
  · exact fun h => nomatch h
  dsimp only
  split <;> exact fun h => nomatch h

theorem addNodeMemBorrowInfo_ne_shock (t : MemBorrowTopo) (b : BorrowSize)
    (physicalTopo : PhysicalTopo) (src dst : String) :
    (t.addNodeMemBorrowInfo b physicalTopo src dst).1 ≠ .borrowScarcityShock := by
  unfold MemBorrowTopo.addNodeMemBorrowInfo
  split
  · exact fun h => nomatch h
  dsimp only
  split
  · split <;> exact fun h => nomatch h
  · exact fun h => nomatch h

theorem addReturnAction_ne_shock (p : Planner U F) (s : BorrowStrategy U F) (src dst : String) :
    (addReturnAction p s src dst).1 ≠ .borrowScarcityShock := by
  unfold addReturnAction
  dsimp only
  split
  · exact deleteNodeMemBorrowInfo_ne_shock _ _ _ _ _
  · exact fun h => nomatch h

theorem addBorrowAction_ne_shock (p : Planner U F) (s : BorrowStrategy U F) (src dst : String) :
    (addBorrowAction p s src dst).1 ≠ .borrowScarcityShock := by
  unfold addBorrowAction
  dsimp only
  split
  · exact addNodeMemBorrowInfo_ne_shock _ _ _ _ _
  · exact fun h => nomatch h

theorem reclaimLoanedMemory_ne_shock (p : Planner U F) (s : BorrowStrategy U F) (node : String) :
    (reclaimLoanedMemory p s node).1 ≠ .borrowScarcityShock := by
  unfold reclaimLoanedMemory
  dsimp only
  split
  · exact fun h => nomatch h
  · exact addReturnAction_ne_shock _ _ _ _

theorem tryBorrow_ne_shock (p : Planner U F) (s : BorrowStrategy U F) (node : String)
    (connectNodes : List String) : (tryBorrow p s node connectNodes).1 ≠ .borrowScarcityShock := by
  induction connectNodes with
  | nil => exact fun h => nomatch h
  | cons dst connectNodes ih =>
    unfold tryBorrow
    split
    · exact addBorrowAction_ne_shock _ _ _ _
    split
    · dsimp only
      split
      · exact reclaimLoanedMemory_ne_shock _ _ _
      · exact addBorrowAction_ne_shock _ _ _ _
    · exact ih

theorem reclaimOrBorrow_ne_shock (p : Planner U F) (s : BorrowStrategy U F) (node : String) :
    (reclaimOrBorrow p s node).1 ≠ .borrowScarcityShock := by
  unfold reclaimOrBorrow
  split
  · exact reclaimLoanedMemory_ne_shock _ _ _
  unfold borrowMemory
  dsimp only
  split
  · unfold checkBorrowSize
    dsimp only
    split <;> exact fun h => nomatch h
  · exact tryBorrow_ne_shock _ _ _ _

/-- A step that ends with a shock has succeeded, and was then undone. -/
theorem calBorrowStrategy_of_shock (h : (calBorrowStrategy p s).1 = .borrowScarcityShock) :
    ∃ node t, StepDone p node (eraseBorrowNodeStat { s with addTwoActions := false } node) t ∧
      (calBorrowStrategy p s).2 = if t.addTwoActions then
        restoreActionSet p (restoreActionSet p t) else restoreActionSet p t := by
  unfold calBorrowStrategy at h ⊢
  dsimp only at h ⊢
  split at h
  · exact nomatch h
  next node _ =>
    have hdone := @reclaimOrBorrow_of_ok _ _ p
      (eraseBorrowNodeStat { s with addTwoActions := false } node) node
    have hne := reclaimOrBorrow_ne_shock p
      (eraseBorrowNodeStat { s with addTwoActions := false } node) node
    generalize reclaimOrBorrow p (eraseBorrowNodeStat { s with addTwoActions := false } node)
      node = r at h hdone hne ⊢
    by_cases hok : r.1 = .ok
    · rw [if_neg (not_not.2 hok)] at h ⊢
      split at h
      next hworse =>
        refine ⟨node, r.2, hdone hok, ?_⟩
        rw [if_pos hworse]
      next => exact absurd h hne
    · rw [if_pos hok] at h
      exact absurd h hne

/-! ### The memory of a node that lends after taking back -/

/-- Taking back both actions leaves the lender with more free memory than before. -/
theorem lookup_undone_ne {stats : Map String (BorrowNodeStat U F)} {node dst dest : String}
    {stat : BorrowNodeStat U F} (hstat : stats.lookup dst = some stat) (hne : dst ≠ node) :
    (undone p ⟨.return, p.borrowSize, dst, dest⟩ (undone p ⟨.borrow, p.borrowSize, dst, node⟩
      ((((stats.modify dest fun stat => stat.returnMem p.ops p.borrowSize).modify dst
        fun stat => stat.borrowMem p.ops p.borrowSize).modify dst
          fun stat => stat.lendMem p.ops p.borrowSize).modify node
            fun stat => stat.borrowMem p.ops p.borrowSize))).lookup dst ≠ some stat := by
  have hzero := p.ne_zero
  have hsize := p.borrowSize_le
  have hshare := p.ops.freeShare_le stat.borrowedMemUsage p.borrowSize
  unfold maxBorrowSize at hsize
  intro heq
  have hfree := congrArg (Option.map BorrowNodeStat.freeMem) heq
  unfold undone at hfree
  dsimp only at hfree
  rcases eq_or_ne dest dst with rfl | hdest
  · simp only [Map.lookup_modify, if_pos, if_neg hne, hstat, Option.map_some] at hfree
    have hsum : stat.freeMem - p.ops.freeShare stat.borrowedMemUsage p.borrowSize + p.borrowSize -
        p.borrowSize + p.borrowSize + p.ops.freeShare stat.borrowedMemUsage p.borrowSize +
        p.borrowSize = stat.freeMem := Option.some.inj hfree
    generalize p.ops.freeShare stat.borrowedMemUsage p.borrowSize = share at hsum
    bv_omega
  · simp only [Map.lookup_modify, if_pos, if_neg hne, if_neg hdest.symm, hstat, Option.map_some]
      at hfree
    have hsum : stat.freeMem + p.borrowSize - p.borrowSize + p.borrowSize +
        p.ops.freeShare stat.borrowedMemUsage p.borrowSize = stat.freeMem := Option.some.inj hfree
    generalize p.ops.freeShare stat.borrowedMemUsage p.borrowSize = share at hsum hshare
    bv_omega

/-- A node that has lent nothing is not the one that has lent to another node. -/
theorem ne_of_hasLendMemExceptDst {t : MemBorrowTopo} {node dst : String}
    (hlent : t.hasLentMem node = false) (hexcept : t.hasLendMemExceptDst dst node = true) :
    dst ≠ node := by
  rintro rfl
  unfold MemBorrowTopo.hasLentMem at hlent
  rw [Bool.not_eq_false', List.isEmpty_iff] at hlent
  rw [MemBorrowTopo.hasLendMemExceptDst, hlent] at hexcept
  exact nomatch hexcept

/-- A step of two actions that is undone, or of which a part is not. -/
theorem not_restored_both {t u : BorrowStrategy U F} {node dst dest : String}
    (hne : dst ≠ node) (hreturned : Returned p dst dest s u) (hborrowed : Borrowed p dst node u t) :
    ¬Restored s (restoreActionSet p (restoreActionSet p t)) := by
  intro h
  have hactions := h.actions
  rcases restoreActionSet_of_append (p := p) hborrowed.actions with ⟨hfirst, hstats, -⟩ | hfirst
  · have hlast := hfirst.trans hreturned.actions
    rcases restoreActionSet_of_append (p := p) hlast with ⟨-, hstats', hknown⟩ | hsecond
    · -- both are taken back: the lender is left with too much
      have hlookup := h.stats dst
      rw [hstats', hstats, hborrowed.stats, hreturned.stats] at hlookup
      obtain ⟨stat, hstat⟩ | hnone : (∃ stat, s.nodeIdToNodeStatMap.lookup dst = some stat) ∨
          s.nodeIdToNodeStatMap.lookup dst = none := by
        cases s.nodeIdToNodeStatMap.lookup dst with
        | none => exact Or.inr rfl
        | some stat => exact Or.inl ⟨stat, rfl⟩
      · exact lookup_undone_ne hstat hne (hlookup.trans hstat)
      · rw [known, hstats, hborrowed.stats, hreturned.stats] at hknown
        unfold undone at hknown
        simp only [Map.lookup_modify, if_pos, if_neg hne, hnone, Option.map_none, ite_self,
          Option.isSome_none] at hknown
        exact nomatch hknown
    · rw [hsecond, hlast] at hactions
      exact List.cons_ne_nil _ _ (List.append_right_eq_self.1 hactions)
  · rw [hfirst, hfirst, hborrowed.actions, hreturned.actions, List.append_assoc] at hactions
    exact List.cons_ne_nil _ _ (List.append_right_eq_self.1 hactions)

/-- **No step that makes the balance worse is undone**: the state before it never comes back. -/
theorem not_restored (p : Planner U F) (s : BorrowStrategy U F)
    (h : (calBorrowStrategy p s).1 = .borrowScarcityShock) :
    ¬Restored s (calBorrowStrategy p s).2 := by
  obtain ⟨node, t, hdone, hundone⟩ := calBorrowStrategy_of_shock h
  have htopo : (calBorrowStrategy p s).2.curBorrowTopo = t.curBorrowTopo := by
    rw [hundone]
    split
    · rw [curBorrowTopo_restoreActionSet, curBorrowTopo_restoreActionSet]
    · rw [curBorrowTopo_restoreActionSet]
  rcases hdone with ⟨dest, -, hreturned⟩ | ⟨dst, -, -, hborrowed⟩ |
    ⟨dst, dest, u, hlent, hexcept, hreturned, hborrowed, htwo⟩
  · -- the topology stays as the return left it
    intro hrestored
    have hlends := hrestored.lends node
    rw [htopo] at hlends
    exact MemBorrowTopo.lends_deleteNodeMemBorrowInfo_ne (congrArg Prod.fst hreturned.topo)
      ((congrArg (fun r => r.2.lends node) hreturned.topo).trans hlends)
  · intro hrestored
    have hlends := hrestored.lends dst
    rw [htopo] at hlends
    exact MemBorrowTopo.lends_addNodeMemBorrowInfo_ne (congrArg Prod.fst hborrowed.topo)
      ((congrArg (fun r => r.2.lends dst) hborrowed.topo).trans hlends)
  · rw [hundone, if_pos htwo]
    intro hrestored
    refine not_restored_both (ne_of_hasLendMemExceptDst hlent hexcept) hreturned hborrowed ?_
    exact ⟨hrestored.actions, hrestored.stats, hrestored.lends, hrestored.borrows,
      hrestored.freeMem⟩

end Step

/-! ### Two nodes -/

/-- Scarcities as rational numbers. -/
def rationalOps : ScarcityOps Unit ℚ where
  zero := 0
  one := 1
  isZero a := a == 0
  lt a b := a < b
  div a b := a / b
  scarcity weight used free := weight * ((used.toNat : ℚ) / ((used + free).toNat : ℚ))
  freeShare _ size := size
  cacheShare _ _ := 0
  freeShare_le _ _ := BitVec.le_refl _

/-- Sorting by a rational number, the largest first. -/
def sortDescending (scarcity : String → ℚ) (nodes : List String) : List String :=
  nodes.insertionSort fun a b => scarcity b ≤ scarcity a

/-- Two linked nodes. -/
def twoNodes : Planner Unit ℚ where
  borrowSize := 0x40000000
  le_borrowSize := by decide
  borrowSize_le := by decide
  ops := rationalOps
  maxActionSize := 10
  balanceThreshold := 1
  scarcityThreshold := 1 / 100
  masterMaxBorrowSize := 0x100000000
  physicalTopo := Map.ofKeys ["1", "2"] fun node => if node = "1" then ["2"] else ["1"]
  sortNodeByScarcity := sortDescending
  sort_perm _ nodes := List.perm_insertionSort _ nodes
  sort_sorted := by
    intro scarcity nodes
    have htotal : Std.Total fun a b : String => scarcity b ≤ scarcity a :=
      ⟨fun a b => le_total (scarcity b) (scarcity a)⟩
    have htrans : IsTrans String fun a b => scarcity b ≤ scarcity a :=
      ⟨fun a b c hab hbc => hbc.trans hab⟩
    refine (List.pairwise_insertionSort _ nodes).imp fun hle => ?_
    exact decide_eq_false (not_lt.2 hle)

/-- A node with as much page cache as free memory, and its neighbour with 2 GB of page cache and 3 GB
of free memory. -/
def twoNodesState : BorrowStrategy Unit ℚ where
  nodeIdToNodeStatMap := Map.ofKeys ["1", "2"] fun node =>
    if node = "1" then ⟨1, 0x40000000, 0x40000000, (), 1, 1 / 2⟩
    else ⟨0, 0x80000000, 0xC0000000, (), 1, 2 / 5⟩
  nodeStats := ["1", "2"]
  curBorrowTopo :=
    { lendMap := Map.ofKeys ["1", "2"] fun _ => []
      borrowMap := Map.ofKeys ["1", "2"] fun _ => []
      borrowMemInfoPerNodeMap := Map.ofKeys ["1", "2"] fun _ =>
        ⟨Map.ofKeys [0] fun _ => 0xC0000000, 0xC0000000, 0xC0000000⟩ }

/-- The first node borrows 1 GB, the second one is then the scarcer one, and the balance is 3 / 2
after 5 / 4. -/
theorem calBorrowStrategy_twoNodes :
    (calBorrowStrategy twoNodes twoNodesState).1 = .borrowScarcityShock := by
  decide +kernel

theorem not_restored_twoNodes :
    ¬Restored twoNodesState (calBorrowStrategy twoNodes twoNodesState).2 :=
  not_restored twoNodes twoNodesState calBorrowStrategy_twoNodes

/-- The loan of the undone step stays in the topology. -/
theorem not_all_restored :
    ¬∀ s, (calBorrowStrategy twoNodes s).1 = .borrowScarcityShock →
      Restored s (calBorrowStrategy twoNodes s).2 := by
  intro h
  have hlends := (h twoNodesState calBorrowStrategy_twoNodes).lends "2"
  exact absurd hlends (by decide +kernel)

end Ucache

end UbsEngine
