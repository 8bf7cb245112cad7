import UbsEngine.Ucache.Topo

/-!
# Planning loans by scarcity

The planner keeps the nodes sorted by how scarce their page cache is and moves memory from the least
scarce nodes to the most scarce one. One step of it is `UbsEngine.Ucache.calBorrowStrategy`: the
scarcest node takes back memory that it has lent, or borrows from a neighbour, which may have to take
back memory first. If the balance gets worse, the step is undone
(`UbsEngine.Ucache.restoreActionSet`) and planning ends.

Scarcities are numbers of floating point. They are a parameter here, with the comparisons and
quotients that the planner makes (`UbsEngine.Ucache.ScarcityOps`).
-/

namespace UbsEngine

namespace Ucache

/-! ### Scarcity -/

/-- The arithmetic of scarcities `F`, and of the shares `U` of the borrowed memory that are used. -/
structure ScarcityOps (U F : Type) where
  zero : F
  one : F
  isZero : F → Bool
  lt : F → F → Bool
  div : F → F → F
  /-- The weighted share of the page cache in the memory that is used for it or free. -/
  scarcity : F → BitVec 64 → BitVec 64 → F
  /-- `static_cast<uint64_t>(size * (1 - borrowedMemUsage))`. -/
  freeShare : U → BitVec 64 → BitVec 64
  /-- `static_cast<uint64_t>(size * borrowedMemUsage)`. -/
  cacheShare : U → BitVec 64 → BitVec 64
  /-- A usage is between 0 and 1. -/
  freeShare_le : ∀ u size, freeShare u size ≤ size

/-- The memory of a node, as the planner reckons with it. -/
structure BorrowNodeStat (U F : Type) where
  pagecacheAppNums : Int
  usedPagecache : BitVec 64
  freeMem : BitVec 64
  borrowedMemUsage : U
  scarParam : F
  scarcity : F
deriving DecidableEq

namespace BorrowNodeStat

variable {U F : Type} (ops : ScarcityOps U F) (stat : BorrowNodeStat U F) (size : BitVec 64)

/-- `CalScarcity`. -/
def calScarcity : BorrowNodeStat U F :=
  { stat with
    scarcity :=
      if stat.usedPagecache + stat.freeMem = 0 then ops.zero
      else ops.scarcity stat.scarParam stat.usedPagecache stat.freeMem }

/-- `ReturnMem`. -/
def returnMem : BorrowNodeStat U F :=
  calScarcity ops
    { stat with
      freeMem := stat.freeMem - ops.freeShare stat.borrowedMemUsage size
      usedPagecache := stat.usedPagecache - ops.cacheShare stat.borrowedMemUsage size }

/-- `LendMem`. -/
def lendMem : BorrowNodeStat U F := calScarcity ops { stat with freeMem := stat.freeMem - size }

/-- `BorrowMem`. -/
def borrowMem : BorrowNodeStat U F := calScarcity ops { stat with freeMem := stat.freeMem + size }

/-- `RestoreMem`. -/
def restoreMem : BorrowNodeStat U F :=
  calScarcity ops
    { stat with
      freeMem := stat.freeMem + ops.freeShare stat.borrowedMemUsage size
      usedPagecache := stat.usedPagecache + ops.cacheShare stat.borrowedMemUsage size }

end BorrowNodeStat

/-! ### The state of the planner -/

inductive ActionType
  | borrow
  | return
deriving DecidableEq, Repr

structure BorrowAction where
  type : ActionType
  totalSize : BitVec 64
  srcNodeId : String
  destNodeId : String
deriving DecidableEq, Repr

/-- What a planner is given: the arithmetic, the configuration, the links, and how `std::sort` orders
nodes by scarcity, the scarcest first; the order of equal scarcities is up to the library. -/
structure Planner (U F : Type) extends BorrowSize where
  ops : ScarcityOps U F
  maxActionSize : Nat
  balanceThreshold : F
  scarcityThreshold : F
  masterMaxBorrowSize : BitVec 64
  physicalTopo : PhysicalTopo
  sortNodeByScarcity : (String → F) → List String → List String
  sort_perm : ∀ scarcity nodes, (sortNodeByScarcity scarcity nodes).Perm nodes
  sort_sorted : ∀ scarcity nodes, (sortNodeByScarcity scarcity nodes).Pairwise
    fun a b => ops.lt (scarcity a) (scarcity b) = false

/-- The state of the planner. The pointers of `nodeStats` are the keys of the records that they point
to. -/
structure BorrowStrategy (U F : Type) where
  nodeIdToNodeStatMap : Map String (BorrowNodeStat U F)
  nodeStats : List String := []
  curBorrowTopo : MemBorrowTopo := {}
  borrowActionSet : List BorrowAction := []
  addTwoActions : Bool := false

section Planner

variable {U F : Type} (p : Planner U F) (s : BorrowStrategy U F)

/-- The scarcity of a node. -/
def scarcityOf (node : String) : F :=
  ((s.nodeIdToNodeStatMap.lookup node).map BorrowNodeStat.scarcity).getD p.ops.zero

/-- The node is in `nodeIdToNodeStatMap`. -/
def known (node : String) : Bool := (s.nodeIdToNodeStatMap.lookup node).isSome

def updateStat (node : String) (f : BorrowNodeStat U F → BorrowNodeStat U F) :
    BorrowStrategy U F :=
  { s with nodeIdToNodeStatMap := s.nodeIdToNodeStatMap.modify node f }

/-- A list with an element in front of the first one that satisfies `stop`. -/
def insertBefore (stop : String → Bool) (node : String) : List String → List String
  | [] => [node]
  | x :: l => if stop x then node :: x :: l else x :: insertBefore stop node l

/-- `InsertBorrowNodeStat`: a node without any scarcity is not inserted. -/
def insertBorrowNodeStat (node : String) : BorrowStrategy U F :=
  if p.ops.isZero (scarcityOf p s node) then s
  else
    { s with
      nodeStats := insertBefore
        (fun x => p.ops.lt (scarcityOf p s x) (scarcityOf p s node)) node s.nodeStats }

/-- `EraseBorrowNodeStat`. -/
def eraseBorrowNodeStat (node : String) : BorrowStrategy U F :=
  { s with nodeStats := s.nodeStats.erase node }

/-- `GetBalance`: the largest scarcity by the smallest. -/
def getBalance : F :=
  match s.nodeStats.head?, s.nodeStats.getLast? with
  | some front, some back =>
    if p.ops.isZero (scarcityOf p s back) then p.ops.one
    else p.ops.div (scarcityOf p s front) (scarcityOf p s back)
  | _, _ => p.ops.one

/-! ### Actions -/

/-- `AddReturnAction`. -/
def addReturnAction (src dst : String) : UcacheRet × BorrowStrategy U F :=
  let r := s.curBorrowTopo.deleteNodeMemBorrowInfo p.toBorrowSize p.physicalTopo src dst
  let s := { s with curBorrowTopo := r.2 }
  if r.1 ≠ .ok then (r.1, s)
  else
    let s := { s with
      borrowActionSet := s.borrowActionSet ++ [⟨.return, p.borrowSize, src, dst⟩] }
    let s := updateStat s dst fun stat => stat.returnMem p.ops p.borrowSize
    (.ok, updateStat s src fun stat => stat.borrowMem p.ops p.borrowSize)

/-- `AddBorrowAction`. -/
def addBorrowAction (src dst : String) : UcacheRet × BorrowStrategy U F :=
  let r := s.curBorrowTopo.addNodeMemBorrowInfo p.toBorrowSize p.physicalTopo src dst
  let s := { s with curBorrowTopo := r.2 }
  if r.1 ≠ .ok then (r.1, s)
  else
    let s := { s with
      borrowActionSet := s.borrowActionSet ++ [⟨.borrow, p.borrowSize, src, dst⟩] }
    let s := updateStat s src fun stat => stat.lendMem p.ops p.borrowSize
    (.ok, updateStat s dst fun stat => stat.borrowMem p.ops p.borrowSize)

/-- `HasAvailableMemToBorrow`. -/
def hasAvailableMemToBorrow (nodeId : String) : Bool :=
  match s.curBorrowTopo.borrowMemInfoPerNodeMap.lookup nodeId,
    s.nodeIdToNodeStatMap.lookup nodeId with
  | some memInfo, some stat =>
    decide (p.borrowSize ≤ memInfo.freeMem) &&
      (memInfo.numaNodeSize.entries.any fun kv => decide (p.borrowSize ≤ kv.2)) &&
      decide (p.borrowSize ≤ stat.freeMem)
  | _, _ => false

/-- `ReclaimLoanedMemory`: a node takes back memory from the least scarce node that it has lent to. -/
def reclaimLoanedMemory (node : String) : UcacheRet × BorrowStrategy U F :=
  let borrowNodes := ((s.curBorrowTopo.lends node).map NodeMemBorrowInfo.destNodeId).filter (known s)
  match (p.sortNodeByScarcity (scarcityOf p s) borrowNodes).getLast? with
  | none => (.borrowTopoError, s)
  | some destNode =>
    let r := addReturnAction p (eraseBorrowNodeStat s destNode) node destNode
    (r.1, insertBorrowNodeStat p (insertBorrowNodeStat p r.2 destNode) node)

/-- `CheckBorrowSize`. -/
def checkBorrowSize (node : String) : UcacheRet :=
  let totalBorrowSize := (s.curBorrowTopo.borrows node).foldl
    (fun (total : BitVec 64) info => total + info.totalSize) 0
  if p.masterMaxBorrowSize < totalBorrowSize then .borrowScarcityLimit else .ok

/-- The loop of `BorrowMemory` over the neighbours, the least scarce first. -/
def tryBorrow (node : String) : List String → UcacheRet × BorrowStrategy U F
  | [] => (.borrowScarcityLimit, insertBorrowNodeStat p s node)
  | dst :: connectNodes =>
    if !s.curBorrowTopo.hasBorrowedMem dst && hasAvailableMemToBorrow p s dst then
      let r := addBorrowAction p (eraseBorrowNodeStat s dst) dst node
      (r.1, insertBorrowNodeStat p (insertBorrowNodeStat p r.2 dst) node)
    else if s.curBorrowTopo.hasLendMemExceptDst dst node then
      let r := reclaimLoanedMemory p (eraseBorrowNodeStat s dst) dst
      if r.1 ≠ .ok then r
      else
        let r := addBorrowAction p (eraseBorrowNodeStat r.2 dst) dst node
        (r.1, { insertBorrowNodeStat p (insertBorrowNodeStat p r.2 dst) node with
          addTwoActions := true })
    else tryBorrow node connectNodes

/-- `BorrowMemory`. The neighbours are read up to the first one that is not known. -/
def borrowMemory (node : String) : UcacheRet × BorrowStrategy U F :=
  let connectNodes := ((p.physicalTopo.lookup node).getD []).takeWhile (known s)
  if checkBorrowSize p s node ≠ .ok then (checkBorrowSize p s node, s)
  else tryBorrow p s node (p.sortNodeByScarcity (scarcityOf p s) connectNodes).reverse

/-! ### A step -/

/-- `RestoreActionSet`: the last action is taken back. -/
def restoreActionSet : BorrowStrategy U F :=
  match s.borrowActionSet.getLast? with
  | none => s
  | some action =>
    if known s action.srcNodeId && known s action.destNodeId then
      let s := eraseBorrowNodeStat (eraseBorrowNodeStat s action.srcNodeId) action.destNodeId
      let s :=
        match action.type with
        | .borrow =>
          updateStat (updateStat s action.destNodeId fun stat => stat.lendMem p.ops p.borrowSize)
            action.srcNodeId fun stat => stat.borrowMem p.ops p.borrowSize
        | .return =>
          updateStat (updateStat s action.srcNodeId fun stat => stat.restoreMem p.ops p.borrowSize)
            action.destNodeId fun stat => stat.borrowMem p.ops p.borrowSize
      let s := insertBorrowNodeStat p (insertBorrowNodeStat p s action.destNodeId) action.srcNodeId
      { s with borrowActionSet := s.borrowActionSet.dropLast }
    else s

/-- The node runs an application that is short of page cache. -/
def hasPagecacheApp (node : String) : Bool :=
  match s.nodeIdToNodeStatMap.lookup node with
  | none => false
  | some stat => decide (0 < stat.pagecacheAppNums)

/-- The two ways a step may go: the node takes back what it has lent, or it borrows. -/
def reclaimOrBorrow (node : String) : UcacheRet × BorrowStrategy U F :=
  if s.curBorrowTopo.hasLentMem node then reclaimLoanedMemory p s node else borrowMemory p s node

/-- `CalBorrowStrategy`, with `GetMostScarcityNode`. -/
def calBorrowStrategy : UcacheRet × BorrowStrategy U F :=
  let s := { s with addTwoActions := false }
  let currentBalance := getBalance p s
  match s.nodeStats.find? (hasPagecacheApp s) with
  | none => (.scarcityInvalidInput, s)
  | some node =>
    let r := reclaimOrBorrow p (eraseBorrowNodeStat s node) node
    if r.1 ≠ .ok then r
    else if p.ops.lt currentBalance (getBalance p r.2) then
      -- undone, first the second action of the step if there are two
      let s := restoreActionSet p r.2
      (.borrowScarcityShock, if r.2.addTwoActions then restoreActionSet p s else s)
    else r

/-! ### What the operations do -/

variable {p} {s}

/-- One return is planned. -/
structure Returned (p : Planner U F) (src dst : String) (s t : BorrowStrategy U F) : Prop where
  topo : s.curBorrowTopo.deleteNodeMemBorrowInfo p.toBorrowSize p.physicalTopo src dst =
    (.ok, t.curBorrowTopo)
  actions : t.borrowActionSet = s.borrowActionSet ++ [⟨.return, p.borrowSize, src, dst⟩]
  stats : t.nodeIdToNodeStatMap =
    (s.nodeIdToNodeStatMap.modify dst fun stat => stat.returnMem p.ops p.borrowSize).modify src
      fun stat => stat.borrowMem p.ops p.borrowSize
  two : t.addTwoActions = s.addTwoActions

/-- One loan is planned. -/
structure Borrowed (p : Planner U F) (src dst : String) (s t : BorrowStrategy U F) : Prop where
  topo : s.curBorrowTopo.addNodeMemBorrowInfo p.toBorrowSize p.physicalTopo src dst =
    (.ok, t.curBorrowTopo)
  actions : t.borrowActionSet = s.borrowActionSet ++ [⟨.borrow, p.borrowSize, src, dst⟩]
  stats : t.nodeIdToNodeStatMap =
    (s.nodeIdToNodeStatMap.modify src fun stat => stat.lendMem p.ops p.borrowSize).modify dst
      fun stat => stat.borrowMem p.ops p.borrowSize

/-- Only the list of the nodes differs. -/
structure SameButNodes (s t : BorrowStrategy U F) : Prop where
  topo : t.curBorrowTopo = s.curBorrowTopo
  actions : t.borrowActionSet = s.borrowActionSet
  stats : t.nodeIdToNodeStatMap = s.nodeIdToNodeStatMap
  two : t.addTwoActions = s.addTwoActions

theorem SameButNodes.trans {s t u : BorrowStrategy U F} (h : SameButNodes s t)
    (h' : SameButNodes t u) : SameButNodes s u :=
  ⟨h'.topo.trans h.topo, h'.actions.trans h.actions, h'.stats.trans h.stats, h'.two.trans h.two⟩

theorem sameButNodes_erase (s : BorrowStrategy U F) (node : String) :
    SameButNodes s (eraseBorrowNodeStat s node) := ⟨rfl, rfl, rfl, rfl⟩

theorem sameButNodes_insert (p : Planner U F) (s : BorrowStrategy U F) (node : String) :
    SameButNodes s (insertBorrowNodeStat p s node) := by
  unfold insertBorrowNodeStat
  split <;> exact ⟨rfl, rfl, rfl, rfl⟩

theorem Returned.congr {src dst : String} {s s' t t' : BorrowStrategy U F}
    (h : Returned p src dst s' t) (hs : SameButNodes s s') (ht : SameButNodes t t') :
    Returned p src dst s t' := by
  refine ⟨?_, ?_, ?_, ?_⟩
  · rw [← hs.topo, ht.topo]
    exact h.topo
  · rw [ht.actions, ← hs.actions]
    exact h.actions
  · rw [ht.stats, ← hs.stats]
    exact h.stats
  · rw [ht.two, ← hs.two]
    exact h.two

theorem Borrowed.congr {src dst : String} {s s' t t' : BorrowStrategy U F}
    (h : Borrowed p src dst s' t) (hs : SameButNodes s s') (htopo : t'.curBorrowTopo = t.curBorrowTopo)
    (hactions : t'.borrowActionSet = t.borrowActionSet)
    (hstats : t'.nodeIdToNodeStatMap = t.nodeIdToNodeStatMap) : Borrowed p src dst s t' := by
  refine ⟨?_, ?_, ?_⟩
  · rw [← hs.topo, htopo]
    exact h.topo
  · rw [hactions, ← hs.actions]
    exact h.actions
  · rw [hstats, ← hs.stats]
    exact h.stats

theorem returned_of_ok {src dst : String} (h : (addReturnAction p s src dst).1 = .ok) :
    Returned p src dst s (addReturnAction p s src dst).2 := by
  unfold addReturnAction at h ⊢
  dsimp only at h ⊢
  split at h
  next hne => exact absurd h hne
  next heq =>
    rw [not_not] at heq
    rw [if_neg (not_not.2 heq)]
    exact ⟨Prod.ext heq rfl, rfl, rfl, rfl⟩

theorem borrowed_of_ok {src dst : String} (h : (addBorrowAction p s src dst).1 = .ok) :
    Borrowed p src dst s (addBorrowAction p s src dst).2 := by
  unfold addBorrowAction at h ⊢
  dsimp only at h ⊢
  split at h
  next hne => exact absurd h hne
  next heq =>
    rw [not_not] at heq
    rw [if_neg (not_not.2 heq)]
    exact ⟨Prod.ext heq rfl, rfl, rfl⟩

/-- Taking back memory is a return from a node that is known. -/
theorem reclaimLoanedMemory_of_ok {node : String} (h : (reclaimLoanedMemory p s node).1 = .ok) :
    ∃ dest, known s dest = true ∧ Returned p node dest s (reclaimLoanedMemory p s node).2 := by
  unfold reclaimLoanedMemory at h ⊢
  dsimp only at h ⊢
  rcases hlast : (p.sortNodeByScarcity (scarcityOf p s) (((s.curBorrowTopo.lends node).map
    NodeMemBorrowInfo.destNodeId).filter (known s))).getLast? with - | dest
  · rw [hlast] at h
    exact nomatch h
  · rw [hlast] at h
    dsimp only at h ⊢
    have hmem := (p.sort_perm _ _).mem_iff.1 (List.mem_of_getLast? hlast)
    refine ⟨dest, (List.mem_filter.1 hmem).2, (returned_of_ok h).congr (sameButNodes_erase s dest) ?_⟩
    exact (sameButNodes_insert p _ dest).trans (sameButNodes_insert p _ node)

/-- How a step of one or two actions went. -/
inductive StepDone (p : Planner U F) (node : String) (s t : BorrowStrategy U F) : Prop
  /-- The node took back what it had lent. -/
  | reclaimed (dest : String) (hlent : s.curBorrowTopo.hasLentMem node = true)
      (h : Returned p node dest s t)
  /-- The node borrowed from another one that had memory. -/
  | borrowed (dst : String) (hlent : s.curBorrowTopo.hasLentMem node = false)
      (hnone : s.curBorrowTopo.hasBorrowedMem dst = false) (h : Borrowed p dst node s t)
  /-- The node borrowed from another one that took back memory for it. -/
  | both (dst dest : String) (u : BorrowStrategy U F)
      (hlent : s.curBorrowTopo.hasLentMem node = false)
      (hexcept : s.curBorrowTopo.hasLendMemExceptDst dst node = true)
      (h : Returned p dst dest s u) (h' : Borrowed p dst node u t) (two : t.addTwoActions = true)

theorem tryBorrow_of_ok {node : String} {connectNodes : List String}
    (hlent : s.curBorrowTopo.hasLentMem node = false)
    (h : (tryBorrow p s node connectNodes).1 = .ok) :
    StepDone p node s (tryBorrow p s node connectNodes).2 := by
  induction connectNodes with
  | nil => exact nomatch h
  | cons dst connectNodes ih =>
    unfold tryBorrow at h ⊢
    by_cases hfree : (!s.curBorrowTopo.hasBorrowedMem dst && hasAvailableMemToBorrow p s dst) = true
    · rw [if_pos hfree] at h ⊢
      have hnone : s.curBorrowTopo.hasBorrowedMem dst = false := by
        rw [Bool.and_eq_true, Bool.not_eq_true'] at hfree
        exact hfree.1
      have hsame := (sameButNodes_insert p (addBorrowAction p (eraseBorrowNodeStat s dst) dst node).2
        dst).trans (sameButNodes_insert p _ node)
      exact .borrowed dst hlent hnone ((borrowed_of_ok h).congr (sameButNodes_erase s dst) hsame.topo
        hsame.actions hsame.stats)
    · rw [if_neg hfree] at h ⊢
      by_cases hexcept : s.curBorrowTopo.hasLendMemExceptDst dst node = true
      · rw [if_pos hexcept] at h ⊢
        dsimp only at h ⊢
        split at h
        next hne => exact absurd h hne
        next hok =>
          rw [not_not] at hok
          rw [if_neg (not_not.2 hok)]
          obtain ⟨dest, -, hreturned⟩ := reclaimLoanedMemory_of_ok hok
          have hborrowed := borrowed_of_ok h
          have hsame := (sameButNodes_insert p (addBorrowAction p (eraseBorrowNodeStat
            (reclaimLoanedMemory p (eraseBorrowNodeStat s dst) dst).2 dst) dst node).2 dst).trans
              (sameButNodes_insert p _ node)
          refine .both dst dest _ hlent hexcept (hreturned.congr (sameButNodes_erase s dst)
            (sameButNodes_erase _ dst)) (hborrowed.congr ⟨rfl, rfl, rfl, rfl⟩ ?_ ?_ ?_) rfl
          · exact hsame.topo
          · exact hsame.actions
          · exact hsame.stats
      · rw [if_neg hexcept] at h ⊢
        exact ih h

/-- **What a step does that succeeds**. -/
theorem reclaimOrBorrow_of_ok {node : String} (h : (reclaimOrBorrow p s node).1 = .ok) :
    StepDone p node s (reclaimOrBorrow p s node).2 := by
  unfold reclaimOrBorrow at h ⊢
  by_cases hlent : s.curBorrowTopo.hasLentMem node = true
  · rw [if_pos hlent] at h ⊢
    obtain ⟨dest, -, hreturned⟩ := reclaimLoanedMemory_of_ok h
    exact .reclaimed dest hlent hreturned
  · rw [if_neg hlent] at h ⊢
    unfold borrowMemory at h ⊢
    dsimp only at h ⊢
    split at h
    next hne => exact absurd h hne
    next hok =>
      rw [if_neg hok]
      exact tryBorrow_of_ok (Bool.not_eq_true _ ▸ hlent) h

end Planner

end Ucache

end UbsEngine
