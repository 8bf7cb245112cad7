import UbsEngine.Ucache.Sound
import UbsEngine.Ucache.Rollback

/-!
# Plans can be executed

The actions of a plan are made one after the other by the nodes. At every moment they can be: memory
that is returned has been lent, and memory is lent over a link, by a node that has it, has borrowed
nothing and lends to one that has lent nothing (`UbsEngine.Ucache.plannedActions_executable`). This
does not depend on the scarcities, nor on how the planning ends. What an undone step leaves in the
topology of the planner does no harm, since nothing is planned after it.
-/

namespace UbsEngine

namespace Ucache

open Lending

variable {U F : Type} (p : Planner U F)

def linked (a b : String) : Prop := MemBorrowTopo.physicalTopoCheck p.physicalTopo a b = true

/-- Every action is about one block, and they can be made in their order. -/
structure Executable (L : Ledger String) (actions : List BorrowAction) : Prop where
  size : ∀ action ∈ actions, action.totalSize = p.borrowSize
  executes : ∃ L', Executes (linked p) L (actions.map BorrowAction.deal) L'

/-- The topology of the planner is what its actions lead to. -/
structure Recorded (L : Ledger String) (s : BorrowStrategy U F) : Prop where
  sound : s.curBorrowTopo.Sound p.toBorrowSize
  size : ∀ action ∈ s.borrowActionSet, action.totalSize = p.borrowSize
  executes : Executes (linked p) L (s.borrowActionSet.map BorrowAction.deal)
    (ledger p.toBorrowSize s.curBorrowTopo)

/-- What is kept, whether a step succeeds or not. -/
structure Kept (L : Ledger String) (s : BorrowStrategy U F) (r : UcacheRet × BorrowStrategy U F) :
    Prop where
  executable : Executable p L r.2.borrowActionSet
  length_le : r.2.borrowActionSet.length ≤ s.borrowActionSet.length + 2
  recorded : r.1 = .ok → Recorded p L r.2

variable {p} {L : Ledger String} {s t : BorrowStrategy U F} {src dst : String}

theorem Recorded.executable (h : Recorded p L s) : Executable p L s.borrowActionSet :=
  ⟨h.size, _, h.executes⟩

theorem Executable.of_initial {actions more : List BorrowAction} (h : Executable p L more)
    (hinitial : actions <+: more) : Executable p L actions := by
  obtain ⟨rest, rfl⟩ := hinitial
  obtain ⟨L', hexecutes⟩ := h.executes
  rw [List.map_append] at hexecutes
  exact ⟨fun action haction => h.size action (List.mem_append_left _ haction),
    hexecutes.of_append⟩

theorem Recorded.congr (h : Recorded p L s) (hs : SameButNodes s t) : Recorded p L t := by
  refine ⟨?_, ?_, ?_⟩
  · rw [hs.topo]
    exact h.sound
  · rw [hs.actions]
    exact h.size
  · rw [hs.topo, hs.actions]
    exact h.executes

theorem Kept.congr {ret : UcacheRet} {s' t' : BorrowStrategy U F} (h : Kept p L s (ret, t))
    (hs : s'.borrowActionSet = s.borrowActionSet) (htopo : t'.curBorrowTopo = t.curBorrowTopo)
    (hactions : t'.borrowActionSet = t.borrowActionSet) : Kept p L s' (ret, t') := by
  refine ⟨?_, ?_, fun hok => ?_⟩
  · show Executable p L t'.borrowActionSet
    rw [hactions]
    exact h.executable
  · show t'.borrowActionSet.length ≤ s'.borrowActionSet.length + 2
    rw [hactions, hs]
    exact h.length_le
  · obtain ⟨hsound, hsize, hexecutes⟩ := h.recorded hok
    refine ⟨?_, ?_, ?_⟩
    · rw [htopo]
      exact hsound
    · rw [hactions]
      exact hsize
    · rw [htopo, hactions]
      exact hexecutes

/-- A failure that added no action. -/
theorem Recorded.kept_of_ne (h : Recorded p L s) {r : UcacheRet × BorrowStrategy U F}
    (hactions : r.2.borrowActionSet = s.borrowActionSet) (hne : r.1 ≠ .ok) : Kept p L s r := by
  refine ⟨?_, ?_, fun hok => absurd hok hne⟩
  · rw [hactions]
    exact h.executable
  · rw [hactions]
    exact Nat.le_add_right _ _

/-! ### Single actions -/

/-- A return is recorded. -/
theorem Recorded.returned (h : Recorded p L s) (hreturned : Returned p src dst s t) :
    Recorded p L t := by
  obtain ⟨hsound, hloan, hledger⟩ :=
    MemBorrowTopo.delete_sound h.sound (congrArg Prod.fst hreturned.topo)
  have htopo : (s.curBorrowTopo.deleteNodeMemBorrowInfo p.toBorrowSize p.physicalTopo src dst).2 =
      t.curBorrowTopo := congrArg Prod.snd hreturned.topo
  rw [htopo] at hsound hledger
  refine ⟨hsound, ?_, ?_⟩
  · rw [hreturned.actions, List.forall_mem_append]
    exact ⟨h.size, List.forall_mem_singleton.2 rfl⟩
  · rw [hreturned.actions, List.map_append, hledger]
    exact h.executes.giveBack src dst hloan

/-- A loan is recorded, by a node with a block to lend. -/
theorem Recorded.borrowed (hself : ∀ node, ¬linked p node node) (h : Recorded p L s)
    (hborrowed : Borrowed p src dst s t)
    (hfree : 0 < (ledger p.toBorrowSize s.curBorrowTopo).free src)
    (hsrc : s.curBorrowTopo.borrows src = []) (hdst : s.curBorrowTopo.lends dst = []) :
    Recorded p L t := by
  have hok := congrArg Prod.fst hborrowed.topo
  have hlinked : linked p src dst := (MemBorrowTopo.addNodeMemBorrowInfo_of_ok hok).1
  have hne : src ≠ dst := by
    rintro rfl
    exact hself src hlinked
  have hle : p.borrowSize.toNat ≤ (s.curBorrowTopo.memInfo src).freeMem.toNat := by
    rw [free_ledger, Nat.div_pos_iff] at hfree
    exact hfree.2
  obtain ⟨hsound, hledger⟩ := MemBorrowTopo.add_sound h.sound hok hne hsrc hdst hle
  have htopo : (s.curBorrowTopo.addNodeMemBorrowInfo p.toBorrowSize p.physicalTopo src dst).2 =
      t.curBorrowTopo := congrArg Prod.snd hborrowed.topo
  rw [htopo] at hsound hledger
  refine ⟨hsound, ?_, ?_⟩
  · rw [hborrowed.actions, List.forall_mem_append]
    exact ⟨h.size, List.forall_mem_singleton.2 rfl⟩
  · rw [hborrowed.actions, List.map_append, hledger]
    exact h.executes.lend src dst hlinked hfree ((h.sound.borrows_eq_nil src).1 hsrc)
      ((h.sound.lends_eq_nil dst).1 hdst)

theorem Returned.kept (h : Recorded p L s) (hreturned : Returned p src dst s t)
    (ret : UcacheRet) : Kept p L s (ret, t) := by
  have hrecorded := h.returned hreturned
  refine ⟨hrecorded.executable, ?_, fun _ => hrecorded⟩
  rw [hreturned.actions, List.length_append]
  exact Nat.add_le_add_left (Nat.le_succ 1) _

theorem actions_addReturnAction_of_ne (h : (addReturnAction p s src dst).1 ≠ .ok) :
    (addReturnAction p s src dst).2.borrowActionSet = s.borrowActionSet := by
  unfold addReturnAction at h ⊢
  dsimp only at h ⊢
  split_ifs at h ⊢ with hne
  · rfl
  · exact absurd rfl h

theorem actions_addBorrowAction_of_ne (h : (addBorrowAction p s src dst).1 ≠ .ok) :
    (addBorrowAction p s src dst).2.borrowActionSet = s.borrowActionSet := by
  unfold addBorrowAction at h ⊢
  dsimp only at h ⊢
  split_ifs at h ⊢ with hne
  · rfl
  · exact absurd rfl h

theorem actions_reclaimLoanedMemory_of_ne {node : String}
    (h : (reclaimLoanedMemory p s node).1 ≠ .ok) :
    (reclaimLoanedMemory p s node).2.borrowActionSet = s.borrowActionSet := by
  unfold reclaimLoanedMemory at h ⊢
  dsimp only at h ⊢
  rcases hlast : (p.sortNodeByScarcity (scarcityOf p s) (((s.curBorrowTopo.lends node).map
    NodeMemBorrowInfo.destNodeId).filter (known s))).getLast? with - | dest
  · rfl
  · rw [hlast] at h
    dsimp only at h ⊢
    have hsame := (sameButNodes_insert p (addReturnAction p (eraseBorrowNodeStat s dest) node
      dest).2 dest).trans (sameButNodes_insert p _ node)
    exact hsame.actions.trans (actions_addReturnAction_of_ne h)

/-- Taking back memory, as far as it gets. -/
theorem reclaimLoanedMemory_kept (h : Recorded p L s) (node : String) :
    Kept p L s (reclaimLoanedMemory p s node) := by
  by_cases hok : (reclaimLoanedMemory p s node).1 = .ok
  · obtain ⟨dest, -, hreturned⟩ := reclaimLoanedMemory_of_ok hok
    exact hreturned.kept h _
  · exact h.kept_of_ne (actions_reclaimLoanedMemory_of_ne hok) hok

/-- A return lowers the loans and leaves a block to the lender. -/
theorem Recorded.ledger_returned (h : Recorded p L s) (hreturned : Returned p src dst s t) :
    (∀ x y, (ledger p.toBorrowSize t.curBorrowTopo).loans x y ≤
        (ledger p.toBorrowSize s.curBorrowTopo).loans x y) ∧
      0 < (ledger p.toBorrowSize t.curBorrowTopo).free src := by
  obtain ⟨-, -, hledger⟩ :=
    MemBorrowTopo.delete_sound h.sound (congrArg Prod.fst hreturned.topo)
  have htopo : (s.curBorrowTopo.deleteNodeMemBorrowInfo p.toBorrowSize p.physicalTopo src dst).2 =
      t.curBorrowTopo := congrArg Prod.snd hreturned.topo
  rw [htopo] at hledger
  rw [hledger]
  refine ⟨fun x y => ?_, ?_⟩
  · rw [Ledger.loans_change]
    split_ifs with hxy
    · rw [hxy.1, hxy.2]
      exact Nat.sub_le _ _
    · exact le_rfl
  · rw [Ledger.free_change_self]
    exact Nat.succ_pos _

/-! ### A step -/

theorem free_of_hasAvailableMemToBorrow {node : String}
    (h : hasAvailableMemToBorrow p s node = true) :
    0 < (ledger p.toBorrowSize s.curBorrowTopo).free node := by
  unfold hasAvailableMemToBorrow at h
  rcases hinfo : s.curBorrowTopo.borrowMemInfoPerNodeMap.lookup node with - | memInfo
  · rw [hinfo] at h
    exact absurd h (by simp)
  rcases hstat : s.nodeIdToNodeStatMap.lookup node with - | stat
  · rw [hinfo, hstat] at h
    exact absurd h (by simp)
  rw [hinfo, hstat] at h
  simp only [Bool.and_eq_true, decide_eq_true_eq] at h
  have hmem : s.curBorrowTopo.memInfo node = memInfo := by
    rw [MemBorrowTopo.memInfo, hinfo]
    rfl
  rw [free_ledger, hmem]
  exact Nat.div_pos (BitVec.le_def.1 h.1.1) (MemBorrowTopo.borrowSize_pos _)

theorem addBorrowAction_kept (hself : ∀ node, ¬linked p node node) (h : Recorded p L s)
    (hfree : 0 < (ledger p.toBorrowSize s.curBorrowTopo).free src)
    (hsrc : s.curBorrowTopo.borrows src = []) (hdst : s.curBorrowTopo.lends dst = []) :
    Executable p L (addBorrowAction p s src dst).2.borrowActionSet ∧
      (addBorrowAction p s src dst).2.borrowActionSet.length ≤ s.borrowActionSet.length + 1 ∧
      ((addBorrowAction p s src dst).1 = .ok → Recorded p L (addBorrowAction p s src dst).2) := by
  by_cases hok : (addBorrowAction p s src dst).1 = .ok
  · have hborrowed := borrowed_of_ok hok
    have hrecorded := h.borrowed hself hborrowed hfree hsrc hdst
    refine ⟨hrecorded.executable, ?_, fun _ => hrecorded⟩
    rw [hborrowed.actions, List.length_append]
    exact le_rfl
  · rw [actions_addBorrowAction_of_ne hok]
    exact ⟨h.executable, Nat.le_succ _, fun hok' => absurd hok' hok⟩

/-- The neighbours are tried until one lends. A neighbour that has lent to another node has borrowed
nothing, and has a block once it has taken one back. -/
theorem tryBorrow_kept (hself : ∀ node, ¬linked p node node) (h : Recorded p L s) {node : String}
    (hlent : s.curBorrowTopo.lends node = []) (connectNodes : List String) :
    Kept p L s (tryBorrow p s node connectNodes) := by
  induction connectNodes with
  | nil =>
    exact h.kept_of_ne (sameButNodes_insert p s node).actions (by simp [tryBorrow])
  | cons dst connectNodes ih =>
    unfold tryBorrow
    by_cases hfree : (!s.curBorrowTopo.hasBorrowedMem dst && hasAvailableMemToBorrow p s dst) = true
    · rw [if_pos hfree]
      rw [Bool.and_eq_true, Bool.not_eq_true', MemBorrowTopo.hasBorrowedMem, Bool.not_eq_false',
        List.isEmpty_iff] at hfree
      obtain ⟨hexecutable, hlength, hrecorded⟩ := addBorrowAction_kept hself
        (h.congr (sameButNodes_erase s dst)) (free_of_hasAvailableMemToBorrow hfree.2) hfree.1 hlent
      have hsame := (sameButNodes_insert p (addBorrowAction p (eraseBorrowNodeStat s dst) dst node).2
        dst).trans (sameButNodes_insert p _ node)
      refine ⟨?_, ?_, fun hok => (hrecorded hok).congr hsame⟩
      · rw [hsame.actions]
        exact hexecutable
      · rw [hsame.actions]
        exact hlength.trans (Nat.le_succ _)
    · rw [if_neg hfree]
      by_cases hexcept : s.curBorrowTopo.hasLendMemExceptDst dst node = true
      · rw [if_pos hexcept]
        dsimp only
        split_ifs with hne
        · have hkept := reclaimLoanedMemory_kept (h.congr (sameButNodes_erase s dst)) dst
          exact hkept.congr rfl rfl rfl
        · rw [not_not] at hne
          obtain ⟨dest, -, hreturned⟩ := reclaimLoanedMemory_of_ok hne
          have hreclaimed := hreturned.congr (sameButNodes_erase s dst)
            (sameButNodes_erase _ dst)
          have hrecorded := h.returned hreclaimed
          obtain ⟨hle, hpos⟩ := h.ledger_returned hreclaimed
          have hlends : s.curBorrowTopo.lends dst ≠ [] := by
            rintro hnil
            rw [MemBorrowTopo.hasLendMemExceptDst, hnil] at hexcept
            exact absurd hexcept (by simp)
          have hborrows := (h.sound.borrows_eq_nil dst).1 ((h.sound.oneSided dst).resolve_left hlends)
          have hnone := (h.sound.lends_eq_nil node).1 hlent
          obtain ⟨hexecutable, hlength, hborrowed⟩ := addBorrowAction_kept hself hrecorded hpos
            ((hrecorded.sound.borrows_eq_nil dst).2 fun x =>
              Nat.eq_zero_of_le_zero ((hle x dst).trans (hborrows x).le))
            ((hrecorded.sound.lends_eq_nil node).2 fun y =>
              Nat.eq_zero_of_le_zero ((hle node y).trans (hnone y).le))
          rw [hreclaimed.actions, List.length_append, List.length_singleton] at hlength
          have hsame := (sameButNodes_insert p (addBorrowAction p (eraseBorrowNodeStat
            (reclaimLoanedMemory p (eraseBorrowNodeStat s dst) dst).2 dst) dst node).2 dst).trans
              (sameButNodes_insert p _ node)
          refine ⟨?_, ?_, fun hok => ?_⟩
          · show Executable p L (insertBorrowNodeStat p _ node).borrowActionSet
            rw [hsame.actions]
            exact hexecutable
          · show (insertBorrowNodeStat p _ node).borrowActionSet.length ≤ _
            rw [hsame.actions]
            exact hlength
          · obtain ⟨hsound, hsize, hexecutes⟩ := (hborrowed hok).congr hsame
            exact ⟨hsound, hsize, hexecutes⟩
      · rw [if_neg hexcept]
        exact ih

theorem reclaimOrBorrow_kept (hself : ∀ node, ¬linked p node node) (h : Recorded p L s)
    (node : String) : Kept p L s (reclaimOrBorrow p s node) := by
  unfold reclaimOrBorrow
  split_ifs with hlent
  · exact reclaimLoanedMemory_kept h node
  · unfold borrowMemory
    dsimp only
    split_ifs with hne
    · exact h.kept_of_ne rfl hne
    · rw [MemBorrowTopo.hasLentMem, Bool.not_eq_true', Bool.not_eq_false, List.isEmpty_iff] at hlent
      exact tryBorrow_kept hself h hlent _

/-- An undone action is the last one. -/
theorem actions_restoreActionSet (s : BorrowStrategy U F) :
    (restoreActionSet p s).borrowActionSet <+: s.borrowActionSet := by
  rcases s.borrowActionSet.eq_nil_or_concat with hnil | ⟨actions, action, hconcat⟩
  · rw [restoreActionSet, hnil, List.getLast?_nil, hnil]
  · rw [List.concat_eq_append] at hconcat
    rcases restoreActionSet_of_append (p := p) hconcat with ⟨hactions, -, -⟩ | hsame
    · rw [hactions, hconcat]
      exact List.prefix_append _ _
    · rw [hsame]

/-- **One step**. If it is undone, its actions are taken out of the list, but not out of the
topology; planning ends then. -/
theorem calBorrowStrategy_kept (hself : ∀ node, ¬linked p node node) (h : Recorded p L s) :
    Kept p L s (calBorrowStrategy p s) := by
  have hrecorded : Recorded p L { s with addTwoActions := false } := ⟨h.sound, h.size, h.executes⟩
  unfold calBorrowStrategy
  dsimp only
  split
  next =>
    refine ⟨hrecorded.executable, Nat.le_add_right _ _, fun hok => ?_⟩
    exact absurd hok (by simp)
  next node hnode =>
    have hkept := reclaimOrBorrow_kept hself (hrecorded.congr (sameButNodes_erase _ node)) node
    split_ifs with hne hlt htwo
    · exact hkept.congr rfl rfl rfl
    · have hinitial := (actions_restoreActionSet (p := p) (restoreActionSet p
        (reclaimOrBorrow p (eraseBorrowNodeStat { s with addTwoActions := false } node) node).2)).trans
          (actions_restoreActionSet _)
      exact ⟨hkept.executable.of_initial hinitial, hinitial.length_le.trans hkept.length_le,
        fun hok => absurd hok (by simp)⟩
    · have hinitial := actions_restoreActionSet (p := p)
        (reclaimOrBorrow p (eraseBorrowNodeStat { s with addTwoActions := false } node) node).2
      exact ⟨hkept.executable.of_initial hinitial, hinitial.length_le.trans hkept.length_le,
        fun hok => absurd hok (by simp)⟩
    · exact hkept.congr rfl rfl rfl

/-- A step that succeeds adds an action. -/
theorem length_calBorrowStrategy (h : (calBorrowStrategy p s).1 = .ok) :
    s.borrowActionSet.length < (calBorrowStrategy p s).2.borrowActionSet.length := by
  unfold calBorrowStrategy at h ⊢
  dsimp only at h ⊢
  split at h
  next => exact absurd h (by simp)
  next node hnode =>
    split_ifs at h ⊢ with hne hlt
    · exact absurd h hne
    · rcases reclaimOrBorrow_of_ok h with ⟨dest, -, hreturned⟩ | ⟨dst, -, -, hborrowed⟩ |
        ⟨dst, dest, u, -, -, hreturned, hborrowed, -⟩
      · rw [hreturned.actions, List.length_append]
        exact Nat.lt_succ_self _
      · rw [hborrowed.actions, List.length_append]
        exact Nat.lt_succ_self _
      · rw [hborrowed.actions, hreturned.actions, List.length_append, List.length_append]
        exact (Nat.lt_succ_self _).trans (Nat.lt_succ_self _)

/-! ### The loop -/

/-- **The loop ends by itself**: with as many turns as actions are allowed, its condition is false in
the end. -/
theorem schedule_stops {fuel : Nat} {ret : UcacheRet}
    (h : p.maxActionSize ≤ fuel + s.borrowActionSet.length) :
    ¬((schedule p fuel ret s).1 = .ok ∧ shouldBorrow p (schedule p fuel ret s).2 = true ∧
      (schedule p fuel ret s).2.borrowActionSet.length < p.maxActionSize) := by
  induction fuel generalizing ret s with
  | zero =>
    rintro ⟨-, -, hlt⟩
    rw [Nat.zero_add] at h
    exact absurd hlt (Nat.not_lt.2 h)
  | succ fuel ih =>
    unfold schedule
    split_ifs with hstep
    · by_cases hok : (calBorrowStrategy p s).1 = .ok
      · have hlength := length_calBorrowStrategy hok
        exact ih (by omega)
      · -- after a failure there is no further turn
        have hstop : ∀ fuel, schedule p fuel (calBorrowStrategy p s).1 (calBorrowStrategy p s).2 =
            calBorrowStrategy p s := by
          rintro (_ | fuel)
          · rfl
          · rw [schedule, if_neg fun h => hok h.1]
        rw [hstop]
        exact fun h => hok h.1
    · exact hstep

theorem schedule_executable (hself : ∀ node, ¬linked p node node) (fuel : Nat) (ret : UcacheRet)
    (hexecutable : Executable p L s.borrowActionSet)
    (hlength : s.borrowActionSet.length ≤ p.maxActionSize + 1)
    (hrecorded : ret = .ok → Recorded p L s) :
    Executable p L (schedule p fuel ret s).2.borrowActionSet ∧
      (schedule p fuel ret s).2.borrowActionSet.length ≤ p.maxActionSize + 1 := by
  induction fuel generalizing ret s with
  | zero => exact ⟨hexecutable, hlength⟩
  | succ fuel ih =>
    unfold schedule
    split_ifs with hstep
    · have hkept := calBorrowStrategy_kept hself (hrecorded hstep.1)
      refine ih _ hkept.executable ?_ hkept.recorded
      have hle := hkept.length_le
      have hlt := hstep.2.2
      omega
    · exact ⟨hexecutable, hlength⟩

/-! ### Returning everything -/

/-- The returns of a loan. -/
def returns (p : Planner U F) (info : NodeMemBorrowInfo) : List BorrowAction :=
  List.replicate (blocksOf p.toBorrowSize info)
    ⟨.return, p.borrowSize, info.srcNodeId, info.destNodeId⟩

/-- Actions are added, all of them unless there are too many. -/
structure Adds (p : Planner U F) (planned actions : List BorrowAction)
    (r : UcacheRet × List BorrowAction) : Prop where
  initial : r.2 <+: actions ++ planned
  all : r.1 = .ok → r.2 = actions ++ planned
  length_le : r.2.length ≤ p.maxActionSize + 1
  length_le_of_ok : r.1 = .ok → r.2.length ≤ p.maxActionSize

theorem Adds.nil {actions : List BorrowAction} (h : actions.length ≤ p.maxActionSize) :
    Adds p [] actions (.ok, actions) :=
  ⟨List.prefix_append _ _, fun _ => (List.append_nil _).symm, h.trans (Nat.le_succ _), fun _ => h⟩

theorem Adds.append {planned more actions : List BorrowAction}
    {r r' : UcacheRet × List BorrowAction} (h : Adds p planned actions r) (hok : r.1 = .ok)
    (h' : Adds p more r.2 r') : Adds p (planned ++ more) actions r' := by
  have heq : r.2 ++ more = actions ++ (planned ++ more) := by
    rw [h.all hok, List.append_assoc]
  refine ⟨?_, fun hok' => ?_, h'.length_le, h'.length_le_of_ok⟩
  · rw [← heq]
    exact h'.initial
  · rw [← heq]
    exact h'.all hok'

theorem Adds.of_ne {planned actions : List BorrowAction} {r : UcacheRet × List BorrowAction}
    (h : Adds p planned actions r) (hne : r.1 ≠ .ok) (more : List BorrowAction) :
    Adds p (planned ++ more) actions r := by
  refine ⟨h.initial.trans ?_, fun hok => absurd hok hne, h.length_le, fun hok => absurd hok hne⟩
  rw [← List.append_assoc]
  exact List.prefix_append _ _

theorem raclaimMemoryOneNode_adds (src dst : String) (blocks : Nat) {actions : List BorrowAction}
    (h : actions.length ≤ p.maxActionSize) :
    Adds p (List.replicate blocks ⟨.return, p.borrowSize, src, dst⟩) actions
      (raclaimMemoryOneNode p src dst blocks actions) := by
  induction blocks generalizing actions with
  | zero => exact .nil h
  | succ blocks ih =>
    rw [raclaimMemoryOneNode, List.replicate_succ]
    split_ifs with hlimit
    · have hlast : Adds p [⟨.return, p.borrowSize, src, dst⟩] actions
          (.borrowScarcityLimit, actions ++ [⟨.return, p.borrowSize, src, dst⟩]) := by
        refine ⟨List.prefix_rfl, fun _ => rfl, ?_, fun hok => absurd hok (by simp)⟩
        rw [List.length_append]
        exact Nat.succ_le_succ h
      exact hlast.of_ne (by simp) _
    · have hlt := Nat.le_of_lt (Nat.not_le.1 hlimit)
      have hone : Adds p [⟨.return, p.borrowSize, src, dst⟩] actions
          (.ok, actions ++ [⟨.return, p.borrowSize, src, dst⟩]) :=
        ⟨List.prefix_rfl, fun _ => rfl, hlt.trans (Nat.le_succ _), fun _ => hlt⟩
      exact hone.append rfl (ih hlt)

theorem reclaimInfos_adds (infos : List NodeMemBorrowInfo) {actions : List BorrowAction}
    (h : actions.length ≤ p.maxActionSize) :
    Adds p (infos.flatMap (returns p)) actions (reclaimInfos p infos actions) := by
  induction infos generalizing actions with
  | nil => exact .nil h
  | cons info infos ih =>
    have hadds := raclaimMemoryOneNode_adds info.srcNodeId info.destNodeId
      (blocksOf p.toBorrowSize info) h
    rw [reclaimInfos, List.flatMap_cons]
    rcases hr : raclaimMemoryOneNode p info.srcNodeId info.destNodeId
      (blocksOf p.toBorrowSize info) actions with ⟨ret, actions'⟩
    rw [hr] at hadds
    by_cases hok : ret = .ok
    · rw [hok]
      exact hadds.append hok (ih (hadds.length_le_of_ok hok))
    · cases ret <;> first | exact absurd rfl hok | exact hadds.of_ne hok _

theorem reclaimNodes_adds (topo : MemBorrowTopo) (nodes : List String)
    {actions : List BorrowAction} (h : actions.length ≤ p.maxActionSize) :
    Adds p ((nodes.flatMap topo.borrows).flatMap (returns p)) actions
      (reclaimNodes p topo nodes actions) := by
  induction nodes generalizing actions with
  | nil => exact .nil h
  | cons node nodes ih =>
    have hadds := reclaimInfos_adds (topo.borrows node) h
    rw [reclaimNodes, List.flatMap_cons, List.flatMap_append]
    rcases hr : reclaimInfos p (topo.borrows node) actions with ⟨ret, actions'⟩
    rw [hr] at hadds
    by_cases hok : ret = .ok
    · rw [hok]
      exact hadds.append hok (ih (hadds.length_le_of_ok hok))
    · cases ret <;> first | exact absurd rfl hok | exact hadds.of_ne hok _

/-- The entries of a loan, among others. -/
def isLoan (src dst : String) (info : NodeMemBorrowInfo) : Bool :=
  decide (info.srcNodeId = src) && decide (info.destNodeId = dst)

/-- Loans can be returned as far as they are recorded. -/
theorem executes_returns {deals : List (Deal String)} {L' : Ledger String}
    (h : Executes (linked p) L deals L') (infos : List NodeMemBorrowInfo)
    (howed : ∀ src dst, ((infos.filter (isLoan src dst)).map (blocksOf p.toBorrowSize)).sum ≤
      L'.loans src dst) :
    ∃ L'', Executes (linked p) L
      (deals ++ (infos.flatMap (returns p)).map BorrowAction.deal) L'' := by
  induction infos generalizing deals L' with
  | nil =>
    rw [List.flatMap_nil, List.map_nil, List.append_nil]
    exact ⟨L', h⟩
  | cons info infos ih =>
    have hloan : isLoan info.srcNodeId info.destNodeId info = true := by
      rw [isLoan, decide_eq_true rfl, decide_eq_true rfl, Bool.and_self]
    have hblocks := howed info.srcNodeId info.destNodeId
    rw [List.filter_cons_of_pos hloan, List.map_cons, List.sum_cons] at hblocks
    have hreturned := h.giveBack_replicate info.srcNodeId info.destNodeId
      (n := blocksOf p.toBorrowSize info) (by omega)
    obtain ⟨L'', hexecutes⟩ := ih hreturned fun src dst => by
      rw [Ledger.loans_change]
      split_ifs with hpair
      · rw [hpair.1, hpair.2]
        omega
      · refine le_trans ?_ (howed src dst)
        rw [List.filter_cons]
        split
        · rw [List.map_cons, List.sum_cons]
          exact Nat.le_add_left _ _
        · exact le_rfl
    refine ⟨L'', ?_⟩
    rw [List.flatMap_cons, List.map_append, ← List.append_assoc, returns, List.map_replicate]
    exact hexecutes

/-- The entries on the side of the borrowers are those of the loans. -/
theorem owed_le {topo : MemBorrowTopo} (h : topo.Sound p.toBorrowSize) {nodes : List String}
    (hnodes : nodes.Nodup) (src dst : String) :
    (((nodes.flatMap topo.borrows).filter (isLoan src dst)).map
      (blocksOf p.toBorrowSize)).sum ≤ (ledger p.toBorrowSize topo).loans src dst := by
  have hother : ∀ node, node ≠ dst → (topo.borrows node).filter (isLoan src dst) = [] := by
    rintro node hne
    refine List.filter_eq_nil_iff.2 fun info hinfo hloan => hne ?_
    rw [isLoan, Bool.and_eq_true] at hloan
    rw [← h.owner node info hinfo]
    exact of_decide_eq_true hloan.2
  have hsame : (topo.borrows dst).filter (isLoan src dst) =
      (topo.borrows dst).filter (MemBorrowTopo.isSrcNode src) := by
    refine List.filter_congr fun info hinfo => ?_
    rw [isLoan, decide_eq_true (h.owner dst info hinfo), Bool.and_true]
    rfl
  have hnone : ∀ nodes : List String, dst ∉ nodes →
      (nodes.flatMap topo.borrows).filter (isLoan src dst) = [] := by
    rintro nodes hdst
    rw [List.filter_flatMap, List.flatMap_eq_nil_iff]
    rintro node hnode
    refine hother node ?_
    rintro rfl
    exact hdst hnode
  induction nodes with
  | nil => exact Nat.zero_le _
  | cons node nodes ih =>
    rw [List.nodup_cons] at hnodes
    rw [List.flatMap_cons, List.filter_append]
    by_cases hnode : node = dst
    · rw [hnode] at hnodes ⊢
      rw [hnone nodes hnodes.1, List.append_nil, hsame, h.loans_eq]
    · rw [hother node hnode, List.nil_append]
      exact ih hnodes.2

/-! ### The plan -/

theorem start_executable (hself : ∀ node, ¬linked p node node)
    (hsound : s.curBorrowTopo.Sound p.toBorrowSize) (hactions : s.borrowActionSet = []) :
    Executable p (ledger p.toBorrowSize s.curBorrowTopo) (start p s).borrowActionSet ∧
      (start p s).borrowActionSet.length ≤ p.maxActionSize + 1 := by
  have hrecorded : Recorded p (ledger p.toBorrowSize s.curBorrowTopo) s := by
    refine ⟨hsound, ?_, ?_⟩
    · rw [hactions]
      exact List.forall_mem_nil _
    · rw [hactions]
      exact .nil
  unfold start
  split_ifs
  · refine schedule_executable hself _ _ hrecorded.executable ?_ fun _ => hrecorded
    rw [hactions]
    exact Nat.zero_le _
  · have hlength : s.borrowActionSet.length ≤ p.maxActionSize := by
      rw [hactions]
      exact Nat.zero_le _
    have hadds := reclaimNodes_adds s.curBorrowTopo
      (s.curBorrowTopo.borrowMap.keys.insertionSort (· ≤ ·)) hlength
    have hnodup : (s.curBorrowTopo.borrowMap.keys.insertionSort (· ≤ ·)).Nodup :=
      (List.perm_insertionSort _ _).nodup_iff.2 s.curBorrowTopo.borrowMap.nodupKeys
    have hall : Executable p (ledger p.toBorrowSize s.curBorrowTopo) (s.borrowActionSet ++
        ((s.curBorrowTopo.borrowMap.keys.insertionSort (· ≤ ·)).flatMap
          s.curBorrowTopo.borrows).flatMap (returns p)) := by
      rw [hactions, List.nil_append]
      refine ⟨fun action haction => ?_, executes_returns .nil _ (owed_le hsound hnodup)⟩
      obtain ⟨info, -, haction⟩ := List.mem_flatMap.1 haction
      rw [List.eq_of_mem_replicate haction]
    exact ⟨hall.of_initial hadds.initial, hadds.length_le⟩

theorem executable_plannedActions (hself : ∀ node, ¬linked p node node)
    (nodeIdToNodeStatMap : Map String (BorrowNodeStat U F)) {t : MemBorrowTopo}
    (hsound : t.Sound p.toBorrowSize) :
    Executable p (ledger p.toBorrowSize t) (plannedActions p nodeIdToNodeStatMap t) ∧
      (plannedActions p nodeIdToNodeStatMap t).length ≤ p.maxActionSize + 1 := by
  unfold plannedActions init
  dsimp only
  by_cases hempty : nodeIdToNodeStatMap.keys.isEmpty = true
  · rw [if_pos hempty]
    exact ⟨⟨List.forall_mem_nil _, _, .nil⟩, Nat.zero_le _⟩
  · rw [if_neg hempty]
    exact start_executable (s := { nodeIdToNodeStatMap, curBorrowTopo := t, nodeStats := _ })
      hself hsound rfl

/-- **Plans can be executed**, to any point, and no node lends and borrows at any time. There is one
action more than the configuration allows at most. -/
theorem plannedActions_executable (p : Planner U F)
    (nodeIdToNodeStatMap : Map String (BorrowNodeStat U F)) (t : MemBorrowTopo)
    (hself : ∀ node, MemBorrowTopo.physicalTopoCheck p.physicalTopo node node = false)
    (hsound : t.Sound p.toBorrowSize) :
    (plannedActions p nodeIdToNodeStatMap t).length ≤ p.maxActionSize + 1 ∧
      ∀ done, done <+: plannedActions p nodeIdToNodeStatMap t →
        (∀ action ∈ done, action.totalSize = p.borrowSize) ∧
        ∃ L, Executes (linked p) (ledger p.toBorrowSize t) (done.map BorrowAction.deal) L ∧
          L.OneSided := by
  have hself' : ∀ node, ¬linked p node node := fun node hnode =>
    Bool.false_ne_true ((hself node).symm.trans hnode)
  obtain ⟨hplan, hlength⟩ := executable_plannedActions hself' nodeIdToNodeStatMap hsound
  refine ⟨hlength, fun done hdone => ?_⟩
  obtain ⟨hsize, L, hexecutes⟩ := hplan.of_initial hdone
  exact ⟨hsize, L, hexecutes, hexecutes.oneSided hsound.oneSided_ledger hself'⟩

/-- A node with as much page cache as free memory, and its neighbour with 1 GB of page cache and 7 GB
of free memory. -/
def unbalanced : Map String (BorrowNodeStat Unit ℚ) :=
  Map.ofKeys ["1", "2"] fun node =>
    if node = "1" then ⟨1, 0x40000000, 0x40000000, (), 1, 1 / 2⟩
    else ⟨0, 0x40000000, 0x1C0000000, (), 1, 1 / 8⟩

def noLoans : MemBorrowTopo where
  lendMap := Map.ofKeys ["1", "2"] fun _ => []
  borrowMap := Map.ofKeys ["1", "2"] fun _ => []
  borrowMemInfoPerNodeMap := Map.ofKeys ["1", "2"] fun _ =>
    ⟨Map.ofKeys [0] fun _ => 0x1C0000000, 0x1C0000000, 0x1C0000000⟩

theorem lends_noLoans (node : String) : noLoans.lends node = [] := by
  rw [MemBorrowTopo.lends, noLoans, Map.lookup_ofKeys]
  split <;> rfl

theorem borrows_noLoans (node : String) : noLoans.borrows node = [] := by
  rw [MemBorrowTopo.borrows, noLoans, Map.lookup_ofKeys]
  split <;> rfl

theorem sound_noLoans : noLoans.Sound twoNodes.toBorrowSize where
  mirrored src dst := by
    rw [lends_noLoans, borrows_noLoans]
    rfl
  owner dst := by
    rw [borrows_noLoans]
    exact List.forall_mem_nil _
  blocks src := by
    rw [lends_noLoans]
    exact List.forall_mem_nil _
  room src := by
    rw [lends_noLoans, List.map_nil, List.sum_nil, Nat.zero_add]
    exact BitVec.isLt _
  oneSided node := .inl (lends_noLoans node)

theorem not_linked_twoNodes (node : String) :
    MemBorrowTopo.physicalTopoCheck twoNodes.physicalTopo node node = false := by
  rw [MemBorrowTopo.physicalTopoCheck, twoNodes, Map.lookup_ofKeys]
  by_cases hone : node = "1"
  · subst hone
    rfl
  · by_cases htwo : node = "2"
    · subst htwo
      rfl
    · simp [hone, htwo]

/-- The neighbour lends three times. -/
theorem plannedActions_executable_unbalanced :
    (plannedActions twoNodes unbalanced noLoans).length = 3 ∧
      ∀ done, done <+: plannedActions twoNodes unbalanced noLoans →
        (∀ action ∈ done, action.totalSize = twoNodes.borrowSize) ∧
        ∃ L, Executes (linked twoNodes) (ledger twoNodes.toBorrowSize noLoans)
          (done.map BorrowAction.deal) L ∧ L.OneSided :=
  ⟨by decide +kernel, (plannedActions_executable twoNodes unbalanced noLoans not_linked_twoNodes
    sound_noLoans).2⟩

end Ucache

end UbsEngine
