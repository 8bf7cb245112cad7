import UbsEngine.OverCommit.Allocate

/-!
# What the search leaves behind

A call of `UbsEngine.OverCommit.dfs` works on state that all calls share, and undoes what it does
to it. Seen without that state, it walks a tree: a node is what a call finds, and its children are
what the calls find that it makes. `UbsEngine.OverCommit.dfs_eq_search` says that a call leaves the
state as it found it, and that it makes of the best placement what the search of the tree makes of
it.
-/

namespace UbsEngine

namespace OverCommit

/-! ### The tree -/

/-- What a call of the search finds, next to the best placement so far. -/
structure Node where
  remainingCapacity : OrderedMap Nat (BitVec 64)
  assigned : OrderedMap Int Bool
  currentVmLocation : OrderedMap Int Int
  steps : List MigrationStep
  deriving DecidableEq

namespace Node

/-- A machine is taken from where it is. -/
def lift (node : Node) (vm : Int) (vmRemoteMem : BitVec 64) : Node :=
  let originalRes := node.currentVmLocation.getD vm 0
  { node with
    assigned := node.assigned.put vm true
    remainingCapacity :=
      if originalRes ≠ -1 then
        node.remainingCapacity.put originalRes.toNat
          (node.remainingCapacity.getD originalRes.toNat 0 + vmRemoteMem)
      else node.remainingCapacity }

/-- What is left of a capacity of which a quota is used. -/
def leftOf (capacity quota : BitVec 64) : BitVec 64 :=
  if capacity < quota then 0 else capacity - quota

/-- A machine that has been lifted is put on a numa. -/
def place (vmQuota : OrderedMap Int (BitVec 64)) (node : Node) (vm : Int) (res : Nat) : Node :=
  let prevLocation := node.currentVmLocation.getD vm 0
  { node with
    remainingCapacity := node.remainingCapacity.put res
      (leftOf (node.remainingCapacity.getD res 0) (vmQuota.getD vm 0))
    currentVmLocation := node.currentVmLocation.put vm res
    steps := if prevLocation ≠ res then node.steps ++ [⟨vm, prevLocation, res⟩] else node.steps }

/-- The placements of a machine that has not been placed yet. -/
def placements (vmQuota : OrderedMap Int (BitVec 64)) (node : Node) (vmPair : Int × BitVec 64) :
    List Node :=
  if node.assigned.getD vmPair.1 false then []
  else
    let lifted := node.lift vmPair.1 vmPair.2
    (lifted.remainingCapacity.keys.filter fun res =>
      ¬lifted.remainingCapacity.getD res 0 < vmPair.2).map (place vmQuota lifted vmPair.1)

end Node

/-- The tree of all orders and placements, and what the search keeps and cuts. -/
def placementTree (vmDemand : List (Int × BitVec 64)) (vmQuota : OrderedMap Int (BitVec 64))
    (bestRestMem : BitVec 64) : BranchBound Node BestSituation Nat where
  done node := areAllVmsAssigned vmDemand node.assigned
  children node := vmDemand.flatMap (node.placements vmQuota)
  value node := (sumOf node.remainingCapacity).toNat
  take node :=
    { minRemainingSum := sumOf node.remainingCapacity
      bestRemainingCapacity := node.remainingCapacity
      bestVmLocation := node.currentVmLocation
      bestMigrationSteps := node.steps }
  key best := best.minRemainingSum.toNat
  cut best node := best.minRemainingSum = bestRestMem ∨
    calBestRemainValue node.remainingCapacity ⟨vmDemand, node.currentVmLocation, vmQuota⟩
      node.assigned ≥ best.minRemainingSum

section Returns

variable {vmDemand : List (Int × BitVec 64)} {vmQuota : OrderedMap Int (BitVec 64)}
  {node : Node}

/-- Every machine is known, and is on one of the numas or nowhere. -/
structure Node.Proper (vmDemand : List (Int × BitVec 64)) (node : Node) : Prop where
  assigned : ∀ vmPair ∈ vmDemand, vmPair.1 ∈ node.assigned.keys
  located : ∀ vmPair ∈ vmDemand, vmPair.1 ∈ node.currentVmLocation.keys ∧
    (node.currentVmLocation.getD vmPair.1 0 = -1 ∨
      0 ≤ node.currentVmLocation.getD vmPair.1 0 ∧
        (node.currentVmLocation.getD vmPair.1 0).toNat ∈ node.remainingCapacity.keys)

/-- The numa that a machine is on is one of the numas. -/
theorem Node.Proper.mem_keys (h : node.Proper vmDemand) {vmPair : Int × BitVec 64}
    (hmem : vmPair ∈ vmDemand) (hloc : node.currentVmLocation.getD vmPair.1 0 ≠ -1) :
    (node.currentVmLocation.getD vmPair.1 0).toNat ∈ node.remainingCapacity.keys :=
  ((h.located vmPair hmem).2.resolve_left hloc).2

theorem Node.Proper.keys_lift (h : node.Proper vmDemand) {vmPair : Int × BitVec 64}
    (hmem : vmPair ∈ vmDemand) :
    (node.lift vmPair.1 vmPair.2).remainingCapacity.keys = node.remainingCapacity.keys := by
  rw [Node.lift]
  dsimp only
  split
  next hloc => exact OrderedMap.keys_put (h.mem_keys hmem hloc) _
  next => rfl

theorem Node.Proper.lift (h : node.Proper vmDemand) {vmPair : Int × BitVec 64}
    (hmem : vmPair ∈ vmDemand) : (node.lift vmPair.1 vmPair.2).Proper vmDemand := by
  refine ⟨fun p hp => OrderedMap.mem_keys_put.2 (.inr (h.assigned p hp)), fun p hp => ?_⟩
  rw [h.keys_lift hmem]
  exact h.located p hp

theorem Node.Proper.place (h : node.Proper vmDemand) (vm : Int) {res : Nat}
    (hres : res ∈ node.remainingCapacity.keys) : (node.place vmQuota vm res).Proper vmDemand := by
  refine ⟨h.assigned, fun p hp => ?_⟩
  obtain ⟨hkey, hloc⟩ := h.located p hp
  simp only [Node.place, OrderedMap.mem_keys_put, OrderedMap.getD_put, OrderedMap.keys_put hres]
  refine ⟨.inr hkey, ?_⟩
  split
  next =>
    right
    rw [Int.toNat_natCast]
    exact ⟨Int.natCast_nonneg res, hres⟩
  next => exact hloc

/-- What a call has for itself at a node. -/
abbrev Node.stat (vmDemand : List (Int × BitVec 64)) (vmQuota : OrderedMap Int (BitVec 64))
    (node : Node) : VMStat :=
  ⟨vmDemand, node.currentVmLocation, vmQuota⟩

/-- What a call shares with the others at a node. -/
abbrev Node.state (node : Node) (best : BestSituation) : DfsState :=
  ⟨node.remainingCapacity, node.assigned, node.steps, best⟩

/-- A call leaves everything as it found it but for the best placement. -/
def Returns (vmDemand : List (Int × BitVec 64)) (vmQuota : OrderedMap Int (BitVec 64))
    (call : VMStat → DfsState → DfsState) (search : Node → BestSituation → BestSituation) : Prop :=
  ∀ node : Node, node.Proper vmDemand → ∀ best,
    call (node.stat vmDemand vmQuota) (node.state best) = node.state (search node best)

variable {call : VMStat → DfsState → DfsState}
  {search : Node → BestSituation → BestSituation}

/-- **A turn of the inner loop puts back the numa, the place and the step.** -/
theorem tryNuma_eq (hcall : Returns vmDemand vmQuota call search) (h : node.Proper vmDemand)
    {vmPair : Int × BitVec 64} (hmem : vmPair ∈ vmDemand) {res : Nat}
    (hres : res ∈ node.remainingCapacity.keys) (best : BestSituation) :
    tryNuma call vmPair.1 vmPair.2 (node.stat vmDemand vmQuota, node.state best) res =
      (node.stat vmDemand vmQuota, node.state
        (if node.remainingCapacity.getD res 0 < vmPair.2 then best
        else search (node.place vmQuota vmPair.1 res) best)) := by
  by_cases hroom : node.remainingCapacity.getD res 0 < vmPair.2
  · rw [if_pos hroom]
    exact if_pos hroom
  · rw [if_neg hroom]
    refine (if_neg hroom).trans ?_
    have hplaced := hcall (node.place vmQuota vmPair.1 res) (h.place vmPair.1 hres) best
    dsimp only [Node.state, Node.stat, Node.place, Node.leftOf] at hplaced ⊢
    rw [hplaced]
    refine Prod.ext ?_ ?_
    · exact congrArg (fun location => VMStat.mk vmDemand location vmQuota)
        (OrderedMap.put_restore (h.located vmPair hmem).1 _ _)
    · dsimp only
      rw [OrderedMap.put_restore hres]
      split
      next => rw [List.dropLast_concat]
      next => rfl

/-- The inner loop tries the numas with room. -/
theorem foldl_tryNuma_eq (hcall : Returns vmDemand vmQuota call search)
    (h : node.Proper vmDemand) {vmPair : Int × BitVec 64} (hmem : vmPair ∈ vmDemand)
    {numas : List Nat} (hnumas : ∀ res ∈ numas, res ∈ node.remainingCapacity.keys)
    (best : BestSituation) :
    numas.foldl (tryNuma call vmPair.1 vmPair.2) (node.stat vmDemand vmQuota, node.state best) =
      (node.stat vmDemand vmQuota, node.state
        (((numas.filter fun res => ¬node.remainingCapacity.getD res 0 < vmPair.2).map
          (node.place vmQuota vmPair.1)).foldl (fun best child => search child best) best)) := by
  induction numas generalizing best with
  | nil => rfl
  | cons res numas ih =>
    obtain ⟨hres, hnumas⟩ := List.forall_mem_cons.1 hnumas
    rw [List.foldl_cons, tryNuma_eq hcall h hmem hres, ih hnumas, List.filter_cons]
    by_cases hroom : node.remainingCapacity.getD res 0 < vmPair.2
    · rw [if_pos hroom, if_neg (by simpa using hroom)]
    · rw [if_neg hroom, if_pos (decide_eq_true hroom)]
      rfl

/-- **A turn of the outer loop puts back the machine.** -/
theorem tryVm_eq (hcall : Returns vmDemand vmQuota call search) (h : node.Proper vmDemand)
    {vmPair : Int × BitVec 64} (hmem : vmPair ∈ vmDemand) (best : BestSituation) :
    tryVm call (node.stat vmDemand vmQuota, node.state best) vmPair =
      (node.stat vmDemand vmQuota, node.state
        ((node.placements vmQuota vmPair).foldl (fun best child => search child best) best)) := by
  rw [Node.placements]
  cases hassigned : node.assigned.getD vmPair.1 false with
  | true =>
    rw [if_pos rfl]
    exact if_pos hassigned
  | false =>
    rw [if_neg Bool.false_ne_true]
    refine (if_neg (Bool.not_eq_true _ ▸ hassigned)).trans ?_
    have hloop := foldl_tryNuma_eq hcall (h.lift hmem) hmem (fun _ hres => hres) best
    dsimp only [Node.state, Node.stat, Node.lift] at hloop ⊢
    rw [hloop]
    -- the machine is marked as not placed again
    have hmark : (node.assigned.put vmPair.1 true).put vmPair.1 false = node.assigned := by
      rw [← hassigned]
      exact OrderedMap.put_restore (h.assigned vmPair hmem) _ _
    rw [hmark]
    by_cases hloc : node.currentVmLocation.getD vmPair.1 0 ≠ -1
    · have hkey := h.mem_keys hmem hloc
      simp only [if_pos hloc]
      rw [OrderedMap.getD_put, if_pos rfl, BitVec.add_sub_cancel, OrderedMap.put_restore hkey,
        OrderedMap.put_getD (h.located vmPair hmem).1]
    · simp only [if_neg hloc]

/-- The outer loop tries the machines. -/
theorem foldl_tryVm_eq (hcall : Returns vmDemand vmQuota call search) (h : node.Proper vmDemand)
    {vms : List (Int × BitVec 64)} (hvms : ∀ vmPair ∈ vms, vmPair ∈ vmDemand)
    (best : BestSituation) :
    vms.foldl (tryVm call) (node.stat vmDemand vmQuota, node.state best) =
      (node.stat vmDemand vmQuota, node.state
        ((vms.flatMap (node.placements vmQuota)).foldl (fun best child => search child best)
          best)) := by
  induction vms generalizing best with
  | nil => rfl
  | cons vmPair vms ih =>
    obtain ⟨hmem, hvms⟩ := List.forall_mem_cons.1 hvms
    rw [List.foldl_cons, tryVm_eq hcall h hmem, ih hvms, List.flatMap_cons, List.foldl_append]

/-- A full placement is kept if less is left than before. -/
theorem updateBestSituation_eq (bestRestMem : BitVec 64) (best : BestSituation) :
    updateBestSituation (node.stat vmDemand vmQuota) (node.state best) =
      node.state
        (if (placementTree vmDemand vmQuota bestRestMem).value node <
            (placementTree vmDemand vmQuota bestRestMem).key best then
          (placementTree vmDemand vmQuota bestRestMem).take node
        else best) := by
  rw [updateBestSituation]
  dsimp only
  by_cases hless : sumOf node.remainingCapacity < best.minRemainingSum
  · rw [if_pos hless]
    exact congrArg node.state (if_pos (BitVec.lt_def.1 hless)).symm
  · rw [if_neg hless]
    exact congrArg node.state (if_neg fun h => hless (BitVec.lt_def.2 h)).symm

/-- **A call of the search leaves the capacities, the machines that are placed and the steps as it
found them**, and makes of the best placement what the search of the tree makes of it. -/
theorem dfs_eq_search (bestRestMem : BitVec 64) (fuel : Nat) :
    Returns vmDemand vmQuota (dfs bestRestMem fuel)
      ((placementTree vmDemand vmQuota bestRestMem).search fuel) := by
  -- what does not depend on how deep the search may go
  have hlevel : ∀ (node : Node) (best : BestSituation) (below : DfsState)
      (searched : BestSituation), below = node.state searched →
      (if areAllVmsAssigned vmDemand node.assigned then
          updateBestSituation (node.stat vmDemand vmQuota) (node.state best)
        else if checkIsSkip bestRestMem (node.stat vmDemand vmQuota) (node.state best) then
          node.state best
        else below) =
      node.state
        (if (placementTree vmDemand vmQuota bestRestMem).done node then
          if (placementTree vmDemand vmQuota bestRestMem).value node <
              (placementTree vmDemand vmQuota bestRestMem).key best then
            (placementTree vmDemand vmQuota bestRestMem).take node
          else best
        else if (placementTree vmDemand vmQuota bestRestMem).cut best node then best
        else searched) := by
    intro node best below searched hbelow
    cases hdone : areAllVmsAssigned vmDemand node.assigned with
    | true =>
      rw [if_pos rfl, updateBestSituation_eq bestRestMem]
      exact congrArg node.state (if_pos hdone).symm
    | false =>
      rw [if_neg Bool.false_ne_true]
      refine Eq.trans ?_ (congrArg node.state (if_neg (ne_true_of_eq_false hdone)).symm)
      cases hskip : checkIsSkip bestRestMem (node.stat vmDemand vmQuota) (node.state best) with
      | true =>
        rw [if_pos rfl]
        exact congrArg node.state (if_pos hskip).symm
      | false =>
        rw [if_neg Bool.false_ne_true, hbelow]
        exact congrArg node.state (if_neg (ne_true_of_eq_false hskip)).symm
  induction fuel with
  | zero =>
    intro node h best
    rw [dfs, BranchBound.search]
    exact hlevel node best _ best rfl
  | succ fuel ih =>
    intro node h best
    rw [dfs, BranchBound.search]
    refine hlevel node best _ _ ?_
    exact congrArg Prod.snd (foldl_tryVm_eq ih h (fun _ hmem => hmem) best)

end Returns

end OverCommit

end UbsEngine
