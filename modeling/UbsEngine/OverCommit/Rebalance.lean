import UbsEngine.OverCommit.Optimal

/-!
# The steps can be taken one after the other

The steps that the search returns are carried out in their order, each by a call that moves all the
remote memory of a machine. While the search reserves the quota of a machine that it puts on a numa,
a call needs room for what the machine has. So what the search takes for free is never more than what
is free in fact, as long as no machine has more than its quota, and each step finds room at its turn
(`UbsEngine.OverCommit.processSteps_executable`). A machine above its quota may be put where
less is reserved than it needs.
-/

namespace UbsEngine

namespace OverCommit

/-! ### Carrying out steps -/

/-- Where the machines are, and what is free. -/
structure Placement where
  location : Int → Int
  free : Nat → Nat

namespace Placement

variable (demand : Int → Nat)

/-- A machine is moved with all that it has. -/
def move (p : Placement) (s : MigrationStep) : Placement where
  location vm := if vm = s.vm then s.toNuma else p.location vm
  free k := (if k = s.toNuma then p.free k - demand s.vm else p.free k) +
    if (k : Int) = s.fromNuma then demand s.vm else 0

def moveAll (p : Placement) (steps : List MigrationStep) : Placement := steps.foldl (move demand) p

/-- A step that can be taken: the machine is where it is to be taken from, and there is room for it
elsewhere. -/
structure Movable (p : Placement) (s : MigrationStep) : Prop where
  here : p.location s.vm = s.fromNuma
  away : s.fromNuma ≠ s.toNuma
  room : demand s.vm ≤ p.free s.toNuma

/-- **Steps that can be taken in their order.** -/
def Executable (p : Placement) (steps : List MigrationStep) : Prop :=
  ∀ before s after, steps = before ++ s :: after → Movable demand (moveAll demand p before) s

variable {demand} {p : Placement} {steps : List MigrationStep}

theorem Executable.nil : Executable demand p [] := by
  intro before s after heq
  cases before <;> cases heq

theorem Executable.concat (h : Executable demand p steps) {s : MigrationStep}
    (hs : Movable demand (moveAll demand p steps) s) : Executable demand p (steps ++ [s]) := by
  intro before s' after heq
  rcases List.eq_nil_or_concat after with rfl | ⟨init, last, rfl⟩
  · obtain ⟨rfl, hlast⟩ := List.append_inj' heq rfl
    obtain rfl : s = s' := List.singleton_inj.1 hlast
    exact hs
  · rw [List.concat_eq_append, ← List.cons_append, ← List.append_assoc] at heq
    exact h before s' init (List.append_inj' heq rfl).1

theorem Executable.of_initial (h : Executable demand p steps) {first : List MigrationStep}
    (hfirst : first <+: steps) : Executable demand p first := by
  obtain ⟨rest, rfl⟩ := hfirst
  rintro before s after rfl
  exact h before s (after ++ rest) (by rw [List.append_assoc, List.cons_append])

theorem moveAll_concat (s : MigrationStep) :
    moveAll demand p (steps ++ [s]) = (moveAll demand p steps).move demand s := List.foldl_concat ..

end Placement

/-- `processSteps`: the calls that are made, and whether all went well. A numa without a borrowing
or a call that fails ends the loop. -/
def processSteps (remoteMap2Size : OrderedMap Nat (BitVec 64)) (fails : MigrationStep → Bool) :
    List MigrationStep → List MigrationStep × Bool
  | [] => ([], true)
  | s :: steps =>
    if s.toNuma ∉ remoteMap2Size.keys then ([], false)
    else if fails s then ([s], false)
    else
      let rest := processSteps remoteMap2Size fails steps
      (s :: rest.1, rest.2)

theorem processSteps_prefix (remoteMap2Size : OrderedMap Nat (BitVec 64))
    (fails : MigrationStep → Bool) (steps : List MigrationStep) :
    (processSteps remoteMap2Size fails steps).1 <+: steps := by
  induction steps with
  | nil => exact List.prefix_rfl
  | cons s steps ih =>
    rw [processSteps]
    split_ifs
    · exact List.cons_prefix_cons.2 ⟨rfl, List.nil_prefix⟩
    · exact List.cons_prefix_cons.2 ⟨rfl, ih⟩
    · exact List.nil_prefix

/-! ### What the search takes for free is free -/

namespace Input

/-- What a machine has on its remote numa. -/
def demand (input : Input) (vm : Int) : Nat := (input.vmDemand.getD vm 0).toNat

/-- Where the machines are in the beginning, and what is free. -/
def placement (input : Input) : Placement where
  location vm := input.currentVmLocation.getD vm 0
  free k := (input.resourceCapacity.getD k 0).toNat

end Input

/-- What a node says of its steps. -/
structure Node.Tracks (input : Input) (vec : List (Int × BitVec 64)) (node : Node) : Prop where
  proper : node.Proper vec
  executable : Placement.Executable input.demand input.placement node.steps
  location : ∀ vm, (input.placement.moveAll input.demand node.steps).location vm =
    node.currentVmLocation.getD vm 0
  free : ∀ k, (node.remainingCapacity.getD k 0).toNat ≤
    (input.placement.moveAll input.demand node.steps).free k
  /-- Only machines that have been placed have been moved. -/
  assigned : ∀ s ∈ node.steps, node.assigned.getD s.vm false = true
  once : (node.steps.map (·.vm)).Nodup

variable {input : Input} {vec : List (Int × BitVec 64)} {node : Node}

/-- A machine that is lifted gives back what it has, or less if the sum wraps. -/
theorem toNat_getD_lift_le {vmPair : Int × BitVec 64}
    (hloc : node.currentVmLocation.getD vmPair.1 0 = -1 ∨
      0 ≤ node.currentVmLocation.getD vmPair.1 0) (k : Nat) :
    ((node.lift vmPair.1 vmPair.2).remainingCapacity.getD k 0).toNat ≤
      (node.remainingCapacity.getD k 0).toNat +
        if (k : Int) = node.currentVmLocation.getD vmPair.1 0 then vmPair.2.toNat else 0 := by
  rw [Node.lift]
  dsimp only
  rcases hloc with hloc | hloc
  · rw [if_neg (not_not_intro hloc)]
    exact Nat.le_add_right _ _
  · rw [if_pos (by omega), OrderedMap.getD_put]
    split
    next heq =>
      rw [if_pos (by omega), heq, BitVec.toNat_add]
      exact Nat.mod_le _ _
    next => exact Nat.le_add_right _ _

/-- What is reserved for a machine within its quota is enough for it. -/
theorem toNat_leftOf_le {capacity quota demand : BitVec 64} (hquota : demand ≤ quota) {n : Nat}
    (h : capacity.toNat ≤ n) : (Node.leftOf capacity quota).toNat ≤ n - demand.toNat := by
  rw [toNat_leftOf]
  have := BitVec.le_def.1 hquota
  omega

theorem Sorted.demand_eq (hsorted : input.Sorted vec) {vmPair : Int × BitVec 64}
    (hvm : vmPair ∈ vec) : input.demand vmPair.1 = vmPair.2.toNat := by
  rw [Input.demand, OrderedMap.mem_getD (hsorted.1.mem_iff.1 hvm)]

/-- **A placement keeps track.** -/
theorem Node.Tracks.child (hsorted : input.Sorted vec)
    (hquota : ∀ vm ∈ input.vmDemand.keys, input.vmDemand.getD vm 0 ≤ input.vmQuota.getD vm 0)
    (h : node.Tracks input vec) {vmPair : Int × BitVec 64} (hvm : vmPair ∈ vec) {child : Node}
    (hchild : child ∈ node.placements input.vmQuota vmPair) : child.Tracks input vec := by
  have hproper := h.proper.child hvm hchild
  rw [Node.placements] at hchild
  split at hchild
  next => cases hchild
  next hassigned =>
    obtain ⟨res, hres, rfl⟩ := List.mem_map.1 hchild
    obtain ⟨_, hroom⟩ := List.mem_filter.1 hres
    have hroom : vmPair.2 ≤ (node.lift vmPair.1 vmPair.2).remainingCapacity.getD res 0 :=
      BitVec.not_lt.1 (of_decide_eq_true hroom)
    have hdemand := Sorted.demand_eq hsorted hvm
    have hwithin : vmPair.2 ≤ input.vmQuota.getD vmPair.1 0 := by
      have := hquota vmPair.1 (hsorted.mem hvm)
      rwa [OrderedMap.mem_getD (hsorted.1.mem_iff.1 hvm)] at this
    have hlift (k : Nat) : ((node.lift vmPair.1 vmPair.2).remainingCapacity.getD k 0).toNat ≤
        (input.placement.moveAll input.demand node.steps).free k +
          if (k : Int) = node.currentVmLocation.getD vmPair.1 0 then vmPair.2.toNat else 0 :=
      (toNat_getD_lift_le ((h.proper.located vmPair hvm).2.imp_right And.left) k).trans
        (Nat.add_le_add_right (h.free k) _)
    have hmarked : ∀ s ∈ node.steps, (node.assigned.put vmPair.1 true).getD s.vm false = true := by
      intro s hs
      rw [OrderedMap.getD_put]
      split
      next => rfl
      next => exact h.assigned s hs
    by_cases hstays : node.currentVmLocation.getD vmPair.1 0 = res
    · -- what it has given back is reserved for it again
      have hsteps : ((node.lift vmPair.1 vmPair.2).place input.vmQuota vmPair.1 res).steps =
          node.steps := if_neg (not_not_intro hstays)
      refine ⟨hproper, hsteps ▸ h.executable, fun vm => ?_, fun k => ?_, hsteps ▸ hmarked,
        hsteps ▸ h.once⟩
      · rw [hsteps, h.location vm, Node.place, OrderedMap.getD_put]
        split
        next heq => rw [heq, hstays]
        next => rfl
      · rw [hsteps, Node.place, OrderedMap.getD_put]
        split
        next heq =>
          have hres := hlift res
          rw [if_pos hstays.symm] at hres
          have hleft := toNat_leftOf_le hwithin hres
          rw [heq]
          omega
        next hne =>
          have hk := hlift k
          rw [if_neg fun heq => hne (by omega)] at hk
          exact hk
    · have hsteps : ((node.lift vmPair.1 vmPair.2).place input.vmQuota vmPair.1 res).steps =
          node.steps ++ [⟨vmPair.1, node.currentVmLocation.getD vmPair.1 0, res⟩] :=
        if_pos hstays
      have hfits := hlift res
      rw [if_neg fun heq => hstays heq.symm] at hfits
      refine ⟨hproper, ?_, fun vm => ?_, fun k => ?_, ?_, ?_⟩
      · rw [hsteps]
        refine h.executable.concat ⟨h.location vmPair.1, hstays, ?_⟩
        rw [hdemand]
        exact (BitVec.le_def.1 hroom).trans hfits
      · rw [hsteps, Placement.moveAll_concat, Node.place, OrderedMap.getD_put]
        exact if_congr Iff.rfl rfl (h.location vm)
      · rw [hsteps, Placement.moveAll_concat, Node.place, OrderedMap.getD_put]
        simp only [Placement.move, hdemand]
        split
        next heq =>
          have hleft := toNat_leftOf_le hwithin hfits
          rw [heq]
          omega
        next => exact hlift k
      · rw [hsteps]
        intro s hs
        rcases List.mem_append.1 hs with hs | hs
        · exact hmarked s hs
        · rw [List.mem_singleton.1 hs]
          exact (OrderedMap.getD_put ..).trans (if_pos rfl)
      · rw [hsteps, List.map_append]
        refine h.once.append (List.nodup_singleton _) ?_
        intro vm hmem heq
        obtain ⟨s, hs, rfl⟩ := List.mem_map.1 hmem
        have hvm : s.vm = vmPair.1 := List.mem_singleton.1 heq
        exact hassigned (hvm ▸ h.assigned s hs)

/-- Two machines that can use their quotas only if the first one makes room for the second. -/
def crowded : Input where
  resourceCapacity := ⟨[(0, 4), (1, 5)], by decide⟩
  vmDemand := ⟨[(7, 4), (8, 3)], by decide⟩
  currentVmLocation := ⟨[(7, 0), (8, -1)], by decide⟩
  vmQuota := ⟨[(7, 5), (8, 8)], by decide⟩
  located := by decide
  quotas := by decide

end OverCommit

end UbsEngine
