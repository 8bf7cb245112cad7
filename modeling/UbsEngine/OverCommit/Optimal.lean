import UbsEngine.OverCommit.Backtrack
import Mathlib.Algebra.Order.BigOperators.Group.List
import Mathlib.Algebra.Order.Group.Nat
import Mathlib.Logic.Relation

/-!
# The search finds a best placement

A branch of the search is left out if even the best that it could leave is no better than the best
placement so far: everything is given back and every machine that has not been placed uses its quota
(`UbsEngine.OverCommit.calBestRemainValue`). No placement lowers that bound
(`UbsEngine.OverCommit.bound_le_child`), and what a full placement leaves is not below it, so that
nothing better is lost as long as the sums are below `2 ^ 64`.

The best placement so far begins with the largest number of 31 bits, though the sums have 64. If
every placement leaves that much, none is taken, and no steps are returned
(`UbsEngine.OverCommit.allocate_optimal_iff`).
-/

namespace UbsEngine

namespace OverCommit

/-! ### Sums of 64 bits -/

/-- A loop that adds to a number of 64 bits in each turn. -/
theorem foldl_of_step {α β : Type*} {f : β → α → β} {g : β → BitVec 64} {w : α → Nat}
    {l : List α} (h : ∀ a ∈ l, ∀ b, g (f b a) = g b + BitVec.ofNat 64 (w a)) (b : β) :
    g (l.foldl f b) = g b + BitVec.ofNat 64 (l.map w).sum := by
  induction l generalizing b with
  | nil => exact (BitVec.add_zero _).symm
  | cons a l ih =>
    obtain ⟨hhead, htail⟩ := List.forall_mem_cons.1 h
    rw [List.foldl_cons, ih htail, hhead, List.map_cons, List.sum_cons, BitVec.ofNat_add,
      BitVec.add_assoc]

theorem ofNat_toNat_self (v : BitVec 64) : BitVec.ofNat 64 v.toNat = v := by
  rw [BitVec.ofNat_toNat, BitVec.setWidth_eq]

/-- What the values of a map add up to, however much it is. -/
def heldSum {K : Type} (m : OrderedMap K (BitVec 64)) : Nat :=
  (m.toList.map fun p => p.2.toNat).sum

theorem sumOf_eq_ofNat {K : Type} (m : OrderedMap K (BitVec 64)) :
    sumOf m = BitVec.ofNat 64 (heldSum m) := by
  have hloop := foldl_of_step (f := fun (sum : BitVec 64) (p : K × BitVec 64) => sum + p.2)
    (g := id) (w := fun p => p.2.toNat) (l := m.toList)
    (fun p _ sum => by rw [ofNat_toNat_self]; rfl) 0
  exact hloop.trans (BitVec.zero_add _)

theorem sumOf_eq_sum {K : Type} (m : OrderedMap K (BitVec 64)) :
    sumOf m = (m.toList.map fun p => p.2).sum := by
  rw [sumOf, List.sum_eq_foldl, List.foldl_map]

/-- Adding to a value adds to the sum, also if the value was not there. -/
theorem sumOf_put_add {K : Type} [DecidableEq K] (m : OrderedMap K (BitVec 64)) (k : K)
    (v : BitVec 64) : sumOf (m.put k (m.getD k 0 + v)) = sumOf m + v := by
  rw [sumOf_eq_sum, sumOf_eq_sum]
  by_cases h : k ∈ m.keys
  · have hput := OrderedMap.sum_put h (f := id) (m.getD k 0 + v) 0
    rw [id, id] at hput
    refine add_right_cancel (b := m.getD k 0) ?_
    refine hput.trans ?_
    rw [add_comm (m.getD k 0), add_assoc]
    rfl
  · rw [OrderedMap.getD_of_notMem 0 h, BitVec.ofNat_eq_ofNat, BitVec.zero_add]
    exact OrderedMap.sum_put_of_notMem h id v

/-! ### The bound -/

section Bound

variable {vmDemand : List (Int × BitVec 64)} {vmQuota : OrderedMap Int (BitVec 64)}
  {node : Node}

/-- What a machine that has not been placed gives back. -/
def Node.givenBack (node : Node) (vmPair : Int × BitVec 64) : Nat :=
  if node.currentVmLocation.getD vmPair.1 0 = -1 ∨ node.assigned.getD vmPair.1 false then 0
  else vmPair.2.toNat

/-- `memSum`: what is left if everything is given back. -/
def Node.memSum (vmDemand : List (Int × BitVec 64)) (node : Node) : Nat :=
  heldSum node.remainingCapacity + (vmDemand.map node.givenBack).sum

/-- `vmQuataSum`: what the machines may use that have not been placed. -/
def Node.vmQuataSum (vmQuota : OrderedMap Int (BitVec 64)) (node : Node) : Nat :=
  (vmQuota.toList.map fun p => if node.assigned.getD p.1 false then 0 else p.2.toNat).sum

/-- Sums of sums may be taken in either order. -/
theorem sum_map_sum_comm {α β : Type*} (l : List α) (l' : List β) (f : α → β → Nat) :
    (l.map fun a => (l'.map fun b => f a b).sum).sum =
      (l'.map fun b => (l.map fun a => f a b).sum).sum := by
  induction l with
  | nil =>
    rw [List.map_nil, List.sum_nil, List.sum_eq_zero]
    intro n hn
    obtain ⟨b, -, rfl⟩ := List.mem_map.1 hn
    rfl
  | cons a l ih =>
    rw [List.map_cons, List.sum_cons, ih, ← List.sum_map_add]
    rfl

/-- What the machines give back, counted machine by machine instead of place by place. -/
theorem sum_givenBack (h : node.Proper vmDemand) :
    (node.currentVmLocation.toList.map fun p =>
      if p.2 = -1 ∨ node.assigned.getD p.1 false then 0
      else (vmDemand.map fun d => if d.1 = p.1 then d.2.toNat else 0).sum).sum =
      (vmDemand.map node.givenBack).sum := by
  have hrow : ∀ p : Int × Int, (if p.2 = -1 ∨ node.assigned.getD p.1 false then 0
      else (vmDemand.map fun d => if d.1 = p.1 then d.2.toNat else 0).sum) =
      (vmDemand.map fun d => if p.1 = d.1 then
        if p.2 = -1 ∨ node.assigned.getD d.1 false then 0 else d.2.toNat else 0).sum := by
    intro p
    by_cases hp : p.2 = -1 ∨ node.assigned.getD p.1 false
    · rw [if_pos hp]
      refine (List.sum_eq_zero fun n hn => ?_).symm
      obtain ⟨d, -, rfl⟩ := List.mem_map.1 hn
      split
      next heq => exact if_pos (heq ▸ hp)
      next => rfl
    · rw [if_neg hp]
      refine congrArg List.sum (List.map_congr_left fun d _ => ?_)
      by_cases heq : d.1 = p.1
      · rw [if_pos heq, if_pos heq.symm, if_neg (heq ▸ hp)]
      · rw [if_neg heq, if_neg (Ne.symm heq)]
  rw [funext hrow, sum_map_sum_comm]
  refine congrArg List.sum (List.map_congr_left fun d hd => ?_)
  exact OrderedMap.sum_ite_key (h.located d hd).1
    (fun v => if v = -1 ∨ node.assigned.getD d.1 false then 0 else d.2.toNat) 0

/-- The first sum of the bound. -/
theorem sumOf_numaSum (h : node.Proper vmDemand) :
    sumOf (node.currentVmLocation.toList.foldl (fun numaSum p =>
      if p.2 = -1 ∨ node.assigned.getD p.1 false then numaSum
      else vmDemand.foldl (fun numaSum dPair =>
        if dPair.1 = p.1 then numaSum.put p.2.toNat (numaSum.getD p.2.toNat 0 + dPair.2)
        else numaSum) numaSum) node.remainingCapacity) =
      BitVec.ofNat 64 (node.memSum vmDemand) := by
  -- a turn adds what the demands of the machine are
  have hturn : ∀ (p : Int × Int) (numaSum : OrderedMap Nat (BitVec 64)),
      sumOf (vmDemand.foldl (fun numaSum dPair =>
        if dPair.1 = p.1 then numaSum.put p.2.toNat (numaSum.getD p.2.toNat 0 + dPair.2)
        else numaSum) numaSum) = sumOf numaSum + BitVec.ofNat 64
          (vmDemand.map fun d => if d.1 = p.1 then d.2.toNat else 0).sum := by
    intro p numaSum
    refine foldl_of_step (g := sumOf) (fun d _ numaSum => ?_) numaSum
    split
    next => rw [sumOf_put_add, ofNat_toNat_self]
    next => exact (BitVec.add_zero _).symm
  rw [Node.memSum, BitVec.ofNat_add, ← sumOf_eq_ofNat, ← sum_givenBack h]
  refine foldl_of_step (g := sumOf) (fun p _ numaSum => ?_) node.remainingCapacity
  split
  next => exact (BitVec.add_zero _).symm
  next => exact hturn p numaSum

/-- The second sum of the bound. -/
theorem foldl_vmQuataSum :
    vmQuota.toList.foldl (fun vmQuataSum p =>
      if node.assigned.getD p.1 false then vmQuataSum else vmQuataSum + p.2) (0 : BitVec 64) =
      BitVec.ofNat 64 (node.vmQuataSum vmQuota) := by
  refine (foldl_of_step (g := id) (fun p _ vmQuataSum => ?_) 0).trans (BitVec.zero_add _)
  dsimp only [id]
  split
  next => exact (BitVec.add_zero _).symm
  next => rw [ofNat_toNat_self]

/-- The bound, as long as its sums do not wrap. -/
theorem toNat_calBestRemainValue (h : node.Proper vmDemand) (hmem : node.memSum vmDemand < 2 ^ 64)
    (hquota : node.vmQuataSum vmQuota < 2 ^ 64) :
    (calBestRemainValue node.remainingCapacity (node.stat vmDemand vmQuota)
      node.assigned).toNat = node.memSum vmDemand - node.vmQuataSum vmQuota := by
  have hmemSum : (BitVec.ofNat 64 (node.memSum vmDemand)).toNat = node.memSum vmDemand :=
    Nat.mod_eq_of_lt hmem
  have hvmQuataSum : (BitVec.ofNat 64 (node.vmQuataSum vmQuota)).toNat =
      node.vmQuataSum vmQuota := Nat.mod_eq_of_lt hquota
  rw [calBestRemainValue]
  dsimp only
  rw [sumOf_numaSum h, foldl_vmQuataSum]
  split
  next hless =>
    rw [BitVec.lt_def, hmemSum, hvmQuataSum] at hless
    exact (Nat.sub_eq_zero_of_le hless.le).symm
  next hge =>
    rw [BitVec.toNat_sub_of_le (BitVec.not_lt.1 hge), hmemSum, hvmQuataSum]

theorem Node.Proper.child (h : node.Proper vmDemand) {vmPair : Int × BitVec 64}
    (hvm : vmPair ∈ vmDemand) {child : Node} (hchild : child ∈ node.placements vmQuota vmPair) :
    child.Proper vmDemand := by
  rw [Node.placements] at hchild
  split at hchild
  next => cases hchild
  next =>
    obtain ⟨res, hres, rfl⟩ := List.mem_map.1 hchild
    exact (h.lift hvm).place vmPair.1 (List.mem_of_mem_filter hres)

/-! ### No placement lowers the bound -/

theorem heldSum_put {m : OrderedMap Nat (BitVec 64)} {k : Nat} (h : k ∈ m.keys) (v : BitVec 64) :
    heldSum (m.put k v) + (m.getD k 0).toNat = heldSum m + v.toNat :=
  OrderedMap.sum_put h BitVec.toNat v 0

/-- Taking a machine from where it is gives back what it holds, and changes nothing else. -/
theorem memSum_lift (hnodup : (vmDemand.map Prod.fst).Nodup) (h : node.Proper vmDemand)
    (hmem : node.memSum vmDemand < 2 ^ 64) {vmPair : Int × BitVec 64} (hvm : vmPair ∈ vmDemand)
    (hassigned : node.assigned.getD vmPair.1 false = false) :
    (node.lift vmPair.1 vmPair.2).memSum vmDemand = node.memSum vmDemand := by
  have hmark : ∀ vm, (node.lift vmPair.1 vmPair.2).assigned.getD vm false =
      if vm = vmPair.1 then true else node.assigned.getD vm false :=
    fun vm => OrderedMap.getD_put _ _ _ _ _
  -- the machine itself gives nothing back any more
  have hsum := OrderedMap.sum_map_of_key hnodup hvm
    (f := (node.lift vmPair.1 vmPair.2).givenBack) (g := node.givenBack) fun a _ hne => by
      rw [Node.givenBack, Node.givenBack, hmark, if_neg hne]
      rfl
  have hlifted : (node.lift vmPair.1 vmPair.2).givenBack vmPair = 0 :=
    if_pos (.inr (by rw [hmark, if_pos rfl]))
  rw [hlifted, Nat.add_zero] at hsum
  rw [Node.memSum] at hmem ⊢
  rw [Node.memSum]
  by_cases hloc : node.currentVmLocation.getD vmPair.1 0 = -1
  · -- it was nowhere
    have hgiven : node.givenBack vmPair = 0 := if_pos (.inl hloc)
    rw [hgiven, Nat.add_zero] at hsum
    have hheld : (node.lift vmPair.1 vmPair.2).remainingCapacity = node.remainingCapacity :=
      if_neg (not_not.2 hloc)
    rw [hheld, hsum]
  · have hgiven : node.givenBack vmPair = vmPair.2.toNat :=
      if_neg (by rw [hassigned]; simpa using hloc)
    have hheld : (node.lift vmPair.1 vmPair.2).remainingCapacity = _ := if_pos hloc
    have hput := heldSum_put (h.mem_keys hvm hloc) (node.remainingCapacity.getD
      (node.currentVmLocation.getD vmPair.1 0).toNat 0 + vmPair.2)
    rw [← hheld, BitVec.toNat_add_of_lt] at hput
    · omega
    · -- both are part of a sum that does not wrap
      have hdemand : vmPair.2.toNat ≤ (vmDemand.map node.givenBack).sum :=
        hgiven ▸ List.le_sum_of_mem (List.mem_map_of_mem hvm)
      have hcapacity : (node.remainingCapacity.getD
          (node.currentVmLocation.getD vmPair.1 0).toNat 0).toNat ≤
            heldSum node.remainingCapacity := by
        have hzero := heldSum_put (h.mem_keys hvm hloc) 0
        have htoNat : (0 : BitVec 64).toNat = 0 := rfl
        omega
      omega

/-- Putting a machine that has been lifted on a numa uses some of the capacity. -/
theorem memSum_place (vmDemand : List (Int × BitVec 64)) (vmQuota : OrderedMap Int (BitVec 64))
    {vm : Int} (hassigned : node.assigned.getD vm false = true) {res : Nat}
    (hres : res ∈ node.remainingCapacity.keys) :
    (node.place vmQuota vm res).memSum vmDemand + (node.remainingCapacity.getD res 0).toNat =
      node.memSum vmDemand +
        (Node.leftOf (node.remainingCapacity.getD res 0) (vmQuota.getD vm 0)).toNat := by
  have hgiven : (node.place vmQuota vm res).givenBack = node.givenBack := by
    funext vmPair
    by_cases heq : vmPair.1 = vm
    · have hmark : node.assigned.getD vmPair.1 false = true := heq ▸ hassigned
      exact (if_pos (.inr hmark)).trans (if_pos (.inr hmark)).symm
    · have hloc : (node.place vmQuota vm res).currentVmLocation.getD vmPair.1 0 =
          node.currentVmLocation.getD vmPair.1 0 := by
        rw [Node.place, OrderedMap.getD_put, if_neg heq]
      rw [Node.givenBack, hloc]
      rfl
  have hput := heldSum_put hres
    (Node.leftOf (node.remainingCapacity.getD res 0) (vmQuota.getD vm 0))
  rw [Node.memSum, Node.memSum, hgiven]
  have hheld : (node.place vmQuota vm res).remainingCapacity = node.remainingCapacity.put res
    (Node.leftOf (node.remainingCapacity.getD res 0) (vmQuota.getD vm 0)) := rfl
  rw [hheld]
  omega

/-- No more is used than the quota. -/
theorem toNat_leftOf (capacity quota : BitVec 64) :
    (Node.leftOf capacity quota).toNat = capacity.toNat - quota.toNat := by
  rw [Node.leftOf]
  split
  next hless =>
    rw [BitVec.lt_def] at hless
    exact (Nat.sub_eq_zero_of_le hless.le).symm
  next hge => exact BitVec.toNat_sub_of_le (BitVec.not_lt.1 hge)

/-- **What one step does to the two sums of the bound**: a machine that has not been placed is put
on a numa that has room for it. -/
theorem sums_placements (hnodup : (vmDemand.map Prod.fst).Nodup)
    (hquotas : ∀ vmPair ∈ vmDemand, vmPair.1 ∈ vmQuota.keys) (h : node.Proper vmDemand)
    (hmem : node.memSum vmDemand < 2 ^ 64) {vmPair : Int × BitVec 64} (hvm : vmPair ∈ vmDemand)
    {child : Node} (hchild : child ∈ node.placements vmQuota vmPair) :
    node.assigned.getD vmPair.1 false = false ∧
      (∀ vm, child.assigned.getD vm false =
        if vm = vmPair.1 then true else node.assigned.getD vm false) ∧
      child.memSum vmDemand ≤ node.memSum vmDemand ∧
      node.memSum vmDemand ≤ child.memSum vmDemand + (vmQuota.getD vmPair.1 0).toNat ∧
      child.vmQuataSum vmQuota + (vmQuota.getD vmPair.1 0).toNat = node.vmQuataSum vmQuota := by
  rw [Node.placements] at hchild
  cases hassigned : node.assigned.getD vmPair.1 false with
  | true =>
    rw [hassigned, if_pos rfl] at hchild
    cases hchild
  | false =>
    rw [hassigned, if_neg Bool.false_ne_true] at hchild
    obtain ⟨res, hres, rfl⟩ := List.mem_map.1 hchild
    have hkey := List.mem_of_mem_filter hres
    have hmark : ∀ vm, (node.lift vmPair.1 vmPair.2).assigned.getD vm false =
        if vm = vmPair.1 then true else node.assigned.getD vm false :=
      fun vm => OrderedMap.getD_put _ _ _ _ _
    have hlift := memSum_lift hnodup h hmem hvm hassigned
    have hplace := memSum_place vmDemand vmQuota
      ((hmark vmPair.1).trans (if_pos rfl)) hkey
    rw [toNat_leftOf, hlift] at hplace
    refine ⟨rfl, hmark, by omega, by omega, ?_⟩
    -- its quota is not counted any more
    obtain ⟨e, he, hekey⟩ := List.mem_map.1 (hquotas vmPair hvm)
    have hsum := OrderedMap.sum_map_of_key vmQuota.nodup he
      (f := fun p => if (node.lift vmPair.1 vmPair.2).assigned.getD p.1 false then 0
        else p.2.toNat)
      (g := fun p => if node.assigned.getD p.1 false then 0 else p.2.toNat)
      fun p _ hne => by
        have hother := (hmark p.1).trans (if_neg (hekey ▸ hne))
        rw [hother]
    rw [hmark, if_pos hekey, if_pos rfl, Nat.add_zero, hekey, hassigned,
      if_neg Bool.false_ne_true] at hsum
    rw [← OrderedMap.mem_getD (d := 0) he, hekey] at hsum
    exact hsum

/-! ### The tree of placements -/

/-- How many machines have not been placed. -/
def Node.height (vmDemand : List (Int × BitVec 64)) (node : Node) : Nat :=
  (vmDemand.map fun d => if node.assigned.getD d.1 false then 0 else 1).sum

/-- The bound without wrapping. -/
def Node.bound (vmDemand : List (Int × BitVec 64)) (vmQuota : OrderedMap Int (BitVec 64))
    (node : Node) : Nat :=
  node.memSum vmDemand - node.vmQuataSum vmQuota

/-- What holds of each node that the search comes to. -/
structure Node.Bounded (vmDemand : List (Int × BitVec 64)) (vmQuota : OrderedMap Int (BitVec 64))
    (bestRestMem : BitVec 64) (node : Node) : Prop where
  proper : node.Proper vmDemand
  memSum : node.memSum vmDemand < 2 ^ 64
  vmQuataSum : node.vmQuataSum vmQuota < 2 ^ 64
  bestRestMem : bestRestMem.toNat ≤ node.bound vmDemand vmQuota

variable {bestRestMem : BitVec 64}

/-- **No placement lowers the bound.** -/
theorem bound_le_child (hnodup : (vmDemand.map Prod.fst).Nodup)
    (hquotas : ∀ vmPair ∈ vmDemand, vmPair.1 ∈ vmQuota.keys) {child : Node}
    (h : node.Bounded vmDemand vmQuota bestRestMem)
    (hchild : child ∈ (placementTree vmDemand vmQuota bestRestMem).children node) :
    node.bound vmDemand vmQuota ≤ child.bound vmDemand vmQuota := by
  obtain ⟨vmPair, hvm, hchild⟩ := List.mem_flatMap.1 hchild
  obtain ⟨-, -, -, hmem, hquota⟩ := sums_placements hnodup hquotas h.proper h.memSum hvm hchild
  rw [Node.bound, Node.bound]
  omega

theorem Node.Bounded.child (hnodup : (vmDemand.map Prod.fst).Nodup)
    (hquotas : ∀ vmPair ∈ vmDemand, vmPair.1 ∈ vmQuota.keys) {child : Node}
    (h : node.Bounded vmDemand vmQuota bestRestMem)
    (hchild : child ∈ (placementTree vmDemand vmQuota bestRestMem).children node) :
    child.Bounded vmDemand vmQuota bestRestMem := by
  have hbound := bound_le_child hnodup hquotas h hchild
  obtain ⟨vmPair, hvm, hchild⟩ := List.mem_flatMap.1 hchild
  obtain ⟨-, -, hmem, -, hquota⟩ := sums_placements hnodup hquotas h.proper h.memSum hvm hchild
  exact ⟨h.proper.child hvm hchild, hmem.trans_lt h.memSum, by have := h.vmQuataSum; omega,
    h.bestRestMem.trans hbound⟩

/-- Each step places a machine. -/
theorem height_child (hnodup : (vmDemand.map Prod.fst).Nodup)
    (hquotas : ∀ vmPair ∈ vmDemand, vmPair.1 ∈ vmQuota.keys) {child : Node}
    (h : node.Bounded vmDemand vmQuota bestRestMem)
    (hchild : child ∈ (placementTree vmDemand vmQuota bestRestMem).children node) :
    child.height vmDemand < node.height vmDemand := by
  obtain ⟨vmPair, hvm, hchild⟩ := List.mem_flatMap.1 hchild
  obtain ⟨hassigned, hmark, -⟩ := sums_placements hnodup hquotas h.proper h.memSum hvm hchild
  have hsum := OrderedMap.sum_map_of_key hnodup hvm
    (f := fun d => if child.assigned.getD d.1 false then 0 else 1)
    (g := fun d => if node.assigned.getD d.1 false then 0 else 1)
    fun d _ hne => by
      have hother := (hmark d.1).trans (if_neg hne)
      rw [hother]
  rw [hassigned, hmark, if_pos rfl, if_pos rfl, if_neg Bool.false_ne_true] at hsum
  rw [Node.height, Node.height]
  omega

theorem value_eq_heldSum (hmem : node.memSum vmDemand < 2 ^ 64) :
    (placementTree vmDemand vmQuota bestRestMem).value node = heldSum node.remainingCapacity := by
  rw [Node.memSum] at hmem
  refine (congrArg BitVec.toNat (sumOf_eq_ofNat _)).trans ?_
  rw [BitVec.toNat_ofNat, Nat.mod_eq_of_lt (by omega)]

/-- What a full placement leaves is not below the bound. -/
theorem bound_le_leaf (h : node.Bounded vmDemand vmQuota bestRestMem)
    (hdone : (placementTree vmDemand vmQuota bestRestMem).done node) :
    node.bound vmDemand vmQuota ≤ (placementTree vmDemand vmQuota bestRestMem).value node := by
  have hgiven : (vmDemand.map node.givenBack).sum = 0 := by
    refine List.sum_eq_zero fun n hn => ?_
    obtain ⟨d, hd, rfl⟩ := List.mem_map.1 hn
    exact if_pos (.inr (List.all_eq_true.1 hdone d hd))
  rw [value_eq_heldSum h.memSum, Node.bound, Node.memSum, hgiven, Nat.add_zero]
  exact Nat.sub_le _ _

/-- **Nothing that is cut has a better placement below it.** -/
theorem key_le_of_cut (hnodup : (vmDemand.map Prod.fst).Nodup)
    (hquotas : ∀ vmPair ∈ vmDemand, vmPair.1 ∈ vmQuota.keys) {best : BestSituation}
    {leaf : Node} (h : node.Bounded vmDemand vmQuota bestRestMem)
    (hcut : (placementTree vmDemand vmQuota bestRestMem).cut best node)
    (hleads : (placementTree vmDemand vmQuota bestRestMem).Leads node leaf) :
    (placementTree vmDemand vmQuota bestRestMem).key best ≤
      (placementTree vmDemand vmQuota bestRestMem).value leaf := by
  have hbelow : node.bound vmDemand vmQuota ≤
      (placementTree vmDemand vmQuota bestRestMem).value leaf :=
    BranchBound.bound_le_value (fun a b ha _ hb => Node.Bounded.child hnodup hquotas ha hb)
      (fun a b ha _ hb => bound_le_child hnodup hquotas ha hb)
      (fun a ha hdone => bound_le_leaf ha hdone) h hleads
  rcases of_decide_eq_true hcut with hbest | hbound
  · -- the best placement is as good as can be
    exact (congrArg BitVec.toNat hbest).le.trans (h.bestRestMem.trans hbelow)
  · have hle := BitVec.le_def.1 hbound
    rw [toNat_calBestRemainValue h.proper h.memSum h.vmQuataSum] at hle
    exact hle.trans hbelow

end Bound

/-! ### The search as a whole -/

namespace Input

/-- The node at which the search begins. -/
def root (input : Input) : Node where
  remainingCapacity := input.resourceCapacity
  assigned := input.vmDemand.mapValues fun _ => false
  currentVmLocation := input.currentVmLocation
  steps := []

/-- The tree that the search goes through, with nothing cut. -/
def tree (input : Input) (vec : List (Int × BitVec 64)) : BranchBound Node BestSituation Nat :=
  placementTree vec input.vmQuota
    (calBestRemainValue input.resourceCapacity (input.vmStat vec) input.start.assigned)

/-- A full placement that the search without pruning comes to. -/
def Admits (input : Input) (vec : List (Int × BitVec 64)) (leaf : Node) : Prop :=
  (input.tree vec).Leads input.root leaf

/-- Nothing leaves less than a full placement. -/
def Minimal (input : Input) (vec : List (Int × BitVec 64)) (leaf : Node) : Prop :=
  input.Admits vec leaf ∧
    ∀ other, input.Admits vec other →
      heldSum leaf.remainingCapacity ≤ heldSum other.remainingCapacity

/-- What the search is for. -/
structure Optimal (input : Input) (vec : List (Int × BitVec 64)) : Prop where
  /-- If there is a full placement, the steps of one are returned that leaves least. -/
  best : (∃ leaf, input.Admits vec leaf) →
    ∃ leaf, input.Minimal vec leaf ∧ allocate input vec = leaf.steps
  /-- Every call returns with the capacities, the machines that are placed and the steps as it
  found them. -/
  restores : ∀ node : Node,
    Relation.ReflTransGen (fun a b => b ∈ (input.tree vec).children a) input.root node →
      ∀ (fuel : Nat) (best : BestSituation), ∃ best',
        dfs (calBestRemainValue input.resourceCapacity (input.vmStat vec) input.start.assigned)
          fuel (node.stat vec input.vmQuota) (node.state best) = node.state best'

/-- The two sums of the bound do not wrap. -/
structure Fits (input : Input) (vec : List (Int × BitVec 64)) : Prop where
  memSum : input.root.memSum vec < 2 ^ 64
  vmQuataSum : input.root.vmQuataSum input.vmQuota < 2 ^ 64

variable {input : Input} {vec : List (Int × BitVec 64)}

theorem Sorted.mem (h : input.Sorted vec) {vmPair : Int × BitVec 64} (hmem : vmPair ∈ vec) :
    vmPair.1 ∈ input.vmDemand.keys :=
  List.mem_map_of_mem (h.1.mem_iff.1 hmem)

theorem Sorted.nodup (h : input.Sorted vec) : (vec.map Prod.fst).Nodup :=
  (h.1.map Prod.fst).nodup_iff.2 input.vmDemand.nodup

theorem Sorted.proper (h : input.Sorted vec) : input.root.Proper vec := by
  refine ⟨fun vmPair hmem => ?_, fun vmPair hmem => input.located _ (h.mem hmem)⟩
  rw [root, OrderedMap.keys, OrderedMap.mapValues, List.map_map]
  exact h.mem hmem

theorem Sorted.quotas (h : input.Sorted vec) : ∀ vmPair ∈ vec, vmPair.1 ∈ input.vmQuota.keys :=
  fun _ hmem => input.quotas _ (h.mem hmem)

theorem Sorted.bounded (h : input.Sorted vec) (hfits : input.Fits vec) :
    input.root.Bounded vec input.vmQuota
      (calBestRemainValue input.resourceCapacity (input.vmStat vec) input.start.assigned) :=
  ⟨h.proper, hfits.memSum, hfits.vmQuataSum,
    (toNat_calBestRemainValue h.proper hfits.memSum hfits.vmQuataSum).le⟩

/-- What an admitted placement leaves does not wrap. -/
theorem Sorted.value_eq (h : input.Sorted vec) (hfits : input.Fits vec) {leaf : Node}
    (hleaf : input.Admits vec leaf) :
    (input.tree vec).value leaf = heldSum leaf.remainingCapacity :=
  value_eq_heldSum (BranchBound.Leads.invariant
    (fun _ _ ha _ hb => Node.Bounded.child h.nodup h.quotas ha hb) hleaf (h.bounded hfits)).memSum

/-- **The steps of a best placement are returned**, if there is one that leaves less than the
search begins with. -/
theorem Sorted.improves (h : input.Sorted vec) (hfits : input.Fits vec) :
    (input.tree vec).Improves (input.Admits vec) input.start.best
      ((input.tree vec).search vec.length input.root input.start.best) := by
  refine BranchBound.search_spec (fun _ => rfl)
    (fun a b ha _ hb => Node.Bounded.child h.nodup h.quotas ha hb)
    (fun a b ha _ hb => height_child h.nodup h.quotas ha hb)
    (fun w a b ha hcut hb => key_le_of_cut h.nodup h.quotas ha hcut hb) _ _ _ (h.bounded hfits) ?_
  -- there is a level for each machine
  have hlength : ∀ n ∈ vec.map fun d => if input.root.assigned.getD d.1 false then 0 else 1,
      n ≤ 1 := by
    intro n hn
    obtain ⟨d, -, rfl⟩ := List.mem_map.1 hn
    split
    next => exact Nat.zero_le 1
    next => exact le_rfl
  refine (List.sum_le_card_nsmul _ 1 hlength).trans ?_
  rw [List.length_map, nsmul_one]
  exact le_rfl

theorem Sorted.allocate_eq (h : input.Sorted vec) :
    allocate input vec =
      ((input.tree vec).search vec.length input.root input.start.best).bestMigrationSteps :=
  congrArg (fun st => st.best.bestMigrationSteps)
    (dfs_eq_search _ vec.length input.root h.proper input.start.best)

theorem Sorted.restores (h : input.Sorted vec) {node : Node}
    (hnode : Relation.ReflTransGen (fun a b => b ∈ (input.tree vec).children a) input.root node) :
    node.Proper vec := by
  induction hnode with
  | refl => exact h.proper
  | tail _ hchild ih =>
    obtain ⟨vmPair, hvm, hchild⟩ := List.mem_flatMap.1 hchild
    exact ih.child hvm hchild

end Input

/-- **The search is optimal exactly if there is no full placement, or one that leaves less than the
largest number of 31 bits, or one that leaves least and moves nothing.** The running best begins
with that number, so that a full placement that leaves more is never taken. -/
theorem allocate_optimal_iff {input : Input} {vec : List (Int × BitVec 64)}
    (h : input.Sorted vec) (hfits : input.Fits vec) :
    input.Optimal vec ↔ (∀ leaf, ¬input.Admits vec leaf) ∨
      (∃ leaf, input.Admits vec leaf ∧ heldSum leaf.remainingCapacity < INT_MAX.toNat) ∨
        ∃ leaf, input.Minimal vec leaf ∧ leaf.steps = [] := by
  have hresult := h.allocate_eq
  constructor
  · intro hoptimal
    by_cases hnone : ∃ leaf, input.Admits vec leaf
    · obtain ⟨leaf, hminimal, hsteps⟩ := hoptimal.best hnone
      rcases h.improves hfits with ⟨hkept, -⟩ | ⟨best, hbest, -, hless, -⟩
      · rw [hkept] at hresult
        exact .inr (.inr ⟨leaf, hminimal, hsteps.symm.trans hresult⟩)
      · exact .inr (.inl ⟨best, hbest, h.value_eq hfits hbest ▸ hless⟩)
    · exact .inl (not_exists.1 hnone)
  · intro hcond
    refine ⟨fun hsome => ?_, fun node hnode fuel best =>
      ⟨_, dfs_eq_search _ fuel node (h.restores hnode) best⟩⟩
    rcases h.improves hfits with ⟨hkept, hno⟩ | ⟨best, hbest, htaken, -, hmin⟩
    · rw [hkept] at hresult
      rcases hcond with hnone | ⟨leaf, hleaf, hless⟩ | ⟨leaf, hminimal, hsteps⟩
      · exact (hsome.elim hnone).elim
      · have hge := hno leaf hleaf
        rw [h.value_eq hfits hleaf] at hge
        exact absurd hless (not_lt.2 hge)
      · exact ⟨leaf, hminimal, hresult.trans hsteps.symm⟩
    · rw [htaken] at hresult
      refine ⟨best, ⟨hbest, fun other hother => ?_⟩, hresult⟩
      rw [← h.value_eq hfits hbest, ← h.value_eq hfits hother]
      exact hmin other hother

/-- Two numas, of which the first has nothing left, and a machine on the first that may use ten. -/
def twoNumas (capacity : BitVec 64) : Input where
  resourceCapacity := ⟨[(0, 0), (1, capacity)], (by decide : [0, 1].Nodup)⟩
  vmDemand := ⟨[(7, 1)], by decide⟩
  currentVmLocation := ⟨[(7, 0)], by decide⟩
  vmQuota := ⟨[(7, 10)], by decide⟩
  located := fun vm hvm => by
    obtain rfl := List.mem_singleton.1 hvm
    exact ⟨List.mem_cons_self, .inr ⟨le_rfl, List.mem_cons_self⟩⟩
  quotas := fun _ hvm => hvm

theorem allocate_optimal_iff_twoNumas : (twoNumas 100).Optimal [(7, 1)] := by
  have hsorted : (twoNumas 100).Sorted [(7, 1)] := ⟨.refl _, List.pairwise_singleton _ _⟩
  refine (allocate_optimal_iff hsorted ⟨by decide, by decide⟩).2 (.inr (.inl ?_))
  -- the machine goes to the second numa
  exact ⟨((twoNumas 100).root.lift 7 1).place (twoNumas 100).vmQuota 7 1,
    .down (by decide) (by decide) (.leaf (by decide)), by decide⟩

/-- **With `2 ^ 32` on the second numa no steps are returned**, though moving the machine there
leaves less than where it is. -/
theorem not_optimal_twoNumas : ¬(twoNumas (2 ^ 32)).Optimal [(7, 1)] := by
  intro hoptimal
  have hmoved : (twoNumas (2 ^ 32)).Admits [(7, 1)]
      (((twoNumas (2 ^ 32)).root.lift 7 1).place (twoNumas (2 ^ 32)).vmQuota 7 1) :=
    .down (by decide) (by decide) (.leaf (by decide))
  obtain ⟨leaf, ⟨hleaf, hmin⟩, hsteps⟩ := hoptimal.best ⟨_, hmoved⟩
  rw [show allocate (twoNumas (2 ^ 32)) [(7, 1)] = [] by decide] at hsteps
  -- the machine stays or moves
  have hchildren : ((twoNumas (2 ^ 32)).tree [(7, 1)]).children (twoNumas (2 ^ 32)).root =
      [((twoNumas (2 ^ 32)).root.lift 7 1).place (twoNumas (2 ^ 32)).vmQuota 7 0,
        ((twoNumas (2 ^ 32)).root.lift 7 1).place (twoNumas (2 ^ 32)).vmQuota 7 1] := by decide
  cases hleaf with
  | leaf hdone => exact absurd hdone (by decide)
  | down _ hchild hbelow =>
    rw [hchildren, List.mem_cons, List.mem_singleton] at hchild
    rcases hchild with rfl | rfl
    · cases hbelow with
      | leaf => exact absurd (hmin _ hmoved) (by decide)
      | down hdone => exact absurd hdone (by decide)
    · cases hbelow with
      | leaf => exact absurd hsteps (by decide)
      | down hdone => exact absurd hdone (by decide)

end OverCommit

end UbsEngine
