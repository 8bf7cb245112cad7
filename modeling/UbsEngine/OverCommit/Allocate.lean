import UbsEngine.Library.BranchBound
import UbsEngine.Library.OrderedMap
import Mathlib.Data.BitVec

/-!
# Placing virtual machines on remote numas

The virtual machines of a node are placed on the remote numas from which it has borrowed memory, so
that as little as possible of the memory is left. A depth-first search tries every order of the
machines and every numa for each of them: it takes a machine from where it is, puts it on a numa
that has room for its demand, where it may then use as much as its quota, and goes on with the
others. Afterwards it puts everything back.

The capacities, the machines that are placed and the steps are shared by all calls of the search.
`UbsEngine.OverCommit.dfs_eq_search` says that every call leaves them as it found them, and that
the best placement so far develops as in a search of a tree. Sizes are numbers of 64 bits.
-/

namespace UbsEngine

namespace OverCommit

structure MigrationStep where
  vm : Int
  /-- `-1` if it has been nowhere. -/
  fromNuma : Int
  toNuma : Nat
  deriving DecidableEq, Repr

/-- `VMStat`: what a call of the search has for itself. -/
structure VMStat where
  /-- The largest demands come first. -/
  vmDemand : List (Int × BitVec 64)
  currentVmLocation : OrderedMap Int Int
  vmQuota : OrderedMap Int (BitVec 64)

/-- The best placement so far. -/
structure BestSituation where
  minRemainingSum : BitVec 64
  bestRemainingCapacity : OrderedMap Nat (BitVec 64) := .empty
  bestVmLocation : OrderedMap Int Int := .empty
  bestMigrationSteps : List MigrationStep := []

/-- What all calls of the search share. -/
structure DfsState where
  remainingCapacity : OrderedMap Nat (BitVec 64)
  assigned : OrderedMap Int Bool
  steps : List MigrationStep
  best : BestSituation

/-! ### The search -/

def areAllVmsAssigned (vmDemand : List (Int × BitVec 64)) (assigned : OrderedMap Int Bool) : Bool :=
  vmDemand.all fun vmPair => assigned.getD vmPair.1 false

/-- What the values of a map add up to. -/
def sumOf {K : Type} (m : OrderedMap K (BitVec 64)) : BitVec 64 :=
  m.toList.foldl (fun sum p => sum + p.2) 0

def updateBestSituation (vmStat : VMStat) (st : DfsState) : DfsState :=
  let currentRemainingSum := sumOf st.remainingCapacity
  if currentRemainingSum < st.best.minRemainingSum then
    { st with
      best :=
        { minRemainingSum := currentRemainingSum
          bestRemainingCapacity := st.remainingCapacity
          bestVmLocation := vmStat.currentVmLocation
          bestMigrationSteps := st.steps } }
  else st

/-- What may be left at best: everything is given back, and each machine that has not been placed
uses its quota. -/
def calBestRemainValue (resourceCapacity : OrderedMap Nat (BitVec 64)) (vmStat : VMStat)
    (assigned : OrderedMap Int Bool) : BitVec 64 :=
  let numaSum := vmStat.currentVmLocation.toList.foldl (fun numaSum p =>
    if p.2 = -1 ∨ assigned.getD p.1 false then numaSum
    else vmStat.vmDemand.foldl (fun numaSum dPair =>
      if dPair.1 = p.1 then numaSum.put p.2.toNat (numaSum.getD p.2.toNat 0 + dPair.2)
      else numaSum) numaSum) resourceCapacity
  let memSum := sumOf numaSum
  let vmQuataSum := vmStat.vmQuota.toList.foldl (fun vmQuataSum p =>
    if assigned.getD p.1 false then vmQuataSum else vmQuataSum + p.2) 0
  if memSum < vmQuataSum then 0 else memSum - vmQuataSum

/-- The time limit is left out. -/
def checkIsSkip (bestRestMem : BitVec 64) (vmStat : VMStat) (st : DfsState) : Bool :=
  st.best.minRemainingSum = bestRestMem ∨
    calBestRemainValue st.remainingCapacity vmStat st.assigned ≥ st.best.minRemainingSum

/-- A turn of the inner loop of `Dfs`: a machine is put on a numa. -/
def tryNuma (dfs : VMStat → DfsState → DfsState) (vm : Int) (vmRemoteMem : BitVec 64)
    (x : VMStat × DfsState) (res : Nat) : VMStat × DfsState :=
  let (vmStat, st) := x
  if st.remainingCapacity.getD res 0 < vmRemoteMem then x
  else
    let backupCapacity := st.remainingCapacity.getD res 0
    let quota := vmStat.vmQuota.getD vm 0
    let capacity := if backupCapacity < quota then 0 else backupCapacity - quota
    let prevLocation := vmStat.currentVmLocation.getD vm 0
    let inner :=
      { vmStat with currentVmLocation := vmStat.currentVmLocation.put vm (res : Int) }
    let st := dfs inner
      { st with
        remainingCapacity := st.remainingCapacity.put res capacity
        steps := if prevLocation ≠ res then st.steps ++ [⟨vm, prevLocation, res⟩] else st.steps }
    ({ inner with currentVmLocation := inner.currentVmLocation.put vm prevLocation },
      { st with
        remainingCapacity := st.remainingCapacity.put res backupCapacity
        steps := if prevLocation ≠ res then st.steps.dropLast else st.steps })

/-- A turn of the outer loop of `Dfs`: a machine is taken from where it is. -/
def tryVm (dfs : VMStat → DfsState → DfsState) (x : VMStat × DfsState)
    (vmPair : Int × BitVec 64) : VMStat × DfsState :=
  let (vmStat, st) := x
  let (vm, vmRemoteMem) := vmPair
  if st.assigned.getD vm false then x
  else
    let originalRes := vmStat.currentVmLocation.getD vm 0
    let released := if originalRes ≠ -1 then
        st.remainingCapacity.put originalRes.toNat
          (st.remainingCapacity.getD originalRes.toNat 0 + vmRemoteMem)
      else st.remainingCapacity
    let st := { st with assigned := st.assigned.put vm true, remainingCapacity := released }
    let (vmStat, st) := released.keys.foldl (tryNuma dfs vm vmRemoteMem) (vmStat, st)
    ({ vmStat with
        currentVmLocation :=
          if originalRes ≠ -1 then vmStat.currentVmLocation.put vm originalRes
          else vmStat.currentVmLocation },
      { st with
        remainingCapacity :=
          if originalRes ≠ -1 then
            st.remainingCapacity.put originalRes.toNat
              (st.remainingCapacity.getD originalRes.toNat 0 - vmRemoteMem)
          else st.remainingCapacity
        assigned := st.assigned.put vm false })

/-- `Dfs`. It places one machine for each level. -/
def dfs (bestRestMem : BitVec 64) : Nat → VMStat → DfsState → DfsState
  | fuel, vmStat, st =>
    if areAllVmsAssigned vmStat.vmDemand st.assigned then updateBestSituation vmStat st
    else if checkIsSkip bestRestMem vmStat st then st
    else
      match fuel with
      | 0 => st
      | fuel + 1 => (vmStat.vmDemand.foldl (tryVm (dfs bestRestMem fuel)) (vmStat, st)).2

def INT_MAX : BitVec 64 := 2 ^ 31 - 1

/-- The arguments of `Allocate`: every machine has a quota and is on one of the numas or nowhere. -/
structure Input where
  resourceCapacity : OrderedMap Nat (BitVec 64)
  vmDemand : OrderedMap Int (BitVec 64)
  currentVmLocation : OrderedMap Int Int
  vmQuota : OrderedMap Int (BitVec 64)
  located : ∀ vm ∈ vmDemand.keys, vm ∈ currentVmLocation.keys ∧
    (currentVmLocation.getD vm 0 = -1 ∨
      0 ≤ currentVmLocation.getD vm 0 ∧
        (currentVmLocation.getD vm 0).toNat ∈ resourceCapacity.keys)
  quotas : ∀ vm ∈ vmDemand.keys, vm ∈ vmQuota.keys

/-- The demands as they are sorted. Those that are equal come in any order. -/
def Input.Sorted (input : Input) (vec : List (Int × BitVec 64)) : Prop :=
  vec.Perm input.vmDemand.toList ∧ vec.Pairwise fun a b => a.2 ≥ b.2

/-- The state in which the search begins. -/
def Input.start (input : Input) : DfsState where
  remainingCapacity := input.resourceCapacity
  assigned := input.vmDemand.mapValues fun _ => false
  steps := []
  best := { minRemainingSum := INT_MAX }

def Input.vmStat (input : Input) (vec : List (Int × BitVec 64)) : VMStat :=
  ⟨vec, input.currentVmLocation, input.vmQuota⟩

def allocate (input : Input) (vec : List (Int × BitVec 64)) : List MigrationStep :=
  let bestRestMem := calBestRemainValue input.resourceCapacity (input.vmStat vec)
    input.start.assigned
  (dfs bestRestMem vec.length (input.vmStat vec) input.start).best.bestMigrationSteps

end OverCommit

end UbsEngine
