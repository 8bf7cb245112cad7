import UbsEngine.Fault.Plan
import UbsEngine.Library.Grouping

/-!
# Where the machines of a faulty remote NUMA node are sent

The memory that was borrowed from a node that fails is borrowed again elsewhere, a borrowing for a
borrowing, and the virtual machines are sent to the new NUMA nodes. What is sent where is decided
for each local NUMA node by itself, and on it for one machine after the other: a machine takes the
largest of the new borrowings first, until its quota is used up.

The sizes of the new borrowings are copied for every machine, so what one machine takes is not
missing when the next one chooses. The results stay within what was borrowed exactly when the
machines do not get in each other's way (`UbsEngine.FaultNode.within_iff`): a machine fills the
largest borrowings up to its quota, and these fills must fit in side by side.
-/

namespace UbsEngine

namespace FaultNode

open Fault (BySize)

/-! ### Data -/

/-- A process id. -/
abbrev Pid := Int

structure MetaNumaInfo where
  numaId : Nat
  isLocalNuma : Bool
  deriving DecidableEq

/-- A virtual machine. -/
structure VMInfo where
  metaNumaInfos : List MetaNumaInfo
  totalLocalUsedMem : Nat := 0
  totalRemoteUsedMem : Nat := 0
  ratio : Nat := 0
  deriving DecidableEq

/-- An entry of the ledger of borrowings. -/
structure BorrowRecord where
  name : String
  size : Nat
  borrowNode : String := ""
  borrowLocalNuma : Int
  borrowRemoteNuma : Int
  deriving DecidableEq

/-- A new borrowing, with the one that it replaces. -/
structure RemoteNumaFault where
  localNumaId : Nat
  remoteNumaId : Nat
  borrowSize : Nat
  borrowRecord : BorrowRecord
  deriving DecidableEq

structure RemoteNUMA where
  remoteNumaId : Nat
  borrowSize : Nat
  deriving DecidableEq

/-- So much of a process is to be sent to a NUMA node. -/
structure VMResult where
  pid : Pid
  remoteNumaId : Nat
  size : Nat
  maxRatio : Nat
  deriving DecidableEq

/-- The orders that nobody chooses: of a hash map, and of what is equal in size. -/
structure Orders where
  vmInfos : Map.Iteration Pid VMInfo := default
  vms : BySize (fun vm : Pid × Nat => vm.2) := default
  remoteNUMAs : BySize RemoteNUMA.borrowSize := default

instance : Inhabited Orders := ⟨{}⟩

/-! ### One machine -/

/-- The loop over the sorted NUMA nodes: what is left of them, what is left of the quota, and the
results. -/
def allocateEach (pid : Pid) (maxRatio : Nat) :
    List RemoteNUMA → Nat → List RemoteNUMA × Nat × List VMResult
  | [], quota => ([], quota, [])
  | numa :: numas, quota =>
    if quota ≤ numa.borrowSize then
      -- the quota itself is not lowered here, the machine is done
      ({ numa with borrowSize := numa.borrowSize - quota } :: numas, quota,
        [⟨pid, numa.remoteNumaId, quota, maxRatio⟩])
    else if 0 < numa.borrowSize then
      let rest := allocateEach pid maxRatio numas (quota - numa.borrowSize)
      ({ numa with borrowSize := 0 } :: rest.1, rest.2.1,
        ⟨pid, numa.remoteNumaId, numa.borrowSize, maxRatio⟩ :: rest.2.2)
    else
      let rest := allocateEach pid maxRatio numas quota
      (numa :: rest.1, rest.2)

/-- **A machine takes the largest first.** -/
def allocateMemoryToRemoteVm (o : Orders) (vmInfos : Map Pid VMInfo) (remoteNUMAs : List RemoteNUMA)
    (vm : Pid × Nat) : List RemoteNUMA × Nat × List VMResult :=
  allocateEach vm.1 (((vmInfos.lookup vm.1).map (·.ratio)).getD 0) (o.remoteNUMAs.run remoteNUMAs)
    vm.2

/-! ### One local NUMA node, and all of them -/

section Strategy

variable (o : Orders) (calculateRemainingQuotaOnFaultNuma : Pid → Nat)

/-- The new borrowings as they are offered to a machine. -/
def remoteNUMAsForVmStrategy (remoteNumas : List RemoteNumaFault) : List RemoteNUMA :=
  remoteNumas.map fun remoteNuma => ⟨remoteNuma.remoteNumaId, remoteNuma.borrowSize⟩

/-- The results for the machines that are left. What is left of the new borrowings is not handed on
from one to the next. -/
def resultsOfVms (vmInfos : Map Pid VMInfo) (remoteNumas : List RemoteNumaFault)
    (vms : List (Pid × Nat)) : List VMResult :=
  vms.flatMap fun vm =>
    if vm.2 = 0 then []
    else (allocateMemoryToRemoteVm o vmInfos (remoteNUMAsForVmStrategy remoteNumas) vm).2.2

/-- The machines with their quotas, in the order in which they choose. -/
def pid2RemainingQuota (vmInfos : Map Pid VMInfo) : List (Pid × Nat) :=
  o.vms.run ((o.vmInfos.run vmInfos).map fun e => (e.1, calculateRemainingQuotaOnFaultNuma e.1))

def evaculateVmsStrategy (vmInfos : Map Pid VMInfo) (remoteNumas : List RemoteNumaFault) :
    Option (List VMResult) :=
  let vmResults := resultsOfVms o vmInfos remoteNumas
    (pid2RemainingQuota o calculateRemainingQuotaOnFaultNuma vmInfos)
  if vmResults = [] then none else some vmResults

/-- The machine has memory on a local NUMA node. -/
def VMInfo.onLocalNuma (vmInfo : VMInfo) (localNumaId : Int) : Bool :=
  vmInfo.metaNumaInfos.any fun numaInfo =>
    numaInfo.isLocalNuma && (numaInfo.numaId : Int) = localNumaId

def vmInfosOfLocalNuma (vmInfos : Map Pid VMInfo) (localNumaId : Int) : Map Pid VMInfo :=
  vmInfos.filter fun _ vmInfo => vmInfo.onLocalNuma localNumaId

def remoteNumasOnLocal (remoteNumas : List RemoteNumaFault) (localNumaId : Int) :
    List RemoteNumaFault :=
  remoteNumas.filter fun remoteNuma => (remoteNuma.localNumaId : Int) = localNumaId

def evaculateVmsStrategyByLocalNuma (vmInfos : Map Pid VMInfo) (remoteNumas : List RemoteNumaFault)
    (localNumaId : Int) : Option (List VMResult) :=
  evaculateVmsStrategy o calculateRemainingQuotaOnFaultNuma (vmInfosOfLocalNuma vmInfos localNumaId)
    (remoteNumasOnLocal remoteNumas localNumaId)

/-- **The results for all local NUMA nodes.** One of them without a result fails them all. -/
def vmResultsOfLocalNumas (vmInfos : Map Pid VMInfo) (remoteNumas : List RemoteNumaFault) :
    List Int → Option (List VMResult)
  | [] => some []
  | localNumaId :: localNumaIds =>
    match evaculateVmsStrategyByLocalNuma o calculateRemainingQuotaOnFaultNuma vmInfos remoteNumas
      localNumaId with
    | none => none
    | some vmResults =>
      (vmResultsOfLocalNumas vmInfos remoteNumas localNumaIds).map (vmResults ++ ·)

end Strategy

/-! ### What is sent and what is there -/

/-- What is sent to a NUMA node. -/
def sentTo (vmResults : List VMResult) (remoteNumaId : Nat) : Nat :=
  Grouping.summed (vmResults.map fun result => (result.remoteNumaId, result.size)) remoteNumaId

/-- What is sent of a machine. -/
def sentOf (vmResults : List VMResult) (pid : Pid) : Nat :=
  Grouping.summed (vmResults.map fun result => (result.pid, result.size)) pid

/-- What is newly borrowed on a NUMA node. -/
def borrowedOn (remoteNumas : List RemoteNumaFault) (remoteNumaId : Nat) : Nat :=
  Grouping.summed (remoteNumas.map fun numa => (numa.remoteNumaId, numa.borrowSize)) remoteNumaId

/-- What is newly borrowed for a local NUMA node. -/
def borrowedFor (remoteNumas : List RemoteNumaFault) (localNumaId : Int) : Nat :=
  ((remoteNumasOnLocal remoteNumas localNumaId).map (·.borrowSize)).sum

/-- **The evacuation stays within what was borrowed.** -/
structure Within (calculateRemainingQuotaOnFaultNuma : Pid → Nat)
    (remoteNumas : List RemoteNumaFault) (vmResults : List VMResult) : Prop where
  numa : ∀ remoteNumaId, sentTo vmResults remoteNumaId ≤ borrowedOn remoteNumas remoteNumaId
  vm : ∀ pid, sentOf vmResults pid ≤ calculateRemainingQuotaOnFaultNuma pid

/-- What comes before a borrowing in a list of them. -/
def sizeBefore (numas : List RemoteNUMA) (i : Nat) : Nat := ((numas.take i).map (·.borrowSize)).sum

/-- How much of a NUMA node one machine fills, if it has the borrowings to itself: each up to its
size, as far as the quota reaches over those before it. -/
def fill (numas : List RemoteNUMA) (quota remoteNumaId : Nat) : Nat :=
  Grouping.summed (numas.zipIdx.map fun e =>
    (e.1.remoteNumaId, min e.1.borrowSize (quota - sizeBefore numas e.2))) remoteNumaId

/-- What is borrowed for a local NUMA node, the largest first. -/
def sortedOnLocal (o : Orders) (remoteNumas : List RemoteNumaFault) (localNumaId : Int) :
    List RemoteNUMA :=
  o.remoteNUMAs.run (remoteNUMAsForVmStrategy (remoteNumasOnLocal remoteNumas localNumaId))

/-- **The machines do not get in each other's way**: on a new NUMA node, what the machines of all
local NUMA nodes fill of it fits in side by side, and a machine of several local NUMA nodes finds
no more than its quota on all of them. -/
structure SideBySide (o : Orders) (calculateRemainingQuotaOnFaultNuma : Pid → Nat)
    (vmInfos : Map Pid VMInfo) (remoteNumas : List RemoteNumaFault) (localNumaIds : List Int) :
    Prop where
  numa : ∀ remoteNumaId, (localNumaIds.map fun localNumaId =>
      ((vmInfosOfLocalNuma vmInfos localNumaId).keys.map fun pid =>
        fill (sortedOnLocal o remoteNumas localNumaId) (calculateRemainingQuotaOnFaultNuma pid)
          remoteNumaId).sum).sum ≤ borrowedOn remoteNumas remoteNumaId
  vm : ∀ pid, ((localNumaIds.filter fun localNumaId =>
      pid ∈ vmInfosOfLocalNuma vmInfos localNumaId).map fun localNumaId =>
        min (calculateRemainingQuotaOnFaultNuma pid) (borrowedFor remoteNumas localNumaId)).sum ≤
      calculateRemainingQuotaOnFaultNuma pid

/-! ### What one machine takes -/

theorem fill_cons (numa : RemoteNUMA) (numas : List RemoteNUMA) (quota k : Nat) :
    fill (numa :: numas) quota k =
      (if numa.remoteNumaId = k then min numa.borrowSize quota else 0) +
        fill numas (quota - numa.borrowSize) k := by
  rw [fill, List.zipIdx_cons, List.map_cons, Grouping.summed_cons, List.zipIdx_succ, List.map_map]
  refine congrArg (_ + Grouping.summed · k) (List.map_congr_left fun e _ => ?_)
  change (_, _) = (_, _)
  rw [sizeBefore, List.take_succ_cons, List.map_cons, List.sum_cons, Nat.sub_add_eq]
  rfl

theorem fill_zero (numas : List RemoteNUMA) (k : Nat) : fill numas 0 k = 0 := by
  refine Grouping.summed_eq_zero fun x hx _ => ?_
  obtain ⟨e, _, rfl⟩ := List.mem_map.1 hx
  change min _ (0 - _) = 0
  rw [Nat.zero_sub, Nat.min_zero]

theorem sentTo_append (l l' : List VMResult) (k : Nat) :
    sentTo (l ++ l') k = sentTo l k + sentTo l' k := by
  rw [sentTo, List.map_append, Grouping.summed_append]
  rfl

theorem sentOf_append (l l' : List VMResult) (pid : Pid) :
    sentOf (l ++ l') pid = sentOf l pid + sentOf l' pid := by
  rw [sentOf, List.map_append, Grouping.summed_append]
  rfl

/-- One machine fills the largest borrowings up to its quota. -/
theorem sentTo_allocateEach (pid : Pid) (maxRatio : Nat) (numas : List RemoteNUMA)
    (quota k : Nat) :
    sentTo (allocateEach pid maxRatio numas quota).2.2 k = fill numas quota k := by
  induction numas generalizing quota with
  | nil => rfl
  | cons numa numas ih =>
    rw [fill_cons, allocateEach]
    by_cases hfits : quota ≤ numa.borrowSize
    · rw [if_pos hfits, Nat.sub_eq_zero_of_le hfits, fill_zero, Nat.min_eq_right hfits]
      rfl
    · rw [if_neg hfits, Nat.min_eq_left (Nat.le_of_not_le hfits)]
      by_cases hpos : 0 < numa.borrowSize
      · rw [if_pos hpos, ← ih]
        exact Grouping.summed_cons _ _ _
      · rw [if_neg hpos, Nat.eq_zero_of_not_pos hpos, Nat.sub_zero, ite_self, Nat.zero_add]
        exact ih quota

/-- No more than its quota is sent of it, and no more than there is. -/
theorem sentOf_allocateEach (pid : Pid) (maxRatio : Nat) (numas : List RemoteNUMA)
    (quota : Nat) (p : Pid) :
    sentOf (allocateEach pid maxRatio numas quota).2.2 p =
      if pid = p then min quota (numas.map (·.borrowSize)).sum else 0 := by
  induction numas generalizing quota with
  | nil =>
    rw [List.map_nil, List.sum_nil, Nat.min_zero, ite_self]
    rfl
  | cons numa numas ih =>
    rw [allocateEach, List.map_cons, List.sum_cons]
    by_cases hfits : quota ≤ numa.borrowSize
    · rw [if_pos hfits, Nat.min_eq_left (hfits.trans (Nat.le_add_right _ _))]
      rfl
    · have hmin : min quota (numa.borrowSize + (numas.map (·.borrowSize)).sum) =
          numa.borrowSize + min (quota - numa.borrowSize) (numas.map (·.borrowSize)).sum := by
        omega
      rw [if_neg hfits, hmin]
      by_cases hpos : 0 < numa.borrowSize
      · rw [if_pos hpos]
        refine (Grouping.summed_cons _ _ _).trans ?_
        change (if pid = p then numa.borrowSize else 0) + sentOf _ p = _
        rw [ih, ← ite_add_zero]
      · rw [if_neg hpos, Nat.eq_zero_of_not_pos hpos, Nat.sub_zero, Nat.zero_add]
        exact ih quota

/-! ### What the machines of a local NUMA node take -/

section Strategy

variable {o : Orders} {calculateRemainingQuotaOnFaultNuma : Pid → Nat} {vmInfos : Map Pid VMInfo}
  {remoteNumas : List RemoteNumaFault}

theorem sentTo_resultsOfVms (vms : List (Pid × Nat)) (k : Nat) :
    sentTo (resultsOfVms o vmInfos remoteNumas vms) k =
      (vms.map fun vm =>
        fill (o.remoteNUMAs.run (remoteNUMAsForVmStrategy remoteNumas)) vm.2 k).sum := by
  induction vms with
  | nil => rfl
  | cons vm vms ih =>
    rw [resultsOfVms, List.flatMap_cons, sentTo_append, List.map_cons, List.sum_cons]
    refine congrArg₂ (· + ·) ?_ ih
    by_cases hzero : vm.2 = 0
    · rw [if_pos hzero, hzero, fill_zero]
      rfl
    · rw [if_neg hzero]
      exact sentTo_allocateEach _ _ _ _ k

theorem sentOf_resultsOfVms (vms : List (Pid × Nat)) (pid : Pid) :
    sentOf (resultsOfVms o vmInfos remoteNumas vms) pid =
      Grouping.summed (vms.map fun vm => (vm.1, min vm.2 (remoteNumas.map (·.borrowSize)).sum))
        pid := by
  have htotal : ((o.remoteNUMAs.run (remoteNUMAsForVmStrategy remoteNumas)).map
      (·.borrowSize)).sum = (remoteNumas.map (·.borrowSize)).sum := by
    rw [((o.remoteNUMAs.perm _).map _).sum_nat, remoteNUMAsForVmStrategy, List.map_map]
    rfl
  induction vms with
  | nil => rfl
  | cons vm vms ih =>
    rw [resultsOfVms, List.flatMap_cons, sentOf_append, List.map_cons, Grouping.summed_cons]
    refine congrArg₂ (· + ·) ?_ ih
    by_cases hzero : vm.2 = 0
    · rw [if_pos hzero, hzero, Nat.zero_min, ite_self]
      rfl
    · rw [if_neg hzero, ← htotal]
      exact sentOf_allocateEach _ _ _ _ pid

/-- Every machine chooses once. -/
theorem pid2RemainingQuota_perm :
    (pid2RemainingQuota o calculateRemainingQuotaOnFaultNuma vmInfos).Perm
      (vmInfos.keys.map fun pid => (pid, calculateRemainingQuotaOnFaultNuma pid)) := by
  have hrun := (o.vmInfos.perm vmInfos).map fun e => (e.1, calculateRemainingQuotaOnFaultNuma e.1)
  refine ((o.vms.perm _).trans hrun).trans (List.Perm.of_eq ?_)
  rw [List.map_map, AList.keys, List.keys, List.map_map]
  rfl

theorem eq_of_evaculateVmsStrategy {vmResults : List VMResult}
    (h : evaculateVmsStrategy o calculateRemainingQuotaOnFaultNuma vmInfos remoteNumas =
      some vmResults) :
    vmResults = resultsOfVms o vmInfos remoteNumas
      (pid2RemainingQuota o calculateRemainingQuotaOnFaultNuma vmInfos) := by
  rw [evaculateVmsStrategy] at h
  by_cases hnil : resultsOfVms o vmInfos remoteNumas
      (pid2RemainingQuota o calculateRemainingQuotaOnFaultNuma vmInfos) = []
  · rw [if_pos hnil] at h
    cases h
  · rw [if_neg hnil] at h
    exact (Option.some.inj h).symm

/-- What is sent to a NUMA node for the machines of one local NUMA node. -/
theorem sentTo_evaculateVmsStrategy {vmResults : List VMResult}
    (h : evaculateVmsStrategy o calculateRemainingQuotaOnFaultNuma vmInfos remoteNumas =
      some vmResults) (k : Nat) :
    sentTo vmResults k = (vmInfos.keys.map fun pid =>
      fill (o.remoteNUMAs.run (remoteNUMAsForVmStrategy remoteNumas))
        (calculateRemainingQuotaOnFaultNuma pid) k).sum := by
  rw [eq_of_evaculateVmsStrategy h, sentTo_resultsOfVms, (pid2RemainingQuota_perm.map _).sum_nat,
    List.map_map]
  rfl

/-- What is sent of a machine for one local NUMA node. -/
theorem sentOf_evaculateVmsStrategy {vmResults : List VMResult}
    (h : evaculateVmsStrategy o calculateRemainingQuotaOnFaultNuma vmInfos remoteNumas =
      some vmResults) (pid : Pid) :
    sentOf vmResults pid = if pid ∈ vmInfos then
      min (calculateRemainingQuotaOnFaultNuma pid) (remoteNumas.map (·.borrowSize)).sum else 0 := by
  rw [eq_of_evaculateVmsStrategy h, sentOf_resultsOfVms,
    Grouping.summed_perm (pid2RemainingQuota_perm.map _), List.map_map]
  refine (Grouping.summed_keyed vmInfos.keys_nodup (fun pid =>
    min (calculateRemainingQuotaOnFaultNuma pid) (remoteNumas.map (·.borrowSize)).sum) pid).trans ?_
  exact if_congr AList.mem_keys.symm rfl rfl

end Strategy

/-! ### What all machines take -/

section Main

variable {o : Orders} {calculateRemainingQuotaOnFaultNuma : Pid → Nat} {vmInfos : Map Pid VMInfo}
  {remoteNumas : List RemoteNumaFault}

theorem vmResultsOfLocalNumas_cons {localNumaId : Int} {localNumaIds : List Int}
    {vmResults : List VMResult}
    (h : vmResultsOfLocalNumas o calculateRemainingQuotaOnFaultNuma vmInfos remoteNumas
      (localNumaId :: localNumaIds) = some vmResults) :
    ∃ first rest, evaculateVmsStrategyByLocalNuma o calculateRemainingQuotaOnFaultNuma vmInfos
        remoteNumas localNumaId = some first ∧
      vmResultsOfLocalNumas o calculateRemainingQuotaOnFaultNuma vmInfos remoteNumas localNumaIds =
        some rest ∧ vmResults = first ++ rest := by
  rw [vmResultsOfLocalNumas] at h
  cases hfirst : evaculateVmsStrategyByLocalNuma o calculateRemainingQuotaOnFaultNuma vmInfos
      remoteNumas localNumaId with
  | none =>
    rw [hfirst] at h
    cases h
  | some first =>
    rw [hfirst] at h
    obtain ⟨rest, hrest, rfl⟩ := Option.map_eq_some_iff.1 h
    exact ⟨first, rest, rfl, hrest, rfl⟩

theorem sentTo_vmResultsOfLocalNumas (k : Nat) (localNumaIds : List Int) :
    ∀ vmResults, vmResultsOfLocalNumas o calculateRemainingQuotaOnFaultNuma vmInfos remoteNumas
        localNumaIds = some vmResults →
      sentTo vmResults k = (localNumaIds.map fun localNumaId =>
        ((vmInfosOfLocalNuma vmInfos localNumaId).keys.map fun pid =>
          fill (sortedOnLocal o remoteNumas localNumaId) (calculateRemainingQuotaOnFaultNuma pid)
            k).sum).sum := by
  induction localNumaIds with
  | nil =>
    intro vmResults h
    cases h
    rfl
  | cons localNumaId localNumaIds ih =>
    intro vmResults h
    obtain ⟨first, rest, hfirst, hrest, rfl⟩ := vmResultsOfLocalNumas_cons h
    rw [sentTo_append, List.map_cons, List.sum_cons, ih rest hrest,
      sentTo_evaculateVmsStrategy hfirst k]
    rfl

theorem sentOf_vmResultsOfLocalNumas (pid : Pid) (localNumaIds : List Int) :
    ∀ vmResults, vmResultsOfLocalNumas o calculateRemainingQuotaOnFaultNuma vmInfos remoteNumas
        localNumaIds = some vmResults →
      sentOf vmResults pid =
        ((localNumaIds.filter fun localNumaId =>
          pid ∈ vmInfosOfLocalNuma vmInfos localNumaId).map fun localNumaId =>
            min (calculateRemainingQuotaOnFaultNuma pid)
              (borrowedFor remoteNumas localNumaId)).sum := by
  induction localNumaIds with
  | nil =>
    intro vmResults h
    cases h
    rfl
  | cons localNumaId localNumaIds ih =>
    intro vmResults h
    obtain ⟨first, rest, hfirst, hrest, rfl⟩ := vmResultsOfLocalNumas_cons h
    rw [sentOf_append, ih rest hrest, sentOf_evaculateVmsStrategy hfirst pid, List.filter_cons]
    by_cases hon : pid ∈ vmInfosOfLocalNuma vmInfos localNumaId
    · rw [if_pos hon, if_pos (decide_eq_true hon), List.map_cons, List.sum_cons]
      rfl
    · rw [if_neg hon, if_neg (by simpa using hon), Nat.zero_add]

/-- **The evacuation stays within what was borrowed exactly when the machines do not get in each
other's way.** -/
theorem within_iff {localNumaIds : List Int} {vmResults : List VMResult}
    (h : vmResultsOfLocalNumas o calculateRemainingQuotaOnFaultNuma vmInfos remoteNumas
      localNumaIds = some vmResults) :
    Within calculateRemainingQuotaOnFaultNuma remoteNumas vmResults ↔
      SideBySide o calculateRemainingQuotaOnFaultNuma vmInfos remoteNumas localNumaIds := by
  constructor
  · intro hwithin
    constructor
    · intro k
      rw [← sentTo_vmResultsOfLocalNumas k _ _ h]
      exact hwithin.numa k
    · intro pid
      rw [← sentOf_vmResultsOfLocalNumas pid _ _ h]
      exact hwithin.vm pid
  · intro hside
    constructor
    · intro k
      rw [sentTo_vmResultsOfLocalNumas k _ _ h]
      exact hside.numa k
    · intro pid
      rw [sentOf_vmResultsOfLocalNumas pid _ _ h]
      exact hside.vm pid

/-- Two machines on the local NUMA node 0. -/
def twoMachines : Map Pid VMInfo :=
  (AList.insert (2 : Pid) ⟨[⟨0, true⟩], 8, 0, 100⟩ ∅).insert 1 ⟨[⟨0, true⟩], 8, 0, 100⟩

/-- A borrowing for the local NUMA node 0, replaced by one on the NUMA node 4. -/
def newBorrowing (size : Nat) : RemoteNumaFault := ⟨0, 4, size, ⟨"", size, "", 0, 3⟩⟩

/-- There is room for both. -/
theorem within_iff_room :
    Within (fun _ => 8) [newBorrowing 16] [⟨1, 4, 8, 100⟩, ⟨2, 4, 8, 100⟩] ↔
      SideBySide default (fun _ => 8) twoMachines [newBorrowing 16] [0] :=
  within_iff rfl

/-- There is room for one of the two, and both are sent. -/
theorem not_within_twoMachines : ∃ vmResults,
    vmResultsOfLocalNumas default (fun _ => 8) twoMachines [newBorrowing 10] [0] = some vmResults ∧
      ¬ Within (fun _ => 8) [newBorrowing 10] vmResults := by
  refine ⟨[⟨1, 4, 8, 100⟩, ⟨2, 4, 8, 100⟩], rfl, ?_⟩
  intro hwithin
  exact absurd (hwithin.numa 4) (by decide)

end Main

end FaultNode

end UbsEngine
