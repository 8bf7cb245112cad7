import UbsEngine.FaultNode.Evacuate
import UbsEngine.Library.Gather

/-!
# How much of each virtual machine is sent to the remote numas

Memory has been borrowed for a node, and its virtual machines are to use it. For each machine there
is a quota, by a ratio of what it uses, and the strategy says how much of it is sent to which remote
numa. Machines that have no more quota are left out, and those that may send most come first.

With several numas for a machine, what is free of the remote numas is collected anew, and the
machines that have remote memory already come before the others; each takes from the numas with the
most free memory until its quota is used up. What is returned is what each machine is to have on each
numa afterwards, so what it has there already is added. Otherwise a machine that has remote memory
only gets more on its own numa, and if something is left then, the others take from the one numa with
the most of it.

The quota itself is computed with floating point numbers and is a parameter here. Sizes are in KB,
and sums are taken modulo `2 ^ 64` where the source adds.
-/

namespace UbsEngine

namespace OverCommit

open Fault (BySize)

open FaultNode (Pid RemoteNUMA VMResult BorrowRecord allocateEach)

/-! ### Data -/

structure MetaNumaInfo where
  numaId : Nat
  numaUsedMem : Nat
  isLocalNuma : Bool
  deriving DecidableEq

structure RmrsPidInfo where
  pid : Pid
  totalLocalUsedMem : Nat := 0
  totalRemoteUsedMem : Nat := 0
  remoteNumaId : Nat := 0
  metaNumaInfos : List MetaNumaInfo := []
  deriving DecidableEq

structure VMInfo extends RmrsPidInfo where
  ratio : Nat
  deriving DecidableEq

structure VMPresetParam where
  pid : Pid
  ratio : Nat

structure MemBorrowInfo where
  presentNumaId : Nat
  borrowSize : Nat
  deriving DecidableEq

structure MemMigrateResult where
  pid : Pid
  remoteNumaId : Nat
  size : Nat
  maxRatio : Nat
  deriving DecidableEq

structure NumaPageData where
  hugePageFree : Nat

structure NumaMetaData where
  numaId : Int
  isLocal : Bool
  memFree : Nat
  /-- By the size of the pages. -/
  numaPageInfo : Map Nat NumaPageData

inductive MpSceneType where
  | CONTAINER_SCENE
  | VIRTUAL_SCENE
  deriving DecidableEq

structure MpConfiguration where
  mpSceneType : MpSceneType
  multiNumaScene : Bool

def MpConfiguration.multi (conf : MpConfiguration) : Bool :=
  conf.mpSceneType = .VIRTUAL_SCENE && conf.multiNumaScene

/-- The orders that nobody chooses: of hash maps, and of what is equal in size. -/
structure Orders where
  vmInfos : Map.Iteration Pid VMInfo := default
  numaIdVmPids : Map.Iteration Nat (List Pid) := default
  borrowSizes : Map.Iteration Nat Nat := default
  pid2Results : Map.Iteration Pid (List VMResult) := default
  remoteNuma2Size : Map.Iteration Nat Nat := default
  vms : BySize (fun vm : Pid × Nat => vm.2) := default
  remoteNUMAs : BySize RemoteNUMA.borrowSize := default

instance : Inhabited Orders := ⟨{}⟩

/-- A conversion to 16 bits. -/
def toUInt16 (n : Int) : Nat := (n % 2 ^ 16).toNat

/-! ### What is known of the machines -/

def initializeVMInformation (vmParams : List VMPresetParam) : Map Pid VMInfo :=
  vmParams.foldl (fun m param => m.insert param.pid { pid := param.pid, ratio := param.ratio }) ∅

def B2KB : Nat := 2 ^ 10

def VMInfo.update (vm : VMInfo) (n : RmrsPidInfo) : VMInfo :=
  { vm with
    totalLocalUsedMem := n.totalLocalUsedMem / B2KB
    totalRemoteUsedMem := n.totalRemoteUsedMem / B2KB
    remoteNumaId := n.remoteNumaId
    metaNumaInfos := n.metaNumaInfos.map fun numa =>
      { numa with numaUsedMem := numa.numaUsedMem / B2KB } }

/-- `UpdatePidNumaInfos`, with the answer to the query. -/
def updatePidNumaInfos (pidInfos : Option (List RmrsPidInfo)) (vmInfos : Map Pid VMInfo) :
    Option (Map Pid VMInfo) :=
  match pidInfos with
  | none | some [] => none
  | some pidInfos => some (pidInfos.foldl (fun m n => m.modify n.pid fun vm => vm.update n) vmInfos)

/-- What is asked about the processes on remote numas. -/
structure NumaIdVmPids where
  /-- What the first query has put into the map, also if it has failed. -/
  timeout : Map Nat (List Pid)
  /-- What the second query adds to the map. -/
  borrowed : Option (List (Nat × List Pid))

/-- `UpdateRemoteNumaId`. Machines on numas of which a return has timed out are left out. -/
def updateRemoteNumaId (o : Orders) (numaIdVmPids : NumaIdVmPids) (vmInfos : Map Pid VMInfo) :
    Option (Map Pid VMInfo) :=
  let vmInfos := (o.numaIdVmPids.run numaIdVmPids.timeout).foldl
    (fun m e => e.2.foldl (fun m vmPid => m.erase vmPid) m) vmInfos
  match numaIdVmPids.borrowed with
  | none => none
  | some pids =>
    let numaIdVmPidsMap := pids.foldl (fun m e => m.insert e.1 e.2) numaIdVmPids.timeout
    some ((o.numaIdVmPids.run numaIdVmPidsMap).foldl (fun m e =>
      e.2.foldl (fun m vmPid => m.modify vmPid fun vm => { vm with remoteNumaId := e.1 }) m) vmInfos)

/-! ### What there is to take from -/

/-- `GenNumaCurBorrowSizes`: what the borrowings with some names come to on each remote numa. -/
def genNumaCurBorrowSizes (o : Orders) (borrowRecords : List BorrowRecord)
    (borrowIds : List String) : List MemBorrowInfo :=
  (o.borrowSizes.run (Gather.gather (fun r : BorrowRecord => toUInt16 r.borrowRemoteNuma) 0
    (fun size r => (size + r.size) % 2 ^ 64)
    (borrowRecords.filter fun r => r.name ∈ borrowIds))).map fun e => ⟨e.1, e.2⟩

/-- `GetRemoteNumasBorrowInfo`, with the answer to the query. Free pages of 2 MB are free memory. -/
def getRemoteNumasBorrowInfo (numaInfos : Option (List NumaMetaData)) : Option (List RemoteNUMA) :=
  match numaInfos with
  | none | some [] => none
  | some numaInfos => some ((numaInfos.filter fun numa => !numa.isLocal).map fun numa =>
      ⟨toUInt16 numa.numaId,
        match numa.numaPageInfo.lookup 2048 with
        | some page => (numa.memFree + page.hugePageFree * 2048) % 2 ^ 64
        | none => numa.memFree⟩)

def finishBorrowedMemAllocation (remoteNUMAs : List RemoteNUMA) : Bool :=
  remoteNUMAs.all fun numa => ¬0 < numa.borrowSize

/-! ### One machine -/

/-- `vmInfos.at(pid)` -/
def ratioOf (vmInfos : Map Pid VMInfo) (pid : Pid) : Nat :=
  ((vmInfos.lookup pid).map (·.ratio)).getD 0

/-- The largest first, until the quota is used up. -/
def allocateMemoryToRemoteVm (o : Orders) (vmInfos : Map Pid VMInfo)
    (remoteNUMAs : List RemoteNUMA) (vm : Pid × Nat) : List RemoteNUMA × List VMResult :=
  let r := allocateEach vm.1 (ratioOf vmInfos vm.1) (o.remoteNUMAs.run remoteNUMAs) vm.2
  (r.1, r.2.2)

/-- The loop of `AllocateMemoryToRemoteUsedVm`. The quota is not lowered, so an entry that has
enough is followed by the next one of the same numa. -/
def allocateUsed (vm : Pid × Nat) (remoteNumaId maxRatio : Nat) :
    List RemoteNUMA → List RemoteNUMA × List VMResult
  | [] => ([], [])
  | numa :: numas =>
    if numa.remoteNumaId = remoteNumaId then
      if vm.2 ≤ numa.borrowSize then
        let rest := allocateUsed vm remoteNumaId maxRatio numas
        ({ numa with borrowSize := numa.borrowSize - vm.2 } :: rest.1,
          ⟨vm.1, numa.remoteNumaId, vm.2, maxRatio⟩ :: rest.2)
      else if 0 < numa.borrowSize then
        ({ numa with borrowSize := 0 } :: numas,
          [⟨vm.1, numa.remoteNumaId, numa.borrowSize, maxRatio⟩])
      else (numa :: numas, [])
    else
      let rest := allocateUsed vm remoteNumaId maxRatio numas
      (numa :: rest.1, rest.2)

def allocateMemoryToRemoteUsedVm (vmInfos : Map Pid VMInfo) (remoteNUMAs : List RemoteNUMA)
    (vm : Pid × Nat) : List RemoteNUMA × List VMResult :=
  allocateUsed vm (((vmInfos.lookup vm.1).map (·.remoteNumaId)).getD 0) (ratioOf vmInfos vm.1)
    remoteNUMAs

/-- **All from the largest.** -/
def allocateMemoryToRemoteNoUsedVm (o : Orders) (vmInfos : Map Pid VMInfo)
    (remoteNUMAs : List RemoteNUMA) (vm : Pid × Nat) : List RemoteNUMA × List VMResult :=
  match o.remoteNUMAs.run remoteNUMAs with
  | [] => ([], [])
  | numa :: numas =>
    if vm.2 ≤ numa.borrowSize then
      ({ numa with borrowSize := numa.borrowSize - vm.2 } :: numas,
        [⟨vm.1, numa.remoteNumaId, vm.2, ratioOf vmInfos vm.1⟩])
    else if 0 < numa.borrowSize then
      ({ numa with borrowSize := 0 } :: numas,
        [⟨vm.1, numa.remoteNumaId, numa.borrowSize, ratioOf vmInfos vm.1⟩])
    else (numa :: numas, [])

/-- A loop over machines: what is left of the remote numas, and the results so far. -/
def eachVm (allocate : List RemoteNUMA → Pid × Nat → List RemoteNUMA × List VMResult)
    (vms : List (Pid × Nat)) (st : List RemoteNUMA × List VMResult) :
    List RemoteNUMA × List VMResult :=
  vms.foldl (fun st vm =>
    let r := allocate st.1 vm
    (r.1, st.2 ++ r.2)) st

/-! ### Several numas for a machine -/

section Strategy

variable (o : Orders) (calculateRemainingQuota : VMInfo → Nat)

/-- The machines and their quotas, in the order in which they choose. Those without a quota do not
take part. -/
def remainingQuotas (vmInfos : Map Pid VMInfo) : List (Pid × Nat) :=
  o.vms.run ((o.vmInfos.run vmInfos).map fun e => (e.1, calculateRemainingQuota e.2))

def vmsAllocation (vmInfos : Map Pid VMInfo) (st : List RemoteNUMA × List VMResult) :
    List RemoteNUMA × List VMResult :=
  eachVm (allocateMemoryToRemoteVm o vmInfos)
    ((remainingQuotas o calculateRemainingQuota vmInfos).filter fun vm => vm.2 ≠ 0) st

/-- `totalUsedMem` -/
def VMInfo.totalUsedMem (vm : VMInfo) : Nat := (vm.totalLocalUsedMem + vm.totalRemoteUsedMem) % 2 ^ 64

/-- The result for a machine on a numa, and the share of its memory that this is. -/
def VMInfo.result (vm : VMInfo) (remoteNumaId size : Nat) : VMResult :=
  ⟨vm.pid, remoteNumaId, size, size * 100 % 2 ^ 64 / vm.totalUsedMem % 2 ^ 16⟩

def fillVmResults (vmInfo : VMInfo) (vmResults : List VMResult) : List VMResult :=
  if vmInfo.totalUsedMem = 0 then []
  else
    let remoteNuma2Size := Gather.gather (fun r : VMResult => r.remoteNumaId) 0
      (fun size r => (size + r.size) % 2 ^ 64) vmResults
    ((o.remoteNuma2Size.run remoteNuma2Size).filter fun e => e.2 ≠ 0).map fun e =>
      vmInfo.result e.1 e.2

/-- What a machine has on remote numas already. -/
def VMInfo.history (pid : Pid) (vmInfo : VMInfo) : List VMResult :=
  (vmInfo.metaNumaInfos.filter fun numa => !numa.isLocalNuma).map fun numa =>
    ⟨pid, numa.numaId, numa.numaUsedMem, 0⟩

def resetVmResult (vmInfos : Map Pid VMInfo) (vmResults : List VMResult) : List VMResult :=
  let pid2Results := Gather.gather (fun r : VMResult => r.pid) [] (fun results r => results ++ [r])
    ((o.vmInfos.run vmInfos).flatMap (fun e => e.2.history e.1) ++ vmResults)
  (o.pid2Results.run pid2Results).flatMap fun e =>
    (vmInfos.lookup e.1).elim [] fun vmInfo => fillVmResults o vmInfo e.2

def vmInfosMigrated (vmInfos : Map Pid VMInfo) : Map Pid VMInfo :=
  vmInfos.filter fun _ vm => vm.totalRemoteUsedMem ≠ 0

def vmInfosNotMigrated (vmInfos : Map Pid VMInfo) : Map Pid VMInfo :=
  vmInfos.filter fun _ vm => vm.totalRemoteUsedMem = 0

/-- What is taken of the remote numas, in both phases. -/
def multiNumaAllocated (vmInfos : Map Pid VMInfo) (remoteNUMAs : List RemoteNUMA) :
    List RemoteNUMA × List VMResult :=
  vmsAllocation o calculateRemainingQuota (vmInfosNotMigrated vmInfos)
    (vmsAllocation o calculateRemainingQuota (vmInfosMigrated vmInfos) (remoteNUMAs, []))

/-- What is left of the remote numas, and the results. -/
def multiNumaVmAllocation (vmInfos : Map Pid VMInfo) (numaInfos : Option (List NumaMetaData)) :
    Option (List RemoteNUMA × List VMResult) :=
  (getRemoteNumasBorrowInfo numaInfos).map fun remoteNUMAs =>
    let allocated := multiNumaAllocated o calculateRemainingQuota vmInfos remoteNUMAs
    (allocated.1, resetVmResult o vmInfos allocated.2)

/-! ### One numa for a machine -/

/-- Machines whose own numa is among the remote numas, once for each entry of it. -/
def filterBorrowedVms (vmInfosBorrowed : Map Pid VMInfo) (remoteNUMAs : List RemoteNUMA) :
    List (Pid × Nat) :=
  (o.vmInfos.run vmInfosBorrowed).flatMap fun e =>
    (remoteNUMAs.filter fun numa => e.2.remoteNumaId = numa.remoteNumaId).map fun _ =>
      (e.1, calculateRemainingQuota e.2)

def filterUnborrowedVms (vmInfos : Map Pid VMInfo) : List (Pid × Nat) :=
  ((o.vmInfos.run vmInfos).filter fun e =>
    e.2.totalRemoteUsedMem = 0 && e.2.remoteNumaId = 0).map fun e =>
      (e.1, calculateRemainingQuota e.2)

/-- What is taken by the machines that have remote memory already. -/
def borrowedAllocated (vmInfos : Map Pid VMInfo) (remoteNUMAs : List RemoteNUMA) :
    List RemoteNUMA × List VMResult :=
  eachVm (allocateMemoryToRemoteUsedVm vmInfos)
    ((o.vms.run (filterBorrowedVms o calculateRemainingQuota (vmInfosMigrated vmInfos)
      remoteNUMAs)).filter fun vm => vm.2 ≠ 0) (remoteNUMAs, [])

def singleNumaVmAllocation (vmInfos : Map Pid VMInfo) (remoteNUMAs : List RemoteNUMA) :
    List RemoteNUMA × List VMResult :=
  let st := borrowedAllocated o calculateRemainingQuota vmInfos remoteNUMAs
  if finishBorrowedMemAllocation st.1 then st
  else
    -- also a machine without a quota takes a turn here
    eachVm (allocateMemoryToRemoteNoUsedVm o vmInfos)
      (o.vms.run (filterUnborrowedVms o calculateRemainingQuota vmInfos)) st

/-! ### The decision -/

def fillMemMigrateResult (vmResults : List VMResult) : List MemMigrateResult :=
  vmResults.map fun re => ⟨re.pid, re.remoteNumaId, re.size, re.maxRatio⟩

structure Request where
  vmParams : List VMPresetParam
  memBorrowInfo : List MemBorrowInfo
  borrowRecord : List BorrowRecord

/-- The answers to what is asked meanwhile. `none` is a failure. -/
structure Replies where
  pidInfos : Option (List RmrsPidInfo)
  numaIdVmPids : NumaIdVmPids
  numaInfos : Option (List NumaMetaData)

/-- What is known of the machines when the strategy begins. -/
def collectedVmInfos (vmParams : List VMPresetParam) (replies : Replies) :
    Option (Map Pid VMInfo) :=
  (updatePidNumaInfos replies.pidInfos (initializeVMInformation vmParams)).bind
    (updateRemoteNumaId o replies.numaIdVmPids)

def remoteNUMAsOf (memBorrowInfo : List MemBorrowInfo) : List RemoteNUMA :=
  memBorrowInfo.map fun n => ⟨n.presentNumaId, n.borrowSize⟩

/-- `Execute`. `none` is a failure, which leaves nothing of the remote numas. -/
def execute (conf : MpConfiguration) (vmInfos : Map Pid VMInfo)
    (numaInfos : Option (List NumaMetaData)) (remoteNUMAs : List RemoteNUMA) :
    Option (List RemoteNUMA × List VMResult) :=
  if conf.multi then multiNumaVmAllocation o calculateRemainingQuota vmInfos numaInfos
  else some (singleNumaVmAllocation o calculateRemainingQuota vmInfos remoteNUMAs)

def isOnlyRemoteNumaId (borrowRecord : List BorrowRecord) : Bool :=
  borrowRecord.all fun r => some r.borrowRemoteNuma = borrowRecord.head?.map (·.borrowRemoteNuma)

/-- **`ProcessMemMigrateRemoteId`**. `none` is any failure. -/
def processMemMigrateRemoteId (conf : MpConfiguration) (request : Request) (replies : Replies) :
    Option (List MemMigrateResult) :=
  (collectedVmInfos o request.vmParams replies).bind fun vmInfos =>
    let outcome := execute o calculateRemainingQuota conf vmInfos replies.numaInfos
      (remoteNUMAsOf request.memBorrowInfo)
    if request.borrowRecord = [] then none
    else
      let borrowSum := ((outcome.elim [] (·.1)).map (·.borrowSize)).sum % 2 ^ 64
      -- without this result the machines are placed anew
      if !conf.multi && (borrowSum ≠ 0 && !isOnlyRemoteNumaId request.borrowRecord) then some []
      else outcome.map fun st => fillMemMigrateResult st.2

end Strategy

end OverCommit

end UbsEngine
