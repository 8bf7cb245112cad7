import UbsEngine.Library.Grouping
import Mathlib.Data.List.Sort

/-!
# Borrowing for several NUMA nodes at once

A node that wants to borrow for several of its NUMA nodes divides the amount among them in whole
blocks. The NUMA nodes of the other nodes are candidates, kept by the plane of their socket and in
the order of their priority. Each NUMA node of the borrower takes from the candidates on its own
plane first and then from the others; what it takes is limited by the candidate's memory, and in
one call by 1 TiB of each node and 512 GiB of each socket.

Sizes are in KB. The numbers of sockets and NUMA nodes fit into 16 bits, where they are cut to as
many.
-/

namespace UbsEngine

namespace BatchBorrow

open Grouping

/-! ### The cluster -/

def MAX_BORROW_PER_NODE_KB : Nat := 1073741824

def MAX_BORROW_PER_SOCKET_KB : Nat := 536870912

def HUGEPAGE_1G_KB : Nat := 1048576

def HUGEPAGE_512M_KB : Nat := 524288

def MB_TO_KBYTES : Nat := 1024

def NUM_TO_RATIO : Nat := 100

def PAGE_64K_BYTES : Nat := 64 * 1024

structure UbseNumaInfo where
  socketId : Nat
  nr_hugepages_512M : Nat := 0
  free_hugepages_512M : Nat := 0
  nr_hugepages_1G : Nat := 0
  free_hugepages_1G : Nat := 0

structure UbseNodeInfo where
  /-- In MB. -/
  blockSize : Nat := 128
  numaInfos : Map Nat UbseNumaInfo

/-- What a NUMA node keeps for lending, in percent, and what it has lent and shared, in bytes. -/
structure UbseNodeNumaInfo where
  nodeId : String
  numaId : Nat
  mReservedMemRatio : Nat
  memLent : Nat
  memShared : Nat

/-- The same in KB. -/
structure ReservedInfo1G where
  reservedRatio : Nat
  memLent : Nat
  memShared : Nat

structure BorrowRecord where
  borrowNode : String
  lentNode : String

structure NumaInfo where
  numaId : Int
  socketId : Int

/-- What a call learns of the cluster. The planes of the sockets are made from the topology; a query
that fails gives nothing. -/
structure Cluster where
  basePageSize : Nat := 4096
  nodeToPlaneMap : Option (Map String Int)
  allNodeInfo : Map String UbseNodeInfo
  numaNodeInfoList : Option (List UbseNodeNumaInfo)
  localNumaInfos : Option (List NumaInfo)
  /-- None if they cannot be collected. -/
  borrowRecords : List BorrowRecord := []

/-! ### Shares -/

/-- The blocks are shared out evenly, and the first NUMA nodes get those that are left over. -/
def calculatePerNumaBorrowSize (srcNumaIds : List Int) (borrowSize blockSizeKB : Nat) : List Nat :=
  if blockSizeKB = 0 then srcNumaIds.map fun _ => 0
  else
    let borrowBlocks := borrowSize / blockSizeKB
    let baseBlocksPerNuma := borrowBlocks / srcNumaIds.length
    let remainderBlocks := borrowBlocks % srcNumaIds.length
    (List.range srcNumaIds.length).map fun i =>
      baseBlocksPerNuma * blockSizeKB + if i < remainderBlocks then blockSizeKB else 0

/-! ### Candidates -/

structure BorrowableHugepageInfo where
  nrHugepages : Nat
  freeHugepages : Nat
  hugePageKB : Nat

def getBorrowableHugepageInfo (basePageSize : Nat) (numaInfo : UbseNumaInfo) :
    BorrowableHugepageInfo :=
  if basePageSize = PAGE_64K_BYTES then
    ⟨numaInfo.nr_hugepages_512M, numaInfo.free_hugepages_512M, HUGEPAGE_512M_KB⟩
  else ⟨numaInfo.nr_hugepages_1G, numaInfo.free_hugepages_1G, HUGEPAGE_1G_KB⟩

/-- The product with the ratio is one of 64 bits. -/
def calculateBorrowableMem (basePageSize : Nat) (reservedInfo1GMap : Map String ReservedInfo1G)
    (numaInfo : UbseNumaInfo) (reservedKey : String) : Nat :=
  let hp := getBorrowableHugepageInfo basePageSize numaInfo
  match reservedInfo1GMap.lookup reservedKey with
  | some ri =>
    let reservedMem := hp.nrHugepages * hp.hugePageKB * ri.reservedRatio % 2 ^ 64 / NUM_TO_RATIO
    let theoreticalBorrowable :=
      if reservedMem < ri.memLent + ri.memShared then 0
      else reservedMem - ri.memLent - ri.memShared
    min theoreticalBorrowable (hp.freeHugepages * hp.hugePageKB)
  | none => hp.freeHugepages * hp.hugePageKB

structure RemoteNumaCandidate where
  nodeId : String
  socketId : Nat
  numaId : Nat
  availableMem : Nat
  borrowCount : Nat
  plane : Int
  deriving DecidableEq

/-- `CompareByPriority`. -/
def before (nodeTotalMemMap : Map String Nat) (a b : RemoteNumaCandidate) : Bool :=
  if a.borrowCount ≠ b.borrowCount then b.borrowCount < a.borrowCount
  else
    let totalA := (nodeTotalMemMap.lookup a.nodeId).getD 0
    let totalB := (nodeTotalMemMap.lookup b.nodeId).getD 0
    if totalA ≠ totalB then totalB < totalA
    else if a.nodeId ≠ b.nodeId then a.nodeId < b.nodeId
    else if a.availableMem ≠ b.availableMem then b.availableMem < a.availableMem
    else if a.socketId ≠ b.socketId then a.socketId < b.socketId
    else a.numaId < b.numaId

/-- `std::multiset::insert`: after those that are not behind the candidate. -/
def insertCandidate (nodeTotalMemMap : Map String Nat) (candidate : RemoteNumaCandidate) :
    List RemoteNumaCandidate → List RemoteNumaCandidate
  | [] => [candidate]
  | other :: others =>
    if before nodeTotalMemMap candidate other then candidate :: other :: others
    else other :: insertCandidate nodeTotalMemMap candidate others

/-! ### The state of a call -/

/-- The lists of NUMA nodes and sizes of the source have one element each. -/
structure DestMemoryBorrowParam where
  destNid : String
  destSocketId : Nat
  destNumaId : Nat
  memSize : Nat
  deriving DecidableEq

structure MemBorrowStrategyResult where
  srcNid : String
  srcNumaId : Int
  srcSocketId : Int
  borrowSize : Nat
  destParam : List DestMemoryBorrowParam
  deriving DecidableEq

structure BatchBorrowContext where
  srcNid : String
  blockSizeKB : Nat
  localNumaInfos : List NumaInfo
  nodeToPlaneMap : Map String Int
  nodeTotalMemMap : Map String Nat
  candidatesByPlane : Map Int (List RemoteNumaCandidate) := ∅
  planeIndex : Int := 0
  nodeBorrowedMap : Map String Nat := ∅
  socketBorrowedMap : Map (String × Nat) Nat := ∅
  destParams : List DestMemoryBorrowParam := []
  results : List MemBorrowStrategyResult := []

def reservedKey (nodeId : String) (numaId : Nat) : String := nodeId ++ "_" ++ toString numaId

def planeKey (nodeId : String) (socketId : Int) : String := nodeId ++ "-" ++ toString socketId

def reservedInfo1GMap (numaNodeInfoList : List UbseNodeNumaInfo) : Map String ReservedInfo1G :=
  numaNodeInfoList.foldl (fun m node => m.insert (reservedKey node.nodeId node.numaId)
    ⟨node.mReservedMemRatio, node.memLent / MB_TO_KBYTES, node.memShared / MB_TO_KBYTES⟩) ∅

/-- How often the node has borrowed from each other node. -/
def nodeBorrowCount (srcNid : String) (borrowRecords : List BorrowRecord) : Map String Nat :=
  borrowRecords.foldl (fun m record =>
    if record.borrowNode = srcNid then addTo m record.lentNode 1 else m) ∅

section Candidates

variable (srcNid : String) (cluster : Cluster) (reserved : Map String ReservedInfo1G)
  (nodeToPlaneMap : Map String Int)

/-- The memory that a NUMA node may lend, if it has huge pages and a free one. -/
def borrowableMem (nodeId : String) (numaId : Nat) (numaInfo : UbseNumaInfo) : Nat :=
  let hp := getBorrowableHugepageInfo cluster.basePageSize numaInfo
  if hp.nrHugepages = 0 then 0
  else if hp.freeHugepages = 0 then 0
  else calculateBorrowableMem cluster.basePageSize reserved numaInfo (reservedKey nodeId numaId)

def calculateNodeTotalMemMap : Map String Nat :=
  cluster.allNodeInfo.entries.foldl (fun m node =>
    if node.1 = srcNid then m
    else
      let totalBorrowable :=
        (node.2.numaInfos.entries.map fun numa => borrowableMem cluster reserved node.1 numa.1
          numa.2).sum
      if 0 < totalBorrowable then m.insert node.1 totalBorrowable else m) ∅

/-- The candidate that a NUMA node is, if it has memory to lend and its plane is known. -/
def candidateOf (nodeId : String) (numaId : Nat) (numaInfo : UbseNumaInfo) :
    Option RemoteNumaCandidate :=
  let mem := borrowableMem cluster reserved nodeId numaId numaInfo
  if mem = 0 then none
  else
    match nodeToPlaneMap.lookup (planeKey nodeId numaInfo.socketId) with
    | none => none
    | some planeIndex => some
      { nodeId := nodeId
        socketId := numaInfo.socketId
        numaId := numaId
        availableMem := mem
        borrowCount := ((nodeBorrowCount srcNid cluster.borrowRecords).lookup nodeId).getD 0
        plane := planeIndex }

/-- All candidates, in the order in which they are met. -/
def candidates : List RemoteNumaCandidate :=
  (cluster.allNodeInfo.entries.filter fun node => node.1 ≠ srcNid).flatMap fun node =>
    node.2.numaInfos.entries.filterMap fun numa =>
      candidateOf srcNid cluster reserved nodeToPlaneMap node.1 numa.1 numa.2

end Candidates

namespace BatchBorrowContext

variable (ctx : BatchBorrowContext)

def candidateSet (planeIndex : Int) : List RemoteNumaCandidate :=
  (ctx.candidatesByPlane.lookup planeIndex).getD []

def insert (planeIndex : Int) (candidate : RemoteNumaCandidate) : BatchBorrowContext :=
  { ctx with
    candidatesByPlane := ctx.candidatesByPlane.insert planeIndex
      (insertCandidate ctx.nodeTotalMemMap candidate (ctx.candidateSet planeIndex)) }

def constructCandidateNumas (candidates : List RemoteNumaCandidate) : BatchBorrowContext :=
  candidates.foldl (fun ctx candidate => ctx.insert candidate.plane candidate) ctx

/-! ### Taking from a candidate -/

/-- How much a candidate gives, in whole blocks. -/
def tryAllocateFromCandidate (candidate : RemoteNumaCandidate)
    (remaining blockSizeKB nodeBorrowed socketBorrowed : Nat) : Nat :=
  if MAX_BORROW_PER_NODE_KB ≤ nodeBorrowed then 0
  else if MAX_BORROW_PER_SOCKET_KB ≤ socketBorrowed then 0
  else
    let limitByQuota :=
      min (MAX_BORROW_PER_NODE_KB - nodeBorrowed) (MAX_BORROW_PER_SOCKET_KB - socketBorrowed)
    let rawAllocateSize := min (min remaining candidate.availableMem) limitByQuota
    if blockSizeKB = 0 then 0
    else
      let allocateSize := rawAllocateSize / blockSizeKB * blockSizeKB
      min (min allocateSize candidate.availableMem) limitByQuota

def applyAllocationResult (candidate : RemoteNumaCandidate) (allocateSize : Nat) :
    BatchBorrowContext :=
  { ctx with
    destParams := ctx.destParams ++
      [⟨candidate.nodeId, candidate.socketId, candidate.numaId, allocateSize⟩]
    nodeBorrowedMap := addTo ctx.nodeBorrowedMap candidate.nodeId allocateSize
    socketBorrowedMap :=
      addTo ctx.socketBorrowedMap (candidate.nodeId, candidate.socketId) allocateSize }

/-- The first candidate of a plane gives what it can, and goes back if it has something left. Both
passes do this. -/
def allocateFromHead (planeIndex : Int) (best : RemoteNumaCandidate)
    (rest : List RemoteNumaCandidate) (remaining : Nat) : Nat × BatchBorrowContext :=
  let ctx₁ := { ctx with candidatesByPlane := ctx.candidatesByPlane.insert planeIndex rest }
  let nodeBorrowed := (ctx.nodeBorrowedMap.lookup best.nodeId).getD 0
  let socketBorrowed := (ctx.socketBorrowedMap.lookup (best.nodeId, best.socketId)).getD 0
  let allocateSize :=
    tryAllocateFromCandidate best remaining ctx.blockSizeKB nodeBorrowed socketBorrowed
  if allocateSize = 0 then (remaining, ctx₁)
  else
    let ctx₂ := ctx₁.applyAllocationResult best allocateSize
    let best := { best with availableMem := best.availableMem - allocateSize }
    (remaining - allocateSize,
      if 0 < best.availableMem then ctx₂.insert planeIndex best else ctx₂)

/-! ### The two passes -/

/-- A bound on the rounds of a pass. -/
def rounds (remaining : Nat) : Nat :=
  remaining + (ctx.candidatesByPlane.entries.flatMap (·.2)).length

def samePlanePass : Nat → Nat → BatchBorrowContext → Nat × BatchBorrowContext
  | 0, remaining, ctx => (remaining, ctx)
  | fuel + 1, remaining, ctx =>
    if remaining = 0 then (remaining, ctx)
    else
      match ctx.candidateSet ctx.planeIndex with
      | [] => (remaining, ctx)
      | best :: rest =>
        let (remaining, ctx) := ctx.allocateFromHead ctx.planeIndex best rest remaining
        samePlanePass fuel remaining ctx

def allocateFromSamePlane (needSize : Nat) : Nat × BatchBorrowContext :=
  samePlanePass (ctx.rounds needSize) needSize ctx

/-- `std::map` is run through in the order of its keys. -/
def planes : List Int := ctx.candidatesByPlane.keys.insertionSort (· ≤ ·)

/-- The candidate with the highest priority on the other planes. -/
def bestHead : Option (Int × RemoteNumaCandidate × List RemoteNumaCandidate) :=
  ctx.planes.foldl (fun best planeIdx =>
    if planeIdx = ctx.planeIndex then best
    else
      match ctx.candidateSet planeIdx, best with
      | [], _ => best
      | head :: rest, none => some (planeIdx, head, rest)
      | head :: rest, some (_, bestHead, _) =>
        if before ctx.nodeTotalMemMap head bestHead then some (planeIdx, head, rest) else best) none

def crossPlanePass : Nat → Nat → BatchBorrowContext → Nat × BatchBorrowContext
  | 0, remaining, ctx => (remaining, ctx)
  | fuel + 1, remaining, ctx =>
    if remaining = 0 then (remaining, ctx)
    else
      match ctx.bestHead with
      | none => (remaining, ctx)
      | some (planeIdx, best, rest) =>
        let (remaining, ctx) := ctx.allocateFromHead planeIdx best rest remaining
        crossPlanePass fuel remaining ctx

def allocateFromCrossPlane (needSize : Nat) : Nat × BatchBorrowContext :=
  crossPlanePass (ctx.rounds needSize) needSize ctx

/-! ### The call -/

def getSocketIdByNumaId (numaInfos : List NumaInfo) (numaId : Int) : Option Int :=
  (numaInfos.find? fun numaInfo => numaInfo.numaId = numaId).map (·.socketId)

/-- The socket of a NUMA node of the borrower, and its plane. -/
def placeOf (localNumaId : Int) : Option (Int × Int) :=
  (getSocketIdByNumaId ctx.localNumaInfos localNumaId).bind fun socketId =>
    (ctx.nodeToPlaneMap.lookup (planeKey ctx.srcNid socketId)).map fun planeIndex =>
      (socketId, planeIndex)

def processBorrowForNuma (localNumaId : Int) (needSize : Nat) : Option BatchBorrowContext :=
  if needSize = 0 then some ctx
  else
    match ctx.placeOf localNumaId with
    | none => none
    | some (socketId, planeIndex) =>
      let ctx := { ctx with planeIndex := planeIndex, destParams := [] }
      let (remaining, ctx) := ctx.allocateFromSamePlane needSize
      let (remaining, ctx) :=
        if 0 < remaining then ctx.allocateFromCrossPlane remaining else (remaining, ctx)
      if 0 < remaining then none
      else
        let result : MemBorrowStrategyResult :=
          { srcNid := ctx.srcNid
            srcNumaId := localNumaId
            srcSocketId := socketId
            borrowSize := needSize
            destParam := ctx.destParams }
        some { ctx with destParams := [], results := ctx.results ++ [result] }

/-- The source NUMA nodes, one after the other. -/
def processAll : List (Int × Nat) → BatchBorrowContext → Option BatchBorrowContext
  | [], ctx => some ctx
  | (localNumaId, needSize) :: rest, ctx =>
    (ctx.processBorrowForNuma localNumaId needSize).bind (processAll rest)

end BatchBorrowContext

/-- The context before the first NUMA node, if there is something to borrow for, all queries are
answered, and the block size of the borrower is known. -/
def initialContext (srcNid : String) (srcNumaIds : List Int) (cluster : Cluster) :
    Option BatchBorrowContext :=
  if srcNumaIds.isEmpty then none
  else
    match cluster.nodeToPlaneMap, cluster.numaNodeInfoList, cluster.localNumaInfos with
    | some nodeToPlaneMap, some numaNodeInfoList, some localNumaInfos =>
      match cluster.allNodeInfo.lookup srcNid with
      | none => none
      | some nodeInfo =>
        let blockSizeKB := nodeInfo.blockSize * MB_TO_KBYTES
        if blockSizeKB = 0 then none
        else
          let reserved := reservedInfo1GMap numaNodeInfoList
          let ctx : BatchBorrowContext :=
            { srcNid := srcNid
              blockSizeKB := blockSizeKB
              localNumaInfos := localNumaInfos
              nodeToPlaneMap := nodeToPlaneMap
              nodeTotalMemMap := calculateNodeTotalMemMap srcNid cluster reserved }
          some (ctx.constructCandidateNumas (candidates srcNid cluster reserved nodeToPlaneMap))
    | _, _, _ => none

/-- **The strategy for several NUMA nodes.** -/
def batchBorrowStrategyImpl (srcNid : String) (srcNumaIds : List Int) (borrowSize : Nat)
    (cluster : Cluster) : Option (List MemBorrowStrategyResult) :=
  (initialContext srcNid srcNumaIds cluster).bind fun ctx =>
    let perNumaSizes := calculatePerNumaBorrowSize srcNumaIds borrowSize ctx.blockSizeKB
    (BatchBorrowContext.processAll (srcNumaIds.zip perNumaSizes) ctx).map (·.results)

end BatchBorrow

end UbsEngine
