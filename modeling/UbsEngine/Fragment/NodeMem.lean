import UbsEngine.Library.Assoc
import Mathlib.Tactic.SplitIfs

/-!
# The memory of the nodes

The strategies of a fragment request look at the memory of the nodes of the cluster, as the ledger
gives it, and leave out the nodes that must not lend. This module has the parameters of a request,
the table of the nodes, and what is left out of it before a strategy for several sizes at once.
-/

namespace UbsEngine

namespace Fragment

/-! ### Requests -/

structure SrcMemoryBorrowParam where
  srcNid : String
  srcSocketId : Int
  srcNumaId : Int
  uid : Nat
  username : String
  deriving DecidableEq, Repr

/-- The sizes are in KB. -/
structure DestMemoryBorrowParam where
  destNid : String
  destSocketId : Nat
  destNumaNum : Nat
  destNumaId : List Int
  memSize : List (BitVec 64)
  deriving DecidableEq, Repr

inductive MpResult where
  | ok
  | error
  | resourceCollectError
  | lackRemoteMemError
  | borrowMemError
  | returnMemError
  deriving DecidableEq, Repr

/-- 4 GB, in KB. -/
def fourGb : BitVec 64 := 4 * 1024 * 1024

def validateBorrowSize (gBlockSize : BitVec 32) (borrowSize : BitVec 64) : MpResult :=
  if gBlockSize = 0 then
    .error
  else if borrowSize % (gBlockSize.setWidth 64 * 1024) ≠ 0 then
    .error
  else
    .ok

/-! ### The table -/

/-- Where a numa is. These fields never change, so they stand for the pointer to the numa. -/
structure Place where
  nodeId : String
  socketId : Nat
  numaId : Nat
  deriving DecidableEq, Repr

structure NumaMemInfo where
  numaId : Nat
  socketId : Nat
  reservedMem : BitVec 64
  borrowableMem : BitVec 64
  borrowedMem : BitVec 64
  deriving DecidableEq, Repr

/-- The memory of a node. The ledger has one entry for each of its numas. -/
structure NodeMemInfo where
  totalBorrowableMem : BitVec 64
  localnumaMemInfo : List NumaMemInfo
  nodup : (localnumaMemInfo.map (·.numaId)).Nodup

abbrev NodeMemMap := Map String NodeMemInfo

namespace NumaMemInfo

/-- The fields of the ledger are in bytes, the sizes that are asked for in KB. -/
def toKb (numa : NumaMemInfo) : NumaMemInfo :=
  { numa with
    reservedMem := numa.reservedMem / 1024
    borrowableMem := numa.borrowableMem / 1024
    borrowedMem := numa.borrowedMem / 1024 }

/-- More is borrowed from the numa than it has reserved. -/
def Overdrawn (numa : NumaMemInfo) : Prop :=
  numa.reservedMem < numa.borrowedMem

instance (numa : NumaMemInfo) : Decidable numa.Overdrawn :=
  inferInstanceAs (Decidable (_ < _))

/-- The capacity that the strategy computes: the difference is one of unsigned numbers. -/
def capacity (numa : NumaMemInfo) : BitVec 64 :=
  let left := numa.reservedMem - numa.borrowedMem
  if left < numa.borrowableMem then left else numa.borrowableMem

/-- What the numa can lend: nothing once it is overdrawn. -/
def lendable (numa : NumaMemInfo) : Nat :=
  min numa.borrowableMem.toNat (numa.reservedMem.toNat - numa.borrowedMem.toNat)

theorem toNat_capacity {numa : NumaMemInfo} (h : ¬ numa.Overdrawn) :
    numa.capacity.toNat = numa.lendable := by
  have hle : numa.borrowedMem ≤ numa.reservedMem := BitVec.not_lt.1 h
  have hleft := BitVec.toNat_sub_of_le hle
  unfold capacity lendable
  dsimp only
  split_ifs with hlt
  · rw [BitVec.lt_def] at hlt
    omega
  · rw [BitVec.lt_def] at hlt
    omega

theorem lendable_of_overdrawn {numa : NumaMemInfo} (h : numa.Overdrawn) : numa.lendable = 0 := by
  rw [Overdrawn, BitVec.lt_def] at h
  unfold lendable
  omega

theorem lendable_le_capacity (numa : NumaMemInfo) : numa.lendable ≤ numa.capacity.toNat := by
  by_cases h : numa.Overdrawn
  · rw [lendable_of_overdrawn h]
    exact Nat.zero_le _
  · rw [toNat_capacity h]

end NumaMemInfo

def NodeMemInfo.toKb (info : NodeMemInfo) : NodeMemInfo where
  totalBorrowableMem := info.totalBorrowableMem / 1024
  localnumaMemInfo := info.localnumaMemInfo.map NumaMemInfo.toKb
  nodup := by
    have h := info.nodup
    rwa [List.map_map]

def NodeMemMap.toKb (nodeMemMap : NodeMemMap) : NodeMemMap :=
  nodeMemMap.mapValues fun _ info => info.toKb

/-! ### What the rest of the system answers -/

/-- A return that timed out. -/
structure BorrowItem where
  srcNid : String
  dstNid : String
  dstSocketId : Nat
  deriving DecidableEq, Repr

/-- What the strategies ask the rest of the system. -/
structure StrategyEnv where
  gBlockSize : BitVec 32
  mustSamePlane : Bool
  /-- Whether two sockets, each of a node, are on one plane. -/
  judgeSampPlane : String → Int → String → Int → Bool
  /-- The table of the nodes, and the nodes that the source must not borrow from. -/
  getMemoryInfo : SrcMemoryBorrowParam → Except MpResult (NodeMemMap × List String)
  borrowableList : String → Option (List String)
  borrowCacheAll : List BorrowItem
  /-- The nodes that borrow, in the records of the ledger. -/
  borrowNodes : List String

/-! ### The nodes that are left out -/

def filterBorrowableNodes (env : StrategyEnv) (srcParam : SrcMemoryBorrowParam)
    (antiNodeMemVec : List String) (nodeMemMap : NodeMemMap) : MpResult × NodeMemMap :=
  let nodeMemMap := nodeMemMap.eraseAll antiNodeMemVec
  match env.borrowableList srcParam.srcNid with
  | none => (.error, nodeMemMap)
  | some couldBorrowNodeSet =>
    let nodeMemMap :=
      nodeMemMap.eraseAll (nodeMemMap.keys.filter fun nodeId => !couldBorrowNodeSet.contains nodeId)
    let timeouts := env.borrowCacheAll.filter fun item =>
      item.srcNid == srcParam.srcNid &&
        env.judgeSampPlane srcParam.srcNid srcParam.srcSocketId item.dstNid item.dstSocketId
    (.ok, nodeMemMap.eraseAll (timeouts.map (·.dstNid)))

/-- What `FilterAndSortNodes` leaves of the table; the callers do not use the list that it sorts.
The source socket is the default one, and a failure to read the borrowable nodes is only logged. -/
def filterAndSortNodes (env : StrategyEnv) (nodeMemMap : NodeMemMap) (srcNid : String)
    (antiNodeMemVec : List String) : NodeMemMap :=
  let param : SrcMemoryBorrowParam :=
    { srcNid, srcSocketId := 0, srcNumaId := 0, uid := 0, username := "" }
  (filterBorrowableNodes env param antiNodeMemVec nodeMemMap).2.eraseAll env.borrowNodes

end Fragment

end UbsEngine
