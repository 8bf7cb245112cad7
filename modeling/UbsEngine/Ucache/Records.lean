import UbsEngine.Ucache.Topo
import UbsEngine.Library.Nested
import Mathlib.Data.List.Sort
import Mathlib.Data.Int.DivMod

/-!
# What the master knows about the loans

In every round the master collects the records of the borrowed memories and builds both maps of its
topology from them (`UbsEngine.Ucache.generatelendMemMap`, `UbsEngine.Ucache.generateborrowMemMap`).
While it executes a plan it keeps the topology up to date itself: a memory that has been borrowed is
entered (`UbsEngine.Ucache.MemBorrowTopo.setNumaNodeBorrowSize`), and a memory that is to be returned
is looked up (`UbsEngine.Ucache.MemBorrowTopo.getReturnableMem`) and taken out
(`UbsEngine.Ucache.MemBorrowTopo.delNumaNodeBorrowSize`).
-/

namespace UbsEngine

namespace Ucache

structure LentNumaInfo where
  numaId : Int
  lentSize : BitVec 64
deriving DecidableEq

/-- A borrowed memory. -/
structure BorrowMemInfo where
  name : String
  size : BitVec 64
  lentNodeId : String
  lentNumaInfos : List LentNumaInfo
  borrowNodeId : String
  borrowLocalNuma : Int
  borrowRemoteNuma : Int
deriving DecidableEq

/-! ### Building the maps -/

section Collect

variable (info : BorrowMemInfo)

/-- The numa where a memory appears, as an `int`. -/
def BorrowMemInfo.dstNumaId : Int :=
  if 0 ≤ info.borrowRemoteNuma then info.borrowRemoteNuma.bmod (2 ^ 32) else info.borrowLocalNuma

/-- A memory is entered into a list of loans. -/
def NodeMemBorrowInfo.enter (name : String) (size lentSize : BitVec 64) (srcNumaId : Int)
    (item : NodeMemBorrowInfo) : NodeMemBorrowInfo :=
  { item with
    totalSize := item.totalSize + size
    numaNodeBorrowSize := item.numaNodeBorrowSize.set₂ srcNumaId name lentSize }

/-- The loan of a single memory. -/
def BorrowMemInfo.loan (numaInfo : LentNumaInfo) : NodeMemBorrowInfo where
  totalSize := info.size
  srcNodeId := info.lentNodeId
  destNodeId := info.borrowNodeId
  numaNodeBorrowSize := Map.set₂ ∅ numaInfo.numaId info.name numaInfo.lentSize
  dstNumaId := info.dstNumaId

/-- What `GenerateLendMap` and `GenerateBorrowMap` do with the list of a node: the first loan that
matches gets larger, or there is a new one. A memory without a numa is skipped. -/
def generateMap (isItem : NodeMemBorrowInfo → Bool) (nodeId : String)
    (memMap : Map String (List NodeMemBorrowInfo)) : Map String (List NodeMemBorrowInfo) :=
  match info.lentNumaInfos with
  | [] => memMap
  | numaInfo :: _ =>
    memMap.insert nodeId (upsert isItem
      (NodeMemBorrowInfo.enter info.name info.size numaInfo.lentSize numaInfo.numaId)
      (info.loan numaInfo) ((memMap.lookup nodeId).getD []))

/-- `GenerateLendMap`. -/
def generateLendMap (lendId : String) (memMap : Map String (List NodeMemBorrowInfo)) :
    Map String (List NodeMemBorrowInfo) :=
  generateMap info (fun item => decide (item.destNodeId = info.borrowNodeId) &&
    decide (item.dstNumaId = info.dstNumaId)) lendId memMap

/-- `GenerateBorrowMap`. -/
def generateBorrowMap (borrowId : String) (memMap : Map String (List NodeMemBorrowInfo)) :
    Map String (List NodeMemBorrowInfo) :=
  generateMap info (fun item => decide (item.srcNodeId = info.lentNodeId) &&
    decide (item.dstNumaId = info.dstNumaId)) borrowId memMap

/-- `GeneratelendMemMap`. -/
def generatelendMemMap (borrowMemInfos : List BorrowMemInfo) : Map String (List NodeMemBorrowInfo) :=
  borrowMemInfos.foldl (fun memMap info => generateLendMap info info.lentNodeId memMap) ∅

/-- `GenerateborrowMemMap`. -/
def generateborrowMemMap (borrowMemInfos : List BorrowMemInfo) :
    Map String (List NodeMemBorrowInfo) :=
  borrowMemInfos.foldl (fun memMap info => generateBorrowMap info info.borrowNodeId memMap) ∅

end Collect

namespace MemBorrowTopo

/-! ### The start of a round -/

/-- A map with an empty list for each node that it does not have. -/
def fillEmpty (nodes : List String) (memMap : Map String (List NodeMemBorrowInfo)) :
    Map String (List NodeMemBorrowInfo) :=
  nodes.foldl (fun memMap node =>
    if (memMap.lookup node).isSome then memMap else memMap.insert node []) memMap

/-- The loanable memory of a node. Numas that have it no more keep what they had. -/
def setLoanable (rawData : Map Int (BitVec 64)) (memInfo : BorrowMemInfoPerNode) :
    BorrowMemInfoPerNode :=
  let totalLoanableBorrowMem := rawData.entries.foldl (fun total kv => total + kv.2) 0
  { numaNodeSize := rawData.entries.foldl (fun sizes kv => sizes.insert kv.1 kv.2)
      memInfo.numaNodeSize
    freeMem := totalLoanableBorrowMem
    totalMem := totalLoanableBorrowMem }

/-- `InitGlobalMemBorrowTopo`. -/
def initGlobalMemBorrowTopo (physicalTopo : PhysicalTopo)
    (borrowMap lendMap : Map String (List NodeMemBorrowInfo))
    (loanableMemRawData : Map String (Map Int (BitVec 64))) (t : MemBorrowTopo) :
    UcacheRet × MemBorrowTopo :=
  let t := { t with borrowMap, lendMap }
  if physicalTopo.keys.isEmpty then (.borrowTopoError, t)
  else
    (.ok,
      { lendMap := fillEmpty physicalTopo.keys t.lendMap
        borrowMap := fillEmpty physicalTopo.keys t.borrowMap
        borrowMemInfoPerNodeMap := loanableMemRawData.entries.foldl (fun memInfos rawData =>
          memInfos.insert rawData.1 (setLoanable rawData.2 ((memInfos.lookup rawData.1).getD {})))
          t.borrowMemInfoPerNodeMap })

/-! ### Single memories -/

variable (t : MemBorrowTopo)

/-- `AddNumaSize` and `SubNumaSize`. -/
def changeNumaSize (change : BitVec 64 → BitVec 64) (nodeId : String) (numaId : Int) :
    MemBorrowTopo :=
  { t with
    borrowMemInfoPerNodeMap := t.borrowMemInfoPerNodeMap.modify nodeId fun memInfo =>
      { memInfo with
        numaNodeSize := memInfo.numaNodeSize.insert numaId
          (change ((memInfo.numaNodeSize.lookup numaId).getD 0)) } }

def addNumaSize (nodeId : String) (numaId : Int) (size : BitVec 64) : MemBorrowTopo :=
  t.changeNumaSize (· + size) nodeId numaId

def subNumaSize (nodeId : String) (numaId : Int) (size : BitVec 64) : MemBorrowTopo :=
  t.changeNumaSize (· - size) nodeId numaId

/-- The first numa of a node with room for a loan: the first part of `GetBorrowableNumaInfo`. -/
def borrowableNuma (b : BorrowSize) (node : String) : Option Int :=
  ((t.memInfo node).numaNodeSize.keys.insertionSort (· ≤ ·)).find? fun numaId =>
    decide (b.borrowSize ≤ ((t.memInfo node).numaNodeSize.lookup numaId).getD 0)

/-- `GetBorrowableNumaInfo`: the socket and the numa. -/
def getBorrowableNumaInfo (b : BorrowSize) (socketMap : Map String (Map Int Int)) (node : String) :
    Option (Int × Int) :=
  (t.borrowableNuma b node).bind fun numaId =>
    (socketMap.get₂ node numaId).map fun socketId => (socketId, numaId)

/-- `GetReturnableMem`: the name of a memory and its numa. -/
def getReturnableMem (src dst : String) : UcacheRet × Option (String × Int) :=
  match t.lendMap.lookup src with
  | none => (.borrowTopoError, none)
  | some infos =>
    match infos.find? (isDestNode dst) with
    | none => (.noReturnableMem, none)
    | some info =>
      match (info.numaNodeBorrowSize.keys.insertionSort (· ≤ ·)).head? with
      | none => (.noReturnableMem, none)
      | some numaId =>
        match (((info.numaNodeBorrowSize.lookup numaId).getD ∅).keys.insertionSort (· ≤ ·)).head? with
        | none => (.noReturnableMem, none)
        | some memName => (.ok, some (memName, numaId))

/-- The loan of two nodes that appears at a numa. -/
def isLoanAt (src dst : String) (toNumaId : Int) (info : NodeMemBorrowInfo) : Bool :=
  decide (info.srcNodeId = src) && decide (info.destNodeId = dst) &&
    decide (info.dstNumaId = toNumaId)

/-- The loan of a memory that has just been borrowed. -/
def newLoan (b : BorrowSize) (memName src dst : String) (fromNumaId toNumaId : Int) :
    NodeMemBorrowInfo where
  totalSize := b.borrowSize
  srcNodeId := src
  destNodeId := dst
  numaNodeBorrowSize := Map.set₂ ∅ fromNumaId memName b.borrowSize
  dstNumaId := toNumaId

/-- `SetNumaNodeBorrowSize`. -/
def setNumaNodeBorrowSize (b : BorrowSize) (physicalTopo : PhysicalTopo) (memName src dst : String)
    (fromNumaId toNumaId : Int) : UcacheRet × MemBorrowTopo :=
  if !t.memBorrowTopoCheck physicalTopo src dst then (.borrowTopoError, t)
  else
    match (t.lends src).find? (isLoanAt src dst toNumaId) with
    | none =>
      let memBorrowInfo := newLoan b memName src dst fromNumaId toNumaId
      (.ok, (((t.setLends src (t.lends src ++ [memBorrowInfo])).setBorrows dst
        (t.borrows dst ++ [memBorrowInfo])).subNumaSize src fromNumaId b.borrowSize))
    | some _ =>
      match (t.borrows dst).find? (isLoanAt src dst toNumaId) with
      | none => (.borrowTopoError, t)
      | some _ =>
        let enter := NodeMemBorrowInfo.enter memName b.borrowSize b.borrowSize fromNumaId
        (.ok, ((t.setLends src (modifyFirst (isLoanAt src dst toNumaId) enter (t.lends src))).setBorrows
          dst (modifyFirst (isLoanAt src dst toNumaId) enter (t.borrows dst))).subNumaSize src
            fromNumaId b.borrowSize)

/-- What `DeleteFromMap` does with a loan: a memory is taken out. -/
def forget (memName : String) (fromNumaId : Int) (size : BitVec 64) (info : NodeMemBorrowInfo) :
    NodeMemBorrowInfo :=
  { info with
    totalSize := info.totalSize - size
    numaNodeBorrowSize := info.numaNodeBorrowSize.insert fromNumaId
      (((info.numaNodeBorrowSize.lookup fromNumaId).getD ∅).erase memName) }

/-- `operator[]` makes an empty record for a numa. -/
def touch (fromNumaId : Int) (info : NodeMemBorrowInfo) : NodeMemBorrowInfo :=
  { info with
    numaNodeBorrowSize := info.numaNodeBorrowSize.insert fromNumaId
      ((info.numaNodeBorrowSize.lookup fromNumaId).getD ∅) }

/-- `DeleteFromMap`, in the list of a node. The size has 32 bits. -/
def deleteFromMap (memName : String) (fromNumaId : Int) (size : BitVec 32)
    (isNode : NodeMemBorrowInfo → Bool) (infos : List NodeMemBorrowInfo) :
    UcacheRet × List NodeMemBorrowInfo :=
  match infos.find? isNode with
  | none => (.delMemError, infos)
  | some info =>
    if (info.numaNodeBorrowSize.get₂ fromNumaId memName).isNone then
      (.delMemError, modifyFirst isNode (touch fromNumaId) infos)
    else if info.totalSize ≤ size.setWidth 64 then (.ok, infos.eraseP isNode)
    else (.ok, modifyFirst isNode (forget memName fromNumaId (size.setWidth 64)) infos)

/-- `DelNumaNodeBorrowSize`. What fails on the side of the borrower has been done on the other one. -/
def delNumaNodeBorrowSize (b : BorrowSize) (physicalTopo : PhysicalTopo) (memName src dst : String)
    (fromNumaId : Int) : UcacheRet × MemBorrowTopo :=
  if !t.memBorrowTopoCheck physicalTopo src dst then (.borrowTopoError, t)
  else
    let size := b.borrowSize.setWidth 32
    if ((t.lends src).find? (isDestNode dst)).isNone then (.delMemError, t)
    else
      let r := deleteFromMap memName fromNumaId size (isDestNode dst) (t.lends src)
      let t' := t.setLends src r.2
      if r.1 ≠ .ok then (r.1, t')
      else if ((t.borrows dst).find? (isSrcNode src)).isNone then (.delMemError, t')
      else
        let r' := deleteFromMap memName fromNumaId size (isSrcNode src) (t.borrows dst)
        let t'' := t'.setBorrows dst r'.2
        if r'.1 ≠ .ok then (r'.1, t'') else (.ok, t''.addNumaSize src fromNumaId b.borrowSize)

end MemBorrowTopo

end Ucache

end UbsEngine
