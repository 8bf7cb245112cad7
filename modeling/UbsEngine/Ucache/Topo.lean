import UbsEngine.Library.Assoc
import UbsEngine.Library.FirstMatch
import Mathlib.Data.String.Basic

/-!
# Who has lent memory to whom

The master of the cache keeps the loans twice, under the node that lends and under the node that
borrows, in `UbsEngine.Ucache.MemBorrowTopo`. A planner works on a copy of it and changes whole
loans (`UbsEngine.Ucache.MemBorrowTopo.addNodeMemBorrowInfo`,
`UbsEngine.Ucache.MemBorrowTopo.deleteNodeMemBorrowInfo`).
-/

namespace UbsEngine

namespace Ucache

/-- The results of the operations. -/
inductive UcacheRet
  | ok
  | borrowTopoError
  | borrowScarcityLimit
  | borrowScarcityShock
  | scarcityInvalidInput
  | noReturnableMem
  | delMemError
deriving DecidableEq, Repr

/-- `MIN_BORROW_SIZE`. -/
def minBorrowSize : BitVec 64 := 0x8000000
/-- `MAX_BORROW_SIZE`. -/
def maxBorrowSize : BitVec 64 := 0x100000000

/-- The size of a loan that the configuration accepts. -/
structure BorrowSize where
  borrowSize : BitVec 64
  le_borrowSize : minBorrowSize ≤ borrowSize
  borrowSize_le : borrowSize ≤ maxBorrowSize

theorem BorrowSize.ne_zero (b : BorrowSize) : b.borrowSize ≠ 0 := by
  intro hzero
  have hle := b.le_borrowSize
  rw [hzero] at hle
  exact absurd hle (by decide)

/-- What a node has lent to another one, and where it appears there. -/
structure NodeMemBorrowInfo where
  totalSize : BitVec 64
  srcNodeId : String
  destNodeId : String
  numaNodeBorrowSize : Map Int (Map String (BitVec 64)) := ∅
  dstNumaId : Int := 0
deriving DecidableEq

/-- What a node may still lend. -/
structure BorrowMemInfoPerNode where
  numaNodeSize : Map Int (BitVec 64) := ∅
  freeMem : BitVec 64 := 0
  totalMem : BitVec 64 := 0
deriving DecidableEq

/-- The loans, by the node that lends and by the node that borrows. -/
structure MemBorrowTopo where
  lendMap : Map String (List NodeMemBorrowInfo) := ∅
  borrowMap : Map String (List NodeMemBorrowInfo) := ∅
  borrowMemInfoPerNodeMap : Map String BorrowMemInfoPerNode := ∅

/-- The links between the nodes. -/
abbrev PhysicalTopo := Map String (List String)

namespace MemBorrowTopo

variable (t : MemBorrowTopo)

/-- What a node has lent; a node that is not in the map has lent nothing. -/
def lends (node : String) : List NodeMemBorrowInfo := (t.lendMap.lookup node).getD []

/-- What a node has borrowed. -/
def borrows (node : String) : List NodeMemBorrowInfo := (t.borrowMap.lookup node).getD []

/-- What a node may still lend; `operator[]` makes an empty record for a new node. -/
def memInfo (node : String) : BorrowMemInfoPerNode :=
  (t.borrowMemInfoPerNodeMap.lookup node).getD {}

def setLends (node : String) (infos : List NodeMemBorrowInfo) : MemBorrowTopo :=
  { t with lendMap := t.lendMap.insert node infos }

def setBorrows (node : String) (infos : List NodeMemBorrowInfo) : MemBorrowTopo :=
  { t with borrowMap := t.borrowMap.insert node infos }

def setMemInfo (node : String) (info : BorrowMemInfoPerNode) : MemBorrowTopo :=
  { t with borrowMemInfoPerNodeMap := t.borrowMemInfoPerNodeMap.insert node info }

variable {t}

theorem lends_setLends (node node' : String) (infos : List NodeMemBorrowInfo) :
    (t.setLends node infos).lends node' = if node' = node then infos else t.lends node' := by
  rw [lends, setLends, Map.lookup_insert_ite]
  split <;> rfl

theorem borrows_setBorrows (node node' : String) (infos : List NodeMemBorrowInfo) :
    (t.setBorrows node infos).borrows node' = if node' = node then infos else t.borrows node' := by
  rw [borrows, setBorrows, Map.lookup_insert_ite]
  split <;> rfl

theorem memInfo_setMemInfo (node node' : String) (info : BorrowMemInfoPerNode) :
    (t.setMemInfo node info).memInfo node' = if node' = node then info else t.memInfo node' := by
  rw [memInfo, setMemInfo, Map.lookup_insert_ite]
  split <;> rfl

@[simp] theorem lends_setBorrows (node node' : String) (infos : List NodeMemBorrowInfo) :
    (t.setBorrows node infos).lends node' = t.lends node' := rfl

@[simp] theorem lends_setMemInfo (node node' : String) (info : BorrowMemInfoPerNode) :
    (t.setMemInfo node info).lends node' = t.lends node' := rfl

@[simp] theorem borrows_setLends (node node' : String) (infos : List NodeMemBorrowInfo) :
    (t.setLends node infos).borrows node' = t.borrows node' := rfl

@[simp] theorem borrows_setMemInfo (node node' : String) (info : BorrowMemInfoPerNode) :
    (t.setMemInfo node info).borrows node' = t.borrows node' := rfl

@[simp] theorem memInfo_setLends (node node' : String) (infos : List NodeMemBorrowInfo) :
    (t.setLends node infos).memInfo node' = t.memInfo node' := rfl

@[simp] theorem memInfo_setBorrows (node node' : String) (infos : List NodeMemBorrowInfo) :
    (t.setBorrows node infos).memInfo node' = t.memInfo node' := rfl

variable (t)

/-! ### Checks -/

/-- `PhysicalTopoCheck`: both nodes are known and there is a link. -/
def physicalTopoCheck (physicalTopo : PhysicalTopo) (src dst : String) : Bool :=
  (physicalTopo.lookup dst).isSome &&
    match physicalTopo.lookup src with
    | none => false
    | some links => links.contains dst

/-- `LendBorrowMapCheck`. -/
def lendBorrowMapCheck (src dst : String) : Bool :=
  (t.lendMap.lookup src).isSome && (t.borrowMap.lookup dst).isSome

/-- `MemBorrowTopoCheck`. -/
def memBorrowTopoCheck (physicalTopo : PhysicalTopo) (src dst : String) : Bool :=
  physicalTopoCheck physicalTopo src dst && t.lendBorrowMapCheck src dst

/-- `HasLentMem`. -/
def hasLentMem (nodeId : String) : Bool := !(t.lends nodeId).isEmpty

/-- `HasBorrowedMem`. -/
def hasBorrowedMem (nodeId : String) : Bool := !(t.borrows nodeId).isEmpty

/-- `HasLendMemExceptDst`. -/
def hasLendMemExceptDst (src dst : String) : Bool :=
  (t.lends src).any fun borrowInfo => borrowInfo.destNodeId ≠ dst

/-! ### Whole loans -/

/-- The entries of loans to a node, and of loans from a node. -/
def isDestNode (dst : String) (info : NodeMemBorrowInfo) : Bool := info.destNodeId = dst
def isSrcNode (src : String) (info : NodeMemBorrowInfo) : Bool := info.srcNodeId = src

def grow (size : BitVec 64) (info : NodeMemBorrowInfo) : NodeMemBorrowInfo :=
  { info with totalSize := info.totalSize + size }

def shrink (size : BitVec 64) (info : NodeMemBorrowInfo) : NodeMemBorrowInfo :=
  { info with totalSize := info.totalSize - size }

/-- A list of loans after the first one that matches got smaller, or is gone. -/
def takeBack (b : BorrowSize) (removeEdge : Bool) (isNode : NodeMemBorrowInfo → Bool)
    (infos : List NodeMemBorrowInfo) : List NodeMemBorrowInfo :=
  if removeEdge then infos.eraseP isNode else modifyFirst isNode (shrink b.borrowSize) infos

/-- `DeleteNodeMemBorrowInfo`: the first loan between two nodes gets smaller, or is gone if it was of
the size of one loan. -/
def deleteNodeMemBorrowInfo (b : BorrowSize) (physicalTopo : PhysicalTopo) (src dst : String) :
    UcacheRet × MemBorrowTopo :=
  if !t.memBorrowTopoCheck physicalTopo src dst then (.borrowTopoError, t)
  else
    match (t.lends src).find? (isDestNode dst) with
    | none => (.borrowTopoError, t)
    | some borrowInfo =>
      let removeEdge : Bool := borrowInfo.totalSize = b.borrowSize
      let t' := t.setLends src (takeBack b removeEdge (isDestNode dst) (t.lends src))
      -- the other side is searched only now, when this side is changed already
      match (t.borrows dst).find? (isSrcNode src) with
      | none => (.borrowTopoError, t')
      | some _ =>
        (.ok, (t'.setBorrows dst (takeBack b removeEdge (isSrcNode src) (t.borrows dst))).setMemInfo
          src { t.memInfo src with freeMem := (t.memInfo src).freeMem + b.borrowSize })

/-- `AddNodeMemBorrowInfo`: the first loan between two nodes gets larger, or there is a new one. The
source does not ask whether the maps have the nodes: they have those of the physical topology from
the start. -/
def addNodeMemBorrowInfo (b : BorrowSize) (physicalTopo : PhysicalTopo) (src dst : String) :
    UcacheRet × MemBorrowTopo :=
  if !physicalTopoCheck physicalTopo src dst then (.borrowTopoError, t)
  else
    let memInfo := { t.memInfo src with freeMem := (t.memInfo src).freeMem - b.borrowSize }
    match (t.lends src).find? (isDestNode dst) with
    | some _ =>
      let t' := t.setLends src (modifyFirst (isDestNode dst) (grow b.borrowSize) (t.lends src))
      match (t.borrows dst).find? (isSrcNode src) with
      | none => (.borrowTopoError, t')
      | some _ =>
        (.ok, (t'.setBorrows dst (modifyFirst (isSrcNode src) (grow b.borrowSize)
          (t.borrows dst))).setMemInfo src memInfo)
    | none =>
      let borrowInfo : NodeMemBorrowInfo :=
        { totalSize := b.borrowSize, srcNodeId := src, destNodeId := dst }
      (.ok, ((t.setLends src (t.lends src ++ [borrowInfo])).setBorrows dst
        (t.borrows dst ++ [borrowInfo])).setMemInfo src memInfo)

variable {t} {b : BorrowSize} {physicalTopo : PhysicalTopo} {src dst : String}

/-- What a deletion needs and what it does. -/
theorem deleteNodeMemBorrowInfo_of_ok
    (h : (t.deleteNodeMemBorrowInfo b physicalTopo src dst).1 = .ok) :
    ∃ info info', physicalTopoCheck physicalTopo src dst = true ∧
      (t.lends src).find? (isDestNode dst) = some info ∧
      (t.borrows dst).find? (isSrcNode src) = some info' ∧
      (t.deleteNodeMemBorrowInfo b physicalTopo src dst).2 =
        ((t.setLends src (takeBack b (info.totalSize = b.borrowSize) (isDestNode dst)
          (t.lends src))).setBorrows dst (takeBack b (info.totalSize = b.borrowSize) (isSrcNode src)
          (t.borrows dst))).setMemInfo src
            { t.memInfo src with freeMem := (t.memInfo src).freeMem + b.borrowSize } := by
  have hcheck : t.memBorrowTopoCheck physicalTopo src dst = true := by
    by_contra hfalse
    rw [Bool.not_eq_true] at hfalse
    rw [deleteNodeMemBorrowInfo, hfalse] at h
    exact nomatch h
  have hphysical : physicalTopoCheck physicalTopo src dst = true :=
    (Bool.and_eq_true_iff.1 hcheck).1
  unfold deleteNodeMemBorrowInfo at h ⊢
  rw [hcheck] at h ⊢
  rcases hfind : (t.lends src).find? (isDestNode dst) with - | info
  · rw [hfind] at h
    exact nomatch h
  rcases hfind' : (t.borrows dst).find? (isSrcNode src) with - | info'
  · rw [hfind, hfind'] at h
    exact nomatch h
  exact ⟨info, info', hphysical, rfl, rfl, rfl⟩

/-- What an addition needs and what it does. -/
theorem addNodeMemBorrowInfo_of_ok
    (h : (t.addNodeMemBorrowInfo b physicalTopo src dst).1 = .ok) :
    physicalTopoCheck physicalTopo src dst = true ∧
      ((∃ info info', (t.lends src).find? (isDestNode dst) = some info ∧
        (t.borrows dst).find? (isSrcNode src) = some info' ∧
        (t.addNodeMemBorrowInfo b physicalTopo src dst).2 =
          ((t.setLends src (modifyFirst (isDestNode dst) (grow b.borrowSize)
            (t.lends src))).setBorrows dst (modifyFirst (isSrcNode src) (grow b.borrowSize)
            (t.borrows dst))).setMemInfo src
              { t.memInfo src with freeMem := (t.memInfo src).freeMem - b.borrowSize }) ∨
      ((t.lends src).find? (isDestNode dst) = none ∧
        (t.addNodeMemBorrowInfo b physicalTopo src dst).2 =
          ((t.setLends src (t.lends src ++
            [{ totalSize := b.borrowSize, srcNodeId := src, destNodeId := dst }])).setBorrows dst
            (t.borrows dst ++
              [{ totalSize := b.borrowSize, srcNodeId := src, destNodeId := dst }])).setMemInfo src
              { t.memInfo src with freeMem := (t.memInfo src).freeMem - b.borrowSize })) := by
  have hcheck : physicalTopoCheck physicalTopo src dst = true := by
    by_contra hfalse
    rw [Bool.not_eq_true] at hfalse
    rw [addNodeMemBorrowInfo, hfalse] at h
    exact nomatch h
  refine ⟨hcheck, ?_⟩
  unfold addNodeMemBorrowInfo at h ⊢
  rw [hcheck] at h ⊢
  rcases hfind : (t.lends src).find? (isDestNode dst) with - | info
  · exact Or.inr ⟨rfl, rfl⟩
  rcases hfind' : (t.borrows dst).find? (isSrcNode src) with - | info'
  · rw [hfind, hfind'] at h
    exact nomatch h
  exact Or.inl ⟨info, info', rfl, rfl, rfl⟩

end MemBorrowTopo

end Ucache

end UbsEngine
