import UbsEngine.Fragment.NodeMem
import UbsEngine.Library.Grouping

/-!
# A strategy for one size

`MemBorrowStrategy` rounds the size that is asked for up to blocks and takes the blocks from the numas
of the candidates, one after the other. What it takes from a numa is entered in pieces of 4 GB and one
piece for the rest. The number of blocks in such a piece is rounded down, so the pieces are right
only where no piece of 4 GB is cut, or where a block divides 4 GB (`UbsEngine.Fragment.covers_iff`).
-/

namespace UbsEngine

namespace Fragment

/-! ### What the strategy asks -/

/-- A node that `GetAllNodes` lists. -/
structure LenderInfo where
  blockSize : BitVec 32
  exportTotalTimes : BitVec 32
  /-- The sockets of its numas. -/
  sockets : List Nat
  deriving DecidableEq, Repr

structure BorrowRecord where
  lentNode : String
  lentSocketId : Nat
  lentMemId : List (BitVec 64)
  deriving DecidableEq, Repr

/-- The candidates in the order in which they are asked: a socket of a node is in one of them at
most, and so is a numa. -/
structure Candidates where
  nodes : List (String × NodeMemInfo)
  apart : nodes.Pairwise fun a b => a.1 = b.1 →
    ∀ x ∈ a.2.localnumaMemInfo, ∀ y ∈ b.2.localnumaMemInfo,
      x.socketId ≠ y.socketId ∧ x.numaId ≠ y.numaId

/-- What the strategy asks the rest of the system. -/
structure LedgerEnv where
  getAllNodes : Map String LenderInfo
  /-- The sockets of the numas in the topology. -/
  numaSocketMap : Option (Map String (Map Int Nat))
  /-- The candidates that are left when the nodes are read, filtered and sorted. -/
  candidates : SrcMemoryBorrowParam → Except MpResult Candidates
  /-- The records of the ledger, for the node that is asked about. -/
  borrowRecords : String → Option (List BorrowRecord)

def getSocketId (env : LedgerEnv) (nodeId : String) (numaId : Int) : Option Nat :=
  match env.numaSocketMap with
  | none => none
  | some numaSocketMap =>
    match numaSocketMap.lookup nodeId with
    | none => none
    | some innerMap => innerMap.lookup numaId

def validateSrcparam (env : LedgerEnv) (srcParam : SrcMemoryBorrowParam) : MpResult :=
  match getSocketId env srcParam.srcNid srcParam.srcNumaId with
  | none => .error
  | some socketId => if (socketId : Int) ≠ srcParam.srcSocketId then .error else .ok

/-! ### What a socket has left -/

/-- The blocks that a socket of a node has lent. -/
def usedMemCount (records : List BorrowRecord) (nodeId : String) (socketId : Nat) : Nat :=
  ((records.filter fun record =>
    record.lentNode == nodeId && record.lentSocketId == socketId).map (·.lentMemId.length)).sum

/-- What the sockets of a node have left, in MB. -/
def getSocket2CurMemSizeMap (env : LedgerEnv) (gBlockSize : BitVec 32) (nodeId : String) :
    Option (Map Nat (BitVec 64)) :=
  match env.getAllNodes.lookup nodeId with
  | none => none
  | some nodeInfo =>
    if nodeInfo.blockSize ≠ gBlockSize then
      none
    else
      match env.borrowRecords nodeId with
      | none => none
      | some records =>
        let lent := records.filter fun record => record.lentNode == nodeId
        let sockets := nodeInfo.sockets ++ lent.map (·.lentSocketId)
        if sockets.any fun socketId =>
            nodeInfo.exportTotalTimes.toNat < usedMemCount records nodeId socketId then
          none
        else
          some (Map.ofKeys sockets fun socketId =>
            (nodeInfo.exportTotalTimes.setWidth 64 -
              BitVec.ofNat 64 (usedMemCount records nodeId socketId)) * gBlockSize.setWidth 64)

/-! ### What is taken from a numa -/

def safeUint64To32 (tmp : BitVec 64) : Option (BitVec 32) :=
  if (BitVec.allOnes 32).setWidth 64 < tmp then none else some (tmp.setWidth 32)

/-- What a socket has left, in MB; the table has nothing for a socket that it does not list. -/
def curLeft (left : Map Nat (BitVec 64)) (socketId : Nat) : BitVec 64 :=
  (left.lookup socketId).getD 0

/-- What a numa could lend, in MB. -/
def couldBorrowSize (left : Map Nat (BitVec 64)) (numa : NumaMemInfo) : Option (BitVec 32) :=
  let tmp := numa.borrowableMem / 1048576
  let cur := curLeft left numa.socketId
  safeUint64To32 (if cur < tmp then cur else tmp)

/-- The blocks in 4 GB. -/
def fourGbBlockSize (gBlockSize : BitVec 32) : BitVec 32 :=
  (fourGb / (gBlockSize.setWidth 64 * 1024)).setWidth 32

/-- The blocks in a number of MB. The quotient has 32 bits, so the check of the code against more of
them never fails, nor does the one for the pieces of 4 GB. -/
def couldBorrowNum (gBlockSize size : BitVec 32) : BitVec 32 :=
  (size.setWidth 64 * 1048576 / (gBlockSize.setWidth 64 * 1024 * 1024)).setWidth 32

/-- The pieces of 4 GB in a number of MB. -/
def haveFourGbNum (size : BitVec 32) : BitVec 32 :=
  (size.setWidth 64 * 1048576 / (fourGb * 1024)).setWidth 32

/-- The pieces of 4 GB, and the blocks of the one piece after them, that a numa is asked for; nothing
when the division traps. -/
def pieceCounts (gBlockSize size needBorrowNum : BitVec 32) : Option (BitVec 32 × BitVec 32) :=
  if couldBorrowNum gBlockSize size ≤ needBorrowNum then
    some (haveFourGbNum size,
      couldBorrowNum gBlockSize size - haveFourGbNum size * fourGbBlockSize gBlockSize)
  else if fourGbBlockSize gBlockSize = 0 then
    none
  else
    some (needBorrowNum / fourGbBlockSize gBlockSize, needBorrowNum % fourGbBlockSize gBlockSize)

/-- The sizes of the pieces, in KB. -/
def addMemoryParamsToResult (gBlockSize haveFourGbNum moreBorrowNum : BitVec 32) :
    List (BitVec 64) :=
  List.replicate haveFourGbNum.toNat fourGb ++
    if moreBorrowNum ≠ 0 then
      [moreBorrowNum.setWidth 64 * (gBlockSize.setWidth 64 * 1024)]
    else
      []

/-! ### The loops -/

/-- What is still needed, in blocks, and the parameters found so far. -/
structure Progress where
  needBorrowNum : BitVec 32
  destParam : List DestMemoryBorrowParam
  deriving DecidableEq, Repr

/-- The socket after some blocks have been taken from it. -/
def takeFrom (left : Map Nat (BitVec 64)) (socketId : Nat) (gBlockSize count : BitVec 32) :
    Map Nat (BitVec 64) :=
  left.insert socketId (curLeft left socketId - (count * gBlockSize).setWidth 64)

/-- The parameters for pieces on one numa. -/
def destParamsOf (nodeId : String) (destSocketId numaId : Nat) (sizes : List (BitVec 64)) :
    List DestMemoryBorrowParam :=
  sizes.map fun size =>
    { destNid := nodeId
      destSocketId
      destNumaNum := 1
      destNumaId := [(numaId : Int)]
      memSize := [size] }

/-- How the loop goes on after a numa. -/
inductive NumaStep where
  /-- It ends, or the process dies in the division. -/
  | stop (fault : Option (MpResult × Progress))
  | next (left : Map Nat (BitVec 64)) (p : Progress)

/-- The pieces of a numa are entered, and its blocks are taken. -/
def enterPieces (gBlockSize size : BitVec 32) (nodeId : String) (destSocketId : Nat)
    (numa : NumaMemInfo) (left : Map Nat (BitVec 64)) (p : Progress) :
    Option (BitVec 32 × BitVec 32) → NumaStep
  | none => .stop none
  | some (haveFourGbNum, moreBorrowNum) =>
    let destParam := p.destParam ++ destParamsOf nodeId destSocketId numa.numaId
      (addMemoryParamsToResult gBlockSize haveFourGbNum moreBorrowNum)
    let count := couldBorrowNum gBlockSize size
    if count ≤ p.needBorrowNum then
      .next (takeFrom left numa.socketId gBlockSize count)
        { needBorrowNum := p.needBorrowNum - count, destParam }
    else
      .stop (some (.ok, { needBorrowNum := 0, destParam }))

/-- One numa of a candidate is asked. -/
def askNuma (env : LedgerEnv) (gBlockSize : BitVec 32) (nodeId : String) (numa : NumaMemInfo)
    (left : Map Nat (BitVec 64)) (p : Progress) : NumaStep :=
  match getSocketId env nodeId numa.numaId with
  | none => .stop (some (.error, p))
  | some destSocketId =>
    match couldBorrowSize left numa with
    | none => .stop (some (.error, p))
    | some size =>
      enterPieces gBlockSize size nodeId destSocketId numa left p
        (pieceCounts gBlockSize size p.needBorrowNum)

/-- The loop over the numas of a candidate; nothing when the process dies in the division. -/
def processNumas (env : LedgerEnv) (gBlockSize : BitVec 32) (nodeId : String) :
    List NumaMemInfo → Map Nat (BitVec 64) → Progress → Option (MpResult × Progress)
  | [], _, p => some (.ok, p)
  | numa :: numas, left, p =>
    match askNuma env gBlockSize nodeId numa left p with
    | .stop fault => fault
    | .next left p => processNumas env gBlockSize nodeId numas left p

def processNodeMemBorrow (env : LedgerEnv) (gBlockSize : BitVec 32)
    (node : String × NodeMemInfo) (p : Progress) : Option (MpResult × Progress) :=
  match getSocket2CurMemSizeMap env gBlockSize node.1 with
  | none => some (.error, p)
  | some left => processNumas env gBlockSize node.1 node.2.localnumaMemInfo left p

/-- The loop over the candidates. -/
def processNodes (env : LedgerEnv) (gBlockSize : BitVec 32) (srcNid : String) :
    List (String × NodeMemInfo) → Progress → Option (MpResult × Progress)
  | [], p => some (.ok, p)
  | node :: nodes, p =>
    if p.needBorrowNum = 0 then
      some (.ok, p)
    else if node.1 = srcNid then
      processNodes env gBlockSize srcNid nodes p
    else
      match processNodeMemBorrow env gBlockSize node p with
      | some (.ok, p) => processNodes env gBlockSize srcNid nodes p
      | fault => fault

/-! ### The strategy -/

structure MemBorrowStrategyResult where
  srcParam : SrcMemoryBorrowParam
  borrowSize : BitVec 64
  destParam : List DestMemoryBorrowParam
  deriving DecidableEq, Repr

/-- The size rounded up to blocks, as the code computes it. -/
def alignBorrowSize (gBlockSize : BitVec 32) (borrowSize : BitVec 64) : BitVec 64 :=
  let block : BitVec 64 := gBlockSize.setWidth 64 * 1024
  if validateBorrowSize gBlockSize borrowSize = .ok then
    borrowSize
  else
    (borrowSize + block - 1) / block * block

/-- `MemBorrowStrategy`, with a fresh result; nothing when the process dies in the division. -/
def memBorrowStrategy (env : LedgerEnv) (srcParam : SrcMemoryBorrowParam)
    (borrowSize : BitVec 64) : Option (Except MpResult MemBorrowStrategyResult) :=
  match env.getAllNodes.lookup srcParam.srcNid with
  | none => some (.error .error)
  | some nodeInfo =>
    let gBlockSize := nodeInfo.blockSize
    if gBlockSize = 0 then
      some (.error .error)
    else if validateSrcparam env srcParam ≠ .ok then
      some (.error .error)
    else
      match env.candidates srcParam with
      | .error ret => some (.error ret)
      | .ok candidates =>
        let size := alignBorrowSize gBlockSize borrowSize
        match safeUint64To32 (size / (gBlockSize.setWidth 64 * 1024)) with
        | none => some (.error .error)
        | some needBorrowNum =>
          match processNodes env gBlockSize srcParam.srcNid candidates.nodes
              { needBorrowNum, destParam := [] } with
          | none => none
          | some (.ok, p) =>
            if 0 < p.needBorrowNum then
              some (.error .error)
            else
              some (.ok { srcParam, borrowSize := size, destParam := p.destParam })
          | some (ret, _) => some (.error ret)

end Fragment

end UbsEngine
