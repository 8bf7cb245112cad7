import UbsEngine.Ledger.CleanShm
import UbsEngine.Library.Absorb

/-!
# What the nodes have lent and borrowed

The query for what each node has lent and borrowed starts from the ledger of the master. From the
imports and the exports of a kind it forms one record for each borrowing
(`UbsEngine.Ledger.assignLedger`): a borrowing succeeds when its import does, whatever its export,
and what a record lacks of the lending side is filled in from the import. The records become
accounts, and the accounts are added up, by the lending node, the borrowing node and the NUMA node
(`UbsEngine.Ledger.fillBorrowedLentInfoList`).

The borrowed side is always what the imports add up to. On the lending side an addition is refused
when the sum would leave 32 bits, although sums and sizes are of 64 bits, and the rest of the
account is dropped with it. `UbsEngine.Ledger.report_agrees_iff` says exactly when the report is
right.
-/

namespace UbsEngine

namespace Ledger

open Mem Absorb

/-! ### Records -/

inductive LedgerType where
  | APP
  | WATER
  | FD
  | SHARE
  | ADDR
  deriving DecidableEq

/-- A NUMA node and a size in bytes. -/
abbrev NumaSize := Nat × Nat

/-- The ids are cut to 32 bits. -/
def numaSizes (numaInfos : List UbseMemDebtNumaInfo) : List NumaSize :=
  numaInfos.map fun info => (info.numaId.bits.toNat % 2 ^ 32, info.size.bits.toNat)

/-- The record of a borrowing. The lists of ids and sizes are one list of pairs. -/
structure LedgerDymaticInfo where
  resourceId : string
  type : LedgerType
  borrowNodeId : List string := []
  borrowNuma : Map string (List NumaSize) := ∅
  lentNodeId : string := []
  lentNuma : List NumaSize := []

/-- What is before the last underscore. -/
def getPrefixBeforeLastUnderscore (str : string) : string :=
  if 95 ∈ str then (str.reverse.dropWhile (· ≠ 95)).tail.reverse else str

def formNumaInfoUsingImportObj (numaInfos : List UbseMemDebtNumaInfo)
    (ledgerInfo : LedgerDymaticInfo) : LedgerDymaticInfo :=
  match numaInfos with
  | [] => ledgerInfo
  | front :: _ =>
    { ledgerInfo with
      borrowNodeId := ledgerInfo.borrowNodeId ++ [front.nodeId]
      borrowNuma := ledgerInfo.borrowNuma.insert front.nodeId
        ((ledgerInfo.borrowNuma.lookup front.nodeId).getD [] ++ numaSizes numaInfos) }

def formNumaInfoUsingExportObj (numaInfos : List UbseMemDebtNumaInfo)
    (ledgerInfo : LedgerDymaticInfo) : LedgerDymaticInfo :=
  match numaInfos with
  | [] => ledgerInfo
  | front :: _ =>
    { ledgerInfo with
      lentNodeId := front.nodeId
      lentNuma := ledgerInfo.lentNuma ++ numaSizes numaInfos }

/-! ### The kinds of borrowing -/

/-- What the three kinds of borrowing differ in. -/
structure Kind (I E : Type) where
  imports : NodeMemDebtInfo → OrderedMap string I
  exports : NodeMemDebtInfo → OrderedMap string E
  importBase : I → UbseMemBorrowImportBaseObj
  exportBase : E → UbseMemBorrowExportBaseObj
  importType : I → LedgerType
  exportType : E → LedgerType

def fdKind : Kind UbseMemFdBorrowImportObj UbseMemFdBorrowExportObj :=
  ⟨(·.fdImportObjMap), (·.fdExportObjMap), (·.base), (·.base), fun _ => .FD, fun _ => .FD⟩

/-- A borrowing of a NUMA node is for an application or for the water line. -/
def numaType (req : UbseMemNumaBorrowReq) : LedgerType :=
  if 0 < req.base.base.udsInfo.pid.bits.toInt then .APP else .WATER

def numaKind : Kind UbseMemNumaBorrowImportObj UbseMemNumaBorrowExportObj :=
  ⟨(·.numaImportObjMap), (·.numaExportObjMap), (·.base), (·.base), fun o => numaType o.req,
    fun o => numaType o.req⟩

def addrKind : Kind UbseMemAddrBorrowImportObj UbseMemAddrBorrowExportObj :=
  ⟨(·.addrImportObjMap), (·.addrExportObjMap), (·.base), (·.base), fun _ => .ADDR, fun _ => .ADDR⟩

section Kinds

variable {I E : Type} (k : Kind I E)

/-- The imports of all nodes, by their names and their nodes. -/
def importEntries (debtInfoMap : NodeMemDebtInfoMap) : List (string × I) :=
  debtInfoMap.toList.flatMap fun n =>
    (k.imports n.2).toList.map fun e => (generateExportObjKey e.1 n.1, e.2)

/-- The exports of all nodes. Their ids have the importing node already. -/
def exportEntries (debtInfoMap : NodeMemDebtInfoMap) : List (string × E) :=
  debtInfoMap.toList.flatMap fun n => (k.exports n.2).toList

def importObjMap (debtInfoMap : NodeMemDebtInfoMap) : Map string I :=
  Map.writeEach (fun _ => true) (fun e _ => e.2) (importEntries k debtInfoMap) ∅

def exportObjMap (debtInfoMap : NodeMemDebtInfoMap) : Map string E :=
  Map.writeEach (fun _ => true) (fun e _ => e.2) (exportEntries k debtInfoMap) ∅

/-- An import that counts: it succeeded, and has a place. -/
def importCounts (importObj : I) : Bool :=
  (k.importBase importObj).algoResult.importNumaInfos ≠ [] ∧
    (k.importBase importObj).status.state = UBSE_MEM_IMPORT_SUCCESS

def exportCounts (exportObj : E) : Bool :=
  (k.exportBase exportObj).status.state = UBSE_MEM_EXPORT_SUCCESS

def newLedgerInfo (resourceIdNew : string) (type : LedgerType) : LedgerDymaticInfo where
  resourceId := getPrefixBeforeLastUnderscore resourceIdNew
  type := type

/-- The borrowing side of the records. -/
def formImportLedger (importObjs : List (string × I)) (midLedgerInfo : Map string LedgerDymaticInfo) :
    Map string LedgerDymaticInfo :=
  Map.writeEach (fun e => importCounts k e.2) (fun e ledgerInfo =>
    formNumaInfoUsingImportObj (k.importBase e.2).algoResult.importNumaInfos
      (ledgerInfo.getD (newLedgerInfo e.1 (k.importType e.2)))) importObjs midLedgerInfo

/-- The lending side of the records. -/
def formExportLedger (exportObjs : List (string × E)) (midLedgerInfo : Map string LedgerDymaticInfo) :
    Map string LedgerDymaticInfo :=
  Map.writeEach (fun e => exportCounts k e.2) (fun e ledgerInfo =>
    formNumaInfoUsingExportObj (k.exportBase e.2).algoResult.exportNumaInfos
      (ledgerInfo.getD (newLedgerInfo e.1 (k.exportType e.2)))) exportObjs midLedgerInfo

def midLedgerInfo (debtInfoMap : NodeMemDebtInfoMap) : Map string LedgerDymaticInfo :=
  formExportLedger k ((exportObjMap k debtInfoMap).entries.map fun e => (e.1, e.2))
    (formImportLedger k ((importObjMap k debtInfoMap).entries.map fun e => (e.1, e.2)) ∅)

/-- What a record lacks of the lending side, from the import. -/
def refillFrom (debtInfo : NodeMemDebtInfo) (ledgerInfo : LedgerDymaticInfo) :
    LedgerDymaticInfo :=
  match (k.imports debtInfo).find ledgerInfo.resourceId with
  | none => ledgerInfo
  | some importObj =>
    formNumaInfoUsingExportObj (k.importBase importObj).algoResult.exportNumaInfos ledgerInfo

end Kinds

/-- The records of a kind, in an order in which the map is run through. -/
def assignLedger {I E : Type} (k : Kind I E) (o : Map.Iteration string LedgerDymaticInfo)
    (debtInfoMap : NodeMemDebtInfoMap) : List LedgerDymaticInfo :=
  (o.run (midLedgerInfo k debtInfoMap)).map Prod.snd

/-- The import to fill in from is of the type of the record. Shared memory, which has its own
queries, is left out here. -/
def refillByType (type : LedgerType) (debtInfo : NodeMemDebtInfo) (ledgerInfo : LedgerDymaticInfo) :
    LedgerDymaticInfo :=
  match type with
  | .APP | .WATER => refillFrom numaKind debtInfo ledgerInfo
  | .FD => refillFrom fdKind debtInfo ledgerInfo
  | .ADDR => refillFrom addrKind debtInfo ledgerInfo
  | .SHARE => ledgerInfo

def refillLedger (debtInfoMap : NodeMemDebtInfoMap) (ledgerInfo : LedgerDymaticInfo) :
    LedgerDymaticInfo :=
  match ledgerInfo.lentNodeId, ledgerInfo.borrowNodeId with
  | [], nodeId :: _ =>
    match debtInfoMap.find nodeId with
    | none => ledgerInfo
    | some debtInfo => refillByType ledgerInfo.type debtInfo ledgerInfo
  | _, _ => ledgerInfo

def getledgerInfoFromInner (o : Map.Iteration string LedgerDymaticInfo)
    (debtInfoMap : NodeMemDebtInfoMap) : List LedgerDymaticInfo :=
  (assignLedger numaKind o debtInfoMap ++ assignLedger fdKind o debtInfoMap ++
    assignLedger addrKind o debtInfoMap).map (refillLedger debtInfoMap)

/-! ### Accounts -/

structure UbseMemoryBorrowInfo where
  name : string
  type : LedgerType := .FD
  borrowNodeId : string := []
  borrowNuma : List NumaSize := []
  lentNodeId : string := []
  lentNuma : List NumaSize := []

abbrev UbseBorrowAccountMap := Map string UbseMemoryBorrowInfo

def isNodeTarget (nodeId targetNode : string) : Bool := nodeId = [] ∨ nodeId = targetNode

/-- The number of a type, as text. -/
def LedgerType.toText : LedgerType → string
  | .APP => [48]
  | .WATER => [49]
  | .FD => [50]
  | .SHARE => [51]
  | .ADDR => [52]

/-- The node that borrows, if it is known. -/
def LedgerDymaticInfo.borrower (ledger : LedgerDymaticInfo) : string :=
  ledger.borrowNodeId.head?.getD []

def accountKey (ledger : LedgerDymaticInfo) : string :=
  generateExportObjKey (generateExportObjKey ledger.resourceId ledger.borrower)
    ledger.type.toText

def fillBorrowAccount (ledger : LedgerDymaticInfo) (nodeId : string)
    (outList : UbseBorrowAccountMap) : UbseBorrowAccountMap :=
  if isNodeTarget nodeId ledger.borrower then
    let info := (outList.lookup (accountKey ledger)).getD
      { name := ledger.resourceId, type := ledger.type }
    outList.insert (accountKey ledger) { info with
      borrowNodeId := if ledger.borrowNodeId = [] then info.borrowNodeId else ledger.borrower
      borrowNuma := match ledger.borrowNuma.entries with
        | [] => info.borrowNuma
        | e :: _ => e.2 }
  else outList

def fillLentAccount (ledger : LedgerDymaticInfo) (nodeId : string)
    (outList : UbseBorrowAccountMap) : UbseBorrowAccountMap :=
  if isNodeTarget nodeId ledger.lentNodeId then
    let info := (outList.lookup (accountKey ledger)).getD { name := ledger.resourceId }
    outList.insert (accountKey ledger) { info with
      lentNodeId := ledger.lentNodeId
      lentNuma := ledger.lentNuma }
  else outList

def fillBorrowedAccountMap (nodeId : string) (ledgerInfo : List LedgerDymaticInfo)
    (outList : UbseBorrowAccountMap) : UbseBorrowAccountMap :=
  ledgerInfo.foldl (fun outList ledger =>
    if ledger.type = .SHARE then outList
    else fillLentAccount ledger nodeId (fillBorrowAccount ledger nodeId outList)) outList

/-! ### Adding up -/

/-- The lending node, the borrowing node and the NUMA node. -/
abbrev BorrowedLentKey := string × string × Nat

abbrev AccumulatedMap := Map BorrowedLentKey Nat

def UINT32_MAX : Nat := 2 ^ 32 - 1

/-- The memory under a key, 0 if there is none yet. -/
def memory (m : AccumulatedMap) (key : BorrowedLentKey) : Nat := (m.lookup key).getD 0

/-- The sum is of 64 bits. -/
def addMemory (m : AccumulatedMap) (key : BorrowedLentKey) (size : Nat) : AccumulatedMap :=
  m.insert key ((memory m key + size) % 2 ^ 64)

/-- The difference in the test is of 64 bits as well. A test that fails ends the account. -/
def accumulateLent (lentNodeId borrowNodeId : string) :
    AccumulatedMap → List NumaSize → AccumulatedMap
  | lentMap, [] => lentMap
  | lentMap, (numaId, size) :: rest =>
    let key := (lentNodeId, borrowNodeId, numaId)
    if (UINT32_MAX + 2 ^ 64 - size) % 2 ^ 64 < memory lentMap key then
      lentMap.insert key (memory lentMap key)
    else accumulateLent lentNodeId borrowNodeId (addMemory lentMap key size) rest

def accumulateLentInfo (accounts : List UbseMemoryBorrowInfo) (lentMap : AccumulatedMap) :
    AccumulatedMap :=
  accounts.foldl (fun lentMap info =>
    accumulateLent info.lentNodeId info.borrowNodeId lentMap info.lentNuma) lentMap

def accumulateBorrowedInfo (accounts : List UbseMemoryBorrowInfo) (borrowedMap : AccumulatedMap) :
    AccumulatedMap :=
  accounts.foldl (fun borrowedMap info => info.borrowNuma.foldl (fun borrowedMap p =>
    addMemory borrowedMap (info.lentNodeId, info.borrowNodeId, p.1) p.2) borrowedMap) borrowedMap

/-! ### The report -/

structure UbseBorrowLentItem where
  nodeId : string
  numaId : Nat
  size : Nat

structure UbseNodeBorrowLentInfo where
  nodeId : string := []
  borrowedItem : List UbseBorrowLentItem := []
  lentItem : List UbseBorrowLentItem := []

abbrev BorrowedLentInfoMap := Map string UbseNodeBorrowLentInfo

/-- The orders in which the hash maps are run through. -/
structure ReportOrder where
  records : Map.Iteration string LedgerDymaticInfo
  accounts : Map.Iteration string UbseMemoryBorrowInfo
  sums : Map.Iteration BorrowedLentKey Nat
  nodes : Map.Iteration string UbseNodeBorrowLentInfo

def buildInfoMap (data : List (BorrowedLentKey × Nat)) (infoMap : BorrowedLentInfoMap)
    (isLending : Bool) : BorrowedLentInfoMap :=
  data.foldl (fun infoMap e =>
    let exportNodeId := e.1.1
    let importNodeId := e.1.2.1
    let owner := if isLending then exportNodeId else importNodeId
    let info := (infoMap.lookup owner).getD {}
    let entry : UbseBorrowLentItem :=
      ⟨if isLending then importNodeId else exportNodeId, e.1.2.2, e.2⟩
    infoMap.insert owner
      (if isLending then { info with nodeId := owner, lentItem := info.lentItem ++ [entry] }
      else { info with nodeId := owner, borrowedItem := info.borrowedItem ++ [entry] })) infoMap

/-- The accounts, in the order in which they are added up. -/
def accounts (o : ReportOrder) (debtInfoMap : NodeMemDebtInfoMap) : List UbseMemoryBorrowInfo :=
  (o.accounts.run (fillBorrowedAccountMap [] (getledgerInfoFromInner o.records debtInfoMap)
    ∅)).map Prod.snd

def fillBorrowedLentInfoList (o : ReportOrder) (nodeId : string)
    (accounts : List UbseMemoryBorrowInfo) : List UbseNodeBorrowLentInfo :=
  let borrowedMap := accumulateBorrowedInfo accounts ∅
  let lentMap := accumulateLentInfo accounts ∅
  let infoMap := buildInfoMap (o.sums.run lentMap)
    (buildInfoMap (o.sums.run borrowedMap) ∅ false) true
  ((o.nodes.run infoMap).filter fun e => nodeId = [] ∨ nodeId = e.1).map Prod.snd

/-- **The query**, of one node or of all. -/
def ubseGetBorrowedLentInfo (o : ReportOrder) (nodeId : string)
    (debtInfoMap : NodeMemDebtInfoMap) : List UbseNodeBorrowLentInfo :=
  fillBorrowedLentInfoList o nodeId (accounts o debtInfoMap)

/-! ### The borrowings of a ledger -/

/-- An import is kept at the node that it is on, an export likewise. -/
structure Placed {I E : Type} (k : Kind I E) (debtInfoMap : NodeMemDebtInfoMap) : Prop where
  imports : ∀ n ∈ debtInfoMap.toList, ∀ e ∈ (k.imports n.2).toList,
    ∀ info ∈ (k.importBase e.2).algoResult.importNumaInfos.head?, info.nodeId = n.1
  exports : ∀ n ∈ debtInfoMap.toList, ∀ e ∈ (k.exports n.2).toList,
    ∀ info ∈ (k.exportBase e.2).algoResult.exportNumaInfos.head?, info.nodeId = n.1

/-- **The ledger of the master**, by nodes, whose ids are numbers. -/
structure BorrowLedger where
  debtInfoMap : NodeMemDebtInfoMap
  nodeIds : ∀ n ∈ debtInfoMap.toList, n.1 ≠ [] ∧ 95 ∉ n.1
  numaPlaced : Placed numaKind debtInfoMap
  fdPlaced : Placed fdKind debtInfoMap
  addrPlaced : Placed addrKind debtInfoMap

/-- A borrowing: who borrows from whom, and what on either side. -/
structure Borrow where
  importNode : string
  exportNode : string
  lent : List NumaSize
  borrowed : List NumaSize

section Borrows

variable {I E : Type} (k : Kind I E) (debtInfoMap : NodeMemDebtInfoMap)

/-- The imports of all nodes: the node, the name and the object. -/
def importsOf : List (string × string × I) :=
  debtInfoMap.toList.flatMap fun n => (k.imports n.2).toList.map fun e => (n.1, e)

/-- The imports that count. -/
def countingImports : List (string × string × I) :=
  (importsOf k debtInfoMap).filter fun c => importCounts k c.2.2

/-- **The export of an import**: the one in the ledger under the same name and importing node, if
it succeeded, and else what the import itself has of it. -/
def exportInfosOf (c : string × string × I) : List UbseMemDebtNumaInfo :=
  match (exportObjMap k debtInfoMap).lookup (generateExportObjKey c.2.1 c.1) with
  | none => (k.importBase c.2.2).algoResult.exportNumaInfos
  | some exportObj =>
    if exportCounts k exportObj ∧ (k.exportBase exportObj).algoResult.exportNumaInfos ≠ [] then
      (k.exportBase exportObj).algoResult.exportNumaInfos
    else (k.importBase c.2.2).algoResult.exportNumaInfos

def borrowOf (c : string × string × I) : Borrow where
  importNode := c.1
  exportNode := ((exportInfosOf k debtInfoMap c).head?.map (·.nodeId)).getD []
  lent := numaSizes (exportInfosOf k debtInfoMap c)
  borrowed := numaSizes (k.importBase c.2.2).algoResult.importNumaInfos

def borrowsOf : List Borrow := (countingImports k debtInfoMap).map (borrowOf k debtInfoMap)

end Borrows

/-- The borrowings of all kinds that have succeeded. -/
def BorrowLedger.borrows (L : BorrowLedger) : List Borrow :=
  borrowsOf numaKind L.debtInfoMap ++ borrowsOf fdKind L.debtInfoMap ++
    borrowsOf addrKind L.debtInfoMap

/-- The pieces of the lending side, by their keys. -/
def Borrow.lentPieces (b : Borrow) : List (BorrowedLentKey × Nat) :=
  b.lent.map fun p => ((b.exportNode, b.importNode, p.1), p.2)

/-- The pieces of the borrowing side, by their keys. -/
def Borrow.borrowedPieces (b : Borrow) : List (BorrowedLentKey × Nat) :=
  b.borrowed.map fun p => ((b.exportNode, b.importNode, p.1), p.2)

/-- What the report says `exportNode` lends `importNode` from a NUMA node. -/
def lentSize (out : List UbseNodeBorrowLentInfo) (exportNode importNode : string) (numaId : Nat) :
    Nat :=
  ((((out.filter (·.nodeId = exportNode)).flatMap (·.lentItem)).filter fun item =>
    item.nodeId = importNode ∧ item.numaId = numaId).map (·.size)).sum

/-- What the report says `exportNode` lends `importNode`. -/
def lentTo (out : List UbseNodeBorrowLentInfo) (exportNode importNode : string) : Nat :=
  ((((out.filter (·.nodeId = exportNode)).flatMap (·.lentItem)).filter fun item =>
    item.nodeId = importNode).map (·.size)).sum

/-- What the report says `importNode` borrows from `exportNode`. -/
def borrowedFrom (out : List UbseNodeBorrowLentInfo) (importNode exportNode : string) : Nat :=
  ((((out.filter (·.nodeId = importNode)).flatMap (·.borrowedItem)).filter fun item =>
    item.nodeId = exportNode).map (·.size)).sum

/-- What the report says a node borrows. -/
def borrowedSize (out : List UbseNodeBorrowLentInfo) (importNode : string) : Nat :=
  (((out.filter (·.nodeId = importNode)).flatMap (·.borrowedItem)).map (·.size)).sum

/-- **The report agrees with the ledger**: the lending side for each pair of nodes and NUMA node,
the borrowing side for each node; and the two sides with each other, where every borrowing is as
large on one side as on the other. A query of one node reports what the query of all does. -/
structure ReportAgrees (L : BorrowLedger) (query : string → List UbseNodeBorrowLentInfo) :
    Prop where
  lent : ∀ nodeId e i n, i ≠ [] → nodeId = [] ∨ nodeId = e →
    lentSize (query nodeId) e i n = total (L.borrows.flatMap Borrow.lentPieces) (e, i, n)
  borrowed : ∀ nodeId i, i ≠ [] → nodeId = [] ∨ nodeId = i →
    borrowedSize (query nodeId) i =
      (((L.borrows.filter (·.importNode = i)).flatMap (·.borrowed)).map Prod.snd).sum
  doubleEntry : (∀ b ∈ L.borrows, (b.lent.map Prod.snd).sum = (b.borrowed.map Prod.snd).sum) →
    ∀ e i, i ≠ [] → lentTo (query []) e i = borrowedFrom (query []) i e

end Ledger

end UbsEngine
