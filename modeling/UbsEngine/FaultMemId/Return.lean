import UbsEngine.Library.Assoc
import UbsEngine.Library.Keyed
import UbsEngine.Library.Run
import Mathlib.Data.BitVec
import Mathlib.Logic.Function.Basic

/-!
# Returning what a faulty node lends

When a node that lends memory fails, the remote NUMA nodes that its memory appears as are marked at
their borrowers, and its debts are returned one by one. Where no virtual machine uses the remote
NUMA node, the memory is freed at once; otherwise memory is borrowed in its place and the machines
move there first. On both ways the borrower is told how much memory its NUMA node still has on the
remote one, and the mark is removed at the end.

What a borrower does on a request and what it answers are two things here, since the answer may be
lost. Numbers of NUMA nodes are far below 2¹⁵, so that the conversions among their types change
nothing but -1.
-/

namespace UbsEngine

namespace FaultMemId

namespace Return

/-! ### Data -/

inductive MpResult
  | ok
  | error
  deriving DecidableEq

/-- `MEM_POOLING_ERROR`, where it is returned as a number. -/
def MEM_POOLING_ERROR : BitVec 64 := 99

def KB_TO_BYTES : BitVec 64 := 1024

def KB2MB : Nat := 10

inductive NumaBindType
  | BIND_SINGLE
  | BIND_MULTIPLE
  deriving DecidableEq

/-- `uint16_t` of a number of 16 bits with a sign. -/
def toUInt16 (n : Int) : Int := n % 65536

structure UbseNumaMemoryDebtInfo where
  name : String
  borrowNodeId : String
  borrowSocketIdList : List Int
  /-- The local NUMA node that the memory is for, -1 if it is for all of them. -/
  usrInfo : Int
  borrowMemId : List Nat
  lentNodeId : String
  lentSocketIdList : List Int
  /-- In bytes. -/
  size : BitVec 64
  remoteNumaId : Int
  deriving DecidableEq

/-- A borrower knows its debts by their names. -/
def UbseNumaMemoryDebtInfo.key (debt : UbseNumaMemoryDebtInfo) : String × String :=
  (debt.name, debt.borrowNodeId)

structure BorrowRecord where
  name : String
  /-- In KB. -/
  size : BitVec 64
  lentNode : String
  borrowNode : String
  borrowLocalNuma : Int
  borrowRemoteNuma : Int
  borrowMemId : List Nat

def UbseNumaMemoryDebtInfo.record (debt : UbseNumaMemoryDebtInfo) : BorrowRecord where
  name := debt.name
  size := debt.size / KB_TO_BYTES
  lentNode := debt.lentNodeId
  borrowNode := debt.borrowNodeId
  borrowLocalNuma := debt.usrInfo
  borrowRemoteNuma := debt.remoteNumaId
  borrowMemId := debt.borrowMemId

abbrev Ledger := Keyed UbseNumaMemoryDebtInfo.key

/-- A node, one of its NUMA nodes, and a remote one. -/
abbrev SizeKey := String × Int × Int

structure State where
  ledger : Ledger
  /-- The NUMA nodes of each node that are marked as faulty. -/
  faultNumaMap : String → List Int
  /-- The NUMA node that has come in the place of a debt. -/
  faultBidBorrowedMap : Map String Int
  /-- The sizes that the nodes have registered, in MB. -/
  sizes : SizeKey → BitVec 64

/-- What a request does at the borrower, and what its sender takes from the answer. -/
structure Answer where
  done : Bool
  ok : Bool
  deriving DecidableEq

structure VmNumaInfoWithSocket where
  localNumaId : Nat
  remoteUsedMem : Nat

/-- The answer to the request to move the machines: what the borrower borrows in addition, the size
that it registers for the new NUMA node, and the result. -/
structure MemIdExecution where
  adjusted : List UbseNumaMemoryDebtInfo := []
  registered : Option (BitVec 64) := none
  ok : Bool := true

/-- A call of `MemIdFaultManage`, with what it meets. -/
structure Call where
  borrowInNid : String
  memId : Nat
  /-- Whether the ledger answers, query by query. -/
  ledger : Nat → Bool := fun _ => true
  bindType : Option NumaBindType := some .BIND_SINGLE
  vmNumaInfo : Option (List VmNumaInfoWithSocket)
  selectPids : Option (List Nat) := some []
  disable : Bool := true
  /-- What is borrowed in the place of the debt, and the NUMA node that it appears as. -/
  borrowed : List UbseNumaMemoryDebtInfo := []
  presentNumaId : Option Int := none
  execution : MemIdExecution := {}
  setSmap : Answer := ⟨true, true⟩
  free : Answer := ⟨true, true⟩
  rollBack : Answer := ⟨true, true⟩
  /-- A size less the share of the page cache, computed with floating numbers. -/
  scaled : BitVec 64 → BitVec 64 := id
  /-- A size and the scaled size of a debt. -/
  restored : BitVec 64 → BitVec 64 → BitVec 64 := fun size faultMemSize => size + faultMemSize

/-! ### The ledger -/

def concerns (nodeId : String) (debt : UbseNumaMemoryDebtInfo) : Bool :=
  debt.borrowNodeId = nodeId || debt.lentNodeId = nodeId

def UbseGetNumaMemDebtInfoWithNode (ledger : Ledger) (nodeId : String) :
    List UbseNumaMemoryDebtInfo :=
  ledger.entries.filter (concerns nodeId)

def collectBorrowRecordsWithFault (answered : Bool) (ledger : Ledger) (nodeId : String) :
    Option (List BorrowRecord) :=
  let debtInfos := UbseGetNumaMemDebtInfoWithNode ledger nodeId
  if !answered then none
  else if debtInfos.any fun debt => debt.lentSocketIdList.isEmpty || debt.borrowSocketIdList.isEmpty
  then none
  else some (debtInfos.map (·.record))

/-- A record counts for what a NUMA node has on a remote one. -/
def counts (localNumaId remoteNumaId : Int) (bindType : NumaBindType) (record : BorrowRecord) :
    Bool :=
  match bindType with
  | .BIND_SINGLE => record.borrowLocalNuma = localNumaId && record.borrowRemoteNuma = remoteNumaId
  | .BIND_MULTIPLE => record.borrowRemoteNuma = remoteNumaId

def getLocalNumaOnRemoteNumaBorrowSize (answered : Bool) (ledger : Ledger) (localNodeId : String)
    (localNumaId remoteNumaId : Int) (bindType : NumaBindType) : BitVec 64 :=
  match collectBorrowRecordsWithFault answered ledger localNodeId with
  | none => MEM_POOLING_ERROR
  | some borrowRecords =>
    ((borrowRecords.filter (counts localNumaId remoteNumaId bindType)).map (·.size)).sum

/-- The last record with the memory id decides. -/
def getLocalBorrowNumaIdOfMemId (borrowRecords : List BorrowRecord) (memId : Nat) : Int :=
  borrowRecords.foldl
    (fun localNumaId record => if memId ∈ record.borrowMemId then record.borrowLocalNuma
      else localNumaId) 0

/-- The first record with the memory id is meant. -/
def isBorrowIdOfCurNidOverCommit (borrowRecords : List BorrowRecord) (memId : Nat) :
    Option BorrowRecord :=
  borrowRecords.find? fun record => memId ∈ record.borrowMemId

/-! ### Marks and sizes -/

namespace State

variable (s : State)

def addFaultNuma (nodeId : String) (numaId : Int) : State :=
  if numaId ∈ s.faultNumaMap nodeId then s
  else
    { s with
      faultNumaMap :=
        Function.update s.faultNumaMap nodeId (s.faultNumaMap nodeId ++ [numaId]) }

def removeFaultNuma (nodeId : String) (numaId : Int) : State :=
  { s with
    faultNumaMap :=
      Function.update s.faultNumaMap nodeId ((s.faultNumaMap nodeId).filter (· ≠ numaId)) }

/-- The borrower registers a size given in KB. -/
def setSmapRemoteNumaInfo (answer : Answer) (key : SizeKey) (borrowSize : BitVec 64) : State :=
  if answer.done then { s with sizes := Function.update s.sizes key (borrowSize >>> KB2MB) } else s

def memFree (answer : Answer) (name nodeId : String) : State :=
  if answer.done then { s with ledger := s.ledger.remove (name, nodeId) } else s

/-! ### The two ways -/

variable (c : Call)

/-- Nothing uses the remote NUMA node. That the size is not registered does not stop the return. -/
def memFreeDirectlyExecuteRpc (srcNumaId preRemoteNumaId : Int) (borrowId : String) :
    State × MpResult :=
  let s₁ := s.setSmapRemoteNumaInfo c.setSmap (c.borrowInNid, srcNumaId, preRemoteNumaId) 0
  let s₂ := s₁.memFree c.free borrowId c.borrowInNid
  if !c.free.ok then (s₂, .error)
  else (s₂.removeFaultNuma c.borrowInNid preRemoteNumaId, .ok)

def setAndDeleteResource (borrowId : String) (srcNumaId : Int) (bindType : NumaBindType)
    (preRemoteNumaId : Int) (remoteNumaSize faultMemSize : BitVec 64) : State × MpResult :=
  let srcNumaId := if bindType = .BIND_MULTIPLE then -1 else srcNumaId
  let key := (c.borrowInNid, srcNumaId, preRemoteNumaId)
  let borrowSize := c.scaled (remoteNumaSize - faultMemSize)
  let s₁ := s.setSmapRemoteNumaInfo c.setSmap key borrowSize
  if !c.setSmap.ok then (s₁, .error)
  else
    let s₂ := s₁.memFree c.free borrowId c.borrowInNid
    if !c.free.ok then
      (s₂.setSmapRemoteNumaInfo c.rollBack key (c.restored borrowSize faultMemSize), .error)
    else if borrowSize = 0 then (s₂.removeFaultNuma c.borrowInNid preRemoteNumaId, .ok)
    else (s₂, .ok)

/-! ### A return -/

/-- The machines with memory on the remote NUMA node. There are none if nobody uses it. -/
def allVmNumaInfoOnBoth (bindType : NumaBindType) (srcNumaId : Int)
    (infos : List VmNumaInfoWithSocket) : List VmNumaInfoWithSocket :=
  if !infos.any fun info => 0 < info.remoteUsedMem then []
  else
    match bindType with
    | .BIND_SINGLE => infos.filter fun info => (info.localNumaId : Int) = toUInt16 srcNumaId
    | .BIND_MULTIPLE => infos

/-- The memory that comes in the place of a debt, borrowed now or in an earlier call. -/
def memBorrow (borrowId : String) : State × Option Int :=
  match s.faultBidBorrowedMap.lookup borrowId with
  | some remoteNumaId => (s, some remoteNumaId)
  | none =>
    let s₁ := { s with ledger := s.ledger.addAll c.borrowed }
    match c.presentNumaId with
    | none => (s₁, none)
    | some remoteNumaId =>
      ({ s₁ with faultBidBorrowedMap := s₁.faultBidBorrowedMap.insert borrowId remoteNumaId },
        some remoteNumaId)

/-- The borrower moves the machines, and registers the size of the new NUMA node. -/
def memIdExecute (srcNumaId preRemoteNumaId remoteNumaId : Int) : State :=
  let s₁ := { s with ledger := s.ledger.addAll c.execution.adjusted }
  match c.execution.registered with
  | none => s₁
  | some size =>
    if remoteNumaId ≠ preRemoteNumaId then
      { s₁ with sizes := Function.update s₁.sizes (c.borrowInNid, srcNumaId, remoteNumaId) size }
    else s₁

/-- What a call comes to before anything is returned. -/
inductive Course
  /-- It ends without a return. -/
  | stop (s : State)
  /-- The debt can be returned at once. -/
  | direct (record : BorrowRecord) (srcNumaId : Int)
  /-- The machines have moved; the size is what was found on the remote NUMA node. -/
  | moved (s : State) (record : BorrowRecord) (bindType : NumaBindType) (srcNumaId : Int)
    (preRemoteSize : BitVec 64)

/-- Memory is borrowed for the debt, and the machines move there. -/
def moveAway (record : BorrowRecord) (bindType : NumaBindType) (srcNumaId : Int) : Course :=
  match s.memBorrow c record.name with
  | (s₁, none) => .stop s₁
  | (s₁, some remoteNumaId) =>
    let size (n : Nat) (ledger : Ledger) (numaId : Int) :=
      getLocalNumaOnRemoteNumaBorrowSize (c.ledger n) ledger c.borrowInNid (toUInt16 srcNumaId)
        numaId bindType
    if size 2 s₁.ledger remoteNumaId = 0 then .stop s₁
    else
      let preRemoteNumaId := toUInt16 record.borrowRemoteNuma
      let s₂ := s₁.memIdExecute c srcNumaId preRemoteNumaId remoteNumaId
      if !c.execution.ok then .stop s₂
      else
        let preRemoteSize := size 3 s₂.ledger preRemoteNumaId
        if preRemoteSize = 0 then .stop s₂
        else .moved s₂ record bindType srcNumaId preRemoteSize

/-- The local NUMA node of a memory id, which is cut to 16 bits on the way. -/
def srcNumaId (bindType : NumaBindType) : Option Int :=
  match bindType with
  | .BIND_MULTIPLE => some (-1)
  | .BIND_SINGLE =>
    (collectBorrowRecordsWithFault (c.ledger 1) s.ledger c.borrowInNid).map fun records =>
      getLocalBorrowNumaIdOfMemId records (c.memId % 65536)

/-- The record that the call is about. -/
def record : Option BorrowRecord :=
  (collectBorrowRecordsWithFault (c.ledger 0) s.ledger c.borrowInNid).bind
    fun records => isBorrowIdOfCurNidOverCommit records c.memId

def course : Course :=
  match s.record c with
  | none => .stop s
  | some record =>
    match c.bindType with
    | none => .stop s
    | some bindType =>
      match s.srcNumaId c bindType, c.vmNumaInfo with
      | some srcNumaId, some infos =>
        if (allVmNumaInfoOnBoth bindType srcNumaId infos).isEmpty then .direct record srcNumaId
        else
          match c.selectPids with
          | none => .stop s
          | some pids =>
            if !pids.isEmpty && !c.disable then .stop s
            else s.moveAway c record bindType srcNumaId
      | _, _ => .stop s

/-- **A return**: `MemIdFaultManage`. -/
def memIdFaultManage : State × MpResult :=
  match s.course c with
  | .stop s₁ => (s₁, .error)
  | .direct record srcNumaId =>
    s.memFreeDirectlyExecuteRpc c srcNumaId (toUInt16 record.borrowRemoteNuma) record.name
  | .moved s₁ record bindType srcNumaId preRemoteSize =>
    s₁.setAndDeleteResource c record.name srcNumaId bindType (toUInt16 record.borrowRemoteNuma)
      preRemoteSize record.size

/-! ### All debts of a node -/

/-- The remote NUMA nodes of the debts are marked. -/
def addFaultNumas (debtInfos : List UbseNumaMemoryDebtInfo) : State :=
  debtInfos.foldl (fun s debt =>
    if debt.remoteNumaId ≤ 0 then s else s.addFaultNuma debt.borrowNodeId debt.remoteNumaId) s

/-- The calls for the debts that the node lends. A debt without memory ids ends them. -/
def returnDebts (nodeId : String) (meets : UbseNumaMemoryDebtInfo → Nat → Call) :
    List UbseNumaMemoryDebtInfo → State × MpResult → State × MpResult
  | [], reply => reply
  | debt :: debtInfos, (s, result) =>
    if debt.lentNodeId ≠ nodeId then returnDebts nodeId meets debtInfos (s, result)
    else
      match debt.borrowMemId with
      | [] => (s, .ok)
      | memId :: _ =>
        let (s₁, ret) := s.memIdFaultManage
          { meets debt memId with borrowInNid := debt.borrowNodeId, memId := memId }
        returnDebts nodeId meets debtInfos (s₁, if ret = .ok then result else .error)

/-- `ProcessBorrowOutNodeFaultByMemId`. -/
def processBorrowOutNodeFaultByMemId (answered : Bool)
    (meets : UbseNumaMemoryDebtInfo → Nat → Call) (nodeId : String) : State × MpResult :=
  if !answered then (s, .error)
  else
    let debtInfos := UbseGetNumaMemDebtInfoWithNode s.ledger nodeId
    returnDebts nodeId meets debtInfos (s.addFaultNumas debtInfos, .ok)

end State

end Return

end FaultMemId

end UbsEngine
