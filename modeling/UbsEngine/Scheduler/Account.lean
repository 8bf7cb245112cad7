import UbsEngine.Scheduler.NodeManager

/-!
# The accounts of the scheduler

An account says where the memory of one borrow comes from and where it goes, and which of
its two sides is there at present: the state of the account
(`UbsEngine.Scheduler.AccountState`). What an account is charged to the counters of the
nodes follows its state: the borrowed bytes while the import side is there, the lent or
shared bytes and the exported blocks while the export side is there.

The accounts are driven by the states that the borrow objects go through
(`UbsEngine.Scheduler.SchedulerAccountManager.updateSchedulerAccount`). A state for which the
account has no transition is ignored.
-/

namespace UbsEngine

namespace Scheduler

/-- `UbseMemState`: the state of a borrow object. -/
inductive UbseMemState
  | init
  | succeeded
  | failed
  | destroying
  | scheduling
  | exportRunning
  | exportSuccess
  | exportDestroying
  | exportDestroyed
  | exportDestroyingWait
  | importRunning
  | importSuccess
  | importDestroying
  | importDestroyingWait
  | importDestroyed
  | importAbnormal
  deriving DecidableEq

/-- A 32-bit id kept in a signed field of the same width. -/
def asInt32 (id : UInt32) : Int := id.toBitVec.toInt

/-- `UbseMemDebtNumaInfo`: some bytes of a numa. -/
structure UbseMemDebtNumaInfo where
  nodeId : NodeId
  socketId : Int := -1
  numaId : Int := -1
  size : Nat := 0
  deriving DecidableEq

namespace UbseMemDebtNumaInfo

/-- The socket id, cast to the type of the cache. -/
def socket (info : UbseMemDebtNumaInfo) : SocketId := UInt32.ofInt info.socketId

/-- The numa id, cast to the type of the cache. -/
def numa (info : UbseMemDebtNumaInfo) : NumaId := UInt32.ofInt info.numaId

end UbseMemDebtNumaInfo

theorem uint32_ofInt (i : Int) : UInt32.ofInt i = ⟨BitVec.ofInt 32 i⟩ := by
  apply UInt32.toBitVec_inj.1
  apply BitVec.eq_of_toNat_eq
  simp only [UInt32.ofInt, UInt32.toNat_toBitVec, UInt32.toNat_ofNat', BitVec.toNat_ofInt]
  omega

@[simp] theorem ofInt_asInt32 (id : UInt32) : UInt32.ofInt (asInt32 id) = id := by
  rw [uint32_ofInt, asInt32, BitVec.ofInt_toInt]

@[simp] theorem ofInt_toNat (id : UInt32) : UInt32.ofInt (id.toNat : Int) = id := by
  rw [uint32_ofInt]
  apply UInt32.toBitVec_inj.1
  simp

/-- `UbseMemAlgoResult`: where a request was placed. -/
structure UbseMemAlgoResult where
  exportNumaInfos : List UbseMemDebtNumaInfo := []
  importNumaInfos : List UbseMemDebtNumaInfo := []
  /-- The block of the exporter, in MB. -/
  blockSize : UInt32 := 128
  /-- The socket through which the memory is used. -/
  attachSocketId : SocketId := 0
  deriving DecidableEq

/-- `BorrowedType`. -/
inductive BorrowedType
  | fd
  | numa
  | addr
  | shm
  deriving DecidableEq

/-- `AccountState`: which sides of the account are there. -/
inductive AccountState
  | importExportExist
  | onlyExportExist
  | onlyImportExist
  | bothNotExist
  deriving DecidableEq

namespace AccountState

/-- The export side is there. -/
def HasExport : AccountState → Prop
  | .importExportExist | .onlyExportExist => True
  | .onlyImportExist | .bothNotExist => False

/-- The import side is there. -/
def HasImport : AccountState → Prop
  | .importExportExist | .onlyImportExist => True
  | .onlyExportExist | .bothNotExist => False

instance : DecidablePred HasExport := fun s => by
  cases s <;> unfold HasExport <;> infer_instance

instance : DecidablePred HasImport := fun s => by
  cases s <;> unfold HasImport <;> infer_instance

end AccountState

/-- `SchedulerAccountID`. -/
structure SchedulerAccountID where
  requestName : String
  nodeId : NodeId
  type : BorrowedType
  deriving DecidableEq

/-- `SchedulerAccountInfo`. The last three fields are what its constructor checks. -/
structure SchedulerAccountInfo where
  importNumaLocs : List UbseMemDebtNumaInfo
  exportNumaLocs : List UbseMemDebtNumaInfo
  blockSize : UInt32
  type : BorrowedType
  state : AccountState := .bothNotExist
  blockSize_ne : blockSize ≠ 0
  exportNumaLocs_ne : exportNumaLocs ≠ []
  importNumaLocs_ne : type ≠ .shm → importNumaLocs ≠ []

namespace SchedulerAccountInfo

/-- The constructor of `SchedulerAccountInfo`, `none` where it throws. -/
def create (importNumaLocs exportNumaLocs : List UbseMemDebtNumaInfo) (type : BorrowedType)
    (blockSize : UInt32) : Option SchedulerAccountInfo :=
  if h : blockSize ≠ 0 ∧ exportNumaLocs ≠ [] ∧ (type ≠ .shm → importNumaLocs ≠ []) then
    some { importNumaLocs, exportNumaLocs, blockSize, type,
           blockSize_ne := h.1, exportNumaLocs_ne := h.2.1, importNumaLocs_ne := h.2.2 }
  else none

variable (account : SchedulerAccountInfo)

/-- `GetExportNodeId`. -/
def getExportNodeId : NodeId := (account.exportNumaLocs.head account.exportNumaLocs_ne).nodeId

/-- `GetImportNodeId`. -/
def getImportNodeId : NodeId := (account.importNumaLocs.head?.map (·.nodeId)).getD ""

/-- How many blocks some bytes take: `(size + ONE_M * blockSize - 1) / (ONE_M * blockSize)`, in
64 bits. -/
def blocks (size : Nat) : Nat :=
  (size + oneM * account.blockSize.toNat - 1) % 2 ^ 64 / (oneM * account.blockSize.toNat)

/-- The charge of one import location: it goes to the first numa of its socket, whatever numa
it names. -/
def chargeImport (f : Nat → SchedulerNumaInfo → SchedulerNumaInfo) (mgr : SchedulerNodeManager)
    (info : UbseMemDebtNumaInfo) : SchedulerNodeManager :=
  match (mgr.getNodeInfo info.nodeId).bind fun node => node.firstNuma info.socket with
  | none => mgr
  | some first => mgr.modifyNuma info.nodeId first (f info.size)

/-- The charge of the import side. -/
def chargeImports (f : Nat → SchedulerNumaInfo → SchedulerNumaInfo) (mgr : SchedulerNodeManager) :
    SchedulerNodeManager :=
  account.importNumaLocs.foldl (chargeImport f) mgr

/-- The charge of one export location: it goes to its numa and to its socket, whichever are
known. -/
def chargeExport (f : Nat → SchedulerNumaInfo → SchedulerNumaInfo)
    (g : Nat → SchedulerSocketInfo → SchedulerSocketInfo) (mgr : SchedulerNodeManager)
    (info : UbseMemDebtNumaInfo) : SchedulerNodeManager :=
  (mgr.modifyNuma info.nodeId info.numa (f info.size)).modifySocket info.nodeId info.socket
    (g (account.blocks info.size))

/-- The charge of the export side. -/
def chargeExports (f : Nat → SchedulerNumaInfo → SchedulerNumaInfo)
    (g : Nat → SchedulerSocketInfo → SchedulerSocketInfo) (mgr : SchedulerNodeManager) :
    SchedulerNodeManager :=
  account.exportNumaLocs.foldl (account.chargeExport f g) mgr

/-- `AddNumaBorrow`. -/
def addNumaBorrow : SchedulerNodeManager → SchedulerNodeManager :=
  account.chargeImports fun x numa => numa.addNumaBorrowSize x

/-- `SubNumaBorrow`. -/
def subNumaBorrow : SchedulerNodeManager → SchedulerNodeManager :=
  account.chargeImports fun x numa => numa.subNumaBorrowSize x

/-- `AddNumaLend`. -/
def addNumaLend : SchedulerNodeManager → SchedulerNodeManager :=
  account.chargeExports (fun x numa => numa.addNumaLentSize x)
    fun x socket => socket.addLentCount x

/-- `SubNumaLend`. -/
def subNumaLend : SchedulerNodeManager → SchedulerNodeManager :=
  account.chargeExports (fun x numa => numa.subNumaLentSize x)
    fun x socket => socket.subLentCount x

/-- `AddNumaShare`. -/
def addNumaShare : SchedulerNodeManager → SchedulerNodeManager :=
  account.chargeExports (fun x numa => numa.addNumaShareSize x)
    fun x socket => socket.addLentCount x

/-- `SubNumaShare`. -/
def subNumaShare : SchedulerNodeManager → SchedulerNodeManager :=
  account.chargeExports (fun x numa => numa.subNumaShareSize x)
    fun x socket => socket.subLentCount x

/-- What the code writes as `type_ == SHM ? void() : AddNumaBorrow(node)`. -/
def addImport (mgr : SchedulerNodeManager) : SchedulerNodeManager :=
  if account.type = .shm then mgr else account.addNumaBorrow mgr

/-- What the code writes as `type_ == SHM ? void() : SubNumaBorrow(node)`. -/
def subImport (mgr : SchedulerNodeManager) : SchedulerNodeManager :=
  if account.type = .shm then mgr else account.subNumaBorrow mgr

/-- What the code writes as `type_ == SHM ? AddNumaShare(node) : AddNumaLend(node)`. -/
def addExport (mgr : SchedulerNodeManager) : SchedulerNodeManager :=
  if account.type = .shm then account.addNumaShare mgr else account.addNumaLend mgr

/-- What the code writes as `type_ == SHM ? SubNumaShare(node) : SubNumaLend(node)`. -/
def subExport (mgr : SchedulerNodeManager) : SchedulerNodeManager :=
  if account.type = .shm then account.subNumaShare mgr else account.subNumaLend mgr

/-- `UpdateByBothNotExist`. -/
def updateByBothNotExist (mgr : SchedulerNodeManager) :
    UbseMemState → AccountState × SchedulerNodeManager
  | .scheduling =>
    (if account.type = .shm then .onlyExportExist else .importExportExist,
      account.addExport (account.addImport mgr))
  | .importSuccess => (.onlyImportExist, account.addImport mgr)
  | .exportSuccess => (.onlyExportExist, account.addExport mgr)
  | _ => (account.state, mgr)

/-- `UpdateStateByOnlyExportExist`. -/
def updateStateByOnlyExportExist (mgr : SchedulerNodeManager) :
    UbseMemState → AccountState × SchedulerNodeManager
  | .failed => (.bothNotExist, account.subExport mgr)
  | .importSuccess => (.importExportExist, account.addImport mgr)
  | .exportDestroyed => (.bothNotExist, account.subExport mgr)
  | _ => (account.state, mgr)

/-- `UpdateStateByOnlyImportExist`. -/
def updateStateByOnlyImportExist (mgr : SchedulerNodeManager) :
    UbseMemState → AccountState × SchedulerNodeManager
  | .failed => (.bothNotExist, account.subImport mgr)
  | .exportSuccess => (.importExportExist, account.addExport mgr)
  | .importDestroyed => (.bothNotExist, account.subImport mgr)
  | _ => (account.state, mgr)

/-- `UpdateStateByBothExist`. -/
def updateStateByBothExist (mgr : SchedulerNodeManager) :
    UbseMemState → AccountState × SchedulerNodeManager
  | .failed => (.bothNotExist, account.subExport (account.subImport mgr))
  | .exportDestroyed => (.onlyImportExist, account.subExport mgr)
  | .importDestroyed => (.onlyExportExist, account.subImport mgr)
  | _ => (account.state, mgr)

/-- `UpdateAccountState`: the new state of the account and the counters after it. -/
def updateAccountState (mgr : SchedulerNodeManager) (state : UbseMemState) :
    AccountState × SchedulerNodeManager :=
  match account.state with
  | .importExportExist => account.updateStateByBothExist mgr state
  | .onlyExportExist => account.updateStateByOnlyExportExist mgr state
  | .onlyImportExist => account.updateStateByOnlyImportExist mgr state
  | .bothNotExist => account.updateByBothNotExist mgr state

end SchedulerAccountInfo

/-- `SchedulerAccountManager`. -/
structure SchedulerAccountManager where
  borrowAccount : Map SchedulerAccountID SchedulerAccountInfo := ∅
  shareAccount : Map SchedulerAccountID SchedulerAccountInfo := ∅

namespace SchedulerAccountManager

variable (accounts : SchedulerAccountManager)

/-- The table for accounts of a type. -/
def table (type : BorrowedType) : Map SchedulerAccountID SchedulerAccountInfo :=
  if type = .shm then accounts.shareAccount else accounts.borrowAccount

/-- The tables with the one for a type replaced. -/
def setTable (type : BorrowedType) (table : Map SchedulerAccountID SchedulerAccountInfo) :
    SchedulerAccountManager :=
  if type = .shm then { accounts with shareAccount := table }
  else { accounts with borrowAccount := table }

/-- The node an account is filed under: the importer, or the exporter when nothing is
imported. -/
def accountNodeId (algoResult : UbseMemAlgoResult) : NodeId :=
  match algoResult.importNumaInfos, algoResult.exportNumaInfos with
  | info :: _, _ => info.nodeId
  | [], info :: _ => info.nodeId
  | [], [] => ""

/-- What an account is filed under. -/
def accountId (name : String) (algoResult : UbseMemAlgoResult) (type : BorrowedType) :
    SchedulerAccountID where
  requestName := name
  nodeId := accountNodeId algoResult
  type := type

/-- `UpdateSchedulerAccount`: the account of the object, made if it is new, goes through the
object's state; an account with neither side is erased. -/
def updateSchedulerAccount (mgr : SchedulerNodeManager) (name : String)
    (algoResult : UbseMemAlgoResult) (state : UbseMemState) (type : BorrowedType) :
    (SchedulerAccountManager × SchedulerNodeManager) × UbseResult :=
  if algoResult.exportNumaInfos = [] then ((accounts, mgr), .error .inval)
  else if algoResult.importNumaInfos = [] ∧ type ≠ .shm then ((accounts, mgr), .error .inval)
  else
    let id := accountId name algoResult type
    let account? := ((accounts.table type).lookup id).or <|
      SchedulerAccountInfo.create algoResult.importNumaInfos algoResult.exportNumaInfos type
        algoResult.blockSize
    match account? with
    | none => ((accounts, mgr), .error .inval)
    | some account =>
      let (state, mgr) := account.updateAccountState mgr state
      let table :=
        if state = .bothNotExist then (accounts.table type).erase id
        else (accounts.table type).insert id { account with state }
      ((accounts.setTable type table, mgr), .ok ())

/-! ### What the filters and the placement ask -/

/-- The borrow accounts. -/
def borrows : List (SchedulerAccountID × SchedulerAccountInfo) :=
  accounts.borrowAccount.entries.map fun e => (e.1, e.2)

/-- `HasBorrowedFrom`. -/
def hasBorrowedFrom (importNodeId exportNodeId : NodeId) : Bool :=
  accounts.borrows.any fun e =>
    e.2.getImportNodeId = importNodeId && e.2.getExportNodeId = exportNodeId

/-- `CountDistinctLenders`. -/
def countDistinctLenders (importNodeId : NodeId) : Nat :=
  ((accounts.borrows.filter fun e =>
    e.2.state.HasImport ∧ e.2.getImportNodeId = importNodeId).map
      (·.2.getExportNodeId)).dedup.length

/-- `CountDistinctBorrowers`. -/
def countDistinctBorrowers (exportNodeId : NodeId) : Nat :=
  ((accounts.borrows.filter fun e =>
    e.2.state.HasExport ∧ e.2.getExportNodeId = exportNodeId).map
      (·.2.getImportNodeId)).dedup.length

/-- Whether an account exports from a numa of a socket. -/
def exportsFrom (account : SchedulerAccountInfo) (exportNodeId : NodeId) (socketId : SocketId)
    (numaId : NumaId) : Bool :=
  account.exportNumaLocs.any fun info =>
    info.nodeId = exportNodeId && info.socket = socketId && info.numa = numaId

/-- The borrowers of a numa of a socket: `borrowerCount` of `GetNumaBorrowInfo`. -/
def borrowerCount (exportNodeId : NodeId) (socketId : SocketId) (numaId : NumaId) : Nat :=
  ((accounts.borrows.filter fun e => exportsFrom e.2 exportNodeId socketId numaId).map
    (·.1.nodeId)).dedup.length

/-- Whether a node borrows from a numa of a socket: `borrowedByRequestor` of
`GetNumaBorrowInfo`. -/
def borrowedByRequestor (exportNodeId : NodeId) (socketId : SocketId) (importNodeId : NodeId)
    (numaId : NumaId) : Bool :=
  accounts.borrows.any fun e =>
    e.1.nodeId = importNodeId && exportsFrom e.2 exportNodeId socketId numaId

end SchedulerAccountManager

end Scheduler

end UbsEngine
