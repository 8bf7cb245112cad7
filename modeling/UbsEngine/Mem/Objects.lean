import Mathlib.Data.Vector.Basic
import UbsEngine.Library.OrderedMap
import UbsEngine.Serde.Types

/-!
# Requests, import objects and export objects

The data that the controller of the memory pool keeps and sends: the requests of the four kinds
of borrowing (by file descriptor, as a NUMA node, of given addresses, and shared), the import
object and the export object of a borrowing, and the objects of a node by their names. A class
that derives from another has the object of its base class as a member `base`.
-/

namespace UbsEngine

namespace Mem

open Serde

/-! ### The types of members -/

abbrev bool := ScalarType.bool.Val
abbrev uint8_t := ScalarType.unsignedChar.Val
abbrev int := ScalarType.int.Val
abbrev uint32_t := ScalarType.unsignedInt.Val
abbrev int64_t := ScalarType.long.Val
abbrev uint64_t := ScalarType.unsignedLong.Val
abbrev size_t := ScalarType.unsignedLong.Val
abbrev uid_t := ScalarType.unsignedInt.Val
abbrev gid_t := ScalarType.unsignedInt.Val
abbrev pid_t := ScalarType.int.Val
abbrev mode_t := ScalarType.unsignedInt.Val

/-- `std::string`. -/
abbrev string := List UInt8

instance : LawfulBEq string := inferInstance

/-- A number as an object of an arithmetic type other than `bool`. -/
def num {t : ScalarType} [h : t.IsNumber] (n : Int) : t.Val :=
  ⟨BitVec.ofInt _ n, fun ht => absurd ht h.ne_bool⟩

/-- `true` and `false`. -/
def flag (b : Bool) : bool := ⟨BitVec.ofNat 8 b.toNat, fun _ => by cases b <;> decide⟩

/-- The enumerations without an underlying type are unsigned numbers of 32 bits. -/
def unscopedEnum : EnumType := ⟨4, false, by decide⟩

/-- The enumerations over `uint8_t`. -/
def uint8Enum : EnumType := ⟨1, false, by decide⟩

abbrev UbseMemDistance := unscopedEnum.Object
abbrev UbseMemState := unscopedEnum.Object
abbrev UbMemFaultType := unscopedEnum.Object
abbrev UbseNodeStatus := unscopedEnum.Object
abbrev UbseDecoderState := uint8Enum.Object

/-- `MEM_DISTANCE_L0`. -/
def MEM_DISTANCE_L0 : UbseMemDistance := ⟨0⟩
def UBSE_MEM_STATE_INIT : UbseMemState := ⟨0⟩
def UBSE_MEM_STATE_SUCCEEDED : UbseMemState := ⟨1⟩
def UB_MEM_HEALTHY : UbMemFaultType := ⟨1000⟩
def UBSE_NODE_STATUS_NORMAL : UbseNodeStatus := ⟨0⟩
def DECODER_NONE : UbseDecoderState := ⟨3⟩

/-! ### Parts of requests -/

structure UbseUdsInfo where
  uid : uid_t := num 0
  gid : gid_t := num 0
  pid : pid_t := num 0
  username : string := []
  deriving DecidableEq

structure FdOwner where
  uid : uid_t := num 0
  gid : gid_t := num 0
  pid : pid_t := num 0
  mode : mode_t := num 0
  deriving DecidableEq

structure UbseNodeInfo where
  index : uint32_t := num 0
  nodeId : string := []
  hostName : string := []
  status : UbseNodeStatus := UBSE_NODE_STATUS_NORMAL
  deriving DecidableEq

instance : Inhabited UbseNodeInfo := ⟨{}⟩

structure UbseShmRegionDesc where
  nodeNum : uint32_t := num 0
  nodelist : List UbseNodeInfo := []
  deriving DecidableEq

structure UbseMemAddrInfo where
  addr : uint64_t := num 0
  size : uint64_t := num 0
  deriving DecidableEq

instance : Inhabited UbseMemAddrInfo := ⟨{}⟩

structure UbseNumaLocation where
  nodeId : string := []
  numaId : uint32_t := num 0
  deriving DecidableEq

instance : Inhabited UbseNumaLocation := ⟨{}⟩

structure UbseMemPrivData where
  onePth : BitVec 1 := 0
  wrDelayComp : BitVec 1 := 0
  reduceDelayComp : BitVec 1 := 0
  cmoDelayComp : BitVec 1 := 0
  so : BitVec 1 := 0
  adTrOchip : BitVec 1 := 0
  cacheableFlag : BitVec 1 := 0
  marId : BitVec 3 := 0
  rsv0 : BitVec 6 := 0
  deriving DecidableEq

structure UbseTrustRingData where
  trustRingId : string := []
  reqSignedData : string := []
  lendSignedDatas : List string := []
  deriving DecidableEq

structure UbseMemLenderLinkInfo where
  lenderNode : string := []
  lenderSocketId : int := num (-1)
  lenderPort : int := num (-1)
  deriving DecidableEq

structure UbseMemLenderInfo where
  lender_size : uint64_t := num 0
  nodeId : string := []
  socketId : uint32_t := num (-1)
  numaId : uint32_t := num (-1)
  portId : uint32_t := num (-1)
  deriving DecidableEq

structure UbseMemShmAffinitySocketInfo where
  affinitySocketId : uint32_t := num 0
  createReqNodeId : string := []
  enableCreateWithAffinity : bool := flag false
  deriving DecidableEq

/-! ### Requests -/

/-- What all requests have in common. -/
structure UbseMemBaseBorrowReq where
  name : string := []
  requestNodeId : string := []
  requestId : uint64_t := num 0
  udsInfo : UbseUdsInfo := {}
  trustRingData : UbseTrustRingData := {}
  ubseMemPrivData : UbseMemPrivData := {}
  deriving DecidableEq

structure UbseMemFdBorrowReq where
  base : UbseMemBaseBorrowReq := {}
  importNodeId : string := []
  size : size_t := num 0
  distance : UbseMemDistance := MEM_DISTANCE_L0
  lenderLocs : List UbseNumaLocation := []
  lenderSizes : List uint64_t := []
  candidateNodeList : List string := []
  owner : FdOwner := {}
  deriving DecidableEq

instance : Inhabited UbseMemFdBorrowReq := ⟨{}⟩

structure UbseMemFdPermissionReq where
  base : UbseMemBaseBorrowReq := {}
  fdOwner : FdOwner := {}
  deriving DecidableEq

def UBSE_MAX_USR_INFO_LEN : Nat := 32

structure UbseMemNumaBorrowReq where
  base : UbseMemFdBorrowReq := {}
  srcSocket : int := num (-1)
  srcNuma : int := num (-1)
  highWatermark : size_t := num 100
  lowWatermark : size_t := num 11
  samePlanePrefer : bool := flag false
  linkInfo : UbseMemLenderLinkInfo := {}
  usrInfo : List.Vector uint8_t UBSE_MAX_USR_INFO_LEN := .replicate _ (num 0)
  deriving DecidableEq

instance : Inhabited UbseMemNumaBorrowReq := ⟨{}⟩

structure UbseMemShareBorrowReq where
  base : UbseMemBaseBorrowReq := {}
  baseNodeId : string := []
  size : size_t := num 0
  distance : UbseMemDistance := MEM_DISTANCE_L0
  shmRegion : UbseShmRegionDesc := {}
  providerList : List string := []
  usrInfo : List.Vector uint8_t UBSE_MAX_USR_INFO_LEN := .replicate _ (num 0)
  shmAnonymous : bool := flag false
  withAffinity : UbseMemShmAffinitySocketInfo := {}
  lenderInfo : UbseMemLenderInfo := {}
  deriving DecidableEq

instance : Inhabited UbseMemShareBorrowReq := ⟨{}⟩

structure UbseMemShareAttachReq where
  base : UbseMemBaseBorrowReq := {}
  importNodeId : string := []
  size : size_t := num 0
  owner : FdOwner := {}
  deriving DecidableEq

structure UbseMemShareDetachReq where
  base : UbseMemBaseBorrowReq := {}
  unImportNodeId : string := []
  deriving DecidableEq

structure UbseMemAddrBorrowReq where
  base : UbseMemBaseBorrowReq := {}
  importNodeId : string := []
  srcSocket : int := num (-1)
  srcNuma : int := num (-1)
  importPid : uint64_t := num 0
  exportNodeId : string := []
  dstSocket : int := num (-1)
  dstNuma : int := num (-1)
  exportPid : uint64_t := num 0
  exportAddrList : List UbseMemAddrInfo := []
  deriving DecidableEq

instance : Inhabited UbseMemAddrBorrowReq := ⟨{}⟩

structure UbseMemReturnReq where
  base : UbseMemBaseBorrowReq := {}
  uid : uid_t := num 0
  gid : gid_t := num 0
  importNodeId : string := []
  deriving DecidableEq

/-! ### Results -/

structure UbseMemImportResult where
  memId : uint64_t := num 0
  numaId : int64_t := num (-1)
  deriving DecidableEq

instance : Inhabited UbseMemImportResult := ⟨{}⟩

structure UbseMamiMemImportResult where
  marId : uint32_t := num 0
  hpa : uint64_t := num 0
  handle : uint64_t := num 0
  staticHandle : uint64_t := num 0
  state : UbseDecoderState := DECODER_NONE
  deriving DecidableEq

instance : Inhabited UbseMamiMemImportResult := ⟨{}⟩

structure UbseMemImportStatus where
  errCode : uint32_t := num 0
  scna : uint32_t := num 0
  importResults : List UbseMemImportResult := []
  decoderResult : List UbseMamiMemImportResult := []
  expectState : UbseMemState := UBSE_MEM_STATE_SUCCEEDED
  state : UbseMemState := UBSE_MEM_STATE_INIT
  deriving DecidableEq

/-- An object of this type is 40 bytes long; the last two bytes belong to no member. -/
structure ubse_mem_obmm_mem_desc where
  addr : BitVec (8 * 8) := 0
  length : BitVec (8 * 8) := 0
  tokenid : BitVec (8 * 4) := 0
  scna : BitVec (8 * 4) := 0
  dcna : BitVec (8 * 4) := 0
  seid : BitVec (8 * 4) := 0
  deid : BitVec (8 * 4) := 0
  marId : BitVec (8 * 2) := 0
  padding : BitVec (8 * 2) := 0
  deriving DecidableEq

structure UbseMemObmmInfo where
  memId : uint64_t := num 0
  desc : ubse_mem_obmm_mem_desc := {}
  memIdStatus : UbMemFaultType := UB_MEM_HEALTHY
  deriving DecidableEq

instance : Inhabited UbseMemObmmInfo := ⟨{}⟩

structure UbseMemExportStatus where
  errCode : uint32_t := num 0
  exportObmmInfo : List UbseMemObmmInfo := []
  expectState : UbseMemState := UBSE_MEM_STATE_SUCCEEDED
  state : UbseMemState := UBSE_MEM_STATE_INIT
  deriving DecidableEq

structure UbseMemDebtNumaInfo where
  nodeId : string := []
  socketId : int := num (-1)
  numaId : int64_t := num (-1)
  size : uint64_t := num 0
  portId : uint32_t := num 0
  chipId : uint32_t := num 0
  deriving DecidableEq

instance : Inhabited UbseMemDebtNumaInfo := ⟨{}⟩

structure UbseMemAlgoResult where
  exportNumaInfos : List UbseMemDebtNumaInfo := []
  importNumaInfos : List UbseMemDebtNumaInfo := []
  blockSize : uint32_t := num 128
  attachSocketId : uint32_t := num 0
  deriving DecidableEq

/-! ### Objects -/

/-- What all export objects have in common. -/
structure UbseMemBorrowExportBaseObj where
  algoResult : UbseMemAlgoResult := {}
  status : UbseMemExportStatus := {}
  errorCode : uint32_t := num 0
  isCreateReportReceived : bool := flag false
  isDestroyedReportReceived : bool := flag false
  deriving DecidableEq

/-- What all import objects have in common. -/
structure UbseMemBorrowImportBaseObj where
  algoResult : UbseMemAlgoResult := {}
  exportObmmInfo : List UbseMemObmmInfo := []
  status : UbseMemImportStatus := {}
  errorCode : uint32_t := num 0
  isCreateReportReceived : bool := flag false
  isDestroyedReportReceived : bool := flag false
  isLastExportSuccess : bool := flag false
  deriving DecidableEq

/-- An export object around a request: the ones of all four kinds are alike. -/
structure ExportObj (Req : Type) where
  base : UbseMemBorrowExportBaseObj := {}
  req : Req
  returnReq : UbseMemReturnReq := {}
  deriving DecidableEq

instance {Req : Type} [Inhabited Req] : Inhabited (ExportObj Req) := ⟨{ req := default }⟩

/-- An import object around a request: the ones of all kinds but shared memory are alike. -/
structure ImportObj (Req : Type) where
  base : UbseMemBorrowImportBaseObj := {}
  req : Req
  returnReq : UbseMemReturnReq := {}
  deriving DecidableEq

instance {Req : Type} [Inhabited Req] : Inhabited (ImportObj Req) := ⟨{ req := default }⟩

abbrev UbseMemFdBorrowExportObj := ExportObj UbseMemFdBorrowReq
abbrev UbseMemFdBorrowImportObj := ImportObj UbseMemFdBorrowReq
abbrev UbseMemNumaBorrowExportObj := ExportObj UbseMemNumaBorrowReq
abbrev UbseMemNumaBorrowImportObj := ImportObj UbseMemNumaBorrowReq
abbrev UbseMemAddrBorrowExportObj := ExportObj UbseMemAddrBorrowReq
abbrev UbseMemAddrBorrowImportObj := ImportObj UbseMemAddrBorrowReq
abbrev UbseMemShareBorrowExportObj := ExportObj UbseMemShareBorrowReq

structure UbseMemAttachResourceShareAttr where
  uid : uid_t := num 0
  gid : gid_t := num 0
  size : size_t := num 0
  owner : FdOwner := {}
  deriving DecidableEq

structure UbseMemShareBorrowImportObj where
  base : UbseMemBorrowImportBaseObj := {}
  realExe : bool := flag true
  importNodeId : string := []
  shareAttr : UbseMemAttachResourceShareAttr := {}
  req : UbseMemShareBorrowReq := {}
  returnReq : UbseMemReturnReq := {}
  deriving DecidableEq

instance : Inhabited UbseMemShareBorrowImportObj := ⟨{}⟩

/-- The objects of a node, by their names. -/
structure NodeMemDebtInfo where
  fdImportObjMap : OrderedMap string UbseMemFdBorrowImportObj := .empty
  fdExportObjMap : OrderedMap string UbseMemFdBorrowExportObj := .empty
  numaImportObjMap : OrderedMap string UbseMemNumaBorrowImportObj := .empty
  numaExportObjMap : OrderedMap string UbseMemNumaBorrowExportObj := .empty
  shareImportObjMap : OrderedMap string UbseMemShareBorrowImportObj := .empty
  shareExportObjMap : OrderedMap string UbseMemShareBorrowExportObj := .empty
  addrImportObjMap : OrderedMap string UbseMemAddrBorrowImportObj := .empty
  addrExportObjMap : OrderedMap string UbseMemAddrBorrowExportObj := .empty
  deriving DecidableEq

end Mem

end UbsEngine
