import UbsEngine.Library.Packed

/-!
# Responses as the server packs them

The server answers queries with descriptors: of memory borrowed by file descriptor, of memory
borrowed as a NUMA node, of shared memory, and of nodes. For each it computes the size of the
answer, allocates a buffer of this size, and packs the fields into it.

A field that does not fit is left out without notice, unless it is a string; so it matters that
the size computed beforehand is right. The sizes of lists are computed in 32 bits.
-/

namespace UbsEngine

namespace Convert

open Packed

/-- `UBSE_ERROR_SERIALIZE_FAILED`. -/
inductive PackError where
  | UBSE_ERROR_SERIALIZE_FAILED
  deriving DecidableEq

open PackError

/-- `UbsePackUtil`. -/
abbrev Pack := Packed.Writer PackError Unit

/-- `std::string`. -/
abbrev Text := List UInt8

/-! ### Constants -/

def HOST_NAME_MAX : Nat := 64
def UBS_TOPO_SOCKET_NUM : Nat := 2
def UBS_TOPO_NUMA_NUM : Nat := 4
def UBS_TOPO_IPADDR_NUM : Nat := 50
def UBS_MEM_MAX_MEMID_NUM : Nat := 2048
def UBSE_MAX_USR_INFO_LEN : Nat := 32

/-- The longest name of a resource; `MAX_MEM_RESOURCE_NAME_LENGTH - 1`. -/
def maxNameLen : Nat := 47

/-! ### Descriptors -/

/-- An address. An address of version 6 is copied as two halves. -/
structure ubs_topo_ip_address_t where
  af : Int32
  ipv4 : UInt32
  ipv6 : UInt64
  ipv6High : UInt64
  deriving DecidableEq

/-- What every description of a node has. -/
structure BaseNode where
  slotId : UInt32
  socketId : List.Vector UInt32 UBS_TOPO_SOCKET_NUM
  numaIds : List.Vector (List.Vector UInt32 UBS_TOPO_NUMA_NUM) UBS_TOPO_SOCKET_NUM
  hostName : Text
  deriving DecidableEq

structure UbseNode extends BaseNode where
  ips : List.Vector ubs_topo_ip_address_t UBS_TOPO_IPADDR_NUM
  deriving DecidableEq

inductive UbseMemStage where
  | UBSE_NOT_EXIST
  | UBSE_CREATING
  | UBSE_DELETING
  | UBSE_EXIST
  | UBSE_ERR_ONLY_IMPORT
  | UBSE_ERR_WAIT_UNEXPORT
  | UBSE_ERR_ABNORMAL
  deriving DecidableEq

/-- The value of an enumerator. -/
def UbseMemStage.value : UbseMemStage → UInt32
  | UBSE_NOT_EXIST => 0
  | UBSE_CREATING => 1
  | UBSE_DELETING => 2
  | UBSE_EXIST => 3
  | UBSE_ERR_ONLY_IMPORT => 4
  | UBSE_ERR_WAIT_UNEXPORT => 5
  | UBSE_ERR_ABNORMAL => 6

structure UbseMemFdDesc where
  name : Text
  memIds : List UInt64
  totalMemSize : UInt64
  unitSize : UInt64
  exportNode : UbseNode
  importNode : UbseNode
  state : UbseMemStage

structure UbseMemNumaDesc where
  name : Text
  numaId : Int64
  importNode : UbseNode
  exportNode : UbseNode
  size : UInt64
  state : UbseMemStage
  usrInfo : List.Vector UInt8 UBSE_MAX_USR_INFO_LEN

structure UbseMemShmImportDesc where
  memIds : List UInt64
  importNode : UbseNode
  state : UbseMemStage

structure UbseMemShmDesc where
  name : Text
  totalMemSize : UInt64
  unitSize : UInt64
  exportNode : UbseNode
  userInfo : List.Vector UInt8 UBSE_MAX_USR_INFO_LEN
  importDesc : List UbseMemShmImportDesc
  state : UbseMemStage

/-! ### Sizes -/

def UbseStringCalcSize (str : Text) (maxLen : Nat) : Nat := 4 + min str.length maxLen

def UbseMemNodeCalcSize (node : UbseNode) : Nat :=
  4 + 4 * UBS_TOPO_SOCKET_NUM + 4 * UBS_TOPO_SOCKET_NUM * UBS_TOPO_NUMA_NUM +
    UbseStringCalcSize node.hostName HOST_NAME_MAX

def UbseNodeCalcSize (node : UbseNode) : Nat :=
  4 + 4 * UBS_TOPO_SOCKET_NUM + 4 * UBS_TOPO_SOCKET_NUM * UBS_TOPO_NUMA_NUM +
    24 * UBS_TOPO_IPADDR_NUM + UbseStringCalcSize node.hostName HOST_NAME_MAX

def UbseNodeListCalcSize (nodeList : List UbseNode) : Nat :=
  nodeList.foldl (fun len node => len + UbseNodeCalcSize node) 4

def UbseMemFdDescCalcSize (fdDesc : UbseMemFdDesc) : Nat :=
  UbseStringCalcSize fdDesc.name maxNameLen + 4 + 8 * fdDesc.memIds.length + 8 + 8 +
    UbseMemNodeCalcSize fdDesc.exportNode + UbseMemNodeCalcSize fdDesc.importNode + 4

def UbseMemNumaDescCalcSize (numaDesc : UbseMemNumaDesc) : Nat :=
  UbseStringCalcSize numaDesc.name maxNameLen + 8 + UbseMemNodeCalcSize numaDesc.exportNode +
    UbseMemNodeCalcSize numaDesc.importNode + 8 + 4 + UBSE_MAX_USR_INFO_LEN

def UbseMemShmImportDescCalSize (importDesc : UbseMemShmImportDesc) : Nat :=
  4 + 8 * importDesc.memIds.length + UbseMemNodeCalcSize importDesc.importNode + 4

def UbseMemShmImportDescListCalSize (importDescs : List UbseMemShmImportDesc) : Nat :=
  importDescs.foldl (fun len importDesc => len + UbseMemShmImportDescCalSize importDesc) 0

def UbseMemShmDescCalcSize (shmDesc : UbseMemShmDesc) : Nat :=
  4 + UbseStringCalcSize shmDesc.name maxNameLen + 8 + 8 +
    UbseMemNodeCalcSize shmDesc.exportNode + UBSE_MAX_USR_INFO_LEN + 4 +
    UbseMemShmImportDescListCalSize shmDesc.importDesc

/-- `uint32_t len`, to which the sizes of the elements are added. -/
def sumSizes {α : Type} (size : α → Nat) (l : List α) (len : Nat) : Nat :=
  l.foldl (fun len a => (len + size a) % 2 ^ 32) (len % 2 ^ 32)

def UbseMemFdDescListCalcSize (fdDescList : List UbseMemFdDesc) : Nat :=
  sumSizes UbseMemFdDescCalcSize fdDescList 4

def UbseMemNumaDescListCalcSize (numaDescList : List UbseMemNumaDesc) : Nat :=
  sumSizes UbseMemNumaDescCalcSize numaDescList 4

def UbseMemShmDescListCalcSize (shmDescs : List UbseMemShmDesc) : Nat :=
  sumSizes UbseMemShmDescCalcSize shmDescs (4 + shmDescs.length * 4)

/-! ### Fields -/

/-- A number. Nobody looks at whether it fits. -/
def packWord {α : Type} [Word α] (x : α) : Pack := put (wordBytes x)

/-- The size of a list, as a `uint32_t`. -/
def packSize {α : Type} (l : List α) : Pack := packWord (UInt32.ofNat l.length)

/-- How many bytes of a string are packed. -/
def packedLen (str : Text) (maxLen : Nat) : Nat := min (str.length % 2 ^ 32) maxLen

/-- The length of a string and the string, cut off at `maxLen` bytes. -/
def UbsePackString (str : Text) (maxLen : Nat) : Pack :=
  putOrElse UBSE_ERROR_SERIALIZE_FAILED
    (wordBytes (UInt32.ofNat (packedLen str maxLen)) ++ str.take (packedLen str maxLen))

def UbseBaseNodePackInner (node : UbseNode) : Pack := do
  packWord node.slotId
  putAll packWord node.socketId.toList
  putAll (fun socket => putAll packWord socket.toList) node.numaIds.toList
  UbsePackString node.hostName HOST_NAME_MAX

/-- One address of a node. -/
def packIp (ipAddr : ubs_topo_ip_address_t) : Pack := do
  packWord ipAddr.af
  packWord ipAddr.ipv4
  packWord ipAddr.ipv6
  packWord ipAddr.ipv6High

def UbseNodePackInner (node : UbseNode) : Pack := do
  UbseBaseNodePackInner node
  putAll packIp node.ips.toList

/-! ### Descriptors into a buffer -/

def UbseMemFdDescPackInner (fdDesc : UbseMemFdDesc) : Pack :=
  if UBS_MEM_MAX_MEMID_NUM < fdDesc.memIds.length then throw UBSE_ERROR_SERIALIZE_FAILED
  else do
    UbsePackString fdDesc.name maxNameLen
    packSize fdDesc.memIds
    putAll packWord fdDesc.memIds
    packWord fdDesc.totalMemSize
    packWord fdDesc.unitSize
    UbseBaseNodePackInner fdDesc.exportNode
    UbseBaseNodePackInner fdDesc.importNode
    packWord fdDesc.state.value

def UbseMemNumaDescPackInner (numaDesc : UbseMemNumaDesc) : Pack := do
  UbsePackString numaDesc.name maxNameLen
  packWord numaDesc.numaId
  UbseBaseNodePackInner numaDesc.exportNode
  UbseBaseNodePackInner numaDesc.importNode
  packWord numaDesc.size
  packWord numaDesc.state.value
  putAll packWord numaDesc.usrInfo.toList

/-- The number of blocks is not limited here. -/
def UbseMemShmImportDescPackInner (importDesc : UbseMemShmImportDesc) : Pack := do
  packSize importDesc.memIds
  putAll packWord importDesc.memIds
  UbseBaseNodePackInner importDesc.importNode
  packWord importDesc.state.value

/-- A byte of the user's data, which must fit. -/
def packUserByte (x : UInt8) : Pack := putOrElse UBSE_ERROR_SERIALIZE_FAILED (wordBytes x)

def UbseMemShmDescPackInner (shmDesc : UbseMemShmDesc) : Pack := do
  packSize shmDesc.importDesc
  UbsePackString shmDesc.name maxNameLen
  packWord shmDesc.totalMemSize
  packWord shmDesc.unitSize
  UbseBaseNodePackInner shmDesc.exportNode
  putAll packUserByte shmDesc.userInfo.toList
  packWord shmDesc.state.value
  putAll UbseMemShmImportDescPackInner shmDesc.importDesc

/-! ### Responses -/

/-- What the server answers. The id of the super node, which the firmware knows, follows the
nodes. -/
inductive Response where
  | fd (fdDesc : UbseMemFdDesc)
  | fdList (fdDescList : List UbseMemFdDesc)
  | numa (numaDesc : UbseMemNumaDesc)
  | numaList (numaDescList : List UbseMemNumaDesc)
  | shm (shmDesc : UbseMemShmDesc)
  | shmList (shmDescs : List UbseMemShmDesc)
  | node (n : UbseNode) (superPodId : UInt16)
  | nodeList (nodes : List UbseNode) (superPodId : UInt16)

/-- `UbseIpcMessage`: the bytes that were packed, and the length that is sent. -/
structure UbseIpcMessage where
  buffer : List UInt8
  length : Nat

namespace Response

/-- The size computed for the buffer. -/
def requiredLength : Response → Nat
  | fd fdDesc => UbseMemFdDescCalcSize fdDesc
  | fdList fdDescList => UbseMemFdDescListCalcSize fdDescList
  | numa numaDesc => UbseMemNumaDescCalcSize numaDesc
  | numaList numaDescList => UbseMemNumaDescListCalcSize numaDescList
  | shm shmDesc => UbseMemShmDescCalcSize shmDesc
  | shmList shmDescs => UbseMemShmDescListCalcSize shmDescs
  | .node n _ => UbseNodeCalcSize n + 2
  | .nodeList nodes _ => UbseNodeListCalcSize nodes + 2

/-- What is packed into the buffer. -/
def packInner : Response → Pack
  | fd fdDesc => UbseMemFdDescPackInner fdDesc
  | fdList fdDescList => do
    packSize fdDescList
    putAll UbseMemFdDescPackInner fdDescList
  | numa numaDesc => UbseMemNumaDescPackInner numaDesc
  | numaList numaDescList => do
    packSize numaDescList
    putAll UbseMemNumaDescPackInner numaDescList
  | shm shmDesc => UbseMemShmDescPackInner shmDesc
  | shmList shmDescs => do
    packSize shmDescs
    putAll (fun shmDesc => packSize shmDesc.importDesc) shmDescs
    putAll UbseMemShmDescPackInner shmDescs
  | .node n superPodId => do
    UbseNodePackInner n
    packWord superPodId
  | .nodeList nodes superPodId => do
    packSize nodes
    putAll UbseNodePackInner nodes
    packWord superPodId

/-- `UbseMemFdDescPack`, `UbseMemFdDescListPack` and so on: a fresh buffer of the computed size
is filled. The length of a message has 32 bits. -/
def pack (r : Response) : Except PackError UbseIpcMessage :=
  match r.packInner { remaining := r.requiredLength } with
  | .error e => .error e
  | .ok (_, s) => .ok { buffer := s.written, length := r.requiredLength % 2 ^ 32 }

end Response

end Convert

end UbsEngine
