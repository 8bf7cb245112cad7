import Mathlib.Data.List.Sort
import UbsEngine.Library.Assoc

/-!
# The cache of the memory scheduler

What the scheduler knows of the nodes of the cluster: the numas of a node, with the bytes
they have, use, lend, share and borrow, and its sockets, with how often each has exported
and how often it may.

The counters are 64-bit and are moved by `SafeAdd` and `SafeSub` only: an addition that
would overflow and a subtraction that would go below zero change nothing, and nobody is
told (`UbsEngine.Scheduler.bump`, `UbsEngine.Scheduler.drop`).

A numa id occurs once in a node – the information a node reports is a map keyed by the
numa – so the source's maps of numas, one for each socket, are kept here as one map of the
node whose entries name their socket. What the source reads as a walk over a `std::map` is
a walk in the order of the ids (`UbsEngine.Scheduler.SchedulerNodeInfo.getAllNumaInfos`).
-/

namespace UbsEngine

namespace Scheduler

/-- The name of a node. -/
abbrev NodeId := String

/-- The number of a socket of a node. -/
abbrev SocketId := UInt32

instance : LawfulBEq (NodeId × SocketId) := inferInstance

/-- The number of a chip, as the network reports it. -/
abbrev ChipId := UInt32

/-- The number of a port. -/
abbrev PortId := UInt32

/-- The number of a numa node of a node. -/
abbrev NumaId := UInt32

/-! ### 64-bit arithmetic -/

/-- `SafeAdd` on 64-bit values: no result on overflow. -/
def safeAdd (a b : Nat) : Option Nat := if a + b < 2 ^ 64 then some (a + b) else none

/-- `SafeSub` on 64-bit values: no result on underflow. -/
def safeSub (a b : Nat) : Option Nat := if b ≤ a then some (a - b) else none

/-- A counter after the addition of `x`, which is dropped when it would overflow. -/
def bump (c x : Nat) : Nat := (safeAdd c x).getD c

/-- A counter after the subtraction of `x`, which is dropped when it would underflow. -/
def drop (c x : Nat) : Nat := (safeSub c x).getD c

/-- Values added up by `SafeAdd`, those that would overflow left out. -/
def safeSum (xs : List Nat) : Nat := xs.foldl bump 0

theorem bump_eq {c x : Nat} (h : c + x < 2 ^ 64) : bump c x = c + x := by
  rw [bump, safeAdd, if_pos h, Option.getD_some]

theorem drop_eq {c x : Nat} (h : x ≤ c) : drop c x = c - x := by
  simp [drop, safeSub, h]

theorem le_bump (c x : Nat) : c ≤ bump c x := by
  unfold bump safeAdd
  split <;> simp

/-- One mebibyte, in bytes. -/
def oneM : Nat := 1024 * 1024

/-- `UINT32_MAX`, which the requests use for "no such id". -/
def invalidId : UInt32 := 0xFFFFFFFF

/-- `SizeMb2Byte`: no result on overflow. -/
def sizeMb2Byte (mb : Nat) : Option Nat := if mb * 2 ^ 20 < 2 ^ 64 then some (mb * 2 ^ 20) else none

theorem sizeMb2Byte_toNat (b : UInt32) : sizeMb2Byte b.toNat = some (b.toNat * 2 ^ 20) := by
  have := b.toNat_lt
  unfold sizeMb2Byte
  rw [if_pos]
  omega

/-- The size in whole blocks below it. -/
def floorBlock (size block : Nat) : Nat := size / block * block

/-! ### What a node reports -/

/-- `UbseNodeClusterState`. -/
inductive UbseNodeClusterState
  /-- Initialising. -/
  | init
  /-- Its debts are being reconciled. -/
  | smoothing
  /-- In service. -/
  | working
  /-- Its heartbeat is lost. -/
  | unknown
  /-- Down. -/
  | fault
  /-- About to be powered off. -/
  | preBmc
  deriving DecidableEq

/-- `UbseAllocator`: which pages a node lends from. -/
inductive UbseAllocator
  | hugetlbPmd
  | hugetlbPud
  | buddyHighmem
  deriving DecidableEq

/-- What a node reports of a numa. The three sizes are what `UpdateNumaMemInfo` makes of the
page counts and of the node's percentage, in floating point. -/
structure UbseNumaInfo where
  /-- The socket the numa belongs to. -/
  socketId : SocketId
  /-- The bytes that can be lent or used. -/
  memTotal : Nat
  /-- The bytes in use. -/
  memUsed : Nat
  /-- The bytes that are free. -/
  memFree : Nat

/-- What a node reports of a port. The ids that arrive as text are `none` when
`ConvertStrToUint32` refuses the text. -/
structure UbsePortInfo where
  /-- The id of the port. -/
  portId : Option PortId
  /-- Whether the port is up. -/
  isUp : Bool
  /-- The slot at the other end. -/
  remoteSlotId : String
  /-- The chip at the other end. -/
  remoteChipId : Option ChipId

/-- What a node reports of a cpu. -/
structure UbseCpuInfo where
  /-- The slot of the node. -/
  slotId : UInt32
  /-- The socket of the cpu. -/
  socketId : SocketId
  /-- The chip, `none` when the reported text is no number. -/
  chipId : Option ChipId
  /-- The ports of the chip. -/
  portInfos : List UbsePortInfo

/-- `UbseNodeInfo`: what a node reports of itself. -/
structure UbseNodeInfo where
  /-- The id of the node. -/
  nodeId : NodeId
  /-- Its host name. -/
  hostName : String := ""
  /-- Its numas. -/
  numaInfos : Map NumaId UbseNumaInfo := ∅
  /-- Its cpus. -/
  cpuInfos : List UbseCpuInfo := []
  /-- Its state in the cluster. -/
  clusterState : UbseNodeClusterState
  /-- Whether it may lend. -/
  isLender : Bool := true
  /-- Which pages it lends from. -/
  allocator : UbseAllocator := .buddyHighmem
  /-- The block in which it lends, in MB. -/
  blockSize : UInt32 := 128
  /-- How much it may lend altogether, in GB; `0` is no limit. -/
  nodeMaxLendGb : UInt32 := 0
  /-- How many blocks one of its sockets may export. -/
  exportTotalTimes : UInt32 := 1024

/-- The sockets that the numas of a node name. -/
def UbseNodeInfo.socketIds (info : UbseNodeInfo) : List SocketId :=
  info.numaInfos.entries.map fun e => e.2.socketId

/-! ### Numas -/

/-- `SchedulerNumaInfo`. -/
structure SchedulerNumaInfo where
  /-- The socket the numa belongs to. -/
  socketId : SocketId
  memTotal : Nat := 0
  memUsed : Nat := 0
  memFree : Nat := 0
  memBorrow : Nat := 0
  memLent : Nat := 0
  memShared : Nat := 0

namespace SchedulerNumaInfo

/-- A numa as the constructor leaves it: nothing lent, shared or borrowed. -/
def create (info : UbseNumaInfo) : SchedulerNumaInfo where
  socketId := info.socketId

variable (numa : SchedulerNumaInfo)

/-- `UpdateNumaMemorySize`. -/
def updateNumaMemorySize (info : UbseNumaInfo) : SchedulerNumaInfo :=
  { numa with memTotal := info.memTotal, memUsed := info.memUsed, memFree := info.memFree }

/-- `GetAvailableLendSize`: what is left below the watermark, of the free bytes and of the
bytes not yet lent or shared. -/
def getAvailableLendSize (waterLine : Nat) : Nat :=
  let limit := numa.memTotal * waterLine % 2 ^ 64 / 100
  let free := if numa.memUsed > limit then 0 else limit - numa.memUsed
  let given := (numa.memLent + numa.memShared) % 2 ^ 64
  let reserve := if given > limit then 0 else limit - given
  min free reserve

def addNumaBorrowSize (x : Nat) : SchedulerNumaInfo :=
  { numa with memBorrow := bump numa.memBorrow x }

def subNumaBorrowSize (x : Nat) : SchedulerNumaInfo :=
  { numa with memBorrow := drop numa.memBorrow x }

def addNumaLentSize (x : Nat) : SchedulerNumaInfo := { numa with memLent := bump numa.memLent x }

def subNumaLentSize (x : Nat) : SchedulerNumaInfo := { numa with memLent := drop numa.memLent x }

def addNumaShareSize (x : Nat) : SchedulerNumaInfo :=
  { numa with memShared := bump numa.memShared x }

def subNumaShareSize (x : Nat) : SchedulerNumaInfo :=
  { numa with memShared := drop numa.memShared x }

end SchedulerNumaInfo

/-! ### Sockets -/

/-- `RawPortInfo`: a port that is up, with what is at its other end. -/
structure RawPortInfo where
  portId : PortId
  remoteSlotId : String
  remoteChipId : ChipId

/-- `SchedulerSocketInfo`, without the numas, which the node keeps. -/
structure SchedulerSocketInfo where
  /-- The bytes the socket may lend; `0` is no limit. -/
  maxLentSize : Nat := 0
  /-- The blocks it has exported. -/
  lentCount : Nat := 0
  /-- The blocks it may export. -/
  maxExportTimes : UInt32
  /-- Its ports that are up. -/
  ports : List PortId := []
  /-- Where they lead. -/
  rawPortInfos : List RawPortInfo := []

namespace SchedulerSocketInfo

variable (socket : SchedulerSocketInfo)

def addLentCount (x : Nat) : SchedulerSocketInfo :=
  { socket with lentCount := bump socket.lentCount x }

def subLentCount (x : Nat) : SchedulerSocketInfo :=
  { socket with lentCount := drop socket.lentCount x }

/-- `UpdateLinkInfo`: the ports of the cpu that are up, and where they lead. -/
def updateLinkInfo (cpu : UbseCpuInfo) : SchedulerSocketInfo :=
  let up := (cpu.portInfos.filter (·.isUp)).filter (·.portId.isSome)
  { socket with
    ports := up.filterMap (·.portId)
    rawPortInfos := up.filterMap fun port =>
      if port.remoteSlotId = "" ∨ port.remoteSlotId = "-" then none
      else do
        let portId ← port.portId
        let remoteChipId ← port.remoteChipId
        pure { portId, remoteSlotId := port.remoteSlotId, remoteChipId } }

/-- `ResolveRawPorts`: the sockets at the other ends of the ports. -/
def resolveRawPorts (socketToChip : Map NodeId (Map ChipId SocketId)) :
    List (NodeId × SocketId) :=
  socket.rawPortInfos.filterMap fun raw => do
    let chips ← socketToChip.lookup raw.remoteSlotId
    let socketId ← chips.lookup raw.remoteChipId
    pure (raw.remoteSlotId, socketId)

end SchedulerSocketInfo

/-! ### Nodes -/

/-- `SchedulerNodeInfo`. -/
structure SchedulerNodeInfo where
  nodeId : NodeId
  hostName : String
  allocator : UbseAllocator
  blockSize : UInt32
  nodeMaxLendGb : UInt32
  isLender : Bool
  clusterState : UbseNodeClusterState
  /-- The sockets. -/
  socketInfoMap : Map SocketId SchedulerSocketInfo
  /-- The numas of all sockets. -/
  numaInfoMap : Map NumaId SchedulerNumaInfo

/-- A socket as the filters pass it on: `SocketInfo`. -/
structure SocketInfo where
  socketId : SocketId
  numaInfos : List NumaId
  deriving DecidableEq

/-- A node as the filters pass it on: `NodeInfo`. -/
structure NodeInfo where
  nodeId : NodeId
  socketInfos : List SocketInfo
  deriving DecidableEq

namespace SchedulerNodeInfo

/-- The constructor of `SchedulerNodeInfo`: a socket for every socket id that a numa names,
all counters at zero, and the state of a node that initialises. -/
def create (info : UbseNodeInfo) : SchedulerNodeInfo where
  nodeId := info.nodeId
  hostName := info.hostName
  allocator := info.allocator
  blockSize := info.blockSize
  nodeMaxLendGb := info.nodeMaxLendGb
  isLender := info.isLender
  clusterState := .init
  socketInfoMap := Map.ofKeys info.socketIds fun _ => { maxExportTimes := info.exportTotalTimes }
  numaInfoMap := info.numaInfos.mapValues fun _ numa => SchedulerNumaInfo.create numa

variable (node : SchedulerNodeInfo)

/-- `GetSocketInfo`. -/
def getSocketInfo (socketId : SocketId) : Option SchedulerSocketInfo :=
  node.socketInfoMap.lookup socketId

/-- The numas of a socket, in the order of their ids: `GetAllNumaInfos` of the socket. -/
def getAllNumaInfos (socketId : SocketId) : List (NumaId × SchedulerNumaInfo) :=
  ((node.numaInfoMap.entries.map fun e => (e.1, e.2)).filter
    fun e => e.2.socketId = socketId).insertionSort fun a b => a.1 ≤ b.1

/-- The sockets, in the order of their ids: `GetAllSocketInfo`. -/
def getAllSocketInfo : List (SocketId × SchedulerSocketInfo) :=
  (node.socketInfoMap.entries.map fun e => (e.1, e.2)).insertionSort fun a b => a.1 ≤ b.1

/-- A numa of the node, in whichever of its sockets it is. -/
def findNuma (numaId : NumaId) : Option SchedulerNumaInfo :=
  (node.numaInfoMap.lookup numaId).filter fun numa => (node.getSocketInfo numa.socketId).isSome

/-- `GetNumaInfo` of the node, by socket and numa. -/
def getNumaInfo (socketId : SocketId) (numaId : NumaId) : Option SchedulerNumaInfo :=
  (node.findNuma numaId).filter fun numa => numa.socketId = socketId

/-- `GetNodeInfo`: the node as the filters start from it. -/
def getNodeInfo : NodeInfo where
  nodeId := node.nodeId
  socketInfos := node.getAllSocketInfo.map fun s =>
    { socketId := s.1, numaInfos := (node.getAllNumaInfos s.1).map (·.1) }

/-- `GetLentSize` of a socket: what its numas lend and share. -/
def getSocketLentSize (socketId : SocketId) : Nat :=
  safeSum ((node.getAllNumaInfos socketId).flatMap fun n => [n.2.memLent, n.2.memShared])

/-- `GetAvailableLendSize` of a socket: the whole blocks its numas can lend. -/
def getSocketAvailableLendSize (socketId : SocketId) (waterLine blockSizeByte : Nat) : Nat :=
  if blockSizeByte = 0 then 0
  else safeSum ((node.getAllNumaInfos socketId).map fun n =>
    floorBlock (n.2.getAvailableLendSize waterLine) blockSizeByte)

/-- `GetBorrowSize`. -/
def getBorrowSize : Nat :=
  safeSum (node.getAllSocketInfo.flatMap fun s =>
    (node.getAllNumaInfos s.1).map fun n => n.2.memBorrow)

/-- `GetLentSize`: what the sockets lend and share. -/
def getLentSize : Nat :=
  safeSum (node.getAllSocketInfo.map fun s => node.getSocketLentSize s.1)

/-- `GetLentSizeExcludingShared`. -/
def getLentSizeExcludingShared : Nat :=
  safeSum (node.getAllSocketInfo.flatMap fun s =>
    (node.getAllNumaInfos s.1).map fun n => n.2.memLent)

/-- The numa that stands for its socket when the socket borrows: the first one. -/
def firstNuma (socketId : SocketId) : Option NumaId :=
  (node.getSocketInfo socketId).bind fun _ => ((node.getAllNumaInfos socketId).map (·.1)).head?

/-- The node with a numa changed. -/
def modifyNuma (numaId : NumaId) (f : SchedulerNumaInfo → SchedulerNumaInfo) :
    SchedulerNodeInfo :=
  { node with numaInfoMap := node.numaInfoMap.modify numaId f }

/-- The node with a socket changed. -/
def modifySocket (socketId : SocketId) (f : SchedulerSocketInfo → SchedulerSocketInfo) :
    SchedulerNodeInfo :=
  { node with socketInfoMap := node.socketInfoMap.modify socketId f }

end SchedulerNodeInfo

end Scheduler

end UbsEngine
