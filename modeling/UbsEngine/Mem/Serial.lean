import Mathlib.Tactic.IntervalCases
import UbsEngine.Mem.Objects
import UbsEngine.Serde.AutoSerial

/-!
# The objects on the wire

Every class of the memory controller that is sent has registered the list of its members, and
this file is that registration. Most classes list all their members
(`UbsEngine.Serde.Faithful`). The base classes of the objects leave out the flags that say what
the controller has heard of an object, which are not persistent, and
`UbsEngine.Mem.UbseMemNumaBorrowReq` leaves out a member as well.
-/

namespace UbsEngine

namespace Mem

open Serde AutoSerial

instance : AutoSerial unscopedEnum.Object := .enum unscopedEnum (by decide)

instance : Faithful unscopedEnum.Object := ⟨fun _ _ => rfl⟩

instance : AutoSerial uint8Enum.Object := .enum uint8Enum (by decide)

instance : Faithful uint8Enum.Object := ⟨fun _ _ => rfl⟩

/-! ### Objects that are copied -/

/-- The bytes of an object, member by member. -/
def ubse_mem_obmm_mem_desc.toBytes (d : ubse_mem_obmm_mem_desc) : List UInt8 :=
  Bytes.ofBitVec d.addr ++ (Bytes.ofBitVec d.length ++ (Bytes.ofBitVec d.tokenid ++
    (Bytes.ofBitVec d.scna ++ (Bytes.ofBitVec d.dcna ++ (Bytes.ofBitVec d.seid ++
      (Bytes.ofBitVec d.deid ++ (Bytes.ofBitVec d.marId ++ Bytes.ofBitVec d.padding)))))))

/-- The `n` bytes at an offset of an object, as a number. -/
def member (n offset : Nat) (bs : List UInt8) : BitVec (8 * n) :=
  Bytes.toBitVec n ((bs.drop offset).take n)

/-- The object that some bytes are. -/
def ubse_mem_obmm_mem_desc.ofBytes (bs : List UInt8) : ubse_mem_obmm_mem_desc where
  addr := member 8 0 bs
  length := member 8 8 bs
  tokenid := member 4 16 bs
  scna := member 4 20 bs
  dcna := member 4 24 bs
  seid := member 4 28 bs
  deid := member 4 32 bs
  marId := member 2 36 bs
  padding := member 2 38 bs

theorem member_zero {n : Nat} (x : BitVec (8 * n)) (bs : List UInt8) :
    member n 0 (Bytes.ofBitVec x ++ bs) = x := by
  rw [member, List.drop_zero, List.take_left' (Bytes.length_ofBitVec x),
    Bytes.toBitVec_ofBitVec]

theorem member_last {n : Nat} (x : BitVec (8 * n)) : member n 0 (Bytes.ofBitVec x) = x := by
  have hmember := member_zero x []
  rwa [List.append_nil] at hmember

theorem member_add {m : Nat} (n offset : Nat) (x : BitVec (8 * m)) (bs : List UInt8) :
    member n (m + offset) (Bytes.ofBitVec x ++ bs) = member n offset bs := by
  rw [member, member, ← List.drop_drop, List.drop_left' (Bytes.length_ofBitVec x)]

theorem ubse_mem_obmm_mem_desc.ofBytes_toBytes (d : ubse_mem_obmm_mem_desc) :
    ofBytes d.toBytes = d := by
  have hskip : ∀ {m : Nat} (n k : Nat) (x : BitVec (8 * m)) (bs : List UInt8), m ≤ k →
      member n k (Bytes.ofBitVec x ++ bs) = member n (k - m) bs := by
    intro m n k x bs h
    rw [← member_add n (k - m) x bs, Nat.add_sub_cancel' h]
  simp only [ofBytes, toBytes, hskip, Nat.reduceLeDiff, Nat.reduceSub, member_zero, member_last]

theorem ubse_mem_obmm_mem_desc.length_toBytes (d : ubse_mem_obmm_mem_desc) :
    d.toBytes.length = 40 := by
  simp only [toBytes, List.length_append, Bytes.length_ofBitVec]

instance : AutoSerial ubse_mem_obmm_mem_desc :=
  .raw 40 ubse_mem_obmm_mem_desc.toBytes ubse_mem_obmm_mem_desc.ofBytes
    ubse_mem_obmm_mem_desc.length_toBytes (by decide) ubse_mem_obmm_mem_desc.ofBytes_toBytes

instance : Faithful ubse_mem_obmm_mem_desc := ⟨fun _ _ => rfl⟩

instance : AutoSerial UbseMemAddrInfo :=
  .raw 16 (fun o => ScalarType.toBytes o.addr ++ ScalarType.toBytes o.size)
    (fun bs => ⟨⟨member 8 0 bs, fun h => nomatch h⟩, ⟨member 8 8 bs, fun h => nomatch h⟩⟩)
    (fun o => by rw [List.length_append, ScalarType.length_toBytes, ScalarType.length_toBytes]; rfl)
    (by decide) (fun o => by
      have haddr := member_zero (n := 8) o.addr.bits (ScalarType.toBytes o.size)
      have hsize := (member_add 8 0 (m := 8) o.addr.bits (ScalarType.toBytes o.size)).trans
        (member_last (n := 8) o.size.bits)
      exact UbseMemAddrInfo.mk.injEq .. |>.mpr ⟨ScalarType.Val.ext haddr, ScalarType.Val.ext hsize⟩)

instance : Faithful UbseMemAddrInfo := ⟨fun _ _ => rfl⟩

/-! ### Bit fields -/

/-- `bitfield_traits<UbseMemPrivData>::pack`. -/
def UbseMemPrivData.pack (data : UbseMemPrivData) : BitVec 16 :=
  data.onePth.setWidth 16 <<< 0 ||| data.wrDelayComp.setWidth 16 <<< 1 |||
    data.reduceDelayComp.setWidth 16 <<< 2 ||| data.cmoDelayComp.setWidth 16 <<< 3 |||
    data.so.setWidth 16 <<< 4 ||| data.adTrOchip.setWidth 16 <<< 5 |||
    data.cacheableFlag.setWidth 16 <<< 6 ||| data.marId.setWidth 16 <<< 7 |||
    data.rsv0.setWidth 16 <<< 10

/-- `bitfield_traits<UbseMemPrivData>::unpack`. -/
def UbseMemPrivData.unpack (val : BitVec 16) : UbseMemPrivData where
  onePth := ((val >>> 0) &&& 0x1).setWidth 1
  wrDelayComp := ((val >>> 1) &&& 0x1).setWidth 1
  reduceDelayComp := ((val >>> 2) &&& 0x1).setWidth 1
  cmoDelayComp := ((val >>> 3) &&& 0x1).setWidth 1
  so := ((val >>> 4) &&& 0x1).setWidth 1
  adTrOchip := ((val >>> 5) &&& 0x1).setWidth 1
  cacheableFlag := ((val >>> 6) &&& 0x1).setWidth 1
  marId := ((val >>> 7) &&& 0x7).setWidth 3
  rsv0 := ((val >>> 10) &&& 0x3F).setWidth 6

theorem UbseMemPrivData.unpack_pack (data : UbseMemPrivData) : unpack data.pack = data := by
  obtain ⟨b0, b1, b2, b3, b4, b5, b6, m, r⟩ := data
  simp only [unpack, pack, UbseMemPrivData.mk.injEq]
  -- bit by bit: every position of the 16 belongs to one member
  refine ⟨?_, ?_, ?_, ?_, ?_, ?_, ?_, ?_, ?_⟩ <;> ext i hi <;> interval_cases i <;> simp

instance : AutoSerial UbseMemPrivData :=
  .bitfield (fun data => ⟨data.pack, fun h => nomatch h⟩) (fun val => .unpack val.bits)
    UbseMemPrivData.unpack_pack

instance : Faithful UbseMemPrivData := ⟨fun _ _ => rfl⟩

/-! ### Parts -/

instance : AutoSerial UbseUdsInfo := .reflect
  [⟨(·.uid), fun x o => { o with uid := x }⟩,
    ⟨(·.gid), fun x o => { o with gid := x }⟩,
    ⟨(·.pid), fun x o => { o with pid := x }⟩,
    ⟨(·.username), fun x o => { o with username := x }⟩]

instance : Faithful UbseUdsInfo := ⟨fun _ _ => rfl⟩

instance : AutoSerial FdOwner := .reflect
  [⟨(·.uid), fun x o => { o with uid := x }⟩,
    ⟨(·.gid), fun x o => { o with gid := x }⟩,
    ⟨(·.pid), fun x o => { o with pid := x }⟩,
    ⟨(·.mode), fun x o => { o with mode := x }⟩]

instance : Faithful FdOwner := ⟨fun _ _ => rfl⟩

instance : AutoSerial UbseNumaLocation := .reflect
  [⟨(·.nodeId), fun x o => { o with nodeId := x }⟩,
    ⟨(·.numaId), fun x o => { o with numaId := x }⟩]

instance : Faithful UbseNumaLocation := ⟨fun _ _ => rfl⟩

instance : AutoSerial UbseTrustRingData := .reflect
  [⟨(·.trustRingId), fun x o => { o with trustRingId := x }⟩,
    ⟨(·.reqSignedData), fun x o => { o with reqSignedData := x }⟩,
    ⟨(·.lendSignedDatas), fun x o => { o with lendSignedDatas := x }⟩]

instance : Faithful UbseTrustRingData := ⟨fun _ _ => rfl⟩

instance : AutoSerial UbseMemDebtNumaInfo := .reflect
  [⟨(·.nodeId), fun x o => { o with nodeId := x }⟩,
    ⟨(·.socketId), fun x o => { o with socketId := x }⟩,
    ⟨(·.numaId), fun x o => { o with numaId := x }⟩,
    ⟨(·.size), fun x o => { o with size := x }⟩,
    ⟨(·.chipId), fun x o => { o with chipId := x }⟩,
    ⟨(·.portId), fun x o => { o with portId := x }⟩]

instance : Faithful UbseMemDebtNumaInfo := ⟨fun _ _ => rfl⟩

instance : AutoSerial UbseMemAlgoResult := .reflect
  [⟨(·.exportNumaInfos), fun x o => { o with exportNumaInfos := x }⟩,
    ⟨(·.importNumaInfos), fun x o => { o with importNumaInfos := x }⟩,
    ⟨(·.blockSize), fun x o => { o with blockSize := x }⟩,
    ⟨(·.attachSocketId), fun x o => { o with attachSocketId := x }⟩]

instance : Faithful UbseMemAlgoResult := ⟨fun _ _ => rfl⟩

instance : AutoSerial UbseMemObmmInfo := .reflect
  [⟨(·.memId), fun x o => { o with memId := x }⟩,
    ⟨(·.desc), fun x o => { o with desc := x }⟩,
    ⟨(·.memIdStatus), fun x o => { o with memIdStatus := x }⟩]

instance : Faithful UbseMemObmmInfo := ⟨fun _ _ => rfl⟩

instance : AutoSerial UbseMemImportResult := .reflect
  [⟨(·.memId), fun x o => { o with memId := x }⟩,
    ⟨(·.numaId), fun x o => { o with numaId := x }⟩]

instance : Faithful UbseMemImportResult := ⟨fun _ _ => rfl⟩

instance : AutoSerial UbseMamiMemImportResult := .reflect
  [⟨(·.marId), fun x o => { o with marId := x }⟩,
    ⟨(·.hpa), fun x o => { o with hpa := x }⟩,
    ⟨(·.handle), fun x o => { o with handle := x }⟩,
    ⟨(·.staticHandle), fun x o => { o with staticHandle := x }⟩,
    ⟨(·.state), fun x o => { o with state := x }⟩]

instance : Faithful UbseMamiMemImportResult := ⟨fun _ _ => rfl⟩

instance : AutoSerial UbseMemLenderLinkInfo := .reflect
  [⟨(·.lenderNode), fun x o => { o with lenderNode := x }⟩,
    ⟨(·.lenderSocketId), fun x o => { o with lenderSocketId := x }⟩,
    ⟨(·.lenderPort), fun x o => { o with lenderPort := x }⟩]

instance : Faithful UbseMemLenderLinkInfo := ⟨fun _ _ => rfl⟩

instance : AutoSerial UbseNodeInfo := .reflect
  [⟨(·.index), fun x o => { o with index := x }⟩,
    ⟨(·.nodeId), fun x o => { o with nodeId := x }⟩,
    ⟨(·.hostName), fun x o => { o with hostName := x }⟩,
    ⟨(·.status), fun x o => { o with status := x }⟩]

instance : Faithful UbseNodeInfo := ⟨fun _ _ => rfl⟩

instance : AutoSerial UbseMemLenderInfo := .reflect
  [⟨(·.lender_size), fun x o => { o with lender_size := x }⟩,
    ⟨(·.nodeId), fun x o => { o with nodeId := x }⟩,
    ⟨(·.socketId), fun x o => { o with socketId := x }⟩,
    ⟨(·.numaId), fun x o => { o with numaId := x }⟩,
    ⟨(·.portId), fun x o => { o with portId := x }⟩]

instance : Faithful UbseMemLenderInfo := ⟨fun _ _ => rfl⟩

instance : AutoSerial UbseMemShmAffinitySocketInfo := .reflect
  [⟨(·.affinitySocketId), fun x o => { o with affinitySocketId := x }⟩,
    ⟨(·.createReqNodeId), fun x o => { o with createReqNodeId := x }⟩,
    ⟨(·.enableCreateWithAffinity), fun x o => { o with enableCreateWithAffinity := x }⟩]

instance : Faithful UbseMemShmAffinitySocketInfo := ⟨fun _ _ => rfl⟩

instance : AutoSerial UbseMemAttachResourceShareAttr := .reflect
  [⟨(·.uid), fun x o => { o with uid := x }⟩,
    ⟨(·.gid), fun x o => { o with gid := x }⟩,
    ⟨(·.size), fun x o => { o with size := x }⟩,
    ⟨(·.owner), fun x o => { o with owner := x }⟩]

instance : Faithful UbseMemAttachResourceShareAttr := ⟨fun _ _ => rfl⟩

instance : AutoSerial UbseShmRegionDesc := .reflect
  [⟨(·.nodeNum), fun x o => { o with nodeNum := x }⟩,
    ⟨(·.nodelist), fun x o => { o with nodelist := x }⟩]

instance : Faithful UbseShmRegionDesc := ⟨fun _ _ => rfl⟩

instance : AutoSerial UbseMemImportStatus := .reflect
  [⟨(·.errCode), fun x o => { o with errCode := x }⟩,
    ⟨(·.scna), fun x o => { o with scna := x }⟩,
    ⟨(·.importResults), fun x o => { o with importResults := x }⟩,
    ⟨(·.decoderResult), fun x o => { o with decoderResult := x }⟩,
    ⟨(·.expectState), fun x o => { o with expectState := x }⟩,
    ⟨(·.state), fun x o => { o with state := x }⟩]

instance : Faithful UbseMemImportStatus := ⟨fun _ _ => rfl⟩

instance : AutoSerial UbseMemExportStatus := .reflect
  [⟨(·.errCode), fun x o => { o with errCode := x }⟩,
    ⟨(·.exportObmmInfo), fun x o => { o with exportObmmInfo := x }⟩,
    ⟨(·.expectState), fun x o => { o with expectState := x }⟩,
    ⟨(·.state), fun x o => { o with state := x }⟩]

instance : Faithful UbseMemExportStatus := ⟨fun _ _ => rfl⟩

/-! ### Requests -/

instance : AutoSerial UbseMemBaseBorrowReq := .reflect
  [⟨(·.name), fun x o => { o with name := x }⟩,
    ⟨(·.requestId), fun x o => { o with requestId := x }⟩,
    ⟨(·.requestNodeId), fun x o => { o with requestNodeId := x }⟩,
    ⟨(·.udsInfo), fun x o => { o with udsInfo := x }⟩,
    ⟨(·.trustRingData), fun x o => { o with trustRingData := x }⟩,
    ⟨(·.ubseMemPrivData), fun x o => { o with ubseMemPrivData := x }⟩]

instance : Faithful UbseMemBaseBorrowReq := ⟨fun _ _ => rfl⟩

instance : AutoSerial UbseMemFdPermissionReq := .reflect
  [⟨(·.base), fun x o => { o with base := x }⟩,
    ⟨(·.fdOwner), fun x o => { o with fdOwner := x }⟩]

instance : Faithful UbseMemFdPermissionReq := ⟨fun _ _ => rfl⟩

instance : AutoSerial UbseMemFdBorrowReq := .reflect
  [⟨(·.base), fun x o => { o with base := x }⟩,
    ⟨(·.importNodeId), fun x o => { o with importNodeId := x }⟩,
    ⟨(·.size), fun x o => { o with size := x }⟩,
    ⟨(·.distance), fun x o => { o with distance := x }⟩,
    ⟨(·.lenderLocs), fun x o => { o with lenderLocs := x }⟩,
    ⟨(·.lenderSizes), fun x o => { o with lenderSizes := x }⟩,
    ⟨(·.candidateNodeList), fun x o => { o with candidateNodeList := x }⟩,
    ⟨(·.owner), fun x o => { o with owner := x }⟩]

instance : Faithful UbseMemFdBorrowReq := ⟨fun _ _ => rfl⟩

instance : AutoSerial UbseMemNumaBorrowReq := .reflect
  [⟨(·.base), fun x o => { o with base := x }⟩,
    ⟨(·.srcSocket), fun x o => { o with srcSocket := x }⟩,
    ⟨(·.srcNuma), fun x o => { o with srcNuma := x }⟩,
    ⟨(·.highWatermark), fun x o => { o with highWatermark := x }⟩,
    ⟨(·.lowWatermark), fun x o => { o with lowWatermark := x }⟩,
    ⟨(·.linkInfo), fun x o => { o with linkInfo := x }⟩,
    ⟨(·.usrInfo), fun x o => { o with usrInfo := x }⟩]

instance : AutoSerial UbseMemShareBorrowReq := .reflect
  [⟨(·.base), fun x o => { o with base := x }⟩,
    ⟨(·.baseNodeId), fun x o => { o with baseNodeId := x }⟩,
    ⟨(·.size), fun x o => { o with size := x }⟩,
    ⟨(·.distance), fun x o => { o with distance := x }⟩,
    ⟨(·.shmRegion), fun x o => { o with shmRegion := x }⟩,
    ⟨(·.providerList), fun x o => { o with providerList := x }⟩,
    ⟨(·.usrInfo), fun x o => { o with usrInfo := x }⟩,
    ⟨(·.shmAnonymous), fun x o => { o with shmAnonymous := x }⟩,
    ⟨(·.withAffinity), fun x o => { o with withAffinity := x }⟩,
    ⟨(·.lenderInfo), fun x o => { o with lenderInfo := x }⟩]

instance : Faithful UbseMemShareBorrowReq := ⟨fun _ _ => rfl⟩

/-- The members of the base class are listed one by one, behind the others. -/
instance : AutoSerial UbseMemAddrBorrowReq := .reflect
  [⟨(·.importNodeId), fun x o => { o with importNodeId := x }⟩,
    ⟨(·.importPid), fun x o => { o with importPid := x }⟩,
    ⟨(·.exportNodeId), fun x o => { o with exportNodeId := x }⟩,
    ⟨(·.exportPid), fun x o => { o with exportPid := x }⟩,
    ⟨(·.srcSocket), fun x o => { o with srcSocket := x }⟩,
    ⟨(·.srcNuma), fun x o => { o with srcNuma := x }⟩,
    ⟨(·.dstSocket), fun x o => { o with dstSocket := x }⟩,
    ⟨(·.dstNuma), fun x o => { o with dstNuma := x }⟩,
    ⟨(·.exportAddrList), fun x o => { o with exportAddrList := x }⟩,
    ⟨(·.base.name), fun x o => { o with base.name := x }⟩,
    ⟨(·.base.requestId), fun x o => { o with base.requestId := x }⟩,
    ⟨(·.base.requestNodeId), fun x o => { o with base.requestNodeId := x }⟩,
    ⟨(·.base.udsInfo), fun x o => { o with base.udsInfo := x }⟩,
    ⟨(·.base.trustRingData), fun x o => { o with base.trustRingData := x }⟩,
    ⟨(·.base.ubseMemPrivData), fun x o => { o with base.ubseMemPrivData := x }⟩]

instance : Faithful UbseMemAddrBorrowReq := ⟨fun _ _ => rfl⟩

instance : AutoSerial UbseMemReturnReq := .reflect
  [⟨(·.base), fun x o => { o with base := x }⟩,
    ⟨(·.uid), fun x o => { o with uid := x }⟩,
    ⟨(·.gid), fun x o => { o with gid := x }⟩,
    ⟨(·.importNodeId), fun x o => { o with importNodeId := x }⟩]

instance : Faithful UbseMemReturnReq := ⟨fun _ _ => rfl⟩

instance : AutoSerial UbseMemShareAttachReq := .reflect
  [⟨(·.base), fun x o => { o with base := x }⟩,
    ⟨(·.importNodeId), fun x o => { o with importNodeId := x }⟩,
    ⟨(·.size), fun x o => { o with size := x }⟩,
    ⟨(·.owner), fun x o => { o with owner := x }⟩]

instance : Faithful UbseMemShareAttachReq := ⟨fun _ _ => rfl⟩

instance : AutoSerial UbseMemShareDetachReq := .reflect
  [⟨(·.base), fun x o => { o with base := x }⟩,
    ⟨(·.unImportNodeId), fun x o => { o with unImportNodeId := x }⟩]

instance : Faithful UbseMemShareDetachReq := ⟨fun _ _ => rfl⟩

/-! ### Objects -/

instance : AutoSerial UbseMemBorrowExportBaseObj := .reflect
  [⟨(·.errorCode), fun x o => { o with errorCode := x }⟩,
    ⟨(·.algoResult), fun x o => { o with algoResult := x }⟩,
    ⟨(·.status), fun x o => { o with status := x }⟩]

instance : AutoSerial UbseMemBorrowImportBaseObj := .reflect
  [⟨(·.errorCode), fun x o => { o with errorCode := x }⟩,
    ⟨(·.algoResult), fun x o => { o with algoResult := x }⟩,
    ⟨(·.exportObmmInfo), fun x o => { o with exportObmmInfo := x }⟩,
    ⟨(·.status), fun x o => { o with status := x }⟩]

instance : AutoSerial UbseMemFdBorrowExportObj := .reflect
  [⟨(·.base), fun x o => { o with base := x }⟩,
    ⟨(·.req), fun x o => { o with req := x }⟩,
    ⟨(·.returnReq), fun x o => { o with returnReq := x }⟩]

instance : AutoSerial UbseMemFdBorrowImportObj := .reflect
  [⟨(·.base), fun x o => { o with base := x }⟩,
    ⟨(·.req), fun x o => { o with req := x }⟩,
    ⟨(·.returnReq), fun x o => { o with returnReq := x }⟩]

instance : AutoSerial UbseMemNumaBorrowExportObj := .reflect
  [⟨(·.base), fun x o => { o with base := x }⟩,
    ⟨(·.req), fun x o => { o with req := x }⟩,
    ⟨(·.returnReq), fun x o => { o with returnReq := x }⟩]

instance : AutoSerial UbseMemNumaBorrowImportObj := .reflect
  [⟨(·.base), fun x o => { o with base := x }⟩,
    ⟨(·.req), fun x o => { o with req := x }⟩,
    ⟨(·.returnReq), fun x o => { o with returnReq := x }⟩]

instance : AutoSerial UbseMemAddrBorrowExportObj := .reflect
  [⟨(·.base.errorCode), fun x o => { o with base.errorCode := x }⟩,
    ⟨(·.req), fun x o => { o with req := x }⟩,
    ⟨(·.returnReq), fun x o => { o with returnReq := x }⟩,
    ⟨(·.base.algoResult), fun x o => { o with base.algoResult := x }⟩,
    ⟨(·.base.status), fun x o => { o with base.status := x }⟩]

instance : AutoSerial UbseMemAddrBorrowImportObj := .reflect
  [⟨(·.base.errorCode), fun x o => { o with base.errorCode := x }⟩,
    ⟨(·.req), fun x o => { o with req := x }⟩,
    ⟨(·.returnReq), fun x o => { o with returnReq := x }⟩,
    ⟨(·.base.algoResult), fun x o => { o with base.algoResult := x }⟩,
    ⟨(·.base.exportObmmInfo), fun x o => { o with base.exportObmmInfo := x }⟩,
    ⟨(·.base.status), fun x o => { o with base.status := x }⟩]

instance : AutoSerial UbseMemShareBorrowExportObj := .reflect
  [⟨(·.base.errorCode), fun x o => { o with base.errorCode := x }⟩,
    ⟨(·.req), fun x o => { o with req := x }⟩,
    ⟨(·.returnReq), fun x o => { o with returnReq := x }⟩,
    ⟨(·.base.algoResult), fun x o => { o with base.algoResult := x }⟩,
    ⟨(·.base.status), fun x o => { o with base.status := x }⟩]

instance : AutoSerial UbseMemShareBorrowImportObj := .reflect
  [⟨(·.realExe), fun x o => { o with realExe := x }⟩,
    ⟨(·.importNodeId), fun x o => { o with importNodeId := x }⟩,
    ⟨(·.shareAttr), fun x o => { o with shareAttr := x }⟩,
    ⟨(·.req), fun x o => { o with req := x }⟩,
    ⟨(·.returnReq), fun x o => { o with returnReq := x }⟩,
    ⟨(·.base.errorCode), fun x o => { o with base.errorCode := x }⟩,
    ⟨(·.base.algoResult), fun x o => { o with base.algoResult := x }⟩,
    ⟨(·.base.exportObmmInfo), fun x o => { o with base.exportObmmInfo := x }⟩,
    ⟨(·.base.status), fun x o => { o with base.status := x }⟩]

/-! ### The objects of a node -/

instance : Bulky UbseMemFdBorrowImportObj := ⟨by decide⟩

instance : Bulky UbseMemFdBorrowExportObj := ⟨by decide⟩

instance : Bulky UbseMemNumaBorrowImportObj := ⟨by decide⟩

instance : Bulky UbseMemNumaBorrowExportObj := ⟨by decide⟩

instance : Bulky UbseMemShareBorrowImportObj := ⟨by decide⟩

instance : Bulky UbseMemShareBorrowExportObj := ⟨by decide⟩

instance : Bulky UbseMemAddrBorrowImportObj := ⟨by decide⟩

instance : Bulky UbseMemAddrBorrowExportObj := ⟨by decide⟩

instance : AutoSerial NodeMemDebtInfo := .reflect
  [⟨(·.fdImportObjMap), fun x o => { o with fdImportObjMap := x }⟩,
    ⟨(·.fdExportObjMap), fun x o => { o with fdExportObjMap := x }⟩,
    ⟨(·.numaImportObjMap), fun x o => { o with numaImportObjMap := x }⟩,
    ⟨(·.numaExportObjMap), fun x o => { o with numaExportObjMap := x }⟩,
    ⟨(·.shareImportObjMap), fun x o => { o with shareImportObjMap := x }⟩,
    ⟨(·.shareExportObjMap), fun x o => { o with shareExportObjMap := x }⟩,
    ⟨(·.addrImportObjMap), fun x o => { o with addrImportObjMap := x }⟩,
    ⟨(·.addrExportObjMap), fun x o => { o with addrExportObjMap := x }⟩]

end Mem

end UbsEngine
