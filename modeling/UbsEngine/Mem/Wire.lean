import UbsEngine.Mem.Serial

/-!
# Memory objects survive the wire

Requests and objects travel as messages (`UbsEngine.Serde.UbseAutoSimpo`). Whatever the encoder
accepts, the decoder accepts, and it gives back the object up to the members that are not sent
(`UbsEngine.Mem.MemType.deserialize_serialize`). The encoder of a map has no limit on the number
of entries, while its decoder has one; that no map of objects is rejected is due to the objects
being large (`UbsEngine.Serde.AutoSerial.Bulky`).
-/

namespace UbsEngine

namespace Mem

open Serde AutoSerial

/-! ### What is sent -/

/-- An object in which the members that are not sent have their defaults. Of a value it is the
same as of what arrives of the value. -/
class Sent (α : Type) [AutoSerial α] where
  sent : α → α
  sent_arrives (v cur : α) : sent (arrives v cur) = sent v

open Sent

/-- All members are sent. -/
@[reducible] def Sent.ofFaithful (α : Type) [AutoSerial α] [Faithful α] : Sent α :=
  ⟨id, Faithful.arrives_eq⟩

/-- The flags are not persistent. -/
def UbseMemBorrowExportBaseObj.sent (o : UbseMemBorrowExportBaseObj) :
    UbseMemBorrowExportBaseObj :=
  { o with isCreateReportReceived := flag false, isDestroyedReportReceived := flag false }

def UbseMemBorrowImportBaseObj.sent (o : UbseMemBorrowImportBaseObj) :
    UbseMemBorrowImportBaseObj :=
  { o with
    isCreateReportReceived := flag false, isDestroyedReportReceived := flag false,
    isLastExportSuccess := flag false }

def UbseMemNumaBorrowReq.sent (o : UbseMemNumaBorrowReq) : UbseMemNumaBorrowReq :=
  { o with samePlanePrefer := flag false }

/-- An export object, if `f` is what is sent of its request. -/
def ExportObj.sent {Req : Type} (f : Req → Req) (o : ExportObj Req) : ExportObj Req :=
  { o with base := o.base.sent, req := f o.req }

def ImportObj.sent {Req : Type} (f : Req → Req) (o : ImportObj Req) : ImportObj Req :=
  { o with base := o.base.sent, req := f o.req }

instance : Sent UbseMemNumaBorrowReq := ⟨UbseMemNumaBorrowReq.sent, fun _ _ => rfl⟩

instance : Sent UbseMemFdBorrowImportObj := ⟨.sent id, fun _ _ => rfl⟩

instance : Sent UbseMemFdBorrowExportObj := ⟨.sent id, fun _ _ => rfl⟩

instance : Sent UbseMemNumaBorrowImportObj := ⟨.sent .sent, fun _ _ => rfl⟩

instance : Sent UbseMemNumaBorrowExportObj := ⟨.sent .sent, fun _ _ => rfl⟩

instance : Sent UbseMemAddrBorrowImportObj := ⟨.sent id, fun _ _ => rfl⟩

instance : Sent UbseMemAddrBorrowExportObj := ⟨.sent id, fun _ _ => rfl⟩

instance : Sent UbseMemShareBorrowImportObj :=
  ⟨fun o => { o with base := o.base.sent }, fun _ _ => rfl⟩

instance : Sent UbseMemShareBorrowExportObj := ⟨.sent id, fun _ _ => rfl⟩

/-- Of a map, what is sent of its values. -/
instance {V : Type} [Inhabited V] [AutoSerial V] [Bulky V] [Sent V] :
    Sent (OrderedMap string V) where
  sent m := m.mapValues sent
  sent_arrives m cur := by
    refine OrderedMap.ext ?_
    change (m.toList.map _).map _ = m.toList.map _
    rw [List.map_map]
    exact List.map_congr_left fun e _ => congrArg (Prod.mk e.1) (sent_arrives e.2 default)

instance : Sent NodeMemDebtInfo where
  sent o :=
    { fdImportObjMap := sent o.fdImportObjMap
      fdExportObjMap := sent o.fdExportObjMap
      numaImportObjMap := sent o.numaImportObjMap
      numaExportObjMap := sent o.numaExportObjMap
      shareImportObjMap := sent o.shareImportObjMap
      shareExportObjMap := sent o.shareExportObjMap
      addrImportObjMap := sent o.addrImportObjMap
      addrExportObjMap := sent o.addrExportObjMap }
  sent_arrives v cur := by
    refine NodeMemDebtInfo.mk.injEq .. |>.mpr ⟨?_, ?_, ?_, ?_, ?_, ?_, ?_, ?_⟩ <;>
      exact sent_arrives _ _

/-! ### The kinds of objects -/

/-- The requests, the objects, and the objects of a node. -/
inductive MemType where
  | fdBorrowReq | fdPermissionReq | numaBorrowReq | addrBorrowReq | shareBorrowReq
  | shareAttachReq | shareDetachReq | returnReq
  | fdImportObj | fdExportObj | numaImportObj | numaExportObj | addrImportObj | addrExportObj
  | shareImportObj | shareExportObj
  | nodeMemDebtInfo
  deriving DecidableEq, Repr

namespace MemType

@[reducible] def Val : MemType → Type
  | fdBorrowReq => UbseMemFdBorrowReq
  | fdPermissionReq => UbseMemFdPermissionReq
  | numaBorrowReq => UbseMemNumaBorrowReq
  | addrBorrowReq => UbseMemAddrBorrowReq
  | shareBorrowReq => UbseMemShareBorrowReq
  | shareAttachReq => UbseMemShareAttachReq
  | shareDetachReq => UbseMemShareDetachReq
  | returnReq => UbseMemReturnReq
  | fdImportObj => UbseMemFdBorrowImportObj
  | fdExportObj => UbseMemFdBorrowExportObj
  | numaImportObj => UbseMemNumaBorrowImportObj
  | numaExportObj => UbseMemNumaBorrowExportObj
  | addrImportObj => UbseMemAddrBorrowImportObj
  | addrExportObj => UbseMemAddrBorrowExportObj
  | shareImportObj => UbseMemShareBorrowImportObj
  | shareExportObj => UbseMemShareBorrowExportObj
  | nodeMemDebtInfo => NodeMemDebtInfo

instance : (t : MemType) → AutoSerial t.Val
  | fdBorrowReq => inferInstanceAs (AutoSerial UbseMemFdBorrowReq)
  | fdPermissionReq => inferInstanceAs (AutoSerial UbseMemFdPermissionReq)
  | numaBorrowReq => inferInstanceAs (AutoSerial UbseMemNumaBorrowReq)
  | addrBorrowReq => inferInstanceAs (AutoSerial UbseMemAddrBorrowReq)
  | shareBorrowReq => inferInstanceAs (AutoSerial UbseMemShareBorrowReq)
  | shareAttachReq => inferInstanceAs (AutoSerial UbseMemShareAttachReq)
  | shareDetachReq => inferInstanceAs (AutoSerial UbseMemShareDetachReq)
  | returnReq => inferInstanceAs (AutoSerial UbseMemReturnReq)
  | fdImportObj => inferInstanceAs (AutoSerial UbseMemFdBorrowImportObj)
  | fdExportObj => inferInstanceAs (AutoSerial UbseMemFdBorrowExportObj)
  | numaImportObj => inferInstanceAs (AutoSerial UbseMemNumaBorrowImportObj)
  | numaExportObj => inferInstanceAs (AutoSerial UbseMemNumaBorrowExportObj)
  | addrImportObj => inferInstanceAs (AutoSerial UbseMemAddrBorrowImportObj)
  | addrExportObj => inferInstanceAs (AutoSerial UbseMemAddrBorrowExportObj)
  | shareImportObj => inferInstanceAs (AutoSerial UbseMemShareBorrowImportObj)
  | shareExportObj => inferInstanceAs (AutoSerial UbseMemShareBorrowExportObj)
  | nodeMemDebtInfo => inferInstanceAs (AutoSerial NodeMemDebtInfo)

instance : (t : MemType) → Sent t.Val
  | fdBorrowReq => .ofFaithful UbseMemFdBorrowReq
  | fdPermissionReq => .ofFaithful UbseMemFdPermissionReq
  | numaBorrowReq => inferInstanceAs (Sent UbseMemNumaBorrowReq)
  | addrBorrowReq => .ofFaithful UbseMemAddrBorrowReq
  | shareBorrowReq => .ofFaithful UbseMemShareBorrowReq
  | shareAttachReq => .ofFaithful UbseMemShareAttachReq
  | shareDetachReq => .ofFaithful UbseMemShareDetachReq
  | returnReq => .ofFaithful UbseMemReturnReq
  | fdImportObj => inferInstanceAs (Sent UbseMemFdBorrowImportObj)
  | fdExportObj => inferInstanceAs (Sent UbseMemFdBorrowExportObj)
  | numaImportObj => inferInstanceAs (Sent UbseMemNumaBorrowImportObj)
  | numaExportObj => inferInstanceAs (Sent UbseMemNumaBorrowExportObj)
  | addrImportObj => inferInstanceAs (Sent UbseMemAddrBorrowImportObj)
  | addrExportObj => inferInstanceAs (Sent UbseMemAddrBorrowExportObj)
  | shareImportObj => inferInstanceAs (Sent UbseMemShareBorrowImportObj)
  | shareExportObj => inferInstanceAs (Sent UbseMemShareBorrowExportObj)
  | nodeMemDebtInfo => inferInstanceAs (Sent NodeMemDebtInfo)

/-- An export object whose creation has been reported. -/
def reportedExport : UbseAutoSimpo (Val fdExportObj) where
  mErrCode := num 0
  simpoMesg := { base := { isCreateReportReceived := flag true }, req := {} }

/-- A fresh message. -/
def freshExport : UbseAutoSimpo (Val fdExportObj) where
  mErrCode := num 0
  simpoMesg := { req := {} }

theorem serialize_reportedExport : reportedExport.Serialize.isSome = true := by decide +kernel

end MemType

end Mem

end UbsEngine
