import UbsEngine.Library.Run
import UbsEngine.Scheduler.Meter

/-!
# Shared memory across the nodes

Shared memory is exported by one node and attached by any number of others. The master places the
export and keeps the ledger, the nodes carry exports and imports out and report. Every node runs the
same process (`UbsEngine.Share.Process`); an object that is sent to a node is carried out there if
it asks for that, and is otherwise a report to the master, so that any node may be the master at any
time.

The scheduler of a process is told the states that the objects go through, those of exports as well
as those of imports. What it is told is kept here with its state before and after
(`UbsEngine.Share.Process.told`). Which node the topology gives for an import, whether a message is
sent, and what OBMM answers come with each step.
-/

namespace UbsEngine

namespace Share

open Scheduler

/-! ### The objects -/

/-- `UbseMemShareBorrowExportObj`. -/
structure UbseMemShareBorrowExportObj where
  req : UbseMemShareBorrowReq
  algoResult : UbseMemAlgoResult := {}
  /-- The ids of the memory that OBMM has exported. -/
  exportObmmInfo : List Nat := []
  state : UbseMemState
  expectState : UbseMemState := .init
  isCreateReportReceived : Bool := false
  isDestroyedReportReceived : Bool := false

/-- `UbseMemShareBorrowImportObj`. -/
structure UbseMemShareBorrowImportObj where
  req : UbseMemShareBorrowReq
  importNodeId : NodeId
  algoResult : UbseMemAlgoResult := {}
  exportObmmInfo : List Nat := []
  state : UbseMemState
  expectState : UbseMemState := .init
  isCreateReportReceived : Bool := false
  isDestroyedReportReceived : Bool := false

/-- The side of an object. -/
inductive Side
  | exporting
  | importing
  deriving DecidableEq

/-- What the scheduler is told: the state of an object. -/
structure Told where
  side : Side
  cluster : Cluster
  choice : Choice
  obj : MemObj

/-- An object that is sent to a node. -/
inductive Message
  | exportObj (obj : UbseMemShareBorrowExportObj)
  | importObj (obj : UbseMemShareBorrowImportObj)

/-- The process of a node. The ledger keeps an export under its node and name, and an import under
the importing node and its name. -/
structure Process where
  scheduler : SchedulerImpl
  exports : Map (NodeId × String) UbseMemShareBorrowExportObj := ∅
  imports : Map (NodeId × String) UbseMemShareBorrowImportObj := ∅
  /-- What the scheduler was told so far, with its state before and after. -/
  told : List (Transition SchedulerImpl Told) := []

/-- What comes with a step from outside the objects. -/
structure Surroundings where
  cluster : Cluster
  choice : Choice
  /-- Whether a message reaches the node it is sent to. -/
  sent : Bool
  /-- Which node is the master for a node that reports. -/
  master : NodeId
  /-- Whether the chips, the decoder and the signature let an order through. -/
  prepared : Bool
  /-- The memory that OBMM exports; nothing if it fails. -/
  exported : Option (List Nat)
  /-- Whether OBMM takes memory back or imports it. -/
  executed : Bool

/-- `UbseMemShareAttachReq`. -/
structure UbseMemShareAttachReq where
  name : String
  importNodeId : NodeId
  requestNodeId : NodeId
  /-- The size of the export if it is `0`. -/
  size : Nat := 0

namespace UbseMemShareBorrowExportObj

/-- `exportNumaInfos[0].nodeId`. -/
def exportNodeId (obj : UbseMemShareBorrowExportObj) : NodeId :=
  (obj.algoResult.exportNumaInfos.head?.map (·.nodeId)).getD ""

/-- What the scheduler sees of an export. -/
def memObj (obj : UbseMemShareBorrowExportObj) : MemObj := ⟨.shm obj.req, obj.algoResult, obj.state⟩

end UbseMemShareBorrowExportObj

namespace UbseMemShareBorrowImportObj

/-- `exportNumaInfos[0].nodeId`. -/
def exportNodeId (obj : UbseMemShareBorrowImportObj) : NodeId :=
  (obj.algoResult.exportNumaInfos.head?.map (·.nodeId)).getD ""

/-- What the scheduler sees of an import. -/
def memObj (obj : UbseMemShareBorrowImportObj) : MemObj := ⟨.shm obj.req, obj.algoResult, obj.state⟩

end UbseMemShareBorrowImportObj

namespace Process

variable (p : Process) (around : Surroundings)

/-- `SchedulerImpl::MemoryObjChangeHandler`. -/
def tell (side : Side) (obj : MemObj) : Process × UbseMemAlgoResult × UbseResult :=
  let (scheduler, placed, ret) :=
    memoryObjChangeHandler p.scheduler around.cluster around.choice obj
  ({ p with
      scheduler
      told := p.told ++ [⟨p.scheduler, ⟨side, around.cluster, around.choice, obj⟩, scheduler⟩] },
    placed.algoResult, ret)

def tellExport (obj : UbseMemShareBorrowExportObj) : Process :=
  (p.tell around .exporting obj.memObj).1

def tellImport (obj : UbseMemShareBorrowImportObj) : Process :=
  (p.tell around .importing obj.memObj).1

/-! ### The ledger -/

/-- `ShareExportUpdateState`. -/
def shareExportUpdateState (obj : UbseMemShareBorrowExportObj) (state : UbseMemState) : Process :=
  if obj.algoResult.exportNumaInfos = [] then p
  else
    { p with exports := p.exports.insert (obj.exportNodeId, obj.req.name) { obj with state } }

/-- `EraseShareExport`. -/
def eraseShareExport (obj : UbseMemShareBorrowExportObj) : Process :=
  if obj.algoResult.exportNumaInfos = [] then p
  else { p with exports := p.exports.erase (obj.exportNodeId, obj.req.name) }

/-- `ShareImportUpdateState`. -/
def shareImportUpdateState (obj : UbseMemShareBorrowImportObj) (state : UbseMemState) : Process :=
  { p with imports := p.imports.insert (obj.importNodeId, obj.req.name) { obj with state } }

/-- `EraseShareImport`. -/
def eraseShareImport (obj : UbseMemShareBorrowImportObj) : Process :=
  { p with imports := p.imports.erase (obj.importNodeId, obj.req.name) }

/-- `HasAgentAlreadyReported` for exports: whether a report is still to be dealt with, which is
noted. -/
def firstExportReport (key : NodeId × String)
    (received : UbseMemShareBorrowExportObj → Bool)
    (mark : UbseMemShareBorrowExportObj → UbseMemShareBorrowExportObj) : Process × Bool :=
  match p.exports.lookup key with
  | none => (p, true)
  | some obj =>
    if received obj then (p, false)
    else ({ p with exports := p.exports.insert key (mark obj) }, true)

/-- `HasAgentAlreadyReported` for imports. -/
def firstImportReport (key : NodeId × String)
    (received : UbseMemShareBorrowImportObj → Bool)
    (mark : UbseMemShareBorrowImportObj → UbseMemShareBorrowImportObj) : Process × Bool :=
  match p.imports.lookup key with
  | none => (p, true)
  | some obj =>
    if received obj then (p, false)
    else ({ p with imports := p.imports.insert key (mark obj) }, true)

/-- The imports of a name that are there, and from one exporting node if one is given. -/
def importsOf (name : String) (base : Option NodeId) : List UbseMemShareBorrowImportObj :=
  (p.imports.entries.map (·.2)).filter fun obj =>
    obj.req.name = name ∧ obj.state ≠ .importDestroyed ∧ ∀ n ∈ base, obj.exportNodeId = n

/-- `FindShareBorrowObjByName`. Of the exporting nodes of a name the one with the most imports is
taken; which that is comes with the step. -/
def findShareBorrowObjByName (name : String) (base : Option NodeId) :
    Option UbseMemShareBorrowExportObj × List UbseMemShareBorrowImportObj :=
  (base.bind fun n => (p.exports.lookup (n, name)).filter fun obj => obj.state = .exportSuccess,
    p.importsOf name base)

/-! ### Creating and deleting -/

/-- `ShareAllocate`: the scheduler is asked again while a node is being reconciled. -/
def shareAllocate (around : Surroundings) : List (Cluster × Choice) → Process →
    UbseMemShareBorrowExportObj → Process × UbseMemShareBorrowExportObj × UbseResult
  | [], p, obj => (p, obj, .error .nodeReconcile)
  | (cluster, choice) :: attempts, p, obj =>
    let (p, algoResult, ret) := p.tell { around with cluster, choice } .exporting obj.memObj
    let obj := { obj with algoResult }
    if ret = .error .nodeReconcile then shareAllocate around attempts p obj else (p, obj, ret)

/-- `HandleSendExportError`. -/
def handleSendExportError (obj : UbseMemShareBorrowExportObj) : Process :=
  (p.eraseShareExport obj).tellExport around { obj with state := .failed }

/-- `UbseMemShareBorrow`. `valid` is whether the feature is supported and the affinity known. -/
def ubseMemShareBorrow (req : UbseMemShareBorrowReq) (valid : Bool)
    (attempts : List (Cluster × Choice)) : Process × List (NodeId × Message) :=
  let found := (p.exports.entries.map (·.2)).any fun obj =>
    obj.req.name = req.name ∧ obj.state ≠ .exportDestroyed
  if ¬valid ∨ found ∨ p.importsOf req.name none ≠ [] then (p, [])
  else
    match shareAllocate around attempts p { req, state := .scheduling } with
    | (p, _, .error _) => (p, [])
    | (p, obj, .ok ()) =>
      let obj := { obj with state := .exportRunning, expectState := .exportSuccess }
      let p := p.shareExportUpdateState obj .exportRunning
      if around.sent then (p, [(obj.exportNodeId, .exportObj obj)])
      else (p.handleSendExportError around obj, [])

/-- `UbseMemShareReturn`. -/
def ubseMemShareReturn (name : String) (base : Option NodeId) (permitted : Bool) :
    Process × List (NodeId × Message) :=
  match p.findShareBorrowObjByName name base with
  | (some obj, []) =>
    if permitted then
      let obj :=
        { obj with
          expectState := .exportDestroyed
          isDestroyedReportReceived := false
          state := .exportDestroying }
      let p := p.shareExportUpdateState obj .exportDestroying
      if around.sent then (p, [(obj.exportNodeId, .exportObj obj)])
      else (p.shareExportUpdateState obj .exportSuccess, [])
    else (p, [])
  | _ => (p, [])

/-! ### Attaching and detaching -/

/-- The object of an attachment, as `PrepareShareAttachImportObj` and `ConstructShareImportObj` make
it: a share has no import locations when it is placed, so the importing node is added here. -/
def shareImportObj (req : UbseMemShareAttachReq) (obj : UbseMemShareBorrowExportObj)
    (attachSocketId : SocketId) : UbseMemShareBorrowImportObj :=
  let attachSocketId :=
    if obj.exportNodeId = req.importNodeId then obj.algoResult.attachSocketId else attachSocketId
  { req :=
      { obj.req with
        name := req.name
        requestNodeId := req.requestNodeId
        size := if req.size = 0 then obj.req.size else req.size }
    importNodeId := req.importNodeId
    exportObmmInfo := obj.exportObmmInfo
    algoResult :=
      { obj.algoResult with
        attachSocketId
        importNumaInfos :=
          obj.algoResult.importNumaInfos ++
            (obj.algoResult.exportNumaInfos.take 1).map fun info =>
              { nodeId := req.importNodeId
                socketId := asInt32 attachSocketId
                numaId := info.numaId
                size := info.size } }
    state := .importRunning
    expectState := .importSuccess }

/-- `UbseMemShareAttach`. -/
def ubseMemShareAttach (req : UbseMemShareAttachReq) (base : Option NodeId) (permitted : Bool)
    (attachSocketId : SocketId) : Process × List (NodeId × Message) :=
  let (exportObj, importObjs) := p.findShareBorrowObjByName req.name base
  match exportObj with
  | none => (p, [])
  | some obj =>
    if obj.algoResult.exportNumaInfos = [] ∨ obj.exportObmmInfo = [] ∨
        req.importNodeId ∉ obj.req.shmRegion ∨ ¬permitted ∨
        (importObjs.any fun existing => existing.importNodeId = req.importNodeId) ∨
        (obj.exportNodeId ≠ req.importNodeId ∧ ¬around.prepared) then (p, [])
    else
      let importObj := shareImportObj req obj attachSocketId
      let p := p.shareImportUpdateState importObj .importRunning
      if around.sent then (p, [(req.importNodeId, .importObj importObj)])
      else (p.eraseShareImport importObj, [])

/-- `UbseMemShareDetach`. -/
def ubseMemShareDetach (name : String) (unImportNodeId : NodeId) (base : Option NodeId)
    (permitted : Bool) : Process × List (NodeId × Message) :=
  match (p.findShareBorrowObjByName name base).2.find? fun obj =>
      obj.importNodeId = unImportNodeId with
  | none => (p, [])
  | some obj =>
    if obj.state = .importRunning ∨ obj.state = .importDestroying ∨ ¬permitted then (p, [])
    else
      let obj :=
        { obj with
          expectState := .importDestroyed
          state := .importDestroying
          isDestroyedReportReceived := false }
      let p := p.shareImportUpdateState obj .importDestroying
      if around.sent then (p, [(unImportNodeId, .importObj obj)])
      else
        (p.shareImportUpdateState { obj with expectState := .importSuccess } .importSuccess, [])

/-! ### Carrying out -/

/-- What is reported to the master. -/
def report (message : Message) : List (NodeId × Message) :=
  if around.sent then [(around.master, message)] else []

/-- `ShareExportRunningAgentCallback`. -/
def shareExportRunningAgentCallback (obj : UbseMemShareBorrowExportObj) :
    Process × List (NodeId × Message) :=
  if ((p.exports.lookup (obj.exportNodeId, obj.req.name)).any fun old =>
      old.state = .exportSuccess) then (p, [])
  else
    let p := p.shareExportUpdateState obj .exportRunning
    let destroyed := { obj with state := .exportDestroyed }
    match around.exported with
    | none => (p.eraseShareExport obj, report around (.exportObj destroyed))
    | some exportObmmInfo =>
      if around.prepared then
        let obj := { obj with exportObmmInfo, state := .exportSuccess }
        (p.shareExportUpdateState obj .exportSuccess, report around (.exportObj obj))
      else
        (p.eraseShareExport obj, report around (.exportObj { destroyed with exportObmmInfo }))

/-- `ShareExportDestroyingAgentCallback`. -/
def shareExportDestroyingAgentCallback (obj : UbseMemShareBorrowExportObj) :
    Process × List (NodeId × Message) :=
  let destroyed := { obj with state := .exportDestroyed }
  match p.exports.lookup (obj.exportNodeId, obj.req.name) with
  | none => (p, report around (.exportObj destroyed))
  | some _ =>
    let p := p.shareExportUpdateState obj .exportDestroying
    if around.executed then
      (p.eraseShareExport obj, report around (.exportObj destroyed))
    else
      (p.shareExportUpdateState obj .exportSuccess,
        report around (.exportObj { obj with state := .exportSuccess }))

/-- `ShareImportRunningAgentCallBack`. -/
def shareImportRunningAgentCallBack (obj : UbseMemShareBorrowImportObj) :
    Process × List (NodeId × Message) :=
  if ((p.imports.lookup (obj.importNodeId, obj.req.name)).any fun old =>
      old.state = .importSuccess) then (p, [])
  else
    let destroyed := { obj with state := .importDestroyed }
    -- a node that imports from itself has no decoder to set
    if obj.importNodeId ≠ obj.exportNodeId ∧ ¬around.prepared then
      (p, report around (.importObj destroyed))
    else
      let p := p.shareImportUpdateState obj .importRunning
      if around.executed then
        (p.shareImportUpdateState obj .importSuccess,
          report around (.importObj { obj with state := .importSuccess }))
      else (p.eraseShareImport obj, report around (.importObj destroyed))

/-- `ShareImportDestroyingAgentCallBack`. -/
def shareImportDestroyingAgentCallBack (obj : UbseMemShareBorrowImportObj) :
    Process × List (NodeId × Message) :=
  let destroyed := { obj with state := .importDestroyed }
  match p.imports.lookup (obj.importNodeId, obj.req.name) with
  | none => (p.eraseShareImport obj, report around (.importObj destroyed))
  | some _ =>
    let p := p.shareImportUpdateState obj .importDestroying
    if around.executed then (p.eraseShareImport obj, report around (.importObj destroyed))
    else
      (p.shareImportUpdateState obj .importAbnormal,
        report around (.importObj { obj with state := .importAbnormal }))

/-! ### Reports -/

/-- `ShareExportMasterCallback`. -/
def shareExportMasterCallback (obj : UbseMemShareBorrowExportObj) : Process :=
  let key := (obj.exportNodeId, obj.req.name)
  if obj.expectState = .exportSuccess then
    match p.firstExportReport key (·.isCreateReportReceived)
        fun old => { old with isCreateReportReceived := true } with
    | (p, false) => p
    | (p, true) =>
      let obj := { obj with isCreateReportReceived := true }
      if obj.state = .exportDestroyed then
        (p.eraseShareExport obj).tellExport around { obj with state := .failed }
      else (p.shareExportUpdateState obj .exportSuccess).tellExport around obj
  else if obj.expectState = .exportDestroyed then
    match p.firstExportReport key (·.isDestroyedReportReceived)
        fun old => { old with isDestroyedReportReceived := true } with
    | (p, false) => p
    | (p, true) =>
      let obj := { obj with isDestroyedReportReceived := true }
      if obj.state = .exportDestroyed then (p.eraseShareExport obj).tellExport around obj
      else p.shareExportUpdateState obj .exportSuccess
  else p

/-- `ShareImportMasterCallBack`. -/
def shareImportMasterCallBack (obj : UbseMemShareBorrowImportObj) : Process :=
  let key := (obj.importNodeId, obj.req.name)
  if obj.expectState = .importSuccess then
    match p.firstImportReport key (·.isCreateReportReceived)
        fun old => { old with isCreateReportReceived := true } with
    | (p, false) => p
    | (p, true) =>
      let obj := { obj with isCreateReportReceived := true }
      if obj.state = .importSuccess then
        (p.shareImportUpdateState obj obj.state).tellImport around obj
      else p.eraseShareImport obj
  else if obj.expectState = .importDestroyed then
    match p.firstImportReport key (·.isDestroyedReportReceived)
        fun old => { old with isDestroyedReportReceived := true } with
    | (p, false) => p
    | (p, true) =>
      let obj := { obj with isDestroyedReportReceived := true }
      if obj.state = .importDestroyed then (p.eraseShareImport obj).tellImport around obj
      else p.shareImportUpdateState obj obj.state
  else p

/-- `UbseMemShareBorrowExportObjCallback`. -/
def exportObjCallback (nodeId : NodeId) (obj : UbseMemShareBorrowExportObj) :
    Process × List (NodeId × Message) :=
  if obj.algoResult.exportNumaInfos = [] then (p, [])
  else if obj.exportNodeId = nodeId ∧ obj.state = .exportRunning then
    p.shareExportRunningAgentCallback around obj
  else if obj.exportNodeId = nodeId ∧ obj.state = .exportDestroying then
    p.shareExportDestroyingAgentCallback around obj
  else (p.shareExportMasterCallback around obj, [])

/-- `UbseMemShareBorrowImportObjCallback`. -/
def importObjCallback (nodeId : NodeId) (obj : UbseMemShareBorrowImportObj) :
    Process × List (NodeId × Message) :=
  if obj.importNodeId = nodeId ∧ obj.state = .importRunning then
    p.shareImportRunningAgentCallBack around obj
  else if obj.importNodeId = nodeId ∧ obj.state = .importDestroying then
    p.shareImportDestroyingAgentCallBack around obj
  else (p.shareImportMasterCallBack around obj, [])

/-! ### Reconciling -/

/-- `AddShareExport`. -/
def addShareExport (obj : UbseMemShareBorrowExportObj) : Process :=
  if obj.state = .exportDestroyed then (p.eraseShareExport obj).tellExport around obj
  else (p.shareExportUpdateState obj obj.state).tellExport around obj

/-- `AddShareImport`. -/
def addShareImport (obj : UbseMemShareBorrowImportObj) : Process :=
  if obj.state = .importDestroyed then (p.eraseShareImport obj).tellImport around obj
  else (p.shareImportUpdateState obj obj.state).tellImport around obj

/-- `UpdateSchedulerCache` for shared memory: the objects of the ledger in the order in which it is
gone through. -/
def updateSchedulerCache (exportKeys importKeys : List (NodeId × String)) : Process :=
  let p := exportKeys.foldl (fun p key =>
    match p.exports.lookup key with
    | none => p
    | some obj => p.tellExport around obj) p
  importKeys.foldl (fun p key =>
    match p.imports.lookup key with
    | none => p
    | some obj => p.tellImport around obj) p

end Process

/-! ### The nodes -/

/-- What a process does in a step. -/
inductive Operation
  | create (req : UbseMemShareBorrowReq) (valid : Bool) (attempts : List (Cluster × Choice))
  | delete (name : String) (base : Option NodeId) (permitted : Bool)
  | attach (req : UbseMemShareAttachReq) (base : Option NodeId) (permitted : Bool)
      (attachSocketId : SocketId)
  | detach (name : String) (unImportNodeId : NodeId) (base : Option NodeId) (permitted : Bool)
  | receive (message : Message)
  | addExport (obj : UbseMemShareBorrowExportObj)
  | addImport (obj : UbseMemShareBorrowImportObj)
  | updateSchedulerCache (exportKeys importKeys : List (NodeId × String))
  /-- The scheduler is told of something else: a node or memory that is not shared. -/
  | other (event : SchedulerEvent)

/-- A step of a node. -/
structure Step where
  nodeId : NodeId
  around : Surroundings
  operation : Operation

/-- What a step makes of a process, and what it sends. -/
def Process.perform (p : Process) (nodeId : NodeId) (around : Surroundings) :
    Operation → Process × List (NodeId × Message)
  | .create req valid attempts => p.ubseMemShareBorrow around req valid attempts
  | .delete name base permitted => p.ubseMemShareReturn around name base permitted
  | .attach req base permitted attachSocketId =>
    p.ubseMemShareAttach around req base permitted attachSocketId
  | .detach name unImportNodeId base permitted =>
    p.ubseMemShareDetach around name unImportNodeId base permitted
  | .receive (.exportObj obj) => p.exportObjCallback around nodeId obj
  | .receive (.importObj obj) => p.importObjCallback around nodeId obj
  | .addExport obj => (p.addShareExport around obj, [])
  | .addImport obj => (p.addShareImport around obj, [])
  | .updateSchedulerCache exportKeys importKeys =>
    (p.updateSchedulerCache around exportKeys importKeys, [])
  | .other event => ({ p with scheduler := p.scheduler.step event }, [])

/-- All nodes, and every message that was sent: it may arrive late, or again, or never. -/
structure Nodes where
  process : NodeId → Process
  sent : List (NodeId × Message) := []

/-- Whether a step can be made: a message was sent to the node, and an object that is reconciled
comes from the ledger of a node, as it is there or because it is gone. -/
def Nodes.Enabled (s : Nodes) (step : Step) : Prop :=
  match step.operation with
  | .receive message => (step.nodeId, message) ∈ s.sent
  | .addExport obj => ∃ n key old, (s.process n).exports.lookup key = some old ∧
      (obj = old ∨ obj = { old with state := .exportDestroyed })
  | .addImport obj => ∃ n key old, (s.process n).imports.lookup key = some old ∧
      (obj = old ∨ obj = { old with state := .importDestroyed })
  | _ => True

/-- The nodes after a step. -/
def Nodes.next (s : Nodes) (step : Step) : Nodes :=
  let (p, sent) := (s.process step.nodeId).perform step.nodeId step.around step.operation
  { process := Function.update s.process step.nodeId p
    sent := s.sent ++ sent }

/-- Shared memory from empty ledgers on, whatever the schedulers know. -/
def sharing : System Nodes Step where
  init s := s.sent = [] ∧ ∀ n, (s.process n).exports = ∅ ∧ (s.process n).imports = ∅ ∧
    (s.process n).told = []
  step s step t := s.Enabled step ∧ s.next step = t

end Share

end UbsEngine
