import UbsEngine.Scheduler.Overdraw
import UbsEngine.Share.Controller

/-!
# Attaching shared memory does not touch the accounting

What a numa shares and how many blocks a socket has exported is moved by exports only: when one is
placed or succeeds, when it is gone, and when it fails. An import has states of its own
(`UbsEngine.Share.IsImportState`), wherever its object is: in a ledger or on the way between nodes.
None of them moves these counters, under whatever account they are recorded, so that it does not
matter whether the account of an import is that of the export, as it is when a node imports from
itself (`UbsEngine.Share.told_keepsAccounting`).
-/

namespace UbsEngine

namespace Share

open Scheduler

/-- The counters of the pool: the shared bytes of numas and the exported blocks of sockets. -/
def OfPool (m : Meter) : Prop :=
  (∃ numaId, m.meter = .shared numaId) ∨ ∃ socketId, m.meter = .lentCount socketId

/-- The states of exports in which something is charged or given back. -/
def ChargesExport : UbseMemState → Prop
  | .scheduling | .exportSuccess | .exportDestroyed | .failed => True
  | _ => False

/-- The states of imports. -/
def IsImportState : UbseMemState → Prop
  | .importRunning | .importSuccess | .importDestroying | .importDestroyingWait
  | .importDestroyed | .importAbnormal => True
  | _ => False

theorem IsImportState.not_chargesExport {state : UbseMemState} (h : IsImportState state) :
    ¬ChargesExport state := by
  cases state <;> first | exact id | exact h.elim

/-! ### What the scheduler makes of a state -/

section Scheduler

variable {m : Meter} (account : SchedulerAccountInfo) (mgr : SchedulerNodeManager)

theorem importLocCharge_of_pool (hm : OfPool m) :
    ∀ x ∈ account.importNumaLocs.map (account.importLocCharge m), x = 0 := by
  intro x hx
  obtain ⟨info, -, rfl⟩ := List.mem_map.1 hx
  rw [SchedulerAccountInfo.importLocCharge]
  rcases hm with ⟨numaId, hm⟩ | ⟨socketId, hm⟩
  · rw [hm]
  · rw [hm]

/-- The import side of an account charges what sockets borrow and nothing else. -/
theorem read_addImport_of_pool (hm : OfPool m) : (account.addImport mgr).read m = mgr.read m := by
  have hfold : (fun v => (account.importNumaLocs.map (account.importLocCharge m)).foldl bump v) =
      id :=
    funext fun v => SchedulerAccountInfo.foldl_of_zeros bump_zero
      (importLocCharge_of_pool account hm) v
  rw [account.read_addImport, hfold, Option.map_id_fun, id]

theorem read_subImport_of_pool (hm : OfPool m) : (account.subImport mgr).read m = mgr.read m := by
  have hfold : (fun v => (account.importNumaLocs.map (account.importLocCharge m)).foldl drop v) =
      id :=
    funext fun v => SchedulerAccountInfo.foldl_of_zeros drop_zero
      (importLocCharge_of_pool account hm) v
  rw [account.read_subImport, hfold, Option.map_id_fun, id]

/-- **A state that charges no export keeps the counters of the pool**, whatever the account. -/
theorem read_updateAccountState_of_pool (hm : OfPool m) {state : UbseMemState}
    (h : ¬ChargesExport state) :
    (account.updateAccountState mgr state).2.read m = mgr.read m := by
  have hadd := read_addImport_of_pool account mgr hm
  have hsub := read_subImport_of_pool account mgr hm
  rw [SchedulerAccountInfo.updateAccountState]
  -- in each state of the account only an import comes or goes
  cases account.state with
  | importExportExist =>
    cases state with
    | failed | exportDestroyed => exact absurd trivial h
    | importDestroyed => exact hsub
    | _ => rfl
  | onlyExportExist =>
    cases state with
    | failed | exportDestroyed => exact absurd trivial h
    | importSuccess => exact hadd
    | _ => rfl
  | onlyImportExist =>
    cases state with
    | failed | exportSuccess => exact absurd trivial h
    | importDestroyed => exact hsub
    | _ => rfl
  | bothNotExist =>
    cases state with
    | scheduling | exportSuccess => exact absurd trivial h
    | importSuccess => exact hadd
    | _ => rfl

/-- **What the scheduler is told keeps the counters of the pool**, unless it is a state that charges
an export. -/
theorem read_memoryObjChangeHandler_of_pool (hm : OfPool m) (s : SchedulerImpl) (cluster : Cluster)
    (choice : Choice) {obj : MemObj} (h : ¬ChargesExport obj.state) :
    (memoryObjChangeHandler s cluster choice obj).1.nodeInfo.read m = s.nodeInfo.read m := by
  have hscheduling : obj.state ≠ .scheduling := fun heq => h (heq ▸ trivial)
  rw [memoryObjChangeHandler, if_neg hscheduling]
  change ((s.account.updateSchedulerAccount s.nodeInfo obj.req.name obj.algoResult obj.state
    obj.req.type).1.2).read m = _
  rcases s.account.updateSchedulerAccount_cases s.nodeInfo obj.req.name obj.algoResult obj.state
    obj.req.type with heq | ⟨account, -, heq⟩
  · rw [heq]
  · rw [heq]
    exact read_updateAccountState_of_pool account s.nodeInfo hm h

end Scheduler

/-! ### What the scheduler is told -/

/-- **What a state that the scheduler is told does to the counters of the pool**: nothing if it is
that of an import, and something only if it is that of an export that is placed, succeeds, is gone
or fails. -/
structure KeepsAccounting (x : Transition SchedulerImpl Told) : Prop where
  importing : x.event.side = .importing →
    ∀ m, OfPool m → x.post.nodeInfo.read m = x.pre.nodeInfo.read m
  exporting : ∀ m, OfPool m → x.post.nodeInfo.read m ≠ x.pre.nodeInfo.read m →
    x.event.side = .exporting ∧ ChargesExport x.event.obj.state

/-- What holds of a process in every run: its imports are in states of imports, and what the
scheduler was told has kept the accounting. -/
structure Proper (p : Process) : Prop where
  imports : ∀ key obj, p.imports.lookup key = some obj → IsImportState obj.state
  told : ∀ x ∈ p.told, KeepsAccounting x

/-- The imports among some messages are in states of imports. -/
def ProperMessages (messages : List (NodeId × Message)) : Prop :=
  ∀ n obj, (n, Message.importObj obj) ∈ messages → IsImportState obj.state

theorem properMessages_nil : ProperMessages [] := fun _ _ h => nomatch h

theorem properMessages_exportObj (n : NodeId) (obj : UbseMemShareBorrowExportObj) :
    ProperMessages [(n, .exportObj obj)] := by
  intro n' obj' h
  cases List.mem_singleton.1 h

theorem properMessages_importObj {n : NodeId} {obj : UbseMemShareBorrowImportObj}
    (h : IsImportState obj.state) : ProperMessages [(n, .importObj obj)] := by
  intro n' obj' hmem
  obtain ⟨-, heq⟩ := Prod.mk.inj (List.mem_singleton.1 hmem)
  obtain rfl : obj' = obj := Message.importObj.inj heq
  exact h

theorem properMessages_report (around : Surroundings) {message : Message}
    (h : ∀ obj, message = .importObj obj → IsImportState obj.state) :
    ProperMessages (Process.report around message) := by
  rw [Process.report]
  split
  · intro n' obj' hmem
    exact h obj' (Prod.mk.inj (List.mem_singleton.1 hmem)).2.symm
  · exact properMessages_nil

namespace Proper

variable {p : Process} {around : Surroundings}

theorem tell (h : Proper p) (around : Surroundings) (side : Side) (obj : MemObj)
    (hobj : side = .importing → IsImportState obj.state) : Proper (p.tell around side obj).1 := by
  refine ⟨h.imports, fun x hx => ?_⟩
  rcases List.mem_append.1 hx with hx | hx
  · exact h.told x hx
  · obtain rfl := List.mem_singleton.1 hx
    refine ⟨fun hside m hm => ?_, fun m hm hne => ?_⟩
    · exact read_memoryObjChangeHandler_of_pool hm _ _ _ (hobj hside).not_chargesExport
    · by_cases hcharges : ChargesExport obj.state
      · refine ⟨?_, hcharges⟩
        cases side with
        | exporting => rfl
        | importing => exact absurd hcharges (hobj rfl).not_chargesExport
      · exact absurd (read_memoryObjChangeHandler_of_pool hm _ _ _ hcharges) hne

theorem tellExport (h : Proper p) (obj : UbseMemShareBorrowExportObj) :
    Proper (p.tellExport around obj) :=
  h.tell around .exporting obj.memObj fun hside => nomatch hside

theorem tellImport (h : Proper p) {obj : UbseMemShareBorrowImportObj}
    (hobj : IsImportState obj.state) : Proper (p.tellImport around obj) :=
  h.tell around .importing obj.memObj fun _ => hobj

/-! ### The ledger -/

theorem shareExportUpdateState (h : Proper p) (obj : UbseMemShareBorrowExportObj)
    (state : UbseMemState) : Proper (p.shareExportUpdateState obj state) := by
  rw [Process.shareExportUpdateState]
  split
  · exact h
  · exact ⟨h.imports, h.told⟩

theorem eraseShareExport (h : Proper p) (obj : UbseMemShareBorrowExportObj) :
    Proper (p.eraseShareExport obj) := by
  rw [Process.eraseShareExport]
  split
  · exact h
  · exact ⟨h.imports, h.told⟩

theorem shareImportUpdateState (h : Proper p) (obj : UbseMemShareBorrowImportObj)
    (state : UbseMemState) (hstate : IsImportState state) :
    Proper (p.shareImportUpdateState obj state) := by
  refine ⟨fun key old hold => ?_, h.told⟩
  rw [Process.shareImportUpdateState, Map.lookup_insert_ite] at hold
  split at hold
  · exact Option.some.inj hold ▸ hstate
  · exact h.imports key old hold

theorem eraseShareImport (h : Proper p) (obj : UbseMemShareBorrowImportObj) :
    Proper (p.eraseShareImport obj) := by
  refine ⟨fun key old hold => ?_, h.told⟩
  rw [Process.eraseShareImport, Map.lookup_erase_ite] at hold
  split at hold
  · cases hold
  · exact h.imports key old hold

theorem firstExportReport (h : Proper p) (key : NodeId × String)
    (received : UbseMemShareBorrowExportObj → Bool)
    (mark : UbseMemShareBorrowExportObj → UbseMemShareBorrowExportObj) :
    Proper (p.firstExportReport key received mark).1 := by
  rw [Process.firstExportReport]
  split
  · exact h
  · split
    · exact h
    · exact ⟨h.imports, h.told⟩

theorem firstImportReport (h : Proper p) (key : NodeId × String)
    (received : UbseMemShareBorrowImportObj → Bool)
    (mark : UbseMemShareBorrowImportObj → UbseMemShareBorrowImportObj)
    (hmark : ∀ obj, (mark obj).state = obj.state) :
    Proper (p.firstImportReport key received mark).1 := by
  rw [Process.firstImportReport]
  split
  · exact h
  next obj hlookup =>
    split
    · exact h
    · refine ⟨fun key' old hold => ?_, h.told⟩
      rw [Map.lookup_insert_ite] at hold
      split at hold
      · have hstate := (hmark obj).symm ▸ h.imports key obj hlookup
        exact Option.some.inj hold ▸ hstate
      · exact h.imports key' old hold

/-! ### The operations -/

theorem shareAllocate (h : Proper p) (around : Surroundings) (attempts : List (Cluster × Choice))
    (obj : UbseMemShareBorrowExportObj) :
    Proper (Process.shareAllocate around attempts p obj).1 := by
  induction attempts generalizing p obj with
  | nil => exact h
  | cons attempt attempts ih =>
    rw [Process.shareAllocate]
    have htell := h.tell { around with cluster := attempt.1, choice := attempt.2 } .exporting
      obj.memObj fun hside => nomatch hside
    dsimp only
    split
    · exact ih htell _
    · exact htell

theorem handleSendExportError (h : Proper p) (obj : UbseMemShareBorrowExportObj) :
    Proper (p.handleSendExportError around obj) :=
  (h.eraseShareExport obj).tellExport _

theorem ubseMemShareBorrow (h : Proper p) (req : UbseMemShareBorrowReq) (valid : Bool)
    (attempts : List (Cluster × Choice)) :
    Proper (p.ubseMemShareBorrow around req valid attempts).1 ∧
      ProperMessages (p.ubseMemShareBorrow around req valid attempts).2 := by
  rw [Process.ubseMemShareBorrow]
  have hallocate := h.shareAllocate around attempts { req, state := .scheduling }
  generalize Process.shareAllocate around attempts p { req, state := .scheduling } = r at hallocate ⊢
  obtain ⟨p', obj, ret⟩ := r
  dsimp only at hallocate ⊢
  split
  · exact ⟨h, properMessages_nil⟩
  · cases ret with
    | error e => exact ⟨hallocate, properMessages_nil⟩
    | ok _ =>
      dsimp only
      split
      · exact ⟨hallocate.shareExportUpdateState _ _, properMessages_exportObj _ _⟩
      · exact ⟨(hallocate.shareExportUpdateState _ _).handleSendExportError _,
          properMessages_nil⟩

theorem ubseMemShareReturn (h : Proper p) (name : String) (base : Option NodeId)
    (permitted : Bool) :
    Proper (p.ubseMemShareReturn around name base permitted).1 ∧
      ProperMessages (p.ubseMemShareReturn around name base permitted).2 := by
  rw [Process.ubseMemShareReturn]
  split
  · split
    · dsimp only
      split
      · exact ⟨h.shareExportUpdateState _ _, properMessages_exportObj _ _⟩
      · exact ⟨(h.shareExportUpdateState _ _).shareExportUpdateState _ _, properMessages_nil⟩
    · exact ⟨h, properMessages_nil⟩
  · exact ⟨h, properMessages_nil⟩

theorem ubseMemShareAttach (h : Proper p) (req : UbseMemShareAttachReq) (base : Option NodeId)
    (permitted : Bool) (attachSocketId : SocketId) :
    Proper (p.ubseMemShareAttach around req base permitted attachSocketId).1 ∧
      ProperMessages (p.ubseMemShareAttach around req base permitted attachSocketId).2 := by
  rw [Process.ubseMemShareAttach]
  dsimp only
  split
  · exact ⟨h, properMessages_nil⟩
  · split
    · exact ⟨h, properMessages_nil⟩
    · split
      · exact ⟨h.shareImportUpdateState _ .importRunning trivial, properMessages_importObj trivial⟩
      · exact ⟨(h.shareImportUpdateState _ .importRunning trivial).eraseShareImport _,
          properMessages_nil⟩

theorem ubseMemShareDetach (h : Proper p) (name : String) (unImportNodeId : NodeId)
    (base : Option NodeId) (permitted : Bool) :
    Proper (p.ubseMemShareDetach around name unImportNodeId base permitted).1 ∧
      ProperMessages (p.ubseMemShareDetach around name unImportNodeId base permitted).2 := by
  rw [Process.ubseMemShareDetach]
  split
  · exact ⟨h, properMessages_nil⟩
  · split
    · exact ⟨h, properMessages_nil⟩
    · dsimp only
      split
      · exact ⟨h.shareImportUpdateState _ .importDestroying trivial,
          properMessages_importObj trivial⟩
      · exact ⟨(h.shareImportUpdateState _ .importDestroying trivial).shareImportUpdateState _
          .importSuccess trivial, properMessages_nil⟩

/-- Carrying out an export sends exports only. -/
theorem exportObjCallback (h : Proper p) (nodeId : NodeId) (obj : UbseMemShareBorrowExportObj) :
    Proper (p.exportObjCallback around nodeId obj).1 ∧
      ProperMessages (p.exportObjCallback around nodeId obj).2 := by
  have hreport : ∀ obj, ProperMessages (Process.report around (.exportObj obj)) :=
    fun obj => properMessages_report around fun _ heq => nomatch heq
  rw [Process.exportObjCallback]
  split
  · exact ⟨h, properMessages_nil⟩
  split
  · rw [Process.shareExportRunningAgentCallback]
    split
    · exact ⟨h, properMessages_nil⟩
    · have hrunning := h.shareExportUpdateState obj .exportRunning
      dsimp only
      split
      · exact ⟨hrunning.eraseShareExport _, hreport _⟩
      · split
        · exact ⟨hrunning.shareExportUpdateState _ _, hreport _⟩
        · exact ⟨hrunning.eraseShareExport _, hreport _⟩
  split
  · rw [Process.shareExportDestroyingAgentCallback]
    dsimp only
    split
    · exact ⟨h, hreport _⟩
    · have hdestroying := h.shareExportUpdateState obj .exportDestroying
      split
      · exact ⟨hdestroying.eraseShareExport _, hreport _⟩
      · exact ⟨hdestroying.shareExportUpdateState _ _, hreport _⟩
  · refine ⟨?_, properMessages_nil⟩
    rw [Process.shareExportMasterCallback]
    dsimp only
    split
    · have hfirst := h.firstExportReport (obj.exportNodeId, obj.req.name)
        (·.isCreateReportReceived) fun old => { old with isCreateReportReceived := true }
      split
      next heq =>
        rw [heq] at hfirst
        exact hfirst
      next heq =>
        rw [heq] at hfirst
        split
        · exact (hfirst.eraseShareExport _).tellExport _
        · exact (hfirst.shareExportUpdateState _ _).tellExport _
    · split
      · have hfirst := h.firstExportReport (obj.exportNodeId, obj.req.name)
          (·.isDestroyedReportReceived) fun old => { old with isDestroyedReportReceived := true }
        split
        next heq =>
          rw [heq] at hfirst
          exact hfirst
        next heq =>
          rw [heq] at hfirst
          split
          · exact (hfirst.eraseShareExport _).tellExport _
          · exact hfirst.shareExportUpdateState _ _
      · exact h

theorem shareImportMasterCallBack (h : Proper p) {obj : UbseMemShareBorrowImportObj}
    (hobj : IsImportState obj.state) : Proper (p.shareImportMasterCallBack around obj) := by
  rw [Process.shareImportMasterCallBack]
  dsimp only
  split
  · have hfirst := h.firstImportReport (obj.importNodeId, obj.req.name) (·.isCreateReportReceived)
      (fun old => { old with isCreateReportReceived := true }) fun _ => rfl
    split
    next heq =>
      rw [heq] at hfirst
      exact hfirst
    next heq =>
      rw [heq] at hfirst
      split
      · exact (hfirst.shareImportUpdateState _ _ hobj).tellImport hobj
      · exact hfirst.eraseShareImport _
  · split
    · have hfirst := h.firstImportReport (obj.importNodeId, obj.req.name)
        (·.isDestroyedReportReceived)
        (fun old => { old with isDestroyedReportReceived := true }) fun _ => rfl
      split
      next heq =>
        rw [heq] at hfirst
        exact hfirst
      next heq =>
        rw [heq] at hfirst
        split
        · exact (hfirst.eraseShareImport _).tellImport hobj
        · exact hfirst.shareImportUpdateState _ _ hobj
    · exact h

/-- Carrying out an import leaves it in a state of imports, and reports one. -/
theorem importObjCallback (h : Proper p) (nodeId : NodeId) {obj : UbseMemShareBorrowImportObj}
    (hobj : IsImportState obj.state) :
    Proper (p.importObjCallback around nodeId obj).1 ∧
      ProperMessages (p.importObjCallback around nodeId obj).2 := by
  have hreport : ∀ obj : UbseMemShareBorrowImportObj, IsImportState obj.state →
      ProperMessages (Process.report around (.importObj obj)) :=
    fun obj hstate => properMessages_report around fun _ heq => Message.importObj.inj heq ▸ hstate
  rw [Process.importObjCallback]
  split
  · rw [Process.shareImportRunningAgentCallBack]
    dsimp only
    split
    · exact ⟨h, properMessages_nil⟩
    split
    · exact ⟨h, hreport _ trivial⟩
    · have hrunning := h.shareImportUpdateState obj .importRunning trivial
      split
      · exact ⟨hrunning.shareImportUpdateState _ .importSuccess trivial, hreport _ trivial⟩
      · exact ⟨hrunning.eraseShareImport _, hreport _ trivial⟩
  split
  · rw [Process.shareImportDestroyingAgentCallBack]
    dsimp only
    split
    · exact ⟨h.eraseShareImport _, hreport _ trivial⟩
    · have hdestroying := h.shareImportUpdateState obj .importDestroying trivial
      split
      · exact ⟨hdestroying.eraseShareImport _, hreport _ trivial⟩
      · exact ⟨hdestroying.shareImportUpdateState _ .importAbnormal trivial, hreport _ trivial⟩
  · exact ⟨h.shareImportMasterCallBack hobj, properMessages_nil⟩

theorem addShareExport (h : Proper p) (obj : UbseMemShareBorrowExportObj) :
    Proper (p.addShareExport around obj) := by
  rw [Process.addShareExport]
  split
  · exact (h.eraseShareExport _).tellExport _
  · exact (h.shareExportUpdateState _ _).tellExport _

theorem addShareImport (h : Proper p) {obj : UbseMemShareBorrowImportObj}
    (hobj : IsImportState obj.state) : Proper (p.addShareImport around obj) := by
  rw [Process.addShareImport]
  split
  · exact (h.eraseShareImport _).tellImport hobj
  · exact (h.shareImportUpdateState _ _ hobj).tellImport hobj

/-- What each turn of a loop keeps, the loop keeps. -/
theorem foldl {f : Process → NodeId × String → Process}
    (hf : ∀ p key, Proper p → Proper (f p key)) (keys : List (NodeId × String)) (h : Proper p) :
    Proper (keys.foldl f p) := by
  induction keys generalizing p with
  | nil => exact h
  | cons key keys ih => exact ih (hf p key h)

theorem updateSchedulerCache (h : Proper p) (exportKeys importKeys : List (NodeId × String)) :
    Proper (p.updateSchedulerCache around exportKeys importKeys) := by
  rw [Process.updateSchedulerCache]
  refine .foldl (fun p key h => ?_) _ (.foldl (fun p key h => ?_) _ h)
  · split
    · exact h
    next obj hlookup => exact h.tellImport (h.imports key obj hlookup)
  · split
    · exact h
    · exact h.tellExport _

end Proper

/-! ### Runs -/

/-- What holds of all nodes in every run. -/
structure ProperNodes (s : Nodes) : Prop where
  process : ∀ n, Proper (s.process n)
  sent : ProperMessages s.sent

/-- An enabled step keeps a process proper, and what it sends is proper. -/
theorem Proper.perform {s : Nodes} (h : ProperNodes s) {step : Step} (henabled : s.Enabled step) :
    Proper ((s.process step.nodeId).perform step.nodeId step.around step.operation).1 ∧
      ProperMessages ((s.process step.nodeId).perform step.nodeId step.around step.operation).2 := by
  obtain ⟨nodeId, around, operation⟩ := step
  have hp := h.process nodeId
  cases operation with
  | create req valid attempts => exact hp.ubseMemShareBorrow req valid attempts
  | delete name base permitted => exact hp.ubseMemShareReturn name base permitted
  | attach req base permitted attachSocketId =>
    exact hp.ubseMemShareAttach req base permitted attachSocketId
  | detach name unImportNodeId base permitted =>
    exact hp.ubseMemShareDetach name unImportNodeId base permitted
  | receive message =>
    cases message with
    | exportObj obj => exact hp.exportObjCallback nodeId obj
    | importObj obj => exact hp.importObjCallback nodeId (h.sent nodeId obj henabled)
  | addExport obj => exact ⟨hp.addShareExport obj, properMessages_nil⟩
  | addImport obj =>
    refine ⟨hp.addShareImport ?_, properMessages_nil⟩
    obtain ⟨n, key, old, hold, rfl | rfl⟩ := henabled
    · exact (h.process n).imports key obj hold
    · trivial
  | updateSchedulerCache exportKeys importKeys =>
    exact ⟨hp.updateSchedulerCache exportKeys importKeys, properMessages_nil⟩
  | other event => exact ⟨⟨hp.imports, hp.told⟩, properMessages_nil⟩

theorem ProperNodes.step {s t : Nodes} (h : ProperNodes s) {step : Step}
    (hstep : sharing.step s step t) : ProperNodes t := by
  obtain ⟨henabled, rfl⟩ := hstep
  obtain ⟨hperform, hsent⟩ := Proper.perform h henabled
  refine ⟨fun n => ?_, fun n obj hmem => ?_⟩
  · rw [Nodes.next]
    dsimp only
    rcases eq_or_ne n step.nodeId with rfl | hne
    · rw [Function.update_self]
      exact hperform
    · rw [Function.update_of_ne hne]
      exact h.process n
  · rcases List.mem_append.1 hmem with hmem | hmem
    · exact h.sent n obj hmem
    · exact hsent n obj hmem

theorem properNodes_init {s : Nodes} (h : sharing.init s) : ProperNodes s := by
  obtain ⟨hsent, hprocess⟩ := h
  refine ⟨fun n => ⟨fun key obj hlookup => ?_, fun x hx => ?_⟩, fun n obj hmem => ?_⟩
  · rw [(hprocess n).2.1, AList.lookup_empty] at hlookup
    cases hlookup
  · rw [(hprocess n).2.2] at hx
    cases hx
  · rw [hsent] at hmem
    cases hmem

/-- **In every run, whatever the schedulers are told besides, the state of an import never moves
what a numa shares or how many blocks a socket has exported**, and what moves them is the state of
an export that is placed, succeeds, is gone or fails. -/
theorem told_keepsAccounting {s t : Nodes} {tr : List (Transition Nodes Step)}
    (hinit : sharing.init s) (hrun : sharing.Run s tr t) (n : NodeId) :
    ∀ x ∈ (t.process n).told, KeepsAccounting x := by
  have hproper : ProperNodes t := System.Run.invariant (G := fun _ _ => True)
    (fun _ _ _ hs _ hstep => hs.step hstep) hrun (properNodes_init hinit) fun _ _ => trivial
  exact (hproper.process n).told

/-! ### An attachment -/

/-- Two linked nodes, of which each does what it is asked and reports to the first. -/
def willing : Surroundings where
  cluster := linkedCluster
  choice := pickTwo
  sent := true
  master := "1"
  prepared := true
  exported := some [7]
  executed := true

/-- The last message arrives. -/
def Nodes.deliver (s : Nodes) : Step :=
  match s.sent.getLast? with
  | some (nodeId, message) => ⟨nodeId, willing, .receive message⟩
  | none => ⟨"1", willing, .updateSchedulerCache [] []⟩

theorem Nodes.enabled_deliver (s : Nodes) : s.Enabled s.deliver := by
  rw [Nodes.deliver]
  split
  next heq => exact List.mem_of_getLast? heq
  next => trivial

/-- Shared memory is created on the second node, and the first attaches it. -/
def attachSteps : List (Nodes → Step) :=
  [fun _ => ⟨"1", willing, .create
      { name := "m", requestNodeId := "1", size := 2 ^ 28, shmRegion := ["1", "2"] } true
      [(linkedCluster, pickTwo)]⟩,
    Nodes.deliver, Nodes.deliver,
    fun _ => ⟨"1", willing, .attach { name := "m", importNodeId := "1", requestNodeId := "1" }
      (some "2") true 0⟩,
    Nodes.deliver, Nodes.deliver]

theorem enabled_attachSteps : ∀ step ∈ attachSteps, ∀ s : Nodes, s.Enabled (step s) := by
  intro step hstep s
  simp only [attachSteps, List.mem_cons, List.not_mem_nil, or_false] at hstep
  rcases hstep with rfl | rfl | rfl | rfl | rfl | rfl
  · trivial
  · exact s.enabled_deliver
  · exact s.enabled_deliver
  · trivial
  · exact s.enabled_deliver
  · exact s.enabled_deliver

/-- The nodes after some steps. -/
def Nodes.follow (s : Nodes) (steps : List (Nodes → Step)) : Nodes :=
  steps.foldl (fun s step => s.next (step s)) s

theorem Nodes.run_follow (s : Nodes) {steps : List (Nodes → Step)}
    (h : ∀ step ∈ steps, ∀ s : Nodes, s.Enabled (step s)) :
    ∃ tr, sharing.Run s tr (s.follow steps) := by
  induction steps using List.reverseRecOn with
  | nil => exact ⟨[], .nil s⟩
  | append_singleton steps step ih =>
    obtain ⟨tr, hrun⟩ := ih fun step hstep => h step (List.mem_append_left _ hstep)
    refine ⟨_, hrun.snoc ⟨h step (List.mem_append_right _ List.mem_cons_self) _, ?_⟩⟩
    rw [Nodes.follow, Nodes.follow, List.foldl_append]
    rfl

def linkedNodes : Nodes where
  process _ := { scheduler := linkedState }

/-- The master tells its scheduler that the import has succeeded. -/
theorem told_keepsAccounting_attached :
    ∃ x ∈ ((linkedNodes.follow attachSteps).process "1").told,
      x.event.side = .importing ∧ x.event.obj.state = .importSuccess ∧ KeepsAccounting x := by
  have htold : (((linkedNodes.follow attachSteps).process "1").told[2]?).map
      (fun x => (x.event.side, x.event.obj.state)) = some (.importing, .importSuccess) := by
    decide +kernel
  obtain ⟨x, hx, heq⟩ := Option.map_eq_some_iff.1 htold
  have hmem := List.mem_of_getElem? hx
  obtain ⟨hside, hstate⟩ := Prod.mk.inj heq
  obtain ⟨tr, hrun⟩ := linkedNodes.run_follow enabled_attachSteps
  exact ⟨x, hmem, hside, hstate,
    told_keepsAccounting ⟨rfl, fun _ => ⟨rfl, rfl, rfl⟩⟩ hrun "1" x hmem⟩

end Share

end UbsEngine
