import Mathlib.Algebra.Order.Group.Multiset
import UbsEngine.Ledger.AgentDiff

/-!
# Carrying out an export

A node that is to export memory writes the export into its ledger, lets OBMM export the blocks
one after the other, has the result signed where the configuration demands it, and reports to the
master. Each of these steps can fail, and what was done before it has to be undone by the branch
that notices: the callback of the borrowings by file descriptor and the one of shared memory are
the same program (`UbsEngine.Ledger.exportRunningAgentCallback`) but for what they do when the
signing fails. There the one exports a second time where it should take back, and the other drops
the export from the ledger and leaves the memory as it is.

`UbsEngine.Ledger.export_leavesNothing_iff` says exactly when a failed export leaves nothing
exported.
-/

namespace UbsEngine

namespace Ledger

open Mem Debt

/-- The ids of the memory that OBMM exports. -/
abbrev Memory := Multiset uint64_t

def UBSE_OK : uint32_t := num 0
def UBSE_ERROR_INVAL : uint32_t := num 10003
def UBSE_MMI_OBMM_OP_FAILED : uint32_t := num 10700

/-! ### The executor -/

/-- The answer of OBMM for one block. -/
inductive ObmmAnswer where
  | refused
  /-- The block is exported; the flag says whether its owner can then be changed. -/
  | exported (info : UbseMemObmmInfo) (ownerChanged : Bool)
  deriving DecidableEq

/-- What a call of the executor meets with. -/
structure ObmmRun where
  /-- The data that go with the blocks can be written down. -/
  customMeta : Bool
  /-- The answers of OBMM, one for each block of the request. -/
  answers : List ObmmAnswer
  deriving DecidableEq

section Executor

variable (takesBack : uint64_t → Bool)

/-- Memory that OBMM does not take back stays exported; the loop goes on. -/
def obmmUnExport (ids : List uint64_t) (exported : Memory) : Memory :=
  ids.foldl (fun exported id => if takesBack id then exported.erase id else exported) exported

variable (changesOwner : Bool)

/-- The loop over the blocks, with the blocks exported so far. -/
def obmmExport :
    List ObmmAnswer → List UbseMemObmmInfo → Memory → List UbseMemObmmInfo × Memory
  | [], result, exported => (result, exported)
  | .refused :: _, result, exported =>
    ([], obmmUnExport takesBack (result.map (·.memId)) exported)
  | .exported info ownerChanged :: answers, result, exported =>
    if changesOwner && !ownerChanged then
      ([], obmmUnExport takesBack (info.memId :: result.map (·.memId)) (info.memId ::ₘ exported))
    else obmmExport answers (result ++ [info]) (info.memId ::ₘ exported)

/-- What the executor returns, the object as it leaves it, and the memory that is exported. -/
structure Executed (Req : Type) where
  ret : uint32_t
  obj : ExportObj Req
  exported : Memory

variable {Req : Type}

/-- `MemFdExportExecutor` and `MemShmExportExecutor`. -/
def exportExecutor (run : ObmmRun) (obj : ExportObj Req) (exported : Memory) : Executed Req :=
  if run.customMeta then
    match obmmExport takesBack changesOwner run.answers [] exported with
    | ([], exported) =>
      ⟨UBSE_MMI_OBMM_OP_FAILED,
        { obj with base.status.errCode := UBSE_MMI_OBMM_OP_FAILED }, exported⟩
    | (infos, exported) =>
      ⟨UBSE_OK,
        { obj with base.status := { obj.base.status with
            exportObmmInfo := obj.base.status.exportObmmInfo ++ infos
            errCode := UBSE_OK } }, exported⟩
  else ⟨UBSE_ERROR_INVAL, { obj with base.status.errCode := UBSE_ERROR_INVAL }, exported⟩

/-- The block that an answer grants. -/
def ObmmAnswer.granted : ObmmAnswer → Option UbseMemObmmInfo
  | .refused => none
  | .exported info ownerChanged => if changesOwner && !ownerChanged then none else some info

/-- The blocks of a run that goes well. -/
def ObmmRun.infos (run : ObmmRun) : Option (List UbseMemObmmInfo) :=
  if run.customMeta then
    (run.answers.mapM (ObmmAnswer.granted changesOwner)).filter (· ≠ [])
  else none

/-- What OBMM does not take back when a block is refused, after the blocks exported so far. -/
def refusedLeftover : List ObmmAnswer → List uint64_t → List uint64_t
  | [], _ => []
  | .refused :: _, ids => ids.filter (!takesBack ·)
  | .exported info ownerChanged :: answers, ids =>
    if changesOwner && !ownerChanged then (info.memId :: ids).filter (!takesBack ·)
    else refusedLeftover answers (ids ++ [info.memId])

/-- What stays exported of a run that goes wrong. -/
def ObmmRun.leftover (run : ObmmRun) : List uint64_t :=
  if run.customMeta then refusedLeftover takesBack changesOwner run.answers [] else []

end Executor

/-! ### The callbacks -/

/-- What the trust ring is asked to verify and to sign. -/
structure UbseExportSignReq where
  reqSignedData : string
  type : string
  exportObmmInfo : List UbseMemObmmInfo
  trustRingId : string
  deriving DecidableEq

/-- What a call of the callback meets with. -/
structure Surroundings where
  /-- The first call of the executor. -/
  exportRun : ObmmRun
  /-- A second call of the executor. -/
  againRun : ObmmRun
  takesBack : uint64_t → Bool
  isHighSafety : Bool
  /-- The result of signing, and the signatures that it adds. -/
  signAndVerify : UbseExportSignReq → uint32_t × List string
  /-- The result of sending the report. -/
  send : uint32_t

/-- A node: its ledger of the exports of a kind, and the memory that is exported. -/
structure Agent (E : Type) where
  ledger : UbseMemTypeDebtMap string string E
  exported : Memory

/-- What the callback returns, the object that it has reported, and the node as it leaves it. -/
structure Answered (E : Type) where
  ret : uint32_t
  report : Option E
  agent : Agent E

/-- The exports of a kind, as their node carries them out. -/
structure RunningKind (Req : Type) extends ExportKind (ExportObj Req) where
  signType : string
  /-- The executor changes the owner of the blocks. -/
  changesOwner : Bool
  trustRingData : Req → UbseTrustRingData
  withTrustRingData : Req → UbseTrustRingData → Req
  /-- The state is written, into the object and into the ledger. -/
  updateState : ExportObj Req → UbseMemState → UbseMemTypeDebtMap string string (ExportObj Req) →
    ExportObj Req × UbseMemTypeDebtMap string string (ExportObj Req)
  /-- What is done about a signature that fails, with the error. -/
  signFailed : Surroundings → ExportObj Req → Agent (ExportObj Req) → uint32_t →
    ExportObj Req × Agent (ExportObj Req)

section Callback

variable {Req : Type}

def withState (obj : ExportObj Req) (state : UbseMemState) : ExportObj Req :=
  { obj with base.status.state := state }

/-- The object as it is reported after an error. -/
def failedObj (obj : ExportObj Req) (ret : uint32_t) : ExportObj Req :=
  withState { obj with base.errorCode := ret } UBSE_MEM_EXPORT_DESTROYED

def sendExport (env : Surroundings) (obj : ExportObj Req) (agent : Agent (ExportObj Req)) :
    Answered (ExportObj Req) := ⟨env.send, some obj, agent⟩

variable (k : RunningKind Req)

def signReq (obj : ExportObj Req) : UbseExportSignReq where
  reqSignedData := (k.trustRingData obj.req).reqSignedData
  type := k.signType
  exportObmmInfo := obj.base.status.exportObmmInfo
  trustRingId := (k.trustRingData obj.req).trustRingId

def addLendSignedDatas (obj : ExportObj Req) (signatures : List string) : ExportObj Req :=
  let data := k.trustRingData obj.req
  let data' := { data with lendSignedDatas := data.lendSignedDatas ++ signatures }
  { obj with req := k.withTrustRingData obj.req data' }

def clearReqSignedDataMemory (obj : ExportObj Req) : ExportObj Req :=
  let data := k.trustRingData obj.req
  { obj with req := k.withTrustRingData obj.req ({ data with reqSignedData := [] }) }

/-- Without high safety nothing is signed. -/
def trustSign (env : Surroundings) (obj : ExportObj Req) : uint32_t × ExportObj Req :=
  if env.isHighSafety then
    let signed := env.signAndVerify (signReq k obj)
    (signed.1, addLendSignedDatas k obj signed.2)
  else (UBSE_OK, obj)

/-- The branches of the callback after the executor has been called. -/
def afterExecutor (env : Surroundings)
    (ledger : UbseMemTypeDebtMap string string (ExportObj Req)) (executed : Executed Req) :
    Answered (ExportObj Req) :=
  if executed.ret ≠ UBSE_OK then
    let failed := failedObj executed.obj executed.ret
    sendExport env failed
      ⟨ledgerAfter (eraseExport k.toExportKind failed) ledger, executed.exported⟩
  else
    let signed := trustSign k env executed.obj
    if signed.1 ≠ UBSE_OK then
      let failed := k.signFailed env signed.2 ⟨ledger, executed.exported⟩ signed.1
      sendExport env failed.1 failed.2
    else
      let updated := k.updateState (clearReqSignedDataMemory k signed.2) UBSE_MEM_EXPORT_SUCCESS
        ledger
      sendExport env updated.1 ⟨updated.2, executed.exported⟩

/-- An export that is there already is not carried out again, and not reported. -/
def alreadyExported (agent : Agent (ExportObj Req)) (exportNodeId : string)
    (exportObj : ExportObj Req) : Bool :=
  (agent.ledger.getResource exportNodeId (k.key exportObj)).any fun existingObj =>
    existingObj.base.status.state = UBSE_MEM_EXPORT_SUCCESS

def exportRunningAgentCallback (env : Surroundings) (agent : Agent (ExportObj Req))
    (exportNodeId : string) (exportObj : ExportObj Req) : Answered (ExportObj Req) :=
  if alreadyExported k agent exportNodeId exportObj then ⟨UBSE_OK, none, agent⟩
  else
    let running := k.updateState exportObj UBSE_MEM_EXPORT_RUNNING agent.ledger
    afterExecutor k env running.2
      (exportExecutor env.takesBack k.changesOwner env.exportRun running.1 agent.exported)

end Callback

/-! ### The two kinds -/

def fdExportUpdateState (obj : UbseMemFdBorrowExportObj) (state : UbseMemState)
    (ledger : UbseMemTypeDebtMap string string UbseMemFdBorrowExportObj) :
    UbseMemFdBorrowExportObj × UbseMemTypeDebtMap string string UbseMemFdBorrowExportObj :=
  (withState obj state, ledgerAfter (exportUpdateState fdExport (withState obj state)) ledger)

/-- An object without a place keeps its state. -/
def shareExportUpdateState (obj : UbseMemShareBorrowExportObj) (state : UbseMemState)
    (ledger : UbseMemTypeDebtMap string string UbseMemShareBorrowExportObj) :
    UbseMemShareBorrowExportObj × UbseMemTypeDebtMap string string UbseMemShareBorrowExportObj :=
  match shareExport.exportNodeId obj with
  | none => (obj, ledger)
  | some _ =>
    (withState obj state,
      ledgerAfter (exportUpdateState shareExport (withState obj state)) ledger)

/-- "fd". -/
def fdType : string := [102, 100]

/-- "share". -/
def shareType : string := [115, 104, 97, 114, 101]

/-- A signature that fails has the memory exported once more. -/
def fdRunning : RunningKind UbseMemFdBorrowReq where
  toExportKind := fdExport
  signType := fdType
  changesOwner := false
  trustRingData req := req.base.trustRingData
  withTrustRingData req data := { req with base.trustRingData := data }
  updateState := fdExportUpdateState
  signFailed env obj agent ret :=
    let again := exportExecutor env.takesBack false env.againRun obj agent.exported
    (failedObj again.obj ret, ⟨agent.ledger, again.exported⟩)

/-- A signature that fails has the export erased from the ledger. -/
def shareRunning : RunningKind UbseMemShareBorrowReq where
  toExportKind := shareExport
  signType := shareType
  changesOwner := true
  trustRingData req := req.base.trustRingData
  withTrustRingData req data := { req with base.trustRingData := data }
  updateState := shareExportUpdateState
  signFailed _ obj agent ret :=
    (failedObj obj ret, ⟨ledgerAfter (eraseExport shareExport obj) agent.ledger, agent.exported⟩)

def fdExportRunningAgentCallback :
    Surroundings → Agent UbseMemFdBorrowExportObj → string → UbseMemFdBorrowExportObj →
      Answered UbseMemFdBorrowExportObj :=
  exportRunningAgentCallback fdRunning

def shareExportRunningAgentCallback :
    Surroundings → Agent UbseMemShareBorrowExportObj → string → UbseMemShareBorrowExportObj →
      Answered UbseMemShareBorrowExportObj :=
  exportRunningAgentCallback shareRunning

/-! ### What a failed export is to leave behind -/

section Spec

variable {Req : Type} (k : RunningKind Req)

/-- The callback hands the object over as destroyed. -/
def ReportsFailure (out : Answered (ExportObj Req)) : Prop :=
  ∃ obj, out.report = some obj ∧ obj.base.status.state = UBSE_MEM_EXPORT_DESTROYED

/-- **A failed export leaves nothing exported**: neither memory that was not exported before, nor
an export in the ledger that is not destroyed. An export is never without an entry in the ledger
while its memory is exported. -/
structure LeavesNothing (agent : Agent (ExportObj Req)) (exportNodeId : string)
    (exportObj : ExportObj Req) (out : Answered (ExportObj Req)) (fails : Prop) : Prop where
  unexported : fails → out.agent.exported = agent.exported
  noLiveEntry : fails → ∀ obj,
    out.agent.ledger.getResource exportNodeId (k.key exportObj) = some obj →
      obj.base.status.state = UBSE_MEM_EXPORT_DESTROYED
  notErased : out.agent.ledger.getResource exportNodeId (k.key exportObj) = none →
    out.agent.exported = agent.exported

/-- The object that is to be signed. -/
def exportedObj (exportObj : ExportObj Req) (infos : List UbseMemObmmInfo) : ExportObj Req :=
  { exportObj with base.status := { exportObj.base.status with
      exportObmmInfo := exportObj.base.status.exportObmmInfo ++ infos } }

/-- The signature, where one is demanded, does not fail. -/
def Signed (env : Surroundings) (exportObj : ExportObj Req) (infos : List UbseMemObmmInfo) :
    Prop :=
  env.isHighSafety → (env.signAndVerify (signReq k (exportedObj exportObj infos))).1 = UBSE_OK

/-- **No failure comes too late**: the blocks of an export that OBMM refuses in the end are taken
back, and the signature does not fail. -/
def NoLateFailure (env : Surroundings) (agent : Agent (ExportObj Req)) (exportNodeId : string)
    (exportObj : ExportObj Req) : Prop :=
  alreadyExported k agent exportNodeId exportObj ∨
    match env.exportRun.infos k.changesOwner with
    | none => env.exportRun.leftover env.takesBack k.changesOwner = []
    | some infos => Signed k env exportObj infos

/-- An export that is carried out is reported. -/
def SuccessSent (env : Surroundings) (agent : Agent (ExportObj Req)) (exportNodeId : string)
    (exportObj : ExportObj Req) : Prop :=
  alreadyExported k agent exportNodeId exportObj ∨
    env.exportRun.infos k.changesOwner = none ∨ env.send = UBSE_OK

/-- Where the two kinds are alike. -/
structure CarriesOut : Prop where
  place_base : ∀ (obj : ExportObj Req) (base : UbseMemBorrowExportBaseObj),
    base.algoResult = obj.base.algoResult →
      place k.toExportKind { obj with base := base } = place k.toExportKind obj
  place_withTrustRingData : ∀ (obj : ExportObj Req) (data : UbseTrustRingData),
    place k.toExportKind { obj with req := k.withTrustRingData obj.req data } =
      place k.toExportKind obj
  updateState_eq : ∀ (obj : ExportObj Req) (nodeId : string), k.exportNodeId obj = some nodeId →
    ∀ state L, k.updateState obj state L =
      (withState obj state,
        ledgerAfter (exportUpdateState k.toExportKind (withState obj state)) L)
  signFailed_state : ∀ env obj agent ret,
    (k.signFailed env obj agent ret).1.base.status.state = UBSE_MEM_EXPORT_DESTROYED
  signFailed_exported : ∀ env obj agent ret,
    agent.exported ≤ (k.signFailed env obj agent ret).2.exported

end Spec

/-! ### What the executor does -/

section Executor

variable {takesBack : uint64_t → Bool} {changesOwner : Bool}

/-- The ids of the blocks. -/
def memIds (infos : List UbseMemObmmInfo) : List uint64_t := infos.map (·.memId)

theorem obmmUnExport_add (ids : List uint64_t) (m : Memory) :
    obmmUnExport takesBack ids (m + ids) = m + (ids.filter (!takesBack ·) : List uint64_t) := by
  induction ids generalizing m with
  | nil => rfl
  | cons id ids ih =>
    have hsplit : m + ((id :: ids : List uint64_t) : Memory) = id ::ₘ (m + ids) := by
      rw [← Multiset.cons_coe, Multiset.add_cons]
    rw [obmmUnExport, List.foldl_cons, hsplit, Multiset.erase_cons_head]
    cases ht : takesBack id with
    | true =>
      rw [if_pos rfl, List.filter_cons_of_neg (by simp [ht])]
      exact ih m
    | false =>
      rw [if_neg Bool.false_ne_true, List.filter_cons_of_pos (by simp [ht]), ← Multiset.cons_coe,
        Multiset.add_cons, ← Multiset.cons_add, ← Multiset.cons_add]
      exact ih (id ::ₘ m)

/-- The loop over the blocks: either all of them are granted, or what was exported is given back
as far as OBMM takes it. -/
theorem obmmExport_eq (takesBack : uint64_t → Bool) (changesOwner : Bool)
    (answers : List ObmmAnswer) (result : List UbseMemObmmInfo) (m : Memory) :
    obmmExport takesBack changesOwner answers result (m + memIds result) =
      match answers.mapM (ObmmAnswer.granted changesOwner) with
      | some infos => (result ++ infos, m + memIds result + memIds infos)
      | none => ([], m + refusedLeftover takesBack changesOwner answers (memIds result)) := by
  induction answers generalizing result with
  | nil => simp [obmmExport, memIds]
  | cons a answers ih =>
    cases a with
    | refused =>
      rw [List.mapM_cons]
      exact congrArg _ (obmmUnExport_add (memIds result) m)
    | exported info ownerChanged =>
      rw [List.mapM_cons, obmmExport, refusedLeftover, ObmmAnswer.granted]
      have hcons : info.memId ::ₘ (m + (memIds result : Memory)) =
          m + ((info.memId :: memIds result : List uint64_t) : Memory) := by
        rw [← Multiset.cons_coe, Multiset.add_cons]
      split
      · rw [hcons]
        exact congrArg _ (obmmUnExport_add (info.memId :: memIds result) m)
      next hgranted =>
        have hids : memIds (result ++ [info]) = memIds result ++ [info.memId] := List.map_append
        have happend : info.memId ::ₘ (m + (memIds result : Memory)) =
            m + (memIds (result ++ [info]) : Memory) := by
          rw [hcons, hids]
          exact congrArg _ (Multiset.coe_eq_coe.mpr (List.perm_append_singleton _ _).symm)
        rw [happend, ih (result ++ [info]), hids]
        cases answers.mapM (ObmmAnswer.granted changesOwner) with
        | none => rfl
        | some infos =>
          have hm : m + ((memIds result ++ [info.memId] : List uint64_t) : Memory) +
              memIds infos = m + memIds result + memIds (info :: infos) := by
            rw [← Multiset.coe_add, ← add_assoc, add_assoc]
            rfl
          exact Prod.ext (List.append_assoc result [info] infos) hm

variable {Req : Type} {run : ObmmRun} {obj : ExportObj Req} {m : Memory}

/-- The object after an executor that succeeds. -/
def executedObj (obj : ExportObj Req) (infos : List UbseMemObmmInfo) : ExportObj Req :=
  { obj with base.status := { obj.base.status with
      exportObmmInfo := obj.base.status.exportObmmInfo ++ infos
      errCode := UBSE_OK } }

/-- What a call of the executor does, once its blocks are known to be granted or not. -/
theorem obmmExport_nil (answers : List ObmmAnswer) :
    obmmExport takesBack changesOwner answers [] m =
      match answers.mapM (ObmmAnswer.granted changesOwner) with
      | some infos => (infos, m + memIds infos)
      | none => ([], m + refusedLeftover takesBack changesOwner answers []) := by
  have hloop := obmmExport_eq takesBack changesOwner answers [] m
  have hm : m + (memIds [] : Memory) = m := add_zero m
  rw [hm] at hloop
  exact hloop

theorem exportExecutor_of_infos {infos : List UbseMemObmmInfo}
    (h : run.infos changesOwner = some infos) :
    exportExecutor takesBack changesOwner run obj m =
      ⟨UBSE_OK, executedObj obj infos, m + memIds infos⟩ := by
  rw [ObmmRun.infos] at h
  split at h
  next hmeta =>
    obtain ⟨hgranted, hne⟩ := Option.filter_eq_some_iff.mp h
    rw [exportExecutor, if_pos hmeta, obmmExport_nil, hgranted]
    cases infos with
    | nil => simp at hne
    | cons info infos => rfl
  · nomatch h

theorem infos_ne_nil {infos : List UbseMemObmmInfo} (h : run.infos changesOwner = some infos) :
    infos ≠ [] := by
  rw [ObmmRun.infos] at h
  split at h
  · simpa using (Option.filter_eq_some_iff.mp h).2
  · nomatch h

/-- Without a block there is nothing to give back. -/
theorem refusedLeftover_of_granted_nil {answers : List ObmmAnswer}
    (h : answers.mapM (ObmmAnswer.granted changesOwner) = some []) (ids : List uint64_t) :
    refusedLeftover takesBack changesOwner answers ids = [] := by
  cases answers with
  | nil => rfl
  | cons a answers =>
    rw [List.mapM_cons] at h
    cases hga : a.granted changesOwner with
    | none => rw [hga] at h; nomatch h
    | some info =>
      cases htl : answers.mapM (ObmmAnswer.granted changesOwner) with
      | none => rw [hga, htl] at h; nomatch h
      | some infos => rw [hga, htl] at h; nomatch h

/-- An executor that fails has changed nothing in the object but its error, and leaves exported
what OBMM does not take back. -/
theorem exportExecutor_of_none (takesBack : uint64_t → Bool) (obj : ExportObj Req) (m : Memory)
    (h : run.infos changesOwner = none) :
    ∃ ret ≠ UBSE_OK, exportExecutor takesBack changesOwner run obj m =
      ⟨ret, { obj with base.status.errCode := ret }, m + run.leftover takesBack changesOwner⟩ := by
  rw [ObmmRun.infos] at h
  rw [ObmmRun.leftover, exportExecutor]
  split at h
  next hmeta =>
    rw [if_pos hmeta, if_pos hmeta, obmmExport_nil]
    refine ⟨UBSE_MMI_OBMM_OP_FAILED, by decide, ?_⟩
    cases hgranted : run.answers.mapM (ObmmAnswer.granted changesOwner) with
    | none => rfl
    | some infos =>
      rw [hgranted] at h
      have hnil : infos = [] := by simpa using h
      subst hnil
      rw [refusedLeftover_of_granted_nil hgranted]
      rfl
  next hmeta =>
    rw [if_neg hmeta, if_neg hmeta]
    exact ⟨UBSE_ERROR_INVAL, by decide, by rw [Multiset.coe_nil, add_zero]⟩

end Executor

/-! ### What the callback does -/

section Callback

variable {Req : Type} {k : RunningKind Req} {env : Surroundings} {agent : Agent (ExportObj Req)}
  {exportNodeId : string} {exportObj : ExportObj Req}

theorem getResource_exportUpdateState {obj : ExportObj Req}
    (hplace : place k.toExportKind obj = (some exportNodeId, k.key exportObj))
    (L : UbseMemTypeDebtMap string string (ExportObj Req)) :
    (ledgerAfter (exportUpdateState k.toExportKind obj) L).getResource exportNodeId
      (k.key exportObj) = some obj := by
  obtain ⟨hnode, hkey⟩ := Prod.ext_iff.mp hplace
  dsimp only [place] at hnode hkey
  rw [exportUpdateState, hnode, hkey]
  exact (L.getResource_putResource true exportNodeId exportNodeId _ _ obj).trans
    (if_pos ⟨rfl, rfl⟩)

theorem getResource_eraseExport {obj : ExportObj Req}
    (hplace : place k.toExportKind obj = (some exportNodeId, k.key exportObj))
    (L : UbseMemTypeDebtMap string string (ExportObj Req)) :
    (ledgerAfter (eraseExport k.toExportKind obj) L).getResource exportNodeId
      (k.key exportObj) = none := by
  obtain ⟨hnode, hkey⟩ := Prod.ext_iff.mp hplace
  dsimp only [place] at hnode hkey
  rw [eraseExport, hnode, hkey]
  exact (L.getResource_removeResource true exportNodeId exportNodeId _ _).trans
    (if_pos ⟨rfl, rfl⟩)

/-- An export that is there already leaves nothing behind, as nothing is done. -/
theorem leavesNothing_of_alreadyExported {fails : Prop} (hfails : ¬fails) :
    LeavesNothing k agent exportNodeId exportObj ⟨UBSE_OK, none, agent⟩ fails :=
  ⟨fun h => absurd h hfails, fun h => absurd h hfails, fun _ => rfl⟩

/-- The signature is asked for with the blocks of the run, whatever the state of the object. -/
theorem trustSign_fst (obj : ExportObj Req) (infos : List UbseMemObmmInfo) :
    (trustSign k env (executedObj (withState obj UBSE_MEM_EXPORT_RUNNING) infos)).1 = UBSE_OK ↔
      Signed k env obj infos := by
  rw [trustSign, Signed]
  cases env.isHighSafety with
  | false => exact ⟨fun _ h => (nomatch h), fun _ => rfl⟩
  | true => exact ⟨fun h _ => h, fun h => h rfl⟩

variable (hk : CarriesOut k) (hnode : k.exportNodeId exportObj = some exportNodeId)

include hk hnode

omit hk in
/-- The place of the object does not change with its state. -/
theorem place_eq {obj : ExportObj Req}
    (hplace : place k.toExportKind obj = place k.toExportKind exportObj) :
    place k.toExportKind obj = (some exportNodeId, k.key exportObj) :=
  hplace.trans (Prod.ext hnode rfl)

/-- The ledger while the executor is at work. -/
theorem callback_eq (hnew : alreadyExported k agent exportNodeId exportObj = false) :
    exportRunningAgentCallback k env agent exportNodeId exportObj =
      afterExecutor k env
        (ledgerAfter (exportUpdateState k.toExportKind
          (withState exportObj UBSE_MEM_EXPORT_RUNNING)) agent.ledger)
        (exportExecutor env.takesBack k.changesOwner env.exportRun
          (withState exportObj UBSE_MEM_EXPORT_RUNNING) agent.exported) := by
  rw [exportRunningAgentCallback, if_neg (by rw [hnew]; exact Bool.false_ne_true),
    hk.updateState_eq _ _ hnode]

/-- A failed executor leaves no entry in the ledger, and exported what OBMM does not take back. -/
theorem callback_of_refused (hnone : env.exportRun.infos k.changesOwner = none)
    (hnew : alreadyExported k agent exportNodeId exportObj = false) :
    ReportsFailure (exportRunningAgentCallback k env agent exportNodeId exportObj) ∧
      (exportRunningAgentCallback k env agent exportNodeId exportObj).agent.exported =
        agent.exported + env.exportRun.leftover env.takesBack k.changesOwner ∧
      (exportRunningAgentCallback k env agent exportNodeId exportObj).agent.ledger.getResource
        exportNodeId (k.key exportObj) = none := by
  obtain ⟨ret, hret, hexec⟩ := exportExecutor_of_none env.takesBack
    (withState exportObj UBSE_MEM_EXPORT_RUNNING) agent.exported hnone
  rw [callback_eq hk hnode hnew, hexec, afterExecutor, if_pos hret]
  refine ⟨⟨_, rfl, rfl⟩, rfl, getResource_eraseExport (place_eq hnode ?_) _⟩
  exact hk.place_base exportObj _ rfl

theorem leavesNothing_of_refused_iff (hnone : env.exportRun.infos k.changesOwner = none)
    (hnew : alreadyExported k agent exportNodeId exportObj = false) {fails : Prop}
    (hfails : ReportsFailure (exportRunningAgentCallback k env agent exportNodeId exportObj) →
      fails) :
    LeavesNothing k agent exportNodeId exportObj
        (exportRunningAgentCallback k env agent exportNodeId exportObj) fails ↔
      env.exportRun.leftover env.takesBack k.changesOwner = [] := by
  obtain ⟨hreport, hexported, hledger⟩ := callback_of_refused hk hnode hnone hnew
  constructor
  · intro h
    have hsame := h.unexported (hfails hreport)
    rw [hexported] at hsame
    exact (Multiset.coe_eq_zero _).mp (add_eq_left.mp hsame)
  · intro hnil
    have hsame : (exportRunningAgentCallback k env agent exportNodeId exportObj).agent.exported =
        agent.exported := by
      rw [hexported, hnil]
      exact add_zero _
    refine ⟨fun _ => hsame, fun _ obj hobj => ?_, fun _ => hsame⟩
    rw [hledger] at hobj
    nomatch hobj

/-- A signature that fails leaves the blocks exported. -/
theorem not_leavesNothing_of_not_signed {infos : List UbseMemObmmInfo}
    (hinfos : env.exportRun.infos k.changesOwner = some infos)
    (hnew : alreadyExported k agent exportNodeId exportObj = false)
    (hsigned : ¬Signed k env exportObj infos) {fails : Prop}
    (hfails : ReportsFailure (exportRunningAgentCallback k env agent exportNodeId exportObj) →
      fails) :
    ¬LeavesNothing k agent exportNodeId exportObj
      (exportRunningAgentCallback k env agent exportNodeId exportObj) fails := by
  rw [callback_eq hk hnode hnew, exportExecutor_of_infos hinfos, afterExecutor,
    if_neg (not_not_intro rfl)] at hfails ⊢
  have hfailed : (trustSign k env (executedObj (withState exportObj UBSE_MEM_EXPORT_RUNNING)
      infos)).1 ≠ UBSE_OK := fun h => hsigned ((trustSign_fst exportObj infos).mp h)
  dsimp only at hfails ⊢
  rw [if_pos hfailed] at hfails ⊢
  intro h
  have hsame := h.unexported (hfails ⟨_, rfl, hk.signFailed_state _ _ _ _⟩)
  have hle := hk.signFailed_exported env
    (trustSign k env (executedObj (withState exportObj UBSE_MEM_EXPORT_RUNNING) infos)).2
    ⟨ledgerAfter (exportUpdateState k.toExportKind
      (withState exportObj UBSE_MEM_EXPORT_RUNNING)) agent.ledger,
      agent.exported + memIds infos⟩
    (trustSign k env (executedObj (withState exportObj UBSE_MEM_EXPORT_RUNNING) infos)).1
  have hcard := Multiset.card_le_card (hle.trans_eq hsame)
  rw [Multiset.card_add, Multiset.coe_card, memIds, List.length_map] at hcard
  have hpos := List.length_pos_iff.mpr (infos_ne_nil hinfos)
  omega

omit hnode in
theorem place_withState (obj : ExportObj Req) (state : UbseMemState) :
    place k.toExportKind (withState obj state) = place k.toExportKind obj :=
  hk.place_base obj _ rfl

omit hnode in
theorem place_signed (obj : ExportObj Req) :
    place k.toExportKind (clearReqSignedDataMemory k (trustSign k env obj).2) =
      place k.toExportKind obj := by
  rw [clearReqSignedDataMemory, hk.place_withTrustRingData, trustSign]
  split
  · exact hk.place_withTrustRingData _ _
  · rfl

/-- An export that is carried out and signed is in the ledger as such, and reported. -/
theorem callback_of_signed {infos : List UbseMemObmmInfo}
    (hinfos : env.exportRun.infos k.changesOwner = some infos)
    (hnew : alreadyExported k agent exportNodeId exportObj = false)
    (hsigned : Signed k env exportObj infos) :
    (exportRunningAgentCallback k env agent exportNodeId exportObj).ret = env.send ∧
      ∃ obj, obj.base.status.state = UBSE_MEM_EXPORT_SUCCESS ∧
        (exportRunningAgentCallback k env agent exportNodeId exportObj).report = some obj ∧
        (exportRunningAgentCallback k env agent exportNodeId exportObj).agent.ledger.getResource
          exportNodeId (k.key exportObj) = some obj := by
  have hok : (trustSign k env (executedObj (withState exportObj UBSE_MEM_EXPORT_RUNNING)
      infos)).1 = UBSE_OK := (trustSign_fst exportObj infos).mpr hsigned
  rw [callback_eq hk hnode hnew, exportExecutor_of_infos hinfos, afterExecutor,
    if_neg (not_not_intro rfl)]
  dsimp only
  rw [if_neg (not_not_intro hok)]
  have hplace : place k.toExportKind (clearReqSignedDataMemory k (trustSign k env
      (executedObj (withState exportObj UBSE_MEM_EXPORT_RUNNING) infos)).2) =
        (some exportNodeId, k.key exportObj) :=
    place_eq hnode ((place_signed hk _).trans (hk.place_base exportObj _ rfl))
  rw [hk.updateState_eq _ _ (Prod.ext_iff.mp hplace).1]
  refine ⟨rfl, _, rfl, rfl, getResource_exportUpdateState ?_ _⟩
  exact (place_withState hk _ _).trans hplace

theorem not_reportsFailure_of_signed {infos : List UbseMemObmmInfo}
    (hinfos : env.exportRun.infos k.changesOwner = some infos)
    (hnew : alreadyExported k agent exportNodeId exportObj = false)
    (hsigned : Signed k env exportObj infos) :
    ¬ReportsFailure (exportRunningAgentCallback k env agent exportNodeId exportObj) := by
  obtain ⟨-, obj, hstate, hreport, -⟩ := callback_of_signed hk hnode hinfos hnew hsigned
  rintro ⟨obj', hobj', hgone⟩
  rw [hreport, Option.some.injEq] at hobj'
  rw [← hobj', hstate] at hgone
  exact absurd hgone (by decide)

/-- The outcome of an export that is carried out and signed. -/
theorem leavesNothing_of_signed_iff {infos : List UbseMemObmmInfo}
    (hinfos : env.exportRun.infos k.changesOwner = some infos)
    (hnew : alreadyExported k agent exportNodeId exportObj = false)
    (hsigned : Signed k env exportObj infos) {fails : Prop} :
    LeavesNothing k agent exportNodeId exportObj
      (exportRunningAgentCallback k env agent exportNodeId exportObj) fails ↔ ¬fails := by
  obtain ⟨-, obj, hstate, -, hledger⟩ := callback_of_signed hk hnode hinfos hnew hsigned
  constructor
  · intro h hf
    have hgone := h.noLiveEntry hf obj hledger
    rw [hstate] at hgone
    exact absurd hgone (by decide)
  · intro hf
    refine ⟨fun h => absurd h hf, fun h => absurd h hf, fun hnone => ?_⟩
    rw [hledger] at hnone
    nomatch hnone

/-- **When a failed export leaves nothing exported**, by the object that is reported. -/
theorem leavesNothing_reported_iff :
    LeavesNothing k agent exportNodeId exportObj
        (exportRunningAgentCallback k env agent exportNodeId exportObj)
        (ReportsFailure (exportRunningAgentCallback k env agent exportNodeId exportObj)) ↔
      NoLateFailure k env agent exportNodeId exportObj := by
  rw [NoLateFailure]
  cases hnew : alreadyExported k agent exportNodeId exportObj with
  | true =>
    rw [exportRunningAgentCallback, if_pos hnew]
    refine ⟨fun _ => .inl rfl, fun _ => leavesNothing_of_alreadyExported ?_⟩
    rintro ⟨obj, hobj, -⟩
    nomatch hobj
  | false =>
    rw [or_iff_right Bool.false_ne_true]
    cases hinfos : env.exportRun.infos k.changesOwner with
    | none => exact leavesNothing_of_refused_iff hk hnode hinfos hnew id
    | some infos =>
      by_cases hsigned : Signed k env exportObj infos
      · rw [leavesNothing_of_signed_iff hk hnode hinfos hnew hsigned]
        exact iff_of_true (not_reportsFailure_of_signed hk hnode hinfos hnew hsigned) hsigned
      · exact iff_of_false (not_leavesNothing_of_not_signed hk hnode hinfos hnew hsigned id)
          hsigned

/-- The same by what the callback returns or reports: then a report must not be lost either. -/
theorem leavesNothing_returned_iff :
    LeavesNothing k agent exportNodeId exportObj
        (exportRunningAgentCallback k env agent exportNodeId exportObj)
        ((exportRunningAgentCallback k env agent exportNodeId exportObj).ret ≠ UBSE_OK ∨
          ReportsFailure (exportRunningAgentCallback k env agent exportNodeId exportObj)) ↔
      NoLateFailure k env agent exportNodeId exportObj ∧
        SuccessSent k env agent exportNodeId exportObj := by
  rw [NoLateFailure, SuccessSent]
  cases hnew : alreadyExported k agent exportNodeId exportObj with
  | true =>
    rw [exportRunningAgentCallback, if_pos hnew]
    refine ⟨fun _ => ⟨.inl rfl, .inl rfl⟩, fun _ => leavesNothing_of_alreadyExported ?_⟩
    rintro (hret | ⟨obj, hobj, -⟩)
    · exact hret rfl
    · nomatch hobj
  | false =>
    rw [or_iff_right Bool.false_ne_true, or_iff_right Bool.false_ne_true]
    cases hinfos : env.exportRun.infos k.changesOwner with
    | none =>
      rw [and_iff_left (.inl rfl)]
      exact leavesNothing_of_refused_iff hk hnode hinfos hnew .inr
    | some infos =>
      by_cases hsigned : Signed k env exportObj infos
      · rw [leavesNothing_of_signed_iff hk hnode hinfos hnew hsigned,
          (callback_of_signed hk hnode hinfos hnew hsigned).1,
          or_iff_left (not_reportsFailure_of_signed hk hnode hinfos hnew hsigned), not_not,
          and_iff_right hsigned, or_iff_right (nomatch ·)]
      · refine iff_of_false ?_ fun h => hsigned h.1
        exact not_leavesNothing_of_not_signed hk hnode hinfos hnew hsigned .inr

end Callback

/-! ### The two kinds, again -/

theorem carriesOut_fdRunning : CarriesOut fdRunning where
  place_base obj base h := by
    refine Prod.ext ?_ rfl
    change headNodeId base.algoResult.exportNumaInfos = _
    rw [h]
    rfl
  place_withTrustRingData _ _ := rfl
  updateState_eq _ _ _ _ _ := rfl
  signFailed_state _ _ _ _ := rfl
  signFailed_exported env obj agent ret := by
    change agent.exported ≤
      (exportExecutor env.takesBack false env.againRun obj agent.exported).exported
    cases h : env.againRun.infos false with
    | none =>
      obtain ⟨_, -, hexec⟩ := exportExecutor_of_none env.takesBack obj agent.exported h
      rw [hexec]
      exact Multiset.le_add_right _ _
    | some infos =>
      rw [exportExecutor_of_infos h]
      exact Multiset.le_add_right _ _

theorem carriesOut_shareRunning : CarriesOut shareRunning where
  place_base obj base h := by
    refine Prod.ext ?_ rfl
    change headNodeId base.algoResult.exportNumaInfos = _
    rw [h]
    rfl
  place_withTrustRingData _ _ := rfl
  updateState_eq obj nodeId hnode state L := by
    change shareExportUpdateState obj state L = _
    have hshare : shareExport.exportNodeId obj = some nodeId := hnode
    rw [shareExportUpdateState, hshare]
    rfl
  signFailed_state _ _ _ _ := rfl
  signFailed_exported _ _ _ _ := le_refl _

/-- An export of a kind, its node, and what its callback meets with there. -/
structure Call (Req : Type) where
  env : Surroundings
  agent : Agent (ExportObj Req)
  exportNodeId : string
  exportObj : ExportObj Req

/-- **When the failed exports of both kinds leave nothing exported**: as long as OBMM takes back
what it has to, and no signature fails after an export. If the loss of a report is to count for
a failure too, then no report of a success may be lost. -/
theorem export_leavesNothing_iff (fd : Call UbseMemFdBorrowReq)
    (share : Call UbseMemShareBorrowReq)
    (hfd : fdExport.exportNodeId fd.exportObj = some fd.exportNodeId)
    (hshare : shareExport.exportNodeId share.exportObj = some share.exportNodeId) :
    (let out := fdExportRunningAgentCallback fd.env fd.agent fd.exportNodeId fd.exportObj
      let fine := NoLateFailure fdRunning fd.env fd.agent fd.exportNodeId fd.exportObj
      (LeavesNothing fdRunning fd.agent fd.exportNodeId fd.exportObj out (ReportsFailure out) ↔
        fine) ∧
      (LeavesNothing fdRunning fd.agent fd.exportNodeId fd.exportObj out
          (out.ret ≠ UBSE_OK ∨ ReportsFailure out) ↔
        fine ∧ SuccessSent fdRunning fd.env fd.agent fd.exportNodeId fd.exportObj)) ∧
    (let out := shareExportRunningAgentCallback share.env share.agent share.exportNodeId
        share.exportObj
      let fine := NoLateFailure shareRunning share.env share.agent share.exportNodeId
        share.exportObj
      (LeavesNothing shareRunning share.agent share.exportNodeId share.exportObj out
          (ReportsFailure out) ↔
        fine) ∧
      (LeavesNothing shareRunning share.agent share.exportNodeId share.exportObj out
          (out.ret ≠ UBSE_OK ∨ ReportsFailure out) ↔
        fine ∧ SuccessSent shareRunning share.env share.agent share.exportNodeId
          share.exportObj)) :=
  ⟨⟨leavesNothing_reported_iff carriesOut_fdRunning hfd,
      leavesNothing_returned_iff carriesOut_fdRunning hfd⟩,
    ⟨leavesNothing_reported_iff carriesOut_shareRunning hshare,
      leavesNothing_returned_iff carriesOut_shareRunning hshare⟩⟩

/-! ### An export that is not signed -/

/-- A node with nothing exported that is asked for one block. -/
def callOf {Req : Type} (req : Req) (answer : ObmmAnswer) : Call Req where
  env := {
    exportRun := { customMeta := true, answers := [answer] }
    againRun := { customMeta := true, answers := [.refused] }
    takesBack := fun _ => true
    isHighSafety := true
    signAndVerify := fun _ => (num 1, [])
    send := UBSE_OK }
  agent := { ledger := .empty, exported := 0 }
  exportNodeId := [49]
  exportObj := {
    base := { algoResult := { exportNumaInfos := [{ nodeId := [49] }] } }
    req := req }

/-- The block of memory 7. -/
def block : ObmmAnswer := .exported { memId := num 7 } true

/-- A block that OBMM refuses leaves nothing behind. -/
theorem leavesNothing_refused :
    (let c := callOf { base := { name := [109] }, importNodeId := [50] } .refused
      let out := fdExportRunningAgentCallback c.env c.agent c.exportNodeId c.exportObj
      LeavesNothing fdRunning c.agent c.exportNodeId c.exportObj out (ReportsFailure out)) ∧
    (let c := callOf { base := { name := [109] } } .refused
      let out := shareExportRunningAgentCallback c.env c.agent c.exportNodeId c.exportObj
      LeavesNothing shareRunning c.agent c.exportNodeId c.exportObj out (ReportsFailure out)) := by
  have hiff := export_leavesNothing_iff
    (callOf { base := { name := [109] }, importNodeId := [50] } .refused)
    (callOf { base := { name := [109] } } .refused) rfl rfl
  exact ⟨hiff.1.1.mpr (.inr (show ObmmRun.leftover _ _ _ = [] from rfl)),
    hiff.2.1.mpr (.inr (show ObmmRun.leftover _ _ _ = [] from rfl))⟩

/-- **A signature that fails**: the memory stays exported, with the one kind beside an entry in
the ledger that is still running, with the other beside none. -/
theorem not_leavesNothing :
    (let c := callOf { base := { name := [109] }, importNodeId := [50] } block
      let out := fdExportRunningAgentCallback c.env c.agent c.exportNodeId c.exportObj
      ReportsFailure out ∧ out.agent.exported = {num 7} ∧
      (out.agent.ledger.getResource c.exportNodeId (fdExport.key c.exportObj)).map
        (·.base.status.state) = some UBSE_MEM_EXPORT_RUNNING ∧
      ¬LeavesNothing fdRunning c.agent c.exportNodeId c.exportObj out (ReportsFailure out)) ∧
    (let c := callOf { base := { name := [109] } } block
      let out := shareExportRunningAgentCallback c.env c.agent c.exportNodeId c.exportObj
      ReportsFailure out ∧ out.agent.exported = {num 7} ∧
      out.agent.ledger.getResource c.exportNodeId (shareExport.key c.exportObj) = none ∧
      ¬LeavesNothing shareRunning c.agent c.exportNodeId c.exportObj out (ReportsFailure out)) := by
  refine ⟨⟨⟨_, rfl, rfl⟩, by decide +kernel, by decide +kernel, fun h => ?_⟩,
    ⟨_, rfl, rfl⟩, by decide +kernel, by decide +kernel, fun h => ?_⟩
  · exact absurd (h.unexported ⟨_, rfl, rfl⟩) (by decide +kernel)
  · exact absurd (h.unexported ⟨_, rfl, rfl⟩) (by decide +kernel)

end Ledger

end UbsEngine
