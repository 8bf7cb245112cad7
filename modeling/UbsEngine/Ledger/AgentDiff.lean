import UbsEngine.Debt.Index
import UbsEngine.Ledger.CleanShm

/-!
# Exports that only the node has

What a node exports and the master knows nothing of is taken over into the ledger of the master
and, if nobody imports it any more, sent back to be destroyed. There is one handler for each kind
of borrowing: those of the borrowings by file descriptor and of given addresses are the same loop
(`UbsEngine.Ledger.agentDiffExportHandler`), that of NUMA nodes ends its loop at an export without
an importing node, and that of shared memory asks nobody and takes over everything, except that it
tests for the state of a destroyed import where the others test for that of a destroyed export.

`UbsEngine.Ledger.handlers_proper_iff` says exactly when all four do what they are there for.
-/

namespace UbsEngine

namespace Ledger

open Mem Debt

/-! ### What is done about an export -/

inductive Effect (E : Type) where
  /-- A call on the ledger of the master. -/
  | ledger (op : LedgerOp string string E)
  /-- The scheduler is told of the object. -/
  | memoryObjChange (obj : E)
  /-- The object is sent to a node. -/
  | sendExportObj (obj : E) (nodeId : string)

/-- The exports of a kind. -/
structure ExportKind (E : Type) where
  name : E → string
  /-- The id under which the export is kept at its node. -/
  key : E → string
  exportNodeId : E → Option string
  state : E → UbseMemState
  /-- The export as it is sent to be destroyed. -/
  destroying : E → E
  key_destroying : ∀ obj, key (destroying obj) = key obj
  exportNodeId_destroying : ∀ obj, exportNodeId (destroying obj) = exportNodeId obj

section Exports

variable {E : Type} (k : ExportKind E)

/-- The state of an export is written. An export without a place is left out. -/
def exportUpdateState (obj : E) : List (Effect E) :=
  match k.exportNodeId obj with
  | none => []
  | some exportNodeId => [.ledger (.putResource exportNodeId (k.key obj) (some obj))]

def eraseExport (obj : E) : List (Effect E) :=
  match k.exportNodeId obj with
  | none => []
  | some exportNodeId => [.ledger (.removeResource exportNodeId (k.key obj))]

def addExport (obj : E) : List (Effect E) :=
  if k.state obj = UBSE_MEM_EXPORT_DESTROYED then
    eraseExport k obj ++ [.memoryObjChange obj]
  else exportUpdateState k obj ++ [.memoryObjChange obj]

def deleteExport (obj : E) : List (Effect E) :=
  let copy := k.destroying obj
  exportUpdateState k copy ++
    match k.exportNodeId obj with
    | none => []
    | some exportNodeId => [.sendExportObj copy exportNodeId]

end Exports

/-! ### The import of an export -/

/-- What the handlers look at: the ledger of the master as it was when they began, and what the
nodes have reported. -/
structure View where
  curNodeId : string
  /-- The node is known and has failed. -/
  isFault : string → Bool
  nodeMemDebtInfoMap : NodeMemDebtInfoMap
  allDebtInfoMap : NodeMemDebtInfoMap

/-- Where the import of an export of this kind is looked for. -/
structure ImportSide (E I : Type) where
  importNodeId : E → Option string
  imports : NodeMemDebtInfo → OrderedMap string I
  importName : I → string
  importState : I → UbseMemState

section Imports

variable {E I : Type} (k : ExportKind E) (s : ImportSide E I) (w : View)

def importDestroyed (importObj : I) : Bool :=
  s.importState importObj = UBSE_MEM_IMPORT_DESTROYED ∨
    s.importState importObj = UBSE_MEM_EXPORT_DESTROYED

/-- An import without a name is one that was not found. -/
def handleImport (obj : E) : Option I → List (Effect E)
  | none => deleteExport k obj
  | some importObj =>
    if s.importName importObj = [] then deleteExport k obj
    else if importDestroyed s importObj then deleteExport k obj
    else []

def handleLocalImport (obj : E) (importNodeId : string) : List (Effect E) :=
  handleImport k s obj
    ((w.nodeMemDebtInfoMap.find importNodeId).bind fun info => (s.imports info).find (k.name obj))

/-- The query fails when the node has not reported. -/
def queryImportObj (nodeId name : string) : Option (Option I) :=
  (w.allDebtInfoMap.find nodeId).map fun info => (s.imports info).find name

def handleAgentDiffExportWithRemoteImportNode (obj : E) (importNodeId : string) :
    List (Effect E) :=
  if w.isFault importNodeId then deleteExport k obj
  else
    match queryImportObj s w importNodeId (k.name obj) with
    | none => []
    | some importObj => handleImport k s obj importObj

/-- The body of the loop. -/
def agentDiffExport (obj : E) : List (Effect E) :=
  if k.state obj = UBSE_MEM_EXPORT_DESTROYED then []
  else
    addExport k obj ++
      match s.importNodeId obj with
      | none => deleteExport k obj
      | some importNodeId =>
        if importNodeId = w.curNodeId then handleLocalImport k s w obj importNodeId
        else handleAgentDiffExportWithRemoteImportNode k s w obj importNodeId

/-- The objects that the loop visits, each with what is done about it. -/
abbrev Handled (E : Type) := List (E × List (Effect E))

def agentDiffExportHandler (objs : List E) : Handled E :=
  objs.map fun obj => (obj, agentDiffExport k s w obj)

end Imports

/-! ### The four kinds -/

section Kinds

variable {Req : Type}

/-- The node of the first piece. -/
def headNodeId (numaInfos : List UbseMemDebtNumaInfo) : Option string :=
  numaInfos.head?.map (·.nodeId)

/-- The export as it is to be destroyed. -/
def toDestroying (obj : ExportObj Req) : ExportObj Req :=
  { obj with base.status := { obj.base.status with
      expectState := UBSE_MEM_EXPORT_DESTROYED
      state := UBSE_MEM_EXPORT_DESTROYING } }

/-- The exports of a kind of borrowing, by the name and the importing node in their request. -/
def borrowExport (name importNodeId : Req → string) : ExportKind (ExportObj Req) where
  name obj := name obj.req
  key obj := generateExportObjKey (name obj.req) (importNodeId obj.req)
  exportNodeId obj := headNodeId obj.base.algoResult.exportNumaInfos
  state obj := obj.base.status.state
  destroying := toDestroying
  key_destroying _ := rfl
  exportNodeId_destroying _ := rfl

end Kinds

def fdExport : ExportKind UbseMemFdBorrowExportObj :=
  borrowExport (·.base.name) (·.importNodeId)

def numaExport : ExportKind UbseMemNumaBorrowExportObj :=
  borrowExport (·.base.base.name) (·.base.importNodeId)

/-- Given addresses are of a node that is named in the request. -/
def addrExport : ExportKind UbseMemAddrBorrowExportObj where
  name obj := obj.req.base.name
  key obj := generateExportObjKey obj.req.base.name obj.req.importNodeId
  exportNodeId obj := some obj.req.exportNodeId
  state obj := obj.base.status.state
  destroying := toDestroying
  key_destroying _ := rfl
  exportNodeId_destroying _ := rfl

/-- Shared memory has many importing nodes, and its name for a key. -/
def shareExport : ExportKind UbseMemShareBorrowExportObj where
  name obj := obj.req.base.name
  key obj := obj.req.base.name
  exportNodeId obj := headNodeId obj.base.algoResult.exportNumaInfos
  state obj := obj.base.status.state
  destroying := toDestroying
  key_destroying _ := rfl
  exportNodeId_destroying _ := rfl

def fdImports : ImportSide UbseMemFdBorrowExportObj UbseMemFdBorrowImportObj where
  importNodeId obj := headNodeId obj.base.algoResult.importNumaInfos
  imports info := info.fdImportObjMap
  importName importObj := importObj.req.base.name
  importState importObj := importObj.base.status.state

def numaImports : ImportSide UbseMemNumaBorrowExportObj UbseMemNumaBorrowImportObj where
  importNodeId obj := headNodeId obj.base.algoResult.importNumaInfos
  imports info := info.numaImportObjMap
  importName importObj := importObj.req.base.base.name
  importState importObj := importObj.base.status.state

def addrImports : ImportSide UbseMemAddrBorrowExportObj UbseMemAddrBorrowImportObj where
  importNodeId obj := some obj.req.importNodeId
  imports info := info.addrImportObjMap
  importName importObj := importObj.req.base.name
  importState importObj := importObj.base.status.state

/-! ### The handlers -/

section Handlers

variable (w : View)

def agentDiffFdExportHandler (objs : List UbseMemFdBorrowExportObj) :
    Handled UbseMemFdBorrowExportObj :=
  agentDiffExportHandler fdExport fdImports w objs

def agentDiffAddrExportHandler (objs : List UbseMemAddrBorrowExportObj) :
    Handled UbseMemAddrBorrowExportObj :=
  agentDiffExportHandler addrExport addrImports w objs

/-- An export without an importing node ends the loop. -/
def agentDiffNumaExportHandler :
    List UbseMemNumaBorrowExportObj → Handled UbseMemNumaBorrowExportObj
  | [] => []
  | obj :: objs =>
    (obj, agentDiffExport numaExport numaImports w obj) ::
      if obj.base.status.state ≠ UBSE_MEM_EXPORT_DESTROYED ∧
          obj.base.algoResult.importNumaInfos = [] then []
      else agentDiffNumaExportHandler objs

/-- A number in decimal digits. -/
def to_string (n : Nat) : string := (Nat.toDigits 10 n).map fun c => UInt8.ofNat c.toNat

/-- The ids of the nodes of a region are their slots; the sum is of 32 bits. -/
def UbseMemShareBorrowReq.withSlots (req : UbseMemShareBorrowReq) : UbseMemShareBorrowReq :=
  { req with shmRegion.nodelist := req.shmRegion.nodelist.map fun node =>
      { node with nodeId := to_string (node.index.bits + 1).toNat } }

def agentDiffShareExport (obj : UbseMemShareBorrowExportObj) :
    List (Effect UbseMemShareBorrowExportObj) :=
  if obj.base.status.state = UBSE_MEM_IMPORT_DESTROYED then []
  else addExport shareExport { obj with req := UbseMemShareBorrowReq.withSlots obj.req }

def agentDiffShareExportHandler (objs : List UbseMemShareBorrowExportObj) :
    Handled UbseMemShareBorrowExportObj :=
  objs.map fun obj => (obj, agentDiffShareExport obj)

end Handlers

/-! ### What the handlers are there for -/

section Spec

variable {E I : Type} (k : ExportKind E) (s : ImportSide E I) (w : View)

/-- What the handlers see of an import: its name and its state. -/
def importSeen (debtMap : NodeMemDebtInfoMap) (nodeId name : string) :
    Option (string × UbseMemState) :=
  (debtMap.find nodeId).bind fun info =>
    ((s.imports info).find name).map fun importObj =>
      (s.importName importObj, s.importState importObj)

/-- A node has an import of this name that is not destroyed. -/
def HasImport (debtMap : NodeMemDebtInfoMap) (nodeId name : string) : Prop :=
  ∃ seen ∈ importSeen s debtMap nodeId name, seen.1 ≠ [] ∧
    seen.2 ≠ UBSE_MEM_IMPORT_DESTROYED ∧ seen.2 ≠ UBSE_MEM_EXPORT_DESTROYED

/-- **Nobody imports what is exported**: no node is to import it, or the node has failed, or it
has no such import. Of a node that has not reported nothing is known. -/
def ImportGone (obj : E) : Prop :=
  ∀ nodeId ∈ s.importNodeId obj,
    (nodeId = w.curNodeId → ¬HasImport s w.nodeMemDebtInfoMap nodeId (k.name obj)) ∧
    (nodeId ≠ w.curNodeId → w.isFault nodeId ∨
      ((w.allDebtInfoMap.find nodeId).isSome ∧
        ¬HasImport s w.allDebtInfoMap nodeId (k.name obj)))

/-- The ledger of the master after what is done. -/
def ledgerAfter (effects : List (Effect E)) (L : UbseMemTypeDebtMap string string E) :
    UbseMemTypeDebtMap string string E :=
  effects.foldl (fun L effect =>
    match effect with
    | .ledger op => applyOp L op
    | _ => L) L

/-- Where an export is kept, and under which id. -/
def place (obj : E) : Option string × string := (k.exportNodeId obj, k.key obj)

/-- The export is in the ledger, and nothing is sent. -/
def Restored (obj : E) (effects : List (Effect E)) : Prop :=
  ∃ nodeId, k.exportNodeId obj = some nodeId ∧
    (∀ L, (ledgerAfter effects L).getResource nodeId (k.key obj) = some obj) ∧
    ∀ o n, .sendExportObj o n ∉ effects

/-- The export is in the ledger as one that is being destroyed, and is sent to its node. -/
def SentToDeletion (obj : E) (effects : List (Effect E)) : Prop :=
  ∃ nodeId, k.exportNodeId obj = some nodeId ∧
    (∀ L, (ledgerAfter effects L).getResource nodeId (k.key obj) = some (k.destroying obj)) ∧
    .sendExportObj (k.destroying obj) nodeId ∈ effects

/-- The export is added to the ledger. -/
def Adds (effects : List (Effect E)) : Prop :=
  ∃ n r o, .ledger (.putResource n r (some o)) ∈ effects

/-- What is to be done about one export. Those of shared memory are restored with the ids of
their nodes refreshed. -/
structure Handles (gone : E → Prop) (refresh : E → E) (obj : E) (effects : List (Effect E)) :
    Prop where
  destroyed : k.state obj = UBSE_MEM_EXPORT_DESTROYED → ¬Adds effects
  deleted : k.state obj ≠ UBSE_MEM_EXPORT_DESTROYED → gone obj → SentToDeletion k obj effects
  restored : k.state obj ≠ UBSE_MEM_EXPORT_DESTROYED → ¬gone obj → Restored k (refresh obj) effects

/-- **A handler does what it is there for**: it visits the whole list, does about every export
what is to be done, and what it would do if the export were alone. In the end every export of the
list, if no two have the same place, is in the ledger as it should be. -/
structure Proper (gone : E → Prop) (refresh : E → E) (handler : List E → Handled E)
    (objs : List E) : Prop where
  visits : (handler objs).map Prod.fst = objs
  alone : ∀ p ∈ handler objs, handler [p.1] = [p]
  handles : ∀ p ∈ handler objs, Handles k gone refresh p.1 p.2
  ends : (objs.map (place k)).Nodup → ∀ L, ∀ obj ∈ objs,
    k.state obj ≠ UBSE_MEM_EXPORT_DESTROYED → ∃ nodeId, k.exportNodeId obj = some nodeId ∧
      ∃ o, (ledgerAfter ((handler objs).flatMap Prod.snd) L).getResource nodeId (k.key obj) =
        some o ∧ (gone obj → o = k.destroying obj) ∧ (¬gone obj → o = refresh obj)

end Spec

/-! ### One export -/

section One

variable {E I : Type} {k : ExportKind E}

theorem ledgerAfter_append (effects effects' : List (Effect E))
    (L : UbseMemTypeDebtMap string string E) :
    ledgerAfter (effects ++ effects') L = ledgerAfter effects' (ledgerAfter effects L) :=
  List.foldl_append

/-- Nothing is written but what is kept at the place of the export. -/
def AtPlace (k : ExportKind E) (obj : E) (effects : List (Effect E)) : Prop :=
  ∀ L n r, place k obj ≠ (some n, r) →
    (ledgerAfter effects L).getResource n r = L.getResource n r

theorem AtPlace.append {obj : E} {effects effects' : List (Effect E)}
    (h : AtPlace k obj effects) (h' : AtPlace k obj effects') :
    AtPlace k obj (effects ++ effects') := by
  intro L n r hne
  rw [ledgerAfter_append, h' _ n r hne, h L n r hne]

theorem AtPlace.nil (obj : E) : AtPlace k obj [] := fun _ _ _ _ => rfl

theorem atPlace_exportUpdateState {obj obj' : E} (h : place k obj' = place k obj) :
    AtPlace k obj (exportUpdateState k obj') := by
  intro L n r hne
  rw [← h] at hne
  rw [exportUpdateState]
  split
  · rfl
  next nodeId hnode =>
    refine (L.getResource_putResource true nodeId n (k.key obj') r obj').trans (if_neg ?_)
    rintro ⟨rfl, rfl⟩
    exact hne (Prod.ext hnode rfl)

theorem atPlace_eraseExport {obj obj' : E} (h : place k obj' = place k obj) :
    AtPlace k obj (eraseExport k obj') := by
  intro L n r hne
  rw [← h] at hne
  rw [eraseExport]
  split
  · rfl
  next nodeId hnode =>
    refine (L.getResource_removeResource true nodeId n (k.key obj') r).trans (if_neg ?_)
    rintro ⟨rfl, rfl⟩
    exact hne (Prod.ext hnode rfl)

theorem atPlace_addExport {obj obj' : E} (h : place k obj' = place k obj) :
    AtPlace k obj (addExport k obj') := by
  have hchange : AtPlace k obj [.memoryObjChange obj'] := fun _ _ _ _ => rfl
  rw [addExport]
  split
  · exact (atPlace_eraseExport h).append hchange
  · exact (atPlace_exportUpdateState h).append hchange

theorem place_destroying (obj : E) : place k (k.destroying obj) = place k obj :=
  Prod.ext (k.exportNodeId_destroying obj) (k.key_destroying obj)

theorem atPlace_deleteExport (obj : E) : AtPlace k obj (deleteExport k obj) := by
  refine (atPlace_exportUpdateState (place_destroying obj)).append fun L n r _ => ?_
  cases k.exportNodeId obj <;> rfl

theorem addExport_eq {obj : E} (h : k.state obj ≠ UBSE_MEM_EXPORT_DESTROYED) :
    addExport k obj = exportUpdateState k obj ++ [.memoryObjChange obj] :=
  if_neg h

/-- An export that is added is in the ledger. -/
theorem getResource_addExport {obj : E} (h : k.state obj ≠ UBSE_MEM_EXPORT_DESTROYED)
    {nodeId : string} (hnode : k.exportNodeId obj = some nodeId)
    (L : UbseMemTypeDebtMap string string E) :
    (ledgerAfter (addExport k obj) L).getResource nodeId (k.key obj) = some obj := by
  rw [addExport_eq h, exportUpdateState, hnode]
  exact (L.getResource_putResource true nodeId nodeId _ _ obj).trans (if_pos ⟨rfl, rfl⟩)

theorem restored_addExport {obj : E} (h : k.state obj ≠ UBSE_MEM_EXPORT_DESTROYED)
    {nodeId : string} (hnode : k.exportNodeId obj = some nodeId) :
    Restored k obj (addExport k obj) := by
  refine ⟨nodeId, hnode, getResource_addExport h hnode, fun o n hmem => ?_⟩
  rw [addExport_eq h, exportUpdateState, hnode] at hmem
  simp at hmem

theorem deleteExport_eq {obj : E} {nodeId : string} (hnode : k.exportNodeId obj = some nodeId) :
    deleteExport k obj = [.ledger (.putResource nodeId (k.key obj) (some (k.destroying obj))),
      .sendExportObj (k.destroying obj) nodeId] := by
  rw [deleteExport, exportUpdateState, k.exportNodeId_destroying, hnode, k.key_destroying]
  rfl

/-- An export that is deleted is in the ledger as one that is being destroyed, whatever was done
about it before. -/
theorem sentToDeletion_deleteExport {obj : E} {nodeId : string}
    (hnode : k.exportNodeId obj = some nodeId) (effects : List (Effect E)) :
    SentToDeletion k obj (effects ++ deleteExport k obj) := by
  refine ⟨nodeId, hnode, fun L => ?_, ?_⟩
  · rw [ledgerAfter_append, deleteExport_eq hnode]
    exact ((ledgerAfter effects L).getResource_putResource true nodeId nodeId _ _ _).trans
      (if_pos ⟨rfl, rfl⟩)
  · rw [deleteExport_eq hnode]
    exact List.mem_append_right _ (List.mem_cons_of_mem _ (List.mem_singleton.2 rfl))

/-- An export without a place is neither restored nor sent anywhere. -/
theorem exportNodeId_ne_none_of_handles {gone : E → Prop} {refresh : E → E} {obj : E}
    {effects : List (Effect E)} (h : Handles k gone refresh obj effects)
    (hrefresh : k.exportNodeId (refresh obj) = k.exportNodeId obj)
    (hstate : k.state obj ≠ UBSE_MEM_EXPORT_DESTROYED) : k.exportNodeId obj ≠ none := by
  intro hnone
  by_cases hgone : gone obj
  · obtain ⟨nodeId, hnode, -⟩ := h.deleted hstate hgone
    exact nomatch hnone.symm.trans hnode
  · obtain ⟨nodeId, hnode, -⟩ := h.restored hstate hgone
    exact nomatch (hnone.symm.trans hrefresh.symm).trans hnode

variable {s : ImportSide E I} {w : View}

/-- What is done once the import was looked for. -/
theorem handleImport_eq (obj : E) (importObj : Option I) :
    handleImport k s obj importObj =
      if ∃ o ∈ importObj, s.importName o ≠ [] ∧ s.importState o ≠ UBSE_MEM_IMPORT_DESTROYED ∧
        s.importState o ≠ UBSE_MEM_EXPORT_DESTROYED then [] else deleteExport k obj := by
  cases importObj with
  | none => simp [handleImport]
  | some o =>
    rw [handleImport]
    by_cases hname : s.importName o = []
    · simp [hname]
    · by_cases himport : s.importState o = UBSE_MEM_IMPORT_DESTROYED
      · simp [hname, importDestroyed, himport]
      · by_cases hexport : s.importState o = UBSE_MEM_EXPORT_DESTROYED
        · simp [hname, importDestroyed, hexport]
        · simp [hname, importDestroyed, himport, hexport]

theorem hasImport_iff {debtMap : NodeMemDebtInfoMap} {nodeId name : string} :
    HasImport s debtMap nodeId name ↔
      ∃ o ∈ (debtMap.find nodeId).bind fun info => (s.imports info).find name,
        s.importName o ≠ [] ∧ s.importState o ≠ UBSE_MEM_IMPORT_DESTROYED ∧
          s.importState o ≠ UBSE_MEM_EXPORT_DESTROYED := by
  rw [HasImport, importSeen]
  cases debtMap.find nodeId with
  | none => simp
  | some info => cases hfind : (s.imports info).find name <;> simp [hfind]

theorem agentDiffExport_eq {obj : E} (h : k.state obj ≠ UBSE_MEM_EXPORT_DESTROYED) :
    agentDiffExport k s w obj = addExport k obj ++
      match s.importNodeId obj with
      | none => deleteExport k obj
      | some importNodeId =>
        if importNodeId = w.curNodeId then handleLocalImport k s w obj importNodeId
        else handleAgentDiffExportWithRemoteImportNode k s w obj importNodeId :=
  if_neg h

/-- **The body of the loop**, for an export that nobody imports. -/
theorem agentDiffExport_of_gone {obj : E} (h : k.state obj ≠ UBSE_MEM_EXPORT_DESTROYED)
    (hgone : ImportGone k s w obj) :
    agentDiffExport k s w obj = addExport k obj ++ deleteExport k obj := by
  rw [agentDiffExport_eq h]
  congr 1
  split
  · rfl
  next nodeId hnode =>
    obtain ⟨hlocal, hremote⟩ := hgone nodeId hnode
    split
    next hcur => rw [handleLocalImport, handleImport_eq, if_neg (hasImport_iff.not.1 (hlocal hcur))]
    next hcur =>
      rw [handleAgentDiffExportWithRemoteImportNode]
      split
      · rfl
      next hfault =>
        obtain ⟨hsome, hno⟩ := (hremote hcur).resolve_left hfault
        obtain ⟨info, hinfo⟩ := Option.isSome_iff_exists.1 hsome
        rw [hasImport_iff, hinfo, Option.bind_some] at hno
        rw [queryImportObj, hinfo, Option.map_some]
        exact (handleImport_eq obj _).trans (if_neg hno)

/-- **The body of the loop**, for an export that may still be imported. -/
theorem agentDiffExport_of_not_gone {obj : E} (h : k.state obj ≠ UBSE_MEM_EXPORT_DESTROYED)
    (hgone : ¬ImportGone k s w obj) : agentDiffExport k s w obj = addExport k obj := by
  rw [ImportGone] at hgone
  push Not at hgone
  obtain ⟨nodeId, hnode, himport⟩ := hgone
  rw [agentDiffExport_eq h, Option.mem_def.1 hnode]
  dsimp only
  refine (congrArg (addExport k obj ++ ·) ?_).trans (List.append_nil _)
  by_cases hcur : nodeId = w.curNodeId
  · rw [if_pos hcur, handleLocalImport, handleImport_eq, if_pos]
    refine hasImport_iff.1 ?_
    by_contra hno
    exact (himport fun _ => hno).1 hcur
  · obtain ⟨-, hfault, hhas⟩ := himport fun hcur' => absurd hcur' hcur
    rw [if_neg hcur, handleAgentDiffExportWithRemoteImportNode, if_neg hfault, queryImportObj]
    cases hinfo : w.allDebtInfoMap.find nodeId with
    | none => rfl
    | some info =>
      have := hasImport_iff.1 (hhas (by rw [hinfo]; rfl))
      rw [hinfo, Option.bind_some] at this
      exact (handleImport_eq obj _).trans (if_pos this)

theorem agentDiffExport_destroyed {obj : E} (h : k.state obj = UBSE_MEM_EXPORT_DESTROYED) :
    agentDiffExport k s w obj = [] :=
  if_pos h

theorem atPlace_agentDiffExport (obj : E) : AtPlace k obj (agentDiffExport k s w obj) := by
  by_cases h : k.state obj = UBSE_MEM_EXPORT_DESTROYED
  · rw [agentDiffExport_destroyed h]
    exact .nil obj
  · by_cases hgone : ImportGone k s w obj
    · rw [agentDiffExport_of_gone h hgone]
      exact (atPlace_addExport rfl).append (atPlace_deleteExport obj)
    · rw [agentDiffExport_of_not_gone h hgone]
      exact atPlace_addExport rfl

theorem handles_agentDiffExport_iff (obj : E) :
    Handles k (ImportGone k s w) id obj (agentDiffExport k s w obj) ↔
      (k.state obj ≠ UBSE_MEM_EXPORT_DESTROYED → k.exportNodeId obj ≠ none) := by
  refine ⟨fun h => exportNodeId_ne_none_of_handles h rfl, fun h => ⟨?_, ?_, ?_⟩⟩
  · rintro hstate ⟨n, r, o, hmem⟩
    rw [agentDiffExport_destroyed hstate] at hmem
    exact absurd hmem List.not_mem_nil
  · intro hstate hgone
    obtain ⟨nodeId, hnode⟩ := Option.ne_none_iff_exists'.1 (h hstate)
    rw [agentDiffExport_of_gone hstate hgone]
    exact sentToDeletion_deleteExport hnode _
  · intro hstate hgone
    obtain ⟨nodeId, hnode⟩ := Option.ne_none_iff_exists'.1 (h hstate)
    rw [agentDiffExport_of_not_gone hstate hgone]
    exact restored_addExport hstate hnode

end One

/-! ### The list -/

section Lists

variable {E I : Type} {k : ExportKind E} {gone : E → Prop} {refresh : E → E}
  {f : E → List (Effect E)}

theorem atPlace_flatMap (hplace : ∀ obj, AtPlace k obj (f obj)) {objs : List E} {n r : string}
    (h : (some n, r) ∉ objs.map (place k)) (L : UbseMemTypeDebtMap string string E) :
    (ledgerAfter (objs.flatMap f) L).getResource n r = L.getResource n r := by
  induction objs generalizing L with
  | nil => rfl
  | cons obj objs ih =>
    rw [List.map_cons, List.mem_cons, not_or] at h
    rw [List.flatMap_cons, ledgerAfter_append, ih h.2]
    exact hplace obj L n r fun heq => h.1 heq.symm

/-- What is done about one export of a list stays, if no other has its place. -/
theorem getResource_flatMap (hplace : ∀ obj, AtPlace k obj (f obj)) {objs : List E}
    (hnodup : (objs.map (place k)).Nodup) {obj : E} (hobj : obj ∈ objs) {n : string} {o : E}
    (hnode : k.exportNodeId obj = some n)
    (h : ∀ L, (ledgerAfter (f obj) L).getResource n (k.key obj) = some o)
    (L : UbseMemTypeDebtMap string string E) :
    (ledgerAfter (objs.flatMap f) L).getResource n (k.key obj) = some o := by
  induction objs generalizing L with
  | nil => cases hobj
  | cons head objs ih =>
    rw [List.map_cons, List.nodup_cons] at hnodup
    rw [List.flatMap_cons, ledgerAfter_append]
    rcases List.mem_cons.1 hobj with rfl | hobj
    · rw [place, hnode] at hnodup
      rw [atPlace_flatMap hplace hnodup.1, h]
    · exact ih hnodup.2 hobj _

/-- **A loop that does about every export what is to be done.** -/
theorem proper_of_handles (hplace : ∀ obj, AtPlace k obj (f obj)) {handler : List E → Handled E}
    {objs : List E} (halone : ∀ obj, handler [obj] = [(obj, f obj)])
    (hmap : handler objs = objs.map fun obj => (obj, f obj))
    (hrefresh : ∀ obj, place k (refresh obj) = place k obj)
    (h : ∀ obj ∈ objs, Handles k gone refresh obj (f obj)) :
    Proper k gone refresh handler objs where
  visits := by
    rw [hmap, List.map_map]
    exact List.map_id _
  alone := by
    intro p hp
    rw [hmap] at hp
    obtain ⟨obj, -, rfl⟩ := List.mem_map.1 hp
    exact halone obj
  handles := by
    intro p hp
    rw [hmap] at hp
    obtain ⟨obj, hobj, rfl⟩ := List.mem_map.1 hp
    exact h obj hobj
  ends := by
    intro hnodup L obj hobj hstate
    have hflat : (handler objs).flatMap Prod.snd = objs.flatMap f := by
      rw [hmap, List.flatMap_map]
    rw [hflat]
    by_cases hgone : gone obj
    · obtain ⟨n, hnode, hget, -⟩ := (h obj hobj).deleted hstate hgone
      exact ⟨n, hnode, _, getResource_flatMap hplace hnodup hobj hnode hget L, fun _ => rfl,
        fun hnot => absurd hgone hnot⟩
    · obtain ⟨n, hnode, hget, -⟩ := (h obj hobj).restored hstate hgone
      obtain ⟨hnode', hkey⟩ := Prod.ext_iff.1 (hrefresh obj)
      have hnode : k.exportNodeId obj = some n := hnode'.symm.trans hnode
      have hget : ∀ L, (ledgerAfter (f obj) L).getResource n (k.key obj) = some (refresh obj) :=
        fun L => by rw [← show k.key (refresh obj) = k.key obj from hkey, hget L]
      exact ⟨n, hnode, _, getResource_flatMap hplace hnodup hobj hnode hget L,
        fun hgone' => absurd hgone' hgone, fun _ => rfl⟩

variable {s : ImportSide E I} {w : View}

/-- The common handler, exactly. -/
theorem proper_agentDiffExportHandler_iff {objs : List E} :
    Proper k (ImportGone k s w) id (agentDiffExportHandler k s w) objs ↔
      ∀ obj ∈ objs, k.state obj ≠ UBSE_MEM_EXPORT_DESTROYED → k.exportNodeId obj ≠ none := by
  constructor
  · intro h obj hobj
    refine (handles_agentDiffExport_iff obj).1 (h.handles (obj, _) ?_)
    exact List.mem_map.2 ⟨obj, hobj, rfl⟩
  · intro h
    exact proper_of_handles atPlace_agentDiffExport (fun _ => rfl) rfl (fun _ => rfl)
      fun obj hobj => (handles_agentDiffExport_iff obj).2 (h obj hobj)

end Lists

/-! ### The NUMA nodes -/

section Numa

variable {w : View}

/-- The export ends the loop. -/
def EndsLoop (obj : UbseMemNumaBorrowExportObj) : Prop :=
  obj.base.status.state ≠ UBSE_MEM_EXPORT_DESTROYED ∧ obj.base.algoResult.importNumaInfos = []

theorem snd_of_mem_numa {objs : List UbseMemNumaBorrowExportObj}
    {p : UbseMemNumaBorrowExportObj × List (Effect UbseMemNumaBorrowExportObj)}
    (h : p ∈ agentDiffNumaExportHandler w objs) :
    p.2 = agentDiffExport numaExport numaImports w p.1 := by
  induction objs with
  | nil => cases h
  | cons obj objs ih =>
    rw [agentDiffNumaExportHandler] at h
    rcases List.mem_cons.1 h with rfl | h
    · rfl
    · split at h
      · cases h
      · exact ih h

theorem numa_of_endsLoop {obj : UbseMemNumaBorrowExportObj} (h : EndsLoop obj)
    (objs : List UbseMemNumaBorrowExportObj) : agentDiffNumaExportHandler w (obj :: objs) =
      [(obj, agentDiffExport numaExport numaImports w obj)] := by
  rw [agentDiffNumaExportHandler, if_pos (show _ ∧ _ from h)]

theorem numa_of_not_endsLoop {obj : UbseMemNumaBorrowExportObj} (h : ¬EndsLoop obj)
    (objs : List UbseMemNumaBorrowExportObj) : agentDiffNumaExportHandler w (obj :: objs) =
      (obj, agentDiffExport numaExport numaImports w obj) :: agentDiffNumaExportHandler w objs := by
  rw [agentDiffNumaExportHandler, if_neg (show ¬(_ ∧ _) from h)]

/-- The loop visits the whole list just if at most the last element ends it. -/
theorem visits_numa_iff {objs : List UbseMemNumaBorrowExportObj} :
    (agentDiffNumaExportHandler w objs).map Prod.fst = objs ↔
      ∀ obj ∈ objs.dropLast, ¬EndsLoop obj := by
  induction objs with
  | nil => exact iff_of_true rfl fun _ h => nomatch h
  | cons obj objs ih =>
    cases objs with
    | nil =>
      refine iff_of_true ?_ fun _ h => nomatch h
      rw [agentDiffNumaExportHandler, agentDiffNumaExportHandler, ite_self]
      rfl
    | cons next rest =>
      rw [List.dropLast_cons_cons, List.forall_mem_cons]
      constructor
      · intro h
        by_cases hends : EndsLoop obj
        · rw [numa_of_endsLoop hends] at h
          cases h
        · rw [numa_of_not_endsLoop hends, List.map_cons, List.cons.injEq] at h
          exact ⟨hends, ih.1 h.2⟩
      · rintro ⟨hends, h⟩
        rw [numa_of_not_endsLoop hends, List.map_cons, ih.2 h]

theorem numa_eq_map {objs : List UbseMemNumaBorrowExportObj}
    (h : (agentDiffNumaExportHandler w objs).map Prod.fst = objs) :
    agentDiffNumaExportHandler w objs = agentDiffExportHandler numaExport numaImports w objs := by
  conv_rhs => rw [agentDiffExportHandler, ← h, List.map_map]
  refine (List.map_id _).symm.trans (List.map_congr_left fun p hp => ?_)
  exact Prod.ext rfl (snd_of_mem_numa hp)

theorem proper_numa_iff {objs : List UbseMemNumaBorrowExportObj} :
    Proper numaExport (ImportGone numaExport numaImports w) id (agentDiffNumaExportHandler w) objs ↔
      (∀ obj ∈ objs.dropLast, ¬EndsLoop obj) ∧
        ∀ obj ∈ objs, numaExport.state obj ≠ UBSE_MEM_EXPORT_DESTROYED →
          numaExport.exportNodeId obj ≠ none := by
  have hsingle : ∀ obj, agentDiffNumaExportHandler w [obj] =
      [(obj, agentDiffExport numaExport numaImports w obj)] := by
    intro obj
    rw [agentDiffNumaExportHandler, agentDiffNumaExportHandler, ite_self]
  constructor
  · intro h
    refine ⟨visits_numa_iff.1 h.visits, fun obj hobj => ?_⟩
    refine (handles_agentDiffExport_iff obj).1 (h.handles (obj, _) ?_)
    rw [numa_eq_map h.visits]
    exact List.mem_map.2 ⟨obj, hobj, rfl⟩
  · rintro ⟨hends, h⟩
    exact proper_of_handles atPlace_agentDiffExport hsingle (numa_eq_map (visits_numa_iff.2 hends))
      (fun _ => rfl) fun obj hobj => (handles_agentDiffExport_iff obj).2 (h obj hobj)

end Numa

/-! ### Shared memory -/

/-- An export of shared memory with the ids of its nodes refreshed. -/
def refreshShare (obj : UbseMemShareBorrowExportObj) : UbseMemShareBorrowExportObj :=
  { obj with req := UbseMemShareBorrowReq.withSlots obj.req }

theorem handles_agentDiffShareExport_iff (obj : UbseMemShareBorrowExportObj) :
    Handles shareExport (fun _ => False) refreshShare obj (agentDiffShareExport obj) ↔
      shareExport.state obj ≠ UBSE_MEM_IMPORT_DESTROYED ∧
        (shareExport.state obj ≠ UBSE_MEM_EXPORT_DESTROYED →
          shareExport.exportNodeId obj ≠ none) := by
  constructor
  · intro h
    refine ⟨fun hstate => ?_, exportNodeId_ne_none_of_handles h rfl⟩
    have hne : shareExport.state obj ≠ UBSE_MEM_EXPORT_DESTROYED := by
      rw [hstate]
      decide
    obtain ⟨n, -, hget, -⟩ := h.restored hne not_false
    have heq : agentDiffShareExport obj = [] := if_pos hstate
    rw [heq] at hget
    exact nomatch hget .empty
  · rintro ⟨himport, hnode⟩
    have heq : agentDiffShareExport obj = addExport shareExport (refreshShare obj) := if_neg himport
    refine ⟨?_, fun _ h => h.elim, fun hstate _ => ?_⟩
    · rintro hstate ⟨n, r, o, hmem⟩
      rw [heq, addExport, if_pos (show shareExport.state (refreshShare obj) = _ from hstate),
        eraseExport] at hmem
      split at hmem
      · simp at hmem
      · simp at hmem
    · obtain ⟨nodeId, hnode⟩ := Option.ne_none_iff_exists'.1 (hnode hstate)
      rw [heq]
      have hrestored : Restored shareExport (refreshShare obj)
          (addExport shareExport (refreshShare obj)) := restored_addExport hstate hnode
      exact hrestored

theorem proper_share_iff {objs : List UbseMemShareBorrowExportObj} :
    Proper shareExport (fun _ => False) refreshShare agentDiffShareExportHandler objs ↔
      ∀ obj ∈ objs, shareExport.state obj ≠ UBSE_MEM_IMPORT_DESTROYED ∧
        (shareExport.state obj ≠ UBSE_MEM_EXPORT_DESTROYED →
          shareExport.exportNodeId obj ≠ none) := by
  have hplace : ∀ obj, AtPlace shareExport obj (agentDiffShareExport obj) := by
    intro obj
    rw [agentDiffShareExport]
    split
    · exact .nil obj
    · exact atPlace_addExport rfl
  constructor
  · intro h obj hobj
    refine (handles_agentDiffShareExport_iff obj).1 (h.handles (obj, _) ?_)
    exact List.mem_map.2 ⟨obj, hobj, rfl⟩
  · intro h
    exact proper_of_handles hplace (fun _ => rfl) rfl (fun _ => rfl)
      fun obj hobj => (handles_agentDiffShareExport_iff obj).2 (h obj hobj)

/-! ### The same outcome for the same lists -/

inductive Outcome where
  | passed
  | restored
  | deleted
  deriving DecidableEq

section Outcomes

variable {E I E' I' : Type} {k : ExportKind E} {s : ImportSide E I} {k' : ExportKind E'}
  {s' : ImportSide E' I'} {w : View}

def Effect.isSend : Effect E → Bool
  | .sendExportObj _ _ => true
  | _ => false

def Effect.isPut : Effect E → Bool
  | .ledger (.putResource _ _ (some _)) => true
  | _ => false

/-- What became of an export. -/
def outcome (effects : List (Effect E)) : Outcome :=
  if effects.any Effect.isSend then .deleted
  else if effects.any Effect.isPut then .restored
  else .passed

def outcomes (handled : Handled E) : List Outcome := handled.map fun p => outcome p.2

/-- **Two exports of different kinds correspond**: they have the same name, state and nodes, and
on every node the handlers see the same of their imports. -/
structure Corresponds (k : ExportKind E) (s : ImportSide E I) (k' : ExportKind E')
    (s' : ImportSide E' I') (w : View) (obj : E) (obj' : E') : Prop where
  name : k.name obj = k'.name obj'
  state : k.state obj = k'.state obj'
  exportNodeId : k.exportNodeId obj = k'.exportNodeId obj'
  importNodeId : s.importNodeId obj = s'.importNodeId obj'
  imports : ∀ debtMap ∈ [w.nodeMemDebtInfoMap, w.allDebtInfoMap], ∀ nodeId,
    importSeen s debtMap nodeId (k.name obj) = importSeen s' debtMap nodeId (k'.name obj')

theorem Corresponds.importGone_iff {obj : E} {obj' : E'} (h : Corresponds k s k' s' w obj obj') :
    ImportGone k s w obj ↔ ImportGone k' s' w obj' := by
  have himport : ∀ debtMap ∈ [w.nodeMemDebtInfoMap, w.allDebtInfoMap], ∀ nodeId,
      HasImport s debtMap nodeId (k.name obj) ↔ HasImport s' debtMap nodeId (k'.name obj') := by
    intro debtMap hmap nodeId
    rw [HasImport, HasImport, h.imports debtMap hmap]
  rw [ImportGone, ImportGone, h.importNodeId]
  refine forall₂_congr fun nodeId _ => ?_
  rw [himport _ List.mem_cons_self, himport _ (List.mem_cons_of_mem _ (List.mem_singleton.2 rfl))]

theorem outcome_of_exportNodeId_eq_none {obj : E} (h : k.exportNodeId obj = none) :
    outcome (agentDiffExport k s w obj) = .passed := by
  have hdelete : deleteExport k obj = [] := by
    rw [deleteExport, exportUpdateState, k.exportNodeId_destroying, h]
    rfl
  by_cases hstate : k.state obj = UBSE_MEM_EXPORT_DESTROYED
  · rw [agentDiffExport_destroyed hstate]
    rfl
  · have hadd : addExport k obj = [.memoryObjChange obj] := by
      rw [addExport_eq hstate, exportUpdateState, h]
      rfl
    by_cases hgone : ImportGone k s w obj
    · rw [agentDiffExport_of_gone hstate hgone, hadd, hdelete]
      rfl
    · rw [agentDiffExport_of_not_gone hstate hgone, hadd]
      rfl

theorem outcome_of_gone {obj : E} {nodeId : string} (hnode : k.exportNodeId obj = some nodeId)
    (hstate : k.state obj ≠ UBSE_MEM_EXPORT_DESTROYED) (hgone : ImportGone k s w obj) :
    outcome (agentDiffExport k s w obj) = .deleted := by
  rw [agentDiffExport_of_gone hstate hgone, addExport_eq hstate, exportUpdateState, hnode,
    deleteExport_eq hnode]
  rfl

theorem outcome_of_not_gone {obj : E} {nodeId : string} (hnode : k.exportNodeId obj = some nodeId)
    (hstate : k.state obj ≠ UBSE_MEM_EXPORT_DESTROYED) (hgone : ¬ImportGone k s w obj) :
    outcome (agentDiffExport k s w obj) = .restored := by
  rw [agentDiffExport_of_not_gone hstate hgone, addExport_eq hstate, exportUpdateState, hnode]
  rfl

/-- Exports that correspond have the same outcome. -/
theorem Corresponds.outcome_eq {obj : E} {obj' : E'} (h : Corresponds k s k' s' w obj obj') :
    outcome (agentDiffExport k s w obj) = outcome (agentDiffExport k' s' w obj') := by
  cases hnode : k.exportNodeId obj with
  | none =>
    rw [outcome_of_exportNodeId_eq_none hnode,
      outcome_of_exportNodeId_eq_none (h.exportNodeId ▸ hnode)]
  | some nodeId =>
    have hnode' : k'.exportNodeId obj' = some nodeId := h.exportNodeId ▸ hnode
    by_cases hstate : k.state obj = UBSE_MEM_EXPORT_DESTROYED
    · rw [agentDiffExport_destroyed hstate, agentDiffExport_destroyed (h.state ▸ hstate)]
      rfl
    · have hstate' : k'.state obj' ≠ UBSE_MEM_EXPORT_DESTROYED := h.state ▸ hstate
      by_cases hgone : ImportGone k s w obj
      · rw [outcome_of_gone hnode hstate hgone,
          outcome_of_gone hnode' hstate' (h.importGone_iff.1 hgone)]
      · rw [outcome_of_not_gone hnode hstate hgone,
          outcome_of_not_gone hnode' hstate' (h.importGone_iff.not.1 hgone)]

theorem outcomes_eq_of_forall₂ {objs : List E} {objs' : List E'}
    (h : List.Forall₂ (Corresponds k s k' s' w) objs objs') :
    outcomes (agentDiffExportHandler k s w objs) =
      outcomes (agentDiffExportHandler k' s' w objs') := by
  induction h with
  | nil => rfl
  | cons hobj _ ih => exact List.cons_eq_cons.2 ⟨hobj.outcome_eq, ih⟩

end Outcomes

/-! ### The four handlers -/

/-- **The handlers do what they are there for**, each with its own list; and lists of different
kinds that correspond have the same outcomes. -/
structure HandlersProper (w : View) (fds : List UbseMemFdBorrowExportObj)
    (numas : List UbseMemNumaBorrowExportObj) (addrs : List UbseMemAddrBorrowExportObj)
    (shares : List UbseMemShareBorrowExportObj) : Prop where
  fd : Proper fdExport (ImportGone fdExport fdImports w) id (agentDiffFdExportHandler w) fds
  numa : Proper numaExport (ImportGone numaExport numaImports w) id
    (agentDiffNumaExportHandler w) numas
  addr : Proper addrExport (ImportGone addrExport addrImports w) id
    (agentDiffAddrExportHandler w) addrs
  share : Proper shareExport (fun _ => False) refreshShare agentDiffShareExportHandler shares
  fdNuma : List.Forall₂ (Corresponds fdExport fdImports numaExport numaImports w) fds numas →
    outcomes (agentDiffFdExportHandler w fds) = outcomes (agentDiffNumaExportHandler w numas)
  numaAddr : List.Forall₂ (Corresponds numaExport numaImports addrExport addrImports w) numas
      addrs →
    outcomes (agentDiffNumaExportHandler w numas) = outcomes (agentDiffAddrExportHandler w addrs)
  fdAddr : List.Forall₂ (Corresponds fdExport fdImports addrExport addrImports w) fds addrs →
    outcomes (agentDiffFdExportHandler w fds) = outcomes (agentDiffAddrExportHandler w addrs)

/-- The exports that are not destroyed know the node they are on. -/
def AllPlaced {E : Type} (k : ExportKind E) (objs : List E) : Prop :=
  ∀ obj ∈ objs, k.state obj ≠ UBSE_MEM_EXPORT_DESTROYED → k.exportNodeId obj ≠ none

/-- **Exactly when they do**: no export of NUMA memory but the last ends the loop, no export of
shared memory has the state of a destroyed import, and all exports know their node. -/
theorem handlers_proper_iff (w : View) (fds : List UbseMemFdBorrowExportObj)
    (numas : List UbseMemNumaBorrowExportObj) (addrs : List UbseMemAddrBorrowExportObj)
    (shares : List UbseMemShareBorrowExportObj) :
    HandlersProper w fds numas addrs shares ↔
      (∀ obj ∈ numas.dropLast, ¬EndsLoop obj) ∧
        (∀ obj ∈ shares, shareExport.state obj ≠ UBSE_MEM_IMPORT_DESTROYED) ∧
        AllPlaced fdExport fds ∧ AllPlaced numaExport numas ∧ AllPlaced shareExport shares := by
  constructor
  · intro h
    obtain ⟨hends, hnuma⟩ := proper_numa_iff.1 h.numa
    have hshare := proper_share_iff.1 h.share
    exact ⟨hends, fun obj hobj => (hshare obj hobj).1, proper_agentDiffExportHandler_iff.1 h.fd,
      hnuma, fun obj hobj => (hshare obj hobj).2⟩
  · rintro ⟨hends, himport, hfd, hnuma, hshare⟩
    have hmap : agentDiffNumaExportHandler w numas =
        agentDiffExportHandler numaExport numaImports w numas := numa_eq_map (visits_numa_iff.2 hends)
    refine ⟨proper_agentDiffExportHandler_iff.2 hfd, proper_numa_iff.2 ⟨hends, hnuma⟩,
      proper_agentDiffExportHandler_iff.2 fun _ _ _ h => (nomatch h),
      proper_share_iff.2 fun obj hobj => ⟨himport obj hobj, hshare obj hobj⟩, fun h => ?_,
      fun h => ?_, outcomes_eq_of_forall₂⟩
    · rw [hmap]
      exact outcomes_eq_of_forall₂ h
    · rw [hmap]
      exact outcomes_eq_of_forall₂ h

/-- A node exports two borrowings of NUMA nodes, the first of which has no importing node: the
handler does not visit the second. -/
theorem handlers_not_proper : ¬∀ (w : View) (fds : List UbseMemFdBorrowExportObj)
    (numas : List UbseMemNumaBorrowExportObj) (addrs : List UbseMemAddrBorrowExportObj)
    (shares : List UbseMemShareBorrowExportObj), HandlersProper w fds numas addrs shares := by
  intro h
  let numas : List UbseMemNumaBorrowExportObj :=
    [{ req := { base := { base := { name := [97] }, importNodeId := [49] } },
       base := { algoResult := { exportNumaInfos := [{ nodeId := [50] }] },
                 status := { state := UBSE_MEM_EXPORT_SUCCESS } } },
     { req := { base := { base := { name := [98] }, importNodeId := [49] } },
       base := { algoResult := { exportNumaInfos := [{ nodeId := [50] }],
                                 importNumaInfos := [{ nodeId := [49] }] },
                 status := { state := UBSE_MEM_EXPORT_SUCCESS } } }]
  have hvisits := (h ⟨[49], fun _ => false, .empty, .empty⟩ [] numas [] []).numa.visits
  exact absurd (congrArg List.length hvisits) (by decide)

end Ledger

end UbsEngine
