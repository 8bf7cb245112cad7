import UbsEngine.Library.Reconcile
import UbsEngine.Mem.Objects

/-!
# The ledgers of the master and of a node

When a node comes back, the master compares its own ledger of the node with the one that the
node keeps, kind by kind (`UbsEngine.Ledger.fdBorrowLedger` and its siblings). The objects that
the master is working on are set aside and asked for again; of the others, those that only the
master has are destroyed, those that only the node has are taken over, and those that both have
are compared for their state.

An export is kept under the name of the borrowing and the node that imports it
(`UbsEngine.Ledger.exportKey`), since each importing node chooses its names for itself, and the
comparison is made by the name alone. `UbsEngine.Ledger.exports_split_iff` says exactly when the
exports are split as their keys say: when the two ledgers have the same importing nodes under
every name that both of them use. Imports are kept under their name, so they are always split by
their key (`UbsEngine.Ledger.imports_split`).
-/

namespace UbsEngine

namespace Ledger

open Mem Reconcile

/-! ### States -/

def UBSE_MEM_SCHEDULING : UbseMemState := ⟨4⟩
def UBSE_MEM_EXPORT_RUNNING : UbseMemState := ⟨5⟩
def UBSE_MEM_EXPORT_SUCCESS : UbseMemState := ⟨6⟩
def UBSE_MEM_EXPORT_DESTROYING : UbseMemState := ⟨7⟩
def UBSE_MEM_EXPORT_DESTROYED : UbseMemState := ⟨8⟩
def UBSE_MEM_EXPORT_DESTROYING_WAIT : UbseMemState := ⟨9⟩
def UBSE_MEM_IMPORT_RUNNING : UbseMemState := ⟨10⟩
def UBSE_MEM_IMPORT_SUCCESS : UbseMemState := ⟨11⟩
def UBSE_MEM_IMPORT_DESTROYING : UbseMemState := ⟨12⟩
def UBSE_MEM_IMPORT_DESTROYING_WAIT : UbseMemState := ⟨13⟩
def UBSE_MEM_IMPORT_DESTROYED : UbseMemState := ⟨14⟩

/-- The states of an export that the master is working on. -/
def isRunningExport (state : UbseMemState) : Bool :=
  state = UBSE_MEM_SCHEDULING ∨ state = UBSE_MEM_EXPORT_RUNNING ∨
    state = UBSE_MEM_EXPORT_DESTROYING ∨ state = UBSE_MEM_EXPORT_DESTROYING_WAIT

/-- The states of an import that the master is working on: the import itself may be under way, or
its export. -/
def isRunningImport (state : UbseMemState) : Bool :=
  isRunningExport state ∨ state = UBSE_MEM_IMPORT_RUNNING ∨
    state = UBSE_MEM_IMPORT_DESTROYING ∨ state = UBSE_MEM_IMPORT_DESTROYING_WAIT

/-! ### Filters

The filters of the source are written out for each kind of object; they differ in nothing but
the type, so they stand here once, over any objects that have a name. -/

section Filters

variable {Obj : Type} (name : Obj → string)

/-- The objects of the master that are under way; and the objects of both sides without those
of a name that the master is working on. -/
def filterRunning (running : Obj → Bool) (masterObjs agentObjs : List Obj) :
    List Obj × List Obj × List Obj :=
  let masterRunningObjs := masterObjs.filter running
  (masterRunningObjs, findDiff name masterObjs masterRunningObjs,
    findDiff name agentObjs masterRunningObjs)

/-- What only the master has, and what only the node has. -/
def filterDifferentSet (masterObjs agentObjs : List Obj) : List Obj × List Obj :=
  (findDiff name masterObjs agentObjs, findDiff name agentObjs masterObjs)

/-- The objects of the node that the master has too. -/
def filterBothExists (masterObjs agentObjs : List Obj) : List Obj :=
  findCommon name agentObjs masterObjs

end Filters

/-- The objects of a map, in the order in which it is run through. -/
def transList {Obj : Type} (objMap : OrderedMap string Obj) : List Obj :=
  objMap.toList.map Prod.snd

/-! ### The four kinds -/

/-- What a comparison hands to the handlers. -/
structure BorrowSets (E I : Type) where
  exports : Parts E
  masterRunningImports : List I
  masterDiffImports : List I
  agentDiffImports : List I

section Kinds

variable {E I : Type} (exportName : E → string) (exportState : E → UbseMemState)
  (importName : I → string) (importState : I → UbseMemState)

def exportSets (masterExports agentExports : List E) : Parts E :=
  let r := filterRunning exportName (fun o => isRunningExport (exportState o)) masterExports
    agentExports
  let d := filterDifferentSet exportName r.2.1 r.2.2
  ⟨r.1, d.1, d.2, filterBothExists exportName r.2.1 r.2.2⟩

/-- The comparison of one kind of borrowing. -/
def borrowLedger (masterExports agentExports : OrderedMap string E)
    (masterImports agentImports : OrderedMap string I) : BorrowSets E I :=
  let r := filterRunning importName (fun o => isRunningImport (importState o))
    (transList masterImports) (transList agentImports)
  let d := filterDifferentSet importName r.2.1 r.2.2
  ⟨exportSets exportName exportState (transList masterExports) (transList agentExports),
    r.1, d.1, d.2⟩

end Kinds

def fdBorrowLedger (masterDebtInfo agentDebtInfo : NodeMemDebtInfo) :
    BorrowSets UbseMemFdBorrowExportObj UbseMemFdBorrowImportObj :=
  borrowLedger (fun o => o.req.base.name) (fun o => o.base.status.state)
    (fun o => o.req.base.name) (fun o => o.base.status.state)
    masterDebtInfo.fdExportObjMap agentDebtInfo.fdExportObjMap
    masterDebtInfo.fdImportObjMap agentDebtInfo.fdImportObjMap

def numaBorrowLedger (masterDebtInfo agentDebtInfo : NodeMemDebtInfo) :
    BorrowSets UbseMemNumaBorrowExportObj UbseMemNumaBorrowImportObj :=
  borrowLedger (fun o => o.req.base.base.name) (fun o => o.base.status.state)
    (fun o => o.req.base.base.name) (fun o => o.base.status.state)
    masterDebtInfo.numaExportObjMap agentDebtInfo.numaExportObjMap
    masterDebtInfo.numaImportObjMap agentDebtInfo.numaImportObjMap

def addrBorrowLedger (masterDebtInfo agentDebtInfo : NodeMemDebtInfo) :
    BorrowSets UbseMemAddrBorrowExportObj UbseMemAddrBorrowImportObj :=
  borrowLedger (fun o => o.req.base.name) (fun o => o.base.status.state)
    (fun o => o.req.base.name) (fun o => o.base.status.state)
    masterDebtInfo.addrExportObjMap agentDebtInfo.addrExportObjMap
    masterDebtInfo.addrImportObjMap agentDebtInfo.addrImportObjMap

/-- Shared memory is compared like the rest, though the exports that both have are not looked
at. -/
def shmBorrowLedger (masterDebtInfo agentDebtInfo : NodeMemDebtInfo) :
    BorrowSets UbseMemShareBorrowExportObj UbseMemShareBorrowImportObj :=
  let sets := borrowLedger (fun o => o.req.base.name) (fun o => o.base.status.state)
    (fun o => o.req.base.name) (fun o => o.base.status.state)
    masterDebtInfo.shareExportObjMap agentDebtInfo.shareExportObjMap
    masterDebtInfo.shareImportObjMap agentDebtInfo.shareImportObjMap
  { sets with exports := { sets.exports with both := [] } }

/-! ### Keys -/

/-- Under what an export is kept: the name of the borrowing and the node that imports it. -/
def exportKey {E : Type} (name importNodeId : E → string) (o : E) : string × string :=
  (name o, importNodeId o)

/-- The text of the key. -/
def generateExportObjKey (name importNodeId : string) : string := name ++ 95 :: importNodeId

/-- **The text of a key tells the key**, as the ids of nodes have no underscore. -/
theorem generateExportObjKey_inj {name name' node node' : string} (h : 95 ∉ node)
    (h' : 95 ∉ node')
    (heq : generateExportObjKey name node = generateExportObjKey name' node') :
    (name, node) = (name', node') := by
  have hrev := congrArg List.reverse heq
  simp only [generateExportObjKey, List.reverse_append, List.reverse_cons, List.append_assoc,
    List.singleton_append] at hrev
  have hnode : ∀ (n : string) (l : string), 95 ∉ n →
      (n.reverse ++ 95 :: l).takeWhile (· ≠ 95) = n.reverse := by
    intro n l hn
    rw [List.takeWhile_append_of_pos fun x hx => ?_]
    · simp
    · exact decide_eq_true fun hx' => hn (hx' ▸ List.mem_reverse.1 hx)
  have hnodes : node.reverse = node'.reverse := by
    rw [← hnode node name.reverse h, hrev, hnode node' name'.reverse h']
  rw [hnodes] at hrev
  have hnames := (List.cons.inj (List.append_cancel_left hrev)).2
  rw [List.reverse_injective hnodes, List.reverse_injective hnames]

/-! ### The exports -/

section Exports

variable {E : Type} (name importNodeId : E → string) (state : E → UbseMemState)

/-- The exports are split by their names. -/
theorem exportSets_eq_splitBy (masterExports agentExports : List E) :
    exportSets name state masterExports agentExports =
      splitBy name (fun o => isRunningExport (state o)) masterExports agentExports := rfl

theorem exportSets_splitsBy_iff (masterExports agentExports : List E) :
    SplitsBy (exportKey name importNodeId) (fun o => isRunningExport (state o))
        masterExports agentExports (exportSets name state masterExports agentExports) ↔
      Agrees name (exportKey name importNodeId) (fun o => isRunningExport (state o))
        masterExports agentExports :=
  splitsBy_splitBy_iff fun _ _ heq => congrArg Prod.fst heq

end Exports

def fdExportKey : UbseMemFdBorrowExportObj → string × string :=
  exportKey (fun o => o.req.base.name) (fun o => o.req.importNodeId)

def numaExportKey : UbseMemNumaBorrowExportObj → string × string :=
  exportKey (fun o => o.req.base.base.name) (fun o => o.req.base.importNodeId)

def addrExportKey : UbseMemAddrBorrowExportObj → string × string :=
  exportKey (fun o => o.req.base.name) (fun o => o.req.importNodeId)

/-- **The exports are split as their keys say exactly where the two ledgers agree** on the names
that both use, whichever the kind. -/
theorem exports_split_iff (masterDebtInfo agentDebtInfo : NodeMemDebtInfo) :
    (SplitsBy fdExportKey (fun o => isRunningExport o.base.status.state)
        (transList masterDebtInfo.fdExportObjMap) (transList agentDebtInfo.fdExportObjMap)
        (fdBorrowLedger masterDebtInfo agentDebtInfo).exports ↔
      Agrees (fun o => o.req.base.name) fdExportKey
        (fun o => isRunningExport o.base.status.state)
        (transList masterDebtInfo.fdExportObjMap) (transList agentDebtInfo.fdExportObjMap)) ∧
    (SplitsBy numaExportKey (fun o => isRunningExport o.base.status.state)
        (transList masterDebtInfo.numaExportObjMap) (transList agentDebtInfo.numaExportObjMap)
        (numaBorrowLedger masterDebtInfo agentDebtInfo).exports ↔
      Agrees (fun o => o.req.base.base.name) numaExportKey
        (fun o => isRunningExport o.base.status.state)
        (transList masterDebtInfo.numaExportObjMap) (transList agentDebtInfo.numaExportObjMap)) ∧
    (SplitsBy addrExportKey (fun o => isRunningExport o.base.status.state)
        (transList masterDebtInfo.addrExportObjMap) (transList agentDebtInfo.addrExportObjMap)
        (addrBorrowLedger masterDebtInfo agentDebtInfo).exports ↔
      Agrees (fun o => o.req.base.name) addrExportKey
        (fun o => isRunningExport o.base.status.state)
        (transList masterDebtInfo.addrExportObjMap)
        (transList agentDebtInfo.addrExportObjMap)) :=
  ⟨exportSets_splitsBy_iff _ _ _ _ _, exportSets_splitsBy_iff _ _ _ _ _,
    exportSets_splitsBy_iff _ _ _ _ _⟩

/-- An export named `a` for the node `1` or `2`. -/
def exportTo (importNodeId : string) : UbseMemFdBorrowExportObj where
  base := { status := { state := UBSE_MEM_EXPORT_SUCCESS } }
  req := { base := { name := [97] }, importNodeId := importNodeId }

/-- A ledger whose one export is named `a`, for the node `importNodeId`. -/
def oneExport (importNodeId : string) : NodeMemDebtInfo where
  fdExportObjMap :=
    ⟨[(generateExportObjKey [97] importNodeId, exportTo importNodeId)], by simp⟩

/-- The master has an export `a` for node `1` that the node has not, and the node one for node
`2` that the master has not: the first is in no part, and the second is compared. -/
theorem exports_not_split :
    ¬SplitsBy fdExportKey (fun o => isRunningExport o.base.status.state)
        (transList (oneExport [49]).fdExportObjMap) (transList (oneExport [50]).fdExportObjMap)
        (fdBorrowLedger (oneExport [49]) (oneExport [50])).exports := by
  intro h
  have hmem := (h.leftOnly (exportTo [49])).2 (by decide)
  exact absurd hmem (by decide)

/-! ### The imports -/

/-- **The imports are split by their key**, which is their name. -/
theorem imports_split {E I : Type} (exportName : E → string) (exportState : E → UbseMemState)
    (importName : I → string) (importState : I → UbseMemState)
    (masterExports agentExports : OrderedMap string E)
    (masterImports agentImports : OrderedMap string I)
    (hkeyed : ∀ e ∈ masterImports.toList, e.1 = importName e.2) :
    let sets := borrowLedger exportName exportState importName importState masterExports
      agentExports masterImports agentImports
    ∃ both, SplitsBy importName (fun o => isRunningImport (importState o))
      (transList masterImports) (transList agentImports)
      ⟨sets.masterRunningImports, sets.masterDiffImports, sets.agentDiffImports, both⟩ := by
  have hnodup : ((transList masterImports).map importName).Nodup := by
    have hkeys : masterImports.toList.map Prod.fst =
        (transList masterImports).map importName := by
      rw [transList, List.map_map]
      exact List.map_congr_left hkeyed
    rw [← hkeys]
    exact masterImports.nodup
  exact ⟨_, splitsBy_splitBy hnodup⟩

end Ledger

end UbsEngine
