import UbsEngine.Ledger.Records

/-!
# Imports are joined with their exports

The query for the records of the ledger finds the export of an import by a text: the name of the
borrowing, an underscore and the importing node. An export is kept under this text, and the text of
an import is put together from the key of its map. As the ids of nodes have no underscore the text
tells name and node, and the name is what is left when it is cut at its last underscore.

What the text does not tell is the node that exports. When several nodes have an export of one name
for one importing node, the query looks at the one it met last, be it destroyed or not.
`UbsEngine.Ledger.joins_exactly_iff` says exactly when every import is listed with its own export.
-/

namespace UbsEngine

namespace Ledger

open Mem

/-! ### The ledger and its keys -/

section Keys

variable {I E : Type}

/-- The names under which the objects of a kind are kept are those of their requests. -/
structure Keyed (k : Kind I E) (importName : I → string) (exportKey : E → string × string)
    (debtInfoMap : NodeMemDebtInfoMap) : Prop where
  imports : ∀ n ∈ debtInfoMap.toList, ∀ e ∈ (k.imports n.2).toList, e.1 = importName e.2
  exports : ∀ n ∈ debtInfoMap.toList, ∀ e ∈ (k.exports n.2).toList,
    e.1 = generateExportObjKey (exportKey e.2).1 (exportKey e.2).2 ∧ 95 ∉ (exportKey e.2).2

end Keys

/-- **The ledger of the master with its keys**: the nodes have numbers for ids, and the objects
are kept under the names and importing nodes of their requests. -/
structure KeyedLedger extends BorrowLedger where
  fdKeyed : Keyed fdKind (fun o => o.req.base.name) fdExportKey debtInfoMap
  numaKeyed : Keyed numaKind (fun o => o.req.base.base.name) numaExportKey debtInfoMap
  addrKeyed : Keyed addrKind (fun o => o.req.base.name) addrExportKey debtInfoMap

/-! ### What the query is there for -/

section Spec

variable {I E : Type} (k : Kind I E) (exportKey : E → string × string) (L : NodeMemDebtInfoMap)

/-- The imports that succeeded. -/
def successfulImports : List (string × string × I) :=
  (importsOf k L).filter fun c => (k.importBase c.2.2).status.state = UBSE_MEM_IMPORT_SUCCESS

/-- The exports of the name and the importing node of an import, on whatever node. -/
def ownExports (c : string × string × I) : List E :=
  ((exportEntries k L).map Prod.snd).filter fun e => exportKey e = (c.2.1, c.1)

/-- The node that lends, and what it lends. -/
def exportSide (exportObj : E) : string × List NumaSize :=
  (((k.exportBase exportObj).algoResult.exportNumaInfos.head?.map (·.nodeId)).getD [],
    numaSizes (k.exportBase exportObj).algoResult.exportNumaInfos)

/-- The lending side of a record. -/
def lentSide (record : LedgerDymaticInfo) : string × List NumaSize :=
  (record.lentNodeId, record.lentNuma)

/-- **A record joins an import with its own export**: it has the name, the type and the borrowing
side of the import, and the lending side of an export of this name and importing node that
succeeded. Without such an export its lending side is empty. -/
structure Joined (c : string × string × I) (record : LedgerDymaticInfo) : Prop where
  name : record.resourceId = c.2.1
  type : record.type = k.importType c.2.2
  borrowNode : record.borrowNodeId = [c.1]
  borrowed : record.borrowNuma = (∅ : Map string (List NumaSize)).insert c.1
    (numaSizes (k.importBase c.2.2).algoResult.importNumaInfos)
  lent : (∃ e ∈ ownExports k exportKey L c, exportCounts k e) →
    ∃ e ∈ ownExports k exportKey L c, exportCounts k e ∧ lentSide record = exportSide k e
  notLent : (∀ e ∈ ownExports k exportKey L c, ¬exportCounts k e) → lentSide record = ([], [])

/-- The records of the name and the importing node of an import. -/
def recordsOf (out : List LedgerDymaticInfo) (c : string × string × I) : List LedgerDymaticInfo :=
  out.filter fun record => record.resourceId = c.2.1 ∧ record.borrowNodeId = [c.1]

/-- **The query is exact**: every successful import is listed once, with its own export; what else
is listed has no borrower; and the name of an export is what its key is cut to. -/
structure JoinsExactly (out : List LedgerDymaticInfo) : Prop where
  once : ∀ c ∈ successfulImports k L,
    ∃ record, recordsOf out c = [record] ∧ Joined k exportKey L c record
  only : ∀ record ∈ out, record.borrowNodeId ≠ [] →
    ∃ c ∈ successfulImports k L, record ∈ recordsOf out c
  names : ∀ e ∈ exportEntries k L, getPrefixBeforeLastUnderscore e.1 = (exportKey e.2).1

/-- The lending side of the own export that is met last, if that one succeeded. -/
def lastSide (c : string × string × I) : string × List NumaSize :=
  (((ownExports k exportKey L c).getLast?.filter (exportCounts k)).map (exportSide k)).getD ([], [])

/-- The import has a place, and if one of its own exports succeeded, the one that is met last
did; unless one of them lends nothing. -/
structure FoundByKey (c : string × string × I) : Prop where
  placed : (k.importBase c.2.2).algoResult.importNumaInfos ≠ []
  last : (∃ e ∈ ownExports k exportKey L c, exportCounts k e) →
    (∃ last ∈ (ownExports k exportKey L c).getLast?, exportCounts k last) ∨
      ∃ e ∈ ownExports k exportKey L c, exportCounts k e ∧
        (k.exportBase e).algoResult.exportNumaInfos = []

end Spec

section Kinds

variable {I E : Type} {k : Kind I E} {importName : I → string} {exportKey : E → string × string}
  {L : NodeMemDebtInfoMap}

/-- **Under the text of an import is the last of its own exports.** -/
theorem lookup_exportObjMap (hkeyed : Keyed k importName exportKey L)
    (hids : ∀ n ∈ L.toList, n.1 ≠ [] ∧ 95 ∉ n.1) {c : string × string × I}
    (hc : c ∈ importsOf k L) :
    (exportObjMap k L).lookup (importKey c) = (ownExports k exportKey L c).getLast? := by
  obtain ⟨n, hn, hnode, -⟩ := (mem_importsOf k).1 hc
  have hkey : ∀ e ∈ exportEntries k L, e.1 = importKey c ↔ exportKey e.2 = (c.2.1, c.1) := by
    intro e he
    obtain ⟨n', hn', he⟩ := List.mem_flatMap.1 he
    obtain ⟨hgen, hundersc⟩ := hkeyed.exports n' hn' e he
    rw [hgen, importKey]
    constructor
    · intro heq
      exact generateExportObjKey_inj hundersc (hnode ▸ (hids n hn).2) heq
    · intro heq
      rw [heq]
  have hfilter : ((exportEntries k L).filter fun e => e.1 = importKey c).map Prod.snd =
      ownExports k exportKey L c := by
    rw [ownExports, List.filter_map]
    refine congrArg (List.map Prod.snd) (List.filter_congr fun e he => ?_)
    exact decide_eq_decide.2 (hkey e he)
  rw [exportObjMap, Map.lookup_fill_eq_last, AList.lookup_empty, Option.or_none, ← hfilter,
    List.getLast?_map]

/-- The record of an import that counts, with the lending side of the last of its exports. -/
theorem midRecord_eq (hplaced : Placed k L) (hkeyed : Keyed k importName exportKey L)
    (hids : ∀ n ∈ L.toList, n.1 ≠ [] ∧ 95 ∉ n.1) {c : string × string × I}
    (hc : c ∈ countingImports k L) :
    midRecord k L c = { recordOf k L c with
      lentNodeId := (lastSide k exportKey L c).1
      lentNuma := (lastSide k exportKey L c).2 } := by
  rw [midRecord, formNumaInfoUsingImportObj_eq k hplaced hids hc,
    lookup_exportObjMap hkeyed hids (List.mem_filter.1 hc).1, lastSide]
  cases (ownExports k exportKey L c).getLast? with
  | none => rfl
  | some last =>
    dsimp only
    split
    next h =>
      rw [formNumaInfoUsingExportObj_eq _ rfl rfl, Option.filter_some, if_pos h]
      rfl
    next h =>
      rw [Option.filter_some, if_neg h]
      rfl

theorem exportSide_eq_nil_iff {e : E} :
    exportSide k e = ([], []) ↔ (k.exportBase e).algoResult.exportNumaInfos = [] := by
  constructor
  · intro h
    exact List.map_eq_nil_iff.1 (congrArg Prod.snd h)
  · intro h
    rw [exportSide, h]
    rfl

theorem lastSide_of_counts {c : string × string × I} {last : E}
    (hlast : (ownExports k exportKey L c).getLast? = some last) (h : exportCounts k last) :
    lastSide k exportKey L c = exportSide k last := by
  rw [lastSide, hlast, Option.filter_some, if_pos h]
  rfl

theorem lastSide_of_not_counts {c : string × string × I}
    (h : ∀ last ∈ (ownExports k exportKey L c).getLast?, ¬exportCounts k last) :
    lastSide k exportKey L c = ([], []) := by
  rw [lastSide]
  cases hlast : (ownExports k exportKey L c).getLast? with
  | none => rfl
  | some last =>
    rw [Option.filter_some, if_neg (h last hlast)]
    rfl

theorem joined_midRecord_iff (hplaced : Placed k L) (hkeyed : Keyed k importName exportKey L)
    (hids : ∀ n ∈ L.toList, n.1 ≠ [] ∧ 95 ∉ n.1) {c : string × string × I}
    (hc : c ∈ countingImports k L) :
    Joined k exportKey L c (midRecord k L c) ↔ FoundByKey k exportKey L c := by
  have hcounts := of_decide_eq_true (List.mem_filter.1 hc).2
  rw [midRecord_eq hplaced hkeyed hids hc]
  constructor
  · rintro ⟨-, -, -, -, hlent, -⟩
    refine ⟨hcounts.1, fun hown => ?_⟩
    by_contra hnone
    rw [not_or] at hnone
    obtain ⟨hlast, hnil⟩ := hnone
    obtain ⟨e, he, hcount, hside⟩ := hlent hown
    have hempty : lastSide k exportKey L c = ([], []) :=
      lastSide_of_not_counts fun last hmem hcount' => hlast ⟨last, hmem, hcount'⟩
    exact hnil ⟨e, he, hcount, exportSide_eq_nil_iff.1 (hside.symm.trans hempty)⟩
  · rintro ⟨-, hlast⟩
    refine ⟨rfl, rfl, rfl, rfl, fun hown => ?_, fun hnone => ?_⟩
    · by_cases hcount : ∃ last ∈ (ownExports k exportKey L c).getLast?, exportCounts k last
      · obtain ⟨last, hmem, hcount⟩ := hcount
        exact ⟨last, List.mem_of_getLast? hmem, hcount, lastSide_of_counts hmem hcount⟩
      · obtain ⟨e, he, hcount', hnil⟩ := (hlast hown).resolve_left hcount
        have hempty : lastSide k exportKey L c = ([], []) :=
          lastSide_of_not_counts fun last hmem hcount' => hcount ⟨last, hmem, hcount'⟩
        exact ⟨e, he, hcount', hempty.trans (exportSide_eq_nil_iff.2 hnil).symm⟩
    · exact lastSide_of_not_counts fun last hmem => hnone last (List.mem_of_getLast? hmem)

/-- Of a name and a node there is one import. -/
theorem eq_of_importsOf (hids : ∀ n ∈ L.toList, n.1 ≠ [] ∧ 95 ∉ n.1) {c c' : string × string × I}
    (hc : c ∈ importsOf k L) (hc' : c' ∈ importsOf k L) (hname : c.2.1 = c'.2.1)
    (hnode : c.1 = c'.1) : c = c' := by
  refine List.inj_on_of_nodup_map (nodup_importsOf k hids) hc hc' ?_
  rw [importKey, importKey, hname, hnode]

/-- A record with a borrower is of an import that counts. -/
theorem exists_of_mem_run (hids : ∀ n ∈ L.toList, n.1 ≠ [] ∧ 95 ∉ n.1)
    {o : Map.Iteration string LedgerDymaticInfo} {e : string × LedgerDymaticInfo}
    (he : e ∈ o.run (midLedgerInfo k L)) (hborrower : e.2.borrowNodeId ≠ []) :
    ∃ c ∈ countingImports k L, e = (importKey c, midRecord k L c) := by
  have hlookup := o.mem_run.1 he
  obtain ⟨c, hc, hkey⟩ := exists_of_lookup_midLedgerInfo k hids hlookup hborrower
  rw [← hkey, lookup_midLedgerInfo_of_mem k hids hc, Option.some.injEq] at hlookup
  exact ⟨c, hc, Prod.ext hkey.symm hlookup.symm⟩

variable (o : Map.Iteration string LedgerDymaticInfo)

/-- **Every import that counts is listed once.** -/
theorem recordsOf_assignLedger (hplaced : Placed k L) (hkeyed : Keyed k importName exportKey L)
    (hids : ∀ n ∈ L.toList, n.1 ≠ [] ∧ 95 ∉ n.1) {c : string × string × I}
    (hc : c ∈ countingImports k L) : recordsOf (assignLedger k o L) c = [midRecord k L c] := by
  have hkey : ∀ e ∈ o.run (midLedgerInfo k L),
      (e.2.resourceId = c.2.1 ∧ e.2.borrowNodeId = [c.1]) ↔ e.1 = importKey c := by
    intro e he
    constructor
    · rintro ⟨hname, hnode⟩
      obtain ⟨c', hc', rfl⟩ := exists_of_mem_run hids he (by rw [hnode]; exact List.cons_ne_nil _ _)
      rw [midRecord_eq hplaced hkeyed hids hc'] at hname hnode
      exact congrArg importKey (eq_of_importsOf hids (List.mem_filter.1 hc').1
        (List.mem_filter.1 hc).1 hname (List.singleton_inj.1 hnode))
    · intro heq
      have hlookup := o.mem_run.1 he
      rw [heq, lookup_midLedgerInfo_of_mem k hids hc, Option.some.injEq] at hlookup
      rw [← hlookup, midRecord_eq hplaced hkeyed hids hc]
      exact ⟨rfl, rfl⟩
  have hfilter : ((o.run (midLedgerInfo k L)).filter fun e =>
      e.2.resourceId = c.2.1 ∧ e.2.borrowNodeId = [c.1]) =
      (o.run (midLedgerInfo k L)).filter fun e => e.1 = importKey c :=
    List.filter_congr fun e he => decide_eq_decide.2 (hkey e he)
  rw [o.filter_run, lookup_midLedgerInfo_of_mem k hids hc] at hfilter
  rw [recordsOf, assignLedger, List.filter_map]
  exact congrArg (List.map Prod.snd) hfilter

/-- The name of an export is what its key is cut to. -/
theorem getPrefixBeforeLastUnderscore_of_keyed (hkeyed : Keyed k importName exportKey L) :
    ∀ e ∈ exportEntries k L, getPrefixBeforeLastUnderscore e.1 = (exportKey e.2).1 := by
  intro e he
  obtain ⟨n, hn, he⟩ := List.mem_flatMap.1 he
  obtain ⟨hgen, hnode⟩ := hkeyed.exports n hn e he
  rw [hgen, getPrefixBeforeLastUnderscore_key hnode]

/-- **The query of one kind, exactly.** -/
theorem joinsExactly_assignLedger_iff (hplaced : Placed k L)
    (hkeyed : Keyed k importName exportKey L) (hids : ∀ n ∈ L.toList, n.1 ≠ [] ∧ 95 ∉ n.1) :
    JoinsExactly k exportKey L (assignLedger k o L) ↔
      ∀ c ∈ successfulImports k L, FoundByKey k exportKey L c := by
  have hcounting : ∀ c, c ∈ countingImports k L ↔ c ∈ successfulImports k L ∧
      (k.importBase c.2.2).algoResult.importNumaInfos ≠ [] := by
    intro c
    rw [countingImports, successfulImports, List.mem_filter, List.mem_filter, importCounts,
      decide_eq_true_eq, decide_eq_true_eq, and_assoc, and_comm (a := _ ≠ [])]
  have hrun : ∀ record ∈ assignLedger k o L, record.borrowNodeId ≠ [] →
      ∃ c ∈ countingImports k L, record = midRecord k L c := by
    intro record hrecord hborrower
    obtain ⟨e, he, rfl⟩ := List.mem_map.1 hrecord
    obtain ⟨c, hc, heq⟩ := exists_of_mem_run hids he hborrower
    exact ⟨c, hc, congrArg Prod.snd heq⟩
  constructor
  · rintro ⟨honce, -, -⟩ c hc
    obtain ⟨record, hone, hjoined⟩ := honce c hc
    have hrecord : record ∈ recordsOf (assignLedger k o L) c := by
      rw [hone]
      exact List.mem_singleton_self record
    obtain ⟨c', hc', rfl⟩ := hrun record (List.mem_filter.1 hrecord).1
      (by rw [hjoined.borrowNode]; exact List.cons_ne_nil _ _)
    -- the record of an import that counts is of no other import
    have heq : c' = c := by
      have hname := hjoined.name
      have hnode := hjoined.borrowNode
      rw [midRecord_eq hplaced hkeyed hids hc'] at hname hnode
      exact eq_of_importsOf hids (List.mem_filter.1 hc').1 (List.mem_filter.1 hc).1 hname
        (List.singleton_inj.1 hnode)
    rw [heq] at hjoined hc'
    exact (joined_midRecord_iff hplaced hkeyed hids hc').1 hjoined
  · intro h
    refine ⟨fun c hc => ?_, fun record hrecord hborrower => ?_,
      getPrefixBeforeLastUnderscore_of_keyed hkeyed⟩
    · have hc' := (hcounting c).2 ⟨hc, (h c hc).placed⟩
      exact ⟨_, recordsOf_assignLedger o hplaced hkeyed hids hc',
        (joined_midRecord_iff hplaced hkeyed hids hc').2 (h c hc)⟩
    · obtain ⟨c, hc, rfl⟩ := hrun record hrecord hborrower
      refine ⟨c, ((hcounting c).1 hc).1, ?_⟩
      rw [recordsOf_assignLedger o hplaced hkeyed hids hc]
      exact List.mem_singleton_self _

end Kinds

/-! ### The three kinds -/

/-- The query for the records is exact for borrowings of every kind. -/
structure QueryExact (L : KeyedLedger) (o : Map.Iteration string LedgerDymaticInfo) : Prop where
  fd : JoinsExactly fdKind fdExportKey L.debtInfoMap (assignLedger fdKind o L.debtInfoMap)
  numa : JoinsExactly numaKind numaExportKey L.debtInfoMap (assignLedger numaKind o L.debtInfoMap)
  addr : JoinsExactly addrKind addrExportKey L.debtInfoMap (assignLedger addrKind o L.debtInfoMap)

/-- **Exactly when the query is exact**: every successful import has a place, and when one of the
exports of its name and node succeeded, so did the one that is met last. -/
theorem joins_exactly_iff (L : KeyedLedger) (o : Map.Iteration string LedgerDymaticInfo) :
    QueryExact L o ↔
      (∀ c ∈ successfulImports fdKind L.debtInfoMap,
        FoundByKey fdKind fdExportKey L.debtInfoMap c) ∧
      (∀ c ∈ successfulImports numaKind L.debtInfoMap,
        FoundByKey numaKind numaExportKey L.debtInfoMap c) ∧
      ∀ c ∈ successfulImports addrKind L.debtInfoMap,
        FoundByKey addrKind addrExportKey L.debtInfoMap c := by
  have hfd := joinsExactly_assignLedger_iff o L.fdPlaced L.fdKeyed L.nodeIds
  have hnuma := joinsExactly_assignLedger_iff o L.numaPlaced L.numaKeyed L.nodeIds
  have haddr := joinsExactly_assignLedger_iff o L.addrPlaced L.addrKeyed L.nodeIds
  constructor
  · rintro ⟨h, h', h''⟩
    exact ⟨hfd.1 h, hnuma.1 h', haddr.1 h''⟩
  · rintro ⟨h, h', h''⟩
    exact ⟨hfd.2 h, hnuma.2 h', haddr.2 h''⟩

/-- The borrowing `a` of node `1` from node `3`, and an older export of it on node `2` that is being
destroyed. -/
def twoExports : NodeMemDebtInfoMap :=
  let importOf : UbseMemFdBorrowImportObj :=
    { base := { algoResult := { exportNumaInfos := [{ nodeId := [51] }]
                                importNumaInfos := [{ nodeId := [49] }] }
                status := { state := UBSE_MEM_IMPORT_SUCCESS } }
      req := { base := { name := [97] }, importNodeId := [49] } }
  let exportOf (nodeId : string) (state : UbseMemState) : UbseMemFdBorrowExportObj :=
    { base := { algoResult := { exportNumaInfos := [{ nodeId := nodeId }] }
                status := { state := state } }
      req := { base := { name := [97] }, importNodeId := [49] } }
  ((OrderedMap.empty.put [49] { fdImportObjMap := OrderedMap.empty.put [97] importOf }).put
    [51] { fdExportObjMap :=
      OrderedMap.empty.put [97, 95, 49] (exportOf [51] UBSE_MEM_EXPORT_SUCCESS) }).put
    [50] { fdExportObjMap :=
      OrderedMap.empty.put [97, 95, 49] (exportOf [50] UBSE_MEM_EXPORT_DESTROYING) }

theorem exists_keyedLedger_twoExports : ∃ L : KeyedLedger, L.debtInfoMap = twoExports := by
  refine ⟨{ debtInfoMap := twoExports
            nodeIds := ?_
            numaPlaced := ⟨?_, ?_⟩
            fdPlaced := ⟨?_, ?_⟩
            addrPlaced := ⟨?_, ?_⟩
            fdKeyed := ⟨?_, ?_⟩
            numaKeyed := ⟨?_, ?_⟩
            addrKeyed := ⟨?_, ?_⟩ }, rfl⟩
  all_goals decide +kernel

/-- The export on node `2` hides that on node `3`. -/
theorem not_joins_exactly :
    ¬∀ (L : KeyedLedger) (o : Map.Iteration string LedgerDymaticInfo), QueryExact L o := by
  intro h
  obtain ⟨L, hL⟩ := exists_keyedLedger_twoExports
  have hfound := (joinsExactly_assignLedger_iff default L.fdPlaced L.fdKeyed L.nodeIds).1
    (h L default).fd
  rw [hL] at hfound
  have hmem : successfulImports fdKind twoExports ≠ [] := by decide +kernel
  have hlast : ∀ c ∈ successfulImports fdKind twoExports,
      (∃ e ∈ ownExports fdKind fdExportKey twoExports c, exportCounts fdKind e) ∧
        ¬((∃ last ∈ (ownExports fdKind fdExportKey twoExports c).getLast?,
          exportCounts fdKind last) ∨
          ∃ e ∈ ownExports fdKind fdExportKey twoExports c, exportCounts fdKind e ∧
            (fdKind.exportBase e).algoResult.exportNumaInfos = []) := by
    decide +kernel
  obtain ⟨c, hc⟩ := List.exists_mem_of_ne_nil _ hmem
  exact (hlast c hc).2 ((hfound c hc).last (hlast c hc).1)

end Ledger

end UbsEngine
