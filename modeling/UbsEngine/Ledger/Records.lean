import UbsEngine.Ledger.Report

/-!
# The accounts are the borrowings

Every import that counts becomes one record and one account, whatever the orders in which the maps
are run through: `UbsEngine.Ledger.accounts_perm`.
-/

namespace UbsEngine

namespace Ledger

open Mem Absorb

/-! ### The records of a kind -/

/-- Under what an import is looked for: its name and its node. -/
def importKey {I : Type} (c : string × string × I) : string := generateExportObjKey c.2.1 c.1

theorem getPrefixBeforeLastUnderscore_key {name node : string} (h : 95 ∉ node) :
    getPrefixBeforeLastUnderscore (generateExportObjKey name node) = name := by
  rw [getPrefixBeforeLastUnderscore, generateExportObjKey, if_pos (by simp), List.reverse_append,
    List.reverse_cons, List.append_assoc, List.dropWhile_append_of_pos]
  · simp
  · exact fun x hx => decide_eq_true fun heq => h (heq ▸ List.mem_reverse.1 hx)

/-- The lending side leaves the borrower alone. -/
theorem borrowNodeId_formNumaInfoUsingExportObj (numaInfos : List UbseMemDebtNumaInfo)
    (ledgerInfo : LedgerDymaticInfo) :
    (formNumaInfoUsingExportObj numaInfos ledgerInfo).borrowNodeId = ledgerInfo.borrowNodeId := by
  cases numaInfos <;> rfl

section Kinds

variable {I E : Type} (k : Kind I E) {L : NodeMemDebtInfoMap}

theorem mem_importsOf {c : string × string × I} :
    c ∈ importsOf k L ↔ ∃ n ∈ L.toList, n.1 = c.1 ∧ c.2 ∈ (k.imports n.2).toList := by
  rw [importsOf, List.mem_flatMap]
  refine exists_congr fun n => and_congr_right fun _ => ?_
  constructor
  · intro h
    obtain ⟨e, he, rfl⟩ := List.mem_map.1 h
    exact ⟨rfl, he⟩
  · rintro ⟨hnode, he⟩
    exact List.mem_map.2 ⟨c.2, he, Prod.ext hnode rfl⟩

theorem importEntries_eq :
    importEntries k L = (importsOf k L).map fun c => (importKey c, c.2.2) := by
  rw [importEntries, importsOf, List.map_flatMap]
  refine List.flatMap_congr fun n _ => ?_
  rw [List.map_map]
  rfl

/-- A node has one import of a name. -/
theorem nodup_importsOf (hids : ∀ n ∈ L.toList, n.1 ≠ [] ∧ 95 ∉ n.1) :
    ((importsOf k L).map importKey).Nodup := by
  have hpairs : ((importsOf k L).map fun c => (c.1, c.2.1)).Nodup := by
    rw [importsOf, List.map_flatMap, List.nodup_flatMap]
    constructor
    · intro n _
      rw [List.map_map]
      have hkeys : ((k.imports n.2).toList.map ((fun c : string × string × I => (c.1, c.2.1)) ∘
          fun e => (n.1, e))) = ((k.imports n.2).toList.map Prod.fst).map fun name => (n.1, name) := by
        rw [List.map_map]
        rfl
      rw [hkeys]
      exact (k.imports n.2).nodup.map fun _ _ h => congrArg Prod.snd h
    · have hnodes := List.pairwise_map.1 L.nodup
      refine hnodes.imp fun {n n'} hne => ?_
      simp only [Function.onFun, List.disjoint_left, List.mem_map]
      rintro _ ⟨_, ⟨e, -, rfl⟩, rfl⟩ ⟨_, ⟨e', -, rfl⟩, heq⟩
      exact hne (congrArg Prod.fst heq).symm
  refine (List.nodup_map_iff_inj_on (List.Nodup.of_map _ hpairs)).2 fun c hc c' hc' heq => ?_
  obtain ⟨n, hn, hnode, -⟩ := (mem_importsOf k).1 hc
  obtain ⟨n', hn', hnode', -⟩ := (mem_importsOf k).1 hc'
  have hkey := generateExportObjKey_inj (hnode ▸ (hids n hn).2) (hnode' ▸ (hids n' hn').2) heq
  have hpair : (c.1, c.2.1) = (c'.1, c'.2.1) := by
    rw [Prod.mk.injEq] at hkey ⊢
    exact ⟨hkey.2, hkey.1⟩
  exact List.inj_on_of_nodup_map hpairs hc hc' hpair

/-- The record of an import, with what the ledger has of its export. -/
def midRecord (L : NodeMemDebtInfoMap) (c : string × string × I) : LedgerDymaticInfo :=
  let ledgerInfo := formNumaInfoUsingImportObj (k.importBase c.2.2).algoResult.importNumaInfos
    (newLedgerInfo (importKey c) (k.importType c.2.2))
  match (exportObjMap k L).lookup (importKey c) with
  | none => ledgerInfo
  | some exportObj =>
    if exportCounts k exportObj then
      formNumaInfoUsingExportObj (k.exportBase exportObj).algoResult.exportNumaInfos ledgerInfo
    else ledgerInfo

theorem nodup_entries {V : Type} (m : Map string V) :
    ((m.entries.map fun e => ((e.1, e.2) : string × V)).map Prod.fst).Nodup := by
  rw [List.map_map]
  exact m.nodupKeys

theorem mem_entries {V : Type} {m : Map string V} {r : string} {v : V} :
    (r, v) ∈ (m.entries.map fun e => ((e.1, e.2) : string × V)) ↔ m.lookup r = some v := by
  rw [← Map.mem_entries_iff, List.mem_map]
  constructor
  · rintro ⟨⟨r, v⟩, hmem, heq⟩
    cases heq
    exact hmem
  · exact fun h => ⟨⟨r, v⟩, h, rfl⟩

theorem notMem_entries {V : Type} {m : Map string V} {r : string} (h : m.lookup r = none) :
    r ∉ (m.entries.map fun e => ((e.1, e.2) : string × V)).map Prod.fst := by
  intro hmem
  obtain ⟨⟨r, v⟩, hv, rfl⟩ := List.mem_map.1 hmem
  rw [mem_entries.1 hv] at h
  cases h

/-- The borrowing side of the records. -/
theorem lookup_formImportLedger (r : string) :
    (formImportLedger k ((importObjMap k L).entries.map fun e => (e.1, e.2)) ∅).lookup r =
      ((importObjMap k L).lookup r).bind fun importObj =>
        if importCounts k importObj then
          some (formNumaInfoUsingImportObj (k.importBase importObj).algoResult.importNumaInfos
            (newLedgerInfo r (k.importType importObj)))
        else none := by
  cases hr : (importObjMap k L).lookup r with
  | none => exact Map.lookup_writeEach_of_notMem (notMem_entries hr)
  | some importObj =>
    exact Map.lookup_writeEach (nodup_entries _) (mem_entries.2 hr)

/-- **The records**: with the lending side. -/
theorem lookup_midLedgerInfo (r : string) :
    (midLedgerInfo k L).lookup r =
      match (exportObjMap k L).lookup r with
      | none =>
        (formImportLedger k ((importObjMap k L).entries.map fun e => (e.1, e.2)) ∅).lookup r
      | some exportObj =>
        if exportCounts k exportObj then
          some (formNumaInfoUsingExportObj (k.exportBase exportObj).algoResult.exportNumaInfos
            (((formImportLedger k ((importObjMap k L).entries.map fun e =>
              (e.1, e.2)) ∅).lookup r).getD (newLedgerInfo r (k.exportType exportObj))))
        else
          (formImportLedger k ((importObjMap k L).entries.map fun e => (e.1, e.2)) ∅).lookup r := by
  cases hr : (exportObjMap k L).lookup r with
  | none => exact Map.lookup_writeEach_of_notMem (notMem_entries hr)
  | some exportObj => exact Map.lookup_writeEach (nodup_entries _) (mem_entries.2 hr)

theorem lookup_importObjMap (hids : ∀ n ∈ L.toList, n.1 ≠ [] ∧ 95 ∉ n.1) {r : string}
    {importObj : I} : (importObjMap k L).lookup r = some importObj ↔
      ∃ c ∈ importsOf k L, importKey c = r ∧ c.2.2 = importObj := by
  have hnodup : ((importEntries k L).map Prod.fst).Nodup := by
    rw [importEntries_eq, List.map_map]
    exact nodup_importsOf k hids
  rw [importObjMap, Map.lookup_fill hnodup, importEntries_eq, List.mem_map]
  refine exists_congr fun c => and_congr_right fun _ => Prod.ext_iff

/-- An import that counts has its record. -/
theorem lookup_midLedgerInfo_of_mem (hids : ∀ n ∈ L.toList, n.1 ≠ [] ∧ 95 ∉ n.1)
    {c : string × string × I} (hc : c ∈ countingImports k L) :
    (midLedgerInfo k L).lookup (importKey c) = some (midRecord k L c) := by
  obtain ⟨hmem, hcounts⟩ := List.mem_filter.1 hc
  have himport := (lookup_importObjMap k hids).2 ⟨c, hmem, rfl, rfl⟩
  rw [lookup_midLedgerInfo, lookup_formImportLedger, himport, Option.bind_some, if_pos hcounts,
    midRecord]
  cases (exportObjMap k L).lookup (importKey c) with
  | none => rfl
  | some exportObj =>
    dsimp only
    split
    · rfl
    · rfl

/-- A record with a borrower is of an import that counts. -/
theorem exists_of_lookup_midLedgerInfo (hids : ∀ n ∈ L.toList, n.1 ≠ [] ∧ 95 ∉ n.1) {r : string}
    {ledgerInfo : LedgerDymaticInfo} (h : (midLedgerInfo k L).lookup r = some ledgerInfo)
    (hborrower : ledgerInfo.borrowNodeId ≠ []) : ∃ c ∈ countingImports k L, importKey c = r := by
  by_contra hnone
  have himport : (formImportLedger k ((importObjMap k L).entries.map fun e =>
      (e.1, e.2)) ∅).lookup r = none := by
    rw [lookup_formImportLedger, Option.bind_eq_none_iff]
    intro importObj hlookup
    obtain ⟨c, hc, hkey, rfl⟩ := (lookup_importObjMap k hids).1 hlookup
    exact if_neg fun hcounts => hnone ⟨c, List.mem_filter.2 ⟨hc, hcounts⟩, hkey⟩
  rw [lookup_midLedgerInfo, himport] at h
  split at h
  next => cases h
  next exportObj hexport =>
    split at h
    next =>
      rw [Option.getD_none, Option.some.injEq] at h
      rw [← h, borrowNodeId_formNumaInfoUsingExportObj] at hborrower
      exact hborrower rfl
    next => cases h

/-- **The record of an import after the filling in.** -/
def recordOf (L : NodeMemDebtInfoMap) (c : string × string × I) : LedgerDymaticInfo where
  resourceId := c.2.1
  type := k.importType c.2.2
  borrowNodeId := [c.1]
  borrowNuma := (∅ : Map string (List NumaSize)).insert c.1 (borrowOf k L c).borrowed
  lentNodeId := (borrowOf k L c).exportNode
  lentNuma := (borrowOf k L c).lent

theorem formNumaInfoUsingExportObj_eq (numaInfos : List UbseMemDebtNumaInfo)
    {ledgerInfo : LedgerDymaticInfo} (hnode : ledgerInfo.lentNodeId = [])
    (hnuma : ledgerInfo.lentNuma = []) :
    formNumaInfoUsingExportObj numaInfos ledgerInfo = { ledgerInfo with
      lentNodeId := (numaInfos.head?.map (·.nodeId)).getD []
      lentNuma := numaSizes numaInfos } := by
  cases numaInfos with
  | nil =>
    cases ledgerInfo
    subst hnode hnuma
    rfl
  | cons front rest => rw [formNumaInfoUsingExportObj, hnuma]; rfl

/-- The export that is found under a key is one of those of the ledger. -/
theorem nodeId_of_lookup_exportObjMap (hplaced : Placed k L)
    (hids : ∀ n ∈ L.toList, n.1 ≠ [] ∧ 95 ∉ n.1) {r : string} {exportObj : E}
    (h : (exportObjMap k L).lookup r = some exportObj) {front : UbseMemDebtNumaInfo}
    {rest : List UbseMemDebtNumaInfo}
    (hinfos : (k.exportBase exportObj).algoResult.exportNumaInfos = front :: rest) :
    front.nodeId ≠ [] := by
  rcases Map.mem_of_lookup_fill h with h | h
  · cases h
  · obtain ⟨n, hn, he⟩ := List.mem_flatMap.1 h
    rw [hplaced.exports n hn _ he front (by rw [hinfos]; rfl)]
    exact (hids n hn).1

/-- The borrowing side of the record of an import that counts. -/
theorem formNumaInfoUsingImportObj_eq (hplaced : Placed k L)
    (hids : ∀ n ∈ L.toList, n.1 ≠ [] ∧ 95 ∉ n.1) {c : string × string × I}
    (hc : c ∈ countingImports k L) :
    formNumaInfoUsingImportObj (k.importBase c.2.2).algoResult.importNumaInfos
      (newLedgerInfo (importKey c) (k.importType c.2.2)) =
      { recordOf k L c with lentNodeId := [], lentNuma := [] } := by
  obtain ⟨hmem, hcounts⟩ := List.mem_filter.1 hc
  obtain ⟨n, hn, hnode, he⟩ := (mem_importsOf k).1 hmem
  obtain ⟨hinfos, -⟩ := of_decide_eq_true hcounts
  obtain ⟨front, rest, hfront⟩ := List.exists_cons_of_ne_nil hinfos
  have hnodeId : front.nodeId = c.1 := by
    rw [← hnode]
    exact hplaced.imports n hn c.2 he front (by rw [hfront]; rfl)
  rw [hfront, formNumaInfoUsingImportObj, newLedgerInfo, importKey,
    getPrefixBeforeLastUnderscore_key (hnode ▸ (hids n hn).2), hnodeId, ← hfront]
  rfl

/-- **The record of an import that counts**, once it is filled in. -/
theorem refillLedger_midRecord (hplaced : Placed k L)
    (hids : ∀ n ∈ L.toList, n.1 ≠ [] ∧ 95 ∉ n.1)
    (htype : ∀ importObj, refillByType (k.importType importObj) = refillFrom k)
    {c : string × string × I} (hc : c ∈ countingImports k L) :
    refillLedger L (midRecord k L c) = recordOf k L c := by
  have hbase := formNumaInfoUsingImportObj_eq k hplaced hids hc
  obtain ⟨hmem, hcounts⟩ := List.mem_filter.1 hc
  obtain ⟨n, hn, hnode, he⟩ := (mem_importsOf k).1 hmem
  have hfound : L.find c.1 = some n.2 := by
    rw [← hnode]
    exact OrderedMap.find_of_mem hn
  -- without a lending side it is filled in from the import
  have hrefill : exportInfosOf k L c = (k.importBase c.2.2).algoResult.exportNumaInfos →
      refillLedger L { recordOf k L c with lentNodeId := [], lentNuma := [] } =
        recordOf k L c := by
    intro hinfos
    have hby : refillLedger L { recordOf k L c with lentNodeId := [], lentNuma := [] } =
        refillFrom k n.2 { recordOf k L c with lentNodeId := [], lentNuma := [] } := by
      rw [← htype c.2.2, refillLedger]
      dsimp only [recordOf]
      rw [hfound]
    have hobj : (k.imports n.2).find c.2.1 = some c.2.2 := OrderedMap.find_of_mem he
    rw [hby, refillFrom]
    dsimp only [recordOf]
    rw [hobj]
    dsimp only
    rw [formNumaInfoUsingExportObj_eq _ rfl rfl, ← hinfos]
    rfl
  rw [midRecord, hbase]
  cases hexport : (exportObjMap k L).lookup (importKey c) with
  | none =>
    refine hrefill ?_
    rw [exportInfosOf, ← importKey, hexport]
  | some exportObj =>
    dsimp only
    split
    next hcounts =>
      cases hlist : (k.exportBase exportObj).algoResult.exportNumaInfos with
      | nil =>
        refine hrefill ?_
        rw [exportInfosOf, ← importKey, hexport]
        dsimp only
        rw [if_neg fun h => h.2 hlist]
      | cons front' rest' =>
        have hne := nodeId_of_lookup_exportObjMap k hplaced hids hexport hlist
        have hall : exportInfosOf k L c = front' :: rest' := by
          rw [exportInfosOf, ← importKey, hexport]
          dsimp only
          rw [if_pos ⟨hcounts, by rw [hlist]; exact List.cons_ne_nil _ _⟩, hlist]
        have hrecord : formNumaInfoUsingExportObj (front' :: rest')
            { recordOf k L c with lentNodeId := [], lentNuma := [] } = recordOf k L c := by
          rw [formNumaInfoUsingExportObj_eq _ rfl rfl, recordOf, borrowOf, hall]
        rw [hrecord, refillLedger]
        split
        next hnil _ =>
          rw [recordOf, borrowOf, hall] at hnil
          exact absurd hnil hne
        next => rfl
    next hcounts =>
      refine hrefill ?_
      rw [exportInfosOf, ← importKey, hexport]
      dsimp only
      rw [if_neg fun h => hcounts h.1]

/-- The borrower of a record is known. -/
def hasBorrower (ledgerInfo : LedgerDymaticInfo) : Bool := ledgerInfo.borrower ≠ []

theorem borrowNodeId_refillLedger (ledgerInfo : LedgerDymaticInfo) :
    (refillLedger L ledgerInfo).borrowNodeId = ledgerInfo.borrowNodeId := by
  have hfrom : ∀ {I E : Type} (k : Kind I E) (debtInfo : NodeMemDebtInfo),
      (refillFrom k debtInfo ledgerInfo).borrowNodeId = ledgerInfo.borrowNodeId := by
    intro I E k debtInfo
    rw [refillFrom]
    split
    · rfl
    · exact borrowNodeId_formNumaInfoUsingExportObj _ _
  rw [refillLedger]
  split
  · split
    · rfl
    · rw [refillByType.eq_def]
      split
      · exact hfrom _ _
      · exact hfrom _ _
      · exact hfrom _ _
      · exact hfrom _ _
      · rfl
  · rfl

theorem hasBorrower_recordOf (hids : ∀ n ∈ L.toList, n.1 ≠ [] ∧ 95 ∉ n.1)
    {c : string × string × I} (hc : c ∈ countingImports k L) : hasBorrower (recordOf k L c) := by
  obtain ⟨n, hn, hnode, -⟩ := (mem_importsOf k).1 (List.mem_filter.1 hc).1
  refine decide_eq_true ?_
  change c.1 ≠ []
  rw [← hnode]
  exact (hids n hn).1

/-- **The records with a borrower are those of the imports that count.** -/
theorem records_perm (hplaced : Placed k L) (hids : ∀ n ∈ L.toList, n.1 ≠ [] ∧ 95 ∉ n.1)
    (htype : ∀ importObj, refillByType (k.importType importObj) = refillFrom k)
    (o : Map.Iteration string LedgerDymaticInfo) :
    (((assignLedger k o L).map (refillLedger L)).filter hasBorrower).Perm
      ((countingImports k L).map (recordOf k L)) := by
  have hnodup : ((countingImports k L).map importKey).Nodup :=
    (List.filter_sublist.map _).nodup (nodup_importsOf k hids)
  have hpairs : ((o.run (midLedgerInfo k L)).filter fun e => hasBorrower (refillLedger L e.2)).Perm
      ((countingImports k L).map fun c => (importKey c, midRecord k L c)) := by
    rw [List.perm_ext_iff_of_nodup]
    · rintro ⟨r, ledgerInfo⟩
      rw [List.mem_filter, o.mem_run, List.mem_map]
      constructor
      · rintro ⟨hlookup, hborrower⟩
        have hne : ledgerInfo.borrowNodeId ≠ [] := by
          intro hnil
          rw [hasBorrower, LedgerDymaticInfo.borrower, borrowNodeId_refillLedger, hnil] at hborrower
          cases hborrower
        obtain ⟨c, hc, rfl⟩ := exists_of_lookup_midLedgerInfo k hids hlookup hne
        rw [lookup_midLedgerInfo_of_mem k hids hc, Option.some.injEq] at hlookup
        exact ⟨c, hc, Prod.ext rfl hlookup⟩
      · rintro ⟨c, hc, heq⟩
        obtain ⟨rfl, rfl⟩ := Prod.mk.inj heq
        refine ⟨lookup_midLedgerInfo_of_mem k hids hc, ?_⟩
        rw [refillLedger_midRecord k hplaced hids htype hc]
        exact hasBorrower_recordOf k hids hc
    · exact List.Nodup.filter _ (List.Nodup.of_map _ o.nodup_run)
    · refine List.Nodup.of_map Prod.fst ?_
      rw [List.map_map]
      exact hnodup
  have hmap := hpairs.map fun e => refillLedger L e.2
  rw [List.map_map] at hmap
  rw [assignLedger, List.map_map, List.filter_map]
  refine hmap.trans (List.Perm.of_eq (List.map_congr_left fun c hc => ?_))
  exact refillLedger_midRecord k hplaced hids htype hc

end Kinds

/-! ### The accounts -/

/-- The account of a record, from the account that is there already. -/
def accountFrom (ledger : LedgerDymaticInfo) (old : Option UbseMemoryBorrowInfo) :
    UbseMemoryBorrowInfo :=
  let info := old.getD { name := ledger.resourceId, type := ledger.type }
  { info with
    borrowNodeId := if ledger.borrowNodeId = [] then info.borrowNodeId else ledger.borrower
    borrowNuma := match ledger.borrowNuma.entries with
      | [] => info.borrowNuma
      | e :: _ => e.2
    lentNodeId := ledger.lentNodeId
    lentNuma := ledger.lentNuma }

theorem fillLent_fillBorrow (ledger : LedgerDymaticInfo) (outList : UbseBorrowAccountMap) :
    fillLentAccount ledger [] (fillBorrowAccount ledger [] outList) =
      outList.insert (accountKey ledger)
        (accountFrom ledger (outList.lookup (accountKey ledger))) := by
  have htarget : ∀ node, isNodeTarget [] node = true := fun _ => decide_eq_true (Or.inl rfl)
  rw [fillLentAccount, fillBorrowAccount, if_pos (htarget _), if_pos (htarget _)]
  dsimp only
  rw [AList.lookup_insert, AList.insert_insert, Option.getD_some]
  rfl

section Accounts

variable {ledgers : List LedgerDymaticInfo} {outList : UbseBorrowAccountMap}

theorem fillBorrowedAccountMap_cons (ledger : LedgerDymaticInfo) :
    fillBorrowedAccountMap [] (ledger :: ledgers) outList =
      fillBorrowedAccountMap [] ledgers (if ledger.type = .SHARE then outList
        else outList.insert (accountKey ledger)
          (accountFrom ledger (outList.lookup (accountKey ledger)))) := by
  rw [fillBorrowedAccountMap, List.foldl_cons, fillLent_fillBorrow]
  rfl

/-- A key that no record has is left alone. -/
theorem lookup_fillBorrowedAccountMap_of_ne {key : string}
    (h : ∀ l ∈ ledgers, accountKey l ≠ key) :
    (fillBorrowedAccountMap [] ledgers outList).lookup key = outList.lookup key := by
  induction ledgers generalizing outList with
  | nil => rfl
  | cons ledger ledgers ih =>
    rw [List.forall_mem_cons] at h
    rw [fillBorrowedAccountMap_cons, ih h.2]
    split
    · rfl
    · exact AList.lookup_insert_ne h.1.symm

/-- The account of a record that is alone with its key. -/
theorem lookup_fillBorrowedAccountMap
    (hnodup : ((ledgers.filter hasBorrower).map accountKey).Nodup)
    (hapart : ∀ l ∈ ledgers, ∀ l' ∈ ledgers, hasBorrower l → ¬hasBorrower l' →
      accountKey l' ≠ accountKey l)
    (hshare : ∀ l ∈ ledgers, hasBorrower l → l.type ≠ .SHARE)
    (hnew : ∀ l ∈ ledgers, hasBorrower l → outList.lookup (accountKey l) = none) :
    ∀ l ∈ ledgers, hasBorrower l →
      (fillBorrowedAccountMap [] ledgers outList).lookup (accountKey l) =
        some (accountFrom l none) := by
  induction ledgers generalizing outList with
  | nil => exact fun l hl => nomatch hl
  | cons ledger ledgers ih =>
    have hrest : ∀ outList' : UbseBorrowAccountMap,
        (∀ l ∈ ledgers, hasBorrower l → outList'.lookup (accountKey l) = none) →
        ∀ l ∈ ledgers, hasBorrower l →
          (fillBorrowedAccountMap [] ledgers outList').lookup (accountKey l) =
            some (accountFrom l none) := by
      intro outList' hnew'
      refine ih ?_ (fun l hl l' hl' => hapart l (List.mem_cons_of_mem _ hl) l'
        (List.mem_cons_of_mem _ hl')) (fun l hl => hshare l (List.mem_cons_of_mem _ hl)) hnew'
      exact ((List.sublist_cons_self _ _).filter _ |>.map _).nodup hnodup
    rw [fillBorrowedAccountMap_cons]
    by_cases hledger : hasBorrower ledger = true
    · rw [List.filter_cons_of_pos hledger, List.map_cons, List.nodup_cons] at hnodup
      have hkey : ∀ l ∈ ledgers, accountKey l ≠ accountKey ledger := by
        intro l hl heq
        by_cases hl' : hasBorrower l = true
        · exact hnodup.1 (List.mem_map.2 ⟨l, List.mem_filter.2 ⟨hl, hl'⟩, heq⟩)
        · exact hapart ledger List.mem_cons_self l (List.mem_cons_of_mem _ hl) hledger hl' heq
      rw [if_neg (hshare ledger List.mem_cons_self hledger), hnew ledger List.mem_cons_self hledger]
      rintro l hl hl'
      rcases List.mem_cons.1 hl with rfl | hl
      · rw [lookup_fillBorrowedAccountMap_of_ne hkey, AList.lookup_insert]
      · refine hrest _ (fun l hl hl' => ?_) l hl hl'
        rw [AList.lookup_insert_ne (hkey l hl)]
        exact hnew l (List.mem_cons_of_mem _ hl) hl'
    · rintro l hl hl'
      rcases List.mem_cons.1 hl with rfl | hl
      · exact absurd hl' hledger
      · refine hrest _ (fun l hl hl' => ?_) l hl hl'
        split
        · exact hnew l (List.mem_cons_of_mem _ hl) hl'
        · rw [AList.lookup_insert_ne fun heq => ?_]
          · exact hnew l (List.mem_cons_of_mem _ hl) hl'
          · exact hapart l (List.mem_cons_of_mem _ hl) ledger List.mem_cons_self hl' hledger
              heq.symm

/-- An account with a borrower is of a record with one. -/
theorem exists_of_lookup_fillBorrowedAccountMap {key : string} {info : UbseMemoryBorrowInfo}
    (h : (fillBorrowedAccountMap [] ledgers outList).lookup key = some info)
    (hknown : isKnown info) (hold : ∀ info, outList.lookup key = some info → ¬isKnown info) :
    ∃ l ∈ ledgers, hasBorrower l ∧ accountKey l = key := by
  by_contra hnone
  push Not at hnone
  induction ledgers generalizing outList with
  | nil => exact hold info h hknown
  | cons ledger ledgers ih =>
    rw [fillBorrowedAccountMap_cons] at h
    refine ih h (fun info' hinfo' => ?_) fun l hl => hnone l (List.mem_cons_of_mem _ hl)
    split at hinfo'
    · exact hold info' hinfo'
    · rw [Map.lookup_insert_ite] at hinfo'
      split at hinfo'
      next heq =>
        rw [Option.some.injEq] at hinfo'
        have hledger : ¬hasBorrower ledger := fun hl =>
          hnone ledger List.mem_cons_self hl heq.symm
        rw [← hinfo']
        intro hknown'
        rw [isKnown, accountFrom, decide_eq_true_eq] at hknown'
        dsimp only at hknown'
        split at hknown'
        next =>
          cases hlookup : outList.lookup (accountKey ledger) with
          | none => rw [hlookup] at hknown'; exact hknown' rfl
          | some info'' =>
            rw [hlookup, Option.getD_some] at hknown'
            exact hold info'' (heq ▸ hlookup) (decide_eq_true hknown')
        next => exact hledger (decide_eq_true hknown')
      next => exact hold info' hinfo'

end Accounts

/-! ### All kinds -/

theorem notMem_toText (type : LedgerType) : 95 ∉ type.toText := by
  cases type <;> decide

/-- **The text of an account's key** tells the record. -/
theorem accountKey_inj {l r : LedgerDymaticInfo} (h : 95 ∉ l.borrower) (h' : 95 ∉ r.borrower)
    (heq : accountKey l = accountKey r) :
    (l.resourceId, l.borrower) = (r.resourceId, r.borrower) ∧
      l.type.toText = r.type.toText := by
  have hkey := generateExportObjKey_inj (notMem_toText _) (notMem_toText _) heq
  exact ⟨generateExportObjKey_inj h h' (congrArg Prod.fst hkey), congrArg Prod.snd hkey⟩

section Kinds

variable {I E : Type} (k : Kind I E) {L : NodeMemDebtInfoMap}

/-- Of which node an import is. -/
theorem node_of_mem_countingImports (hids : ∀ n ∈ L.toList, n.1 ≠ [] ∧ 95 ∉ n.1)
    {c : string × string × I} (hc : c ∈ countingImports k L) : c.1 ≠ [] ∧ 95 ∉ c.1 := by
  obtain ⟨n, hn, hnode, -⟩ := (mem_importsOf k).1 (List.mem_filter.1 hc).1
  rw [← hnode]
  exact hids n hn

theorem nodup_accountKey (hids : ∀ n ∈ L.toList, n.1 ≠ [] ∧ 95 ∉ n.1) :
    (((countingImports k L).map (recordOf k L)).map accountKey).Nodup := by
  have hnodup : ((countingImports k L).map importKey).Nodup :=
    (List.filter_sublist.map _).nodup (nodup_importsOf k hids)
  rw [List.map_map]
  refine (List.nodup_map_iff_inj_on (List.Nodup.of_map _ hnodup)).2 fun c hc c' hc' heq => ?_
  have hkey := (accountKey_inj (l := recordOf k L c) (r := recordOf k L c')
    (node_of_mem_countingImports k hids hc).2 (node_of_mem_countingImports k hids hc').2 heq).1
  refine List.inj_on_of_nodup_map hnodup hc hc' ?_
  change generateExportObjKey c.2.1 c.1 = generateExportObjKey c'.2.1 c'.1
  obtain ⟨hname, hnode⟩ := Prod.mk.inj hkey
  change c.2.1 = c'.2.1 at hname
  change c.1 = c'.1 at hnode
  rw [hname, hnode]

end Kinds

/-- The records of the borrowings that have succeeded. -/
def BorrowLedger.records (L : BorrowLedger) : List LedgerDymaticInfo :=
  (countingImports numaKind L.debtInfoMap).map (recordOf numaKind L.debtInfoMap) ++
    (countingImports fdKind L.debtInfoMap).map (recordOf fdKind L.debtInfoMap) ++
    (countingImports addrKind L.debtInfoMap).map (recordOf addrKind L.debtInfoMap)

theorem numaType_eq (req : UbseMemNumaBorrowReq) : numaType req = .APP ∨ numaType req = .WATER := by
  rw [numaType]
  split
  · exact Or.inl rfl
  · exact Or.inr rfl

section All

variable (L : BorrowLedger)

theorem BorrowLedger.mem_records {l : LedgerDymaticInfo} (hl : l ∈ L.records) :
    (l.borrower ≠ [] ∧ 95 ∉ l.borrower) ∧ l.type ≠ .SHARE := by
  have hkind : ∀ {I E : Type} (k : Kind I E), (∀ obj, k.importType obj ≠ .SHARE) →
      l ∈ (countingImports k L.debtInfoMap).map (recordOf k L.debtInfoMap) →
        (l.borrower ≠ [] ∧ 95 ∉ l.borrower) ∧ l.type ≠ .SHARE := by
    intro I E k htype hmem
    obtain ⟨c, hc, rfl⟩ := List.mem_map.1 hmem
    exact ⟨node_of_mem_countingImports k L.nodeIds hc, htype c.2.2⟩
  rw [records, List.mem_append, List.mem_append] at hl
  rcases hl with (hl | hl) | hl
  · refine hkind numaKind (fun obj => ?_) hl
    rcases numaType_eq obj.req with h | h
    · exact fun hshare => nomatch h.symm.trans hshare
    · exact fun hshare => nomatch h.symm.trans hshare
  · exact hkind fdKind (fun _ h => nomatch h) hl
  · exact hkind addrKind (fun _ h => nomatch h) hl

theorem BorrowLedger.nodup_records : (L.records.map accountKey).Nodup := by
  have hapart : ∀ {I E I' E' : Type} (k : Kind I E) (k' : Kind I' E'),
      (∀ obj obj', (k.importType obj).toText ≠ (k'.importType obj').toText) →
      ∀ x ∈ ((countingImports k L.debtInfoMap).map (recordOf k L.debtInfoMap)).map accountKey,
      x ∉ ((countingImports k' L.debtInfoMap).map (recordOf k' L.debtInfoMap)).map accountKey := by
    intro I E I' E' k k' htype x hx hx'
    obtain ⟨_, hl, rfl⟩ := List.mem_map.1 hx
    obtain ⟨c, hc, rfl⟩ := List.mem_map.1 hl
    obtain ⟨_, hl', heq⟩ := List.mem_map.1 hx'
    obtain ⟨c', hc', rfl⟩ := List.mem_map.1 hl'
    exact htype c.2.2 c'.2.2 (accountKey_inj (l := recordOf k L.debtInfoMap c)
      (r := recordOf k' L.debtInfoMap c') (node_of_mem_countingImports k L.nodeIds hc).2
      (node_of_mem_countingImports k' L.nodeIds hc').2 heq.symm).2
  have hnuma : ∀ (obj : UbseMemNumaBorrowImportObj) (text : string), text ≠ [48] → text ≠ [49] →
      (numaKind.importType obj).toText ≠ text := by
    intro obj text h h'
    rcases numaType_eq obj.req with hnuma | hnuma
    · exact fun heq => h (heq.symm.trans (congrArg LedgerType.toText hnuma))
    · exact fun heq => h' (heq.symm.trans (congrArg LedgerType.toText hnuma))
  rw [records, List.map_append, List.map_append, List.nodup_append', List.nodup_append']
  refine ⟨⟨nodup_accountKey _ L.nodeIds, nodup_accountKey _ L.nodeIds, ?_⟩,
    nodup_accountKey _ L.nodeIds, ?_⟩
  · exact hapart numaKind fdKind fun obj _ => hnuma obj [50] (by decide) (by decide)
  · intro x hx
    rcases List.mem_append.1 hx with hx | hx
    · exact hapart numaKind addrKind (fun obj _ => hnuma obj [52] (by decide) (by decide)) x hx
    · exact hapart fdKind addrKind (fun _ _ h => nomatch h) x hx

/-- **The records with a borrower**, of all kinds. -/
theorem BorrowLedger.records_perm (o : Map.Iteration string LedgerDymaticInfo) :
    ((getledgerInfoFromInner o L.debtInfoMap).filter hasBorrower).Perm L.records := by
  rw [getledgerInfoFromInner, List.map_append, List.map_append, List.filter_append,
    List.filter_append]
  refine ((Ledger.records_perm _ L.numaPlaced L.nodeIds (fun obj => ?_) o).append
    (Ledger.records_perm _ L.fdPlaced L.nodeIds (fun _ => rfl) o)).append
    (Ledger.records_perm _ L.addrPlaced L.nodeIds (fun _ => rfl) o)
  change refillByType (numaType obj.req) = _
  rcases numaType_eq obj.req with h | h
  · rw [h]; rfl
  · rw [h]; rfl

/-- **The accounts whose borrower is known are the borrowings**, each once. -/
theorem accounts_perm (o : ReportOrder) :
    (((accounts o L.debtInfoMap).filter isKnown).map fun info =>
      (lentBatch info, borrowedBatch info)).Perm
      (L.borrows.map fun b => (b.lentPieces, b.borrowedPieces)) := by
  have hperm := L.records_perm o.records
  rw [accounts]
  generalize getledgerInfoFromInner o.records L.debtInfoMap = ledgers at hperm
  have hrecord : ∀ l ∈ ledgers, hasBorrower l →
      (l.borrower ≠ [] ∧ 95 ∉ l.borrower) ∧ l.type ≠ .SHARE := fun l hl hborrower =>
    L.mem_records (hperm.mem_iff.1 (List.mem_filter.2 ⟨hl, hborrower⟩))
  have hnodup : ((ledgers.filter hasBorrower).map accountKey).Nodup :=
    (hperm.map accountKey).nodup_iff.2 L.nodup_records
  have hlookup : ∀ l ∈ ledgers, hasBorrower l →
      (fillBorrowedAccountMap [] ledgers ∅).lookup (accountKey l) = some (accountFrom l none) := by
    refine lookup_fillBorrowedAccountMap hnodup (fun l hl l' _ hl' hnot heq => ?_)
      (fun l hl hl' => (hrecord l hl hl').2) fun _ _ _ => rfl
    have hnil : l'.borrower = [] := by
      by_contra hne
      exact hnot (decide_eq_true hne)
    have hkey := (accountKey_inj (by rw [hnil]; exact List.not_mem_nil)
      (hrecord l hl hl').1.2 heq).1
    exact (hrecord l hl hl').1.1 ((congrArg Prod.snd hkey).symm.trans hnil)
  have hknown : ∀ l, hasBorrower l → isKnown (accountFrom l none) := by
    intro l hl
    have hne : l.borrower ≠ [] := of_decide_eq_true hl
    refine decide_eq_true ?_
    rw [accountFrom]
    dsimp only
    rw [if_neg fun hnil => hne (by rw [LedgerDymaticInfo.borrower, hnil]; rfl)]
    exact hne
  have hpairs : ((o.accounts.run (fillBorrowedAccountMap [] ledgers ∅)).filter fun e =>
      isKnown e.2).Perm ((ledgers.filter hasBorrower).map fun l =>
        (accountKey l, accountFrom l none)) := by
    rw [List.perm_ext_iff_of_nodup]
    · rintro ⟨key, info⟩
      rw [List.mem_filter, o.accounts.mem_run, List.mem_map]
      constructor
      · rintro ⟨hinfo, hinfoKnown⟩
        obtain ⟨l, hl, hborrower, rfl⟩ := exists_of_lookup_fillBorrowedAccountMap hinfo hinfoKnown
          fun info h => nomatch h
        rw [hlookup l hl hborrower, Option.some.injEq] at hinfo
        exact ⟨l, List.mem_filter.2 ⟨hl, hborrower⟩, Prod.ext rfl hinfo⟩
      · rintro ⟨l, hl, heq⟩
        obtain ⟨rfl, rfl⟩ := Prod.mk.inj heq
        obtain ⟨hl, hborrower⟩ := List.mem_filter.1 hl
        exact ⟨hlookup l hl hborrower, hknown l hborrower⟩
    · exact List.Nodup.filter _ (List.Nodup.of_map _ o.accounts.nodup_run)
    · refine List.Nodup.of_map Prod.fst ?_
      rw [List.map_map]
      exact hnodup
  have hbatches := (hpairs.map fun e => (lentBatch e.2, borrowedBatch e.2)).trans
    (((hperm.map fun l => (accountKey l, accountFrom l none)).map fun e =>
      (lentBatch e.2, borrowedBatch e.2)))
  rw [List.filter_map, List.map_map]
  refine hbatches.trans (List.Perm.of_eq ?_)
  simp only [BorrowLedger.records, BorrowLedger.borrows, borrowsOf, List.map_append, List.map_map]
  rfl

end All

end Ledger

end UbsEngine
