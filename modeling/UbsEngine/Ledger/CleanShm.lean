import Mathlib.Data.List.Induction
import UbsEngine.Ledger.Filter
import UbsEngine.Library.Nested

/-!
# The cleaning of shared memory

From time to time the master looks in its ledger for shared memory that nobody imports: of the
exports of one name it gives up those that are anonymous or superfluous. It computes what to
clean, waits, computes it again from the ledger as it is by then, and destroys what is on both
lists (`UbsEngine.Ledger.cleanShmZeroImportHandler`).

The loops run through hash maps, so what is kept of several exports of a name depends on the
order of their entries. `UbsEngine.Ledger.cleanShm_safe` says that it does not matter: whatever
is destroyed was on both lists and has no import left, and of every name that has an export which
is not anonymous one export stays.
-/

namespace UbsEngine

namespace Ledger

open Mem

/-! ### The ledger -/

abbrev NodeMemDebtInfoMap := OrderedMap string NodeMemDebtInfo

abbrev ShareExport := UbseMemShareBorrowExportObj

/-- The node of the first piece of what is exported. -/
def baseNodeId (algoResult : UbseMemAlgoResult) : Option string :=
  algoResult.exportNumaInfos.head?.map (·.nodeId)

/-- The name of an export and the node that it is on. -/
def shareKey (obj : ShareExport) : string × Option string :=
  (obj.req.base.name, baseNodeId obj.base.algoResult)

/-- The exports of all nodes, under their resource ids. -/
def shareExports (debtMap : NodeMemDebtInfoMap) : List (string × ShareExport) :=
  debtMap.toList.flatMap fun n => n.2.shareExportObjMap.toList

/-- The imports of all nodes, under their resource ids. -/
def shareImports (debtMap : NodeMemDebtInfoMap) : List (string × UbseMemShareBorrowImportObj) :=
  debtMap.toList.flatMap fun n => n.2.shareImportObjMap.toList

/-- **The ledger of the master**: an export of shared memory is kept under its name, at the node
of its first piece. -/
structure ShareLedger where
  debtMap : NodeMemDebtInfoMap
  keyed : ∀ n ∈ debtMap.toList, ∀ e ∈ n.2.shareExportObjMap.toList,
    shareKey e.2 = (e.1, some n.1)

/-! ### Counting the imports -/

def isDestroyingExport (obj : ShareExport) : Bool :=
  obj.base.status.state = UBSE_MEM_EXPORT_DESTROYING ∨
    obj.base.status.state = UBSE_MEM_EXPORT_DESTROYED

abbrev RefCountMap := Map string (Map string Nat)

def collectExportInfo (debtMap : NodeMemDebtInfoMap) : RefCountMap :=
  (shareExports debtMap).foldl (fun refCountMap e =>
    match baseNodeId e.2.base.algoResult with
    | none => refCountMap
    | some base =>
      if isDestroyingExport e.2 then refCountMap else refCountMap.set₂ e.1 base 0) ∅

def incrementRefCount (refCountMap : RefCountMap) (name base : string) : RefCountMap :=
  match refCountMap.get₂ name base with
  | none => refCountMap
  | some count => refCountMap.set₂ name base (count + 1)

def updateRefCount (refCountMap : RefCountMap) (debtMap : NodeMemDebtInfoMap) : RefCountMap :=
  (shareImports debtMap).foldl (fun refCountMap e =>
    match baseNodeId e.2.base.algoResult with
    | none => refCountMap
    | some base =>
      if e.2.base.status.state = UBSE_MEM_IMPORT_DESTROYED then refCountMap
      else incrementRefCount refCountMap e.1 base) refCountMap

def countShareMemoryRefCount (debtMap : NodeMemDebtInfoMap) : RefCountMap :=
  updateRefCount (collectExportInfo debtMap) debtMap

/-! ### What to clean -/

/-- The exports of one name by the nodes they are on. -/
abbrev BaseMap := Map string (List ShareExport)

/-- The exports that are not being destroyed, by their names and their nodes. -/
def collectExportObjsByBaseNode (debtMap : NodeMemDebtInfoMap) : Map string BaseMap :=
  (shareExports debtMap).foldl (fun m e =>
    match baseNodeId e.2.base.algoResult with
    | none => m
    | some base =>
      if isDestroyingExport e.2 then m
      else m.set₂ e.1 base ((m.get₂ e.1 base).getD [] ++ [e.2])) ∅

/-- The orders in which the hash maps of exports are run through. -/
structure CleanOrder where
  names : Map.Iteration string BaseMap
  nodes : Map.Iteration string (List ShareExport)

variable (o : CleanOrder)

def isAllRefCountZero (baseMap : BaseMap) (refCountMap : RefCountMap) (name : string) : Bool :=
  match refCountMap.lookup name with
  | none => false
  | some refCounts => (o.nodes.run baseMap).all fun e => refCounts.lookup e.1 = some 0

def collectAllExportObjs (baseMap : BaseMap) : List ShareExport :=
  (o.nodes.run baseMap).flatMap Prod.snd

def isObjInVector (obj : ShareExport) (vec : List ShareExport) : Bool :=
  vec.any fun item => shareKey item = shareKey obj

def cleanAnonymousObjs (allObjs toClean : List ShareExport) : List ShareExport :=
  toClean ++ allObjs.filter fun obj => obj.req.shmAnonymous = flag true

def filterRemainingObjs (allObjs toClean : List ShareExport) : List ShareExport :=
  allObjs.filter fun obj => !isObjInVector obj toClean

/-- One object is kept, the others are cleaned. -/
def cleanExtraObjs (remainingObjs toClean : List ShareExport) : List ShareExport :=
  toClean ++ remainingObjs.drop 1

def cleanRefCountZeroObjs (baseMap : BaseMap) (refCountMap : RefCountMap) (name : string)
    (toClean : List ShareExport) : List ShareExport :=
  match refCountMap.lookup name with
  | none => toClean
  | some refCounts =>
    toClean ++ (o.nodes.run baseMap).flatMap fun e =>
      if refCounts.lookup e.1 = some 0 then e.2 else []

def checkAndCleanMultiBaseNode (name : string) (baseMap : BaseMap) (refCountMap : RefCountMap)
    (toClean : List ShareExport) : List ShareExport :=
  if isAllRefCountZero o baseMap refCountMap name then
    let allObjs := collectAllExportObjs o baseMap
    if allObjs = [] then toClean
    else
      let anonymous := cleanAnonymousObjs allObjs toClean
      cleanExtraObjs (filterRemainingObjs allObjs anonymous) anonymous
  else cleanRefCountZeroObjs o baseMap refCountMap name toClean

def checkAndCleanSingleBaseNode (name : string) (baseMap : BaseMap) (refCountMap : RefCountMap)
    (toClean : List ShareExport) : List ShareExport :=
  match o.nodes.run baseMap with
  | [] => toClean
  | (base, objs) :: _ =>
    match refCountMap.get₂ name base, objs with
    | some 0, obj :: _ =>
      if obj.req.shmAnonymous = flag true then toClean ++ [obj] else toClean
    | _, _ => toClean

def processCurrentCleanList (debtMap : NodeMemDebtInfoMap) (toClean : List ShareExport) :
    List ShareExport :=
  let refCountMap := countShareMemoryRefCount debtMap
  (o.names.run (collectExportObjsByBaseNode debtMap)).foldl (fun toClean e =>
    if 1 < e.2.entries.length then checkAndCleanMultiBaseNode o e.1 e.2 refCountMap toClean
    else checkAndCleanSingleBaseNode o e.1 e.2 refCountMap toClean) toClean

/-! ### The two checks -/

def compareUbseMemShareBorrowExportObj (obj1 obj2 : ShareExport) : Bool :=
  obj1.base.algoResult.exportNumaInfos ≠ [] ∧ obj2.base.algoResult.exportNumaInfos ≠ [] ∧
    shareKey obj1 = shareKey obj2

def getIntersection (originalToClean currentToClean : List ShareExport) : List ShareExport :=
  currentToClean.filter fun obj =>
    originalToClean.any fun obj1 => compareUbseMemShareBorrowExportObj obj1 obj

/-- What is destroyed, from the ledger at the first check and the one at the second. The maps
may be run through in another order then. -/
def cleanShmZeroImportHandler (o o' : CleanOrder) (originalDebtMap currentDebtMap :
    NodeMemDebtInfoMap) : List ShareExport :=
  let originalToClean := processCurrentCleanList o originalDebtMap []
  if originalToClean = [] then []
  else getIntersection originalToClean (processCurrentCleanList o' currentDebtMap [])

/-! ### Destroying -/

/-- What `debtMap[base]` gives is keyed as well. -/
theorem ShareLedger.keyed_getD (L : ShareLedger) (base : string) :
    ∀ e ∈ (L.debtMap.getD base {}).shareExportObjMap.toList,
      shareKey e.2 = (e.1, some base) := by
  intro e he
  by_cases hmem : base ∈ L.debtMap.toList.map Prod.fst
  · obtain ⟨n, hn, rfl⟩ := List.mem_map.1 hmem
    rw [OrderedMap.mem_getD hn] at he
    exact L.keyed n hn e he
  · rw [OrderedMap.getD_of_notMem _ hmem] at he
    cases he

/-- The object in a state, kept under its name at its node. -/
def ShareLedger.shareExportUpdateState (L : ShareLedger) (exportObj : ShareExport)
    (state : UbseMemState) : ShareLedger :=
  match hbase : baseNodeId exportObj.base.algoResult with
  | none => L
  | some base =>
    let obj : ShareExport :=
      { exportObj with
        base := { exportObj.base with status := { exportObj.base.status with state := state } } }
    let nodeDebt := L.debtMap.getD base {}
    { debtMap := L.debtMap.put base { nodeDebt with
        shareExportObjMap := nodeDebt.shareExportObjMap.put obj.req.base.name obj }
      keyed := by
        intro n hn e he
        rcases OrderedMap.mem_put.1 hn with rfl | ⟨hn, -⟩
        · rcases OrderedMap.mem_put.1 he with rfl | ⟨he, -⟩
          · exact Prod.ext rfl hbase
          · exact L.keyed_getD base e he
        · exact L.keyed n hn e he }

def ShareLedger.deleteShareExport (L : ShareLedger) (exportObj : ShareExport) : ShareLedger :=
  L.shareExportUpdateState { exportObj with
    base := { exportObj.base with
      status := { exportObj.base.status with expectState := UBSE_MEM_EXPORT_DESTROYED } } }
    UBSE_MEM_EXPORT_DESTROYING

def ShareLedger.executeShareMemoryClean (L : ShareLedger) (toClean : List ShareExport) :
    ShareLedger := toClean.foldl deleteShareExport L

/-- Exports of another name or another node are not touched. -/
theorem ShareLedger.mem_deleteShareExport (L : ShareLedger) {exportObj : ShareExport}
    {e : string × ShareExport} (he : e ∈ shareExports L.debtMap)
    (hne : shareKey e.2 ≠ shareKey exportObj) :
    e ∈ shareExports (L.deleteShareExport exportObj).debtMap := by
  rw [deleteShareExport, shareExportUpdateState]
  split
  next => exact he
  next base hbase =>
    obtain ⟨n, hn, hmem⟩ := List.mem_flatMap.1 he
    have hkey := L.keyed n hn e hmem
    refine List.mem_flatMap.2 ?_
    rcases eq_or_ne n.1 base with rfl | hnode
    · refine ⟨_, OrderedMap.mem_put.2 (Or.inl rfl), OrderedMap.mem_put.2 (Or.inr ⟨?_, ?_⟩)⟩
      · rw [OrderedMap.mem_getD (v := n.2) hn]
        exact hmem
      · rintro heq
        rw [hkey, heq] at hne
        exact hne (Prod.ext rfl hbase.symm)
    · exact ⟨n, OrderedMap.mem_put.2 (Or.inr ⟨hn, hnode⟩), hmem⟩

theorem ShareLedger.mem_executeShareMemoryClean (L : ShareLedger) {toClean : List ShareExport}
    {e : string × ShareExport} (he : e ∈ shareExports L.debtMap)
    (hne : shareKey e.2 ∉ toClean.map shareKey) :
    e ∈ shareExports (L.executeShareMemoryClean toClean).debtMap := by
  rw [executeShareMemoryClean]
  induction toClean generalizing L with
  | nil => exact he
  | cons obj toClean ih =>
    rw [List.map_cons, List.mem_cons, not_or] at hne
    exact ih _ (L.mem_deleteShareExport he hne.1) hne.2

/-! ### What the maps hold -/

/-- An export of a name on a node that is not being destroyed. -/
def isLiveAt (name base : string) (e : string × ShareExport) : Bool :=
  e.1 = name ∧ baseNodeId e.2.base.algoResult = some base ∧ ¬isDestroyingExport e.2

/-- The exports of a name on a node that are not being destroyed. -/
def liveExports (debtMap : NodeMemDebtInfoMap) (name base : string) : List ShareExport :=
  ((shareExports debtMap).filter (isLiveAt name base)).map Prod.snd

theorem mem_liveExports {debtMap : NodeMemDebtInfoMap} {name base : string} {x : ShareExport} :
    x ∈ liveExports debtMap name base ↔ (name, x) ∈ shareExports debtMap ∧
      baseNodeId x.base.algoResult = some base ∧ ¬isDestroyingExport x := by
  simp only [liveExports, isLiveAt, List.mem_map, List.mem_filter, decide_eq_true_eq, Prod.exists]
  constructor
  · rintro ⟨name', x, ⟨hmem, rfl, hbase, hlive⟩, rfl⟩
    exact ⟨hmem, hbase, hlive⟩
  · rintro ⟨hmem, hbase, hlive⟩
    exact ⟨name, x, ⟨hmem, rfl, hbase, hlive⟩, rfl⟩

/-- **The groups**: under a name and a node are the exports of that name on that node. -/
theorem get₂_collectExportObjs (debtMap : NodeMemDebtInfoMap) (name base : string) :
    (collectExportObjsByBaseNode debtMap).get₂ name base =
      if liveExports debtMap name base = [] then none
      else some (liveExports debtMap name base) := by
  rw [collectExportObjsByBaseNode, liveExports]
  generalize shareExports debtMap = l
  induction l using List.reverseRecOn with
  | nil => rfl
  | append_singleton l e ih =>
    rw [List.foldl_append, List.foldl_cons, List.foldl_nil, List.filter_append, List.map_append]
    by_cases he : isLiveAt name base e = true
    · obtain ⟨rfl, hbase, hlive⟩ := of_decide_eq_true he
      rw [List.filter_cons_of_pos he, List.filter_nil, hbase]
      simp only [if_neg hlive, Map.get₂_set₂, and_self, if_true, ih]
      split
      next hnil => simp [hnil]
      next => simp
    · rw [List.filter_cons_of_neg he, List.filter_nil, List.map_nil, List.append_nil, ← ih]
      split
      next => rfl
      next base' hbase =>
        split
        next => rfl
        next hlive =>
          rw [Map.get₂_set₂, if_neg]
          rintro ⟨rfl, rfl⟩
          exact he (decide_eq_true ⟨rfl, hbase, hlive⟩)

/-- An import that is not destroyed, of a name and of what is exported on a node. -/
def importsFrom (name base : string) (e : string × UbseMemShareBorrowImportObj) : Bool :=
  e.1 = name ∧ baseNodeId e.2.base.algoResult = some base ∧
    ¬e.2.base.status.state = UBSE_MEM_IMPORT_DESTROYED

theorem get₂_incrementRefCount (refCountMap : RefCountMap) (name base name' base' : string) :
    (incrementRefCount refCountMap name base).get₂ name' base' =
      if name' = name ∧ base' = base then (refCountMap.get₂ name base).map (· + 1)
      else refCountMap.get₂ name' base' := by
  rw [incrementRefCount]
  split
  next hnone =>
    split
    next hkey => rw [hkey.1, hkey.2, hnone, Option.map_none]
    next => rfl
  next count hsome => rw [Map.get₂_set₂, hsome, Option.map_some]

/-- **The count** of a name and a node is the number of the imports from there. -/
theorem get₂_updateRefCount (refCountMap : RefCountMap) (debtMap : NodeMemDebtInfoMap)
    (name base : string) :
    (updateRefCount refCountMap debtMap).get₂ name base =
      (refCountMap.get₂ name base).map
        (· + (shareImports debtMap).countP (importsFrom name base)) := by
  rw [updateRefCount]
  generalize shareImports debtMap = l
  induction l generalizing refCountMap with
  | nil => simp
  | cons e l ih =>
    rw [List.foldl_cons, ih, List.countP_cons]
    split
    next hbase => simp [importsFrom, hbase]
    next base' hbase =>
      split
      next hdestroyed => simp [importsFrom, hdestroyed]
      next hlive =>
        rw [get₂_incrementRefCount]
        split
        next hkey =>
          obtain ⟨rfl, rfl⟩ := hkey
          simp [importsFrom, hbase, hlive, Nat.add_assoc, Nat.add_comm, Function.comp_def]
        next hkey =>
          have hout : importsFrom name base e = false := decide_eq_false fun h =>
            hkey ⟨h.1.symm, Option.some.inj (h.2.1.symm.trans hbase)⟩
          simp [hout]

/-- What has the count zero has no import left. -/
theorem imports_destroyed {debtMap : NodeMemDebtInfoMap} {name base : string}
    (h : (countShareMemoryRefCount debtMap).get₂ name base = some 0) :
    ∀ e ∈ shareImports debtMap, e.1 = name → baseNodeId e.2.base.algoResult = some base →
      e.2.base.status.state = UBSE_MEM_IMPORT_DESTROYED := by
  intro e he hname hbase
  rw [countShareMemoryRefCount, get₂_updateRefCount, Option.map_eq_some_iff] at h
  obtain ⟨count, -, hcount⟩ := h
  have hnone := List.countP_eq_zero.1 (Nat.eq_zero_of_add_eq_zero_left hcount) e he
  by_contra hlive
  exact hnone (decide_eq_true ⟨hname, hbase, hlive⟩)

/-! ### The exports of one name -/

/-- The exports of a name, one under each of their nodes. -/
def Grouped (name : string) (baseMap : BaseMap) : Prop :=
  ∀ base objs, baseMap.lookup base = some objs → ∃ x, objs = [x] ∧ shareKey x = (name, some base)

/-- The ledger has one export of a name on a node. -/
theorem ShareLedger.nodup_shareKey (L : ShareLedger) :
    ((shareExports L.debtMap).map fun e => shareKey e.2).Nodup := by
  rw [shareExports, List.map_flatMap, List.nodup_flatMap]
  constructor
  · intro n hn
    have hkeys : (n.2.shareExportObjMap.toList.map fun e => shareKey e.2) =
        (n.2.shareExportObjMap.toList.map Prod.fst).map fun resId => (resId, some n.1) := by
      rw [List.map_map]
      exact List.map_congr_left fun e he => L.keyed n hn e he
    rw [hkeys]
    exact n.2.shareExportObjMap.nodup.map fun _ _ h => congrArg Prod.fst h
  · have hnodes := List.pairwise_map.1 L.debtMap.nodup
    refine hnodes.imp_of_mem fun {n n'} hn hn' hne => ?_
    simp only [Function.onFun, List.disjoint_left, List.mem_map, not_exists, not_and]
    rintro _ ⟨e, he, rfl⟩ e' he' heq
    rw [L.keyed n hn e he, L.keyed n' hn' e' he'] at heq
    exact hne (Option.some.inj (congrArg Prod.snd heq)).symm

theorem ShareLedger.shareKey_of_mem (L : ShareLedger) {e : string × ShareExport}
    (he : e ∈ shareExports L.debtMap) : (shareKey e.2).1 = e.1 := by
  obtain ⟨n, hn, hmem⟩ := List.mem_flatMap.1 he
  rw [L.keyed n hn e hmem]

theorem ShareLedger.grouped (L : ShareLedger) {name : string} {baseMap : BaseMap}
    (h : (collectExportObjsByBaseNode L.debtMap).lookup name = some baseMap) :
    Grouped name baseMap := by
  intro base objs hobjs
  have hget := get₂_collectExportObjs L.debtMap name base
  rw [Map.get₂_of_lookup h, hobjs] at hget
  split at hget
  next => cases hget
  next hne =>
    obtain rfl := Option.some.inj hget
    have hkey : ∀ x ∈ liveExports L.debtMap name base, shareKey x = (name, some base) := by
      intro x hx
      obtain ⟨hmem, hbase, -⟩ := mem_liveExports.1 hx
      exact Prod.ext (L.shareKey_of_mem hmem) hbase
    have hnodup : ((liveExports L.debtMap name base).map shareKey).Nodup := by
      rw [liveExports, List.map_map]
      exact (List.filter_sublist.map _).nodup L.nodup_shareKey
    match hlist : liveExports L.debtMap name base, hne, hkey, hnodup with
    | [x], _, hkey, _ => exact ⟨x, rfl, hkey x (by simp)⟩
    | x :: y :: _, _, hkey, hnodup =>
      have hxy := hkey x (by simp)
      rw [← hkey y (by simp)] at hxy
      simp [hxy] at hnodup

theorem Grouped.mem {name : string} {baseMap : BaseMap} (h : Grouped name baseMap)
    {base : string} {objs : List ShareExport} (hobjs : baseMap.lookup base = some objs)
    {x : ShareExport} (hx : x ∈ objs) : objs = [x] ∧ shareKey x = (name, some base) := by
  obtain ⟨y, rfl, hkey⟩ := h base objs hobjs
  rw [List.mem_singleton.1 hx]
  exact ⟨rfl, hkey⟩

theorem mem_collectAllExportObjs {baseMap : BaseMap} {x : ShareExport} :
    x ∈ collectAllExportObjs o baseMap ↔
      ∃ base objs, baseMap.lookup base = some objs ∧ x ∈ objs := by
  simp only [collectAllExportObjs, List.mem_flatMap, Prod.exists, Map.Iteration.mem_run]

theorem Grouped.nodup {name : string} {baseMap : BaseMap} (h : Grouped name baseMap) :
    ((collectAllExportObjs o baseMap).map shareKey).Nodup := by
  have hkeys : (collectAllExportObjs o baseMap).map shareKey =
      ((o.nodes.run baseMap).map Prod.fst).map fun base => (name, some base) := by
    rw [collectAllExportObjs, List.map_flatMap, List.map_map, List.map_eq_flatMap]
    refine List.flatMap_congr fun e he => ?_
    obtain ⟨x, hx, hkey⟩ := h e.1 e.2 ((o.nodes.mem_run).1 he)
    rw [hx, List.map_singleton, hkey, Function.comp_apply]
  rw [hkeys]
  exact o.nodes.nodup_run.map fun _ _ heq => Option.some.inj (congrArg Prod.snd heq)

/-- What is given up of one name, as the step of the loop. -/
def cleanName (refCountMap : RefCountMap) (toClean : List ShareExport) (e : string × BaseMap) :
    List ShareExport :=
  if 1 < e.2.entries.length then checkAndCleanMultiBaseNode o e.1 e.2 refCountMap toClean
  else checkAndCleanSingleBaseNode o e.1 e.2 refCountMap toClean

theorem processCurrentCleanList_eq (debtMap : NodeMemDebtInfoMap) :
    processCurrentCleanList o debtMap [] =
      (o.names.run (collectExportObjsByBaseNode debtMap)).foldl
        (cleanName o (countShareMemoryRefCount debtMap)) [] := rfl

theorem isObjInVector_iff {obj : ShareExport} {vec : List ShareExport} :
    isObjInVector obj vec ↔ shareKey obj ∈ vec.map shareKey := by
  simp only [isObjInVector, List.any_eq_true, decide_eq_true_eq, List.mem_map]

/-- The names that are done already make no difference to the next one. -/
theorem cleanName_eq_append {refCountMap : RefCountMap} {toClean : List ShareExport}
    {e : string × BaseMap} (h : Grouped e.1 e.2) (hdone : ∀ x ∈ toClean, (shareKey x).1 ≠ e.1) :
    cleanName o refCountMap toClean e = toClean ++ cleanName o refCountMap [] e := by
  rw [cleanName, cleanName]
  split
  · rw [checkAndCleanMultiBaseNode, checkAndCleanMultiBaseNode]
    split
    · dsimp only
      split
      next => rw [List.append_nil]
      next =>
        have hremaining : filterRemainingObjs (collectAllExportObjs o e.2)
              (cleanAnonymousObjs (collectAllExportObjs o e.2) toClean) =
            filterRemainingObjs (collectAllExportObjs o e.2)
              (cleanAnonymousObjs (collectAllExportObjs o e.2) []) := by
          refine List.filter_congr fun x hx => ?_
          obtain ⟨base, objs, hobjs, hmem⟩ := (mem_collectAllExportObjs o).1 hx
          have hkey := (h.mem hobjs hmem).2
          congr 1
          rw [Bool.eq_iff_iff, isObjInVector_iff, isObjInVector_iff, cleanAnonymousObjs,
            cleanAnonymousObjs, List.map_append, List.mem_append, List.nil_append,
            or_iff_right]
          rintro hold
          obtain ⟨y, hy, hyx⟩ := List.mem_map.1 hold
          exact hdone y hy (by rw [hyx, hkey])
        rw [hremaining, cleanExtraObjs, cleanExtraObjs, cleanAnonymousObjs, cleanAnonymousObjs,
          List.nil_append, List.append_assoc]
    · rw [cleanRefCountZeroObjs, cleanRefCountZeroObjs]
      split
      next => rw [List.append_nil]
      next => rw [List.nil_append]
  · rw [checkAndCleanSingleBaseNode, checkAndCleanSingleBaseNode]
    split
    · rw [List.append_nil]
    · split
      · split
        · rw [List.nil_append]
        · rw [List.append_nil]
      · rw [List.append_nil]

/-- **What is given up has the count zero**, on whichever path. -/
theorem exists_of_mem_cleanName {refCountMap : RefCountMap} {e : string × BaseMap}
    {x : ShareExport} (hx : x ∈ cleanName o refCountMap [] e) :
    ∃ base objs, e.2.lookup base = some objs ∧ x ∈ objs ∧
      refCountMap.get₂ e.1 base = some 0 := by
  rw [cleanName] at hx
  split at hx
  · rw [checkAndCleanMultiBaseNode] at hx
    split at hx
    next hzero =>
      have hmem : x ∈ collectAllExportObjs o e.2 := by
        dsimp only at hx
        split at hx
        · cases hx
        · rw [cleanExtraObjs, cleanAnonymousObjs, List.nil_append, List.mem_append] at hx
          rcases hx with hx | hx
          · exact List.mem_of_mem_filter hx
          · exact List.mem_of_mem_filter (List.mem_of_mem_drop hx)
      obtain ⟨base, objs, hobjs, hmem⟩ := (mem_collectAllExportObjs o).1 hmem
      refine ⟨base, objs, hobjs, hmem, ?_⟩
      rw [isAllRefCountZero] at hzero
      split at hzero
      next => cases hzero
      next refCounts hcounts =>
        rw [Map.get₂_of_lookup hcounts]
        exact of_decide_eq_true (List.all_eq_true.1 hzero _ (o.nodes.mem_run.2 hobjs))
    next =>
      rw [cleanRefCountZeroObjs] at hx
      split at hx
      next => cases hx
      next refCounts hcounts =>
        rw [List.nil_append, List.mem_flatMap] at hx
        obtain ⟨⟨base, objs⟩, hrun, hx⟩ := hx
        split at hx
        next hzero =>
          exact ⟨base, objs, o.nodes.mem_run.1 hrun, hx, by rw [Map.get₂_of_lookup hcounts, hzero]⟩
        next => cases hx
  · rw [checkAndCleanSingleBaseNode] at hx
    split at hx
    next => cases hx
    next base objs rest hrun =>
      split at hx
      next obj tail hzero =>
        split at hx
        next =>
          have hobjs : (base, obj :: tail) ∈ o.nodes.run e.2 := by rw [hrun]; simp
          rw [List.mem_singleton.1 hx]
          exact ⟨base, obj :: tail, o.nodes.mem_run.1 hobjs, by simp, hzero⟩
        next => cases hx
      next => cases hx

/-- **Of what is not anonymous, one export stays**, on whichever path. -/
theorem exists_notMem_cleanName (refCountMap : RefCountMap) {e : string × BaseMap}
    (h : Grouped e.1 e.2) {base : string} {objs : List ShareExport} {x : ShareExport}
    (hobjs : e.2.lookup base = some objs) (hx : x ∈ objs)
    (hnamed : ¬x.req.shmAnonymous = flag true) :
    ∃ base' objs' y, e.2.lookup base' = some objs' ∧ y ∈ objs' ∧
      shareKey y ∉ (cleanName o refCountMap [] e).map shareKey := by
  have hall : x ∈ collectAllExportObjs o e.2 := (mem_collectAllExportObjs o).2 ⟨base, objs, hobjs, hx⟩
  rw [cleanName]
  split
  · rw [checkAndCleanMultiBaseNode]
    split
    next =>
      -- the first of those that are not anonymous is kept
      dsimp only
      rw [if_neg (List.ne_nil_of_mem hall)]
      have hanonymous : cleanAnonymousObjs (collectAllExportObjs o e.2) [] =
        (collectAllExportObjs o e.2).filter fun obj => obj.req.shmAnonymous = flag true :=
        List.nil_append _
      have hremaining : x ∈ filterRemainingObjs (collectAllExportObjs o e.2)
          (cleanAnonymousObjs (collectAllExportObjs o e.2) []) := by
        refine List.mem_filter.2 ⟨hall, ?_⟩
        rw [Bool.not_eq_true', ← Bool.not_eq_true, isObjInVector_iff, hanonymous]
        intro hmem
        obtain ⟨y, hy, hkey⟩ := List.mem_map.1 hmem
        obtain ⟨hy, hyAnonymous⟩ := List.mem_filter.1 hy
        rw [List.inj_on_of_nodup_map (h.nodup o) hy hall hkey] at hyAnonymous
        exact hnamed (of_decide_eq_true hyAnonymous)
      have hnodup : ((filterRemainingObjs (collectAllExportObjs o e.2)
          (cleanAnonymousObjs (collectAllExportObjs o e.2) [])).map shareKey).Nodup :=
        (List.filter_sublist.map _).nodup (h.nodup o)
      obtain ⟨y, rest, hrest⟩ := List.exists_cons_of_ne_nil (List.ne_nil_of_mem hremaining)
      have hy : y ∈ filterRemainingObjs (collectAllExportObjs o e.2)
          (cleanAnonymousObjs (collectAllExportObjs o e.2) []) := by simp [hrest]
      obtain ⟨hyAll, hyKept⟩ := List.mem_filter.1 hy
      obtain ⟨base', objs', hobjs', hmem⟩ := (mem_collectAllExportObjs o).1 hyAll
      refine ⟨base', objs', y, hobjs', hmem, ?_⟩
      rw [Bool.not_eq_true', ← Bool.not_eq_true, isObjInVector_iff] at hyKept
      rw [hrest, List.map_cons, List.nodup_cons] at hnodup
      rw [cleanExtraObjs, hrest, List.drop_one, List.tail_cons, List.map_append, List.mem_append,
        not_or]
      exact ⟨hyKept, hnodup.1⟩
    next hzero =>
      -- a node with imports keeps its export
      rw [cleanRefCountZeroObjs]
      split
      next => exact ⟨base, objs, x, hobjs, hx, List.not_mem_nil⟩
      next refCounts hcounts =>
        rw [isAllRefCountZero, hcounts, List.all_eq_true] at hzero
        push Not at hzero
        obtain ⟨⟨base', objs'⟩, hrun, hcount⟩ := hzero
        have hobjs' := o.nodes.mem_run.1 hrun
        obtain ⟨y, hy, hkey⟩ := h base' objs' hobjs'
        refine ⟨base', objs', y, hobjs', by simp [hy], ?_⟩
        rw [List.nil_append, List.mem_map]
        rintro ⟨z, hz, hzy⟩
        obtain ⟨⟨base₁, objs₁⟩, hrun₁, hz⟩ := List.mem_flatMap.1 hz
        split at hz
        next hcount₁ =>
          rw [(h.mem (o.nodes.mem_run.1 hrun₁) hz).2, hkey] at hzy
          rw [Option.some.inj (congrArg Prod.snd hzy)] at hcount₁
          exact hcount (decide_eq_true hcount₁)
        next => cases hz
  · -- the only export of the name is not anonymous
    refine ⟨base, objs, x, hobjs, hx, ?_⟩
    next hsingle =>
      rw [checkAndCleanSingleBaseNode]
      have hrun := o.nodes.mem_run.2 hobjs
      have hlength := (o.nodes.perm e.2).length_eq
      rw [List.length_map] at hlength
      match hlist : o.nodes.run e.2, hrun, hlength with
      | [(base', objs')], hrun, _ =>
        obtain ⟨rfl, rfl⟩ := Prod.mk.inj (List.mem_singleton.1 hrun)
        rw [(h.mem hobjs hx).1]
        dsimp only
        split
        next hcons =>
          obtain ⟨rfl, -⟩ := List.cons.inj hcons
          rw [if_neg hnamed]
          exact List.not_mem_nil
        next => exact List.not_mem_nil
      | _ :: _ :: _, _, hlength => simp at hlength; omega

/-! ### The list of a check -/

/-- The names of the groups are met one by one, and each adds what is given up of it. -/
theorem foldl_cleanName (refCountMap : RefCountMap) (l : List (string × BaseMap))
    (toClean : List ShareExport) (hgrouped : ∀ e ∈ l, Grouped e.1 e.2)
    (hnodup : (l.map Prod.fst).Nodup)
    (hdone : ∀ x ∈ toClean, (shareKey x).1 ∉ l.map Prod.fst) :
    l.foldl (cleanName o refCountMap) toClean =
      toClean ++ l.flatMap (cleanName o refCountMap []) := by
  induction l generalizing toClean with
  | nil => simp
  | cons e l ih =>
    rw [List.map_cons, List.nodup_cons] at hnodup
    have he := hgrouped e (by simp)
    rw [List.foldl_cons, cleanName_eq_append o he fun x hx heq => hdone x hx (by simp [heq]),
      ih _ (fun e' he' => hgrouped e' (List.mem_cons_of_mem _ he')) hnodup.2, List.flatMap_cons,
      List.append_assoc]
    intro x hx
    rcases List.mem_append.1 hx with hx | hx
    · exact fun hmem => hdone x hx (List.mem_cons_of_mem _ hmem)
    · obtain ⟨base, objs, hobjs, hmem, -⟩ := exists_of_mem_cleanName o hx
      rw [(he.mem hobjs hmem).2]
      exact hnodup.1

/-- **The list of a check**, name by name. -/
theorem mem_processCurrentCleanList (L : ShareLedger) {x : ShareExport} :
    x ∈ processCurrentCleanList o L.debtMap [] ↔
      ∃ name baseMap, (collectExportObjsByBaseNode L.debtMap).lookup name = some baseMap ∧
        x ∈ cleanName o (countShareMemoryRefCount L.debtMap) [] (name, baseMap) := by
  rw [processCurrentCleanList_eq, foldl_cleanName o _ _ [] _ o.names.nodup_run (by simp),
    List.nil_append, List.mem_flatMap]
  · simp only [Prod.exists, Map.Iteration.mem_run]
  · exact fun e he => L.grouped (o.names.mem_run.1 he)

/-! ### The cleaning is safe -/

theorem mem_cleanShmZeroImportHandler {o o' : CleanOrder} {original current : NodeMemDebtInfoMap}
    {x : ShareExport} (hx : x ∈ cleanShmZeroImportHandler o o' original current) :
    shareKey x ∈ (processCurrentCleanList o original []).map shareKey ∧
      x ∈ processCurrentCleanList o' current [] := by
  rw [cleanShmZeroImportHandler] at hx
  split at hx
  · cases hx
  · obtain ⟨hmem, hany⟩ := List.mem_filter.1 hx
    obtain ⟨y, hy, hcompare⟩ := List.any_eq_true.1 hany
    exact ⟨List.mem_map.2 ⟨y, hy, (of_decide_eq_true hcompare).2.2⟩, hmem⟩

/-- **The cleaning is safe**, for any two ledgers and whatever the orders in which the maps are
run through: what is destroyed was on the lists of both checks and has no import that is not
destroyed in the later ledger; and when a name has an export there that is neither anonymous nor
being destroyed, the ledger keeps such an export of that name, anonymous or not. -/
theorem cleanShm_safe (o o' : CleanOrder) (original current : ShareLedger) :
    (∀ x ∈ cleanShmZeroImportHandler o o' original.debtMap current.debtMap,
      (shareKey x ∈ (processCurrentCleanList o original.debtMap []).map shareKey ∧
        x ∈ processCurrentCleanList o' current.debtMap []) ∧
      ∀ e ∈ shareImports current.debtMap, e.1 = x.req.base.name →
        baseNodeId e.2.base.algoResult = baseNodeId x.base.algoResult →
        e.2.base.status.state = UBSE_MEM_IMPORT_DESTROYED) ∧
    ∀ e ∈ shareExports current.debtMap, ¬isDestroyingExport e.2 →
      ¬e.2.req.shmAnonymous = flag true →
      ∃ e' ∈ shareExports (current.executeShareMemoryClean
          (cleanShmZeroImportHandler o o' original.debtMap current.debtMap)).debtMap,
        e'.1 = e.1 ∧ ¬isDestroyingExport e'.2 := by
  constructor
  · intro x hx
    have hboth := mem_cleanShmZeroImportHandler hx
    refine ⟨hboth, fun e he hname hbase => ?_⟩
    obtain ⟨name, baseMap, hlookup, hmem⟩ := (mem_processCurrentCleanList o' current).1 hboth.2
    obtain ⟨base, objs, hobjs, hxobjs, hzero⟩ := exists_of_mem_cleanName o' hmem
    have hkey := ((current.grouped hlookup).mem hobjs hxobjs).2
    have hxname : x.req.base.name = name := congrArg Prod.fst hkey
    have hxbase : baseNodeId x.base.algoResult = some base := congrArg Prod.snd hkey
    exact imports_destroyed hzero e he (hname.trans hxname) (hbase.trans hxbase)
  · rintro ⟨name, x⟩ hx hlive hnamed
    obtain ⟨n, hn, hmem⟩ := List.mem_flatMap.1 hx
    have hbase : baseNodeId x.base.algoResult = some n.1 :=
      congrArg Prod.snd (current.keyed n hn _ hmem)
    have hxlive : x ∈ liveExports current.debtMap name n.1 :=
      mem_liveExports.2 ⟨hx, hbase, hlive⟩
    have hget := get₂_collectExportObjs current.debtMap name n.1
    rw [if_neg (List.ne_nil_of_mem hxlive), Map.get₂, Option.bind_eq_some_iff] at hget
    obtain ⟨baseMap, hlookup, hobjs⟩ := hget
    obtain ⟨base', objs', y, hobjs', hy, hkept⟩ := exists_notMem_cleanName o'
      (countShareMemoryRefCount current.debtMap) (e := (name, baseMap)) (current.grouped hlookup)
      hobjs hxlive hnamed
    have hgroup := get₂_collectExportObjs current.debtMap name base'
    rw [Map.get₂_of_lookup hlookup, hobjs'] at hgroup
    split at hgroup
    next => cases hgroup
    next =>
      obtain rfl := Option.some.inj hgroup
      obtain ⟨hymem, -, hylive⟩ := mem_liveExports.1 hy
      refine ⟨(name, y), current.mem_executeShareMemoryClean hymem fun hdestroyed => ?_, rfl,
        hylive⟩
      -- what is destroyed of this name is given up at the later check
      obtain ⟨z, hz, hzy⟩ := List.mem_map.1 hdestroyed
      obtain ⟨name', baseMap', hlookup', hz⟩ := (mem_processCurrentCleanList o' current).1
        (mem_cleanShmZeroImportHandler hz).2
      obtain ⟨base₁, objs₁, hobjs₁, hzobjs, -⟩ := exists_of_mem_cleanName o' hz
      have hzkey := ((current.grouped hlookup').mem hobjs₁ hzobjs).2
      have hykey := ((current.grouped hlookup).mem hobjs' hy).2
      have hname : name' = name := by
        have heq := hzkey.symm.trans (hzy.trans hykey)
        exact congrArg Prod.fst heq
      subst hname
      rw [hlookup] at hlookup'
      cases hlookup'
      exact hkept (List.mem_map.2 ⟨z, hz, hzy⟩)

end Ledger

end UbsEngine
