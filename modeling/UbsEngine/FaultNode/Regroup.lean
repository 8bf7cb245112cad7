import UbsEngine.FaultNode.Allocate
import UbsEngine.Library.Gather

/-!
# What the borrowers are told

When a node that lends memory fails, the master gathers the debts of every process, decides which
nodes lend in its place, and tells every borrower which of its processes take how much from whom.
Debts are gathered by the number of the process alone, and a borrower is told whatever was decided
for a process with that number. But the numbers of processes are those of their nodes.

So the records that a borrower is told of are its own, but what it is told to borrow is its own
share only if no other borrower has a process of the same number
(`UbsEngine.FaultNode.Simplified.share_iff`).
-/

namespace UbsEngine

namespace FaultNode

namespace Simplified

open Gather

/-! ### Data -/

/-- What the process module keeps with a debt. -/
structure ProcessMemUsrInfo where
  pluginId : Nat
  pid : Pid
  startTime : Int
  deriving DecidableEq

/-- Memory that a process of a node has borrowed. Sizes are in bytes. -/
structure UbseNumaMemoryDebtInfo where
  name : String
  borrowNodeId : String
  borrowSocketIdList : List Int := []
  usrInfo : ProcessMemUsrInfo
  borrowMemId : List Nat := []
  lentNodeId : String := ""
  lentSocketIdList : List Int := []
  lentNumaIdList : List Int := []
  lentNumaSizeList : List Nat := []
  lentMemId : List Nat := []
  size : Nat
  remoteNumaId : Int := -1
  uid : Nat := 0
  username : String := ""
  deriving DecidableEq

structure LentNuma where
  numaId : Nat
  lentSize : Nat

structure BorrowRecord where
  name : String
  size : Nat
  lentNode : String
  lentMemId : List Nat
  lentSocketId : Nat
  lentNuma : List LentNuma
  borrowNode : String
  borrowLocalNuma : Int := 0
  borrowRemoteNuma : Int
  borrowMemId : List Nat
  uid : Nat
  username : String
  borrowSocketId : Nat

/-- What a borrower is told. -/
structure SimplifiedFaultRecordsInNode where
  faultNodeId : String
  pidBorrowMap : Map Pid (List BorrowRecord) := ∅
  pidStartTimeMap : Map Pid Int := ∅
  pidAllocMap : Map Pid (List SimplifiedFaultPidAllocTarget) := ∅

/-- `std::sort` by size, the large ones first. The order of equal sizes is up to the library. -/
structure SortBySize where
  sort : List BorrowRecord → List BorrowRecord
  perm : ∀ records, (sort records).Perm records
  sorted : ∀ records, (sort records).Pairwise fun a b => b.size ≤ a.size

/-- A sort that keeps the order of equal sizes. -/
def SortBySize.stable : SortBySize where
  sort := List.insertionSort fun a b => b.size ≤ a.size
  perm := List.perm_insertionSort _
  sorted records :=
    haveI : Std.Total fun a b : BorrowRecord => b.size ≤ a.size := ⟨fun _ _ => Nat.le_total ..⟩
    haveI : IsTrans BorrowRecord fun a b => b.size ≤ a.size := ⟨fun _ _ _ h h' => Nat.le_trans h' h⟩
    List.pairwise_insertionSort _ records

/-- What the master meets: the nodes of the cluster, what they can lend, and the orders that the
library chooses. -/
structure Cluster where
  allNodes : List String
  socketQueueBySocketId : Map Int (List SimplifiedSocketCapacity)
  sort : SortBySize := .stable
  pidBorrowMap : Map.Iteration Pid (List BorrowRecord) := default
  orders : AllocOrders := {}

/-! ### Debts -/

/-- `UsrInfoPluginType::PROCESS_MEM`. -/
def PROCESS_MEM : Nat := 123

/-- The names of debts of processes begin with the number of a node and a dash. -/
def isValidBorrowIdFormat (allNodes : List String) (debtInfo : UbseNumaMemoryDebtInfo) : Bool :=
  let name := debtInfo.name.toList
  let nodeIdPart := name.takeWhile (· ≠ '-')
  debtInfo.usrInfo.pluginId = PROCESS_MEM &&
    ('-' ∈ name && nodeIdPart ≠ [] && nodeIdPart.length ≠ name.length - 1) &&
    nodeIdPart.all Char.isDigit && String.ofList nodeIdPart ∈ allNodes

/-- A number in 16 bits. -/
def toUInt16 (n : Int) : Nat := (n % 2 ^ 16).toNat

def convertDebtInfoToBorrowRecord (debtInfo : UbseNumaMemoryDebtInfo) : BorrowRecord where
  name := debtInfo.name
  size := debtInfo.size
  borrowNode := debtInfo.borrowNodeId
  borrowMemId := debtInfo.borrowMemId
  lentNode := debtInfo.lentNodeId
  lentMemId := debtInfo.lentMemId
  borrowRemoteNuma := Int.bmod debtInfo.remoteNumaId (2 ^ 16)
  uid := debtInfo.uid
  username := debtInfo.username
  borrowSocketId := toUInt16 (debtInfo.borrowSocketIdList.headD 0)
  lentSocketId := toUInt16 (debtInfo.lentSocketIdList.headD 0)
  lentNuma := List.zipWith (fun numaId lentSize => ⟨toUInt16 numaId, lentSize⟩)
    debtInfo.lentNumaIdList debtInfo.lentNumaSizeList

section Master

variable (c : Cluster) (debtInfos : List UbseNumaMemoryDebtInfo)

def validDebts : List UbseNumaMemoryDebtInfo := debtInfos.filter (isValidBorrowIdFormat c.allNodes)

/-- The records of every process, by its number, and when it was started. -/
def aggregatePidBorrowRecords : Map Pid (List BorrowRecord) × Map Pid Int :=
  ((gather (·.usrInfo.pid) [] (fun records debtInfo =>
      records ++ [convertDebtInfoToBorrowRecord debtInfo]) (validDebts c debtInfos)).mapValues
      fun _ => c.sort.sort,
    gather (·.usrInfo.pid) 0 (fun _ debtInfo => debtInfo.usrInfo.startTime)
      (validDebts c debtInfos))

end Master

/-! ### Chunks -/

/-- The chunks of a process, one for each NUMA node, in KB. -/
def chunksOfRecords (records : List BorrowRecord) : List PidChunkInfo :=
  let numaSizeMap := gather (·.borrowRemoteNuma) 0
    (fun size record => (size + record.size) % 2 ^ 64) records
  let numaSocketMap := gather (·.borrowRemoteNuma) 0 (fun _ record => record.lentSocketId) records
  -- an ordered map
  (numaSizeMap.keys.insertionSort (· ≤ ·)).map fun faultNuma =>
    ⟨(numaSizeMap.lookup faultNuma).getD 0 / 1024, (numaSocketMap.lookup faultNuma).getD 0,
      toUInt16 faultNuma⟩

def buildPidChunks (pidBorrowMap : Map Pid (List BorrowRecord)) : Map Pid (List PidChunkInfo) :=
  pidBorrowMap.mapValues fun _ => chunksOfRecords

/-! ### Borrowers -/

section Regroup

variable (c : Cluster) (nodeId : String) (pidBorrowMap : Map Pid (List BorrowRecord))
  (pidStartTimeMap : Map Pid Int) (pidAllocMap : Map Pid (List SimplifiedFaultPidAllocTarget))

/-- A record in what its borrower is told. -/
def regroupRecord (data : SimplifiedFaultRecordsInNode) (record : Pid × BorrowRecord) :
    SimplifiedFaultRecordsInNode :=
  { data with
    pidBorrowMap := data.pidBorrowMap.insert record.1
      ((data.pidBorrowMap.lookup record.1).getD [] ++ [record.2])
    pidStartTimeMap := match pidStartTimeMap.lookup record.1 with
      | some startTime => data.pidStartTimeMap.insert record.1 startTime
      | none => data.pidStartTimeMap }

/-- The records, process by process. -/
def pidRecords : List (Pid × BorrowRecord) :=
  (c.pidBorrowMap.run pidBorrowMap).flatMap fun e => e.2.map fun record => (e.1, record)

def regroupByBorrowNode : Map String SimplifiedFaultRecordsInNode :=
  gather (·.2.borrowNode) { faultNodeId := nodeId } (regroupRecord pidStartTimeMap)
    (pidRecords c pidBorrowMap)

/-- What a borrower is told of the processes that are served. -/
def keepAllocated (data : SimplifiedFaultRecordsInNode) : SimplifiedFaultRecordsInNode :=
  { data with
    pidBorrowMap := data.pidBorrowMap.filter fun pid _ => (pidAllocMap.lookup pid).isSome
    pidStartTimeMap := data.pidStartTimeMap.eraseAll
      (((c.pidBorrowMap.run data.pidBorrowMap).filter fun e => (pidAllocMap.lookup e.1).isNone).map
        Prod.fst)
    pidAllocMap := Map.writeEach (fun e => (pidAllocMap.lookup e.1).isSome)
      (fun e _ => (pidAllocMap.lookup e.1).getD []) (c.pidBorrowMap.run data.pidBorrowMap)
      data.pidAllocMap }

/-- **What the borrowers are told.** A borrower without processes is left out. -/
def buildBorrowerData : Map String SimplifiedFaultRecordsInNode :=
  ((regroupByBorrowNode c nodeId pidBorrowMap pidStartTimeMap).mapValues fun _ =>
    keepAllocated c pidAllocMap).filter fun _ data => !data.pidBorrowMap.keys.isEmpty

end Regroup

section Master

variable (c : Cluster) (nodeId : String) (debtInfos : List UbseNumaMemoryDebtInfo)

/-- What is decided for the processes. -/
def allocationFor : Allocation :=
  allocatePidsToSockets c.orders (buildPidChunks (aggregatePidBorrowRecords c debtInfos).1)
    c.socketQueueBySocketId

/-- `ProcessBorrowOutNodeFaultSimplified`, up to what is sent. -/
def borrowerDataFor : Map String SimplifiedFaultRecordsInNode :=
  buildBorrowerData c nodeId (aggregatePidBorrowRecords c debtInfos).1
    (aggregatePidBorrowRecords c debtInfos).2 (allocationFor c debtInfos).pidAllocMap

/-! ### Shares -/

/-- The debts of the processes with a number. -/
def debtsOf (pid : Pid) : List UbseNumaMemoryDebtInfo :=
  under (·.usrInfo.pid) pid (validDebts c debtInfos)

/-- The debts of a process of a node. -/
def debtsOfBorrower (node : String) (pid : Pid) : List UbseNumaMemoryDebtInfo :=
  (debtsOf c debtInfos pid).filter fun debtInfo => debtInfo.borrowNodeId = node

/-- What debts have on a NUMA node. -/
def bytesOn (numaId : Nat) (debts : List UbseNumaMemoryDebtInfo) : Nat :=
  Grouping.summed (debts.map fun debtInfo => (toUInt16 debtInfo.remoteNumaId, debtInfo.size)) numaId

/-- **The share**: a borrower is told of the debts of its own process and when it was started, what
it is told to borrow is what they have on each NUMA node, and the borrowers together borrow no more
than was taken for them. -/
structure Share : Prop where
  records : ∀ node data pid records, (borrowerDataFor c nodeId debtInfos).lookup node = some data →
    data.pidBorrowMap.lookup pid = some records →
      records.Perm ((debtsOfBorrower c debtInfos node pid).map convertDebtInfoToBorrowRecord)
  startTime : ∀ node data pid, (borrowerDataFor c nodeId debtInfos).lookup node = some data →
    (data.pidBorrowMap.lookup pid).isSome → ∀ debtInfo ∈ debtsOfBorrower c debtInfos node pid,
      data.pidStartTimeMap.lookup pid = some debtInfo.usrInfo.startTime
  targets : ∀ node data pid, (borrowerDataFor c nodeId debtInfos).lookup node = some data →
    (data.pidBorrowMap.lookup pid).isSome → ∃ targets, data.pidAllocMap.lookup pid = some targets ∧
      ∀ numaId, Grouping.summed (targetSizes targets) numaId =
        bytesOn numaId (debtsOfBorrower c debtInfos node pid) / 1024
  charged : ∀ (q : String × Nat → Prop) [DecidablePred q],
    Map.total (fun _ data => Map.total (fun _ targets => takenFrom q targets) data.pidAllocMap)
      (borrowerDataFor c nodeId debtInfos) ≤
        Map.total (fun _ targets => takenFrom q targets) (allocationFor c debtInfos).pidAllocMap

/-- **The debts with a number are those of one process**: it is of one node, was started once and
has numbers of 64 bits. Where nothing of it comes to 1 KB the node does not matter. -/
structure OneProcess (pid : Pid) : Prop where
  startTime : ∀ debtInfo ∈ debtsOf c debtInfos pid, ∀ debtInfo' ∈ debtsOf c debtInfos pid,
    debtInfo.usrInfo.startTime = debtInfo'.usrInfo.startTime
  borrower : ((∀ debtInfo ∈ debtsOf c debtInfos pid, ∀ debtInfo' ∈ debtsOf c debtInfos pid,
      debtInfo.borrowNodeId = debtInfo'.borrowNodeId) ∧
      ∀ numaId, bytesOn numaId (debtsOf c debtInfos pid) < 2 ^ 64) ∨
    ∀ numaId, bytesOn numaId (debtsOf c debtInfos pid) % 2 ^ 64 < 1024 ∧
      ∀ node, bytesOn numaId (debtsOfBorrower c debtInfos node pid) < 1024

end Master


/-! ### What is gathered -/

section Gathered

variable {c : Cluster} {debtInfos : List UbseNumaMemoryDebtInfo} {pid : Pid}

theorem lookup_records : (aggregatePidBorrowRecords c debtInfos).1.lookup pid =
    if debtsOf c debtInfos pid = [] then none
    else some (c.sort.sort ((debtsOf c debtInfos pid).map convertDebtInfoToBorrowRecord)) := by
  rw [aggregatePidBorrowRecords, Map.lookup_mapValues, lookup_gather, foldl_push, ← debtsOf]
  split <;> rfl

/-- One of the times of the processes with this number. -/
theorem lookup_startTime (h : debtsOf c debtInfos pid ≠ []) : ∃ debtInfo ∈ debtsOf c debtInfos pid,
    (aggregatePidBorrowRecords c debtInfos).2.lookup pid = some debtInfo.usrInfo.startTime := by
  refine ⟨(debtsOf c debtInfos pid).getLast h, List.getLast_mem h, ?_⟩
  rw [aggregatePidBorrowRecords, lookup_gather, foldl_last, ← debtsOf, if_neg h,
    List.getLast?_eq_getLast_of_ne_nil h]
  rfl

variable (c debtInfos pid) in
/-- The records of a borrower are those of its debts. -/
theorem records_perm (node : String) : ((under Prod.fst pid (under (·.2.borrowNode) node
      (pidRecords c (aggregatePidBorrowRecords c debtInfos).1))).map Prod.snd).Perm
    ((debtsOfBorrower c debtInfos node pid).map convertDebtInfoToBorrowRecord) := by
  have hcomm : under Prod.fst pid (under (·.2.borrowNode) node
      (pidRecords c (aggregatePidBorrowRecords c debtInfos).1)) =
      under (·.2.borrowNode) node (under Prod.fst pid
        (pidRecords c (aggregatePidBorrowRecords c debtInfos).1)) := List.filter_comm ..
  rw [hcomm, pidRecords, under_flatMap, c.pidBorrowMap.filter_run,
    lookup_records, debtsOfBorrower]
  split
  next hnil => rw [hnil]; rfl
  next =>
    have hsort := c.sort.perm ((debtsOf c debtInfos pid).map convertDebtInfoToBorrowRecord)
    generalize c.sort.sort ((debtsOf c debtInfos pid).map convertDebtInfoToBorrowRecord) = records
      at hsort ⊢
    rw [Option.map_some, Option.toList_some, List.flatMap_singleton, under, List.filter_map,
      List.map_map]
    have hid : Prod.snd ∘ (fun record : BorrowRecord => (pid, record)) = id := rfl
    rw [hid, List.map_id]
    refine (hsort.filter _).trans ?_
    rw [List.filter_map]
    exact .rfl

section Node

variable (pidStartTimeMap : Map Pid Int) (nodeId : String) (l : List (Pid × BorrowRecord))

theorem pidBorrowMap_foldl :
    (l.foldl (regroupRecord pidStartTimeMap) { faultNodeId := nodeId }).pidBorrowMap =
      gather Prod.fst [] (fun records record => records ++ [record.2]) l := by
  induction l using List.reverseRecOn with
  | nil => rfl
  | append_singleton l record ih =>
    rw [List.foldl_concat, gather_concat, ← ih]
    rfl

theorem pidAllocMap_foldl :
    (l.foldl (regroupRecord pidStartTimeMap) { faultNodeId := nodeId }).pidAllocMap = ∅ := by
  induction l using List.reverseRecOn with
  | nil => rfl
  | append_singleton l record ih =>
    rw [List.foldl_concat]
    exact ih

variable (pid) in
theorem lookup_pidStartTimeMap_foldl (h : under Prod.fst pid l ≠ []) :
    (l.foldl (regroupRecord pidStartTimeMap) { faultNodeId := nodeId }).pidStartTimeMap.lookup pid =
      pidStartTimeMap.lookup pid := by
  have hall : ∀ l : List (Pid × BorrowRecord), (l.foldl (regroupRecord pidStartTimeMap)
      { faultNodeId := nodeId }).pidStartTimeMap.lookup pid =
      if under Prod.fst pid l = [] then none else pidStartTimeMap.lookup pid := by
    intro l
    induction l using List.reverseRecOn with
    | nil => rfl
    | append_singleton l record ih =>
      rw [List.foldl_concat, under_concat, regroupRecord]
      dsimp only
      rcases eq_or_ne record.1 pid with rfl | hne
      · rw [if_pos rfl, if_neg (List.append_ne_nil_of_right_ne_nil _ (by simp))]
        rcases hstart : pidStartTimeMap.lookup record.1 with _ | startTime
        · dsimp only
          rw [ih, hstart, ite_self]
        · dsimp only
          rw [Map.lookup_insert_ite, if_pos rfl]
      · rw [if_neg hne, List.append_nil, ← ih]
        rcases pidStartTimeMap.lookup record.1 with _ | startTime
        · rfl
        · dsimp only
          rw [Map.lookup_insert_ite, if_neg hne.symm]
  rw [hall, if_neg h]

end Node

/-- **What a borrower is told**: its own records, and whatever is decided for the numbers of its
processes. -/
structure Told (c : Cluster) (debtInfos : List UbseNumaMemoryDebtInfo) (node : String)
    (data : SimplifiedFaultRecordsInNode) : Prop where
  told : ∀ pid, (data.pidBorrowMap.lookup pid).isSome ↔
    ((allocationFor c debtInfos).pidAllocMap.lookup pid).isSome ∧
      debtsOfBorrower c debtInfos node pid ≠ []
  records : ∀ pid records, data.pidBorrowMap.lookup pid = some records →
    records.Perm ((debtsOfBorrower c debtInfos node pid).map convertDebtInfoToBorrowRecord)
  startTime : ∀ pid, (data.pidBorrowMap.lookup pid).isSome →
    data.pidStartTimeMap.lookup pid = (aggregatePidBorrowRecords c debtInfos).2.lookup pid
  targets : ∀ pid, data.pidAllocMap.lookup pid =
    if (data.pidBorrowMap.lookup pid).isSome then (allocationFor c debtInfos).pidAllocMap.lookup pid
    else none

variable (c debtInfos) in
theorem told_keepAllocated (nodeId node : String) : Told c debtInfos node
    (keepAllocated c (allocationFor c debtInfos).pidAllocMap
      ((under (·.2.borrowNode) node (pidRecords c (aggregatePidBorrowRecords c debtInfos).1)).foldl
        (regroupRecord (aggregatePidBorrowRecords c debtInfos).2) { faultNodeId := nodeId })) := by
  have hperm := fun pid => records_perm c debtInfos pid node
  generalize under (·.2.borrowNode) node
    (pidRecords c (aggregatePidBorrowRecords c debtInfos).1) = l at hperm ⊢
  have hborrow := pidBorrowMap_foldl (aggregatePidBorrowRecords c debtInfos).2 nodeId l
  have halloc := pidAllocMap_foldl (aggregatePidBorrowRecords c debtInfos).2 nodeId l
  have hstart := fun pid =>
    lookup_pidStartTimeMap_foldl pid (aggregatePidBorrowRecords c debtInfos).2 nodeId l
  generalize l.foldl (regroupRecord (aggregatePidBorrowRecords c debtInfos).2)
    { faultNodeId := nodeId } = data at hborrow halloc hstart ⊢
  have hlookup : ∀ pid, data.pidBorrowMap.lookup pid =
      if under Prod.fst pid l = [] then none else some ((under Prod.fst pid l).map Prod.snd) := by
    intro pid
    rw [hborrow, lookup_gather, foldl_push]
    rfl
  have hempty : ∀ pid, under Prod.fst pid l = [] ↔ debtsOfBorrower c debtInfos node pid = [] := by
    intro pid
    rw [← List.map_eq_nil_iff (f := Prod.snd), ← List.length_eq_zero_iff, (hperm pid).length_eq,
      List.length_eq_zero_iff, List.map_eq_nil_iff]
  have hkept : ∀ pid records, (keepAllocated c (allocationFor c debtInfos).pidAllocMap
      data).pidBorrowMap.lookup pid = some records ↔ data.pidBorrowMap.lookup pid = some records ∧
        ((allocationFor c debtInfos).pidAllocMap.lookup pid).isSome :=
    fun pid records => Map.lookup_filter
  have htold : ∀ pid, ((keepAllocated c (allocationFor c debtInfos).pidAllocMap
      data).pidBorrowMap.lookup pid).isSome ↔ (data.pidBorrowMap.lookup pid).isSome ∧
        ((allocationFor c debtInfos).pidAllocMap.lookup pid).isSome := by
    intro pid
    rw [Option.isSome_iff_exists, Option.isSome_iff_exists (x := data.pidBorrowMap.lookup pid)]
    simp only [hkept, exists_and_right]
  refine ⟨fun pid => ?_, fun pid records hrecords => ?_, fun pid hpid => ?_, fun pid => ?_⟩
  · rw [htold, hlookup, and_comm, ne_eq, ← hempty]
    refine and_congr_right fun _ => ?_
    split
    next hnil => simp [hnil]
    next hcons => simp [hcons]
  · have hdata := ((hkept pid records).1 hrecords).1
    rw [hlookup] at hdata
    split at hdata
    · cases hdata
    · obtain rfl := Option.some.inj hdata
      exact hperm pid
  · obtain ⟨hsome, hallocated⟩ := (htold pid).1 hpid
    rw [keepAllocated]
    dsimp only
    rw [Map.lookup_eraseAll, if_neg, hstart]
    · intro hnil
      rw [hlookup, if_pos hnil] at hsome
      cases hsome
    · intro hmem
      obtain ⟨e, he, rfl⟩ := List.mem_map.1 hmem
      have hnone := (List.mem_filter.1 he).2
      rw [Option.isNone_iff_eq_none] at hnone
      rw [hnone] at hallocated
      cases hallocated
  · have htoldPid := htold pid
    change (Map.writeEach _ _ (c.pidBorrowMap.run data.pidBorrowMap)
      data.pidAllocMap).lookup pid = _
    rw [halloc]
    rcases hrecords : data.pidBorrowMap.lookup pid with _ | records
    · rw [hrecords] at htoldPid
      rw [Map.lookup_writeEach_of_notMem, if_neg fun h => by simpa using htoldPid.1 h]
      · rfl
      · intro hmem
        obtain ⟨⟨pid, records⟩, he, rfl⟩ := List.mem_map.1 hmem
        rw [c.pidBorrowMap.mem_run, hrecords] at he
        cases he
    · rw [hrecords, Option.isSome_some, and_iff_right rfl] at htoldPid
      rw [Map.lookup_writeEach c.pidBorrowMap.nodup_run (c.pidBorrowMap.mem_run.2 hrecords),
        if_congr htoldPid rfl rfl]
      dsimp only
      rcases (allocationFor c debtInfos).pidAllocMap.lookup pid with _ | targets
      · rfl
      · rfl

theorem lookup_regroup (nodeId node : String) : (regroupByBorrowNode c nodeId
      (aggregatePidBorrowRecords c debtInfos).1 (aggregatePidBorrowRecords c debtInfos).2).lookup
        node =
    if under (·.2.borrowNode) node
      (pidRecords c (aggregatePidBorrowRecords c debtInfos).1) = [] then none
    else some ((under (·.2.borrowNode) node
      (pidRecords c (aggregatePidBorrowRecords c debtInfos).1)).foldl
        (regroupRecord (aggregatePidBorrowRecords c debtInfos).2) { faultNodeId := nodeId }) :=
  lookup_gather ..

theorem told_of_lookup {nodeId node : String} {data : SimplifiedFaultRecordsInNode}
    (h : (borrowerDataFor c nodeId debtInfos).lookup node = some data) :
    Told c debtInfos node data := by
  obtain ⟨h, -⟩ := Map.lookup_filter.1 h
  rw [Map.lookup_mapValues, lookup_regroup] at h
  split at h
  · cases h
  · obtain rfl := Option.some.inj h
    exact told_keepAllocated c debtInfos nodeId node

/-- Every borrower with a process that is served is told. -/
theorem exists_lookup {node : String}
    (halloc : ((allocationFor c debtInfos).pidAllocMap.lookup pid).isSome)
    (hdebts : debtsOfBorrower c debtInfos node pid ≠ []) (nodeId : String) :
    ∃ data, (borrowerDataFor c nodeId debtInfos).lookup node = some data ∧
      (data.pidBorrowMap.lookup pid).isSome := by
  have htold := told_keepAllocated c debtInfos nodeId node
  have hsome := (htold.told pid).2 ⟨halloc, hdebts⟩
  refine ⟨_, Map.lookup_filter.2 ⟨?_, ?_⟩, hsome⟩
  · rw [Map.lookup_mapValues, lookup_regroup, if_neg]
    · rfl
    · intro hnil
      have hperm := records_perm c debtInfos pid node
      rw [hnil] at hperm
      exact hdebts (List.map_eq_nil_iff.1 (List.nil_perm.1 hperm))
  · rw [Bool.not_eq_true', List.isEmpty_eq_false_iff]
    intro hnil
    obtain ⟨records, hrecords⟩ := Option.isSome_iff_exists.1 hsome
    have hmem := Map.mem_keys_iff.2 ⟨records, hrecords⟩
    rw [hnil] at hmem
    cases hmem

end Gathered

/-! ### What is taken for a process -/

section Sizes

theorem toUInt16_bmod (n : Int) : toUInt16 (Int.bmod n (2 ^ 16)) = toUInt16 n := by
  have h := Int.bmod_emod (x := n) (m := 2 ^ 16)
  rw [toUInt16, toUInt16]
  exact congrArg Int.toNat h

/-- Numbers of 16 bits are told apart by their 16 bits. -/
theorem bmod_inj {a b : Int} (h : toUInt16 (Int.bmod a (2 ^ 16)) = toUInt16 (Int.bmod b (2 ^ 16))) :
    Int.bmod a (2 ^ 16) = Int.bmod b (2 ^ 16) := by
  rw [toUInt16_bmod, toUInt16_bmod, toUInt16, toUInt16] at h
  have heq : a % 2 ^ 16 = b % 2 ^ 16 := by omega
  rw [← Int.emod_bmod a, ← Int.emod_bmod b]
  exact congrArg (Int.bmod · _) heq

/-- The chunks of records of 16-bit NUMA nodes. -/
theorem summed_chunksOfRecords {records : List BorrowRecord}
    (hnuma : ∀ record ∈ records, ∃ n, record.borrowRemoteNuma = Int.bmod n (2 ^ 16))
    (numaId : Nat) : Grouping.summed (chunkSizes (chunksOfRecords records)) numaId =
      Grouping.summed (records.map fun record => (toUInt16 record.borrowRemoteNuma, record.size))
        numaId % 2 ^ 64 / 1024 := by
  generalize hsizes : gather (·.borrowRemoteNuma) 0
    (fun size record => (size + record.size) % 2 ^ 64) records = numaSizeMap
  have hlookup : ∀ f, (numaSizeMap.lookup f).getD 0 =
      ((under (·.borrowRemoteNuma) f records).map (·.size)).sum % 2 ^ 64 := by
    intro f
    have hfold := foldl_add_mod (fun record : BorrowRecord => record.size) (2 ^ 64)
      (under (·.borrowRemoteNuma) f records) 0
    rw [Nat.zero_mod, Nat.zero_add] at hfold
    rw [← hsizes, lookup_gather_getD, hfold]
  have hkeys : ∀ f, f ∈ numaSizeMap.keys.insertionSort (· ≤ ·) ↔
      ∃ record ∈ records, record.borrowRemoteNuma = f := by
    intro f
    rw [(List.perm_insertionSort _ _).mem_iff, Map.mem_keys_iff, ← Option.isSome_iff_exists,
      ← hsizes]
    exact isSome_lookup_gather ..
  have hnodup : (numaSizeMap.keys.insertionSort (· ≤ ·)).Nodup :=
    (List.perm_insertionSort _ _).nodup_iff.2 numaSizeMap.nodupKeys
  have hchunks : chunkSizes (chunksOfRecords records) =
      (numaSizeMap.keys.insertionSort (· ≤ ·)).map fun f =>
        (toUInt16 f, (numaSizeMap.lookup f).getD 0 / 1024) := by
    rw [chunksOfRecords, chunkSizes, List.map_map, hsizes]
    rfl
  rw [hchunks]
  generalize numaSizeMap.keys.insertionSort (· ≤ ·) = keys at hkeys hnodup
  by_cases h : ∃ record ∈ records, toUInt16 record.borrowRemoteNuma = numaId
  · obtain ⟨first, hfirst, rfl⟩ := h
    have hinj : ∀ record ∈ records,
        toUInt16 record.borrowRemoteNuma = toUInt16 first.borrowRemoteNuma ↔
          record.borrowRemoteNuma = first.borrowRemoteNuma := by
      intro record hrecord
      obtain ⟨n, hn⟩ := hnuma record hrecord
      obtain ⟨n', hn'⟩ := hnuma first hfirst
      rw [hn, hn']
      exact ⟨bmod_inj, congrArg toUInt16⟩
    have hkeyInj : ∀ f ∈ keys, toUInt16 f = toUInt16 first.borrowRemoteNuma ↔
        f = first.borrowRemoteNuma := by
      intro f hf
      obtain ⟨record, hrecord, rfl⟩ := (hkeys f).1 hf
      exact hinj record hrecord
    have hone := Grouping.summed_keyed hnodup
      (fun f => (numaSizeMap.lookup f).getD 0 / 1024) first.borrowRemoteNuma
    rw [if_pos ((hkeys _).2 ⟨first, hfirst, rfl⟩), hlookup, sum_under] at hone
    rw [summed_congr _ hkeyInj, hone, summed_congr _ hinj]
  · have hnone : ∀ record ∈ records, toUInt16 record.borrowRemoteNuma ≠ numaId :=
      fun record hrecord heq => h ⟨record, hrecord, heq⟩
    have hkeysNone : ∀ f ∈ keys, toUInt16 f ≠ numaId := by
      intro f hf
      obtain ⟨record, hrecord, rfl⟩ := (hkeys f).1 hf
      exact hnone record hrecord
    have hkeysZero : Grouping.summed
        (keys.map fun f => (toUInt16 f, (numaSizeMap.lookup f).getD 0 / 1024)) numaId = 0 := by
      refine Grouping.summed_eq_zero fun x hx hnuma => ?_
      obtain ⟨f, hf, rfl⟩ := List.mem_map.1 hx
      exact absurd hnuma (hkeysNone f hf)
    have hrecordsZero : Grouping.summed
        (records.map fun record => (toUInt16 record.borrowRemoteNuma, record.size)) numaId = 0 := by
      refine Grouping.summed_eq_zero fun x hx hnuma => ?_
      obtain ⟨record, hrecord, rfl⟩ := List.mem_map.1 hx
      exact absurd hnuma (hnone record hrecord)
    rw [hkeysZero, hrecordsZero, Nat.zero_mod, Nat.zero_div]

variable {c : Cluster} {debtInfos : List UbseNumaMemoryDebtInfo} {pid : Pid}

/-- What the chunks of a number need. -/
theorem summed_chunksOf (numaId : Nat) : Grouping.summed (chunkSizes (chunksOf
      (buildPidChunks (aggregatePidBorrowRecords c debtInfos).1) pid)) numaId =
    bytesOn numaId (debtsOf c debtInfos pid) % 2 ^ 64 / 1024 := by
  rw [chunksOf, buildPidChunks, Map.lookup_mapValues, lookup_records]
  split
  next hnil =>
    rw [hnil, Option.map_none, Option.getD_none, bytesOn, List.map_nil, Grouping.summed_nil]
    exact Grouping.summed_nil numaId
  next =>
    have hsort := c.sort.perm ((debtsOf c debtInfos pid).map convertDebtInfoToBorrowRecord)
    rw [Option.map_some, Option.getD_some, summed_chunksOfRecords]
    · rw [Grouping.summed_perm (hsort.map _), List.map_map, bytesOn]
      refine congrArg (fun l => Grouping.summed l numaId % 2 ^ 64 / 1024) ?_
      refine List.map_congr_left fun debtInfo _ => ?_
      exact Prod.ext (toUInt16_bmod debtInfo.remoteNumaId) rfl
    · rintro record hrecord
      obtain ⟨debtInfo, -, rfl⟩ := List.mem_map.1 (hsort.mem_iff.1 hrecord)
      exact ⟨debtInfo.remoteNumaId, rfl⟩

/-- What is taken for a number is what all its debts have. -/
theorem summed_targets {targets : List SimplifiedFaultPidAllocTarget}
    (h : (allocationFor c debtInfos).pidAllocMap.lookup pid = some targets) :
    debtsOf c debtInfos pid ≠ [] ∧ ∀ numaId, Grouping.summed (targetSizes targets) numaId =
      bytesOn numaId (debtsOf c debtInfos pid) % 2 ^ 64 / 1024 := by
  have halloc : Allocates c.orders (buildPidChunks (aggregatePidBorrowRecords c debtInfos).1)
      (nodeRemaining c.socketQueueBySocketId)
      (pidOrder (buildPidChunks (aggregatePidBorrowRecords c debtInfos).1))
      (allocationFor c debtInfos) :=
    allocates_allocation _ ((List.perm_insertionSort _ _).nodup_iff.2 (AList.nodupKeys _))
  refine ⟨?_, fun numaId => ?_⟩
  · have hmem := (halloc.settled pid).2 (.inl (Option.isSome_iff_exists.2 ⟨targets, h⟩))
    intro hnil
    obtain ⟨chunks, hchunks⟩ := Map.mem_keys_iff.1 ((mem_pidOrder _).1 hmem)
    rw [buildPidChunks, Map.lookup_mapValues, lookup_records, if_pos hnil] at hchunks
    cases hchunks
  · rw [(halloc.served pid targets h).sizes, summed_chunksOf]

/-- Nothing is taken if nothing is on any NUMA node. -/
theorem takenFrom_eq_zero (q : String × Nat → Prop) [DecidablePred q]
    {targets : List SimplifiedFaultPidAllocTarget}
    (h : ∀ numaId, Grouping.summed (targetSizes targets) numaId = 0) : takenFrom q targets = 0 := by
  refine List.sum_eq_zero fun n hn => ?_
  obtain ⟨target, htarget, rfl⟩ := List.mem_map.1 hn
  have hmem : (target.srcFaultNumaId, target.lendSizeKB) ∈ targetSizes targets :=
    List.mem_map.2 ⟨target, htarget, rfl⟩
  have hle : target.lendSizeKB ≤ 0 := (Grouping.le_summed hmem).trans_eq (h _)
  rw [Nat.le_zero.1 hle, ite_self]

theorem summed_eq_zero_of_takenFrom {targets : List SimplifiedFaultPidAllocTarget}
    (h : takenFrom (fun _ => True) targets = 0) (numaId : Nat) :
    Grouping.summed (targetSizes targets) numaId = 0 := by
  rw [takenFrom_true, List.sum_eq_zero_iff_forall_eq_nat] at h
  refine Grouping.summed_eq_zero fun x hx _ => ?_
  obtain ⟨target, htarget, rfl⟩ := List.mem_map.1 hx
  exact h _ (List.mem_map_of_mem htarget)

/-- What the borrowers borrow together, number by number. -/
theorem total_borrowed (nodeId : String) (q : String × Nat → Prop) [DecidablePred q] :
    Map.total (fun _ data => Map.total (fun _ targets => takenFrom q targets) data.pidAllocMap)
        (borrowerDataFor c nodeId debtInfos) =
      Map.total (fun pid targets => Map.total (fun _ data =>
          if (data.pidAllocMap.lookup pid).isSome then takenFrom q targets else 0)
        (borrowerDataFor c nodeId debtInfos)) (allocationFor c debtInfos).pidAllocMap := by
  refine Map.total_parts (fun _ targets => takenFrom q targets)
    SimplifiedFaultRecordsInNode.pidAllocMap ?_
  rintro node data hdata pid targets htargets
  rw [(told_of_lookup hdata).targets] at htargets
  split at htargets
  · exact htargets
  · cases htargets

end Sizes

/-! ### The share of a borrower -/

section Shares

variable {c : Cluster} {nodeId : String} {debtInfos : List UbseNumaMemoryDebtInfo} {pid : Pid}

theorem mem_debtsOfBorrower {node : String} {debtInfo : UbseNumaMemoryDebtInfo} :
    debtInfo ∈ debtsOfBorrower c debtInfos node pid ↔
      debtInfo ∈ debtsOf c debtInfos pid ∧ debtInfo.borrowNodeId = node := by
  rw [debtsOfBorrower, List.mem_filter, decide_eq_true_eq]

/-- A borrower of a number that is served is told what is taken for it. -/
theorem exists_told {debtInfo : UbseNumaMemoryDebtInfo}
    {targets : List SimplifiedFaultPidAllocTarget}
    (halloc : (allocationFor c debtInfos).pidAllocMap.lookup pid = some targets)
    (hmem : debtInfo ∈ debtsOf c debtInfos pid) (nodeId : String) :
    ∃ data, (borrowerDataFor c nodeId debtInfos).lookup debtInfo.borrowNodeId = some data ∧
      (data.pidBorrowMap.lookup pid).isSome ∧ data.pidAllocMap.lookup pid = some targets := by
  have hdebts : debtsOfBorrower c debtInfos debtInfo.borrowNodeId pid ≠ [] :=
    List.ne_nil_of_mem (mem_debtsOfBorrower.2 ⟨hmem, rfl⟩)
  obtain ⟨data, hdata, hsome⟩ :=
    exists_lookup (by rw [halloc]; rfl) hdebts nodeId
  refine ⟨data, hdata, hsome, ?_⟩
  rw [(told_of_lookup hdata).targets, if_pos hsome, halloc]

/-- Who is told of what is taken for a number has debts of it. -/
theorem exists_own {node : String} {data : SimplifiedFaultRecordsInNode}
    (hdata : (borrowerDataFor c nodeId debtInfos).lookup node = some data)
    (h : (data.pidAllocMap.lookup pid).isSome) :
    ∃ debtInfo, debtInfo ∈ debtsOfBorrower c debtInfos node pid := by
  have htold := told_of_lookup hdata
  rw [htold.targets] at h
  split at h
  next hsome => exact List.exists_mem_of_ne_nil _ ((htold.told pid).1 hsome).2
  next => cases h

/-- The debts of a number are those of each of its borrowers, if there is but one. -/
theorem debtsOfBorrower_eq (hone : ∀ debtInfo ∈ debtsOf c debtInfos pid,
      ∀ debtInfo' ∈ debtsOf c debtInfos pid, debtInfo.borrowNodeId = debtInfo'.borrowNodeId)
    {node : String} (h : debtsOfBorrower c debtInfos node pid ≠ []) :
    debtsOfBorrower c debtInfos node pid = debtsOf c debtInfos pid := by
  obtain ⟨debtInfo, hown⟩ := List.exists_mem_of_ne_nil _ h
  obtain ⟨hmem, rfl⟩ := mem_debtsOfBorrower.1 hown
  refine List.filter_eq_self.2 fun debtInfo' hmem' => ?_
  exact decide_eq_true (hone debtInfo' hmem' debtInfo hmem)

/-- What is taken for a number with two borrowers is borrowed twice, so nothing is taken. -/
theorem Share.summed_eq_zero (h : Share c nodeId debtInfos)
    {targets : List SimplifiedFaultPidAllocTarget}
    (halloc : (allocationFor c debtInfos).pidAllocMap.lookup pid = some targets)
    {debtInfo debtInfo' : UbseNumaMemoryDebtInfo} (hmem : debtInfo ∈ debtsOf c debtInfos pid)
    (hmem' : debtInfo' ∈ debtsOf c debtInfos pid)
    (hne : debtInfo.borrowNodeId ≠ debtInfo'.borrowNodeId) (numaId : Nat) :
    Grouping.summed (targetSizes targets) numaId = 0 := by
  refine summed_eq_zero_of_takenFrom ?_ numaId
  have hcharged := h.charged fun _ => True
  rw [total_borrowed] at hcharged
  have hle := Map.le_of_total_le ?_ hcharged halloc
  · obtain ⟨data, hdata, -, htargets⟩ := exists_told halloc hmem nodeId
    obtain ⟨data', hdata', -, htargets'⟩ := exists_told halloc hmem' nodeId
    have htwo := Map.add_le_total (fun _ data => if (data.pidAllocMap.lookup pid).isSome then
      takenFrom (fun _ => True) targets else 0) hne hdata hdata'
    rw [htargets, htargets', Option.isSome_some, if_pos rfl] at htwo
    omega
  · -- every number that is served has a borrower
    rintro pid targets halloc
    obtain ⟨debtInfo, hmem⟩ := List.exists_mem_of_ne_nil _ (summed_targets halloc).1
    obtain ⟨data, hdata, -, htargets⟩ := exists_told halloc hmem nodeId
    have hone := Map.le_total (fun _ data => if (data.pidAllocMap.lookup pid).isSome then
      takenFrom (fun _ => True) targets else 0) hdata
    rwa [htargets, Option.isSome_some, if_pos rfl] at hone

/-- A number that is served is that of one process, if borrowers are told their shares. -/
theorem Share.oneProcess (h : Share c nodeId debtInfos)
    {targets : List SimplifiedFaultPidAllocTarget}
    (halloc : (allocationFor c debtInfos).pidAllocMap.lookup pid = some targets) :
    OneProcess c debtInfos pid := by
  obtain ⟨hdebts, hsummed⟩ := summed_targets halloc
  have hstart : ∀ debtInfo ∈ debtsOf c debtInfos pid,
      (aggregatePidBorrowRecords c debtInfos).2.lookup pid = some debtInfo.usrInfo.startTime := by
    intro debtInfo hmem
    obtain ⟨data, hdata, hsome, -⟩ := exists_told halloc hmem nodeId
    rw [← (told_of_lookup hdata).startTime pid hsome]
    exact h.startTime _ data pid hdata hsome debtInfo (mem_debtsOfBorrower.2 ⟨hmem, rfl⟩)
  -- what a borrower is told is its own part
  have hown : ∀ debtInfo ∈ debtsOf c debtInfos pid, ∀ numaId,
      bytesOn numaId (debtsOf c debtInfos pid) % 2 ^ 64 / 1024 =
        bytesOn numaId (debtsOfBorrower c debtInfos debtInfo.borrowNodeId pid) / 1024 := by
    intro debtInfo hmem numaId
    obtain ⟨data, hdata, hsome, htargets⟩ := exists_told halloc hmem nodeId
    obtain ⟨targets', htargets', hsizes⟩ := h.targets _ data pid hdata hsome
    rw [htargets] at htargets'
    obtain rfl := Option.some.inj htargets'
    rw [← hsummed, hsizes]
  refine ⟨fun debtInfo hmem debtInfo' hmem' => ?_, ?_⟩
  · exact Option.some.inj ((hstart debtInfo hmem).symm.trans (hstart debtInfo' hmem'))
  by_cases hone : ∀ debtInfo ∈ debtsOf c debtInfos pid, ∀ debtInfo' ∈ debtsOf c debtInfos pid,
      debtInfo.borrowNodeId = debtInfo'.borrowNodeId
  · refine .inl ⟨hone, fun numaId => ?_⟩
    obtain ⟨debtInfo, hmem⟩ := List.exists_mem_of_ne_nil _ hdebts
    have heq := hown debtInfo hmem numaId
    rw [debtsOfBorrower_eq hone (List.ne_nil_of_mem (mem_debtsOfBorrower.2 ⟨hmem, rfl⟩))] at heq
    omega
  · push Not at hone
    obtain ⟨debtInfo, hmem, debtInfo', hmem', hne⟩ := hone
    have hzero : ∀ numaId, bytesOn numaId (debtsOf c debtInfos pid) % 2 ^ 64 / 1024 = 0 := by
      intro numaId
      rw [← hsummed]
      exact h.summed_eq_zero halloc hmem hmem' hne numaId
    refine .inr fun numaId => ⟨?_, fun node => ?_⟩
    · have hzero := hzero numaId
      omega
    · rcases hborrower : debtsOfBorrower c debtInfos node pid with _ | ⟨own, others⟩
      · exact Nat.zero_lt_of_ne_zero (by decide)
      · have hmemOwn : own ∈ debtsOfBorrower c debtInfos node pid := by
          rw [hborrower]
          exact List.mem_cons_self
        obtain ⟨hmem, rfl⟩ := mem_debtsOfBorrower.1 hmemOwn
        have heq := hown own hmem numaId
        have hzero := hzero numaId
        rw [hborrower] at heq
        omega

/-- What the borrowers of one process are told. -/
theorem OneProcess.share (h : ∀ pid, ((allocationFor c debtInfos).pidAllocMap.lookup pid).isSome →
    OneProcess c debtInfos pid) : Share c nodeId debtInfos where
  records node data pid records hdata := (told_of_lookup hdata).records pid records
  startTime node data pid hdata hsome debtInfo hmem := by
    obtain ⟨halloc, hdebts⟩ := ((told_of_lookup hdata).told pid).1 hsome
    obtain ⟨hmem, -⟩ := mem_debtsOfBorrower.1 hmem
    obtain ⟨last, hlast, hstart⟩ := lookup_startTime (List.ne_nil_of_mem hmem)
    rw [(told_of_lookup hdata).startTime pid hsome, hstart]
    exact congrArg some ((h pid halloc).startTime last hlast debtInfo hmem)
  targets node data pid hdata hsome := by
    obtain ⟨halloc, hdebts⟩ := ((told_of_lookup hdata).told pid).1 hsome
    obtain ⟨targets, htargets⟩ := Option.isSome_iff_exists.1 halloc
    refine ⟨targets, ?_, fun numaId => ?_⟩
    · rw [(told_of_lookup hdata).targets, if_pos hsome, htargets]
    · rw [(summed_targets htargets).2]
      rcases (h pid halloc).borrower with ⟨hone, hlt⟩ | hsmall
      · rw [debtsOfBorrower_eq hone hdebts, Nat.mod_eq_of_lt (hlt numaId)]
      · obtain ⟨hall, hown⟩ := hsmall numaId
        rw [Nat.div_eq_of_lt hall, Nat.div_eq_of_lt (hown node)]
  charged q _ := by
    rw [total_borrowed]
    refine Map.total_mono fun pid targets halloc => ?_
    rcases (h pid (by rw [halloc]; rfl)).borrower with ⟨hone, -⟩ | hsmall
    · -- one borrower at most is told of the process
      refine Map.total_le_one (fun node data _ => ?_)
        fun node data node' data' hdata hdata' hne hne' => ?_
      · split
        · exact Nat.le_refl _
        · exact Nat.zero_le _
      · obtain ⟨own, hown⟩ := exists_own hdata (ite_ne_right_iff.1 hne).1
        obtain ⟨own', hown'⟩ := exists_own hdata' (ite_ne_right_iff.1 hne').1
        obtain ⟨hmem, rfl⟩ := mem_debtsOfBorrower.1 hown
        obtain ⟨hmem', rfl⟩ := mem_debtsOfBorrower.1 hown'
        exact hone own hmem own' hmem'
    · have hnothing : takenFrom q targets = 0 := by
        refine takenFrom_eq_zero q fun numaId => ?_
        rw [(summed_targets halloc).2, Nat.div_eq_of_lt (hsmall numaId).1]
      rw [hnothing, Map.total_eq_zero_iff.2 fun node data _ => ite_self 0]

/-- **When the borrowers are told their shares**: if and only if the debts of every number that is
served are those of one process. -/
theorem share_iff (c : Cluster) (nodeId : String) (debtInfos : List UbseNumaMemoryDebtInfo) :
    Share c nodeId debtInfos ↔ ∀ pid, ((allocationFor c debtInfos).pidAllocMap.lookup pid).isSome →
      OneProcess c debtInfos pid := by
  refine ⟨fun h pid halloc => ?_, OneProcess.share⟩
  obtain ⟨targets, htargets⟩ := Option.isSome_iff_exists.1 halloc
  exact h.oneProcess htargets

/-- Two nodes have borrowed 1 MiB each, for a process with the number 100. -/
def twoBorrowers : List UbseNumaMemoryDebtInfo :=
  [{ name := "1-a", borrowNodeId := "1", usrInfo := ⟨123, 100, 7⟩, size := 2 ^ 20,
      remoteNumaId := 4 },
    { name := "2-b", borrowNodeId := "2", usrInfo := ⟨123, 100, 7⟩, size := 2 ^ 20,
      remoteNumaId := 4 }]

/-- A node that lends up to 4 MiB, in blocks of 1 MiB. -/
def oneLender : Cluster where
  allNodes := ["1", "2", "3"]
  socketQueueBySocketId :=
    (∅ : Map Int (List SimplifiedSocketCapacity)).insert 0 [⟨"3", 4096, 1024⟩]

/-- **Two borrowers are not told their shares**: each is told to borrow the 2 MiB of both. -/
theorem not_share_twoBorrowers : ¬ Share oneLender "4" twoBorrowers := by
  intro h
  have halloc : ((allocationFor oneLender twoBorrowers).pidAllocMap.lookup 100).isSome := by
    decide +kernel
  obtain ⟨targets, htargets⟩ := Option.isSome_iff_exists.1 halloc
  have hdebts : debtsOf oneLender twoBorrowers 100 = twoBorrowers := by
    decide +kernel
  have hborrower := (h.oneProcess htargets).borrower
  rw [hdebts] at hborrower
  rcases hborrower with ⟨hone, -⟩ | hsmall
  · exact absurd (hone _ List.mem_cons_self _ (List.mem_cons_of_mem _ List.mem_cons_self))
      (by decide)
  · have hbytes : bytesOn 4 twoBorrowers % 2 ^ 64 = 2 ^ 21 := by decide +kernel
    have hlt := (hsmall 4).1
    rw [hbytes] at hlt
    exact absurd hlt (by decide)

end Shares

end Simplified

end FaultNode

end UbsEngine
