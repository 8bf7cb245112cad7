import UbsEngine.Library.OrderedMap

/-!
# Giving borrowed memory back in a rollback

When a migration is rolled back, what was borrowed for it is freed, one borrow after the other. A
borrow may be freed without migrating anything back when none of its processes has memory on the
remote NUMA node, and that is decided from the ledger and from the processes that smap manages there
(`UbsEngine.Migrate.needSmapMigrateBack`). A query that fails, or a borrow without a NUMA node or
with a process that is not known, is decided for migrating back.

What smap is to keep of a process on a remote NUMA node is given by size or by ratio, and only the
size is looked at. So a borrow is freed under a process whose quota is a ratio, and otherwise all is
as it should be (`UbsEngine.Migrate.failClosed_iff`): what could not be freed is kept, with its
processes, and a success is reported exactly when everything has been freed.
-/

namespace UbsEngine

namespace Migrate

/-! ### Data -/

abbrev Pid := Int

/-- A process of a borrow. An id that is not positive stands for a process that is not known. -/
structure BorrowIdInfo where
  pid : Pid
  oriSize : Nat
  deriving DecidableEq

/-- The fields of a debt that are looked at. -/
structure BorrowRecord where
  name : String
  borrowRemoteNuma : Int
  deriving DecidableEq

/-- How the quota of a process is given. -/
inductive MigrateMode where
  | MIG_RATIO_MODE
  | MIG_MEMSIZE_MODE
  deriving DecidableEq

/-- A process that smap manages on a NUMA node. -/
structure ProcessPayload where
  pid : Pid
  ratio : Nat
  migrateMode : MigrateMode
  memSize : Nat
  deriving DecidableEq

structure RollBackBorrowIdPid where
  borrowIdList : List String := []
  pidList : List BorrowIdInfo := []
  deriving DecidableEq

/-- The borrows to be freed, and the processes of each. -/
structure RollBackForOutEntry where
  validBorrowIdSet : OrderedSet String
  curBorrowIdsPidsMap : OrderedMap String (OrderedSet BorrowIdInfo)

/-- What the rest of the system answers while a borrow is dealt with. -/
structure RollbackEnv where
  collectBorrowRecordsAll : String → Option (List BorrowRecord)
  smapQueryProcessConfig : String → Int → Option (List ProcessPayload)
  /-- `MemFreeWithOps`, by whether it is to migrate back first: whether the borrow is freed. -/
  memFreeWithOps : String → Bool → Bool

/-! ### The borrows of a rollback -/

def emplaceAll {α : Type*} [DecidableEq α] (s : OrderedSet α) (l : List α) : OrderedSet α :=
  l.foldl OrderedSet.insert s

/-- Every borrow of the entry gets all its processes. -/
def borrowIdsPidsMap (inEntry : RollBackBorrowIdPid) :
    OrderedMap String (OrderedSet BorrowIdInfo) :=
  inEntry.borrowIdList.foldl (fun m borrowId =>
    m.put borrowId (emplaceAll (m.getD borrowId .empty) inEntry.pidList)) .empty

/-- A borrow with a process is valid. -/
def addBorrow (inEntry : RollBackBorrowIdPid) (entry : RollBackForOutEntry) (borrowId : String) :
    RollBackForOutEntry :=
  let pids := (borrowIdsPidsMap inEntry).getD borrowId .empty
  if pids.toList = [] then entry
  else ⟨entry.validBorrowIdSet.insert borrowId, entry.curBorrowIdsPidsMap.put borrowId pids⟩

/-- **The borrows that are to be freed**, unless migrating back process by process fails. -/
def memBorrowRollbackImpl (rmrsBorrowRollBack : Bool) (borrowIds : List String)
    (inEntry : RollBackBorrowIdPid) : Option RollBackForOutEntry :=
  if inEntry.borrowIdList = [] ∨ inEntry.pidList = [] then none
  else if rmrsBorrowRollBack then
    some (borrowIds.foldl (addBorrow inEntry) ⟨.empty, .empty⟩)
  else none

/-! ### The way back -/

section Rollback

variable (env : RollbackEnv)

/-- The NUMA node on which the memory of a borrow is, or -1. -/
def remoteNumaOf (borrowRecords : List BorrowRecord) (borrowId : String) : Int :=
  ((borrowRecords.find? fun record => record.name = borrowId).map (·.borrowRemoteNuma)).getD (-1)

/-- A known process of the borrow is managed with a size. -/
def hasManagedSize (pidInfos : List BorrowIdInfo) (processPayloadList : List ProcessPayload) :
    Bool :=
  pidInfos.any fun pidInfo => decide (0 < pidInfo.pid) && processPayloadList.any fun payload =>
    decide (payload.pid = pidInfo.pid) && decide (0 < payload.memSize)

/-- **Whether smap is to migrate back first.** -/
def needSmapMigrateBack (borrowId : String) (pidInfos : OrderedSet BorrowIdInfo) : Bool :=
  if pidInfos.toList = [] then true
  else
    match env.collectBorrowRecordsAll borrowId with
    | none => true
    | some borrowRecords =>
      if remoteNumaOf borrowRecords borrowId < 0 then true
      else
        match env.smapQueryProcessConfig borrowId (remoteNumaOf borrowRecords borrowId) with
        | none => true
        | some processPayloadList =>
          if hasManagedSize pidInfos.toList processPayloadList then true
          else if ∃ pidInfo ∈ pidInfos.toList, pidInfo.pid ≤ 0 then processPayloadList ≠ []
          else false

/-! ### Freeing -/

/-- A borrow that has been dealt with. -/
structure FreeCall where
  borrowId : String
  smapBack : Bool
  freed : Bool
  deriving DecidableEq

structure FreeState where
  curBorrowIdsPidsMap : OrderedMap String (OrderedSet BorrowIdInfo)
  notExistFailed : Bool := true
  calls : List FreeCall := []

/-- How a borrow is freed, and whether it is. -/
def freeCall (curBorrowIdsPidsMap : OrderedMap String (OrderedSet BorrowIdInfo))
    (borrowId : String) : FreeCall :=
  let needSmapBack := match curBorrowIdsPidsMap.find borrowId with
    | some pidInfos => needSmapMigrateBack env borrowId pidInfos
    | none => true
  ⟨borrowId, needSmapBack, env.memFreeWithOps borrowId needSmapBack⟩

def freeStep (s : FreeState) (borrowId : String) : FreeState :=
  let call := freeCall env s.curBorrowIdsPidsMap borrowId
  if call.freed then
    { s with
      curBorrowIdsPidsMap := s.curBorrowIdsPidsMap.erase borrowId
      calls := s.calls ++ [call] }
  else { s with notExistFailed := false, calls := s.calls ++ [call] }

/-- The entry made of what is left. -/
def outEntryOf (curBorrowIdsPidsMap : OrderedMap String (OrderedSet BorrowIdInfo)) :
    RollBackBorrowIdPid where
  borrowIdList := curBorrowIdsPidsMap.keys
  pidList := curBorrowIdsPidsMap.toList.flatMap fun entry => entry.2.toList

/-- The loop over the borrows. -/
def freeAll (entry : RollBackForOutEntry) : FreeState :=
  entry.validBorrowIdSet.toList.foldl (freeStep env) ⟨entry.curBorrowIdsPidsMap, true, []⟩

/-- **The borrows are freed, and what is left is put into the entry.** The caller passes a fresh
entry. -/
def freeMemAndPersistent (entry : RollBackForOutEntry) : Bool × RollBackBorrowIdPid :=
  let s := freeAll env entry
  if s.curBorrowIdsPidsMap.toList.length = entry.validBorrowIdSet.toList.length then (false, {})
  else if s.curBorrowIdsPidsMap.toList = [] then
    -- the first borrow is put in without processes, so that its record is deleted
    (s.notExistFailed, outEntryOf ((entry.validBorrowIdSet.toList.head?.map fun borrowId =>
      s.curBorrowIdsPidsMap.put borrowId .empty).getD s.curBorrowIdsPidsMap))
  else (s.notExistFailed, outEntryOf s.curBorrowIdsPidsMap)

end Rollback

/-! ### What a rollback promises -/

/-- The quota of a process is a part of its memory. -/
def ProcessPayload.RatioQuota (payload : ProcessPayload) : Prop :=
  payload.migrateMode = .MIG_RATIO_MODE ∧ 0 < payload.ratio

/-- Something of the process may be on the NUMA node. -/
def ProcessPayload.HasQuota (payload : ProcessPayload) : Prop :=
  payload.RatioQuota ∨ payload.migrateMode = .MIG_MEMSIZE_MODE ∧ 0 < payload.memSize

/-- Both queries answer, and the ledger has a NUMA node for the borrow: what smap manages there. -/
def Managed (env : RollbackEnv) (borrowId : String) (processPayloadList : List ProcessPayload) :
    Prop :=
  ∃ borrowRecords record, env.collectBorrowRecordsAll borrowId = some borrowRecords ∧
    (borrowRecords.find? fun record => record.name = borrowId) = some record ∧
    0 ≤ record.borrowRemoteNuma ∧
    env.smapQueryProcessConfig borrowId record.borrowRemoteNuma = some processPayloadList

/-- A process that is not known is among them. -/
def HasPlaceholder (pidInfos : OrderedSet BorrowIdInfo) : Prop :=
  ∃ pidInfo ∈ pidInfos.toList, pidInfo.pid ≤ 0

/-- Nothing of the borrow is on its NUMA node, as far as can be known. -/
def NothingThere (pidInfos : OrderedSet BorrowIdInfo) (processPayloadList : List ProcessPayload) :
    Prop :=
  (∀ payload ∈ processPayloadList, payload.HasQuota →
      ∀ pidInfo ∈ pidInfos.toList, pidInfo.pid ≠ payload.pid) ∧
    (HasPlaceholder pidInfos → processPayloadList = [])

/-- **What a rollback promises**: each borrow is dealt with once, is freed without migrating back
only if nothing of it is on its NUMA node, and is kept with its processes if it could not be
freed. -/
structure FailClosed (env : RollbackEnv) (entry : RollBackForOutEntry) : Prop where
  asked : (freeAll env entry).calls.map (·.borrowId) = entry.validBorrowIdSet.toList
  direct : ∀ call ∈ (freeAll env entry).calls, call.smapBack = false →
    ∃ pidInfos processPayloadList, entry.curBorrowIdsPidsMap.find call.borrowId = some pidInfos ∧
      Managed env call.borrowId processPayloadList ∧ NothingThere pidInfos processPayloadList
  kept : (∃ call ∈ (freeAll env entry).calls, call.freed = true) →
    (∃ call ∈ (freeAll env entry).calls, call.freed = false) →
    (∀ borrowId, borrowId ∈ (freeMemAndPersistent env entry).2.borrowIdList ↔
        ∃ call ∈ (freeAll env entry).calls, call.borrowId = borrowId ∧ call.freed = false) ∧
      (freeMemAndPersistent env entry).2.borrowIdList.Nodup ∧
      (freeMemAndPersistent env entry).2.pidList =
        (freeMemAndPersistent env entry).2.borrowIdList.flatMap fun borrowId =>
          ((entry.curBorrowIdsPidsMap.find borrowId).map (·.toList)).getD []
  result : (freeMemAndPersistent env entry).1 = true ↔
    ∀ call ∈ (freeAll env entry).calls, call.freed = true

/-- **What the way back depends on**: where a process of a borrow is managed by ratio, a process
that is not known or one that is managed by size makes smap migrate back. -/
def RatiosSeen (env : RollbackEnv) (entry : RollBackForOutEntry) : Prop :=
  ∀ borrowId ∈ entry.validBorrowIdSet.toList, ∀ pidInfos processPayloadList,
    entry.curBorrowIdsPidsMap.find borrowId = some pidInfos →
    Managed env borrowId processPayloadList →
    (∃ payload ∈ processPayloadList, payload.RatioQuota ∧
      ∃ pidInfo ∈ pidInfos.toList, pidInfo.pid = payload.pid) →
    HasPlaceholder pidInfos ∨ ∃ payload ∈ processPayloadList, 0 < payload.memSize ∧
      ∃ pidInfo ∈ pidInfos.toList, pidInfo.pid = payload.pid

/-! ### The way back of one borrow -/

section Main

variable {env : RollbackEnv} {entry : RollBackForOutEntry} {borrowId : String}
  {pidInfos : OrderedSet BorrowIdInfo} {processPayloadList : List ProcessPayload}

theorem hasManagedSize_iff {pidInfos : List BorrowIdInfo} :
    hasManagedSize pidInfos processPayloadList = true ↔
      ∃ pidInfo ∈ pidInfos, 0 < pidInfo.pid ∧
        ∃ payload ∈ processPayloadList, payload.pid = pidInfo.pid ∧ 0 < payload.memSize := by
  simp [hasManagedSize]

theorem remoteNumaOf_nonneg {borrowRecords : List BorrowRecord}
    (h : ¬ remoteNumaOf borrowRecords borrowId < 0) :
    ∃ record, (borrowRecords.find? fun record => record.name = borrowId) = some record ∧
      remoteNumaOf borrowRecords borrowId = record.borrowRemoteNuma := by
  cases hfind : borrowRecords.find? fun record => record.name = borrowId with
  | none =>
    rw [remoteNumaOf, hfind] at h
    exact absurd (by decide : (-1 : Int) < 0) h
  | some record =>
    refine ⟨record, rfl, ?_⟩
    rw [remoteNumaOf, hfind]
    rfl

/-- When a borrow is freed without migrating back: both queries answer, no known process of it is
managed with a size, and where one is not known nothing is managed at all. -/
theorem needSmapMigrateBack_eq_false_iff :
    needSmapMigrateBack env borrowId pidInfos = false ↔ pidInfos.toList ≠ [] ∧
      ∃ processPayloadList, Managed env borrowId processPayloadList ∧
        hasManagedSize pidInfos.toList processPayloadList = false ∧
          (HasPlaceholder pidInfos → processPayloadList = []) := by
  rw [needSmapMigrateBack]
  constructor
  · intro h
    by_cases hempty : pidInfos.toList = []
    · rw [if_pos hempty] at h
      cases h
    rw [if_neg hempty] at h
    cases hrecords : env.collectBorrowRecordsAll borrowId with
    | none =>
      rw [hrecords] at h
      cases h
    | some borrowRecords =>
      simp only [hrecords] at h
      by_cases hneg : remoteNumaOf borrowRecords borrowId < 0
      · rw [if_pos hneg] at h
        cases h
      rw [if_neg hneg] at h
      obtain ⟨record, hfind, hremote⟩ := remoteNumaOf_nonneg hneg
      rw [hremote] at h hneg
      cases hpayloads : env.smapQueryProcessConfig borrowId record.borrowRemoteNuma with
      | none =>
        rw [hpayloads] at h
        cases h
      | some processPayloadList =>
        simp only [hpayloads] at h
        refine ⟨hempty, processPayloadList,
          ⟨borrowRecords, record, hrecords, hfind, Int.not_lt.1 hneg, hpayloads⟩, ?_⟩
        by_cases hsize : hasManagedSize pidInfos.toList processPayloadList = true
        · rw [if_pos hsize] at h
          cases h
        rw [if_neg hsize] at h
        refine ⟨Bool.eq_false_iff.2 hsize, fun hplaceholder => ?_⟩
        rw [HasPlaceholder] at hplaceholder
        rw [if_pos hplaceholder] at h
        simpa using h
  · rintro ⟨hempty, processPayloadList, ⟨borrowRecords, record, hrecords, hfind, hnonneg,
      hpayloads⟩, hsize, hplaceholder⟩
    have hremote : remoteNumaOf borrowRecords borrowId = record.borrowRemoteNuma := by
      rw [remoteNumaOf, hfind]
      rfl
    rw [if_neg hempty, hrecords]
    simp only [hremote]
    rw [if_neg (Int.not_lt.2 hnonneg), hpayloads]
    simp only [hsize, Bool.false_eq_true, if_false]
    split
    next h =>
      rw [hplaceholder h]
      rfl
    next => rfl

/-- What smap manages is asked once. -/
theorem Managed.unique {processPayloadList' : List ProcessPayload}
    (h : Managed env borrowId processPayloadList)
    (h' : Managed env borrowId processPayloadList') :
    processPayloadList = processPayloadList' := by
  obtain ⟨borrowRecords, record, hrecords, hfind, -, hpayloads⟩ := h
  obtain ⟨borrowRecords', record', hrecords', hfind', -, hpayloads'⟩ := h'
  obtain rfl := Option.some.inj (hrecords.symm.trans hrecords')
  obtain rfl := Option.some.inj (hfind.symm.trans hfind')
  exact Option.some.inj (hpayloads.symm.trans hpayloads')

/-! ### The loop -/

theorem freeStep_of_freed {s : FreeState}
    (h : (freeCall env s.curBorrowIdsPidsMap borrowId).freed = true) :
    freeStep env s borrowId = { s with
      curBorrowIdsPidsMap := s.curBorrowIdsPidsMap.erase borrowId
      calls := s.calls ++ [freeCall env s.curBorrowIdsPidsMap borrowId] } := by
  rw [freeStep]
  simp only [h, if_true]

theorem freeStep_of_kept {s : FreeState}
    (h : (freeCall env s.curBorrowIdsPidsMap borrowId).freed = false) :
    freeStep env s borrowId = { s with
      notExistFailed := false
      calls := s.calls ++ [freeCall env s.curBorrowIdsPidsMap borrowId] } := by
  rw [freeStep]
  simp only [h, Bool.false_eq_true, if_false]

/-- A borrow is dealt with as it would be first: those before it only take themselves out. -/
theorem freeCall_erase_of_ne {m : OrderedMap String (OrderedSet BorrowIdInfo)}
    {borrowId' : String} (h : borrowId' ≠ borrowId) :
    freeCall env (m.erase borrowId) borrowId' = freeCall env m borrowId' := by
  rw [freeCall, OrderedMap.find_erase_of_ne h]
  rfl

theorem freeCall_freeStep_of_ne {s : FreeState} {borrowId' : String} (h : borrowId' ≠ borrowId) :
    freeCall env (freeStep env s borrowId).curBorrowIdsPidsMap borrowId' =
      freeCall env s.curBorrowIdsPidsMap borrowId' := by
  cases hfreed : (freeCall env s.curBorrowIdsPidsMap borrowId).freed with
  | true =>
    rw [freeStep_of_freed hfreed]
    exact freeCall_erase_of_ne h
  | false => rw [freeStep_of_kept hfreed]

/-- What the loop leaves: the borrows that it has not freed. -/
theorem toList_foldl_freeStep {borrowIds : List String} (hnodup : borrowIds.Nodup) :
    ∀ s : FreeState, (borrowIds.foldl (freeStep env) s).curBorrowIdsPidsMap.toList =
      s.curBorrowIdsPidsMap.toList.filter fun e =>
        ¬ (e.1 ∈ borrowIds ∧ (freeCall env s.curBorrowIdsPidsMap e.1).freed = true) := by
  induction borrowIds with
  | nil =>
    intro s
    refine (List.filter_eq_self.2 fun e _ => ?_).symm
    rw [decide_eq_true_eq]
    exact fun h => List.not_mem_nil h.1
  | cons borrowId borrowIds ih =>
    intro s
    obtain ⟨hhead, hnodup⟩ := List.nodup_cons.1 hnodup
    rw [List.foldl_cons, ih hnodup]
    have hmember : ∀ e : String × OrderedSet BorrowIdInfo, e.1 ≠ borrowId →
        (e.1 ∈ borrowIds ∧ (freeCall env (freeStep env s borrowId).curBorrowIdsPidsMap
          e.1).freed = true ↔
        e.1 ∈ borrowId :: borrowIds ∧ (freeCall env s.curBorrowIdsPidsMap e.1).freed = true) := by
      intro e hne
      rw [freeCall_freeStep_of_ne hne, List.mem_cons, or_iff_right hne]
    cases hfreed : (freeCall env s.curBorrowIdsPidsMap borrowId).freed with
    | true =>
      have hlist : (freeStep env s borrowId).curBorrowIdsPidsMap.toList =
          s.curBorrowIdsPidsMap.toList.filter fun e => e.1 ≠ borrowId := by
        rw [freeStep_of_freed hfreed]
        rfl
      rw [hlist, List.filter_filter]
      refine List.filter_congr fun e _ => ?_
      by_cases he : e.1 = borrowId
      · rw [he]
        simp [hfreed]
      · simp only [hmember e he, he, ne_eq, not_false_eq_true, decide_true, Bool.and_true]
    | false =>
      have hlist : (freeStep env s borrowId).curBorrowIdsPidsMap.toList =
          s.curBorrowIdsPidsMap.toList := by
        rw [freeStep_of_kept hfreed]
      rw [hlist]
      refine List.filter_congr fun e _ => ?_
      by_cases he : e.1 = borrowId
      · rw [he]
        simp [hfreed, hhead]
      · simp only [hmember e he]

/-- The calls that the loop makes, and whether all of them free something. -/
theorem calls_foldl_freeStep {borrowIds : List String} (hnodup : borrowIds.Nodup) :
    ∀ s : FreeState, (borrowIds.foldl (freeStep env) s).calls =
        s.calls ++ borrowIds.map (freeCall env s.curBorrowIdsPidsMap) ∧
      ((borrowIds.foldl (freeStep env) s).notExistFailed = true ↔ s.notExistFailed = true ∧
        ∀ borrowId ∈ borrowIds, (freeCall env s.curBorrowIdsPidsMap borrowId).freed = true) := by
  induction borrowIds with
  | nil =>
    intro s
    exact ⟨(List.append_nil _).symm, by simp⟩
  | cons borrowId borrowIds ih =>
    intro s
    obtain ⟨hhead, hnodup⟩ := List.nodup_cons.1 hnodup
    obtain ⟨hcalls, hall⟩ := ih hnodup (freeStep env s borrowId)
    have hlater : ∀ b ∈ borrowIds, freeCall env (freeStep env s borrowId).curBorrowIdsPidsMap b =
        freeCall env s.curBorrowIdsPidsMap b :=
      fun b hb => freeCall_freeStep_of_ne fun heq => hhead (heq ▸ hb)
    have hstep : (freeStep env s borrowId).calls =
        s.calls ++ [freeCall env s.curBorrowIdsPidsMap borrowId] := by
      rw [freeStep]
      split <;> rfl
    have hflag : (freeStep env s borrowId).notExistFailed = true ↔ s.notExistFailed = true ∧
        (freeCall env s.curBorrowIdsPidsMap borrowId).freed = true := by
      cases hfreed : (freeCall env s.curBorrowIdsPidsMap borrowId).freed with
      | true => simp [freeStep_of_freed hfreed]
      | false => simp [freeStep_of_kept hfreed]
    constructor
    · rw [List.foldl_cons, hcalls, List.map_congr_left hlater, hstep, List.append_assoc,
        List.map_cons, List.singleton_append]
    · rw [List.foldl_cons, hall, hflag, List.forall_mem_cons, and_assoc]
      refine and_congr_right fun _ => and_congr_right fun _ => ?_
      exact forall₂_congr fun b hb => by rw [hlater b hb]

/-! ### The whole call -/

theorem calls_freeAll : (freeAll env entry).calls =
    entry.validBorrowIdSet.toList.map (freeCall env entry.curBorrowIdsPidsMap) :=
  (calls_foldl_freeStep entry.validBorrowIdSet.nodup _).1

theorem forall_calls {P : FreeCall → Prop} : (∀ call ∈ (freeAll env entry).calls, P call) ↔
    ∀ borrowId ∈ entry.validBorrowIdSet.toList,
      P (freeCall env entry.curBorrowIdsPidsMap borrowId) := by
  rw [calls_freeAll, List.forall_mem_map]

/-- The path of a borrow is chosen from its own processes. -/
theorem smapBack_freeCall_eq_false {m : OrderedMap String (OrderedSet BorrowIdInfo)} :
    (freeCall env m borrowId).smapBack = false ↔
      ∃ pidInfos, m.find borrowId = some pidInfos ∧
        needSmapMigrateBack env borrowId pidInfos = false := by
  rw [freeCall]
  cases m.find borrowId with
  | none => simp
  | some pidInfos => simp

/-- Where smap is seen not to migrate back, nothing is there exactly when no process is managed by
ratio. -/
theorem nothingThere_iff (hsize : hasManagedSize pidInfos.toList processPayloadList = false)
    (hplaceholder : HasPlaceholder pidInfos → processPayloadList = []) :
    NothingThere pidInfos processPayloadList ↔
      ¬ ∃ payload ∈ processPayloadList, payload.RatioQuota ∧
        ∃ pidInfo ∈ pidInfos.toList, pidInfo.pid = payload.pid := by
  constructor
  · rintro ⟨hnone, -⟩ ⟨payload, hpayload, hratio, pidInfo, hpidInfo, hpid⟩
    exact hnone payload hpayload (Or.inl hratio) pidInfo hpidInfo hpid
  · intro hnone
    refine ⟨fun payload hpayload hquota pidInfo hpidInfo hpid => ?_, hplaceholder⟩
    rcases hquota with hratio | ⟨-, hmem⟩
    · exact hnone ⟨payload, hpayload, hratio, pidInfo, hpidInfo, hpid⟩
    · by_cases hpos : 0 < pidInfo.pid
      · have hmanaged := hasManagedSize_iff.2
          ⟨pidInfo, hpidInfo, hpos, payload, hpayload, hpid.symm, hmem⟩
        rw [hsize] at hmanaged
        cases hmanaged
      · rw [hplaceholder ⟨pidInfo, hpidInfo, Int.not_lt.1 hpos⟩] at hpayload
        cases hpayload

section Keys

variable (hkeys : ∀ borrowId, borrowId ∈ entry.curBorrowIdsPidsMap.keys ↔
  borrowId ∈ entry.validBorrowIdSet.toList)

include hkeys

theorem toList_freeAll : (freeAll env entry).curBorrowIdsPidsMap.toList =
    entry.curBorrowIdsPidsMap.toList.filter fun e =>
      (freeCall env entry.curBorrowIdsPidsMap e.1).freed = false := by
  rw [freeAll, toList_foldl_freeStep entry.validBorrowIdSet.nodup]
  refine List.filter_congr fun e he => ?_
  have hvalid := (hkeys e.1).1 (List.mem_map_of_mem he)
  simp [hvalid]

theorem length_eq : entry.curBorrowIdsPidsMap.toList.length =
    entry.validBorrowIdSet.toList.length := by
  have hperm : entry.curBorrowIdsPidsMap.keys.Perm entry.validBorrowIdSet.toList :=
    (List.perm_ext_iff_of_nodup entry.curBorrowIdsPidsMap.nodup entry.validBorrowIdSet.nodup).2
      hkeys
  rw [← hperm.length_eq, OrderedMap.keys, List.length_map]

/-- The keys that are left are those of the borrows that could not be freed. -/
theorem mem_keys_freeAll : borrowId ∈ (freeAll env entry).curBorrowIdsPidsMap.keys ↔
    borrowId ∈ entry.validBorrowIdSet.toList ∧
      (freeCall env entry.curBorrowIdsPidsMap borrowId).freed = false := by
  rw [← hkeys, OrderedMap.keys, toList_freeAll hkeys, OrderedMap.keys, List.mem_map, List.mem_map]
  constructor
  · rintro ⟨e, he, rfl⟩
    obtain ⟨hmem, hfreed⟩ := List.mem_filter.1 he
    exact ⟨⟨e, hmem, rfl⟩, of_decide_eq_true hfreed⟩
  · rintro ⟨⟨e, hmem, rfl⟩, hfreed⟩
    exact ⟨e, List.mem_filter.2 ⟨hmem, decide_eq_true hfreed⟩, rfl⟩

/-- Everything is left exactly when nothing has been freed. -/
theorem length_freeAll_eq_iff : (freeAll env entry).curBorrowIdsPidsMap.toList.length =
      entry.validBorrowIdSet.toList.length ↔
    ∀ call ∈ (freeAll env entry).calls, call.freed = false := by
  rw [← length_eq hkeys, toList_freeAll hkeys, List.length_filter_eq_length_iff, forall_calls]
  constructor
  · intro h borrowId hborrowId
    obtain ⟨e, he, rfl⟩ := List.mem_map.1 ((hkeys borrowId).2 hborrowId)
    exact of_decide_eq_true (h e he)
  · intro h e he
    exact decide_eq_true (h e.1 ((hkeys e.1).1 (List.mem_map_of_mem he)))

/-- A success is reported exactly when everything has been freed. -/
theorem fst_freeMemAndPersistent (hne : entry.validBorrowIdSet.toList ≠ []) :
    (freeMemAndPersistent env entry).1 = true ↔
      ∀ call ∈ (freeAll env entry).calls, call.freed = true := by
  have hflag : (freeAll env entry).notExistFailed = true ↔
      ∀ call ∈ (freeAll env entry).calls, call.freed = true := by
    rw [forall_calls]
    exact ((calls_foldl_freeStep entry.validBorrowIdSet.nodup _).2).trans (and_iff_right rfl)
  rw [freeMemAndPersistent]
  by_cases hlength : (freeAll env entry).curBorrowIdsPidsMap.toList.length =
      entry.validBorrowIdSet.toList.length
  · simp only [hlength, if_true, Bool.false_eq_true, false_iff]
    intro hall
    obtain ⟨borrowId, hborrowId⟩ := List.exists_mem_of_ne_nil _ hne
    have hnone := forall_calls.1 ((length_freeAll_eq_iff hkeys).1 hlength) borrowId hborrowId
    rw [forall_calls.1 hall borrowId hborrowId] at hnone
    cases hnone
  · simp only [hlength, if_false]
    split
    · exact hflag
    · exact hflag

/-- **What could not be freed is kept.** -/
theorem snd_freeMemAndPersistent
    (hfreed : ∃ call ∈ (freeAll env entry).calls, call.freed = true)
    (hkept : ∃ call ∈ (freeAll env entry).calls, call.freed = false) :
    (freeMemAndPersistent env entry).2 = outEntryOf (freeAll env entry).curBorrowIdsPidsMap := by
  have hlength : (freeAll env entry).curBorrowIdsPidsMap.toList.length ≠
      entry.validBorrowIdSet.toList.length := by
    intro h
    obtain ⟨call, hcall, htrue⟩ := hfreed
    rw [(length_freeAll_eq_iff hkeys).1 h call hcall] at htrue
    cases htrue
  have hnil : (freeAll env entry).curBorrowIdsPidsMap.toList ≠ [] := by
    intro h
    obtain ⟨call, hcall, hfalse⟩ := hkept
    rw [calls_freeAll] at hcall
    obtain ⟨borrowId, hborrowId, rfl⟩ := List.mem_map.1 hcall
    have hmem := (mem_keys_freeAll hkeys).2 ⟨hborrowId, hfalse⟩
    rw [OrderedMap.keys, h] at hmem
    cases hmem
  rw [freeMemAndPersistent]
  simp only [hlength, hnil, if_false]

/-- The entry of what is left has the processes of its borrows. -/
theorem pidList_outEntryOf : (outEntryOf (freeAll env entry).curBorrowIdsPidsMap).pidList =
    (outEntryOf (freeAll env entry).curBorrowIdsPidsMap).borrowIdList.flatMap fun borrowId =>
      ((entry.curBorrowIdsPidsMap.find borrowId).map (·.toList)).getD [] := by
  rw [outEntryOf, OrderedMap.keys, List.flatMap_map]
  refine List.flatMap_congr fun e he => ?_
  rw [toList_freeAll hkeys] at he
  rw [OrderedMap.find_of_mem (v := e.2) (List.mem_filter.1 he).1]
  rfl

/-- **When a rollback keeps what it promises**: exactly when every process of a borrow that is
managed by ratio goes with one that makes smap migrate back. -/
theorem failClosed_iff (hne : entry.validBorrowIdSet.toList ≠ []) :
    FailClosed env entry ↔ RatiosSeen env entry := by
  constructor
  · intro h borrowId hborrowId pidInfos processPayloadList hfind hmanaged hratio
    by_contra hunseen
    obtain ⟨hplaceholder, hsized⟩ := not_or.1 hunseen
    have hsize : hasManagedSize pidInfos.toList processPayloadList = false := by
      rw [Bool.eq_false_iff]
      intro hsize
      obtain ⟨pidInfo, hpidInfo, -, payload, hpayload, hpid, hmem⟩ := hasManagedSize_iff.1 hsize
      exact hsized ⟨payload, hpayload, hmem, pidInfo, hpidInfo, hpid.symm⟩
    have hlisted : pidInfos.toList ≠ [] := by
      obtain ⟨_, _, _, pidInfo, hpidInfo, _⟩ := hratio
      exact List.ne_nil_of_mem hpidInfo
    have hneed : needSmapMigrateBack env borrowId pidInfos = false :=
      needSmapMigrateBack_eq_false_iff.2 ⟨hlisted, processPayloadList, hmanaged, hsize,
        fun hp => absurd hp hplaceholder⟩
    obtain ⟨pidInfos', processPayloadList', hfind', hmanaged', hthere⟩ :=
      forall_calls.1 h.direct borrowId hborrowId
        (smapBack_freeCall_eq_false.2 ⟨pidInfos, hfind, hneed⟩)
    obtain rfl := Option.some.inj (hfind.symm.trans hfind')
    obtain rfl := hmanaged.unique hmanaged'
    exact (nothingThere_iff hsize fun hp => absurd hp hplaceholder).1 hthere hratio
  · intro h
    constructor
    · rw [calls_freeAll, List.map_map]
      exact List.map_id _
    · refine forall_calls.2 fun borrowId hborrowId hsmapBack => ?_
      obtain ⟨pidInfos, hfind, hneed⟩ := smapBack_freeCall_eq_false.1 hsmapBack
      obtain ⟨-, processPayloadList, hmanaged, hsize, hplaceholder⟩ :=
        needSmapMigrateBack_eq_false_iff.1 hneed
      refine ⟨pidInfos, processPayloadList, hfind, hmanaged,
        (nothingThere_iff hsize hplaceholder).2 fun hratio => ?_⟩
      rcases h borrowId hborrowId pidInfos processPayloadList hfind hmanaged hratio with
        hp | ⟨payload, hpayload, hmem, pidInfo, hpidInfo, hpid⟩
      · obtain ⟨payload, hpayload, -⟩ := hratio
        rw [hplaceholder hp] at hpayload
        cases hpayload
      · -- a known process with a size would have been seen, and no other is listed here
        by_cases hpos : 0 < pidInfo.pid
        · have hseen := hasManagedSize_iff.2
            ⟨pidInfo, hpidInfo, hpos, payload, hpayload, hpid.symm, hmem⟩
          rw [hsize] at hseen
          cases hseen
        · rw [hplaceholder ⟨pidInfo, hpidInfo, Int.not_lt.1 hpos⟩] at hpayload
          cases hpayload
    · intro hfreed hkept
      rw [snd_freeMemAndPersistent hkeys hfreed hkept]
      refine ⟨fun borrowId => ?_, (freeAll env entry).curBorrowIdsPidsMap.nodup,
        pidList_outEntryOf hkeys⟩
      refine (mem_keys_freeAll hkeys).trans ?_
      rw [calls_freeAll]
      constructor
      · rintro ⟨hborrowId, hfalse⟩
        exact ⟨_, List.mem_map_of_mem hborrowId, rfl, hfalse⟩
      · rintro ⟨call, hcall, rfl, hfalse⟩
        obtain ⟨borrowId, hborrowId, rfl⟩ := List.mem_map.1 hcall
        exact ⟨hborrowId, hfalse⟩
    · exact fst_freeMemAndPersistent hkeys hne

end Keys

/-- What is handed over to be freed has the processes of exactly these borrows. -/
theorem mem_keys_memBorrowRollbackImpl {rmrsBorrowRollBack : Bool} {borrowIds : List String}
    {inEntry : RollBackBorrowIdPid}
    (h : memBorrowRollbackImpl rmrsBorrowRollBack borrowIds inEntry = some entry) (b : String) :
    b ∈ entry.curBorrowIdsPidsMap.keys ↔ b ∈ entry.validBorrowIdSet.toList := by
  have hfold : ∀ (ids : List String) (e : RollBackForOutEntry),
      (b ∈ e.curBorrowIdsPidsMap.keys ↔ b ∈ e.validBorrowIdSet.toList) →
      (b ∈ (ids.foldl (addBorrow inEntry) e).curBorrowIdsPidsMap.keys ↔
        b ∈ (ids.foldl (addBorrow inEntry) e).validBorrowIdSet.toList) := by
    intro ids
    induction ids with
    | nil => exact fun _ he => he
    | cons id ids ih =>
      intro e he
      refine ih _ ?_
      rw [addBorrow]
      split
      · exact he
      · rw [OrderedMap.mem_keys_put, OrderedSet.mem_insert]
        exact or_congr_right he
  rw [memBorrowRollbackImpl] at h
  by_cases hparam : inEntry.borrowIdList = [] ∨ inEntry.pidList = []
  · rw [if_pos hparam] at h
    cases h
  rw [if_neg hparam] at h
  by_cases hback : rmrsBorrowRollBack = true
  · rw [if_pos hback] at h
    cases h
    exact hfold borrowIds _ Iff.rfl
  · rw [if_neg hback] at h
    cases h

end Main

/-! ### A process that is managed by ratio -/

/-- The borrow `b` with the process 7. -/
def oneBorrow : RollBackForOutEntry where
  validBorrowIdSet := OrderedSet.empty.insert "b"
  curBorrowIdsPidsMap := OrderedMap.empty.put "b" (OrderedSet.empty.insert ⟨7, 0⟩)

/-- The memory of the borrow is on the NUMA node 4, where smap manages one process. -/
def manages (payload : ProcessPayload) : RollbackEnv where
  collectBorrowRecordsAll := fun _ => some [⟨"b", 4⟩]
  smapQueryProcessConfig := fun _ _ => some [payload]
  memFreeWithOps := fun _ _ => true

/-- A process that is managed by size is migrated back. -/
theorem failClosed_iff_bySize :
    FailClosed (manages ⟨7, 0, .MIG_MEMSIZE_MODE, 2048⟩) oneBorrow ↔
      RatiosSeen (manages ⟨7, 0, .MIG_MEMSIZE_MODE, 2048⟩) oneBorrow :=
  failClosed_iff (fun _ => Iff.rfl) (by decide)

/-- A process that is to keep 30 percent of its memory there loses it. -/
theorem not_failClosed_byRatio :
    ¬ FailClosed (manages ⟨7, 30, .MIG_RATIO_MODE, 0⟩) oneBorrow := by
  intro h
  obtain ⟨pidInfos, payloads, hfind, ⟨records, record, _, _, -, hpayloads⟩, hnone, -⟩ :=
    h.direct ⟨"b", false, true⟩ (by decide) rfl
  cases hfind
  cases hpayloads
  exact hnone _ List.mem_cons_self (Or.inl ⟨rfl, by decide⟩) ⟨7, 0⟩ (by decide) rfl

end Migrate

end UbsEngine
