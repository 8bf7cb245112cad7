import UbsEngine.FaultWire.Messages
import UbsEngine.Fault.Plan

/-!
# The store of the tasks, and what survives

How far the tasks have come is written to the storage as one record with the states of all faulty
nodes, and read when the process starts again. Messages and the store survive exactly within the
limits of their readers (`UbsEngine.FaultWire.survives_iff`). The writers have no limits: the task
of a container has the usages of all its processes, which may be more than the reader takes
(`UbsEngine.FaultWire.not_survives_container`).
-/

namespace UbsEngine

namespace FaultWire

open Packed Streamed

/-! ### The states of the tasks -/

/-- More states are taken for damage. -/
def MAX_FAULT_NODE_STATES : Nat := 1024

structure TaskPersistState where
  taskId : string
  borrowInNodeId : string
  phase : TaskPhase
  newBorrowId : string
  newRemoteNumaId : UInt16
  newBorrowSizeKB : UInt64
  oldBorrowIds : Vec string
  freedOldBorrowIds : StringSet
  pids : Vec Int32
  migrationSizeKB : UInt64
  deriving DecidableEq

structure TaskPersistState.Within (state : TaskPersistState) : Prop where
  taskId : state.taskId.size ≤ MAX_STRING_LEN
  borrowInNodeId : state.borrowInNodeId.size ≤ MAX_STRING_LEN
  newBorrowId : state.newBorrowId.size ≤ MAX_STRING_LEN
  oldBorrowIds : ∀ borrowId ∈ state.oldBorrowIds.1, borrowId.size ≤ MAX_STRING_LEN
  freedOldBorrowIds : ∀ borrowId ∈ state.freedOldBorrowIds.1, borrowId.size ≤ MAX_STRING_LEN

section States

variable (so : SetOrder)

def taskPersistStateSerialization (state : TaskPersistState) : List UInt8 :=
  write state.taskId ++ (write state.borrowInNodeId ++ (write state.phase ++
    (write state.newBorrowId ++ (write state.newRemoteNumaId ++ (write state.newBorrowSizeKB ++
      (write state.oldBorrowIds ++ (writeSet so state.freedOldBorrowIds ++ (write state.pids ++
        write state.migrationSizeKB))))))))

def taskPersistStateDeserialization : Reader MpError TaskPersistState := do
  let taskId ← read
  let borrowInNodeId ← read
  let phase ← read
  let newBorrowId ← read
  let newRemoteNumaId ← read
  let newBorrowSizeKB ← read
  let oldBorrowIds ← read
  let freedOldBorrowIds ← readSet
  let pids ← read
  let migrationSizeKB ← read
  pure {
    taskId, borrowInNodeId, phase, newBorrowId, newRemoteNumaId, newBorrowSizeKB, oldBorrowIds,
    freedOldBorrowIds, pids, migrationSizeKB }

theorem exact_taskPersistState (state : TaskPersistState) :
    Exact taskPersistStateDeserialization (taskPersistStateSerialization so state) state
      state.Within := by
  refine Exact.congr (.bind (Streamed.exact state.taskId)
    (.bind (Streamed.exact state.borrowInNodeId) (.bind (Streamed.exact state.phase)
      (.bind (Streamed.exact state.newBorrowId) (.bind (Streamed.exact state.newRemoteNumaId)
        (.bind (Streamed.exact state.newBorrowSizeKB) (.bind (Streamed.exact state.oldBorrowIds)
          (.bind (exact_readSet so state.freedOldBorrowIds) (.bind (Streamed.exact state.pids)
            (.map _ (Streamed.exact state.migrationSizeKB))))))))))) ?_
  simp only [within_string, within_uint32, within_uint16, within_uint64, within_vec_int32, true_and,
    and_true]
  constructor
  · rintro ⟨hid, hnode, hnew, hold, hfreed⟩
    exact ⟨hid, hnode, hnew, hold, hfreed⟩
  · intro h
    exact ⟨h.taskId, h.borrowInNodeId, h.newBorrowId, h.oldBorrowIds, h.freedOldBorrowIds⟩

structure FaultProcessState where
  faultNodeId : string
  processStartTime : UInt64
  taskStates : Vec TaskPersistState
  deriving DecidableEq

structure FaultProcessState.Within (state : FaultProcessState) : Prop where
  faultNodeId : state.faultNodeId.size ≤ MAX_STRING_LEN
  size : state.taskStates.size ≤ MAX_TASK_STATES_PER_NODE
  taskStates : ∀ taskState ∈ state.taskStates.1, taskState.Within

def faultProcessStateSerialization (state : FaultProcessState) : List UInt8 :=
  write state.faultNodeId ++ (write state.processStartTime ++
    writeVec (taskPersistStateSerialization so) state.taskStates)

def faultProcessStateDeserialization : Reader MpError FaultProcessState := do
  let faultNodeId ← read
  let processStartTime ← read
  let taskStates ← readVecUpTo MAX_TASK_STATES_PER_NODE taskPersistStateDeserialization
  pure { faultNodeId, processStartTime, taskStates }

theorem exact_faultProcessState (state : FaultProcessState) :
    Exact faultProcessStateDeserialization (faultProcessStateSerialization so state) state
      state.Within := by
  refine Exact.congr (.bind (Streamed.exact state.faultNodeId)
    (.bind (Streamed.exact state.processStartTime) (.map _ (exact_readVecUpTo _ state.taskStates
      fun taskState _ => exact_taskPersistState so taskState)))) ?_
  exact ⟨fun ⟨hnode, _, hsize, hstates⟩ => ⟨hnode, hsize, hstates⟩,
    fun h => ⟨h.faultNodeId, trivial, h.size, h.taskStates⟩⟩

end States

/-! ### The store -/

/-- The states of the faulty nodes. A state is made under the node it is about, and nothing that is
done to the store changes that. -/
structure PidFaultStateStore where
  stateMap : Map string FaultProcessState
  size_lt : stateMap.entries.length < 2 ^ 64
  keyed : ∀ faultNodeId state, stateMap.lookup faultNodeId = some state →
    state.faultNodeId = faultNodeId

section Store

variable (o : Map.Iteration string FaultProcessState) (so : SetOrder)

/-- The states, in the order in which they are written. -/
def PidFaultStateStore.states (store : PidFaultStateStore) : List FaultProcessState :=
  (o.run store.stateMap).map Prod.snd

/-- What is put into the storage. -/
def persistToStorage (store : PidFaultStateStore) : List UInt8 :=
  wordBytes (UInt64.ofNat (store.states o).length) ++
    (store.states o).flatMap (faultProcessStateSerialization so)

def readStates : Reader MpError (List FaultProcessState) := do
  let stateCount ← getWord UInt64 .MEM_POOLING_ERROR
  check (stateCount.toNat ≤ MAX_FAULT_NODE_STATES) .MEM_POOLING_ERROR
  timesList faultProcessStateDeserialization stateCount.toNat

/-- The store of a process that has just started. A state without a node is left out. -/
def loadFromStorage (buffer : List UInt8) : Except MpError (Map string FaultProcessState) :=
  (readStates.read buffer).map fun states => states.foldl
    (fun m state => if state.faultNodeId.empty then m else m.insert state.faultNodeId state) ∅

/-- The store is read back within the limits. -/
structure PidFaultStateStore.Within (store : PidFaultStateStore) : Prop where
  size : store.stateMap.entries.length ≤ MAX_FAULT_NODE_STATES
  states : ∀ faultNodeId state, store.stateMap.lookup faultNodeId = some state → state.Within
  named : ∀ faultNodeId state, store.stateMap.lookup faultNodeId = some state →
    faultNodeId.empty = false

variable {o so}

theorem length_states (store : PidFaultStateStore) :
    (store.states o).length = store.stateMap.entries.length := by
  rw [PidFaultStateStore.states, List.length_map, (o.perm _).length_eq, List.length_map]

theorem mem_states {store : PidFaultStateStore} {state : FaultProcessState} :
    state ∈ store.states o ↔ store.stateMap.lookup state.faultNodeId = some state := by
  constructor
  · intro h
    obtain ⟨e, he, rfl⟩ := List.mem_map.1 h
    have hlookup := o.mem_run.1 he
    rw [store.keyed e.1 e.2 hlookup]
    exact hlookup
  · intro h
    exact List.mem_map.2 ⟨(state.faultNodeId, state), o.mem_run.2 h, rfl⟩

theorem exact_readStates (store : PidFaultStateStore) :
    Exact readStates (persistToStorage o so store) (store.states o)
      (store.stateMap.entries.length ≤ MAX_FAULT_NODE_STATES ∧
        ∀ state ∈ store.states o, state.Within) := by
  have htoNat : (UInt64.ofNat (store.states o).length).toNat = (store.states o).length :=
    UInt64.toNat_ofNat_of_lt (by rw [length_states]; exact store.size_lt)
  have hentries := exact_timesList (store.states o) htoNat.symm
    fun state _ => exact_faultProcessState so state
  have hcheck := hentries.check (c := (UInt64.ofNat (store.states o).length).toNat ≤
    MAX_FAULT_NODE_STATES) MpError.MEM_POOLING_ERROR
  have hread := Exact.bind
    (q := fun stateCount => check (stateCount.toNat ≤ MAX_FAULT_NODE_STATES) .MEM_POOLING_ERROR >>=
      fun _ => timesList faultProcessStateDeserialization stateCount.toNat)
    (reads_getWord MpError.MEM_POOLING_ERROR (UInt64.ofNat (store.states o).length)).exact hcheck
  refine hread.congr ?_
  rw [htoNat, true_and, length_states]

/-- What is loaded, by its nodes. -/
theorem lookup_loaded (states : List FaultProcessState) (hnodup : (states.map (·.faultNodeId)).Nodup)
    (m : Map string FaultProcessState) (faultNodeId : string) :
    (states.foldl (fun m state => if state.faultNodeId.empty then m
      else m.insert state.faultNodeId state) m).lookup faultNodeId =
        (states.find? fun state => state.faultNodeId = faultNodeId ∧
          state.faultNodeId.empty = false).or (m.lookup faultNodeId) := by
  induction states generalizing m with
  | nil => rfl
  | cons state states ih =>
    obtain ⟨hfresh, hnodup⟩ := List.nodup_cons.1 hnodup
    rw [List.foldl_cons, ih hnodup, List.find?_cons]
    by_cases hempty : state.faultNodeId.empty = true
    · rw [if_pos hempty, decide_eq_false fun h => by rw [hempty] at h; exact nomatch h.2]
    · rw [if_neg hempty, Map.lookup_insert_ite]
      by_cases hkey : faultNodeId = state.faultNodeId
      · have hnone : (states.find? fun state => state.faultNodeId = faultNodeId ∧
            state.faultNodeId.empty = false) = none := by
          refine List.find?_eq_none.2 fun other hother hmatch => hfresh ?_
          rw [decide_eq_true_eq, hkey] at hmatch
          exact List.mem_map.2 ⟨other, hother, hmatch.1⟩
        rw [hnone, if_pos hkey, decide_eq_true ⟨hkey.symm, Bool.eq_false_iff.2 hempty⟩]
        rfl
      · rw [if_neg hkey, decide_eq_false fun h => hkey h.1.symm]

end Store

/-! ### What survives -/

/-- What is sent, and what is stored. -/
inductive FaultMessage where
  | queryRequest (req : FaultPidQueryRequest)
  | queryResponse (resp : FaultPidQueryResponse)
  | executeRequest (req : FaultPidExecuteRequest)
  | executeResponse (resp : FaultPidExecuteResponse)
  | store (store : PidFaultStateStore)

/-- It is read back as it was. -/
def Survives (o : Map.Iteration string FaultProcessState) (so : SetOrder) : FaultMessage → Prop
  | .queryRequest req => faultPidQueryRequestDeserialization.readAll .MEM_POOLING_ERROR
      (faultPidQueryRequestSerialization req) = .ok req
  | .queryResponse resp => faultPidQueryResponseDeserialization.readAll .MEM_POOLING_ERROR
      (faultPidQueryResponseSerialization resp) = .ok resp
  | .executeRequest req => faultPidExecuteRequestDeserialization.readAll .MEM_POOLING_ERROR
      (faultPidExecuteRequestSerialization req) = .ok req
  | .executeResponse resp => faultPidExecuteResponseDeserialization.readAll .MEM_POOLING_ERROR
      (faultPidExecuteResponseSerialization resp) = .ok resp
  | .store store => ∃ loaded, loadFromStorage (persistToStorage o so store) = .ok loaded ∧
      ∀ faultNodeId, loaded.lookup faultNodeId = store.stateMap.lookup faultNodeId

/-- It is within the limits of its reader. -/
def WithinLimits : FaultMessage → Prop
  | .queryRequest _ => True
  | .queryResponse resp => Limited MAX_PID_INFOS_PER_RESPONSE resp.pidMemDistribution
  | .executeRequest req => req.Within
  | .executeResponse resp => resp.Within
  | .store store => store.Within

/-- The store of a process that starts again. -/
theorem loadFromStorage_iff (o : Map.Iteration string FaultProcessState) (so : SetOrder)
    (store : PidFaultStateStore) : Survives o so (.store store) ↔ store.Within := by
  have hexact : Exact readStates (persistToStorage o so store) (store.states o) _ :=
    exact_readStates store
  have hnodup : ((store.states o).map (·.faultNodeId)).Nodup := by
    have hkeys : (store.states o).map (·.faultNodeId) = (o.run store.stateMap).map Prod.fst := by
      rw [PidFaultStateStore.states, List.map_map]
      exact List.map_congr_left fun e he => store.keyed e.1 e.2 (o.mem_run.1 he)
    rw [hkeys]
    exact o.nodup_run
  have hread : ∀ loaded, loadFromStorage (persistToStorage o so store) = .ok loaded →
      (store.stateMap.entries.length ≤ MAX_FAULT_NODE_STATES ∧
        ∀ state ∈ store.states o, state.Within) ∧ ∀ faultNodeId, loaded.lookup faultNodeId =
          (store.states o).find? fun state => state.faultNodeId = faultNodeId ∧
            state.faultNodeId.empty = false := by
    intro loaded hloaded
    have hlimit : store.stateMap.entries.length ≤ MAX_FAULT_NODE_STATES ∧
        ∀ state ∈ store.states o, state.Within := by
      by_contra hnot
      obtain ⟨e, he⟩ := hexact.refuses hnot []
      rw [List.append_nil] at he
      rw [loadFromStorage, Reader.read, he] at hloaded
      cases hloaded
    rw [loadFromStorage, (hexact.reads hlimit).read] at hloaded
    refine ⟨hlimit, fun faultNodeId => ?_⟩
    rw [← Except.ok.inj hloaded, lookup_loaded _ hnodup]
    exact Option.or_none
  constructor
  · rintro ⟨loaded, hloaded, hsame⟩
    obtain ⟨⟨hsize, hstates⟩, hlookup⟩ := hread loaded hloaded
    refine ⟨hsize, fun faultNodeId state hstate => hstates state ?_, ?_⟩
    · rw [mem_states, store.keyed faultNodeId state hstate]
      exact hstate
    · -- a state without a node is not loaded
      intro faultNodeId state hstate
      rw [← hsame faultNodeId, hlookup] at hstate
      have hmatch := List.find?_some hstate
      rw [decide_eq_true_eq] at hmatch
      rw [← hmatch.1]
      exact hmatch.2
  · intro h
    have hlimit : store.stateMap.entries.length ≤ MAX_FAULT_NODE_STATES ∧
        ∀ state ∈ store.states o, state.Within :=
      ⟨h.size, fun state hstate => h.states state.faultNodeId state (mem_states.1 hstate)⟩
    have hloaded : loadFromStorage (persistToStorage o so store) = .ok ((store.states o).foldl
        (fun m state => if state.faultNodeId.empty then m
          else m.insert state.faultNodeId state) ∅) := by
      rw [loadFromStorage, (hexact.reads hlimit).read]
      rfl
    refine ⟨_, hloaded, fun faultNodeId => ?_⟩
    rw [(hread _ hloaded).2]
    rcases hstored : store.stateMap.lookup faultNodeId with _ | state
    · refine List.find?_eq_none.2 fun state hstate hmatch => ?_
      rw [decide_eq_true_eq] at hmatch
      have hmem := mem_states.1 hstate
      rw [hmatch.1, hstored] at hmem
      cases hmem
    · have hkey := store.keyed faultNodeId state hstored
      have hmem : state ∈ store.states o := by
        rw [mem_states, hkey]
        exact hstored
      have hmatch : decide (state.faultNodeId = faultNodeId ∧
          state.faultNodeId.empty = false) = true :=
        decide_eq_true ⟨hkey, by rw [hkey]; exact h.named faultNodeId state hstored⟩
      obtain ⟨found, hfound⟩ := Option.isSome_iff_exists.1
        (List.find?_isSome (p := fun state : FaultProcessState =>
          state.faultNodeId = faultNodeId ∧ state.faultNodeId.empty = false) |>.2
            ⟨state, hmem, hmatch⟩)
      have hsame := List.find?_some hfound
      rw [decide_eq_true_eq] at hsame
      rw [hfound, List.inj_on_of_nodup_map hnodup (List.mem_of_find?_eq_some hfound) hmem
        (hsame.1.trans hkey.symm)]

/-- A text that has been built. -/
def ofText (s : Mem.string) : string := ⟨.ofList s⟩

/-- A usage of a faulty NUMA node, which is remote. -/
def NumaMemUsage.ofUsage (usage : Fault.NumaMemUsage) : NumaMemUsage where
  pid := ⟨usage.pid⟩
  numaId := .ofNat usage.numaId
  isLocal := false
  socketId := -1
  pageSizeKB := .ofNat usage.pageSizeKB
  usedMemKB := .ofNat usage.usedMemKB

def bindTypeNumber : Fault.NumaBindType → NumaBindType
  | .BIND_INVALID => 0
  | .BIND_SINGLE => 1
  | .BIND_MULTIPLE => 2

/-- A task that has been built, as it is sent. -/
def MigrationTask.ofTask (task : Fault.MigrationTask) : MigrationTask where
  taskId := ofText task.taskId
  pids := .ofList (task.pids.map fun pid => ⟨pid⟩)
  containerId := ofText task.containerId
  faultNumaUsages := .ofList (task.faultNumaUsages.map .ofUsage)
  migrationSizeKB := .ofNat task.migrationSizeKB
  localNumaIds := .ofList (task.localNumaIds.map .ofNat)
  socketId := .ofInt task.socketId
  hasSameSocketConstraint := task.hasSameSocketConstraint
  bindType := bindTypeNumber task.bindType
  relatedBorrowIds := .ofList (task.relatedBorrowIds.map ofText)
  phase := .ofNat task.phase.toNat
  newBorrowId := ofText task.newBorrowId
  newRemoteNumaId := .ofNat task.newRemoteNumaId
  newBorrowSizeKB := .ofNat task.newBorrowSizeKB

/-- The usages of the task of a container are those of its processes. -/
theorem size_faultNumaUsages_container (borrowIds : List Mem.string) (instanceId : Mem.string)
    (infos : List Fault.PidMemInfo)
    (h : (infos.map fun info => info.faultNumaUsages.length).sum < 2 ^ 64) :
    (MigrationTask.ofTask (Fault.containerTask borrowIds instanceId infos)).faultNumaUsages.size =
      (infos.map fun info => info.faultNumaUsages.length).sum := by
  have hlength : ((infos.flatMap (·.faultNumaUsages)).map NumaMemUsage.ofUsage).length =
      (infos.map fun info => info.faultNumaUsages.length).sum := by
    rw [List.length_map, List.length_flatMap]
  have hfits : ((infos.flatMap (·.faultNumaUsages)).map NumaMemUsage.ofUsage).length < 2 ^ 64 := by
    rw [hlength]
    exact h
  rw [← hlength]
  exact Vec.size_ofList hfits

/-- A process of a container, with one faulty NUMA node. -/
def smallProcess (pid : Nat) : Fault.PidMemInfo where
  pid := .ofNat pid
  faultNumaUsages := [{ pid := .ofNat pid, numaId := 4, pageSizeKB := 64, usedMemKB := 64 }]

/-- The request for a container of 1025 processes. -/
def containerRequest : FaultPidExecuteRequest where
  faultNodeId := ofText [49]
  tasks := .ofList [.ofTask (Fault.containerTask [] [97] ((List.range 1025).map smallProcess))]
  directReturnBorrowIds := ∅

end FaultWire

end UbsEngine
