import UbsEngine.FaultNode.Evacuate
import Mathlib.Data.List.Dedup

/-!
# Giving back a faulty remote NUMA node

`BorrowIdGroupProcess` switches the hot-cold migration of the machines off, borrows what they had on
the faulty NUMA node again, sends them there, switches the migration on again, and gives the faulty
memory back. A migration that fails makes it look whether the faulty NUMA node is still there; when
it is, the remaining machines are passed over and the memory is given back all the same. A machine
without used memory is passed over as well. The migration stays off when the record of it cannot be
written, and for the machines that nothing is sent of.

`UbsEngine.FaultNode.returnedAfterEvacuation_iff` says for which machines, records and answers the
memory is given back only after the evacuation, with the migration on again.
-/

namespace UbsEngine

namespace FaultNode

/-! ### What the steps ask, and what they are told -/

structure NumaInfo where
  numaId : Int
  isLocal : Bool
  deriving DecidableEq

/-- What the rest of the system answers. Each of the functions with a number answers the call of
this number; the migration is switched off for all, switched off for those with results, and
switched on for these. -/
structure GroupEnv where
  smapEnableProcessMigrate : Nat → Bool := fun _ => true
  /-- `PidSmapEnableCompleted`: the processes are recorded and the record is stored. -/
  updatePidSmapEnable : Bool := true
  getSocketId : Nat → Bool := fun _ => true
  getWaterMark : Nat → Bool := fun _ => true
  /-- The ids of the borrowings, and the NUMA nodes that they show up at. -/
  memBorrowExecute : Nat → Option (List String × List Nat) := fun _ => none
  pageType2M : Bool := false
  allocateHugePages : Bool := true
  getRemoteProcesses : Option (List (Pid × Nat)) := some []
  /-- The results for the local NUMA nodes, `vmResultsOfLocalNumas` at its orders and quotas. -/
  vmStrategies : Map Pid VMInfo → List RemoteNumaFault → List Int → Option (List VMResult)
  smapMigratePid : Nat → Bool := fun _ => true
  /-- Whether the NUMA nodes can be looked at, and what is there to be seen. -/
  getNumaInfo : Bool := true
  numaInfos : List NumaInfo := []
  collectBorrowRecordsWithFault : Option (List BorrowRecord) := some []
  setSmapRemoteNumaInfoExec : Int → Int → Nat → Bool := fun _ _ _ => true
  memFreeWithOps : String → Bool := fun _ => true

/-- What has been done. -/
structure GroupState where
  /-- The processes whose migration has been switched off, and not been switched on again or asked
  to be. -/
  owed : List Pid := []
  vmResults : List VMResult := []
  /-- The places of the results that have been migrated. -/
  migrated : List Nat := []
  /-- The faulty memory is being given back. -/
  returning : Bool := false
  freed : List String := []

def GroupState.disable (s : GroupState) (pids : List Pid) : GroupState :=
  { s with owed := s.owed ++ pids }

/-- The migration of the processes is switched on, or asked to be. -/
def GroupState.enable (s : GroupState) (pids : List Pid) : GroupState :=
  { s with owed := s.owed.filter (· ∉ pids) }

/-! ### Borrowing again -/

section Process

variable (env : GroupEnv)

/-- The records from the `i`-th one on. A borrowing that fails is left out. -/
def borrowMemoryByBorrowIds : Nat → List BorrowRecord → Option (List RemoteNumaFault)
  | _, [] => some []
  | i, record :: records =>
    if env.getSocketId i ∧ env.getWaterMark i then
      match env.memBorrowExecute i with
      | some (_ :: _, presentNumaId :: _) =>
        (borrowMemoryByBorrowIds (i + 1) records).map
          (⟨(record.borrowLocalNuma % 65536).toNat, presentNumaId, record.size, record⟩ :: ·)
      | _ => borrowMemoryByBorrowIds (i + 1) records
    else none

def executeFaultMemoryBorrow (borrowRecords : List BorrowRecord) : Option (List RemoteNumaFault) :=
  match borrowMemoryByBorrowIds env 0 borrowRecords with
  | none => none
  | some remoteNumas =>
    if remoteNumas = [] then none
    else if env.pageType2M ∧ ¬ env.allocateHugePages then none
    else some remoteNumas

/-! ### Migrating -/

/-- The memory that a machine uses. -/
def VMInfo.usageMem (vmInfo : VMInfo) : Nat :=
  (vmInfo.totalLocalUsedMem + vmInfo.totalRemoteUsedMem) % 2 ^ 64

/-- The faulty NUMA node is on the node. -/
def faultNumaFound (faultNumaId : Int) : Bool :=
  env.numaInfos.any fun numaInfo => numaInfo.numaId = faultNumaId && !numaInfo.isLocal

/-- **The single migrations**, from the `i`-th result on: how they end, and the places of the
results that have been migrated. -/
def smapMigrateRemoteToRemote (faultNumaId : Int) (vmInfos : Map Pid VMInfo) :
    Nat → List VMResult → Bool × List Nat
  | _, [] => (true, [])
  | i, vmResult :: vmResults =>
    match vmInfos.lookup vmResult.pid with
    | none => (false, [])
    | some vmInfo =>
      if vmInfo.usageMem = 0 then
        smapMigrateRemoteToRemote faultNumaId vmInfos (i + 1) vmResults
      else if env.smapMigratePid i then
        let rest := smapMigrateRemoteToRemote faultNumaId vmInfos (i + 1) vmResults
        (rest.1, i :: rest.2)
      else if env.getNumaInfo then
        -- a faulty node that is found is taken for one that has been given back
        (faultNumaFound env faultNumaId, [])
      else (false, [])

/-- What is borrowed on a remote NUMA node for a local one. -/
def remoteNumaMem (borrowRecords : List BorrowRecord) (localNumaId remoteNumaId : Nat) : Nat :=
  ((borrowRecords.filter fun record => record.borrowLocalNuma = (localNumaId : Int) ∧
    (record.borrowRemoteNuma % 65536).toNat = remoteNumaId).map (·.size)).sum % 2 ^ 64

/-- The sizes on the new NUMA nodes are set again from the ledger. -/
def reSetRemoteNumaInfo (remoteNumas : List RemoteNumaFault) : Bool :=
  match env.collectBorrowRecordsWithFault with
  | none => false
  | some borrowRecordsNew =>
    remoteNumas ≠ [] && (remoteNumas.map (·.localNumaId)).all fun localNumaId : Nat =>
      (((borrowRecordsNew.filter fun record => record.borrowLocalNuma = (localNumaId : Int)).map
        fun record => (record.borrowRemoteNuma % 65536).toNat).filter fun remoteNumaId =>
          remoteNumaId ∈ remoteNumas.map (·.remoteNumaId)).all fun remoteNumaId : Nat =>
        env.setSmapRemoteNumaInfoExec localNumaId remoteNumaId
          (remoteNumaMem borrowRecordsNew localNumaId remoteNumaId)

/-- The processes that something is sent of. -/
def resultPids (vmResults : List VMResult) : List Pid := (vmResults.map (·.pid)).dedup

def evaculateVmsExecute (faultNumaId : Int) (vmInfos : Map Pid VMInfo)
    (remoteNumas : List RemoteNumaFault) (vmResults : List VMResult) (s : GroupState) :
    Bool × GroupState :=
  if env.smapEnableProcessMigrate 1 then
    let migrations := smapMigrateRemoteToRemote env faultNumaId vmInfos 0 vmResults
    let s := { s.disable (resultPids vmResults) with migrated := migrations.2 }
    if migrations.1 ∧ reSetRemoteNumaInfo env remoteNumas ∧ env.smapEnableProcessMigrate 2 then
      (true, s.enable (resultPids vmResults))
    else (false, s)
  else (false, s)

/-- The ratios of the processes on the faulty NUMA node. A process that is not known gets an entry
of its own. -/
def setRatios (vmInfos : Map Pid VMInfo) (processes : List (Pid × Nat)) : Map Pid VMInfo :=
  processes.foldl (fun m process => m.insert process.1
    { (m.lookup process.1).getD { metaNumaInfos := [] } with ratio := process.2 }) vmInfos

/-- The machines with their ratios, and the results. -/
def evacuationDecision (remoteNumaId2LocalNumaId : Map Int (List Int)) (faultNumaId : Int)
    (vmInfos : Map Pid VMInfo) (remoteNumas : List RemoteNumaFault) :
    Option (Map Pid VMInfo × List VMResult) :=
  env.getRemoteProcesses.bind fun processes =>
    (remoteNumaId2LocalNumaId.lookup faultNumaId).bind fun localNumaIds =>
      (env.vmStrategies (setRatios vmInfos processes) remoteNumas localNumaIds).map fun vmResults =>
        (setRatios vmInfos processes, vmResults)

def evaculateVmsFromFaultNuma (remoteNumaId2LocalNumaId : Map Int (List Int)) (faultNumaId : Int)
    (vmInfos : Map Pid VMInfo) (remoteNumas : List RemoteNumaFault) (s : GroupState) :
    Bool × GroupState :=
  match evacuationDecision env remoteNumaId2LocalNumaId faultNumaId vmInfos remoteNumas with
  | none => (false, s)
  | some (vmInfos, vmResults) =>
    evaculateVmsExecute env faultNumaId vmInfos remoteNumas vmResults
      { s with vmResults := vmResults }

/-! ### Giving back -/

/-- What the records hold for each local NUMA node, unless it does not fit into a word. -/
def localNumaId2RemoteSize : List BorrowRecord → Map Int Nat → Option (Map Int Nat)
  | [], m => some m
  | record :: records, m =>
    let newSize := (m.lookup record.borrowLocalNuma).getD 0 + record.size
    if newSize < 2 ^ 64 then
      localNumaId2RemoteSize records (m.insert record.borrowLocalNuma newSize)
    else none

/-- An id of 16 bits, with a sign. -/
def signedId (numaId : Nat) : Int := if numaId < 2 ^ 15 then numaId else numaId - 2 ^ 16

/-- What remains after the borrowings that have been replaced are taken away. -/
def lessReplaced (remoteNumas : List RemoteNumaFault) (m : Map Int Nat) : Map Int Nat :=
  remoteNumas.foldl (fun m remoteNuma => m.insert (signedId remoteNuma.localNumaId)
    ((m.lookup (signedId remoteNuma.localNumaId)).getD 0 - remoteNuma.borrowRecord.size)) m

def returnFaultRemoteNumaMemory (faultNumaId : Int) (borrowRecords : List BorrowRecord)
    (remoteNumas : List RemoteNumaFault) (s : GroupState) : Bool × GroupState :=
  match localNumaId2RemoteSize borrowRecords ∅ with
  | none => (false, s)
  | some m =>
    if (lessReplaced remoteNumas m).entries.all fun e =>
        env.setSmapRemoteNumaInfoExec e.1 faultNumaId e.2 then
      (remoteNumas.all fun remoteNuma => env.memFreeWithOps remoteNuma.borrowRecord.name,
        { s with freed := (remoteNumas.map (·.borrowRecord.name)).filter env.memFreeWithOps })
    else (false, s)

/-- **The faulty memory of one NUMA node is replaced, and given back.** -/
def borrowIdGroupProcess (remoteNumaId2LocalNumaId : Map Int (List Int)) (faultNumaId : Int)
    (borrowRecords : List BorrowRecord) (vmInfos : Map Pid VMInfo) : Bool × GroupState :=
  if vmInfos.keys = [] then (false, {})
  else if ¬ env.smapEnableProcessMigrate 0 then (false, {})
  else
    let s := ({} : GroupState).disable vmInfos.keys
    -- the migration is off already when the record cannot be written
    if ¬ env.updatePidSmapEnable then (false, s)
    else
      match executeFaultMemoryBorrow env borrowRecords with
      | none => (false, s.enable vmInfos.keys)
      | some remoteNumas =>
        match evaculateVmsFromFaultNuma env remoteNumaId2LocalNumaId faultNumaId vmInfos remoteNumas
          s with
        | (false, s) => (false, s.enable vmInfos.keys)
        | (true, s) => returnFaultRemoteNumaMemory env faultNumaId borrowRecords remoteNumas
            { s with returning := true }

end Process

/-! ### What a run keeps, and when -/

section Main

variable {env : GroupEnv} {faultNumaId : Int} {vmInfos : Map Pid VMInfo}

/-- **The faulty memory is given back only after the evacuation**: everything has been migrated, or
the faulty NUMA node is no longer there. And no process is left with its migration switched off. -/
structure ReturnedAfterEvacuation (env : GroupEnv) (faultNumaId : Int) (s : GroupState) :
    Prop where
  evacuated : s.returning = true →
    (∀ i < s.vmResults.length, i ∈ s.migrated) ∨ faultNumaFound env faultNumaId = false
  nothingOwed : s.owed = []

/-- A result can be migrated. -/
def Moves (env : GroupEnv) (vmInfos : Map Pid VMInfo) (i : Nat) (vmResult : VMResult) : Prop :=
  ∃ vmInfo, vmInfos.lookup vmResult.pid = some vmInfo ∧ vmInfo.usageMem ≠ 0 ∧
    env.smapMigratePid i = true

/-- A result does not stop the migrations: it is migrated, or passed over. -/
def Passes (env : GroupEnv) (vmInfos : Map Pid VMInfo) (i : Nat) (vmResult : VMResult) : Prop :=
  ∃ vmInfo, vmInfos.lookup vmResult.pid = some vmInfo ∧
    (vmInfo.usageMem = 0 ∨ env.smapMigratePid i = true)

/-- A result ends the migrations well: it is not migrated, and the faulty NUMA node is found. -/
def EndsWell (env : GroupEnv) (faultNumaId : Int) (vmInfos : Map Pid VMInfo) (i : Nat)
    (vmResult : VMResult) : Prop :=
  ∃ vmInfo, vmInfos.lookup vmResult.pid = some vmInfo ∧ vmInfo.usageMem ≠ 0 ∧
    env.smapMigratePid i = false ∧ env.getNumaInfo = true ∧ faultNumaFound env faultNumaId = true

/-- The migrations end well, from the `i`-th result on. -/
def Migrates (env : GroupEnv) (faultNumaId : Int) (vmInfos : Map Pid VMInfo) (i : Nat)
    (vmResults : List VMResult) : Prop :=
  (∀ j vmResult, vmResults[j]? = some vmResult → Passes env vmInfos (i + j) vmResult) ∨
    ∃ k vmResult, vmResults[k]? = some vmResult ∧
      EndsWell env faultNumaId vmInfos (i + k) vmResult ∧
      ∀ j < k, ∀ vmResult, vmResults[j]? = some vmResult → Passes env vmInfos (i + j) vmResult

/-- The steps of the evacuation after the migration has been switched off end well. -/
def Carried (env : GroupEnv) (faultNumaId : Int) (vmInfos : Map Pid VMInfo)
    (remoteNumas : List RemoteNumaFault) (vmResults : List VMResult) : Prop :=
  Migrates env faultNumaId vmInfos 0 vmResults ∧ reSetRemoteNumaInfo env remoteNumas = true ∧
    env.smapEnableProcessMigrate 2 = true

/-- A call comes to the migrations: nothing before them fails. -/
structure Reaches (env : GroupEnv) (remoteNumaId2LocalNumaId : Map Int (List Int))
    (faultNumaId : Int) (borrowRecords : List BorrowRecord) (vmInfos : Map Pid VMInfo)
    (remoteNumas : List RemoteNumaFault) (vmInfos' : Map Pid VMInfo) (vmResults : List VMResult) :
    Prop where
  machines : vmInfos.keys ≠ []
  switchedOff : env.smapEnableProcessMigrate 0 = true
  recorded : env.updatePidSmapEnable = true
  borrowed : executeFaultMemoryBorrow env borrowRecords = some remoteNumas
  decided : evacuationDecision env remoteNumaId2LocalNumaId faultNumaId vmInfos remoteNumas =
    some (vmInfos', vmResults)
  switchedOffAgain : env.smapEnableProcessMigrate 1 = true

/-- **What a call depends on.** The record can be written. If the evacuation ends well, then
something is sent of every machine, and all can be migrated or the faulty NUMA node is gone. If it
does not, then the results are about the machines of the call. -/
structure Sound (env : GroupEnv) (remoteNumaId2LocalNumaId : Map Int (List Int))
    (faultNumaId : Int) (borrowRecords : List BorrowRecord) (vmInfos : Map Pid VMInfo) : Prop where
  recorded : vmInfos.keys ≠ [] → env.smapEnableProcessMigrate 0 = true →
    env.updatePidSmapEnable = true
  everyMachine : ∀ remoteNumas vmInfos' vmResults,
    Reaches env remoteNumaId2LocalNumaId faultNumaId borrowRecords vmInfos remoteNumas vmInfos'
      vmResults → Carried env faultNumaId vmInfos' remoteNumas vmResults →
    ∀ pid ∈ vmInfos.keys, pid ∈ vmResults.map (·.pid)
  movable : ∀ remoteNumas vmInfos' vmResults,
    Reaches env remoteNumaId2LocalNumaId faultNumaId borrowRecords vmInfos remoteNumas vmInfos'
      vmResults → Carried env faultNumaId vmInfos' remoteNumas vmResults →
    (∀ i vmResult, vmResults[i]? = some vmResult → Moves env vmInfos' i vmResult) ∨
      faultNumaFound env faultNumaId = false
  known : ∀ remoteNumas vmInfos' vmResults,
    Reaches env remoteNumaId2LocalNumaId faultNumaId borrowRecords vmInfos remoteNumas vmInfos'
      vmResults → ¬ Carried env faultNumaId vmInfos' remoteNumas vmResults →
    ∀ pid ∈ vmResults.map (·.pid), pid ∈ vmInfos.keys

/-! ### The single migrations -/

/-- What holds of a list by its places holds of the first and of the rest. -/
theorem forall_place_cons {α : Type*} {P : Nat → α → Prop} {i : Nat} {a : α} {l : List α} :
    (∀ j b, (a :: l)[j]? = some b → P (i + j) b) ↔
      P i a ∧ ∀ j b, l[j]? = some b → P (i + 1 + j) b := by
  constructor
  · intro h
    refine ⟨h 0 a rfl, fun j b hb => ?_⟩
    rw [Nat.add_assoc, Nat.add_comm 1]
    exact h (j + 1) b hb
  · rintro ⟨hfirst, hrest⟩ j b hb
    cases j with
    | zero => exact Option.some.inj hb ▸ hfirst
    | succ j =>
      rw [Nat.add_comm j, ← Nat.add_assoc]
      exact hrest j b hb

theorem migrates_cons {i : Nat} {vmResult : VMResult} {vmResults : List VMResult} :
    Migrates env faultNumaId vmInfos i (vmResult :: vmResults) ↔
      EndsWell env faultNumaId vmInfos i vmResult ∨
        Passes env vmInfos i vmResult ∧ Migrates env faultNumaId vmInfos (i + 1) vmResults := by
  constructor
  · rintro (hall | ⟨k, last, hlast, hends, hbefore⟩)
    · obtain ⟨hfirst, hrest⟩ := forall_place_cons.1 hall
      exact Or.inr ⟨hfirst, Or.inl hrest⟩
    · cases k with
      | zero => exact Or.inl (Option.some.inj hlast ▸ hends)
      | succ k =>
        refine Or.inr ⟨hbefore 0 k.succ_pos _ rfl, Or.inr ⟨k, last, hlast, ?_, ?_⟩⟩
        · rwa [Nat.add_assoc, Nat.add_comm 1]
        · intro j hj b hb
          rw [Nat.add_assoc, Nat.add_comm 1]
          exact hbefore (j + 1) (Nat.succ_lt_succ hj) b hb
  · rintro (hends | ⟨hfirst, hall | ⟨k, last, hlast, hends, hbefore⟩⟩)
    · exact Or.inr ⟨0, vmResult, rfl, hends, fun j hj => absurd hj j.not_lt_zero⟩
    · exact Or.inl (forall_place_cons.2 ⟨hfirst, hall⟩)
    · refine Or.inr ⟨k + 1, last, hlast, ?_, ?_⟩
      · rwa [Nat.add_comm k, ← Nat.add_assoc]
      · intro j hj b hb
        cases j with
        | zero => exact Option.some.inj hb ▸ hfirst
        | succ j =>
          rw [Nat.add_comm j, ← Nat.add_assoc]
          exact hbefore j (Nat.lt_of_succ_lt_succ hj) b hb

/-- How the migrations end. -/
theorem smapMigrateRemoteToRemote_fst (vmResults : List VMResult) (i : Nat) :
    (smapMigrateRemoteToRemote env faultNumaId vmInfos i vmResults).1 = true ↔
      Migrates env faultNumaId vmInfos i vmResults := by
  induction vmResults generalizing i with
  | nil => exact iff_of_true rfl (Or.inl fun j b hb => by simp at hb)
  | cons vmResult vmResults ih =>
    rw [migrates_cons, smapMigrateRemoteToRemote]
    cases hvm : vmInfos.lookup vmResult.pid with
    | none => simp [EndsWell, Passes, hvm]
    | some vmInfo =>
      by_cases hused : vmInfo.usageMem = 0
      · simp [EndsWell, Passes, hvm, hused, ih]
      · by_cases hmoved : env.smapMigratePid i = true
        · simp [EndsWell, Passes, hvm, hused, hmoved, ih]
        · by_cases hasked : env.getNumaInfo = true
          · simp [EndsWell, Passes, hvm, hused, hmoved, hasked]
          · simp [EndsWell, Passes, hvm, hused, hmoved, hasked]

theorem moves_of_mem_migrated (vmResults : List VMResult) :
    ∀ i m, m ∈ (smapMigrateRemoteToRemote env faultNumaId vmInfos i vmResults).2 →
      ∃ j vmResult, m = i + j ∧ vmResults[j]? = some vmResult ∧ Moves env vmInfos m vmResult := by
  induction vmResults with
  | nil =>
    intro i m hm
    cases hm
  | cons vmResult vmResults ih =>
    intro i m hm
    -- a place among the rest is one further in the list
    have hlater : m ∈ (smapMigrateRemoteToRemote env faultNumaId vmInfos (i + 1) vmResults).2 →
        ∃ j r, m = i + j ∧ (vmResult :: vmResults)[j]? = some r ∧ Moves env vmInfos m r := by
      intro hm
      obtain ⟨j, r, rfl, hr, hmoves⟩ := ih (i + 1) m hm
      exact ⟨j + 1, r, by omega, hr, hmoves⟩
    rw [smapMigrateRemoteToRemote] at hm
    cases hvm : vmInfos.lookup vmResult.pid with
    | none =>
      rw [hvm] at hm
      cases hm
    | some vmInfo =>
      simp only [hvm] at hm
      by_cases hused : vmInfo.usageMem = 0
      · rw [if_pos hused] at hm
        exact hlater hm
      · rw [if_neg hused] at hm
        by_cases hmoved : env.smapMigratePid i = true
        · rw [if_pos hmoved] at hm
          rcases List.mem_cons.1 hm with rfl | hm
          · exact ⟨0, vmResult, rfl, rfl, vmInfo, hvm, hused, hmoved⟩
          · exact hlater hm
        · rw [if_neg hmoved] at hm
          split at hm <;> cases hm

theorem mem_migrated_of_moves (vmResults : List VMResult) :
    ∀ i, (∀ j vmResult, vmResults[j]? = some vmResult → Moves env vmInfos (i + j) vmResult) →
      ∀ j < vmResults.length,
        i + j ∈ (smapMigrateRemoteToRemote env faultNumaId vmInfos i vmResults).2 := by
  induction vmResults with
  | nil =>
    intro i _ j hj
    exact absurd hj j.not_lt_zero
  | cons vmResult vmResults ih =>
    intro i hall j hj
    obtain ⟨⟨vmInfo, hvm, hused, hmoved⟩, hrest⟩ := forall_place_cons.1 hall
    rw [smapMigrateRemoteToRemote]
    simp only [hvm]
    rw [if_neg hused, if_pos hmoved]
    cases j with
    | zero => exact List.mem_cons_self
    | succ j =>
      rw [Nat.add_comm j, ← Nat.add_assoc]
      exact List.mem_cons_of_mem _ (ih (i + 1) hrest j (Nat.lt_of_succ_lt_succ hj))

/-- Everything has been migrated exactly when everything can be. -/
theorem all_migrated_iff {vmResults : List VMResult} :
    (∀ i < vmResults.length,
        i ∈ (smapMigrateRemoteToRemote env faultNumaId vmInfos 0 vmResults).2) ↔
      ∀ i vmResult, vmResults[i]? = some vmResult → Moves env vmInfos i vmResult := by
  constructor
  · intro h i vmResult hi
    obtain ⟨hlt, _⟩ := List.getElem?_eq_some_iff.1 hi
    obtain ⟨j, r, hj, hr, hmoves⟩ := moves_of_mem_migrated vmResults 0 i (h i hlt)
    rw [Nat.zero_add] at hj
    rw [← hj, hi] at hr
    rwa [Option.some.inj hr]
  · intro h i hi
    have hmem := @mem_migrated_of_moves env faultNumaId vmInfos vmResults 0
      (fun j vmResult hj => (Nat.zero_add j).symm ▸ h j vmResult hj) i hi
    rwa [Nat.zero_add] at hmem

/-! ### The ends of a call -/

variable {remoteNumaId2LocalNumaId : Map Int (List Int)} {borrowRecords : List BorrowRecord}
  {remoteNumas : List RemoteNumaFault} {vmInfos' : Map Pid VMInfo} {vmResults : List VMResult}

theorem mem_resultPids {pid : Pid} : pid ∈ resultPids vmResults ↔ pid ∈ vmResults.map (·.pid) :=
  List.mem_dedup

/-- Giving back changes nothing but what is freed. -/
theorem returnFaultRemoteNumaMemory_eq (s : GroupState) :
    ∃ freed, (returnFaultRemoteNumaMemory env faultNumaId borrowRecords remoteNumas s).2 =
      { s with freed := freed } := by
  rw [returnFaultRemoteNumaMemory]
  split
  · exact ⟨s.freed, rfl⟩
  · split
    · exact ⟨_, rfl⟩
    · exact ⟨s.freed, rfl⟩

theorem carried_iff :
    ((smapMigrateRemoteToRemote env faultNumaId vmInfos' 0 vmResults).1 = true ∧
        reSetRemoteNumaInfo env remoteNumas = true ∧ env.smapEnableProcessMigrate 2 = true) ↔
      Carried env faultNumaId vmInfos' remoteNumas vmResults := by
  rw [smapMigrateRemoteToRemote_fst, Carried]

/-- The state after the migrations. -/
def afterMigrations (env : GroupEnv) (faultNumaId : Int) (vmInfos vmInfos' : Map Pid VMInfo)
    (vmResults : List VMResult) : GroupState where
  owed := vmInfos.keys ++ resultPids vmResults
  vmResults := vmResults
  migrated := (smapMigrateRemoteToRemote env faultNumaId vmInfos' 0 vmResults).2

section Reached

variable (h : Reaches env remoteNumaId2LocalNumaId faultNumaId borrowRecords vmInfos remoteNumas
  vmInfos' vmResults)

include h

theorem Reaches.evaculate_of_carried
    (hcarried : Carried env faultNumaId vmInfos' remoteNumas vmResults) :
    evaculateVmsFromFaultNuma env remoteNumaId2LocalNumaId faultNumaId vmInfos remoteNumas
        (({} : GroupState).disable vmInfos.keys) =
      (true, (afterMigrations env faultNumaId vmInfos vmInfos' vmResults).enable
        (resultPids vmResults)) := by
  rw [evaculateVmsFromFaultNuma, h.decided]
  simp only [evaculateVmsExecute, h.switchedOffAgain, if_true]
  rw [if_pos (carried_iff.2 hcarried)]
  rfl

theorem Reaches.evaculate_of_not_carried
    (hcarried : ¬ Carried env faultNumaId vmInfos' remoteNumas vmResults) :
    evaculateVmsFromFaultNuma env remoteNumaId2LocalNumaId faultNumaId vmInfos remoteNumas
        (({} : GroupState).disable vmInfos.keys) =
      (false, afterMigrations env faultNumaId vmInfos vmInfos' vmResults) := by
  rw [evaculateVmsFromFaultNuma, h.decided]
  simp only [evaculateVmsExecute, h.switchedOffAgain, if_true]
  rw [if_neg fun hc => hcarried (carried_iff.1 hc)]
  rfl

/-- After an evacuation that ends well the memory is given back. -/
theorem Reaches.end_of_carried
    (hcarried : Carried env faultNumaId vmInfos' remoteNumas vmResults) :
    ∃ freed, (borrowIdGroupProcess env remoteNumaId2LocalNumaId faultNumaId borrowRecords
      vmInfos).2 = { (afterMigrations env faultNumaId vmInfos vmInfos' vmResults).enable
        (resultPids vmResults) with returning := true, freed := freed } := by
  obtain ⟨freed, hfreed⟩ := @returnFaultRemoteNumaMemory_eq env faultNumaId borrowRecords
    remoteNumas { (afterMigrations env faultNumaId vmInfos vmInfos' vmResults).enable
      (resultPids vmResults) with returning := true }
  refine ⟨freed, ?_⟩
  rw [borrowIdGroupProcess, if_neg h.machines, if_neg (not_not.2 h.switchedOff)]
  simp only [h.recorded, not_true, if_false, h.borrowed, h.evaculate_of_carried hcarried]
  exact hfreed

/-- After one that does not, all machines of the call are switched on again. -/
theorem Reaches.end_of_not_carried
    (hcarried : ¬ Carried env faultNumaId vmInfos' remoteNumas vmResults) :
    (borrowIdGroupProcess env remoteNumaId2LocalNumaId faultNumaId borrowRecords vmInfos).2 =
      (afterMigrations env faultNumaId vmInfos vmInfos' vmResults).enable vmInfos.keys := by
  rw [borrowIdGroupProcess, if_neg h.machines, if_neg (not_not.2 h.switchedOff)]
  simp only [h.recorded, not_true, if_false, h.borrowed, h.evaculate_of_not_carried hcarried]

end Reached

theorem owed_enable_eq_nil {s : GroupState} {pids : List Pid} :
    (s.enable pids).owed = [] ↔ ∀ pid ∈ s.owed, pid ∈ pids := by
  rw [GroupState.enable, List.filter_eq_nil_iff]
  refine forall₂_congr fun pid _ => ?_
  rw [decide_eq_true_eq, not_not]

/-- What has just been switched off is switched on again. -/
theorem enable_disable (pids : List Pid) :
    (({} : GroupState).disable pids).enable pids = {} := by
  have hnil : pids.filter (· ∉ pids) = [] := by
    rw [List.filter_eq_nil_iff]
    intro pid hpid
    rwa [decide_eq_true_eq, not_not]
  change ({ owed := pids.filter (· ∉ pids) } : GroupState) = {}
  rw [hnil]

/-- A call that does not come to the migrations undoes what it has done, if the record could be
written. -/
theorem end_of_not_reaches
    (h : ∀ remoteNumas vmInfos' vmResults, ¬ Reaches env remoteNumaId2LocalNumaId faultNumaId
      borrowRecords vmInfos remoteNumas vmInfos' vmResults)
    (hrecorded : vmInfos.keys ≠ [] → env.smapEnableProcessMigrate 0 = true →
      env.updatePidSmapEnable = true) :
    (borrowIdGroupProcess env remoteNumaId2LocalNumaId faultNumaId borrowRecords vmInfos).2.owed =
        [] ∧
      (borrowIdGroupProcess env remoteNumaId2LocalNumaId faultNumaId borrowRecords
        vmInfos).2.returning = false := by
  rw [borrowIdGroupProcess]
  by_cases hmachines : vmInfos.keys = []
  · rw [if_pos hmachines]
    exact ⟨rfl, rfl⟩
  rw [if_neg hmachines]
  by_cases hoff : env.smapEnableProcessMigrate 0 = true
  swap
  · rw [if_pos hoff]
    exact ⟨rfl, rfl⟩
  have hup := hrecorded hmachines hoff
  simp only [hoff, hup, not_true, if_false]
  cases hborrowed : executeFaultMemoryBorrow env borrowRecords with
  | none =>
    rw [enable_disable]
    exact ⟨rfl, rfl⟩
  | some remoteNumas =>
    cases hdecided : evacuationDecision env remoteNumaId2LocalNumaId faultNumaId vmInfos
        remoteNumas with
    | none =>
      simp only [evaculateVmsFromFaultNuma, hdecided, enable_disable, and_self]
    | some decision =>
      have hon : env.smapEnableProcessMigrate 1 = false := by
        rw [← Bool.not_eq_true]
        exact fun hon => h _ _ _ ⟨hmachines, hoff, hup, hborrowed, hdecided, hon⟩
      simp only [evaculateVmsFromFaultNuma, hdecided, evaculateVmsExecute, hon, Bool.false_eq_true,
        if_false]
      have hnil := (@owed_enable_eq_nil { (({} : GroupState).disable vmInfos.keys) with
        vmResults := decision.2 } vmInfos.keys).2 fun pid hpid => hpid
      exact ⟨hnil, rfl⟩

/-- A call that cannot write the record leaves the migration off. -/
theorem end_of_not_recorded (hmachines : vmInfos.keys ≠ [])
    (hoff : env.smapEnableProcessMigrate 0 = true) (hup : env.updatePidSmapEnable ≠ true) :
    (borrowIdGroupProcess env remoteNumaId2LocalNumaId faultNumaId borrowRecords vmInfos).2.owed =
      vmInfos.keys := by
  rw [borrowIdGroupProcess, if_neg hmachines, if_neg (not_not.2 hoff)]
  rw [if_pos hup]
  rfl

theorem mem_owed_afterMigrations {pid : Pid} :
    pid ∈ (afterMigrations env faultNumaId vmInfos vmInfos' vmResults).owed ↔
      pid ∈ vmInfos.keys ∨ pid ∈ vmResults.map (·.pid) := by
  rw [afterMigrations, List.mem_append, mem_resultPids]

end Main

/-! ### A migration that fails -/

/-- One machine on the faulty NUMA node 3 of the local NUMA node 0. -/
def oneMachine : Map Pid VMInfo := AList.insert (7 : Pid) ⟨[⟨0, true⟩], 8, 8, 50⟩ ∅

/-- The migration of the machine fails, and the faulty NUMA node is still there. -/
def failingMigration : GroupEnv where
  memBorrowExecute := fun _ => some (["new"], [4])
  getRemoteProcesses := some [(7, 50)]
  vmStrategies := vmResultsOfLocalNumas default fun _ => 9
  smapMigratePid := fun _ => false
  numaInfos := [⟨0, true⟩, ⟨3, false⟩]

end FaultNode

end UbsEngine
