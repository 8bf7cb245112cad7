import UbsEngine.Library.Assoc

/-!
# The size borrowed in the place of faulty memory

Memory that fails is borrowed again elsewhere, and the virtual machines that use it are sent there.
Before they leave, the node that hosts them measures what they use. If it is more than was borrowed
again, then what is missing is rounded up to a step of 1, 2 or 4 GiB, and a step more is asked of
the NUMA nodes that lend already, one after the other, until memory arrives at the NUMA node where
the machines go.

The function that asks refuses the largest step, and memory that arrives at another NUMA node is
not returned. So the adjustment does its work just when at most 2 GiB are missing and what is
created either arrives, or is nothing at all (`UbsEngine.FaultMemId.adjustment_iff`).
-/

namespace UbsEngine

namespace FaultMemId

/-! ### Data -/

/-- `pid_t`. -/
abbrev Pid := Int

inductive MpSceneType where
  | CONTAINER_SCENE
  | VIRTUAL_SCENE
  deriving DecidableEq

/-- What a virtual machine uses of a remote NUMA node, in KB. -/
structure VmNumaInfoWithSocket where
  pid : Pid
  remoteNumaId : BitVec 16
  remoteUsedMem : BitVec 64

/-- `OverCommitFaultMemIdExecuteParam`; sizes are in KB. -/
structure OverCommitFaultMemIdExecuteParam where
  pids : List Pid
  remoteNumaId : BitVec 16
  preRemoteNumaId : BitVec 16
  borrowSize : BitVec 64
  remoteNumaTotalSize : BitVec 64

/-- An entry of the ledger of borrowings. -/
structure BorrowRecord where
  lentNode : String
  lentSocketId : BitVec 16
  lentNuma : List (BitVec 16)
  borrowLocalNuma : Int
  borrowRemoteNuma : Int
  uid : Nat
  username : String

structure UbseMemBorrower where
  nodeId : String
  affinitySocketId : Int
  uid : Nat
  username : String

/-- A NUMA node that is to lend, and how many bytes. -/
structure UbseMemNumaLender where
  slotId : BitVec 32
  socketId : BitVec 16
  numaId : BitVec 16
  size : BitVec 64

/-- What a creation tells: the remote NUMA node where the memory arrived, and how many bytes. -/
structure UbseMemNumaDesc where
  numaId : Int
  size : BitVec 64

/-- What a creation is given: the name, who borrows, who lends, and the local NUMA node. -/
structure CreateRequest where
  name : String
  borrower : UbseMemBorrower
  lenders : List UbseMemNumaLender
  usrInfo : Int

/-- The node, and what it gets from elsewhere. A creation may go another way each time, so its
answers are counted. -/
structure Env where
  getMpSceneType : MpSceneType
  getNodeId : String
  getRemoteNumaVms : BitVec 16 → Option (List VmNumaInfoWithSocket)
  collectBorrowRecordsWithFault : String → Option (List BorrowRecord)
  safeStoul : String → Option (BitVec 32)
  generateUniqueId : String → String
  ubseMemNumaCreateWithLender : Nat → CreateRequest → Option UbseMemNumaDesc

/-! ### Constants -/

/-- `BIAS_LIMIT_MAX`, in KB. -/
def BIAS_LIMIT_MAX : BitVec 64 := 4 * 1024 * 1024

def BIAS_THRESHOLD_MID : BitVec 64 := 2 * 1024 * 1024

def BIAS_THRESHOLD_SMALL : BitVec 64 := 1 * 1024 * 1024

/-- `ADJUST_SIZE_LARGE`, in GiB. -/
def ADJUST_SIZE_LARGE : BitVec 64 := 4

def ADJUST_SIZE_MID : BitVec 64 := 2

def ADJUST_SIZE_SMALL : BitVec 64 := 1

def ADJUST_SIZE_NONE : BitVec 64 := 0

def GB_TO_BYTE : BitVec 64 := 1024 * 1024 * 1024

def KB : BitVec 64 := 1024

/-! ### What is missing -/

/-- The machines by process id; the last entry of a process is the one that stays. -/
def pidMap (infos : List VmNumaInfoWithSocket) : Map Pid VmNumaInfoWithSocket :=
  infos.foldl (fun map info => map.insert info.pid info) ∅

/-- The loop over the processes: the NUMA node that the first one uses, and the sum so far. -/
def sumEach (map : Map Pid VmNumaInfoWithSocket) :
    Option (BitVec 16) → BitVec 64 → List Pid → BitVec 64
  | _, sum, [] => sum
  | targetRemoteNumaId, sum, pid :: pids =>
    match map.lookup pid with
    | none => 0
    | some info =>
      if targetRemoteNumaId.all (info.remoteNumaId = ·) then
        sumEach map (some (targetRemoteNumaId.getD info.remoteNumaId)) (sum + info.remoteUsedMem)
          pids
      else 0

def calculateRemoteUsedMemSum (pids : List Pid) (infos : List VmNumaInfoWithSocket) : BitVec 64 :=
  sumEach (pidMap infos) none 0 pids

/-- The difference, if something is missing. -/
def bias (totalRemoteUsedMem borrowSize : BitVec 64) : BitVec 64 :=
  if borrowSize < totalRemoteUsedMem then totalRemoteUsedMem - borrowSize else 0

/-- The step for what is missing, in GiB. -/
def stepOf (bias : BitVec 64) : Option (BitVec 64) :=
  if BIAS_LIMIT_MAX ≤ bias then none
  else if BIAS_THRESHOLD_MID < bias then some ADJUST_SIZE_LARGE
  else if BIAS_THRESHOLD_SMALL ≤ bias then some ADJUST_SIZE_MID
  else if 0 < bias then some ADJUST_SIZE_SMALL
  else some ADJUST_SIZE_NONE

/-- `CheckBorrowedMemSizeForPidMigrate`. -/
def checkBorrowedMemSizeForPidMigrate (env : Env) (param : OverCommitFaultMemIdExecuteParam) :
    Option (BitVec 64) :=
  if env.getMpSceneType = .CONTAINER_SCENE then some ADJUST_SIZE_NONE
  else (env.getRemoteNumaVms param.preRemoteNumaId).bind fun infos =>
    stepOf (bias (calculateRemoteUsedMemSum param.pids infos) param.borrowSize)

/-! ### More is borrowed -/

/-- The first record of the remote NUMA node. -/
def findTargetBorrowRecord (env : Env) (remoteNumaId : BitVec 16) : Option BorrowRecord :=
  (env.collectBorrowRecordsWithFault env.getNodeId).bind fun records =>
    records.find? fun record => record.borrowRemoteNuma = (remoteNumaId.toNat : Int)

/-- The requests for the NUMA nodes that lend already. They all have the same name. -/
def createRequests (env : Env) (record : BorrowRecord) (slotId : BitVec 32)
    (adjustSize : BitVec 64) : List CreateRequest :=
  record.lentNuma.map fun numaId =>
    { name := env.generateUniqueId env.getNodeId
      borrower := ⟨env.getNodeId, -1, record.uid, record.username⟩
      lenders := [⟨slotId, record.lentSocketId, numaId, adjustSize * GB_TO_BYTE⟩]
      usrInfo := record.borrowLocalNuma }

/-- The loop over the requests: the memory that arrived at the target, if any did, and the answers
to all the requests that were made. -/
def createEach (create : Nat → CreateRequest → Option UbseMemNumaDesc) (targetNuma : BitVec 16) :
    Nat → List CreateRequest → Option UbseMemNumaDesc × List (Option UbseMemNumaDesc)
  | _, [] => (none, [])
  | k, request :: requests =>
    match create k request with
    | some desc =>
      if desc.numaId = targetNuma.toNat then (some desc, [some desc])
      else
        let rest := createEach create targetNuma (k + 1) requests
        (rest.1, some desc :: rest.2)
    | none =>
      let rest := createEach create targetNuma (k + 1) requests
      (rest.1, none :: rest.2)

/-- `ExecuteMemBorrow`. -/
def executeMemBorrow (env : Env) (record : BorrowRecord) (adjustSize : BitVec 64)
    (targetNuma : BitVec 16) : Option UbseMemNumaDesc × List (Option UbseMemNumaDesc) :=
  match env.safeStoul record.lentNode with
  | none => (none, [])
  | some slotId =>
    createEach env.ubseMemNumaCreateWithLender targetNuma 0
      (createRequests env record slotId adjustSize)

/-- `AdjustFaultHandleBorrowedMemSize`: the changed parameter unless it fails, and the answers to
the requests. -/
def adjustFaultHandleBorrowedMemSize (env : Env) (param : OverCommitFaultMemIdExecuteParam)
    (adjustSize : BitVec 64) :
    Option OverCommitFaultMemIdExecuteParam × List (Option UbseMemNumaDesc) :=
  if adjustSize = ADJUST_SIZE_NONE then (some param, [])
  else if ADJUST_SIZE_LARGE ≤ adjustSize then (none, [])
  else
    match findTargetBorrowRecord env param.remoteNumaId with
    | none => (none, [])
    | some targetRecord =>
      let borrowed := executeMemBorrow env targetRecord adjustSize param.remoteNumaId
      (borrowed.1.map fun memDesc =>
        { param with
          borrowSize := param.borrowSize + memDesc.size / KB
          remoteNumaTotalSize := param.remoteNumaTotalSize + memDesc.size / KB }, borrowed.2)

/-- The check and then the adjustment, as `MemIdExecuteRecvHandler` runs them. -/
def checkAndAdjust (env : Env) (param : OverCommitFaultMemIdExecuteParam) :
    Option OverCommitFaultMemIdExecuteParam × List (Option UbseMemNumaDesc) :=
  match checkBorrowedMemSizeForPidMigrate env param with
  | none => (none, [])
  | some adjustSize => adjustFaultHandleBorrowedMemSize env param adjustSize

/-! ### The loop over the requests -/

section Requests

variable {create : Nat → CreateRequest → Option UbseMemNumaDesc} {targetNuma : BitVec 16}

/-- The answers to all requests, if they are all made. -/
def answers (create : Nat → CreateRequest → Option UbseMemNumaDesc) (k : Nat)
    (requests : List CreateRequest) : List (Option UbseMemNumaDesc) :=
  (requests.zipIdx k).map fun request => create request.2 request.1

/-- The memory, if it is at the target. -/
def arrived (targetNuma : BitVec 16) (answer : Option UbseMemNumaDesc) : Option UbseMemNumaDesc :=
  answer.filter fun desc => desc.numaId = targetNuma.toNat

theorem answers_cons (k : Nat) (request : CreateRequest) (requests : List CreateRequest) :
    answers create k (request :: requests) =
      create k request :: answers create (k + 1) requests := by
  rw [answers, List.zipIdx_cons, List.map_cons, answers]

theorem length_answers (k : Nat) (requests : List CreateRequest) :
    (answers create k requests).length = requests.length := by
  rw [answers, List.length_map, List.length_zipIdx]

theorem mem_answers {k : Nat} {requests : List CreateRequest} {answer : Option UbseMemNumaDesc}
    (h : answer ∈ answers create k requests) :
    ∃ i, ∃ request ∈ requests, answer = create i request := by
  obtain ⟨⟨request, i⟩, hmem, rfl⟩ := List.mem_map.1 h
  exact ⟨i, request, List.fst_mem_of_mem_zipIdx hmem, rfl⟩

/-- The loop stops at the first memory at the target. -/
theorem fst_createEach (k : Nat) (requests : List CreateRequest) :
    (createEach create targetNuma k requests).1 =
      (answers create k requests).findSome? (arrived targetNuma) := by
  induction requests generalizing k with
  | nil => rfl
  | cons request requests ih =>
    rw [answers_cons, List.findSome?_cons, createEach]
    rcases create k request with _ | desc
    · exact ih (k + 1)
    · by_cases hat : desc.numaId = targetNuma.toNat
      · simp [arrived, Option.filter, hat]
      · simpa [arrived, Option.filter, hat] using ih (k + 1)

/-- If there is none, every request is made. -/
theorem snd_createEach {k : Nat} {requests : List CreateRequest}
    (h : (createEach create targetNuma k requests).1 = none) :
    (createEach create targetNuma k requests).2 = answers create k requests := by
  induction requests generalizing k with
  | nil => rfl
  | cons request requests ih =>
    rw [createEach] at h ⊢
    rw [answers_cons]
    rcases hanswer : create k request with _ | desc
    · rw [hanswer] at h
      exact congrArg _ (ih h)
    · rw [hanswer] at h
      by_cases hat : desc.numaId = targetNuma.toNat
      · simp [hat] at h
      · simp only [hat, if_false] at h ⊢
        exact congrArg _ (ih h)

end Requests

/-! ### What is measured -/

/-- What a process uses, in KB. -/
def used (infos : List VmNumaInfoWithSocket) (pid : Pid) : Nat :=
  ((pidMap infos).lookup pid).elim 0 (·.remoteUsedMem.toNat)

/-- The processes were measured, all of them on one remote NUMA node, and they use so much. -/
def Uses (pids : List Pid) (infos : List VmNumaInfoWithSocket) (usage : Nat) : Prop :=
  (∃ numa, ∀ pid ∈ pids, ∃ info, (pidMap infos).lookup pid = some info ∧
    info.remoteNumaId = numa) ∧ (pids.map (used infos)).sum = usage ∧ usage < 2 ^ 64

theorem sumEach_eq {map : Map Pid VmNumaInfoWithSocket} {numa : BitVec 16} {pids : List Pid}
    (h : ∀ pid ∈ pids, ∃ info, map.lookup pid = some info ∧ info.remoteNumaId = numa)
    (targetRemoteNumaId : Option (BitVec 16)) (htarget : ∀ id ∈ targetRemoteNumaId, id = numa)
    (sum : BitVec 64) : sumEach map targetRemoteNumaId sum pids = sum + .ofNat 64
      (pids.map fun pid => (map.lookup pid).elim 0 (·.remoteUsedMem.toNat)).sum := by
  induction pids generalizing targetRemoteNumaId sum with
  | nil => exact (BitVec.add_zero sum).symm
  | cons pid pids ih =>
    obtain ⟨info, hinfo, hnuma⟩ := h pid List.mem_cons_self
    have hall : targetRemoteNumaId.all (info.remoteNumaId = ·) = true := by
      rcases targetRemoteNumaId with _ | id
      · rfl
      · rw [Option.all_some, hnuma, htarget id rfl, decide_eq_true rfl]
    have hnext : ∀ id ∈ some (targetRemoteNumaId.getD info.remoteNumaId), id = numa := by
      rintro id hid
      obtain rfl := Option.some.inj hid
      rcases targetRemoteNumaId with _ | id
      · exact hnuma
      · exact htarget id rfl
    rw [sumEach, hinfo]
    simp only [hall, if_true]
    rw [ih (fun pid hpid => h pid (List.mem_cons_of_mem _ hpid)) _ hnext, List.map_cons,
      List.sum_cons, hinfo, Option.elim_some, BitVec.ofNat_add, BitVec.ofNat_toNat,
      BitVec.setWidth_eq, BitVec.add_assoc]

theorem toNat_calculateRemoteUsedMemSum {pids : List Pid} {infos : List VmNumaInfoWithSocket}
    {usage : Nat} (h : Uses pids infos usage) :
    (calculateRemoteUsedMemSum pids infos).toNat = usage := by
  obtain ⟨⟨numa, hpids⟩, hsum, hlt⟩ := h
  rw [calculateRemoteUsedMemSum, sumEach_eq hpids none (fun _ h => nomatch h)]
  change (0#64 + BitVec.ofNat 64 (pids.map (used infos)).sum).toNat = usage
  rw [hsum, BitVec.zero_add, BitVec.toNat_ofNat, Nat.mod_eq_of_lt hlt]

/-- The step covers what is missing, and only up to 2 GiB it is one that the second function
takes. -/
theorem stepOf_bias (totalRemoteUsedMem borrowSize : BitVec 64)
    (h : totalRemoteUsedMem.toNat - borrowSize.toNat < 4 * 1024 * 1024) :
    ∃ adjustSize, stepOf (bias totalRemoteUsedMem borrowSize) = some adjustSize ∧
      (adjustSize = ADJUST_SIZE_NONE ↔ totalRemoteUsedMem.toNat ≤ borrowSize.toNat) ∧
      (ADJUST_SIZE_LARGE ≤ adjustSize ↔
        2 * 1024 * 1024 < totalRemoteUsedMem.toNat - borrowSize.toNat) ∧
      totalRemoteUsedMem.toNat - borrowSize.toNat ≤ adjustSize.toNat * (1024 * 1024) ∧
      adjustSize.toNat ≤ 4 := by
  have hbias : (bias totalRemoteUsedMem borrowSize).toNat =
      totalRemoteUsedMem.toNat - borrowSize.toNat := by
    rw [bias]
    split
    · bv_omega
    · rw [BitVec.ofNat_eq_ofNat, BitVec.toNat_ofNat]
      bv_omega
  have hmax : BIAS_LIMIT_MAX.toNat = 4 * 1024 * 1024 := by decide
  have hmid : BIAS_THRESHOLD_MID.toNat = 2 * 1024 * 1024 := by decide
  have hsmall : BIAS_THRESHOLD_SMALL.toNat = 1 * 1024 * 1024 := by decide
  rw [stepOf, if_neg (by rw [BitVec.le_def]; omega)]
  by_cases hlarge : BIAS_THRESHOLD_MID < bias totalRemoteUsedMem borrowSize
  · rw [if_pos hlarge]
    rw [BitVec.lt_def] at hlarge
    refine ⟨_, rfl, ⟨fun h => absurd h (by decide), fun h => ?_⟩,
      ⟨fun _ => ?_, fun _ => by decide⟩, ?_, by decide⟩
    all_goals simp only [ADJUST_SIZE_LARGE, BitVec.ofNat_eq_ofNat, BitVec.toNat_ofNat] at *
    all_goals omega
  rw [if_neg hlarge]
  rw [BitVec.lt_def] at hlarge
  by_cases hmedium : BIAS_THRESHOLD_SMALL ≤ bias totalRemoteUsedMem borrowSize
  · rw [if_pos hmedium]
    rw [BitVec.le_def] at hmedium
    refine ⟨_, rfl, ⟨fun h => absurd h (by decide), fun h => ?_⟩,
      ⟨fun h => absurd h (by decide), fun h => ?_⟩, ?_, by decide⟩
    all_goals simp only [ADJUST_SIZE_MID, BitVec.ofNat_eq_ofNat, BitVec.toNat_ofNat] at *
    all_goals omega
  rw [if_neg hmedium]
  rw [BitVec.le_def] at hmedium
  by_cases hsome : 0 < bias totalRemoteUsedMem borrowSize
  · rw [if_pos hsome]
    rw [BitVec.lt_def, BitVec.ofNat_eq_ofNat, BitVec.toNat_ofNat] at hsome
    refine ⟨_, rfl, ⟨fun h => absurd h (by decide), fun h => ?_⟩,
      ⟨fun h => absurd h (by decide), fun h => ?_⟩, ?_, by decide⟩
    all_goals simp only [ADJUST_SIZE_SMALL, BitVec.ofNat_eq_ofNat, BitVec.toNat_ofNat] at *
    all_goals omega
  rw [if_neg hsome]
  rw [BitVec.lt_def, BitVec.ofNat_eq_ofNat, BitVec.toNat_ofNat] at hsome
  refine ⟨_, rfl, ⟨fun _ => ?_, fun _ => rfl⟩, ⟨fun h => absurd h (by decide), fun h => ?_⟩, ?_,
    by decide⟩
  all_goals simp only [ADJUST_SIZE_NONE, BitVec.ofNat_eq_ofNat, BitVec.toNat_ofNat] at *
  all_goals omega

/-! ### The adjustment -/

section Adjustment

variable (env : Env) (param : OverCommitFaultMemIdExecuteParam)

/-- **What an adjustment is for**: if it succeeds then the borrowed size covers the usage. It fails
only when every NUMA node that lends to the remote NUMA node was asked, and nothing arrived at the
target; and then nothing was created elsewhere either. -/
structure Adjusts (usage : Nat)
    (result : Option OverCommitFaultMemIdExecuteParam × List (Option UbseMemNumaDesc)) : Prop where
  covers : ∀ adjusted, result.1 = some adjusted → usage ≤ adjusted.borrowSize.toNat
  asked : result.1 = none → ∃ record, findTargetBorrowRecord env param.remoteNumaId = some record ∧
    result.2.length = record.lentNuma.length
  notArrived : result.1 = none → ∀ answer ∈ result.2, arrived param.remoteNumaId answer = none
  nothingLeft : result.1 = none → ∀ answer ∈ result.2, answer = none

/-- The answers that the lenders of a record give to a step. -/
def answersFor (record : BorrowRecord) (slotId : BitVec 32) (adjustSize : BitVec 64) :
    List (Option UbseMemNumaDesc) :=
  answers env.ubseMemNumaCreateWithLender 0 (createRequests env record slotId adjustSize)

/-- The step for what is missing. -/
def stepFor (usage : Nat) : BitVec 64 :=
  (stepOf (bias (.ofNat 64 usage) param.borrowSize)).getD ADJUST_SIZE_NONE

/-- Nothing is missing; or there is a record of the remote NUMA node that lists no lenders; or at
most 2 GiB are missing, the slot of the record's node is a number, and either nothing at all is
created, or the first memory at the target can be added to the borrowed size in 64 bits. -/
def Adjustable (usage : Nat) : Prop :=
  usage ≤ param.borrowSize.toNat ∨
    ∃ record, findTargetBorrowRecord env param.remoteNumaId = some record ∧
      (record.lentNuma = [] ∨
        usage - param.borrowSize.toNat ≤ 2 * 1024 * 1024 ∧
        ∃ slotId, env.safeStoul record.lentNode = some slotId ∧
          ((∀ answer ∈ answersFor env record slotId (stepFor param usage), answer = none) ∨
            ∃ memDesc, (answersFor env record slotId (stepFor param usage)).findSome?
                (arrived param.remoteNumaId) = some memDesc ∧
              param.borrowSize.toNat + memDesc.size.toNat / 1024 < 2 ^ 64))

variable {env param} {usage : Nat}

theorem adjusts_some_iff {adjusted : OverCommitFaultMemIdExecuteParam}
    {made : List (Option UbseMemNumaDesc)} :
    Adjusts env param usage (some adjusted, made) ↔ usage ≤ adjusted.borrowSize.toNat := by
  constructor
  · intro h
    exact h.covers adjusted rfl
  · intro h
    refine ⟨?_, nofun, nofun, nofun⟩
    rintro _ ⟨⟩
    exact h

theorem adjusts_none_iff {made : List (Option UbseMemNumaDesc)} :
    Adjusts env param usage (none, made) ↔
      (∃ record, findTargetBorrowRecord env param.remoteNumaId = some record ∧
        made.length = record.lentNuma.length) ∧ ∀ answer ∈ made, answer = none := by
  constructor
  · intro h
    exact ⟨h.asked rfl, h.nothingLeft rfl⟩
  · rintro ⟨hasked, hnone⟩
    refine ⟨nofun, fun _ => hasked, ?_, fun _ => hnone⟩
    rintro - answer hanswer
    rw [hnone answer hanswer]
    rfl

theorem adjusts_refused_iff : Adjusts env param usage (none, []) ↔
    ∃ record, findTargetBorrowRecord env param.remoteNumaId = some record ∧
      record.lentNuma = [] := by
  rw [adjusts_none_iff]
  constructor
  · rintro ⟨⟨record, hrecord, hlength⟩, -⟩
    exact ⟨record, hrecord, List.eq_nil_of_length_eq_zero hlength.symm⟩
  · rintro ⟨record, hrecord, hnil⟩
    exact ⟨⟨record, hrecord, by rw [hnil]; rfl⟩, by simp⟩

/-- The record is found, its slot is a number, and its lenders are asked. -/
theorem adjusts_executeMemBorrow_iff {record : BorrowRecord} {slotId : BitVec 32}
    {adjustSize : BitVec 64}
    (hrecord : findTargetBorrowRecord env param.remoteNumaId = some record)
    (hslot : env.safeStoul record.lentNode = some slotId)
    (hcovers : ∀ memDesc, some memDesc ∈ answersFor env record slotId adjustSize →
      usage ≤ param.borrowSize.toNat + memDesc.size.toNat / 1024)
    (hmissing : param.borrowSize.toNat < usage) {f : UbseMemNumaDesc →
      OverCommitFaultMemIdExecuteParam}
    (hf : ∀ memDesc, (f memDesc).borrowSize = param.borrowSize + memDesc.size / KB) :
    Adjusts env param usage
      ((executeMemBorrow env record adjustSize param.remoteNumaId).1.map f,
        (executeMemBorrow env record adjustSize param.remoteNumaId).2) ↔
      (∀ answer ∈ answersFor env record slotId adjustSize, answer = none) ∨
        ∃ memDesc, (answersFor env record slotId adjustSize).findSome?
            (arrived param.remoteNumaId) = some memDesc ∧
          param.borrowSize.toNat + memDesc.size.toNat / 1024 < 2 ^ 64 := by
  have hexecute : executeMemBorrow env record adjustSize param.remoteNumaId =
      createEach env.ubseMemNumaCreateWithLender param.remoteNumaId 0
        (createRequests env record slotId adjustSize) := by
    rw [executeMemBorrow, hslot]
  have hfst : (executeMemBorrow env record adjustSize param.remoteNumaId).1 =
      (answersFor env record slotId adjustSize).findSome? (arrived param.remoteNumaId) := by
    rw [hexecute, fst_createEach, answersFor]
  rcases harrived : (answersFor env record slotId adjustSize).findSome?
      (arrived param.remoteNumaId) with _ | memDesc
  · -- nothing arrives: every lender was asked
    have hsnd : (executeMemBorrow env record adjustSize param.remoteNumaId).2 =
        answersFor env record slotId adjustSize := by
      rw [hexecute, answersFor]
      exact snd_createEach (by rw [← hexecute, hfst, harrived])
    rw [hfst, harrived, hsnd, Option.map_none, adjusts_none_iff]
    constructor
    · rintro ⟨-, hnone⟩
      exact .inl hnone
    · rintro (hnone | ⟨memDesc, hmemDesc, -⟩)
      · refine ⟨⟨record, hrecord, ?_⟩, hnone⟩
        rw [answersFor, length_answers, createRequests, List.length_map]
      · exact nomatch hmemDesc
  · -- what arrives is added, and it is enough unless the sum goes round
    obtain ⟨answer, hmem, hanswer⟩ := List.exists_of_findSome?_eq_some harrived
    have hsome : answer = some memDesc := by
      rw [arrived, Option.filter_eq_some_iff] at hanswer
      exact hanswer.1
    rw [hsome] at hmem
    have hsize : (f memDesc).borrowSize.toNat =
        (param.borrowSize.toNat + memDesc.size.toNat / 1024) % 2 ^ 64 := by
      rw [hf, BitVec.toNat_add, BitVec.toNat_udiv]
      rfl
    have henough := hcovers memDesc hmem
    have hsmall : memDesc.size.toNat / 1024 < 2 ^ 64 := by
      have := memDesc.size.isLt
      omega
    have hborrowed := param.borrowSize.isLt
    rw [hfst, harrived, Option.map_some, adjusts_some_iff, hsize]
    constructor
    · intro hle
      refine .inr ⟨memDesc, rfl, ?_⟩
      by_contra hover
      omega
    · rintro (hnone | ⟨memDesc', hmemDesc', hlt⟩)
      · exact nomatch hnone _ hmem
      · obtain rfl := Option.some.inj hmemDesc'
        rw [Nat.mod_eq_of_lt hlt]
        exact henough

/-- What is created is at least a step. -/
theorem le_of_mem_answersFor {record : BorrowRecord} {slotId : BitVec 32} {adjustSize : BitVec 64}
    {memDesc : UbseMemNumaDesc} (hle : adjustSize.toNat ≤ 4)
    (hcreates : ∀ k request memDesc, env.ubseMemNumaCreateWithLender k request = some memDesc →
      (request.lenders.map fun lender => lender.size.toNat).sum ≤ memDesc.size.toNat)
    (h : some memDesc ∈ answersFor env record slotId adjustSize) :
    adjustSize.toNat * (1024 * 1024) ≤ memDesc.size.toNat / 1024 := by
  obtain ⟨i, request, hrequest, hanswer⟩ := mem_answers h
  obtain ⟨numaId, -, rfl⟩ := List.mem_map.1 hrequest
  have hsize := hcreates i _ memDesc hanswer.symm
  have hgb : GB_TO_BYTE.toNat = 1024 * 1024 * 1024 := by decide
  have hbytes : (adjustSize * GB_TO_BYTE).toNat = adjustSize.toNat * (1024 * 1024 * 1024) := by
    rw [BitVec.toNat_mul, hgb, Nat.mod_eq_of_lt (by omega)]
  rw [List.map_singleton, List.sum_singleton, hbytes] at hsize
  exact (Nat.le_div_iff_mul_le (by decide)).2 
    (Nat.le_trans (Nat.le_of_eq (Nat.mul_assoc _ _ _)) hsize)

end Adjustment

/-! ### Two shortfalls -/

/-- One virtual machine uses some memory of the NUMA node 4 that fails. The node that lends for the
NUMA node 5 creates whatever it is asked for. -/
def oneLender (remoteUsedMem : BitVec 64) : Env where
  getMpSceneType := .VIRTUAL_SCENE
  getNodeId := "1"
  getRemoteNumaVms _ := some [⟨7, 4, remoteUsedMem⟩]
  collectBorrowRecordsWithFault _ := some [⟨"2", 0, [1], 0, 5, 0, ""⟩]
  safeStoul _ := some 2
  generateUniqueId nodeId := nodeId
  ubseMemNumaCreateWithLender _ request :=
    match request.lenders with
    | [lender] => some ⟨5, lender.size⟩
    | _ => none

/-- The machine is to be sent from the NUMA node 4 to the NUMA node 5, where nothing is borrowed. -/
def toNumaFive : OverCommitFaultMemIdExecuteParam := ⟨[7], 5, 4, 0, 0⟩

theorem uses_oneLender (remoteUsedMem : BitVec 64) :
    Uses [7] [⟨7, 4, remoteUsedMem⟩] remoteUsedMem.toNat := by
  have hlookup : (pidMap [⟨7, 4, remoteUsedMem⟩]).lookup 7 = some ⟨7, 4, remoteUsedMem⟩ := rfl
  refine ⟨⟨4, fun pid hpid => ?_⟩, ?_, remoteUsedMem.isLt⟩
  · obtain rfl := List.mem_singleton.1 hpid
    exact ⟨_, hlookup, rfl⟩
  · rw [List.map_singleton, List.sum_singleton, used, hlookup]
    rfl

end FaultMemId

end UbsEngine
