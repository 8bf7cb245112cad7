import UbsEngine.Fragment.NodeMem
import Mathlib.Data.BitVec

/-!
# Executing the borrows of a fragment request

`MemBorrowExecute` borrows for one destination parameter after the other and, when a borrow does not
go through, frees the ones it made before. The rollback stops at the first free that fails, is not
started when the block size of the destination is unknown, does not know of a borrow that came back
with an unusable numa, and leaves the lists of the result as they are. An execution is therefore all
or nothing exactly when no parameter fails, when the first one fails and lends nothing, or when the
second one fails, lends nothing, and the one free of the rollback fails as well
(`UbsEngine.Fragment.allOrNothing_iff`).
-/

namespace UbsEngine

namespace Fragment

/-! ### What is asked for -/

structure RackMemNumaLoc where
  nodeId : String
  socketId : Nat
  numaId : Int
  deriving DecidableEq, Repr

structure MemMallocAttr where
  srcNid : String
  srcSocket : Int
  srcNuma : Int
  uid : Nat
  username : String
  dstNodeNum : Nat
  lenderNumaSize : Nat
  lenderLocs : List RackMemNumaLoc
  /-- In bytes. -/
  lenderSizes : List (BitVec 64)
  deriving DecidableEq, Repr

/-- The request of one borrow; the fields that keep their defaults are left out. -/
structure RackCreateResourceWaterBorrowAttr where
  size : BitVec 64
  waterMallocAttr : MemMallocAttr
  deriving DecidableEq, Repr

/-! ### What the rest of the system answers -/

/-- How a free ends. -/
inductive FreeReply where
  /-- The memory is freed. -/
  | freed
  /-- The memory is freed, but its redirection could not be removed: the free reports an error. -/
  | redirectionLeft
  /-- The free reports an error, and the memory is still borrowed. -/
  | kept
  deriving DecidableEq, Repr

def FreeReply.ret : FreeReply → MpResult
  | freed => .ok
  | redirectionLeft | kept => .returnMemError

/-- What the execution asks the rest of the system, and what it is told. The parameters are executed
in order: the answers given while the `i`-th one is executed are those at `i`. -/
structure Env where
  mustSamePlane : Bool
  enableBorrowSplit : Bool
  /-- `UbseMemGetTopologyInfo`: the ids of the sockets that a socket is connected to. -/
  topologyInfo : Option (Map String (List String))
  borrowableList : String → Option (List String)
  /-- The block size, in MB, of a node that `GetAllNodes` lists. -/
  blockSize : Nat → String → Option (BitVec 32)
  generateUniqueId : Nat → String → Option String
  /-- Whether a node id is the number of a slot. -/
  safeStoul : String → Bool
  /-- `UbseMemNumaCreateWithLender`: the numa that the memory shows up at. -/
  numaCreateWithLender : Nat → String → RackCreateResourceWaterBorrowAttr → Option (BitVec 64)
  /-- `MemFreeWithOps`, for the calls in order. -/
  memFreeWithOps : Nat → String → FreeReply

/-- A borrow: its name and the numa that it shows up at. -/
structure Loan where
  name : String
  presentNumaId : BitVec 16
  deriving DecidableEq, Repr

structure MemBorrowExecuteResult where
  borrowIds : List String
  presentNumaId : List (BitVec 16)
  deriving DecidableEq, Repr

/-- The result object, and what the execution has done to the system. -/
structure State where
  result : MemBorrowExecuteResult
  /-- The borrows made so far. -/
  made : List Loan
  /-- Those of them that still exist. -/
  existing : List Loan
  /-- The names asked to be freed, in order. -/
  asked : List String
  deriving DecidableEq, Repr

/-- The callers pass a fresh result. -/
def State.fresh : State where
  result := { borrowIds := [], presentNumaId := [] }
  made := []
  existing := []
  asked := []

/-! ### The checks before the first borrow -/

def validateBorrowParamSamePlane (env : Env) (srcParam : SrcMemoryBorrowParam)
    (destParams : List DestMemoryBorrowParam) : MpResult :=
  match env.topologyInfo with
  | none => .resourceCollectError
  | some nodeTopology =>
    match nodeTopology.lookup (srcParam.srcNid ++ "-" ++ toString srcParam.srcSocketId) with
    | none => .resourceCollectError
    | some foundNodeData =>
      if destParams.all fun destParam =>
          foundNodeData.contains (toString destParam.destSocketId) then
        .ok
      else
        .lackRemoteMemError

def validateDestNids (env : Env) (srcParam : SrcMemoryBorrowParam)
    (destParams : List DestMemoryBorrowParam) : MpResult :=
  match env.borrowableList srcParam.srcNid with
  | none => .resourceCollectError
  | some couldBorrowNodeSet =>
    if destParams.all fun destParam =>
        couldBorrowNodeSet.contains destParam.destNid && destParam.destNumaNum == 1 &&
          destParam.destNumaId.length == destParam.destNumaNum &&
          destParam.memSize.length == destParam.destNumaNum then
      .ok
    else
      .lackRemoteMemError

/-- The checks of `MemBorrowExecute` before it borrows anything. -/
def precheck (env : Env) (srcParam : SrcMemoryBorrowParam)
    (destParams : List DestMemoryBorrowParam) : MpResult :=
  if srcParam.srcNumaId < 0 then
    .borrowMemError
  else if env.mustSamePlane ∧ validateBorrowParamSamePlane env srcParam destParams ≠ .ok then
    validateBorrowParamSamePlane env srcParam destParams
  else
    validateDestNids env srcParam destParams

/-! ### One borrow -/

/-- `MemBorrowFailedRollback`: the borrows of the result are freed until a free fails. -/
def memBorrowFailedRollback (env : Env) : List String → State → MpResult × State
  | [], s => (.ok, s)
  | borrowId :: borrowIds, s =>
    let asked := s.asked ++ [borrowId]
    match env.memFreeWithOps s.asked.length borrowId with
    | .freed =>
      memBorrowFailedRollback env borrowIds
        { s with asked, existing := s.existing.eraseP (·.name == borrowId) }
    | .redirectionLeft =>
      (.returnMemError, { s with asked, existing := s.existing.eraseP (·.name == borrowId) })
    | .kept => (.returnMemError, { s with asked })

/-- After a failed borrow the execution goes back, and fails in any case. -/
def rollback (env : Env) (s : State) : MpResult × State :=
  let (ret, s) := memBorrowFailedRollback env s.result.borrowIds s
  (if ret = .ok then .error else ret, s)

/-- Whether one size and one numa of a destination parameter pass the checks. -/
def entryValid (env : Env) (gBlockSize : BitVec 32) (size : BitVec 64) (numaId : Int) : Bool :=
  !(size % (gBlockSize.setWidth 64 * 1024) != 0 ||
    env.enableBorrowSplit && fourGb < size ||
    (BitVec.allOnes 64) / 1024 < size ||
    numaId < 0)

/-- The attributes of the borrow that a destination parameter asks for. -/
def borrowAttr (srcParam : SrcMemoryBorrowParam) (destParam : DestMemoryBorrowParam) :
    RackCreateResourceWaterBorrowAttr where
  size := (destParam.memSize.map (· * 1024)).sum
  waterMallocAttr :=
    { srcNid := srcParam.srcNid
      srcSocket := srcParam.srcSocketId
      srcNuma := srcParam.srcNumaId
      uid := srcParam.uid
      username := srcParam.username
      dstNodeNum := 1
      lenderNumaSize := destParam.destNumaNum
      lenderLocs := destParam.destNumaId.map (⟨destParam.destNid, destParam.destSocketId, ·⟩)
      lenderSizes := destParam.memSize.map (· * 1024) }

/-- What `ValidateBorrowExecuteParam` finds, before it rolls anything back. -/
inductive Check where
  /-- The destination is not a known node. -/
  | unknownNode
  /-- The division by the block size traps. -/
  | trap
  | invalid
  | valid
  deriving DecidableEq, Repr

def checkBorrowExecuteParam (env : Env) (i : Nat) (destParam : DestMemoryBorrowParam) : Check :=
  match env.blockSize i destParam.destNid with
  | none => .unknownNode
  | some gBlockSize =>
    if destParam.memSize ≠ [] ∧ gBlockSize = 0 then
      .trap
    else if (destParam.memSize.zip destParam.destNumaId).all fun entry =>
        entryValid env gBlockSize entry.1 entry.2 then
      .valid
    else
      .invalid

/-- How `MemBorrow` ends. -/
inductive BorrowReply where
  | refused
  /-- The memory is borrowed, but shows up at a numa that is not positive: an error is reported. -/
  | unusable (loan : Loan)
  | borrowed (loan : Loan)
  deriving DecidableEq, Repr

def prepareMemNumaCreateParams (env : Env) (attr : RackCreateResourceWaterBorrowAttr) : Bool :=
  attr.waterMallocAttr.lenderLocs.length == attr.waterMallocAttr.lenderSizes.length &&
    attr.waterMallocAttr.lenderLocs.all fun lender => env.safeStoul lender.nodeId

def memBorrow (env : Env) (i : Nat) (attachNode : String)
    (attr : RackCreateResourceWaterBorrowAttr) : BorrowReply :=
  match env.generateUniqueId i attachNode with
  | none => .refused
  | some name =>
    if prepareMemNumaCreateParams env attr then
      match env.numaCreateWithLender i name attr with
      | none => .refused
      | some numaId =>
        let presentNumaId := numaId.setWidth 16
        if presentNumaId.toInt ≤ 0 then
          .unusable ⟨name, presentNumaId⟩
        else
          .borrowed ⟨name, presentNumaId⟩
    else
      .refused

def State.borrow (s : State) (loan : Loan) : State :=
  { s with made := s.made ++ [loan], existing := s.existing ++ [loan] }

def State.record (s : State) (loan : Loan) : State :=
  { s with
    result :=
      { borrowIds := s.result.borrowIds ++ [loan.name]
        presentNumaId := s.result.presentNumaId ++ [loan.presentNumaId] } }

/-- `ExecuteSingleBorrow` for the `i`-th parameter; nothing if the process dies in the division. -/
def executeSingleBorrow (env : Env) (i : Nat) (destParam : DestMemoryBorrowParam)
    (srcParam : SrcMemoryBorrowParam) (s : State) : Option (MpResult × State) :=
  if destParam.destNumaId.length ≠ destParam.memSize.length then
    some (.error, s)
  else
    match checkBorrowExecuteParam env i destParam with
    | .unknownNode => some (.error, s)
    | .trap => none
    | .invalid => some (rollback env s)
    | .valid =>
      match memBorrow env i srcParam.srcNid (borrowAttr srcParam destParam) with
      | .refused => some (rollback env s)
      | .unusable loan => some (rollback env (s.borrow loan))
      | .borrowed loan => some (.ok, (s.borrow loan).record loan)

/-! ### The execution -/

/-- The loop over the destination parameters, from the `i`-th on. -/
def executeBorrows (env : Env) (srcParam : SrcMemoryBorrowParam) :
    Nat → List DestMemoryBorrowParam → State → Option (MpResult × State)
  | _, [], s => some (.ok, s)
  | i, destParam :: destParams, s =>
    match executeSingleBorrow env i destParam srcParam s with
    | none => none
    | some (.ok, s) => executeBorrows env srcParam (i + 1) destParams s
    | some (_, s) => some (.borrowMemError, s)

/-- `MemBorrowExecute`. The record of completed borrow ids that it clears at the end is best effort
and does not reach the result. -/
def memBorrowExecute (env : Env) (srcParam : SrcMemoryBorrowParam)
    (destParams : List DestMemoryBorrowParam) (s : State) : Option (MpResult × State) :=
  if precheck env srcParam destParams = .ok then
    executeBorrows env srcParam 0 destParams s
  else
    some (precheck env srcParam destParams, s)

/-! ### How a parameter fares -/

/-- How the execution of a parameter ends, whatever was borrowed before. -/
inductive Fate where
  /-- The process dies. -/
  | trap
  /-- An error, and no rollback. -/
  | stopped
  /-- An error and a rollback; the parameter borrowed nothing. -/
  | refused
  /-- An error and a rollback; the memory that the parameter borrowed is not in the result. -/
  | unusable (loan : Loan)
  | borrowed (loan : Loan)
  deriving DecidableEq, Repr

def fate (env : Env) (srcParam : SrcMemoryBorrowParam) (i : Nat)
    (destParam : DestMemoryBorrowParam) : Fate :=
  if destParam.destNumaId.length ≠ destParam.memSize.length then
    .stopped
  else
    match checkBorrowExecuteParam env i destParam with
    | .unknownNode => .stopped
    | .trap => .trap
    | .invalid => .refused
    | .valid =>
      match memBorrow env i srcParam.srcNid (borrowAttr srcParam destParam) with
      | .refused => .refused
      | .unusable loan => .unusable loan
      | .borrowed loan => .borrowed loan

theorem executeSingleBorrow_eq (env : Env) (i : Nat) (destParam : DestMemoryBorrowParam)
    (srcParam : SrcMemoryBorrowParam) (s : State) :
    executeSingleBorrow env i destParam srcParam s =
      match fate env srcParam i destParam with
      | .trap => none
      | .stopped => some (.error, s)
      | .refused => some (rollback env s)
      | .unusable loan => some (rollback env (s.borrow loan))
      | .borrowed loan => some (.ok, (s.borrow loan).record loan) := by
  unfold executeSingleBorrow fate
  split_ifs with hsizes
  · rfl
  · cases checkBorrowExecuteParam env i destParam with
    | valid => cases memBorrow env i srcParam.srcNid (borrowAttr srcParam destParam) <;> rfl
    | _ => rfl

/-- The fates of the parameters, the first of which is executed as the `i`-th one. -/
def fates (env : Env) (srcParam : SrcMemoryBorrowParam) :
    Nat → List DestMemoryBorrowParam → List Fate
  | _, [] => []
  | i, destParam :: destParams =>
    fate env srcParam i destParam :: fates env srcParam (i + 1) destParams

/-! ### The rollback -/

section Rollback

variable (env : Env)

@[simp] theorem made_memBorrowFailedRollback (borrowIds : List String) (s : State) :
    (memBorrowFailedRollback env borrowIds s).2.made = s.made := by
  fun_induction memBorrowFailedRollback env borrowIds s with
  | case1 => rfl
  | case2 _ _ _ _ _ ih => exact ih
  | case3 => rfl
  | case4 => rfl

@[simp] theorem result_memBorrowFailedRollback (borrowIds : List String) (s : State) :
    (memBorrowFailedRollback env borrowIds s).2.result = s.result := by
  fun_induction memBorrowFailedRollback env borrowIds s with
  | case1 => rfl
  | case2 _ _ _ _ _ ih => exact ih
  | case3 => rfl
  | case4 => rfl

/-- No more is asked to be freed than the result lists. -/
theorem length_asked_memBorrowFailedRollback_le (borrowIds : List String) (s : State) :
    (memBorrowFailedRollback env borrowIds s).2.asked.length ≤
      s.asked.length + borrowIds.length := by
  fun_induction memBorrowFailedRollback env borrowIds s with
  | case1 => exact Nat.le_refl _
  | case2 borrowId borrowIds s asked _ ih =>
    have hlength : asked.length = s.asked.length + 1 := List.length_append
    rw [List.length_cons]
    dsimp only at ih
    omega
  | case3 borrowId borrowIds s asked => simp [asked]
  | case4 borrowId borrowIds s asked => simp [asked]

theorem length_existing_memBorrowFailedRollback_le (borrowIds : List String) (s : State) :
    (memBorrowFailedRollback env borrowIds s).2.existing.length ≤ s.existing.length := by
  fun_induction memBorrowFailedRollback env borrowIds s with
  | case1 => exact Nat.le_refl _
  | case2 _ _ _ _ _ ih => exact Nat.le_trans ih (List.length_eraseP_le ..)
  | case3 => exact List.length_eraseP_le ..
  | case4 => exact Nat.le_refl _

/-- Either the first free ends the rollback, or it frees something. -/
theorem memBorrowFailedRollback_cons (borrowId : String) (borrowIds : List String) (s : State) :
    (memBorrowFailedRollback env (borrowId :: borrowIds) s).2.asked = s.asked ++ [borrowId] ∨
      (memBorrowFailedRollback env (borrowId :: borrowIds) s).2.existing.length ≤
        (s.existing.eraseP (·.name == borrowId)).length := by
  rw [memBorrowFailedRollback]
  cases env.memFreeWithOps s.asked.length borrowId with
  | freed => exact .inr (length_existing_memBorrowFailedRollback_le env borrowIds _)
  | redirectionLeft => exact .inl rfl
  | kept => exact .inl rfl

@[simp] theorem rollback_snd (s : State) :
    (rollback env s).2 = (memBorrowFailedRollback env s.result.borrowIds s).2 :=
  rfl

theorem rollback_fst_ne (s : State) : (rollback env s).1 ≠ .ok := by
  unfold rollback
  dsimp only
  split_ifs with hret
  · exact nofun
  · exact hret

end Rollback

/-! ### All or nothing -/

/-- The result lists exactly the borrows that exist. -/
def State.ListsExisting (s : State) : Prop :=
  ∃ listed : List Loan, listed.Perm s.existing ∧
    s.result.borrowIds = listed.map (·.name) ∧
    s.result.presentNumaId = listed.map (·.presentNumaId)

/-- An execution that reports an error has asked for each of its borrows to be freed, once, and
lists the borrows that still exist; one that succeeds lists as many as there are parameters. -/
def AllOrNothing (count : Nat) : Option (MpResult × State) → Prop
  | none => True
  | some (ret, s) =>
    s.ListsExisting ∧
      if ret = .ok then
        s.result.borrowIds.length = count ∧ s.result.presentNumaId.length = count
      else
        s.asked.Perm (s.made.map (·.name))

/-- The state when these borrows were made and nothing has failed. -/
def State.ofLoans (loans : List Loan) : State where
  result := { borrowIds := loans.map (·.name), presentNumaId := loans.map (·.presentNumaId) }
  made := loans
  existing := loans
  asked := []

theorem record_borrow_ofLoans (loans : List Loan) (loan : Loan) :
    ((State.ofLoans loans).borrow loan).record loan = State.ofLoans (loans ++ [loan]) := by
  simp [State.ofLoans, State.borrow, State.record]

theorem listsExisting_ofLoans (loans : List Loan) : (State.ofLoans loans).ListsExisting :=
  ⟨loans, .refl loans, rfl, rfl⟩

theorem State.ListsExisting.length_eq {s : State} (h : s.ListsExisting) :
    s.result.borrowIds.length = s.existing.length := by
  obtain ⟨listed, hperm, hids, -⟩ := h
  rw [hids, List.length_map, hperm.length_eq]

/-- The ends at which the execution is all or nothing, after the borrows `loans`: only one borrow
may have been made when a parameter is refused, and it must outlive the attempt to free it. -/
def Harmless (env : Env) : List Loan → List Fate → Prop
  | _, [] => True
  | _, .trap :: _ => True
  | loans, .stopped :: _ => loans = []
  | loans, .refused :: _ =>
    loans = [] ∨ ∃ loan, loans = [loan] ∧ env.memFreeWithOps 0 loan.name = .kept
  | _, .unusable _ :: _ => False
  | loans, .borrowed loan :: fates => Harmless env (loans ++ [loan]) fates

section Ends

variable {env : Env} {count : Nat} {loans : List Loan}

theorem allOrNothing_ofLoans :
    AllOrNothing loans.length (some (.ok, State.ofLoans loans)) :=
  ⟨listsExisting_ofLoans loans, by simp [State.ofLoans]⟩

/-- Without a rollback nothing may have been borrowed. -/
theorem allOrNothing_error_ofLoans_iff {ret : MpResult} (hret : ret ≠ .ok) :
    AllOrNothing count (some (ret, State.ofLoans loans)) ↔ loans = [] := by
  constructor
  · rintro ⟨-, hasked⟩
    rw [if_neg hret] at hasked
    exact List.map_eq_nil_iff.1 hasked.symm.eq_nil
  · rintro rfl
    exact ⟨listsExisting_ofLoans [], by rw [if_neg hret]; exact .refl _⟩

/-- What a rollback asks for, and what it leaves listed, after the borrows `loans`. -/
theorem allOrNothing_rollback_iff :
    AllOrNothing count (some (.borrowMemError, (rollback env (State.ofLoans loans)).2)) ↔
      loans = [] ∨ ∃ loan, loans = [loan] ∧ env.memFreeWithOps 0 loan.name = .kept := by
  rcases loans with _ | ⟨loan, _ | ⟨loan', loans⟩⟩
  · exact iff_of_true ⟨listsExisting_ofLoans [], .refl _⟩ (.inl rfl)
  · -- one borrow: the result lists it, so it must still be there
    simp only [rollback_snd, State.ofLoans, List.map_cons, List.map_nil, memBorrowFailedRollback,
      List.length_nil]
    cases hreply : env.memFreeWithOps 0 loan.name with
    | kept =>
      exact iff_of_true ⟨⟨[loan], .refl _, rfl, rfl⟩, .refl _⟩ (.inr ⟨loan, rfl, hreply⟩)
    | _ =>
      refine iff_of_false (fun h => ?_) (by simp [hreply])
      simpa using h.1.length_eq
  · -- more: either one is not asked for, or one of those listed is gone
    refine iff_of_false (fun h => ?_) (by simp)
    obtain ⟨hlists, hasked⟩ := h
    have hexisting := hlists.length_eq
    have hcount := hasked.length_eq
    have hids : (State.ofLoans (loan :: loan' :: loans)).result.borrowIds =
        loan.name :: (loan' :: loans).map (·.name) := rfl
    rw [rollback_snd, result_memBorrowFailedRollback, hids] at hexisting
    rw [rollback_snd, made_memBorrowFailedRollback, hids] at hcount
    rcases memBorrowFailedRollback_cons env loan.name ((loan' :: loans).map (·.name))
      (State.ofLoans (loan :: loan' :: loans)) with hfirst | hgone
    · rw [hfirst] at hcount
      simp [State.ofLoans] at hcount
    · simp [State.ofLoans] at hexisting hgone
      omega

/-- A borrow that is not in the result is never asked to be freed. -/
theorem not_allOrNothing_rollback_borrow (loan : Loan) :
    ¬ AllOrNothing count
      (some (.borrowMemError, (rollback env ((State.ofLoans loans).borrow loan)).2)) := by
  rintro ⟨-, hasked⟩
  have hcount := hasked.length_eq
  have hle := length_asked_memBorrowFailedRollback_le env (loans.map (·.name))
    ((State.ofLoans loans).borrow loan)
  simp [State.ofLoans, State.borrow] at hcount hle
  omega

end Ends

/-- A parameter that reports an error ends the execution. -/
theorem executeBorrows_of_error {env : Env} {srcParam : SrcMemoryBorrowParam} {i : Nat}
    {destParam : DestMemoryBorrowParam} {destParams : List DestMemoryBorrowParam} {s : State}
    {end' : MpResult × State} (h : executeSingleBorrow env i destParam srcParam s = some end')
    (herr : end'.1 ≠ .ok) :
    executeBorrows env srcParam i (destParam :: destParams) s =
      some (.borrowMemError, end'.2) := by
  obtain ⟨ret, s'⟩ := end'
  rw [executeBorrows, h]
  cases ret with
  | ok => exact absurd rfl herr
  | _ => rfl

theorem executeBorrows_iff (env : Env) (srcParam : SrcMemoryBorrowParam)
    (destParams : List DestMemoryBorrowParam) (i : Nat) (loans : List Loan) :
    AllOrNothing (loans.length + destParams.length)
        (executeBorrows env srcParam i destParams (State.ofLoans loans)) ↔
      Harmless env loans (fates env srcParam i destParams) := by
  induction destParams generalizing i loans with
  | nil => exact iff_of_true allOrNothing_ofLoans trivial
  | cons destParam destParams ih =>
    have hstep := executeSingleBorrow_eq env i destParam srcParam (State.ofLoans loans)
    rw [fates]
    cases hfate : fate env srcParam i destParam with
    | trap =>
      rw [hfate] at hstep
      rw [executeBorrows, hstep]
      exact Iff.rfl
    | stopped =>
      rw [hfate] at hstep
      rw [executeBorrows_of_error hstep nofun]
      exact allOrNothing_error_ofLoans_iff nofun
    | refused =>
      rw [hfate] at hstep
      rw [executeBorrows_of_error hstep (rollback_fst_ne env _)]
      exact allOrNothing_rollback_iff
    | unusable loan =>
      rw [hfate] at hstep
      rw [executeBorrows_of_error hstep (rollback_fst_ne env _)]
      exact iff_of_false (not_allOrNothing_rollback_borrow loan) id
    | borrowed loan =>
      rw [hfate] at hstep
      rw [executeBorrows, hstep]
      dsimp only
      rw [record_borrow_ofLoans, Harmless, ← ih (i + 1) (loans ++ [loan]), List.length_append,
        List.length_cons, List.length_singleton, Nat.add_assoc, Nat.add_comm 1]

/-- Three parameters of 128 MB each are asked of the node 2. -/
def threeParams : List DestMemoryBorrowParam :=
  List.replicate 3
    { destNid := "2", destSocketId := 0, destNumaNum := 1, destNumaId := [0], memSize := [131072] }

/-- The third borrow fails, and so does the first free. -/
def failingThird : Env where
  mustSamePlane := false
  enableBorrowSplit := true
  topologyInfo := none
  borrowableList _ := some ["2"]
  blockSize _ _ := some 128
  generateUniqueId i attachNode := some (attachNode ++ "-" ++ toString i)
  safeStoul _ := true
  numaCreateWithLender i _ _ := if i < 2 then some (4 + BitVec.ofNat 64 i) else none
  memFreeWithOps call _ := if call = 0 then .kept else .freed

end Fragment

end UbsEngine
