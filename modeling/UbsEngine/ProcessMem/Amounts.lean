import UbsEngine.Library.Grouping
import UbsEngine.ProcessMem.Quota

/-!
# What a round borrows

A round fills the shortages of the local numas one after the other. For each shortage the
candidates are put in order, and each gives the least of what it may still borrow, what is still
short, and what it is estimated to have on the numa, rounded up to whole blocks. Whether a process
is still managed when its amount is recorded depends on what happens next to the round, and is
given from outside.

The first two bounds are whole blocks before the rounding, and the third is only rounded up to the
next block: `UbsEngine.ProcessMem.executeBorrowRound_within` says what that makes of the amounts of
a whole round.
-/

namespace UbsEngine

namespace ProcessMem

open Grouping

variable {blockSizeBytes : Nat}

/-- What is given to the executor. -/
structure Dispatch where
  pid : Int
  srcNumaId : Int
  amount : Nat
  deriving DecidableEq, Repr

/-- What a round meets when it comes to a shortage. -/
structure FillEnv where
  executorReady : Bool
  now : Nat
  /-- `RecordPendingBorrow` finds the process. -/
  managed : Int → Bool

/-- A round after an amount was recorded for a process. -/
def BorrowRoundCtx.record (ctx : BorrowRoundCtx) (pid : Int) (amount : Nat) : BorrowRoundCtx :=
  { ctx with
    borrowedThisRound := ctx.borrowedThisRound.insert pid
      ((ctx.borrowedThisRound.lookup pid).getD 0 + amount) }

/-- A turn of the second loop of `FillNumaShortage`: what is dispatched, unless the loop ends. -/
def fillTurn (blockSizeBytes : Nat) (managed : Bool) (ctx : BorrowRoundCtx)
    (shortage : NumaShortage) (c : OrderedCandidate) :
    Option (BorrowRoundCtx × NumaShortage × List Dispatch) :=
  if shortage.bytes = 0 then none
  else if ctx.canMigrateLeft c.candidate = 0 then some (ctx, shortage, [])
  else
    let amount := borrowAmount blockSizeBytes ctx shortage c
    let pid := c.candidate.pid
    if amount = 0 then none
    else if managed then
      some (ctx.record pid amount, { shortage with bytes := shortage.bytes - amount },
        [{ pid, srcNumaId := shortage.srcNumaId, amount }])
    else some (ctx, shortage, [])

def fillOrdered (blockSizeBytes : Nat) (managed : Int → Bool) (ctx : BorrowRoundCtx)
    (shortage : NumaShortage) : List OrderedCandidate → BorrowRoundCtx × List Dispatch
  | [] => (ctx, [])
  | c :: ordered =>
    match fillTurn blockSizeBytes (managed c.candidate.pid) ctx shortage c with
    | none => (ctx, [])
    | some (ctx', shortage', dispatched) =>
      let r := fillOrdered blockSizeBytes managed ctx' shortage' ordered
      (r.1, dispatched ++ r.2)

def fillNumaShortage (blockSizeBytes : Nat) (env : FillEnv) (ctx : BorrowRoundCtx)
    (shortage : NumaShortage) : BorrowRoundCtx × List Dispatch :=
  if shortage.bytes = 0 ∨ env.executorReady = false then (ctx, [])
  else
    fillOrdered blockSizeBytes env.managed ctx shortage
      (orderedCandidates blockSizeBytes env.now ctx shortage.srcNumaId)

/-- What a round dispatches for each of its shortages. -/
def executeBorrowRound (blockSizeBytes : Nat) :
    BorrowRoundCtx → List (FillEnv × NumaShortage) → List (NumaShortage × List Dispatch)
  | _, [] => []
  | ctx, (env, shortage) :: shortages =>
    let r := fillNumaShortage blockSizeBytes env ctx shortage
    (shortage, r.2) :: executeBorrowRound blockSizeBytes r.1 shortages

/-- What is dispatched for a process. -/
def bytesFor (pid : Int) (dispatched : List Dispatch) : Nat :=
  summed (dispatched.map fun d => (d.pid, d.amount)) pid

/-- What is dispatched for a process from a numa. -/
def bytesFrom (pid numaId : Int) (dispatched : List Dispatch) : Nat :=
  summed (dispatched.map fun d => ((d.pid, d.srcNumaId), d.amount)) (pid, numaId)

/-- What a candidate has on a numa, in whole blocks, if that is known. -/
def residentBlocks (blockSizeBytes : Nat) (residence : Int → List (Nat × Nat)) (numaId : Int)
    (c : BorrowCandidate) : Option Nat :=
  (estimateNumaResidentBytes numaId c.actual (residence c.pid)).map
    fun bytes => bytes / blockSizeBytes * blockSizeBytes

/-- **A round stays within its bounds.** -/
structure WithinBounds (blockSizeBytes : Nat) (candidates : List BorrowCandidate)
    (residence : Int → List (Nat × Nat)) (dispatched : List (NumaShortage × List Dispatch)) :
    Prop where
  blocks : ∀ r ∈ dispatched, ∀ d ∈ r.2, 0 < d.amount ∧ blockSizeBytes ∣ d.amount
  shortages : ∀ r ∈ dispatched, (r.2.map (·.amount)).sum < r.1.bytes + blockSizeBytes
  processes : ∀ c ∈ candidates, bytesFor c.pid (dispatched.flatMap (·.2)) ≤ c.canMigrate
  /-- For one shortage, whatever the others are. -/
  resident : ∀ r ∈ dispatched, ∀ c ∈ candidates,
    ∀ bytes ∈ residentBlocks blockSizeBytes residence r.1.srcNumaId c, bytesFor c.pid r.2 ≤ bytes
  /-- For all of them, if they are the shortages of different numas. -/
  numas : (dispatched.map (·.1.srcNumaId)).Nodup → ∀ c ∈ candidates, ∀ numaId,
    ∀ bytes ∈ residentBlocks blockSizeBytes residence numaId c,
      bytesFrom c.pid numaId (dispatched.flatMap (·.2)) ≤ bytes

/-! ### A turn -/

/-- **The turns are those of the rounds that run next to their tasks**: what is dispatched becomes
a task. -/
theorem fillNext_cons (s : DecisionState) (ctx : BorrowRoundCtx) (shortages : List NumaShortage)
    (shortage : NumaShortage) (debtId : String) (now : Nat) (c : OrderedCandidate)
    (ordered : List OrderedCandidate) :
    s.fillNext blockSizeBytes ctx shortages shortage debtId now (c :: ordered) =
      match fillTurn blockSizeBytes (c.candidate.pid ∈ s.cache) ctx shortage c with
      | none => { s with round := .borrowing ctx shortages }
      | some (ctx', shortage', dispatched) =>
        { cache := dispatched.foldl (fun cache d =>
            cache.change d.pid (recordPendingBorrow debtId d.amount d.srcNumaId now)) s.cache
          round := .filling ctx' shortages shortage' ordered
          tasks := s.tasks ++ dispatched.map fun d =>
            { debtId, pid := d.pid, need := d.amount, srcNumaId := d.srcNumaId } } := by
  rw [DecisionState.fillNext, fillTurn]
  by_cases hbytes : shortage.bytes = 0
  · simp only [if_pos hbytes]
  · by_cases hleft : ctx.canMigrateLeft c.candidate = 0
    · simp only [if_neg hbytes, if_pos hleft, List.foldl_nil, List.map_nil, List.append_nil]
    · by_cases hamount : borrowAmount blockSizeBytes ctx shortage c = 0
      · simp only [if_neg hbytes, if_neg hleft, if_pos hamount]
      · by_cases hmem : c.candidate.pid ∈ s.cache
        · simp only [if_neg hbytes, if_neg hleft, if_neg hamount, if_pos hmem]
          rw [decide_eq_true hmem]
          rfl
        · simp only [if_neg hbytes, if_neg hleft, if_neg hamount, if_neg hmem]
          rw [decide_eq_false hmem]
          simp only [Bool.false_eq_true, if_false, List.foldl_nil, List.map_nil, List.append_nil]

/-- What a turn does: nothing, or it gives a candidate's amount. -/
theorem fillTurn_cases {managed : Bool} {ctx ctx' : BorrowRoundCtx}
    {shortage shortage' : NumaShortage} {c : OrderedCandidate} {dispatched : List Dispatch}
    (h : fillTurn blockSizeBytes managed ctx shortage c = some (ctx', shortage', dispatched)) :
    (ctx' = ctx ∧ shortage' = shortage ∧ dispatched = []) ∨
      ∃ amount, amount = borrowAmount blockSizeBytes ctx shortage c ∧ 0 < amount ∧
        ctx' = ctx.record c.candidate.pid amount ∧
        shortage' = { shortage with bytes := shortage.bytes - amount } ∧
        dispatched = [⟨c.candidate.pid, shortage.srcNumaId, amount⟩] := by
  rw [fillTurn] at h
  split at h
  next => cases h
  next =>
    split at h
    next =>
      cases h
      exact .inl ⟨rfl, rfl, rfl⟩
    next =>
      dsimp only at h
      split at h
      next => cases h
      next hamount =>
        split at h
        next =>
          cases h
          exact .inr ⟨_, rfl, Nat.pos_of_ne_zero hamount, rfl, rfl, rfl⟩
        next =>
          cases h
          exact .inl ⟨rfl, rfl, rfl⟩

/-- A turn ends the loop if nothing is short any more. -/
theorem fillTurn_of_bytes_eq_zero {managed : Bool} {ctx : BorrowRoundCtx} {shortage : NumaShortage}
    (h : shortage.bytes = 0) (c : OrderedCandidate) :
    fillTurn blockSizeBytes managed ctx shortage c = none :=
  if_pos h

theorem ceilAlignBlock_lt (hblock : 0 < blockSizeBytes) (bytes : Nat) :
    ceilAlignBlock bytes blockSizeBytes < bytes + blockSizeBytes := by
  rw [ceilAlignBlock, if_neg hblock.ne']
  have := Nat.div_mul_le_self (bytes + blockSizeBytes - 1) blockSizeBytes
  omega

/-- An amount is less than a block above what is short. -/
theorem borrowAmount_lt (hblock : 0 < blockSizeBytes) (ctx : BorrowRoundCtx)
    (shortage : NumaShortage) (c : OrderedCandidate) :
    borrowAmount blockSizeBytes ctx shortage c < shortage.bytes + blockSizeBytes := by
  refine (ceilAlignBlock_lt hblock _).trans_le (Nat.add_le_add_right ?_ _)
  cases c.capBytes with
  | none => exact Nat.min_le_right _ _
  | some cap => exact (Nat.min_le_left _ _).trans (Nat.min_le_right _ _)

/-- An amount is at most what the candidate has, if that is whole blocks. -/
theorem borrowAmount_le_capBytes (hblock : 0 < blockSizeBytes) (ctx : BorrowRoundCtx)
    (shortage : NumaShortage) {c : OrderedCandidate} {cap : Nat} (hcap : c.capBytes = some cap)
    (hdvd : blockSizeBytes ∣ cap) : borrowAmount blockSizeBytes ctx shortage c ≤ cap := by
  refine ceilAlignBlock_le hblock.ne' hdvd ?_
  rw [hcap]
  exact Nat.min_le_right _ _

theorem lookup_record (ctx : BorrowRoundCtx) (pid pid' : Int) (amount : Nat) :
    (((ctx.record pid amount).borrowedThisRound.lookup pid').getD 0) =
      (ctx.borrowedThisRound.lookup pid').getD 0 + if pid = pid' then amount else 0 := by
  rw [BorrowRoundCtx.record, Map.lookup_insert_ite]
  split
  next h =>
    subst h
    rw [if_pos rfl]
    rfl
  next h => rw [if_neg fun heq => h heq.symm, Nat.add_zero]

theorem whole_record {ctx : BorrowRoundCtx} (h : ctx.Whole blockSizeBytes) {amount : Nat}
    (hdvd : blockSizeBytes ∣ amount) (pid : Int) : (ctx.record pid amount).Whole blockSizeBytes := by
  refine ⟨h.1, fun pid' => ?_⟩
  rw [lookup_record]
  refine Nat.dvd_add (h.2 pid') ?_
  split
  next => exact hdvd
  next => exact Nat.dvd_zero _

/-! ### The dispatches of a shortage -/

theorem bytesFor_append (pid : Int) (l m : List Dispatch) :
    bytesFor pid (l ++ m) = bytesFor pid l + bytesFor pid m := by
  rw [bytesFor, List.map_append, summed_append]
  rfl

theorem bytesFor_singleton (pid : Int) (d : Dispatch) :
    bytesFor pid [d] = if d.pid = pid then d.amount else 0 :=
  Nat.add_zero _

/-- Nothing is dispatched for a process that none of the dispatches is for. -/
theorem bytesFor_eq_zero {pid : Int} {dispatched : List Dispatch}
    (h : ∀ d ∈ dispatched, d.pid ≠ pid) : bytesFor pid dispatched = 0 := by
  refine summed_eq_zero fun x hx hkey => ?_
  obtain ⟨d, hd, rfl⟩ := List.mem_map.1 hx
  exact absurd hkey (h d hd)

/-- A round after what was dispatched. -/
def BorrowRoundCtx.recordAll (ctx : BorrowRoundCtx) (dispatched : List Dispatch) : BorrowRoundCtx :=
  dispatched.foldl (fun ctx d => ctx.record d.pid d.amount) ctx

theorem recordAll_append (ctx : BorrowRoundCtx) (l m : List Dispatch) :
    ctx.recordAll (l ++ m) = (ctx.recordAll l).recordAll m :=
  List.foldl_append

@[simp] theorem candidates_recordAll (ctx : BorrowRoundCtx) (dispatched : List Dispatch) :
    (ctx.recordAll dispatched).candidates = ctx.candidates := by
  induction dispatched generalizing ctx with
  | nil => rfl
  | cons d dispatched ih => exact ih (ctx.record d.pid d.amount)

@[simp] theorem residence_recordAll (ctx : BorrowRoundCtx) (dispatched : List Dispatch) :
    (ctx.recordAll dispatched).residence = ctx.residence := by
  induction dispatched generalizing ctx with
  | nil => rfl
  | cons d dispatched ih => exact ih (ctx.record d.pid d.amount)

/-- What a round has borrowed for a process is what it has dispatched for it. -/
theorem lookup_recordAll (ctx : BorrowRoundCtx) (dispatched : List Dispatch) (pid : Int) :
    ((ctx.recordAll dispatched).borrowedThisRound.lookup pid).getD 0 =
      (ctx.borrowedThisRound.lookup pid).getD 0 + bytesFor pid dispatched := by
  induction dispatched generalizing ctx with
  | nil => rfl
  | cons d dispatched ih =>
    refine (ih (ctx.record d.pid d.amount)).trans ?_
    rw [lookup_record, ← List.singleton_append, bytesFor_append, bytesFor_singleton, Nat.add_assoc]

section FillOrdered

variable {managed : Int → Bool} {ctx : BorrowRoundCtx} {shortage : NumaShortage}
  {ordered : List OrderedCandidate}

/-- The loop keeps book of what it dispatches. -/
theorem fillOrdered_fst :
    (fillOrdered blockSizeBytes managed ctx shortage ordered).1 =
      ctx.recordAll (fillOrdered blockSizeBytes managed ctx shortage ordered).2 := by
  induction ordered generalizing ctx shortage with
  | nil => rfl
  | cons c ordered ih =>
    rw [fillOrdered]
    cases hturn : fillTurn blockSizeBytes (managed c.candidate.pid) ctx shortage c with
    | none => rfl
    | some r =>
      obtain ⟨ctx', shortage', dispatched⟩ := r
      dsimp only
      rw [recordAll_append, ih]
      obtain ⟨rfl, -, rfl⟩ | ⟨amount, -, -, rfl, -, rfl⟩ := fillTurn_cases hturn
      · rfl
      · rfl

/-- Nothing is dispatched when nothing is short. -/
theorem fillOrdered_of_bytes_eq_zero (h : shortage.bytes = 0) :
    (fillOrdered blockSizeBytes managed ctx shortage ordered).2 = [] := by
  cases ordered with
  | nil => rfl
  | cons c ordered => rw [fillOrdered, fillTurn_of_bytes_eq_zero h]

/-- Each dispatch is some blocks for one of the candidates. -/
theorem mem_fillOrdered (hblock : 0 < blockSizeBytes) {d : Dispatch}
    (hd : d ∈ (fillOrdered blockSizeBytes managed ctx shortage ordered).2) :
    0 < d.amount ∧ blockSizeBytes ∣ d.amount ∧ d.srcNumaId = shortage.srcNumaId ∧
      ∃ c ∈ ordered, c.candidate.pid = d.pid := by
  induction ordered generalizing ctx shortage with
  | nil => cases hd
  | cons c ordered ih =>
    rw [fillOrdered] at hd
    cases hturn : fillTurn blockSizeBytes (managed c.candidate.pid) ctx shortage c with
    | none =>
      rw [hturn] at hd
      cases hd
    | some r =>
      obtain ⟨ctx', shortage', dispatched⟩ := r
      rw [hturn] at hd
      have hrest : ∀ {shortage' : NumaShortage},
          d ∈ (fillOrdered blockSizeBytes managed ctx' shortage' ordered).2 →
            shortage'.srcNumaId = shortage.srcNumaId →
              0 < d.amount ∧ blockSizeBytes ∣ d.amount ∧ d.srcNumaId = shortage.srcNumaId ∧
                ∃ a ∈ c :: ordered, a.candidate.pid = d.pid := by
        intro shortage' hmem hsrc
        obtain ⟨hpos, hdvd, hnuma, a, ha, hpid⟩ := ih hmem
        exact ⟨hpos, hdvd, hnuma.trans hsrc, a, List.mem_cons_of_mem c ha, hpid⟩
      rcases List.mem_append.1 hd with hd | hd
      · obtain ⟨-, -, rfl⟩ | ⟨amount, rfl, hpos, -, -, rfl⟩ := fillTurn_cases hturn
        · cases hd
        · obtain rfl := List.mem_singleton.1 hd
          exact ⟨hpos, dvd_ceilAlignBlock hblock.ne' _, rfl, c, List.mem_cons_self, rfl⟩
      · obtain ⟨-, rfl, -⟩ | ⟨amount, -, -, -, rfl, -⟩ := fillTurn_cases hturn
        · exact hrest hd rfl
        · exact hrest hd rfl

/-- Less than a block more than what was short is dispatched. -/
theorem sum_fillOrdered_lt (hblock : 0 < blockSizeBytes) :
    (((fillOrdered blockSizeBytes managed ctx shortage ordered).2).map (·.amount)).sum <
      shortage.bytes + blockSizeBytes := by
  induction ordered generalizing ctx shortage with
  | nil => exact Nat.lt_add_left _ hblock
  | cons c ordered ih =>
    rw [fillOrdered]
    cases hturn : fillTurn blockSizeBytes (managed c.candidate.pid) ctx shortage c with
    | none => exact Nat.lt_add_left _ hblock
    | some r =>
      obtain ⟨ctx', shortage', dispatched⟩ := r
      dsimp only
      obtain ⟨rfl, rfl, rfl⟩ | ⟨amount, rfl, -, rfl, rfl, rfl⟩ := fillTurn_cases hturn
      · exact ih
      · have hlt := borrowAmount_lt hblock ctx shortage c
        generalize borrowAmount blockSizeBytes ctx shortage c = amount at hlt ⊢
        rw [List.map_append, List.sum_append, List.map_singleton, List.sum_singleton]
        rcases Nat.lt_or_ge amount shortage.bytes with hshort | hfilled
        · have := @ih (ctx.record c.candidate.pid amount)
            { shortage with bytes := shortage.bytes - amount }
          dsimp only at this ⊢
          omega
        · rw [fillOrdered_of_bytes_eq_zero (Nat.sub_eq_zero_of_le hfilled)]
          exact hlt

/-- Nothing is dispatched for a process that is not in the order. -/
theorem bytesFor_fillOrdered_eq_zero (hblock : 0 < blockSizeBytes) {pid : Int}
    (h : pid ∉ ordered.map (·.candidate.pid)) :
    bytesFor pid (fillOrdered blockSizeBytes managed ctx shortage ordered).2 = 0 := by
  refine bytesFor_eq_zero fun d hd hpid => ?_
  obtain ⟨-, -, -, c, hc, hcpid⟩ := mem_fillOrdered hblock hd
  exact h (List.mem_map.2 ⟨c, hc, hcpid.trans hpid⟩)

/-- **What is dispatched for a process is at most what it has**, as it has one turn. -/
theorem bytesFor_fillOrdered_le (hblock : 0 < blockSizeBytes)
    (hnodup : (ordered.map (·.candidate.pid)).Nodup) {c : OrderedCandidate} (hc : c ∈ ordered)
    {cap : Nat} (hcap : c.capBytes = some cap) (hdvd : blockSizeBytes ∣ cap) :
    bytesFor c.candidate.pid (fillOrdered blockSizeBytes managed ctx shortage ordered).2 ≤ cap := by
  induction ordered generalizing ctx shortage with
  | nil => cases hc
  | cons a ordered ih =>
    obtain ⟨ha, hnodup⟩ := List.nodup_cons.1 hnodup
    rw [fillOrdered]
    cases hturn : fillTurn blockSizeBytes (managed a.candidate.pid) ctx shortage a with
    | none => exact Nat.zero_le _
    | some r =>
      obtain ⟨ctx', shortage', dispatched⟩ := r
      dsimp only
      rw [bytesFor_append]
      rcases List.mem_cons.1 hc with rfl | hc
      · -- its own turn, and no other
        rw [bytesFor_fillOrdered_eq_zero hblock ha, Nat.add_zero]
        obtain ⟨-, -, rfl⟩ | ⟨amount, rfl, -, -, -, rfl⟩ := fillTurn_cases hturn
        · exact Nat.zero_le _
        · rw [bytesFor_singleton, if_pos rfl]
          exact borrowAmount_le_capBytes hblock ctx shortage hcap hdvd
      · have hother : bytesFor c.candidate.pid dispatched = 0 := by
          refine bytesFor_eq_zero fun d hd hpid => ha (List.mem_map.2 ⟨c, hc, ?_⟩)
          obtain ⟨-, -, rfl⟩ | ⟨amount, -, -, -, -, rfl⟩ := fillTurn_cases hturn
          · cases hd
          · rw [← hpid, List.mem_singleton.1 hd]
        rw [hother, Nat.zero_add]
        exact ih hnodup hc

/-- The round has borrowed no more for its candidates than they may borrow. -/
def BorrowRoundCtx.WithinQuota (ctx : BorrowRoundCtx) : Prop :=
  ∀ c ∈ ctx.candidates, (ctx.borrowedThisRound.lookup c.pid).getD 0 ≤ c.canMigrate

/-- **A turn keeps to what the candidates may borrow.** -/
theorem withinQuota_record (hblock : 0 < blockSizeBytes) (hwhole : ctx.Whole blockSizeBytes)
    (hpids : (ctx.candidates.map (·.pid)).Nodup) {c : OrderedCandidate}
    (hc : c.candidate ∈ ctx.candidates) (h : ctx.WithinQuota) :
    (ctx.record c.candidate.pid (borrowAmount blockSizeBytes ctx shortage c)).WithinQuota := by
  intro c' hc'
  rw [lookup_record]
  split
  next hpid =>
    -- candidates of the same process are the same
    obtain rfl := List.inj_on_of_nodup_map hpids hc hc' hpid
    have hle := borrowAmount_le hblock.ne' hwhole hc shortage
    have := h _ hc
    rw [BorrowRoundCtx.canMigrateLeft] at hle
    omega
  next => exact h c' hc'

theorem fillOrdered_invariant (hblock : 0 < blockSizeBytes)
    (hpids : (ctx.candidates.map (·.pid)).Nodup)
    (hordered : ∀ c ∈ ordered, c.candidate ∈ ctx.candidates) (hwhole : ctx.Whole blockSizeBytes)
    (h : ctx.WithinQuota) :
    (fillOrdered blockSizeBytes managed ctx shortage ordered).1.Whole blockSizeBytes ∧
      (fillOrdered blockSizeBytes managed ctx shortage ordered).1.WithinQuota := by
  induction ordered generalizing ctx shortage with
  | nil => exact ⟨hwhole, h⟩
  | cons c ordered ih =>
    rw [fillOrdered]
    cases hturn : fillTurn blockSizeBytes (managed c.candidate.pid) ctx shortage c with
    | none => exact ⟨hwhole, h⟩
    | some r =>
      obtain ⟨ctx', shortage', dispatched⟩ := r
      have hc := hordered c List.mem_cons_self
      have hordered := fun a ha => hordered a (List.mem_cons_of_mem c ha)
      obtain ⟨rfl, -, -⟩ | ⟨amount, rfl, -, rfl, -, -⟩ := fillTurn_cases hturn
      · exact ih hpids hordered hwhole h
      · exact ih hpids hordered (whole_record hwhole (dvd_ceilAlignBlock hblock.ne' _) _)
          (withinQuota_record hblock hwhole hpids hc h)

end FillOrdered

/-! ### One shortage -/

section FillNumaShortage

variable {env : FillEnv} {ctx : BorrowRoundCtx} {shortage : NumaShortage}

/-- What a candidate in the order has is what it has in whole blocks, if that is known. -/
theorem orderedCandidate_spec {now : Nat} {srcNumaId : Int} {c : BorrowCandidate}
    {a : OrderedCandidate} (h : orderedCandidate blockSizeBytes now ctx srcNumaId c = some a)
    (hblock : 0 < blockSizeBytes) :
    a.candidate = c ∧ ∀ bytes ∈ residentBlocks blockSizeBytes ctx.residence srcNumaId c,
      a.capBytes = some bytes := by
  rw [orderedCandidate] at h
  simp only [Option.ite_none_left_eq_some] at h
  obtain ⟨-, -, -, -, h⟩ := h
  cases h
  refine ⟨rfl, fun bytes hbytes => ?_⟩
  obtain ⟨resident, hresident, rfl⟩ := Option.map_eq_some_iff.1 hbytes
  rw [hresident, if_neg (by rintro ⟨-, ⟨⟩⟩)]
  exact congrArg some (if_neg hblock.ne')

/-- What is picked has the keys of what it is picked from. -/
theorem map_filterMap_sublist {α β κ : Type*} {f : α → Option β} {g : β → κ} {h : α → κ}
    (hf : ∀ a b, f a = some b → g b = h a) (l : List α) :
    ((l.filterMap f).map g).Sublist (l.map h) := by
  induction l with
  | nil => exact .slnil
  | cons a l ih =>
    rw [List.filterMap_cons]
    cases ha : f a with
    | none => exact ih.cons _
    | some b =>
      rw [List.map_cons, List.map_cons, hf a b ha]
      exact ih.cons_cons _

theorem mem_orderedCandidates {now : Nat} {srcNumaId : Int} {a : OrderedCandidate} :
    a ∈ orderedCandidates blockSizeBytes now ctx srcNumaId ↔
      ∃ c ∈ ctx.candidates, orderedCandidate blockSizeBytes now ctx srcNumaId c = some a :=
  (List.perm_insertionSort _ _).mem_iff.trans List.mem_filterMap

theorem nodup_orderedCandidates (hblock : 0 < blockSizeBytes)
    (hpids : (ctx.candidates.map (·.pid)).Nodup) (now : Nat) (srcNumaId : Int) :
    ((orderedCandidates blockSizeBytes now ctx srcNumaId).map (·.candidate.pid)).Nodup := by
  refine ((List.perm_insertionSort _ _).map fun a : OrderedCandidate =>
    a.candidate.pid).nodup_iff.2 ?_
  refine hpids.sublist (map_filterMap_sublist (fun c a hac => ?_) _)
  exact congrArg _ (orderedCandidate_spec hac hblock).1

/-- A shortage that is not filled, or the loop. -/
theorem fillNumaShortage_cases (blockSizeBytes : Nat) (env : FillEnv) (ctx : BorrowRoundCtx)
    (shortage : NumaShortage) :
    fillNumaShortage blockSizeBytes env ctx shortage = (ctx, []) ∨
      fillNumaShortage blockSizeBytes env ctx shortage =
        fillOrdered blockSizeBytes env.managed ctx shortage
          (orderedCandidates blockSizeBytes env.now ctx shortage.srcNumaId) := by
  rw [fillNumaShortage]
  split
  next => exact .inl rfl
  next => exact .inr rfl

theorem fillNumaShortage_fst (blockSizeBytes : Nat) (env : FillEnv) (ctx : BorrowRoundCtx)
    (shortage : NumaShortage) :
    (fillNumaShortage blockSizeBytes env ctx shortage).1 =
      ctx.recordAll (fillNumaShortage blockSizeBytes env ctx shortage).2 := by
  rcases fillNumaShortage_cases blockSizeBytes env ctx shortage with h | h
  · rw [h]
    rfl
  · rw [h]
    exact fillOrdered_fst

end FillNumaShortage

/-! ### The whole round -/

/-- What a round keeps from one shortage to the next. -/
structure BorrowRoundCtx.Proper (blockSizeBytes : Nat) (ctx : BorrowRoundCtx) : Prop where
  pids : (ctx.candidates.map (·.pid)).Nodup
  whole : ctx.Whole blockSizeBytes
  within : ctx.WithinQuota

section Round

variable {ctx : BorrowRoundCtx}

/-- **What one shortage makes the round dispatch.** -/
theorem fillNumaShortage_within (hblock : 0 < blockSizeBytes) (h : ctx.Proper blockSizeBytes)
    (env : FillEnv) (shortage : NumaShortage) :
    (fillNumaShortage blockSizeBytes env ctx shortage).1.Proper blockSizeBytes ∧
      (∀ d ∈ (fillNumaShortage blockSizeBytes env ctx shortage).2,
        0 < d.amount ∧ blockSizeBytes ∣ d.amount ∧ d.srcNumaId = shortage.srcNumaId) ∧
      (((fillNumaShortage blockSizeBytes env ctx shortage).2).map (·.amount)).sum <
        shortage.bytes + blockSizeBytes ∧
      ∀ c ∈ ctx.candidates,
        ∀ bytes ∈ residentBlocks blockSizeBytes ctx.residence shortage.srcNumaId c,
          bytesFor c.pid (fillNumaShortage blockSizeBytes env ctx shortage).2 ≤ bytes := by
  have hmem : ∀ a ∈ orderedCandidates blockSizeBytes env.now ctx shortage.srcNumaId,
      a.candidate ∈ ctx.candidates := by
    intro a ha
    obtain ⟨c, hc, hac⟩ := mem_orderedCandidates.1 ha
    exact (orderedCandidate_spec hac hblock).1 ▸ hc
  rcases fillNumaShortage_cases blockSizeBytes env ctx shortage with hfill | hfill
  · rw [hfill]
    exact ⟨h, fun d hd => (nomatch hd), Nat.lt_add_left _ hblock, fun _ _ _ _ => Nat.zero_le _⟩
  · have hcandidates : (fillNumaShortage blockSizeBytes env ctx shortage).1.candidates =
        ctx.candidates := by
      rw [fillNumaShortage_fst, candidates_recordAll]
    rw [hfill] at hcandidates ⊢
    have hinvariant : (fillOrdered blockSizeBytes env.managed ctx shortage _).1.Whole _ ∧ _ :=
      fillOrdered_invariant hblock h.pids hmem h.whole h.within
    obtain ⟨hwhole, hwithin⟩ := hinvariant
    refine ⟨⟨hcandidates.symm ▸ h.pids, hwhole, hwithin⟩, fun d hd => ?_,
      sum_fillOrdered_lt hblock, fun c hc bytes hbytes => ?_⟩
    · obtain ⟨hpos, hdvd, hnuma, -⟩ := mem_fillOrdered hblock hd
      exact ⟨hpos, hdvd, hnuma⟩
    · have hnodup := nodup_orderedCandidates hblock h.pids env.now shortage.srcNumaId
      by_cases hpid : c.pid ∈ (orderedCandidates blockSizeBytes env.now ctx shortage.srcNumaId).map
          (·.candidate.pid)
      · obtain ⟨a, ha, hapid⟩ := List.mem_map.1 hpid
        obtain ⟨c', hc', hac⟩ := mem_orderedCandidates.1 ha
        obtain ⟨rfl, hcap⟩ := orderedCandidate_spec hac hblock
        obtain rfl := List.inj_on_of_nodup_map h.pids hc' hc hapid
        refine bytesFor_fillOrdered_le hblock hnodup ha (hcap bytes hbytes) ?_
        obtain ⟨resident, -, rfl⟩ := Option.map_eq_some_iff.1 hbytes
        exact Nat.dvd_mul_left _ _
      · rw [bytesFor_fillOrdered_eq_zero hblock hpid]
        exact Nat.zero_le _

/-- Dispatches from one numa count for it or not at all. -/
theorem bytesFrom_of_srcNumaId {dispatched : List Dispatch} {numaId : Int}
    (h : ∀ d ∈ dispatched, d.srcNumaId = numaId) (pid numaId' : Int) :
    bytesFrom pid numaId' dispatched = if numaId = numaId' then bytesFor pid dispatched else 0 := by
  split
  next heq =>
    refine congrArg List.sum ?_
    rw [List.map_map, List.map_map]
    refine List.map_congr_left fun d hd => if_congr ?_ rfl rfl
    exact ⟨congrArg Prod.fst, fun hpid => Prod.ext hpid ((h d hd).trans heq)⟩
  next hne =>
    refine summed_eq_zero fun x hx hkey => ?_
    obtain ⟨d, hd, rfl⟩ := List.mem_map.1 hx
    exact absurd ((h d hd).symm.trans (congrArg Prod.snd hkey)) hne

/-- What a round dispatches from a proper state. -/
theorem executeBorrowRound_spec (hblock : 0 < blockSizeBytes) (h : ctx.Proper blockSizeBytes)
    (shortages : List (FillEnv × NumaShortage)) :
    (executeBorrowRound blockSizeBytes ctx shortages).map (·.1) = shortages.map (·.2) ∧
      (∀ r ∈ executeBorrowRound blockSizeBytes ctx shortages,
        (∀ d ∈ r.2, 0 < d.amount ∧ blockSizeBytes ∣ d.amount ∧ d.srcNumaId = r.1.srcNumaId) ∧
        (r.2.map (·.amount)).sum < r.1.bytes + blockSizeBytes ∧
        ∀ c ∈ ctx.candidates,
          ∀ bytes ∈ residentBlocks blockSizeBytes ctx.residence r.1.srcNumaId c,
            bytesFor c.pid r.2 ≤ bytes) ∧
      ∀ c ∈ ctx.candidates, (ctx.borrowedThisRound.lookup c.pid).getD 0 +
        bytesFor c.pid ((executeBorrowRound blockSizeBytes ctx shortages).flatMap (·.2)) ≤
          c.canMigrate := by
  induction shortages generalizing ctx with
  | nil => exact ⟨rfl, fun r hr => (nomatch hr), h.within⟩
  | cons head shortages ih =>
    obtain ⟨env, shortage⟩ := head
    obtain ⟨hproper, hamounts, hlt, hresident⟩ := fillNumaShortage_within hblock h env shortage
    obtain ⟨hfst, hall, hquota⟩ := ih hproper
    have hctx := fillNumaShortage_fst blockSizeBytes env ctx shortage
    rw [hctx] at hall hquota hfst
    simp only [candidates_recordAll, residence_recordAll] at hall hquota
    rw [executeBorrowRound, hctx]
    refine ⟨congrArg (shortage :: ·) hfst, List.forall_mem_cons.2 ⟨⟨hamounts, hlt, hresident⟩, hall⟩,
      fun c hc => ?_⟩
    have := hquota c hc
    rw [lookup_recordAll] at this
    rw [List.flatMap_cons, bytesFor_append, ← Nat.add_assoc]
    exact this

end Round

/-- From different numas, only one shortage of a round counts for each of them. -/
theorem bytesFrom_flatMap_le {dispatched : List (NumaShortage × List Dispatch)} {pid numaId : Int}
    {bytes : Nat} (hnumas : (dispatched.map (·.1.srcNumaId)).Nodup)
    (hsrc : ∀ r ∈ dispatched, ∀ d ∈ r.2, d.srcNumaId = r.1.srcNumaId)
    (hle : ∀ r ∈ dispatched, r.1.srcNumaId = numaId → bytesFor pid r.2 ≤ bytes) :
    bytesFrom pid numaId (dispatched.flatMap (·.2)) ≤ bytes := by
  induction dispatched with
  | nil => exact Nat.zero_le _
  | cons r dispatched ih =>
    obtain ⟨hr, hnumas⟩ := List.nodup_cons.1 hnumas
    obtain ⟨hsrc, hsrcs⟩ := List.forall_mem_cons.1 hsrc
    obtain ⟨hle, hles⟩ := List.forall_mem_cons.1 hle
    rw [List.flatMap_cons, bytesFrom, List.map_append, summed_append]
    have hhead := bytesFrom_of_srcNumaId hsrc pid numaId
    have htail := ih hnumas hsrcs hles
    rw [bytesFrom] at hhead htail
    rw [hhead]
    split
    next heq =>
      -- the others are for other numas
      have hzero : summed ((dispatched.flatMap (·.2)).map fun d => ((d.pid, d.srcNumaId), d.amount))
          (pid, numaId) = 0 := by
        refine summed_eq_zero fun x hx hkey => ?_
        obtain ⟨d, hd, rfl⟩ := List.mem_map.1 hx
        obtain ⟨r', hr', hd⟩ := List.mem_flatMap.1 hd
        refine absurd (List.mem_map.2 ⟨r', hr', ?_⟩) hr
        refine (hsrcs r' hr' d hd).symm.trans (Eq.trans ?_ heq.symm)
        exact congrArg Prod.snd hkey
      rw [hzero, Nat.add_zero]
      exact hle heq
    next => rwa [Nat.zero_add]

theorem nodup_candidatesOf (cache : ManagedPidCache) :
    ((candidatesOf blockSizeBytes cache).map (·.pid)).Nodup := by
  refine List.Nodup.sublist (map_filterMap_sublist (h := fun e : (_ : Int) × ManagedPidEntry => e.1)
    (fun e c hc => ?_) _) cache.nodupKeys
  rw [appendBorrowCandidate] at hc
  simp only [Option.ite_none_left_eq_some] at hc
  obtain ⟨-, -, hc⟩ := hc
  cases hc
  rfl

/-- **The amounts of a round stay within their bounds**, for any candidates of a cache, any
shortages and any estimate of where the memory is. -/
theorem executeBorrowRound_within (hblock : 0 < blockSizeBytes) {cache : ManagedPidCache}
    {candidates : List BorrowCandidate}
    (hcandidates : candidates.Perm (candidatesOf blockSizeBytes cache))
    (residence : Int → List (Nat × Nat)) (migratingSrcNumas : Int → Option (List Int))
    (shortages : List (FillEnv × NumaShortage)) :
    (executeBorrowRound blockSizeBytes { candidates, residence, migratingSrcNumas }
        shortages).map (·.1) = shortages.map (·.2) ∧
      WithinBounds blockSizeBytes candidates residence
        (executeBorrowRound blockSizeBytes { candidates, residence, migratingSrcNumas }
          shortages) := by
  have hproper : BorrowRoundCtx.Proper blockSizeBytes
      { candidates, residence, migratingSrcNumas } := by
    refine ⟨?_, ⟨fun c hc => ?_, fun pid => Nat.dvd_zero _⟩, fun c _ => Nat.zero_le _⟩
    · exact (hcandidates.map _).nodup_iff.2 (nodup_candidatesOf cache)
    · obtain ⟨e, -, -, hcan⟩ := mem_candidatesOf (hcandidates.mem_iff.1 hc)
      rw [hcan]
      exact dvd_canMigrate hblock.ne' e
  obtain ⟨hfst, hall, hquota⟩ := executeBorrowRound_spec hblock hproper shortages
  refine ⟨hfst, fun r hr d hd => ?_, fun r hr => (hall r hr).2.1, fun c hc => ?_,
    fun r hr => (hall r hr).2.2, fun hnumas c hc numaId bytes hbytes => ?_⟩
  · obtain ⟨hpos, hdvd, -⟩ := (hall r hr).1 d hd
    exact ⟨hpos, hdvd⟩
  · exact (Nat.le_add_left _ _).trans (hquota c hc)
  · refine bytesFrom_flatMap_le hnumas (fun r hr d hd => ((hall r hr).1 d hd).2.2)
      fun r hr hnuma => (hall r hr).2.2 c hc bytes ?_
    rwa [hnuma]

/-- A process without debts that has three quarters of its eight bytes on numa 0. -/
def roundCache : ManagedPidCache :=
  (∅ : ManagedPidCache).insert 7
    { vmRss := 8, maxMemory := 8, remoteRatio := 1, borrow := {}, processStatus := .IDLE }

/-- Numa 0 is short of three bytes, and two blocks of two bytes are borrowed. -/
theorem executeBorrowRound_within_roundCache :
    WithinBounds 2 (candidatesOf 2 roundCache) (fun _ => [(0, 3), (1, 1)])
        (executeBorrowRound 2
          { candidates := candidatesOf 2 roundCache
            residence := fun _ => [(0, 3), (1, 1)]
            migratingSrcNumas := fun _ => none }
          [({ executorReady := true, now := 0, managed := fun _ => true },
            { srcNumaId := 0, bytes := 3 })]) ∧
      executeBorrowRound 2
          { candidates := candidatesOf 2 roundCache
            residence := fun _ => [(0, 3), (1, 1)]
            migratingSrcNumas := fun _ => none }
          [({ executorReady := true, now := 0, managed := fun _ => true },
            { srcNumaId := 0, bytes := 3 })] =
        [({ srcNumaId := 0, bytes := 3 }, [{ pid := 7, srcNumaId := 0, amount := 4 }])] :=
  ⟨(executeBorrowRound_within (by decide) (List.Perm.refl _) _ _ _).2, by decide +kernel⟩

end ProcessMem

end UbsEngine
