import UbsEngine.Library.Run
import UbsEngine.ProcessMem.Borrow

/-!
# The counter and the slots

`currentRemote` is meant to be the number of bytes in the completed slots
(`UbsEngine.ProcessMem.PidBorrow.Matches`); the rounds of borrowing lend what is left of the quota
after it. Some operations recompute it, some move it by the difference they make, and some change
the completed slots without touching it: a debt that is recovered, a slot that is reset or set
to zero, and a few cases of others.

`UbsEngine.ProcessMem.keeps_matches_iff` says which they are, exactly: the counter matches the
slots after every operation of a run if and only if every operation meets
`UbsEngine.ProcessMem.Operation.Counts`.
-/

namespace UbsEngine

namespace ProcessMem

/-! ### The operations -/

/-- What happens to the slots of a process. -/
inductive Operation
  | record (debtId : String) (amount : Nat) (srcNumaId : Int) (now : Nat)
  | commit (debtId : String) (created : CreatedDebtInfo) (increments : List (Int × Nat))
    (migrateRet : MigrateRet)
  | abort (debtId : String)
  | reuse (need : Nat) (srcNumaId : Int)
  | timeout (timeoutPer128MbMs now : Nat)
  | slotReturned (debtId : String)
  | setReturning (debtId : String) (returning : Bool)
  | removeReplaced (oldDebtId : String)
  | resetSlot (debtId : String)
  | migrateSync
  | replace (oldDebtId : String) (newSlot : BorrowSlot)
  | recoverBind (debtId : String) (size : Nat) (remoteNumaId srcNumaId : Int) (now : Nat)
  | vanish (vanished : List String)
  | zeroSmap (smapKb : Int → Nat)
  | recoverSmap
  | rearrange
  /-- How much more there is than there should be. -/
  | rebalance (excess : Nat)

def Operation.apply : Operation → PidBorrow → PidBorrow
  | record debtId amount srcNumaId now => recordPendingBorrow debtId amount srcNumaId now
  | commit debtId created increments migrateRet => fun e =>
    (commitBorrowAndMigrate debtId created increments migrateRet e).2
  | abort debtId => removeSlotFinalize debtId
  | reuse need srcNumaId => reuseIdleSlotCapacity need srcNumaId
  | timeout timeoutPer128MbMs now => checkTimeouts timeoutPer128MbMs now
  | slotReturned debtId => updateManagedPidSlotReturned debtId
  | setReturning debtId returning => setManagedPidSlotReturning debtId returning
  | removeReplaced oldDebtId => removeR2rReplacedDebt oldDebtId
  | resetSlot debtId => resetSlotByDebtName debtId
  | migrateSync => returnMigrateSync
  | replace oldDebtId newSlot => replaceDebt oldDebtId newSlot
  | recoverBind debtId size remoteNumaId srcNumaId now =>
    recoverBindDebt debtId size remoteNumaId srcNumaId now
  | vanish vanished => removeVanished vanished
  | zeroSmap smapKb => zeroMigratedBytesWithoutSmap smapKb
  | recoverSmap => recoverPidMigratedBytes
  | rearrange => rearrangePidMigrated
  | rebalance excess => rebalancePidRemote (pageAligned excess)

/-- **The counter matches the slots.** -/
def PidBorrow.Matches (e : PidBorrow) : Prop :=
  e.borrow.currentRemote = bytesIn .COMPLETED e.borrow.slots

/-- The operations on the slots of one process, from a state in which the counter matches. -/
def operations : System PidBorrow Operation where
  init e := e.Matches
  step e op e' := op.apply e = e'

/-! ### When an operation counts -/

/-- The bytes and the capacity of the completed slots of a remote numa. -/
def groupBytes (slots : List BorrowSlot) (numaId : Int) : Nat :=
  (slots.map fun s =>
    if s.status = .COMPLETED ∧ s.remoteNumaId = numaId then s.migratedBytes else 0).sum

def groupCapacity (slots : List BorrowSlot) (numaId : Int) : Nat :=
  (slots.map fun s =>
    if s.status = .COMPLETED ∧ s.remoteNumaId = numaId then s.capacity else 0).sum

/-- No slot is cut in the middle of a page, when `rest` is taken back from the slots in turn. -/
def CutsWholePages : Nat → List BorrowSlot → Prop
  | _, [] => True
  | rest, s :: slots =>
    if s.status ≠ .COMPLETED ∨ s.remoteNumaId < 0 then CutsWholePages rest slots
    else
      (s.migratedBytes - rest) % pageSizeBytes = 0 ∧
        CutsWholePages (rest - s.migratedBytes) slots

/-- **The operation leaves the counter right.** -/
def Operation.Counts (e : PidBorrow) : Operation → Prop
  | commit debtId created increments migrateRet =>
    -- the slot is emptied without the counter if it is completed already
    migrateRet = .faultHandling → ∀ s, e.borrow.findSlot debtId = some s → s.status = .COMPLETED →
      s.migratedBytes = 0 ∨ 0 < created.capacity ∨
        commitGroups debtId created increments e.borrow = some []
  | slotReturned debtId =>
    ∀ s, e.borrow.findSlot debtId = some s → s.status = .BORROWING ∨ s.status = .FAILED →
      s.migratedBytes = 0 ∨ e.borrow.currentRemote = 0
  | resetSlot debtId =>
    ∀ s, e.borrow.findSlot debtId = some s → s.status = .COMPLETED ∨ s.migratedBytes = 0
  | recoverBind _ size _ _ _ => size = 0
  | zeroSmap smapKb => ∀ s ∈ e.borrow.slots, s.unconfigured smapKb = false
  | rearrange => ∀ numaId, groupBytes e.borrow.slots numaId ≤ groupCapacity e.borrow.slots numaId
  | rebalance excess => CutsWholePages (pageAligned excess) e.borrow.slots
  | _ => True

/-! ### Sums over slots -/

theorem bytesIn_cons (t : BorrowSlotStatus) (s : BorrowSlot) (slots : List BorrowSlot) :
    bytesIn t (s :: slots) = s.bytesIn t + bytesIn t slots := by
  rw [bytesIn, List.map_cons, List.sum_cons]
  rfl

theorem bytesIn_append (t : BorrowSlotStatus) (slots slots' : List BorrowSlot) :
    bytesIn t (slots ++ slots') = bytesIn t slots + bytesIn t slots' := by
  rw [bytesIn, List.map_append, List.sum_append]
  rfl

theorem bytesIn_singleton (t : BorrowSlotStatus) (s : BorrowSlot) :
    bytesIn t [s] = s.bytesIn t := by
  rw [bytesIn_cons]
  rfl

theorem bytesIn_of_eq {s : BorrowSlot} {t : BorrowSlotStatus} (h : s.status = t) :
    s.bytesIn t = s.migratedBytes := if_pos h

theorem bytesIn_of_ne {s : BorrowSlot} {t : BorrowSlotStatus} (h : s.status ≠ t) :
    s.bytesIn t = 0 := if_neg h

/-- Slots of another status can be left out. -/
theorem bytesIn_filter (t u : BorrowSlotStatus) (h : t ≠ u) (slots : List BorrowSlot) :
    bytesIn t (slots.filter fun s => s.status ≠ u) = bytesIn t slots := by
  induction slots with
  | nil => rfl
  | cons s slots ih =>
    rw [List.filter_cons]
    split
    next => rw [bytesIn_cons, bytesIn_cons, ih]
    next hs =>
      have hs : s.status = u := by simpa using hs
      rw [ih, bytesIn_cons, bytesIn_of_ne (hs ▸ h.symm), Nat.zero_add]

/-- The first slot that matches is changed. -/
theorem bytesIn_modifyFirst (t : BorrowSlotStatus) {p : BorrowSlot → Bool}
    (f : BorrowSlot → BorrowSlot) {slots : List BorrowSlot} {s : BorrowSlot}
    (h : slots.find? p = some s) :
    bytesIn t (modifyFirst p f slots) + s.bytesIn t = bytesIn t slots + (f s).bytesIn t :=
  sum_modifyFirst (·.bytesIn t) f h

/-- It is erased. -/
theorem bytesIn_eraseP (t : BorrowSlotStatus) {p : BorrowSlot → Bool} {slots : List BorrowSlot}
    {s : BorrowSlot} (h : slots.find? p = some s) :
    bytesIn t (slots.eraseP p) + s.bytesIn t = bytesIn t slots :=
  sum_eraseP (·.bytesIn t) h

/-! ### What the operations do to the counter and to the sum -/

variable {e : PidBorrow} {debtId : String}

theorem matches_recomputed (b : BorrowState) (t : ProcessStatus) :
    PidBorrow.Matches { borrow := b.recomputed, processStatus := t } := rfl

theorem matches_update_iff (f : PidBorrow → PidBorrow) :
    (updateManagedPidBorrowStateAtomic f e).Matches ↔ (f e).Matches := Iff.rfl

theorem matches_removeSlotFinalize (h : e.Matches) : (removeSlotFinalize debtId e).Matches := by
  refine (matches_update_iff _).2 ?_
  refine Eq.trans h ?_
  dsimp only [BorrowState.withSlots]
  split
  next s hs =>
    split
    next hstatus =>
      have hsum := bytesIn_eraseP .COMPLETED hs
      rw [bytesIn_of_ne (t := .COMPLETED) (by rw [hstatus]; decide)] at hsum
      exact hsum.symm
    next => rfl
  next => rfl

/-- One turn of the loop adds to the sum what it adds to the total. -/
theorem bytesIn_flushTarget (increments : List (Int × Nat)) (debtId : String) (numaId : Int)
    (x : Nat × List BorrowSlot) :
    bytesIn .COMPLETED (flushTarget increments debtId numaId x).2 + x.1 =
      bytesIn .COMPLETED x.2 + (flushTarget increments debtId numaId x).1 := by
  rw [flushTarget]
  split
  next => rfl
  next => rfl
  next remaining _ _ =>
    dsimp only
    split
    next => rfl
    next a hs =>
      have hsum := bytesIn_modifyFirst .COMPLETED (fun s =>
        { s with migratedBytes := min s.capacity remaining, status := .COMPLETED }) hs
      have hstatus : a.status = .BORROWING := by
        have := List.find?_some hs
        simp only [BorrowSlot.ownInFlight, Bool.and_eq_true, decide_eq_true_eq] at this
        exact this.1.2
      rw [bytesIn_of_ne (t := .COMPLETED) (by rw [hstatus]; decide), Nat.add_zero] at hsum
      rw [hsum, Nat.add_assoc, Nat.add_comm x.1]
      rfl

theorem bytesIn_flushBorrowIncrements (slots : List BorrowSlot)
    (numaTargets increments : List (Int × Nat)) (debtId : String) (created : CreatedDebtInfo) :
    bytesIn .COMPLETED (flushBorrowIncrements slots numaTargets increments debtId created).2 =
      bytesIn .COMPLETED slots +
        (flushBorrowIncrements slots numaTargets increments debtId created).1 := by
  rw [flushBorrowIncrements]
  have hfold : ∀ (l : List (Int × Nat)) (x : Nat × List BorrowSlot),
      bytesIn .COMPLETED (l.foldl (fun x t => flushTarget increments debtId t.1 x) x).2 + x.1 =
        bytesIn .COMPLETED x.2 +
          (l.foldl (fun x t => flushTarget increments debtId t.1 x) x).1 := by
    intro l
    induction l with
    | nil => exact fun x => rfl
    | cons t l ih =>
      intro x
      have hstep := bytesIn_flushTarget increments debtId t.1 x
      have hrest := ih (flushTarget increments debtId t.1 x)
      rw [List.foldl_cons]
      omega
  have hset : bytesIn .COMPLETED (slots.map fun s =>
      if s.ownInFlight debtId then
        { s with
          remoteNumaId := created.remoteNumaId
          exportSlotId := created.exportSlotId
          capacity := created.capacity }
      else s) = bytesIn .COMPLETED slots := by
    refine sum_map_congr (fun s => ?_) slots
    split <;> rfl
  rw [← hset]
  exact hfold numaTargets (0, _)

theorem matches_commit_iff (h : e.Matches) (created : CreatedDebtInfo)
    (increments : List (Int × Nat)) (r : MigrateRet) :
    (commitBorrowAndMigrate debtId created increments r e).2.Matches ↔
      (Operation.commit debtId created increments r).Counts e := by
  rw [commitBorrowAndMigrate]
  split
  next hgroups =>
    -- no slot of the debt is in flight
    refine iff_of_true h fun _ s hs hstatus => .inr (.inl ?_)
    rw [commitGroups] at hgroups
    split at hgroups
    next hcond => exact hcond.1
    next => cases hgroups
  next hgroups => exact iff_of_true h fun _ s hs hstatus => .inr (.inr hgroups)
  next groups hne hgroups =>
    cases r with
    | conflict => exact iff_of_true h fun hr => nomatch hr
    | failed => exact iff_of_true h fun hr => nomatch hr
    | ok =>
      refine iff_of_true ?_ fun hr => nomatch hr
      refine (matches_update_iff _).2 ?_
      refine Eq.trans ?_ (bytesIn_flushBorrowIncrements _ _ _ _ _).symm
      exact congrArg (· + _) h
    | faultHandling =>
      cases hs : e.borrow.findSlot debtId with
      | none =>
        refine iff_of_true ?_ fun _ s hs' => by cases hs.symm.trans hs'
        refine (matches_update_iff _).2 (h.trans ?_)
        exact congrArg _ (modifyFirst_of_find?_none _ hs).symm
      | some s =>
        have hsum := bytesIn_modifyFirst .COMPLETED
          (fun s => { s with status := .COMPLETED, migratedBytes := 0 }) hs
        have hafter : BorrowSlot.bytesIn .COMPLETED
            { s with status := .COMPLETED, migratedBytes := 0 } = 0 := rfl
        rw [hafter, Nat.add_zero] at hsum
        have hmatch : (updateManagedPidBorrowStateAtomic (fun e =>
            let slots := modifyFirst (·.named debtId)
              (fun s => { s with status := .COMPLETED, migratedBytes := 0 }) e.borrow.slots
            { borrow := e.borrow.withSlots slots, processStatus := computeSlotStatus slots })
              e).Matches ↔ s.bytesIn .COMPLETED = 0 := by
          refine Iff.trans (show _ ↔ e.borrow.currentRemote = bytesIn .COMPLETED (modifyFirst
            (·.named debtId) (fun s => { s with status := .COMPLETED, migratedBytes := 0 })
              e.borrow.slots) from Iff.rfl) ?_
          rw [show e.borrow.currentRemote = _ from h]
          omega
        refine hmatch.trans ?_
        by_cases hstatus : s.status = .COMPLETED
        · rw [bytesIn_of_eq hstatus]
          refine ⟨fun hzero _ t ht _ => ?_, fun hc => ?_⟩
          · cases hs.symm.trans ht
            exact .inl hzero
          · -- a completed slot gets here only without a capacity
            rcases hc rfl s hs hstatus with hzero | hcap | hnil
            · exact hzero
            · simp [commitGroups, hs, hstatus, hcap] at hgroups
            · cases hgroups.symm.trans hnil
              exact absurd rfl hne
        · rw [bytesIn_of_ne hstatus]
          refine iff_of_true rfl fun _ t ht ht' => ?_
          cases hs.symm.trans ht
          exact absurd ht' hstatus

theorem bytesIn_fillIdle (src : Int) (rest : Nat) (slots : List BorrowSlot) :
    (fillIdle src rest slots).1 ≤ rest ∧
      bytesIn .COMPLETED (fillIdle src rest slots).2 + (fillIdle src rest slots).1 =
        bytesIn .COMPLETED slots + rest := by
  induction slots generalizing rest with
  | nil => exact ⟨le_rfl, rfl⟩
  | cons s slots ih =>
    rw [fillIdle]
    split
    next hs =>
      obtain ⟨hle, hsum⟩ := ih (rest - min s.idle rest)
      have hstatus : s.status = .COMPLETED := by
        have := hs.1
        simp only [BorrowSlot.reusable, decide_eq_true_eq] at this
        exact this.1
      have hfill : BorrowSlot.bytesIn .COMPLETED
          { s with migratedBytes := s.migratedBytes + min s.idle rest } =
            s.bytesIn .COMPLETED + min s.idle rest := by
        rw [bytesIn_of_eq hstatus]
        exact if_pos hstatus
      dsimp only
      rw [bytesIn_cons, bytesIn_cons, hfill]
      omega
    next =>
      obtain ⟨hle, hsum⟩ := ih rest
      dsimp only
      rw [bytesIn_cons, bytesIn_cons]
      omega

theorem matches_reuseIdleSlotCapacity (h : e.Matches) (need : Nat) (src : Int) :
    (reuseIdleSlotCapacity need src e).Matches := by
  obtain ⟨hle, hsum⟩ := bytesIn_fillIdle src need e.borrow.slots
  refine (matches_update_iff _).2 ?_
  show e.borrow.currentRemote + _ = bytesIn .COMPLETED (fillIdle src need e.borrow.slots).2
  rw [show e.borrow.currentRemote = _ from h]
  omega

theorem matches_checkTimeouts (h : e.Matches) (timeout now : Nat) :
    (checkTimeouts timeout now e).Matches := by
  refine (matches_update_iff _).2 ?_
  dsimp only
  split
  next => exact (bytesIn_filter .COMPLETED .FAILED (by decide) _).symm
  next => exact h

theorem matches_updateManagedPidSlotReturned_iff (h : e.Matches) :
    (updateManagedPidSlotReturned debtId e).Matches ↔ (Operation.slotReturned debtId).Counts e := by
  rw [updateManagedPidSlotReturned]
  split
  next hs => exact iff_of_true h fun s hs' => by cases hs.symm.trans hs'
  next s hs =>
    have hsum := bytesIn_eraseP .COMPLETED hs
    have hcounts : (Operation.slotReturned debtId).Counts e ↔
        (s.status = .BORROWING ∨ s.status = .FAILED →
          s.migratedBytes = 0 ∨ e.borrow.currentRemote = 0) := by
      refine ⟨fun hc => hc s hs, fun hc t ht => ?_⟩
      cases hs.symm.trans ht
      exact hc
    rw [hcounts]
    rw [← show e.borrow.currentRemote = bytesIn .COMPLETED e.borrow.slots from h] at hsum
    cases hstatus : s.status with
    | RETURNING => exact iff_of_true rfl (by rintro (h | h) <;> cases h)
    | COMPLETED =>
      refine iff_of_true ?_ (by rintro (h | h) <;> cases h)
      rw [bytesIn_of_eq hstatus] at hsum
      exact (Nat.eq_sub_of_add_eq hsum).symm
    | BORROWING | FAILED =>
      rw [bytesIn_of_ne (t := .COMPLETED) (by rw [hstatus]; decide), Nat.add_zero] at hsum
      have hmatch : PidBorrow.Matches { e with
          borrow := { e.borrow with
            slots := e.borrow.slots.eraseP (·.named debtId)
            currentRemote := e.borrow.currentRemote - s.migratedBytes } } ↔
            e.borrow.currentRemote - s.migratedBytes = e.borrow.currentRemote := by
        rw [← hsum]
        exact Iff.rfl
      refine Iff.trans hmatch ?_
      simp only [reduceCtorEq, or_true, true_or, true_imp_iff]
      omega

theorem matches_setManagedPidSlotReturning (h : e.Matches) (b : Bool) :
    (setManagedPidSlotReturning debtId b e).Matches := by
  rw [setManagedPidSlotReturning]
  split
  next => exact h
  next =>
    split
    next => exact h
    next => rfl

theorem matches_resetSlotByDebtName_iff (h : e.Matches) :
    (resetSlotByDebtName debtId e).Matches ↔ (Operation.resetSlot debtId).Counts e := by
  rw [resetSlotByDebtName]
  split
  next hs => exact iff_of_true h fun s hs' => by cases hs.symm.trans hs'
  next s hs =>
    have hsum := bytesIn_modifyFirst .COMPLETED
      (fun s => { s with status := .COMPLETED }) hs
    have hcounts : (Operation.resetSlot debtId).Counts e ↔
        s.status = .COMPLETED ∨ s.migratedBytes = 0 := by
      refine ⟨fun hc => hc s hs, fun hc t ht => ?_⟩
      cases hs.symm.trans ht
      exact hc
    rw [hcounts]
    -- the counter is the sum before the status is set
    have hafter : BorrowSlot.bytesIn .COMPLETED { s with status := .COMPLETED } =
        s.migratedBytes := rfl
    rw [hafter] at hsum
    refine (show _ ↔ bytesIn .COMPLETED e.borrow.slots = bytesIn .COMPLETED (modifyFirst
      (·.named debtId) (fun s => { s with status := .COMPLETED }) e.borrow.slots) from
        Iff.rfl).trans ?_
    by_cases hstatus : s.status = .COMPLETED
    · rw [bytesIn_of_eq hstatus] at hsum
      exact iff_of_true (by omega) (.inl hstatus)
    · rw [bytesIn_of_ne hstatus] at hsum
      simp only [hstatus, false_or]
      omega

theorem matches_replaceDebt (old : String) (newSlot : BorrowSlot) :
    (replaceDebt old newSlot e).Matches := rfl

theorem matches_recoverBindDebt_iff (h : e.Matches) (size : Nat) (remote src : Int) (now : Nat) :
    (recoverBindDebt debtId size remote src now e).Matches ↔ size = 0 := by
  refine Iff.trans (show _ ↔ e.borrow.currentRemote = bytesIn .COMPLETED (e.borrow.slots ++
    [{ debtId, migratedBytes := size, capacity := size, remoteNumaId := remote, srcNumaId := src,
       borrowTime := now, status := .COMPLETED }]) from Iff.rfl) ?_
  rw [bytesIn_append, bytesIn_singleton, show e.borrow.currentRemote = _ from h]
  dsimp only [BorrowSlot.bytesIn]
  rw [if_pos rfl]
  omega

theorem matches_zeroMigratedBytesWithoutSmap_iff (h : e.Matches) (smapKb : Int → Nat) :
    (zeroMigratedBytesWithoutSmap smapKb e).Matches ↔
      ∀ s ∈ e.borrow.slots, s.unconfigured smapKb = false := by
  refine Iff.trans (show _ ↔ e.borrow.currentRemote = bytesIn .COMPLETED (e.borrow.slots.map
    fun s => if s.unconfigured smapKb then { s with migratedBytes := 0 } else s) from Iff.rfl) ?_
  rw [show e.borrow.currentRemote = _ from h]
  generalize e.borrow.slots = slots
  have hle : ∀ slots : List BorrowSlot, bytesIn .COMPLETED (slots.map fun s =>
      if s.unconfigured smapKb then { s with migratedBytes := 0 } else s) ≤
        bytesIn .COMPLETED slots := by
    intro slots
    induction slots with
    | nil => exact le_rfl
    | cons s slots ih =>
      rw [List.map_cons, bytesIn_cons, bytesIn_cons]
      refine Nat.add_le_add ?_ ih
      split
      next => exact (le_of_eq (ite_self _)).trans (Nat.zero_le _)
      next => exact le_rfl
  induction slots with
  | nil => simp
  | cons s slots ih =>
    have hrest := hle slots
    refine Iff.trans ?_ (Iff.trans (and_congr Iff.rfl ih) List.forall_mem_cons.symm)
    rw [List.map_cons, bytesIn_cons, bytesIn_cons]
    cases hs : s.unconfigured smapKb with
    | false =>
      simp only [Bool.false_eq_true, if_false, true_and]
      omega
    | true =>
      -- the slot held something
      have hpos : 0 < s.bytesIn .COMPLETED := by
        simp only [BorrowSlot.unconfigured, decide_eq_true_eq] at hs
        rw [bytesIn_of_eq hs.1]
        exact Nat.pos_of_ne_zero hs.2.1
      have hzero : BorrowSlot.bytesIn .COMPLETED { s with migratedBytes := 0 } = 0 := ite_self _
      simp only [if_true, hzero, Bool.true_eq_false, false_and, iff_false]
      omega

/-- Taking back from the slots in turn: the sum goes down by what is counted if no slot is cut in
the middle of a page, and by more otherwise. -/
theorem bytesIn_rebalanceApplyTargets (rest : Nat) (slots : List BorrowSlot) :
    bytesIn .COMPLETED (rebalanceApplyTargets rest slots).2 +
        (rebalanceApplyTargets rest slots).1 ≤ bytesIn .COMPLETED slots ∧
      (bytesIn .COMPLETED (rebalanceApplyTargets rest slots).2 +
        (rebalanceApplyTargets rest slots).1 = bytesIn .COMPLETED slots ↔
          CutsWholePages rest slots) := by
  induction slots generalizing rest with
  | nil => exact ⟨le_rfl, iff_of_true rfl trivial⟩
  | cons s slots ih =>
    rw [rebalanceApplyTargets, CutsWholePages]
    split
    next =>
      obtain ⟨hle, hiff⟩ := ih rest
      dsimp only
      rw [bytesIn_cons, bytesIn_cons, ← hiff]
      omega
    next hs =>
      have hstatus : s.status = .COMPLETED := by
        by_contra h
        exact hs (.inl h)
      have hcut : ∀ m, BorrowSlot.bytesIn .COMPLETED { s with migratedBytes := m } = m :=
        fun m => if_pos hstatus
      have hle' : rebalanceSlotTargetBytes s.migratedBytes rest ≤ s.migratedBytes - rest :=
        Nat.div_mul_le_self _ _
      have hmod := Nat.div_add_mod' (s.migratedBytes - rest) pageSizeBytes
      have hrest : rest - min (s.migratedBytes - rebalanceSlotTargetBytes s.migratedBytes rest)
          rest = rest - s.migratedBytes := by omega
      obtain ⟨hle, hiff⟩ := ih (rest - s.migratedBytes)
      dsimp only
      rw [bytesIn_cons, bytesIn_cons, hcut, bytesIn_of_eq hstatus, hrest, ← hiff]
      rw [rebalanceSlotTargetBytes, pageAligned] at hle' ⊢
      omega

theorem matches_rebalancePidRemote_iff (h : e.Matches) (overage : Nat) :
    (rebalancePidRemote overage e).Matches ↔ CutsWholePages overage e.borrow.slots := by
  obtain ⟨hle, hiff⟩ := bytesIn_rebalanceApplyTargets overage e.borrow.slots
  refine Iff.trans (show _ ↔ e.borrow.currentRemote -
    (rebalanceApplyTargets overage e.borrow.slots).1 = bytesIn .COMPLETED
      (rebalanceApplyTargets overage e.borrow.slots).2 from Iff.rfl) ?_
  rw [← hiff, show e.borrow.currentRemote = _ from h]
  omega

/-! ### Packing the bytes of a remote numa -/

/-- A completed slot on a remote numa. -/
def BorrowSlot.inGroup (numaId : Int) (s : BorrowSlot) : Bool :=
  s.status = .COMPLETED ∧ s.remoteNumaId = numaId

/-- Filling the slots at some places with what there is. -/
theorem foldl_rearrangeSlot {numaId : Int} {is : List Nat} (hnodup : is.Nodup)
    (x : Nat × List BorrowSlot) (his : ∀ i ∈ is, ∃ s, x.2[i]? = some s ∧ s.inGroup numaId) :
    (is.foldl rearrangeSlot x).1 =
        x.1 - (is.map fun i => ((x.2[i]?).map (·.capacity)).getD 0).sum ∧
      bytesIn .COMPLETED (is.foldl rearrangeSlot x).2 +
          (is.map fun i => ((x.2[i]?).map (·.migratedBytes)).getD 0).sum +
          (is.foldl rearrangeSlot x).1 = bytesIn .COMPLETED x.2 + x.1 ∧
      ∀ w : BorrowSlot → Nat,
        (∀ s m, s.inGroup numaId → w { s with migratedBytes := m } = w s) →
          ((is.foldl rearrangeSlot x).2.map w).sum = (x.2.map w).sum := by
  induction is generalizing x with
  | nil => exact ⟨rfl, rfl, fun _ _ => rfl⟩
  | cons i is ih =>
    obtain ⟨hi, hnodup⟩ := List.nodup_cons.1 hnodup
    obtain ⟨s, hs, hgroup⟩ := his i List.mem_cons_self
    have hstatus : s.status = .COMPLETED := by
      simp only [BorrowSlot.inGroup, decide_eq_true_eq] at hgroup
      exact hgroup.1
    have hstep : rearrangeSlot x i = (x.1 - min s.capacity x.1,
        x.2.set i { s with migratedBytes := min s.capacity x.1 }) := by
      rw [rearrangeSlot, hs]
    -- the other places are untouched
    have hother : ∀ j ∈ is, (rearrangeSlot x i).2[j]? = x.2[j]? := by
      intro j hj
      rw [hstep]
      refine List.getElem?_set_ne ?_
      rintro rfl
      exact hi hj
    have hmap : ∀ w : BorrowSlot → Nat,
        is.map (fun j => (((rearrangeSlot x i).2[j]?).map w).getD 0) =
          is.map fun j => ((x.2[j]?).map w).getD 0 :=
      fun w => List.map_congr_left fun j hj => by rw [hother j hj]
    obtain ⟨hrest, hbytes, hw⟩ := ih hnodup (rearrangeSlot x i) fun j hj => by
      rw [hother j hj]
      exact his j (List.mem_cons_of_mem i hj)
    rw [hmap] at hrest hbytes
    rw [List.foldl_cons, List.map_cons, List.map_cons, List.sum_cons, List.sum_cons, hs]
    have hset := sum_set (·.bytesIn .COMPLETED) hs { s with migratedBytes := min s.capacity x.1 }
    rw [bytesIn_of_eq hstatus,
      show BorrowSlot.bytesIn .COMPLETED { s with migratedBytes := min s.capacity x.1 } = _ from
        if_pos hstatus] at hset
    have hset : bytesIn .COMPLETED (rearrangeSlot x i).2 + s.migratedBytes =
        bytesIn .COMPLETED x.2 + min s.capacity x.1 := by
      rw [hstep]
      exact hset
    have hfirst : (rearrangeSlot x i).1 = x.1 - min s.capacity x.1 := by rw [hstep]
    rw [hfirst] at hrest hbytes
    simp only [Option.map_some, Option.getD_some]
    refine ⟨by omega, by omega, fun w hkeeps => (hw w hkeeps).trans ?_⟩
    have := sum_set w hs { s with migratedBytes := min s.capacity x.1 }
    rw [hkeeps s (min s.capacity x.1) hgroup] at this
    rw [hstep]
    exact Nat.add_right_cancel this

theorem rearrangeOrder_spec (slots : List BorrowSlot) (numaId : Int) :
    (rearrangeOrder slots numaId).Nodup ∧
      (∀ i ∈ rearrangeOrder slots numaId, ∃ s, slots[i]? = some s ∧ s.inGroup numaId) ∧
      ∀ w : BorrowSlot → Nat,
        ((rearrangeOrder slots numaId).map fun i => ((slots[i]?).map w).getD 0).sum =
          (slots.map fun s => if s.inGroup numaId then w s else 0).sum := by
  have hperm := List.mergeSort_perm ((List.range slots.length).filter fun i =>
    (slots[i]?).any fun s => s.status = .COMPLETED ∧ s.remoteNumaId = numaId)
      fun i j => ((slots[j]?).map (·.capacity)).getD 0 ≤ ((slots[i]?).map (·.capacity)).getD 0
  refine ⟨?_, fun i hi => ?_, fun w => ?_⟩
  · exact hperm.nodup_iff.2 (List.nodup_range.filter _)
  · have hany := List.of_mem_filter (hperm.mem_iff.1 hi)
    cases hs : slots[i]? with
    | none =>
      rw [hs] at hany
      cases hany
    | some s =>
      rw [hs] at hany
      exact ⟨s, rfl, hany⟩
  · exact ((hperm.map _).sum_eq).trans (sum_places _ w slots)

/-- Packing a group: what does not fit its capacity is lost, and nothing else changes. -/
theorem rearrangeNuma_spec (slots : List BorrowSlot) (numaId : Int) :
    bytesIn .COMPLETED (rearrangeNuma slots numaId) +
        (groupBytes slots numaId - groupCapacity slots numaId) = bytesIn .COMPLETED slots ∧
      ∀ w : BorrowSlot → Nat,
        (∀ s m, s.inGroup numaId → w { s with migratedBytes := m } = w s) →
          ((rearrangeNuma slots numaId).map w).sum = (slots.map w).sum := by
  obtain ⟨hnodup, hgroup, hsum⟩ := rearrangeOrder_spec slots numaId
  obtain ⟨hrest, hbytes, hw⟩ := foldl_rearrangeSlot hnodup (groupBytes slots numaId, slots) hgroup
  have hcap := hsum (·.capacity)
  have hmig := hsum (·.migratedBytes)
  dsimp only at hrest hbytes hw
  rw [hcap] at hrest
  rw [hmig, hrest] at hbytes
  have hcapacity : (slots.map fun s => if s.inGroup numaId then s.capacity else 0).sum =
      groupCapacity slots numaId := by
    simp [groupCapacity, BorrowSlot.inGroup]
  have hmigrated : (slots.map fun s => if s.inGroup numaId then s.migratedBytes else 0).sum =
      groupBytes slots numaId := by
    simp [groupBytes, BorrowSlot.inGroup]
  rw [hcapacity, hmigrated] at hbytes
  refine ⟨?_, hw⟩
  have hdef : rearrangeNuma slots numaId =
      ((rearrangeOrder slots numaId).foldl rearrangeSlot (groupBytes slots numaId, slots)).2 := rfl
  rw [hdef]
  omega

/-- The other groups are not touched. -/
theorem group_rearrangeNuma (slots : List BorrowSlot) {numaId numaId' : Int}
    (hne : numaId' ≠ numaId) :
    groupBytes (rearrangeNuma slots numaId) numaId' = groupBytes slots numaId' ∧
      groupCapacity (rearrangeNuma slots numaId) numaId' = groupCapacity slots numaId' := by
  obtain ⟨-, hw⟩ := rearrangeNuma_spec slots numaId
  constructor
  · refine hw _ fun s m hs => ?_
    simp only [BorrowSlot.inGroup, decide_eq_true_eq] at hs
    rw [if_neg (fun h => hne (h.2.symm.trans hs.2)), if_neg (fun h => hne (h.2.symm.trans hs.2))]
  · exact hw _ fun _ _ _ => rfl

theorem bytesIn_foldl_rearrangeNuma {numas : List Int} (hnodup : numas.Nodup)
    (slots : List BorrowSlot) :
    bytesIn .COMPLETED (numas.foldl rearrangeNuma slots) ≤ bytesIn .COMPLETED slots ∧
      (bytesIn .COMPLETED (numas.foldl rearrangeNuma slots) = bytesIn .COMPLETED slots ↔
        ∀ numaId ∈ numas, groupBytes slots numaId ≤ groupCapacity slots numaId) := by
  induction numas generalizing slots with
  | nil => exact ⟨le_rfl, iff_of_true rfl fun _ h => nomatch h⟩
  | cons numaId numas ih =>
    obtain ⟨hnot, hnodup⟩ := List.nodup_cons.1 hnodup
    obtain ⟨hstep, -⟩ := rearrangeNuma_spec slots numaId
    obtain ⟨hle, hiff⟩ := ih hnodup (rearrangeNuma slots numaId)
    have hothers : (∀ m ∈ numas, groupBytes (rearrangeNuma slots numaId) m ≤
        groupCapacity (rearrangeNuma slots numaId) m) ↔
          ∀ m ∈ numas, groupBytes slots m ≤ groupCapacity slots m := by
      refine forall₂_congr fun m hm => ?_
      have hne : m ≠ numaId := by
        rintro rfl
        exact hnot hm
      rw [(group_rearrangeNuma slots hne).1, (group_rearrangeNuma slots hne).2]
    rw [List.foldl_cons, List.forall_mem_cons, ← hothers, ← hiff]
    omega

theorem matches_rearrangePidMigrated_iff (h : e.Matches) :
    (rearrangePidMigrated e).Matches ↔ Operation.rearrange.Counts e := by
  have hnodup := Finset.sort_nodup ((e.borrow.slots.filter fun s => s.status = .COMPLETED).map
    (·.remoteNumaId)).toFinset (· ≤ ·)
  obtain ⟨-, hiff⟩ := bytesIn_foldl_rearrangeNuma hnodup e.borrow.slots
  refine Iff.trans (show _ ↔ e.borrow.currentRemote = _ from Iff.rfl) ?_
  rw [show e.borrow.currentRemote = _ from h, eq_comm]
  refine hiff.trans ⟨fun hall numaId => ?_, fun hall numaId _ => hall numaId⟩
  by_cases hmem : numaId ∈ (((e.borrow.slots.filter fun s => s.status = .COMPLETED).map
      (·.remoteNumaId)).toFinset.sort (· ≤ ·))
  · exact hall numaId hmem
  · -- a group without slots
    refine (le_of_eq ?_).trans (Nat.zero_le _)
    refine List.sum_eq_zero fun k hk => ?_
    obtain ⟨s, hs, rfl⟩ := List.mem_map.1 hk
    refine if_neg fun hgroup => hmem ?_
    simp only [Finset.mem_sort, List.mem_toFinset, List.mem_map, List.mem_filter,
      decide_eq_true_eq]
    exact ⟨s, ⟨hs, hgroup.1⟩, hgroup.2⟩

/-! ### Runs -/

/-- **Exactly these operations leave the counter right.** -/
theorem matches_apply_iff (h : e.Matches) (op : Operation) :
    (op.apply e).Matches ↔ op.Counts e := by
  cases op with
  | record debtId amount srcNumaId now =>
    -- the new slot is in flight
    refine iff_of_true (Eq.trans h ?_) trivial
    have hzero : BorrowSlot.bytesIn .COMPLETED 
        { migratedBytes := amount, srcNumaId, borrowTime := now, status := .BORROWING, debtId } =
          0 := rfl
    refine Eq.trans ?_ (bytesIn_append _ _ _).symm
    rw [bytesIn_singleton, hzero, Nat.add_zero]
  | commit debtId created increments r => exact matches_commit_iff h created increments r
  | abort debtId => exact iff_of_true (matches_removeSlotFinalize h) trivial
  | reuse need srcNumaId => exact iff_of_true (matches_reuseIdleSlotCapacity h need srcNumaId) trivial
  | timeout t now => exact iff_of_true (matches_checkTimeouts h t now) trivial
  | slotReturned debtId => exact matches_updateManagedPidSlotReturned_iff h
  | setReturning debtId b => exact iff_of_true (matches_setManagedPidSlotReturning h b) trivial
  | removeReplaced debtId => exact iff_of_true h trivial
  | resetSlot debtId => exact matches_resetSlotByDebtName_iff h
  | migrateSync => exact iff_of_true rfl trivial
  | replace old newSlot => exact iff_of_true (matches_replaceDebt old newSlot) trivial
  | recoverBind debtId size remote src now => exact matches_recoverBindDebt_iff h size remote src now
  | vanish vanished => exact iff_of_true rfl trivial
  | zeroSmap smapKb => exact matches_zeroMigratedBytesWithoutSmap_iff h smapKb
  | recoverSmap => exact iff_of_true rfl trivial
  | rearrange => exact matches_rearrangePidMigrated_iff h
  | rebalance excess => exact matches_rebalancePidRemote_iff h _

/-- **The counter matches the slots after every operation of a run if and only if every operation
of the run counts.** -/
theorem keeps_matches_iff {e e' : PidBorrow} {tr : List (Transition PidBorrow Operation)}
    (he : operations.init e) (hrun : operations.Run e tr e') :
    System.Keeps PidBorrow.Matches tr ↔ System.Guarded (fun e op => op.Counts e) tr := by
  refine hrun.exact ?_ he
  rintro e op e' h rfl
  exact matches_apply_iff h op

instance (e : PidBorrow) : Decidable e.Matches := inferInstanceAs (Decidable (_ = _))

/-- The run that a list of operations makes. -/
theorem run_operations {e : PidBorrow} (ops : List Operation) :
    ∃ e', operations.Run e (System.trace (fun e op => Operation.apply op e) e ops) e' :=
  ⟨_, System.run_trace_of_step _ fun _ hx => System.post_of_mem_trace hx⟩

/-- A process borrows, and the debt is migrated to. -/
def borrowing : List Operation :=
  [.record "1-4242-0-0" (2 ^ 28) 0 0,
    .commit "1-4242-0-0" { remoteNumaId := 4, exportSlotId := 2, capacity := 2 ^ 28 }
      [(4, 2 ^ 28)] .ok]

theorem keeps_matches_borrowing :
    System.Keeps PidBorrow.Matches (System.trace (fun e op => Operation.apply op e) {} borrowing) := by
  have hinit : operations.init {} := show PidBorrow.Matches {} from rfl
  obtain ⟨e', hrun⟩ := run_operations (e := {}) borrowing
  refine (keeps_matches_iff hinit hrun).2 ?_
  intro x hx
  simp only [borrowing, System.trace_cons, System.trace_nil, List.mem_cons, List.not_mem_nil,
    or_false] at hx
  rcases hx with rfl | rfl
  · trivial
  · exact fun h => nomatch h

/-- A debt that is in the ledger and not in the cache is recovered. -/
def recovery : List Operation := [.recoverBind "1-4242-0-0" (2 ^ 28) 4 0 0]

/-- Its bytes are not counted. -/
theorem not_keeps_matches :
    ¬ ∀ (e e' : PidBorrow) (tr : List (Transition PidBorrow Operation)),
      operations.init e → operations.Run e tr e' → System.Keeps PidBorrow.Matches tr := by
  intro h
  have hinit : operations.init {} := show PidBorrow.Matches {} from rfl
  obtain ⟨e', hrun⟩ := run_operations (e := {}) recovery
  have hkeeps := h _ _ _ hinit hrun
  have hpost := hkeeps _ (List.mem_singleton_self _)
  revert hpost
  decide +kernel

end ProcessMem

end UbsEngine
