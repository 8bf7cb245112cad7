import UbsEngine.ProcessMem.Counter
import UbsEngine.ProcessMem.Rounds

/-!
# The quota of a process

A round lends a process what its target leaves after what is remote already, what is on its way
and what is being returned (`UbsEngine.ProcessMem.BorrowState.quotaUsed`). That keeps the process
within its target as long as everything in flight is in a slot when a round takes its snapshot.
There are four ways out of that, and a condition for each of them in
`UbsEngine.ProcessMem.DecisionEvent.KeepsQuota`: the two halves of a split are in no slot until
they have been recorded; the slot of a task can be given up before the task splits its amount; idle
capacity is counted before the slot that it makes superfluous is taken out; and a timeout
recomputes a counter that was too low.

The invariant (`UbsEngine.ProcessMem.DecisionState.Accounts`) adds to what is used what is owed to
the halves and what the round may still hand out, and says that a task never commits more than its
slot has. `UbsEngine.ProcessMem.keeps_within_target` is the result about runs.
-/

namespace UbsEngine

namespace ProcessMem

/-! ### What is used of a target -/

/-- What is remote, on its way or being returned. -/
def BorrowState.quotaUsed (b : BorrowState) : Nat :=
  b.currentRemote + bytesIn .BORROWING b.slots + b.inFlightReturn

/-- **The process is within its target.** -/
def DecisionState.WithinTarget (pid : Int) (s : DecisionState) : Prop :=
  ∀ e, s.cache.lookup pid = some e → e.borrow.quotaUsed ≤ e.targetRemote

/-- The bytes of a slot that count next to the counter. -/
def BorrowSlot.inFlightBytes (replaced : Finset String) (s : BorrowSlot) : Nat :=
  s.bytesIn .BORROWING + s.returningBytes replaced

theorem quotaUsed_eq (b : BorrowState) :
    b.quotaUsed = b.currentRemote + (b.slots.map (·.inFlightBytes b.r2rReplacedDebts)).sum := by
  rw [BorrowState.quotaUsed, BorrowState.inFlightReturn, bytesIn, Nat.add_assoc, ← List.sum_map_add]
  rfl

theorem inFlightBytes_of_borrowing {s : BorrowSlot} (h : s.status = .BORROWING)
    (replaced : Finset String) : s.inFlightBytes replaced = s.migratedBytes := by
  have hreturning : s.returningBytes replaced = 0 := by
    refine if_neg fun hr => ?_
    exact nomatch h.symm.trans hr.1
  rw [BorrowSlot.inFlightBytes, hreturning, BorrowSlot.bytesIn, if_pos h, Nat.add_zero]

theorem inFlightBytes_of_completed {s : BorrowSlot} (h : s.status = .COMPLETED)
    (replaced : Finset String) : s.inFlightBytes replaced = 0 := by
  have hreturning : s.returningBytes replaced = 0 := by
    refine if_neg fun hr => ?_
    exact nomatch h.symm.trans hr.1
  have hborrowing : s.bytesIn .BORROWING = 0 := by
    refine if_neg fun hb => ?_
    exact nomatch h.symm.trans hb
  rw [BorrowSlot.inFlightBytes, hreturning, hborrowing]

/-! ### What is still to be recorded, and what may still be handed out -/

/-- The halves that a task has not recorded yet. -/
def BorrowTask.owed (t : BorrowTask) : Nat :=
  match t.phase with
  | .splitting rest _ => rest.sum
  | _ => 0

/-- What the tasks of a process owe to halves. -/
def owedTo (pid : Int) (tasks : List BorrowTask) : Nat :=
  (tasks.map fun t => if t.pid = pid then t.owed else 0).sum

/-- What a round may still hand out to a process. -/
def RoundPhase.allowances (pid : Int) : RoundPhase → List Nat
  | .idle => [0]
  | .timingOut _ => [0]
  | .borrowing ctx _ =>
    0 :: (ctx.candidates.filter fun c => c.pid = pid).map ctx.canMigrateLeft
  | .filling ctx _ _ _ =>
    0 :: (ctx.candidates.filter fun c => c.pid = pid).map ctx.canMigrateLeft

/-- The names of debts that a task goes by. -/
def BorrowTask.names (t : BorrowTask) : List String :=
  match t.phase with
  | .splitting _ chunks => t.debtId :: chunks.map (·.2)
  | _ => [t.debtId]

/-- No debt of the process has the name. -/
def DecisionState.FreshName (s : DecisionState) (pid : Int) (debtId : String) : Prop :=
  (∀ e ∈ s.cache.lookup pid, ∀ slot ∈ e.borrow.slots, slot.debtId ≠ debtId) ∧
    ∀ t ∈ s.tasks, t.pid = pid → debtId ∉ t.names

instance (s : DecisionState) (pid : Int) (debtId : String) : Decidable (s.FreshName pid debtId) :=
  inferInstanceAs (Decidable (_ ∧ _))

/-- The process whose slots are checked next, or for which an amount is recorded next. -/
def RoundPhase.nextPid : RoundPhase → Option Int
  | .timingOut (pid :: _) => some pid
  | .filling _ _ _ (c :: _) => some c.candidate.pid
  | _ => none

/-! ### The conditions -/

/-- **A step of a task of the process keeps to the quota.** -/
def TaskEvent.KeepsQuota (blockSizeBytes : Nat) (s : DecisionState) (t : BorrowTask)
    (e : ManagedPidEntry) : TaskEvent → Prop
  | .fillIdle =>
    -- the amount is counted twice for a moment
    ∀ k ∈ s.round.allowances t.pid,
      e.borrow.quotaUsed + owedTo t.pid s.tasks + k + t.need ≤ e.targetRemote
  | .createFailed sizeExceedsLend =>
    -- the amount that is split is still in flight
    t.split blockSizeBytes sizeExceedsLend ≠ [] →
      ∃ slot ∈ e.borrow.findSlot t.debtId, slot.status = .BORROWING
  | .recordHalf debtId _ => s.FreshName t.pid debtId
  | _ => True

/-- **A step keeps to the quota of a process.** -/
def DecisionEvent.KeepsQuota (blockSizeBytes : Nat) (pid : Int) (s : DecisionState) :
    DecisionEvent → Prop
  | .collect _ _ _ _ _ =>
    -- what the round finds leaves room for the halves that are still to be recorded
    ∀ e ∈ s.cache.lookup pid, ∀ c ∈ appendBorrowCandidate blockSizeBytes pid e,
      e.borrow.quotaUsed + owedTo pid s.tasks + c.canMigrate ≤ e.targetRemote
  | .checkTimeouts _ _ =>
    s.round.nextPid = some pid → ∀ e ∈ s.cache.lookup pid,
      bytesIn .COMPLETED e.borrow.slots ≤ e.borrow.currentRemote
  | .fillNext debtId _ => s.round.nextPid = some pid → s.FreshName pid debtId
  | .task i event =>
    ∀ t ∈ s.tasks[i]?, t.pid = pid → ∀ e ∈ s.cache.lookup pid,
      event.KeepsQuota blockSizeBytes s t e
  | _ => True

instance (blockSizeBytes : Nat) (s : DecisionState) (t : BorrowTask) (e : ManagedPidEntry) :
    (event : TaskEvent) → Decidable (event.KeepsQuota blockSizeBytes s t e)
  | .fillIdle => inferInstanceAs (Decidable (∀ k ∈ s.round.allowances t.pid, _ ≤ _))
  | .createFailed x =>
    inferInstanceAs (Decidable (t.split blockSizeBytes x ≠ [] →
      ∃ slot ∈ e.borrow.findSlot t.debtId, slot.status = .BORROWING))
  | .recordHalf debtId _ => inferInstanceAs (Decidable (s.FreshName t.pid debtId))
  | .checkIdle => inferInstanceAs (Decidable True)
  | .created _ => inferInstanceAs (Decidable True)
  | .commit _ => inferInstanceAs (Decidable True)
  | .removeSlot => inferInstanceAs (Decidable True)
  | .noteTime _ => inferInstanceAs (Decidable True)
  | .dispatch => inferInstanceAs (Decidable True)

instance (blockSizeBytes : Nat) (pid : Int) (s : DecisionState) :
    (event : DecisionEvent) → Decidable (event.KeepsQuota blockSizeBytes pid s)
  | .collect _ _ _ _ _ =>
    inferInstanceAs (Decidable (∀ e ∈ s.cache.lookup pid,
      ∀ c ∈ appendBorrowCandidate blockSizeBytes pid e, _ ≤ _))
  | .checkTimeouts _ _ =>
    inferInstanceAs (Decidable (s.round.nextPid = some pid → ∀ e ∈ s.cache.lookup pid, _ ≤ _))
  | .fillNext debtId _ =>
    inferInstanceAs (Decidable (s.round.nextPid = some pid → s.FreshName pid debtId))
  | .task i event =>
    inferInstanceAs (Decidable (∀ t ∈ s.tasks[i]?, t.pid = pid → ∀ e ∈ s.cache.lookup pid,
      event.KeepsQuota blockSizeBytes s t e))
  | .startTimer => inferInstanceAs (Decidable True)
  | .beginFill _ _ => inferInstanceAs (Decidable True)
  | .endRound => inferInstanceAs (Decidable True)

/-! ### What a change does to the slots in flight -/

/-- A slot of the debt `debtId` that is in flight has at least `need` bytes. -/
def Covers (slots : List BorrowSlot) (debtId : String) (need : Nat) : Prop :=
  ∀ s ∈ slots, s.debtId = debtId → s.status = .BORROWING → need ≤ s.migratedBytes

/-- The slots in flight of `slots'` were there before. -/
def InFlightFrom (slots slots' : List BorrowSlot) : Prop :=
  ∀ s' ∈ slots', s'.status = .BORROWING →
    ∃ s ∈ slots, s.status = .BORROWING ∧ s.debtId = s'.debtId ∧ s.migratedBytes = s'.migratedBytes

theorem Covers.of_inFlightFrom {slots slots' : List BorrowSlot} {debtId : String} {need : Nat}
    (h : Covers slots debtId need) (hfrom : InFlightFrom slots slots') :
    Covers slots' debtId need := by
  intro s' hs' hname hstatus
  obtain ⟨s, hs, hborrowing, hdebt, hbytes⟩ := hfrom s' hs' hstatus
  rw [← hbytes]
  exact h s hs (hdebt.trans hname) hborrowing

theorem Covers.mono {slots : List BorrowSlot} {debtId : String} {need need' : Nat}
    (h : Covers slots debtId need) (hle : need' ≤ need) : Covers slots debtId need' :=
  fun s hs hname hstatus => hle.trans (h s hs hname hstatus)

theorem InFlightFrom.refl (slots : List BorrowSlot) : InFlightFrom slots slots :=
  fun s hs hstatus => ⟨s, hs, hstatus, rfl, rfl⟩

theorem InFlightFrom.trans {slots slots' slots'' : List BorrowSlot} (h : InFlightFrom slots slots')
    (h' : InFlightFrom slots' slots'') : InFlightFrom slots slots'' := by
  intro s'' hs'' hstatus
  obtain ⟨s', hs', hstatus', hdebt', hbytes'⟩ := h' s'' hs'' hstatus
  obtain ⟨s, hs, hstatus, hdebt, hbytes⟩ := h s' hs' hstatus'
  exact ⟨s, hs, hstatus, hdebt.trans hdebt', hbytes.trans hbytes'⟩

theorem InFlightFrom.of_subset {slots slots' : List BorrowSlot} (h : slots' ⊆ slots) :
    InFlightFrom slots slots' :=
  fun s hs hstatus => ⟨s, h hs, hstatus, rfl, rfl⟩

/-- The first slot that matches is changed to one that is not in flight. -/
theorem InFlightFrom.modifyFirst {p : BorrowSlot → Bool} {f : BorrowSlot → BorrowSlot}
    (hf : ∀ s, (f s).status ≠ .BORROWING) (slots : List BorrowSlot) :
    InFlightFrom slots (modifyFirst p f slots) := by
  intro s' hs' hstatus
  rcases mem_modifyFirst hs' with hs | ⟨s, -, rfl⟩
  · exact ⟨s', hs, hstatus, rfl, rfl⟩
  · exact absurd hstatus (hf s)

/-! ### The operations -/

theorem quotaUsed_recordPendingBorrow (debtId : String) (amount : Nat) (srcNumaId : Int)
    (now : Nat) (e : PidBorrow) :
    (recordPendingBorrow debtId amount srcNumaId now e).borrow.quotaUsed =
      e.borrow.quotaUsed + amount := by
  rw [quotaUsed_eq, quotaUsed_eq]
  show e.borrow.currentRemote + ((e.borrow.slots ++ [_]).map
    fun s : BorrowSlot => s.inFlightBytes _).sum = _
  rw [List.map_append, List.sum_append, List.map_singleton, List.sum_singleton,
    inFlightBytes_of_borrowing rfl, Nat.add_assoc]
  rfl

theorem covers_recordPendingBorrow {debtId debtId' : String} {need : Nat} {e : PidBorrow}
    (h : Covers e.borrow.slots debtId need) (hne : debtId' ≠ debtId) (amount : Nat)
    (srcNumaId : Int) (now : Nat) :
    Covers (recordPendingBorrow debtId' amount srcNumaId now e).borrow.slots debtId need := by
  intro s hs hname hstatus
  rcases List.mem_append.1 (show s ∈ e.borrow.slots ++ [_] from hs) with hs | hs
  · exact h s hs hname hstatus
  · rw [List.mem_singleton.1 hs] at hname
    exact absurd hname hne

theorem covers_recordPendingBorrow_self {debtId : String} {e : PidBorrow}
    (hfresh : ∀ s ∈ e.borrow.slots, s.debtId ≠ debtId) (amount : Nat) (srcNumaId : Int)
    (now : Nat) :
    Covers (recordPendingBorrow debtId amount srcNumaId now e).borrow.slots debtId amount := by
  intro s hs hname hstatus
  rcases List.mem_append.1 (show s ∈ e.borrow.slots ++ [_] from hs) with hs | hs
  · exact absurd hname (hfresh s hs)
  · rw [List.mem_singleton.1 hs]

/-- The slot is taken out if it is in flight. -/
theorem slots_removeSlotFinalize (debtId : String) (e : PidBorrow) :
    ((∀ slot, e.borrow.findSlot debtId = some slot → slot.status ≠ .BORROWING) ∧
        (removeSlotFinalize debtId e).borrow.slots = e.borrow.slots) ∨
      ∃ slot, e.borrow.findSlot debtId = some slot ∧ slot.status = .BORROWING ∧
        (removeSlotFinalize debtId e).borrow.slots =
          e.borrow.slots.eraseP (·.named debtId) := by
  cases hslot : e.borrow.findSlot debtId with
  | none =>
    refine .inl ⟨fun slot h => (nomatch h), ?_⟩
    simp only [removeSlotFinalize, updateManagedPidBorrowStateAtomic, hslot]
    rfl
  | some s =>
    by_cases hstatus : s.status = .BORROWING
    · refine .inr ⟨s, rfl, hstatus, ?_⟩
      simp only [removeSlotFinalize, updateManagedPidBorrowStateAtomic, hslot, hstatus]
      rfl
    · refine .inl ⟨fun slot h => (Option.some.inj h) ▸ hstatus, ?_⟩
      simp only [removeSlotFinalize, updateManagedPidBorrowStateAtomic, hslot, hstatus]
      rfl

/-- A slot that is taken out frees its bytes. -/
theorem quotaUsed_removeSlotFinalize (debtId : String) (e : PidBorrow) :
    (removeSlotFinalize debtId e).borrow.quotaUsed ≤ e.borrow.quotaUsed ∧
      ∀ slot, e.borrow.findSlot debtId = some slot → slot.status = .BORROWING →
        (removeSlotFinalize debtId e).borrow.quotaUsed + slot.migratedBytes =
          e.borrow.quotaUsed := by
  rw [quotaUsed_eq, quotaUsed_eq]
  rw [show ((removeSlotFinalize debtId e).borrow.currentRemote) = e.borrow.currentRemote from rfl,
    show ((removeSlotFinalize debtId e).borrow.r2rReplacedDebts) = e.borrow.r2rReplacedDebts
      from rfl]
  rcases slots_removeSlotFinalize debtId e with ⟨hnot, hslots⟩ | ⟨s, hslot, hstatus, hslots⟩
  · rw [hslots]
    exact ⟨le_rfl, fun slot h hborrowing => absurd hborrowing (hnot slot h)⟩
  · have hsum := sum_eraseP (·.inFlightBytes e.borrow.r2rReplacedDebts) hslot
    rw [inFlightBytes_of_borrowing hstatus] at hsum
    rw [hslots]
    refine ⟨by omega, fun slot h _ => ?_⟩
    obtain rfl := Option.some.inj (hslot.symm.trans h)
    omega

theorem inFlightFrom_removeSlotFinalize (debtId : String) (e : PidBorrow) :
    InFlightFrom e.borrow.slots (removeSlotFinalize debtId e).borrow.slots := by
  refine .of_subset fun s hs => ?_
  rcases slots_removeSlotFinalize debtId e with ⟨-, hslots⟩ | ⟨-, -, -, hslots⟩
  · rwa [hslots] at hs
  · rw [hslots] at hs
    exact List.mem_of_mem_eraseP hs

/-- A slot that has timed out is in flight. -/
theorem BorrowSlot.borrowing_of_timedOut {s : BorrowSlot} {timeoutPer128MbMs now : Nat}
    (h : s.timedOut timeoutPer128MbMs now = true) : s.status = .BORROWING := by
  simp only [BorrowSlot.timedOut, decide_eq_true_eq] at h
  exact h.1

/-- A timeout frees what was in flight, if the counter was not too low. -/
theorem quotaUsed_checkTimeouts (timeoutPer128MbMs now : Nat) {e : PidBorrow}
    (h : bytesIn .COMPLETED e.borrow.slots ≤ e.borrow.currentRemote) :
    (checkTimeouts timeoutPer128MbMs now e).borrow.quotaUsed ≤ e.borrow.quotaUsed := by
  rw [quotaUsed_eq, quotaUsed_eq]
  by_cases hany : e.borrow.slots.any (·.timedOut timeoutPer128MbMs now)
  · have hstate : checkTimeouts timeoutPer128MbMs now e = updateManagedPidBorrowStateAtomic (fun e =>
        let marked := e.borrow.withSlots (e.borrow.slots.map fun s =>
          if s.timedOut timeoutPer128MbMs now then { s with status := .FAILED } else s)
        let slots := marked.slots.filter fun s => s.status ≠ .FAILED
        { borrow := marked.recomputed.withSlots slots, processStatus := computeSlotStatus slots })
          e := by
      simp only [checkTimeouts, updateManagedPidBorrowStateAtomic, hany, if_true]
    rw [hstate]
    -- what is completed is not marked, and what is marked counts no longer
    have hcompleted : bytesIn .COMPLETED (e.borrow.slots.map fun s =>
        if s.timedOut timeoutPer128MbMs now then { s with status := .FAILED } else s) =
          bytesIn .COMPLETED e.borrow.slots := by
      refine sum_map_congr (fun s => ?_) _
      split
      next hs =>
        rw [BorrowSlot.bytesIn, BorrowSlot.bytesIn, if_neg (by simp),
          if_neg (by simp [s.borrowing_of_timedOut hs])]
      next => rfl
    have hsum := sum_filter_map_le (w := (·.inFlightBytes e.borrow.r2rReplacedDebts))
      (f := fun s => if s.timedOut timeoutPer128MbMs now then { s with status := .FAILED } else s)
      (p := fun s => s.status ≠ .FAILED) (fun s => by
        split
        next => simp [BorrowSlot.inFlightBytes, BorrowSlot.bytesIn, BorrowSlot.returningBytes]
        next => exact le_rfl) e.borrow.slots
    refine Nat.add_le_add ?_ hsum
    exact hcompleted.trans_le h
  · have hstate : checkTimeouts timeoutPer128MbMs now e =
        updateManagedPidBorrowStateAtomic id e := by
      simp only [checkTimeouts, updateManagedPidBorrowStateAtomic, hany]
      rfl
    rw [hstate]
    exact le_rfl

theorem inFlightFrom_checkTimeouts (timeoutPer128MbMs now : Nat) (e : PidBorrow) :
    InFlightFrom e.borrow.slots (checkTimeouts timeoutPer128MbMs now e).borrow.slots := by
  intro s' hs' hstatus
  simp only [checkTimeouts, updateManagedPidBorrowStateAtomic] at hs'
  split at hs'
  next =>
    obtain ⟨hs', -⟩ := List.mem_filter.1 hs'
    obtain ⟨s, hs, rfl⟩ := List.mem_map.1 hs'
    split at hstatus
    next => cases hstatus
    next hnot =>
      rw [if_neg hnot]
      exact ⟨s, hs, hstatus, rfl, rfl⟩
  next => exact ⟨s', hs', hstatus, rfl, rfl⟩

/-- Filling idle capacity changes completed slots only. -/
theorem fillIdle_inFlight (srcNumaId : Int) (need : Nat) (replaced : Finset String)
    (slots : List BorrowSlot) :
    ((fillIdle srcNumaId need slots).2.map (·.inFlightBytes replaced)).sum =
        (slots.map (·.inFlightBytes replaced)).sum ∧
      InFlightFrom slots (fillIdle srcNumaId need slots).2 := by
  induction slots generalizing need with
  | nil => exact ⟨rfl, .refl []⟩
  | cons s slots ih =>
    rw [fillIdle]
    split
    next hs =>
      obtain ⟨hsum, hfrom⟩ := ih (need - min s.idle need)
      have hstatus : s.status = .COMPLETED := by
        have := hs.1
        simp only [BorrowSlot.reusable, decide_eq_true_eq] at this
        exact this.1
      dsimp only
      refine ⟨?_, fun s' hs' hborrowing => ?_⟩
      · rw [List.map_cons, List.sum_cons, List.map_cons, List.sum_cons, hsum,
          inFlightBytes_of_completed hstatus, inFlightBytes_of_completed (by exact hstatus)]
      · rcases List.mem_cons.1 hs' with rfl | hs'
        · cases hstatus.symm.trans hborrowing
        · obtain ⟨a, ha, h⟩ := hfrom s' hs' hborrowing
          exact ⟨a, List.mem_cons_of_mem s ha, h⟩
    next =>
      obtain ⟨hsum, hfrom⟩ := ih need
      dsimp only
      refine ⟨?_, fun s' hs' hborrowing => ?_⟩
      · rw [List.map_cons, List.sum_cons, List.map_cons, List.sum_cons, hsum]
      · rcases List.mem_cons.1 hs' with rfl | hs'
        · exact ⟨s', List.mem_cons_self, hborrowing, rfl, rfl⟩
        · obtain ⟨a, ha, h⟩ := hfrom s' hs' hborrowing
          exact ⟨a, List.mem_cons_of_mem s ha, h⟩

/-- Using idle capacity counts at most what is needed. -/
theorem quotaUsed_reuseIdleSlotCapacity (need : Nat) (srcNumaId : Int) (e : PidBorrow) :
    (reuseIdleSlotCapacity need srcNumaId e).borrow.quotaUsed ≤ e.borrow.quotaUsed + need := by
  obtain ⟨hsum, -⟩ := fillIdle_inFlight srcNumaId need e.borrow.r2rReplacedDebts e.borrow.slots
  rw [quotaUsed_eq, quotaUsed_eq]
  have hcounter : (reuseIdleSlotCapacity need srcNumaId e).borrow.currentRemote ≤
      e.borrow.currentRemote + need := Nat.add_le_add_left (Nat.sub_le _ _) _
  refine (Nat.add_le_add hcounter (le_of_eq hsum)).trans ?_
  omega

theorem inFlightFrom_reuseIdleSlotCapacity (need : Nat) (srcNumaId : Int) (e : PidBorrow) :
    InFlightFrom e.borrow.slots (reuseIdleSlotCapacity need srcNumaId e).borrow.slots :=
  (fillIdle_inFlight srcNumaId need ∅ e.borrow.slots).2

/-- One turn of the loop of `FlushBorrowIncrements` counts no more than the slot had. -/
theorem flushTarget_inFlight {debtId : String} {need : Nat} (remoteNumaId : Int)
    (replaced : Finset String) (numaId : Int) {x : Nat × List BorrowSlot}
    (h : Covers x.2 debtId need) :
    (flushTarget [(remoteNumaId, need)] debtId numaId x).1 +
        ((flushTarget [(remoteNumaId, need)] debtId numaId x).2.map
          (·.inFlightBytes replaced)).sum ≤ x.1 + (x.2.map (·.inFlightBytes replaced)).sum ∧
      InFlightFrom x.2 (flushTarget [(remoteNumaId, need)] debtId numaId x).2 := by
  rw [flushTarget]
  split
  next => exact ⟨le_rfl, .refl _⟩
  next => exact ⟨le_rfl, .refl _⟩
  next remaining _ hremaining =>
    have hneed : remaining = need := by
      rw [List.lookup_cons, List.lookup_nil] at hremaining
      split at hremaining
      next => exact (Option.some.inj hremaining).symm
      next => cases hremaining
    dsimp only
    split
    next => exact ⟨le_rfl, .refl _⟩
    next a ha =>
      refine ⟨?_, .modifyFirst (fun s => by simp) x.2⟩
      have hin := List.find?_some ha
      simp only [BorrowSlot.ownInFlight, Bool.and_eq_true, decide_eq_true_eq] at hin
      obtain ⟨⟨hname, hstatus⟩, -⟩ := hin
      have hbytes := h a (List.mem_of_find?_eq_some ha) hname hstatus
      have hsum := sum_modifyFirst (·.inFlightBytes replaced) (fun s =>
        { s with migratedBytes := min s.capacity remaining, status := .COMPLETED }) ha
      rw [inFlightBytes_of_borrowing hstatus, inFlightBytes_of_completed rfl] at hsum
      dsimp only
      omega

theorem flushBorrowIncrements_inFlight {debtId : String} {need : Nat} (created : CreatedDebtInfo)
    (replaced : Finset String) (numaTargets : List (Int × Nat)) {slots : List BorrowSlot}
    (h : Covers slots debtId need) :
    (flushBorrowIncrements slots numaTargets [(created.remoteNumaId, need)] debtId created).1 +
        ((flushBorrowIncrements slots numaTargets [(created.remoteNumaId, need)] debtId
          created).2.map (·.inFlightBytes replaced)).sum ≤
          (slots.map (·.inFlightBytes replaced)).sum ∧
      InFlightFrom slots
        (flushBorrowIncrements slots numaTargets [(created.remoteNumaId, need)] debtId created).2 := by
  have hfold : ∀ (l : List (Int × Nat)) (x : Nat × List BorrowSlot), Covers x.2 debtId need →
      (l.foldl (fun x t => flushTarget [(created.remoteNumaId, need)] debtId t.1 x) x).1 +
          ((l.foldl (fun x t => flushTarget [(created.remoteNumaId, need)] debtId t.1 x) x).2.map
            (·.inFlightBytes replaced)).sum ≤ x.1 + (x.2.map (·.inFlightBytes replaced)).sum ∧
        InFlightFrom x.2
          (l.foldl (fun x t => flushTarget [(created.remoteNumaId, need)] debtId t.1 x) x).2 := by
    intro l
    induction l with
    | nil => exact fun x _ => ⟨le_rfl, .refl _⟩
    | cons t l ih =>
      intro x hx
      obtain ⟨hle, hfrom⟩ := flushTarget_inFlight created.remoteNumaId replaced
        t.1 hx
      obtain ⟨hle', hfrom'⟩ := ih _ (hx.of_inFlightFrom hfrom)
      exact ⟨hle'.trans hle, hfrom.trans hfrom'⟩
  -- the place of the new debt is noted in the slot first
  have hset : ((slots.map fun s =>
      if s.ownInFlight debtId then
        { s with
          remoteNumaId := created.remoteNumaId
          exportSlotId := created.exportSlotId
          capacity := created.capacity }
      else s).map (·.inFlightBytes replaced)).sum = (slots.map (·.inFlightBytes replaced)).sum := by
    refine sum_map_congr (fun s => ?_) slots
    split <;> rfl
  have hfrom : InFlightFrom slots (slots.map fun s =>
      if s.ownInFlight debtId then
        { s with
          remoteNumaId := created.remoteNumaId
          exportSlotId := created.exportSlotId
          capacity := created.capacity }
      else s) := by
    intro s' hs' hstatus
    obtain ⟨s, hs, rfl⟩ := List.mem_map.1 hs'
    refine ⟨s, hs, ?_⟩
    split at hstatus
    next hown =>
      rw [if_pos hown]
      exact ⟨hstatus, rfl, rfl⟩
    next hown =>
      rw [if_neg hown]
      exact ⟨hstatus, rfl, rfl⟩
  obtain ⟨hle, hfrom'⟩ := hfold numaTargets (0, _) (h.of_inFlightFrom hfrom)
  rw [flushBorrowIncrements]
  refine ⟨hle.trans ?_, hfrom.trans hfrom'⟩
  rw [Nat.zero_add]
  exact le_of_eq hset

/-- A commit counts no more than the slot had in flight. -/
theorem quotaUsed_commit {debtId : String} (created : CreatedDebtInfo) {need : Nat} {e : PidBorrow}
    (h : Covers e.borrow.slots debtId need) (r : MigrateRet) :
    (commitBorrowAndMigrate debtId created [(created.remoteNumaId, need)] r e).2.borrow.quotaUsed ≤
        e.borrow.quotaUsed ∧
      InFlightFrom e.borrow.slots
        (commitBorrowAndMigrate debtId created [(created.remoteNumaId, need)] r
          e).2.borrow.slots := by
  rw [commitBorrowAndMigrate]
  split
  next => exact ⟨le_rfl, .refl _⟩
  next => exact ⟨le_rfl, .refl _⟩
  next groups _ _ =>
    cases r with
    | conflict => exact ⟨le_rfl, .refl _⟩
    | failed => exact ⟨le_rfl, .refl _⟩
    | faultHandling =>
      refine ⟨?_, .modifyFirst (fun s => by simp) _⟩
      rw [quotaUsed_eq, quotaUsed_eq]
      refine Nat.add_le_add_left (?_ : ((modifyFirst (·.named debtId) (fun s =>
        { s with status := .COMPLETED, migratedBytes := 0 }) e.borrow.slots).map
          (·.inFlightBytes e.borrow.r2rReplacedDebts)).sum ≤ _) _
      cases hslot : e.borrow.findSlot debtId with
      | none => rw [modifyFirst_of_find?_none _ hslot]
      | some s =>
        have hsum := sum_modifyFirst (·.inFlightBytes e.borrow.r2rReplacedDebts)
          (fun s => { s with status := .COMPLETED, migratedBytes := 0 }) hslot
        have hafter : BorrowSlot.inFlightBytes e.borrow.r2rReplacedDebts
            { s with status := .COMPLETED, migratedBytes := 0 } = 0 :=
          inFlightBytes_of_completed rfl _
        omega
    | ok =>
      obtain ⟨hle, hfrom⟩ := flushBorrowIncrements_inFlight created e.borrow.r2rReplacedDebts
        (flattenGroupsToDestTotals groups) h
      refine ⟨?_, hfrom⟩
      rw [quotaUsed_eq, quotaUsed_eq]
      refine le_trans (le_of_eq ?_) (Nat.add_le_add_left hle _)
      exact Nat.add_assoc _ _ _

/-! ### The invariant -/

/-- What a task may commit, debt by debt. -/
def BorrowTask.claims (t : BorrowTask) : List (String × Nat) :=
  match t.phase with
  | .splitting _ chunks => chunks.map fun c => (c.2, c.1)
  | _ => [(t.debtId, t.need)]

/-- The amounts of a round are whole blocks. -/
def BorrowRoundCtx.Whole (blockSizeBytes : Nat) (ctx : BorrowRoundCtx) : Prop :=
  (∀ c ∈ ctx.candidates, blockSizeBytes ∣ c.canMigrate) ∧
    ∀ pid, blockSizeBytes ∣ (ctx.borrowedThisRound.lookup pid).getD 0

def RoundPhase.Whole (blockSizeBytes : Nat) : RoundPhase → Prop
  | .idle => True
  | .timingOut _ => True
  | .borrowing ctx _ => ctx.Whole blockSizeBytes
  | .filling ctx _ _ ordered =>
    ctx.Whole blockSizeBytes ∧ ∀ c ∈ ordered, c.candidate ∈ ctx.candidates

/-- **Everything is accounted for**: what is used, what is owed to halves and what the round may
still hand out is within the target, and the tasks commit what they have in flight. -/
structure DecisionState.Accounts (blockSizeBytes : Nat) (pid : Int) (s : DecisionState) : Prop where
  room : ∀ e, s.cache.lookup pid = some e → ∀ k ∈ s.round.allowances pid,
    e.borrow.quotaUsed + owedTo pid s.tasks + k ≤ e.targetRemote
  covers : ∀ e, s.cache.lookup pid = some e → ∀ t ∈ s.tasks, t.pid = pid → ∀ c ∈ t.claims,
    Covers e.borrow.slots c.1 c.2
  whole : s.round.Whole blockSizeBytes

theorem zero_mem_allowances (pid : Int) (r : RoundPhase) : 0 ∈ r.allowances pid := by
  cases r with
  | idle => exact List.mem_singleton_self 0
  | timingOut => exact List.mem_singleton_self 0
  | borrowing => exact List.mem_cons_self
  | filling => exact List.mem_cons_self

theorem DecisionState.Accounts.withinTarget {blockSizeBytes : Nat} {pid : Int} {s : DecisionState}
    (h : s.Accounts blockSizeBytes pid) : s.WithinTarget pid := by
  intro e he
  have := h.room e he 0 (zero_mem_allowances pid s.round)
  omega

theorem owedTo_append (pid : Int) (tasks tasks' : List BorrowTask) :
    owedTo pid (tasks ++ tasks') = owedTo pid tasks + owedTo pid tasks' := by
  rw [owedTo, List.map_append, List.sum_append]
  rfl

theorem owedTo_singleton (pid : Int) (t : BorrowTask) :
    owedTo pid [t] = if t.pid = pid then t.owed else 0 := by
  rw [owedTo, List.map_singleton, List.sum_singleton]

/-- Tasks of other processes owe nothing to this one. -/
theorem owedTo_eq_zero {pid : Int} {tasks : List BorrowTask} (h : ∀ t ∈ tasks, t.pid ≠ pid) :
    owedTo pid tasks = 0 := by
  refine List.sum_eq_zero fun k hk => ?_
  obtain ⟨t, ht, rfl⟩ := List.mem_map.1 hk
  exact if_neg (h t ht)

/-- Tasks of one process owe what they owe together. -/
theorem owedTo_eq_sum {pid : Int} {tasks : List BorrowTask} (h : ∀ t ∈ tasks, t.pid = pid) :
    owedTo pid tasks = (tasks.map (·.owed)).sum :=
  congrArg List.sum (List.map_congr_left fun t ht => if_pos (h t ht))

/-! ### Tasks -/

/-- The names of the debts that an event records. -/
def TaskEvent.recorded : TaskEvent → List String
  | .recordHalf debtId _ => [debtId]
  | _ => []

/-- What an event counts twice. -/
def TaskEvent.spare (t : BorrowTask) : TaskEvent → Nat
  | .fillIdle => t.need
  | _ => 0

/-- What a step of a task does to the entry of its process, and what becomes of the task. -/
structure TaskMove (t : BorrowTask) (event : TaskEvent) (new : List BorrowTask)
    (e e' : ManagedPidEntry) : Prop where
  target : e'.targetRemote = e.targetRemote
  room : e'.borrow.quotaUsed + (new.map (·.owed)).sum ≤
    e.borrow.quotaUsed + t.owed + event.spare t
  claims : ∀ t' ∈ new, ∀ c ∈ t'.claims, Covers e'.borrow.slots c.1 c.2
  others : ∀ n k, Covers e.borrow.slots n k → n ∉ event.recorded → Covers e'.borrow.slots n k

/-- A move after which only slots that were in flight before are, and the task claims no more than
it did. -/
theorem TaskMove.of_inFlightFrom {t : BorrowTask} {event : TaskEvent} {new : List BorrowTask}
    {e e' : ManagedPidEntry} (hcovers : Covers e.borrow.slots t.debtId t.need)
    (htarget : e'.targetRemote = e.targetRemote)
    (hroom : e'.borrow.quotaUsed + (new.map (·.owed)).sum ≤
      e.borrow.quotaUsed + t.owed + event.spare t)
    (hfrom : InFlightFrom e.borrow.slots e'.borrow.slots)
    (hnew : ∀ t' ∈ new, ∀ c ∈ t'.claims, c.1 = t.debtId ∧ c.2 ≤ t.need) :
    TaskMove t event new e e' where
  target := htarget
  room := hroom
  claims t' ht' c hc := by
    obtain ⟨hname, hneed⟩ := hnew t' ht' c hc
    rw [hname]
    exact (hcovers.of_inFlightFrom hfrom).mono hneed
  others n k h _ := h.of_inFlightFrom hfrom

theorem lookup_change_self {cache : ManagedPidCache} {pid : Int} {e : ManagedPidEntry}
    (he : cache.lookup pid = some e) (f : PidBorrow → PidBorrow) :
    (cache.change pid f).lookup pid = some { e with toPidBorrow := f e.toPidBorrow } := by
  rw [ManagedPidCache.lookup_change, if_pos rfl, he]
  rfl

/-- A step of a task leaves the other processes alone. -/
theorem BorrowTask.step_frame {t : BorrowTask} {blockSizeBytes : Nat} {event : TaskEvent}
    {cache cache' : ManagedPidCache} {new : List BorrowTask}
    (h : t.step blockSizeBytes cache t.phase event = some (cache', new)) :
    (∀ t' ∈ new, t'.pid = t.pid) ∧ (∀ pid, pid ≠ t.pid → cache'.lookup pid = cache.lookup pid) ∧
      (cache.lookup t.pid = none → cache'.lookup t.pid = none) := by
  have hchange : ∀ f, (∀ pid, pid ≠ t.pid → (cache.change t.pid f).lookup pid = cache.lookup pid) ∧
      (cache.lookup t.pid = none → (cache.change t.pid f).lookup t.pid = none) := by
    intro f
    refine ⟨fun pid hne => cache.lookup_change_ne hne f, fun hnone => ?_⟩
    rw [ManagedPidCache.lookup_change, if_pos rfl, hnone]
    rfl
  rw [BorrowTask.step.eq_def] at h
  split at h
  next =>
    cases h
    exact ⟨by simp, fun _ _ => rfl, id⟩
  next =>
    split at h
    next =>
      cases h
      exact ⟨by simp, fun _ _ => rfl, id⟩
    next =>
      cases h
      refine ⟨fun t' ht' => ?_, hchange _⟩
      split at ht' <;> rw [List.mem_singleton.1 ht']
  next =>
    cases h
    exact ⟨by simp, fun _ _ => rfl, id⟩
  next =>
    cases h
    refine ⟨fun t' ht' => ?_, hchange _⟩
    rw [BorrowTask.split] at ht'
    split at ht'
    next => rw [List.mem_singleton.1 ht']
    next => cases ht'
  next created attempt _ =>
    split at h
    next =>
      cases h
      exact ⟨by simp, fun _ _ => rfl, id⟩
    next =>
      cases h
      refine ⟨fun t' ht' => ?_, hchange _⟩
      rw [BorrowTask.afterCommit.eq_def] at ht'
      split at ht'
      next => rw [List.mem_singleton.1 ht']
      next => cases ht'
      next => cases ht'
      next => rw [List.mem_singleton.1 ht']
      next => split at ht' <;> rw [List.mem_singleton.1 ht']
  next =>
    cases h
    exact ⟨fun t' ht' => (nomatch ht'), hchange _⟩
  next =>
    cases h
    exact ⟨by simp, hchange _⟩
  next =>
    cases h
    refine ⟨fun t' ht' => (nomatch ht'), fun pid hne => ?_, fun hnone => ?_⟩
    · rw [Map.lookup_modify, if_neg hne]
    · rw [Map.lookup_modify, if_pos rfl, hnone]
      rfl
  next =>
    split at h
    next =>
      cases h
      exact ⟨by simp, hchange _⟩
    next =>
      cases h
      exact ⟨by simp, fun _ _ => rfl, id⟩
  next =>
    cases h
    refine ⟨fun t' ht' => ?_, fun _ _ => rfl, id⟩
    obtain ⟨c, -, rfl⟩ := List.mem_map.1 ht'
    rfl
  next => cases h

/-- A task that is not splitting claims what it needs. -/
theorem BorrowTask.claims_of_ne {t : BorrowTask} (h : ∀ rest chunks, t.phase ≠ .splitting rest chunks) :
    t.claims = [(t.debtId, t.need)] := by
  rw [claims]
  split
  next rest chunks hphase => exact absurd hphase (h rest chunks)
  next => rfl

/-- What is left of a split is what was to be borrowed. -/
theorem BorrowTask.sum_owed_split (t : BorrowTask) (blockSizeBytes : Nat) (x : Bool) :
    (t.split blockSizeBytes x = [] ∨ ((t.split blockSizeBytes x).map (·.owed)).sum = t.need) ∧
      ∀ t' ∈ t.split blockSizeBytes x, t'.claims = [] := by
  rw [split]
  split
  next =>
    have hle : t.firstHalf blockSizeBytes ≤ t.need :=
      (Nat.mul_le_mul_right _ (Nat.div_le_self _ 2)).trans (Nat.div_mul_le_self _ _)
    refine ⟨.inr ?_, fun t' ht' => by rw [List.mem_singleton.1 ht']; rfl⟩
    show [t.firstHalf blockSizeBytes, t.need - t.firstHalf blockSizeBytes].sum + 0 = t.need
    rw [List.sum_cons, List.sum_singleton]
    omega
  next => exact ⟨.inl rfl, fun t' ht' => (nomatch ht')⟩

theorem BorrowTask.afterCommit_spec (t : BorrowTask) (created : CreatedDebtInfo) (attempt : Nat)
    (r : Option AtomicMigrateResult) :
    ((t.afterCommit created attempt r).map (·.owed)).sum = 0 ∧
      ∀ t' ∈ t.afterCommit created attempt r, ∀ c ∈ t'.claims, c.1 = t.debtId ∧ c.2 ≤ t.need := by
  have hone : ∀ ph, (∀ rest chunks, ph ≠ .splitting rest chunks) →
      ((([{ t with phase := ph }] : List BorrowTask).map (·.owed)).sum = 0 ∧
        ∀ t' ∈ [{ t with phase := ph }], ∀ c ∈ t'.claims, c.1 = t.debtId ∧ c.2 ≤ t.need) := by
    intro ph hph
    refine ⟨?_, fun t' ht' c hc => ?_⟩
    · cases ph with
      | splitting rest chunks => exact absurd rfl (hph rest chunks)
      | _ => rfl
    · rw [List.mem_singleton.1 ht', BorrowTask.claims_of_ne hph] at hc
      rw [List.mem_singleton.1 hc]
      exact ⟨rfl, le_rfl⟩
  have hnil : ((([] : List BorrowTask).map (·.owed)).sum = 0 ∧
      ∀ t' ∈ ([] : List BorrowTask), ∀ c ∈ t'.claims, c.1 = t.debtId ∧ c.2 ≤ t.need) :=
    ⟨rfl, fun t' ht' => nomatch ht'⟩
  rw [afterCommit.eq_def]
  split
  next => exact hone _ fun _ _ h => nomatch h
  next => exact hnil
  next => exact hnil
  next => exact hone _ fun _ _ h => nomatch h
  next => split <;> exact hone _ fun _ _ h => nomatch h

/-- **What a step of a task does to the entry of its process.** -/
theorem BorrowTask.step_move {t : BorrowTask} {blockSizeBytes : Nat} {event : TaskEvent}
    {s : DecisionState} {cache' : ManagedPidCache} {new : List BorrowTask} {e : ManagedPidEntry}
    (h : t.step blockSizeBytes s.cache t.phase event = some (cache', new))
    (ht : t ∈ s.tasks) (he : s.cache.lookup t.pid = some e)
    (hclaims : ∀ c ∈ t.claims, Covers e.borrow.slots c.1 c.2)
    (hkeeps : event.KeepsQuota blockSizeBytes s t e) :
    ∃ e', cache'.lookup t.pid = some e' ∧ TaskMove t event new e e' := by
  -- a task that is not splitting has its own slot covered
  have hown : (∀ rest chunks, t.phase ≠ .splitting rest chunks) →
      Covers e.borrow.slots t.debtId t.need := by
    intro hne
    exact hclaims (t.debtId, t.need) (by rw [t.claims_of_ne hne]; exact List.mem_singleton_self _)
  have hstay : ∀ ph : TaskPhase, (∀ rest chunks, ph ≠ .splitting rest chunks) →
      ∀ t' ∈ [{ t with phase := ph }], ∀ c ∈ t'.claims, c.1 = t.debtId ∧ c.2 ≤ t.need := by
    intro ph hph t' ht' c hc
    rw [List.mem_singleton.1 ht', BorrowTask.claims_of_ne hph] at hc
    rw [List.mem_singleton.1 hc]
    exact ⟨rfl, le_rfl⟩
  rw [BorrowTask.step.eq_def] at h
  split at h
  next hphase =>
    cases h
    have hcovers := hown fun _ _ hsplit => nomatch hphase.symm.trans hsplit
    refine ⟨e, he, .of_inFlightFrom hcovers rfl ?_ (.refl _) (hstay _ ?_)⟩
    · split <;> exact Nat.le_add_right _ _
    · split <;> exact fun _ _ hsplit => nomatch hsplit
  next hphase =>
    have hcovers := hown fun _ _ hsplit => nomatch hphase.symm.trans hsplit
    rw [he] at h
    cases h
    refine ⟨_, lookup_change_self he _, .of_inFlightFrom hcovers rfl ?_
      (inFlightFrom_reuseIdleSlotCapacity _ _ _) ?_⟩
    · have hle := quotaUsed_reuseIdleSlotCapacity t.need t.srcNumaId e.toPidBorrow
      have hzero : ((if (fillIdle t.srcNumaId t.need e.borrow.slots).1 = 0 then
          [{ t with need := 0, phase := .finishing }]
        else [{ t with
          need := (fillIdle t.srcNumaId t.need e.borrow.slots).1
          phase := .creating }]).map (·.owed)).sum = 0 := by
        split <;> rfl
      have hspare : TaskEvent.spare t .fillIdle = t.need := rfl
      dsimp only
      omega
    · intro t' ht' c hc
      have hrest := (bytesIn_fillIdle t.srcNumaId t.need e.borrow.slots).1
      split at ht'
      next =>
        rw [List.mem_singleton.1 ht'] at hc
        rw [List.mem_singleton.1 hc]
        exact ⟨rfl, Nat.zero_le _⟩
      next =>
        rw [List.mem_singleton.1 ht'] at hc
        rw [List.mem_singleton.1 hc]
        exact ⟨rfl, hrest⟩
  next created hphase =>
    cases h
    have hcovers := hown fun _ _ hsplit => nomatch hphase.symm.trans hsplit
    exact ⟨e, he, .of_inFlightFrom hcovers rfl (Nat.le_add_right _ _) (.refl _)
      (hstay _ fun _ _ hsplit => nomatch hsplit)⟩
  next sizeExceedsLend hphase =>
    cases h
    have hcovers := hown fun _ _ hsplit => nomatch hphase.symm.trans hsplit
    obtain ⟨hle, hfree⟩ := quotaUsed_removeSlotFinalize t.debtId e.toPidBorrow
    obtain ⟨howed, hnone⟩ := t.sum_owed_split blockSizeBytes sizeExceedsLend
    refine ⟨_, lookup_change_self he _, .of_inFlightFrom hcovers rfl ?_
      (inFlightFrom_removeSlotFinalize _ _) ?_⟩
    · rcases howed with hnil | howed
      · rw [hnil]
        exact hle.trans (Nat.le_add_right _ _)
      · by_cases hnil : t.split blockSizeBytes sizeExceedsLend = []
        · rw [hnil]
          exact hle.trans (Nat.le_add_right _ _)
        · -- the slot that is given up has what the halves are owed
          obtain ⟨slot, hslot, hstatus⟩ := hkeeps hnil
          have hbytes := hcovers slot (List.mem_of_find?_eq_some hslot)
            (by simpa [BorrowSlot.named] using List.find?_some hslot) hstatus
          have := hfree slot hslot hstatus
          dsimp only
          omega
    · intro t' ht' c hc
      rw [hnone t' ht'] at hc
      cases hc
  next created attempt migrateRet hphase =>
    have hcovers := hown fun _ _ hsplit => nomatch hphase.symm.trans hsplit
    rw [he] at h
    cases h
    obtain ⟨hle, hfrom⟩ := quotaUsed_commit created (e := e.toPidBorrow) hcovers migrateRet
    obtain ⟨howed, hnew⟩ := t.afterCommit_spec created attempt
      (commitBorrowAndMigrate t.debtId created (t.increments created) migrateRet e.toPidBorrow).1
    refine ⟨_, lookup_change_self he _, .of_inFlightFrom hcovers rfl ?_ hfrom hnew⟩
    rw [howed]
    exact hle.trans (by omega)
  next hphase =>
    cases h
    have hcovers := hown fun _ _ hsplit => nomatch hphase.symm.trans hsplit
    exact ⟨_, lookup_change_self he _, .of_inFlightFrom hcovers rfl
      ((quotaUsed_removeSlotFinalize _ _).1.trans (by omega))
      (inFlightFrom_removeSlotFinalize _ _) fun t' ht' => nomatch ht'⟩
  next hphase =>
    cases h
    have hcovers := hown fun _ _ hsplit => nomatch hphase.symm.trans hsplit
    exact ⟨_, lookup_change_self he _, .of_inFlightFrom hcovers rfl
      ((quotaUsed_removeSlotFinalize _ _).1.trans (Nat.le_add_right _ _))
      (inFlightFrom_removeSlotFinalize _ _) (hstay _ fun _ _ hsplit => nomatch hsplit)⟩
  next now hphase =>
    cases h
    have hcovers := hown fun _ _ hsplit => nomatch hphase.symm.trans hsplit
    refine ⟨{ e with lastMigrateTime := now }, ?_, .of_inFlightFrom hcovers rfl
      (Nat.le_add_right _ _) (.refl _) fun t' ht' => nomatch ht'⟩
    rw [Map.lookup_modify, if_pos rfl, he]
    rfl
  next amount rest chunks debtId now hphase =>
    have hfresh : s.FreshName t.pid debtId := hkeeps
    have hold : t.claims = chunks.map fun c => (c.2, c.1) := by
      rw [claims, hphase]
    have howed : t.owed = (amount :: rest).sum := by
      rw [owed, hphase]
    split at h
    next hmem =>
      cases h
      refine ⟨_, lookup_change_self he _, rfl, ?_, ?_, ?_⟩
      · have hused := quotaUsed_recordPendingBorrow debtId amount t.srcNumaId now e.toPidBorrow
        rw [List.sum_cons] at howed
        show _ + (rest.sum + 0) ≤ _
        rw [show ∀ x : ManagedPidEntry, x.borrow = x.toPidBorrow.borrow from fun _ => rfl]
        dsimp only
        omega
      · intro t' ht' c hc
        rw [List.mem_singleton.1 ht'] at hc
        obtain ⟨chunk, hchunk, rfl⟩ := List.mem_map.1 (show c ∈ (chunks ++ [_]).map _ from hc)
        rcases List.mem_append.1 hchunk with hchunk | hchunk
        · -- a half that was recorded before
          refine covers_recordPendingBorrow (hclaims _ ?_) (fun hname => ?_) _ _ _
          · rw [hold]
            exact List.mem_map_of_mem hchunk
          · refine hfresh.2 t ht rfl ?_
            rw [names, hphase, hname]
            exact List.mem_cons_of_mem _ (List.mem_map_of_mem hchunk)
        · rw [List.mem_singleton.1 hchunk]
          exact covers_recordPendingBorrow_self (hfresh.1 e he) _ _ _
      · intro n k hcovers hn
        exact covers_recordPendingBorrow hcovers
          (fun hname => hn (hname ▸ List.mem_singleton_self _)) _ _ _
    next hmem =>
      -- there is an entry
      refine absurd ?_ hmem
      rw [← AList.lookup_isSome, he]
      rfl
  next chunks hphase =>
    cases h
    have hold : t.claims = chunks.map fun c => (c.2, c.1) := by
      rw [claims, hphase]
    refine ⟨e, he, rfl, ?_, ?_, fun n k hcovers _ => hcovers⟩
    · have hzero : ((chunks.map fun c =>
          { t with need := c.1, debtId := c.2, phase := .queued : BorrowTask }).map
            (·.owed)).sum = 0 := by
        refine List.sum_eq_zero fun k hk => ?_
        obtain ⟨t', ht', rfl⟩ := List.mem_map.1 hk
        obtain ⟨c, -, rfl⟩ := List.mem_map.1 ht'
        rfl
      rw [hzero]
      omega
    · intro t' ht' c hc
      obtain ⟨chunk, hchunk, rfl⟩ := List.mem_map.1 ht'
      rw [List.mem_singleton.1 (show c ∈ [(chunk.2, chunk.1)] from hc)]
      refine hclaims _ ?_
      rw [hold]
      exact List.mem_map_of_mem hchunk
  next => cases h

/-- A task claims under its names only. -/
theorem BorrowTask.mem_names_of_mem_claims {t : BorrowTask} {c : String × Nat} (h : c ∈ t.claims) :
    c.1 ∈ t.names := by
  rw [claims] at h
  rw [names]
  split at h
  next =>
    obtain ⟨chunk, hchunk, rfl⟩ := List.mem_map.1 h
    exact List.mem_cons_of_mem _ (List.mem_map_of_mem hchunk)
  next =>
    rw [List.mem_singleton.1 h]
    exact List.mem_singleton_self _

section Steps

variable {blockSizeBytes : Nat} {pid : Int} {s s' : DecisionState}

theorem DecisionState.Accounts.taskStep {i : Nat} {event : TaskEvent}
    (hA : s.Accounts blockSizeBytes pid)
    (hkeeps : (DecisionEvent.task i event).KeepsQuota blockSizeBytes pid s)
    (h : s.taskStep blockSizeBytes i event = some s') : s'.Accounts blockSizeBytes pid := by
  rw [DecisionState.taskStep] at h
  split at h
  next => cases h
  next t hget =>
    split at h
    next => cases h
    next =>
      obtain ⟨⟨cache', new⟩, hstep, rfl⟩ := Option.map_eq_some_iff.1 h
      obtain ⟨hpids, hothers, hnone⟩ := BorrowTask.step_frame hstep
      have hmem : t ∈ s.tasks := List.mem_of_getElem? hget
      have herase := sum_eraseIdx (fun t : BorrowTask => if t.pid = pid then t.owed else 0) hget
      by_cases hpid : t.pid = pid
      · subst hpid
        rw [if_pos rfl] at herase
        cases he : s.cache.lookup t.pid with
        | none =>
          -- the process is not managed
          refine ⟨fun e he' => ?_, fun e he' => ?_, hA.whole⟩
          · cases (hnone he).symm.trans he'
          · cases (hnone he).symm.trans he'
        | some e =>
          have hkeeps := hkeeps t hget rfl e he
          obtain ⟨e', he', hmove⟩ := BorrowTask.step_move hstep hmem he
            (hA.covers e he t hmem rfl) hkeeps
          refine ⟨fun x hx k hk => ?_, fun x hx t' ht' hpid c hc => ?_, hA.whole⟩
          · obtain rfl := Option.some.inj (he'.symm.trans hx)
            have hroom := hA.room e he k hk
            have hle := hmove.room
            have hspare : e.borrow.quotaUsed + owedTo t.pid s.tasks + k + event.spare t ≤
                e.targetRemote := by
              cases event with
              | fillIdle => exact hkeeps k hk
              | _ => exact hroom
            rw [hmove.target]
            show _ + owedTo t.pid (s.tasks.eraseIdx i ++ new) + k ≤ _
            rw [owedTo_append, owedTo_eq_sum hpids]
            rw [show ((s.tasks.eraseIdx i).map _).sum = owedTo t.pid (s.tasks.eraseIdx i) from rfl,
              show (s.tasks.map _).sum = owedTo t.pid s.tasks from rfl] at herase
            omega
          · obtain rfl := Option.some.inj (he'.symm.trans hx)
            rcases List.mem_append.1 ht' with ht' | ht'
            · have ht' := List.mem_of_mem_eraseIdx ht'
              refine hmove.others _ _ (hA.covers e he t' ht' hpid c hc) fun hrec => ?_
              cases event with
              | recordHalf debtId now =>
                refine (show s.FreshName t.pid debtId from hkeeps).2 t' ht' hpid ?_
                rw [← List.mem_singleton.1 hrec]
                exact BorrowTask.mem_names_of_mem_claims hc
              | _ => cases hrec
            · exact hmove.claims t' ht' c hc
      · -- another process
        rw [if_neg hpid, Nat.add_zero] at herase
        have hlookup : cache'.lookup pid = s.cache.lookup pid := hothers pid (Ne.symm hpid)
        have hnew : ∀ t' ∈ new, t'.pid ≠ pid := fun t' ht' hp => hpid ((hpids t' ht').symm.trans hp)
        refine ⟨fun e he k hk => ?_, fun e he t' ht' hp c hc => ?_, hA.whole⟩
        · show _ + owedTo pid (s.tasks.eraseIdx i ++ new) + k ≤ _
          rw [owedTo_append, owedTo_eq_zero hnew, Nat.add_zero]
          rw [show owedTo pid (s.tasks.eraseIdx i) = owedTo pid s.tasks from herase]
          exact hA.room e (hlookup.symm.trans he) k hk
        · rcases List.mem_append.1 ht' with ht' | ht'
          · exact hA.covers e (hlookup.symm.trans he) t' (List.mem_of_mem_eraseIdx ht') hp c hc
          · exact absurd hp (hnew t' ht')

/-! ### Rounds -/

/-- A candidate comes from the entry of its process. -/
theorem mem_candidatesOf {cache : ManagedPidCache} {c : BorrowCandidate}
    (h : c ∈ candidatesOf blockSizeBytes cache) :
    ∃ e, cache.lookup c.pid = some e ∧ appendBorrowCandidate blockSizeBytes c.pid e = some c ∧
      c.canMigrate = e.canMigrate blockSizeBytes := by
  obtain ⟨⟨p, e⟩, hmem, happend⟩ := List.mem_filterMap.1 h
  have hfields : c.pid = p ∧ c.canMigrate = e.canMigrate blockSizeBytes := by
    rw [appendBorrowCandidate] at happend
    split at happend
    next => cases happend
    next =>
      split at happend
      next => cases happend
      next =>
        cases happend
        exact ⟨rfl, rfl⟩
  obtain ⟨rfl, hcan⟩ := hfields
  exact ⟨e, Map.mem_entries_iff.1 hmem, happend, hcan⟩

theorem dvd_canMigrate (hblock : blockSizeBytes ≠ 0) (e : ManagedPidEntry) :
    blockSizeBytes ∣ e.canMigrate blockSizeBytes := by
  rw [ManagedPidEntry.canMigrate, if_neg hblock]
  exact Nat.dvd_mul_left _ _

theorem DecisionState.Accounts.collect (hblock : blockSizeBytes ≠ 0)
    {candidates : List BorrowCandidate} {shortages : List NumaShortage}
    {residence : Int → List (Nat × Nat)} {migrating : Int → Option (List Int)} {now : Nat}
    (hA : s.Accounts blockSizeBytes pid)
    (hkeeps : (DecisionEvent.collect candidates shortages residence migrating now).KeepsQuota
      blockSizeBytes pid s)
    (h : s.collect blockSizeBytes candidates shortages residence migrating now = some s') :
    s'.Accounts blockSizeBytes pid := by
  rw [DecisionState.collect] at h
  split at h
  next hbuild =>
    cases h
    simp only [buildCandidates, decide_eq_true_eq, List.isPerm_iff] at hbuild
    have hleft : ∀ c : BorrowCandidate,
        BorrowRoundCtx.canMigrateLeft ⟨candidates, residence, migrating, ∅⟩ c = c.canMigrate :=
      fun c => Nat.sub_zero _
    refine ⟨fun e he k hk => ?_, hA.covers, fun c hc => ?_, fun p => ?_⟩
    · rcases List.mem_cons.1 hk with rfl | hk
      · exact hA.room e he 0 (zero_mem_allowances pid s.round)
      · obtain ⟨c, hc, rfl⟩ := List.mem_map.1 hk
        rw [List.mem_filter, decide_eq_true_eq] at hc
        obtain ⟨hc, rfl⟩ := hc
        obtain ⟨e', he', happend, -⟩ := mem_candidatesOf (hbuild.1.mem_iff.1 hc)
        obtain rfl := Option.some.inj (he.symm.trans he')
        rw [hleft]
        exact hkeeps e he c happend
    · obtain ⟨e, -, -, hcan⟩ := mem_candidatesOf (hbuild.1.mem_iff.1 hc)
      rw [hcan]
      exact dvd_canMigrate hblock e
    · exact Nat.dvd_zero _
  next => cases h

theorem ceilAlignBlock_le (hblock : blockSizeBytes ≠ 0) {bytes k : Nat} (hk : blockSizeBytes ∣ k)
    (h : bytes ≤ k) : ceilAlignBlock bytes blockSizeBytes ≤ k := by
  rw [ceilAlignBlock, if_neg hblock]
  obtain ⟨m, rfl⟩ := hk
  rw [Nat.mul_comm blockSizeBytes m]
  refine Nat.mul_le_mul_right _ ?_
  have hpos := Nat.pos_of_ne_zero hblock
  refine Nat.le_of_lt_succ ((Nat.div_lt_iff_lt_mul hpos).2 ?_)
  rw [Nat.succ_mul, Nat.mul_comm m]
  omega

theorem dvd_ceilAlignBlock (hblock : blockSizeBytes ≠ 0) (bytes : Nat) :
    blockSizeBytes ∣ ceilAlignBlock bytes blockSizeBytes := by
  rw [ceilAlignBlock, if_neg hblock]
  exact Nat.dvd_mul_left _ _

/-- A round borrows no more for a candidate than it may. -/
theorem borrowAmount_le (hblock : blockSizeBytes ≠ 0) {ctx : BorrowRoundCtx}
    (hwhole : ctx.Whole blockSizeBytes) {c : OrderedCandidate} (hc : c.candidate ∈ ctx.candidates)
    (shortage : NumaShortage) :
    borrowAmount blockSizeBytes ctx shortage c ≤ ctx.canMigrateLeft c.candidate := by
  have hdvd : blockSizeBytes ∣ ctx.canMigrateLeft c.candidate :=
    Nat.dvd_sub (hwhole.1 _ hc) (hwhole.2 _)
  refine ceilAlignBlock_le hblock hdvd ?_
  cases c.capBytes with
  | none => exact Nat.min_le_left _ _
  | some cap => exact (Nat.min_le_left _ _).trans (Nat.min_le_left _ _)

/-- What is used goes up by what is recorded, and what the round may still hand out goes down. -/
theorem DecisionState.Accounts.recordNext {ctx : BorrowRoundCtx} {shortages : List NumaShortage}
    {shortage shortage' : NumaShortage} {c : OrderedCandidate} {ordered ordered' : List OrderedCandidate}
    {debtId : String} {amount now : Nat} (hA : s.Accounts blockSizeBytes pid)
    (hround : s.round = .filling ctx shortages shortage ordered) (hc : c.candidate ∈ ctx.candidates)
    (hle : amount ≤ ctx.canMigrateLeft c.candidate)
    (hfresh : c.candidate.pid = pid → s.FreshName pid debtId)
    (hwhole : BorrowRoundCtx.Whole blockSizeBytes
      { ctx with
        borrowedThisRound := ctx.borrowedThisRound.insert c.candidate.pid
          ((ctx.borrowedThisRound.lookup c.candidate.pid).getD 0 + amount) })
    (hordered : ∀ a ∈ ordered', a.candidate ∈ ctx.candidates) :
    DecisionState.Accounts blockSizeBytes pid
      { cache := s.cache.change c.candidate.pid
          (recordPendingBorrow debtId amount shortage.srcNumaId now)
        round := .filling
          { ctx with
            borrowedThisRound := ctx.borrowedThisRound.insert c.candidate.pid
              ((ctx.borrowedThisRound.lookup c.candidate.pid).getD 0 + amount) }
          shortages shortage' ordered'
        tasks := s.tasks ++
          [{ debtId, pid := c.candidate.pid, need := amount, srcNumaId := shortage.srcNumaId }] } := by
  have hroom := hA.room
  rw [hround] at hroom
  by_cases hpid : c.candidate.pid = pid
  · subst hpid
    have hfresh := hfresh rfl
    refine ⟨fun e he k hk => ?_, fun e he t ht hp d hd => ?_, hwhole, hordered⟩
    · rw [ManagedPidCache.lookup_change, if_pos rfl, Option.map_eq_some_iff] at he
      obtain ⟨e, he, rfl⟩ := he
      have hused := quotaUsed_recordPendingBorrow debtId amount shortage.srcNumaId now e.toPidBorrow
      -- the candidate itself had room for the amount
      have hself := hroom e he (ctx.canMigrateLeft c.candidate)
        (List.mem_cons_of_mem 0 (List.mem_map_of_mem (List.mem_filter.2 ⟨hc, decide_eq_true rfl⟩)))
      have howed : owedTo c.candidate.pid (s.tasks ++
          [{ debtId, pid := c.candidate.pid, need := amount, srcNumaId := shortage.srcNumaId }]) =
            owedTo c.candidate.pid s.tasks := by
        rw [owedTo_append, owedTo_singleton, if_pos rfl]
        rfl
      have htarget : ManagedPidEntry.targetRemote
          { e with
            toPidBorrow := recordPendingBorrow debtId amount shortage.srcNumaId now e.toPidBorrow } =
              e.targetRemote := rfl
      rw [howed, htarget]
      dsimp only
      rw [hused]
      rcases List.mem_cons.1 hk with rfl | hk
      · omega
      · obtain ⟨c', hc', rfl⟩ := List.mem_map.1 hk
        obtain ⟨hmem, hpid'⟩ := List.mem_filter.1 hc'
        have hroom' := hroom e he (ctx.canMigrateLeft c')
          (List.mem_cons_of_mem 0 (List.mem_map_of_mem hc'))
        have hleft : BorrowRoundCtx.canMigrateLeft
            { ctx with
              borrowedThisRound := ctx.borrowedThisRound.insert c.candidate.pid
                ((ctx.borrowedThisRound.lookup c.candidate.pid).getD 0 + amount) } c' =
              ctx.canMigrateLeft c' - amount := by
          rw [BorrowRoundCtx.canMigrateLeft, BorrowRoundCtx.canMigrateLeft, Map.lookup_insert_ite,
            if_pos (of_decide_eq_true hpid'), of_decide_eq_true hpid', Nat.sub_sub]
          rfl
        rw [hleft]
        omega
    · rw [ManagedPidCache.lookup_change, if_pos rfl, Option.map_eq_some_iff] at he
      obtain ⟨e, he, rfl⟩ := he
      rcases List.mem_append.1 ht with ht | ht
      · refine covers_recordPendingBorrow (hA.covers e he t ht hp d hd) (fun hname => ?_) _ _ _
        refine hfresh.2 t ht hp ?_
        rw [hname]
        exact BorrowTask.mem_names_of_mem_claims hd
      · rw [List.mem_singleton.1 ht] at hd
        rw [List.mem_singleton.1 (show d ∈ [(debtId, amount)] from hd)]
        exact covers_recordPendingBorrow_self (hfresh.1 e he) _ _ _
  · -- another process is given the amount
    have hlookup : ∀ f, (s.cache.change c.candidate.pid f).lookup pid = s.cache.lookup pid :=
      fun f => s.cache.lookup_change_ne (Ne.symm hpid) f
    refine ⟨fun e he k hk => ?_, fun e he t ht hp d hd => ?_, hwhole, hordered⟩
    · rw [owedTo_append, owedTo_singleton, if_neg (show ¬c.candidate.pid = pid from hpid),
        Nat.add_zero]
      refine hroom e ((hlookup _).symm.trans he) k ?_
      rcases List.mem_cons.1 hk with rfl | hk
      · exact List.mem_cons_self
      · obtain ⟨c', hc', rfl⟩ := List.mem_map.1 hk
        have hpid' := of_decide_eq_true (List.mem_filter.1 hc').2
        have hleft : BorrowRoundCtx.canMigrateLeft
            { ctx with
              borrowedThisRound := ctx.borrowedThisRound.insert c.candidate.pid
                ((ctx.borrowedThisRound.lookup c.candidate.pid).getD 0 + amount) } c' =
              ctx.canMigrateLeft c' := by
          rw [BorrowRoundCtx.canMigrateLeft, BorrowRoundCtx.canMigrateLeft, Map.lookup_insert_ite,
            if_neg fun h => hpid (h.symm.trans hpid')]
        rw [hleft]
        exact List.mem_cons_of_mem 0 (List.mem_map_of_mem hc')
    · rcases List.mem_append.1 ht with ht | ht
      · exact hA.covers e ((hlookup _).symm.trans he) t ht hp d hd
      · rw [List.mem_singleton.1 ht] at hp
        exact absurd hp hpid

theorem DecisionState.Accounts.fillNext (hblock : blockSizeBytes ≠ 0) {ctx : BorrowRoundCtx}
    {shortages : List NumaShortage} {shortage : NumaShortage} {ordered : List OrderedCandidate}
    {debtId : String} {now : Nat} (hA : s.Accounts blockSizeBytes pid)
    (hround : s.round = .filling ctx shortages shortage ordered)
    (hfresh : s.round.nextPid = some pid → s.FreshName pid debtId) :
    (s.fillNext blockSizeBytes ctx shortages shortage debtId now ordered).Accounts
      blockSizeBytes pid := by
  have hroom := hA.room
  have hwhole := hA.whole
  rw [hround] at hroom hwhole
  have hdone : DecisionState.Accounts blockSizeBytes pid
      { s with round := .borrowing ctx shortages } := ⟨hroom, hA.covers, hwhole.1⟩
  cases ordered with
  | nil => exact hdone
  | cons c ordered =>
    have hnext : DecisionState.Accounts blockSizeBytes pid
        { s with round := .filling ctx shortages shortage ordered } :=
      ⟨hroom, hA.covers, hwhole.1, fun a ha => hwhole.2 a (List.mem_cons_of_mem c ha)⟩
    have hc := hwhole.2 c List.mem_cons_self
    rw [DecisionState.fillNext]
    split
    next => exact hdone
    next =>
      split
      next => exact hnext
      next =>
        dsimp only
        split
        next => exact hdone
        next =>
          split
          next hmem =>
            have hle := borrowAmount_le hblock hwhole.1 hc shortage
            have hdvd : blockSizeBytes ∣ borrowAmount blockSizeBytes ctx shortage c :=
              dvd_ceilAlignBlock hblock _
            generalize borrowAmount blockSizeBytes ctx shortage c = amount at hle hdvd ⊢
            have hwhole' : BorrowRoundCtx.Whole blockSizeBytes
                { ctx with
                  borrowedThisRound := ctx.borrowedThisRound.insert c.candidate.pid
                    ((ctx.borrowedThisRound.lookup c.candidate.pid).getD 0 + amount) } := by
              refine ⟨hwhole.1.1, fun p => ?_⟩
              rw [Map.lookup_insert_ite]
              split
              next => exact Nat.dvd_add (hwhole.1.2 _) hdvd
              next => exact hwhole.1.2 p
            exact hA.recordNext hround hc hle
              (fun hpid => hfresh (by rw [hround, RoundPhase.nextPid, hpid])) hwhole'
              fun a ha => hwhole.2 a (List.mem_cons_of_mem c ha)
          next => exact hnext

theorem candidate_of_orderedCandidate {ctx : BorrowRoundCtx} {now : Nat} {srcNumaId : Int}
    {c : BorrowCandidate} {a : OrderedCandidate}
    (h : orderedCandidate blockSizeBytes now ctx srcNumaId c = some a) : a.candidate = c := by
  simp only [orderedCandidate, Option.ite_none_left_eq_some, Option.some.injEq] at h
  obtain ⟨-, -, -, -, rfl⟩ := h
  rfl

theorem DecisionState.Accounts.roundStep (hblock : blockSizeBytes ≠ 0) {event : DecisionEvent}
    (hA : s.Accounts blockSizeBytes pid) (hkeeps : event.KeepsQuota blockSizeBytes pid s)
    (h : s.roundStep blockSizeBytes s.round event = some s') : s'.Accounts blockSizeBytes pid := by
  have hroom := hA.room
  have hwhole := hA.whole
  have hidle : ∀ e, s.cache.lookup pid = some e → ∀ k ∈ [0],
      e.borrow.quotaUsed + owedTo pid s.tasks + k ≤ e.targetRemote := by
    intro e he k hk
    rw [List.mem_singleton.1 hk]
    exact hroom e he 0 (zero_mem_allowances pid s.round)
  rw [DecisionState.roundStep.eq_def] at h
  split at h
  next =>
    cases h
    exact ⟨hidle, hA.covers, trivial⟩
  next p pids timeout now hround =>
    cases h
    refine ⟨fun e he k hk => ?_, fun e he t ht hp c hc => ?_, trivial⟩
    · by_cases hpid : pid = p
      · subst hpid
        rw [ManagedPidCache.lookup_change, if_pos rfl, Option.map_eq_some_iff] at he
        obtain ⟨e, he, rfl⟩ := he
        have hle := quotaUsed_checkTimeouts timeout now (hkeeps (by rw [hround]; rfl) e he)
        have hbefore := hidle e he k hk
        have htarget : ManagedPidEntry.targetRemote
            { e with toPidBorrow := checkTimeouts timeout now e.toPidBorrow } =
              e.targetRemote := rfl
        rw [htarget]
        dsimp only
        omega
      · rw [ManagedPidCache.lookup_change_ne _ hpid] at he
        exact hidle e he k hk
    · by_cases hpid : pid = p
      · subst hpid
        rw [ManagedPidCache.lookup_change, if_pos rfl, Option.map_eq_some_iff] at he
        obtain ⟨e, he, rfl⟩ := he
        exact (hA.covers e he t ht hp c hc).of_inFlightFrom (inFlightFrom_checkTimeouts _ _ _)
      · rw [ManagedPidCache.lookup_change_ne _ hpid] at he
        exact hA.covers e he t ht hp c hc
  next => exact hA.collect hblock hkeeps h
  next => exact hA.collect hblock hkeeps h
  next =>
    cases h
    exact ⟨hidle, hA.covers, trivial⟩
  next =>
    cases h
    exact ⟨hidle, hA.covers, trivial⟩
  next ctx shortage shortages ready now hround =>
    cases h
    rw [hround] at hroom hwhole
    split
    next => exact ⟨hroom, hA.covers, hwhole⟩
    next =>
      refine ⟨hroom, hA.covers, hwhole, fun a ha => ?_⟩
      -- the order is one of the candidates
      have hmem := (List.mem_insertionSort _).1 ha
      obtain ⟨c, hc, hordered⟩ := List.mem_filterMap.1 hmem
      rw [candidate_of_orderedCandidate hordered]
      exact hc
  next ctx shortages shortage ordered debtId now hround =>
    cases h
    exact hA.fillNext hblock hround hkeeps
  next => cases h

end Steps

theorem getUbseBlockSizeBytes_ne_zero (blockSizeMb : Nat) :
    getUbseBlockSizeBytes blockSizeMb ≠ 0 := by
  rw [getUbseBlockSizeBytes]
  split
  next => decide
  next h => exact Nat.mul_ne_zero h (by decide)

/-- **A step that keeps to the quota leaves everything accounted for.** -/
theorem accounts_step {blockSizeMb : Nat} {pid : Int} {s s' : DecisionState}
    {event : DecisionEvent} (hA : s.Accounts (getUbseBlockSizeBytes blockSizeMb) pid)
    (hkeeps : event.KeepsQuota (getUbseBlockSizeBytes blockSizeMb) pid s)
    (h : (borrowSystem blockSizeMb).step s event s') :
    s'.Accounts (getUbseBlockSizeBytes blockSizeMb) pid := by
  have h : s.step (getUbseBlockSizeBytes blockSizeMb) event = some s' := h
  have hblock := getUbseBlockSizeBytes_ne_zero blockSizeMb
  cases event with
  | task i event => exact hA.taskStep hkeeps h
  | startTimer => exact hA.roundStep hblock hkeeps h
  | checkTimeouts => exact hA.roundStep hblock hkeeps h
  | collect => exact hA.roundStep hblock hkeeps h
  | beginFill => exact hA.roundStep hblock hkeeps h
  | fillNext => exact hA.roundStep hblock hkeeps h
  | endRound => exact hA.roundStep hblock hkeeps h

theorem accounts_init {blockSizeMb : Nat} {pid : Int} {s : DecisionState}
    (hinit : (borrowSystem blockSizeMb).init s) (h : s.WithinTarget pid) :
    s.Accounts (getUbseBlockSizeBytes blockSizeMb) pid := by
  obtain ⟨hround, htasks⟩ := hinit
  refine ⟨fun e he k hk => ?_, fun e he t ht => ?_, ?_⟩
  · rw [hround] at hk
    rw [List.mem_singleton.1 hk, htasks]
    exact h e he
  · rw [htasks] at ht
    cases ht
  · rw [hround]
    trivial

/-! ### Runs -/

/-- **In a run that keeps to the quota of a process, the process stays within its target.** -/
theorem keeps_within_target {blockSizeMb : Nat} {pid : Int} {s s' : DecisionState}
    {tr : List (Transition DecisionState DecisionEvent)} (hinit : (borrowSystem blockSizeMb).init s)
    (hstart : s.WithinTarget pid) (hrun : (borrowSystem blockSizeMb).Run s tr s')
    (hkeeps : System.Guarded
      (fun s event => event.KeepsQuota (getUbseBlockSizeBytes blockSizeMb) pid s) tr) :
    System.Keeps (DecisionState.WithinTarget pid) tr := by
  intro x hx
  have hA := hrun.keeps_of_guarded (fun _ _ _ hA hG h => accounts_step hA hG h)
    (accounts_init hinit hstart) hkeeps x hx
  exact hA.withinTarget

/-! ### Two rounds -/

/-- A process of 20 blocks, half of which are to be remote. -/
def halfRemote : ManagedPidEntry :=
  { pid := 4242, maxMemory := 20 * 2 ^ 27, remoteRatio := 1 / 2, vmRss := 20 * 2 ^ 27 }

def halfRemoteState : DecisionState where
  cache := (∅ : ManagedPidCache).insert 4242 halfRemote

/-- It, as a candidate. -/
def halfRemoteCandidate (canMigrate : Nat) (hasActiveBorrow : Bool) : BorrowCandidate where
  pid := 4242
  isChild := false
  hasActiveBorrow := hasActiveBorrow
  overCap := true
  lastMigrateTime := 0
  actual := 20 * 2 ^ 27
  canMigrate := canMigrate
  boundNumaMask := 0

/-- A round fills a shortage of ten blocks. -/
def oneRound (debtId : String) : List DecisionEvent :=
  [.collect [halfRemoteCandidate (10 * 2 ^ 27) false] [⟨0, 10 * 2 ^ 27⟩] (fun _ => [])
      (fun _ => none) 0,
    .beginFill true 0, .fillNext debtId 0, .fillNext "" 0, .endRound]

/-- A round, and the task that it has started. -/
def roundAndTask : List DecisionEvent :=
  oneRound "1-4242-0-0" ++
    [.task 0 .checkIdle,
      .task 0 (.created { remoteNumaId := 4, exportSlotId := 2, capacity := 10 * 2 ^ 27 }),
      .task 0 (.commit .ok), .task 0 (.noteTime 1)]

/-- No node can lend ten blocks. The task takes its slot out, and before it records the halves the
next round lends everything again. -/
def roundInSplit : List DecisionEvent :=
  oneRound "1-4242-0-0" ++ [.task 0 .checkIdle, .task 0 (.createFailed true)] ++
    oneRound "1-4242-1-1" ++ [.task 0 (.recordHalf "1-4242-2-2" 2)]

/-- A step, or nothing if it cannot be taken. -/
def DecisionState.advance (blockSizeBytes : Nat) (s : DecisionState) (event : DecisionEvent) :
    DecisionState := (s.step blockSizeBytes event).getD s

/-- The steps of a list can all be taken. -/
def StepsFrom (blockSizeBytes : Nat) (s : DecisionState) (events : List DecisionEvent) : Bool :=
  (System.trace (DecisionState.advance blockSizeBytes) s events).all fun x =>
    (x.pre.step blockSizeBytes x.event).isSome

theorem run_of_stepsFrom (blockSizeMb : Nat) (s : DecisionState) (events : List DecisionEvent)
    (h : StepsFrom (getUbseBlockSizeBytes blockSizeMb) s events = true) :
    (borrowSystem blockSizeMb).Run s
      (System.trace (DecisionState.advance (getUbseBlockSizeBytes blockSizeMb)) s events)
      (events.foldl (DecisionState.advance (getUbseBlockSizeBytes blockSizeMb)) s) := by
  refine System.run_trace_of_step _ fun x hx => ?_
  have hsome := List.all_eq_true.1 h x hx
  have hpost : (x.pre.step (getUbseBlockSizeBytes blockSizeMb) x.event).getD x.pre = x.post :=
    System.post_of_mem_trace hx
  obtain ⟨t, ht⟩ := Option.isSome_iff_exists.1 hsome
  rw [ht] at hpost
  exact ht.trans (congrArg some hpost)

example : halfRemote.targetRemote = 10 * 2 ^ 27 := by decide +kernel

instance (pid : Int) (s : DecisionState) : Decidable (s.WithinTarget pid) :=
  inferInstanceAs (Decidable (∀ e ∈ s.cache.lookup pid, _ ≤ _))

theorem keeps_within_target_round :
    System.Keeps (DecisionState.WithinTarget 4242)
      (System.trace (DecisionState.advance (getUbseBlockSizeBytes 0)) halfRemoteState
        roundAndTask) := by
  have hrun := run_of_stepsFrom 0 halfRemoteState roundAndTask (by decide +kernel)
  refine keeps_within_target ⟨rfl, rfl⟩ (by decide +kernel) hrun ?_
  show ∀ x ∈ System.trace _ _ _, _
  decide +kernel

/-- With the halves the process gets beyond its target. -/
theorem not_keeps_within_target :
    ¬ ∀ (blockSizeMb : Nat) (pid : Int) (s s' : DecisionState)
      (tr : List (Transition DecisionState DecisionEvent)),
      (borrowSystem blockSizeMb).init s → s.WithinTarget pid →
        (borrowSystem blockSizeMb).Run s tr s' →
          System.Keeps (DecisionState.WithinTarget pid) tr := by
  intro h
  have hrun := run_of_stepsFrom 0 halfRemoteState roundInSplit (by decide +kernel)
  have hkeeps := h 0 4242 _ _ _ ⟨rfl, rfl⟩ (by decide +kernel) hrun
  have hend := hrun.keeps_end (by simp [roundInSplit, oneRound]) hkeeps
  revert hend
  decide +kernel

end ProcessMem

end UbsEngine
