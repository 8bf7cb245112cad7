import UbsEngine.Executor.TaskExecutor
import Mathlib.Data.List.Perm.Basic
import Mathlib.Order.WellFounded

/-!
# What the executor does with its tasks

Whatever the threads and the callers do, every accepted task is in one place: it waits, or it was
started, in the order of acceptance and once (`UbsEngine.Executor.executor_accounts`). What is counted
as pending are the tasks that wait and run, and the ones that have thrown, which nobody takes off.

Left to itself, the executor comes to rest: either no task is left, or it has stopped and all threads
have left (`UbsEngine.Executor.executor_serves`). No thread sleeps while there is something for it:
each item in the queue has a thread that is about to look or a post of the semaphore, because a
thread that looks takes at most one item, and the semaphore is not lowered by one that finds an item.
-/

namespace UbsEngine

namespace Executor

/-! ### What holds between any two actions -/

namespace Holder

/-- The orders to leave that `Stop` has yet to give. -/
def left : Holder → Nat
  | .stopping left => left
  | .stopPosting left => left
  | _ => 0

/-- It is `Stop` that holds the mutex. -/
def ends : Holder → Bool
  | .stopping _ => true
  | .stopPosting _ => true
  | _ => false

/-- The posts of the semaphore that are due. -/
def posts : Holder → Nat
  | .posting => 1
  | .stopPosting _ => 1
  | _ => 0

/-- The accepted tasks that are not counted yet. -/
def uncounted : Holder → Nat
  | .posting => 1
  | .counting => 1
  | _ => 0

end Holder

namespace UbseTaskExecutor

variable {τ : Type} {mCapacity : Nat}

/-- The orders to leave are in front of the tasks that wait. Each thread is ordered to leave once, and
an item in the queue is never forgotten. -/
structure Inv (mThreadNum stops : Nat) (waiting : List τ) (e : UbseTaskExecutor τ mCapacity) :
    Prop where
  items : e.mRunnableQueue.items = List.replicate stops .stop ++ waiting.map .normal
  accepted : e.accepted = e.started ++ waiting
  started : e.started.Perm (e.running ++ (e.finished ++ e.thrown))
  threads : e.looking + e.sleeping + e.running.length + e.exited = mThreadNum
  orders : stops + e.exited + e.holder.left =
    if e.mStopped = true ∨ e.holder.ends = true then mThreadNum else 0
  wakes : stops + waiting.length ≤ e.mSem + e.looking + e.holder.posts
  pending : e.pending + BitVec.ofNat 64 e.holder.uncounted =
    BitVec.ofNat 64 (waiting.length + e.running.length + e.thrown.length)
  stopped : e.mStopped = true → e.holder = .nobody ∧ e.exited = mThreadNum

variable {mThreadNum stops : Nat} {waiting : List τ} {e e' : UbseTaskExecutor τ mCapacity}
  {task : τ}

theorem afterStart_inv (mThreadNum : Nat) (h : 0 < mCapacity) :
    (afterStart mThreadNum h : UbseTaskExecutor τ mCapacity).Inv mThreadNum 0 [] where
  items := rfl
  accepted := rfl
  started := List.Perm.refl _
  threads := rfl
  orders := rfl
  wakes := Nat.zero_le _
  pending := rfl
  stopped := fun h => Bool.noConfusion h

/-- The length of the queue. -/
theorem Inv.length_items (h : e.Inv mThreadNum stops waiting) :
    e.mRunnableQueue.items.length = stops + waiting.length := by
  rw [h.items, List.length_append, List.length_replicate, List.length_map]

/-! ### The callers -/

theorem execute_inv (h : e.Inv mThreadNum stops waiting) (hact : e.execute task = some e') :
    e'.Inv mThreadNum stops (waiting ++ [task]) := by
  unfold execute at hact
  split_ifs at hact with hbusy
  rcases not_or.1 hbusy with ⟨hnobody, hrunning⟩
  rw [not_not] at hnobody
  rcases Option.map_eq_some_iff.1 hact with ⟨queue, hpush, rfl⟩
  have hwakes := h.wakes
  have hpending := h.pending
  rw [hnobody] at hwakes hpending
  refine
    { items := ?_, accepted := ?_, started := h.started, threads := h.threads, orders := ?_,
      wakes := ?_, pending := ?_, stopped := fun hstopped => absurd hstopped hrunning }
  · rw [RingBuffer.items_pushBack hpush, h.items, List.map_append, List.append_assoc]
    rfl
  · change e.accepted ++ [task] = e.started ++ (waiting ++ [task])
    rw [h.accepted, List.append_assoc]
  · simpa [hnobody, hrunning, Holder.left, Holder.ends] using h.orders
  · rw [List.length_append, List.length_singleton]
    simp only [Holder.posts] at hwakes ⊢
    omega
  · rw [List.length_append, List.length_singleton]
    simp only [Holder.uncounted] at hpending ⊢
    bv_omega

theorem post_inv (h : e.Inv mThreadNum stops waiting) (hact : e.post = some e') :
    e'.Inv mThreadNum stops waiting := by
  have horders := h.orders
  have hwakes := h.wakes
  have hpending := h.pending
  have hstopped := h.stopped
  rcases hholder : e.holder with _ | _ | _ | left | left <;>
    rw [hholder] at horders hwakes hpending hstopped <;>
    simp only [post, hholder, Option.some.injEq, reduceCtorEq] at hact
  · subst hact
    refine { h with orders := horders, wakes := ?_, pending := hpending, stopped := fun h => ?_ }
    · simp only [Holder.posts] at hwakes ⊢
      omega
    · exact absurd (hstopped h).1 (by simp)
  · subst hact
    refine { h with orders := horders, wakes := ?_, pending := hpending, stopped := fun h => ?_ }
    · simp only [Holder.posts] at hwakes ⊢
      omega
    · exact absurd (hstopped h).1 (by simp)

theorem count_inv (h : e.Inv mThreadNum stops waiting) (hact : e.count = some e') :
    e'.Inv mThreadNum stops waiting := by
  unfold count at hact
  split_ifs at hact with hholder
  cases hact
  have horders := h.orders
  have hwakes := h.wakes
  have hpending := h.pending
  rw [hholder] at horders hwakes hpending
  refine { h with orders := horders, wakes := hwakes, pending := ?_, stopped := fun hstopped => ?_ }
  · simp only [Holder.uncounted] at hpending ⊢
    bv_omega
  · exact absurd (hholder ▸ (h.stopped hstopped).1) (by simp)

theorem stop_inv (h : e.Inv mThreadNum stops waiting) (hact : e.stop mThreadNum = some e') :
    e'.Inv mThreadNum stops waiting := by
  unfold stop at hact
  split_ifs at hact with hbusy
  rcases not_or.1 hbusy with ⟨hnobody, hrunning⟩
  rw [not_not] at hnobody
  cases hact
  have horders := h.orders
  have hwakes := h.wakes
  have hpending := h.pending
  rw [hnobody] at horders hwakes hpending
  refine
    { h with
      orders := ?_, wakes := hwakes, pending := hpending
      stopped := fun hstopped => absurd hstopped hrunning }
  simp only [hrunning, Holder.left, Holder.ends] at horders ⊢
  simp only [Bool.false_eq_true, or_self, if_false] at horders
  simp only [or_true, if_true]
  omega

theorem enqueueFirst_inv (h : e.Inv mThreadNum stops waiting) (hact : e.enqueueFirst = some e') :
    e'.Inv mThreadNum (stops + 1) waiting := by
  have horders := h.orders
  have hwakes := h.wakes
  have hpending := h.pending
  have hstopped := h.stopped
  rcases hholder : e.holder with _ | _ | _ | _ | left <;>
    simp only [enqueueFirst, hholder, reduceCtorEq] at hact
  rename_i left
  rcases left with _ | left
  · simp only [reduceCtorEq] at hact
  · rcases Option.map_eq_some_iff.1 hact with ⟨queue, hpush, rfl⟩
    rw [hholder] at horders hwakes hpending hstopped
    refine
      { h with
        items := ?_, orders := ?_, wakes := ?_, pending := hpending
        stopped := fun h => absurd (hstopped h).1 (by simp) }
    · rw [RingBuffer.items_pushFront hpush, h.items, List.replicate_succ, List.cons_append]
    · simp only [Holder.left, Holder.ends, or_true, if_true] at horders ⊢
      omega
    · simp only [Holder.posts] at hwakes ⊢
      omega

theorem join_inv (h : e.Inv mThreadNum stops waiting) (hact : e.join = some e') :
    e'.Inv mThreadNum stops waiting := by
  unfold join at hact
  split_ifs at hact with hleft
  rcases hleft with ⟨hholder, hlooking, hsleeping, hrunning⟩
  cases hact
  have horders := h.orders
  have hwakes := h.wakes
  have hpending := h.pending
  have hthreads := h.threads
  rw [hholder] at horders hwakes hpending
  rw [hlooking, hsleeping, hrunning, List.length_nil] at hthreads
  refine
    { h with
      orders := ?_, wakes := hwakes, pending := hpending
      stopped := fun _ => ⟨rfl, by simpa using hthreads⟩ }
  simpa [Holder.left, Holder.ends] using horders

/-! ### The threads -/

theorem semWait_inv (h : e.Inv mThreadNum stops waiting) (hact : e.semWait = some e') :
    e'.Inv mThreadNum stops waiting := by
  unfold semWait at hact
  split_ifs at hact with hnone
  rcases not_or.1 hnone with ⟨hsem, hsleeping⟩
  cases hact
  have hwakes := h.wakes
  have hthreads := h.threads
  refine { h with threads := ?_, wakes := ?_ } <;> dsimp only <;> omega

/-- A thread that finds nothing leaves nothing behind, and one that finds an item takes it. -/
theorem dequeue_inv (h : e.Inv mThreadNum stops waiting) (hact : e.dequeue = some e') :
    ∃ stops' waiting', e'.Inv mThreadNum stops' waiting' := by
  unfold dequeue at hact
  split_ifs at hact with hlooking
  have hwakes := h.wakes
  have hthreads := h.threads
  have horders := h.orders
  rcases hpop : e.mRunnableQueue.popFront with _ | ⟨_ | _, queue⟩ <;> rw [hpop] at hact <;>
    cases hact
  · have hempty := h.length_items
    rw [RingBuffer.popFront_eq_none.1 hpop, List.length_nil] at hempty
    refine ⟨stops, waiting, { h with threads := ?_, wakes := ?_ }⟩ <;> dsimp only <;> omega
  · -- The tasks come up when no order is left.
    rename_i task
    have hitems := RingBuffer.items_popFront hpop
    rw [h.items] at hitems
    rcases stops with _ | stops
    · rcases waiting with _ | ⟨first, waiting⟩
      · simp at hitems
      · simp only [List.replicate_zero, List.nil_append, List.map_cons, List.cons.injEq,
          UbseRunnable.normal.injEq] at hitems
        rcases hitems with ⟨rfl, hitems⟩
        refine ⟨0, waiting,
          { h with
            items := by rw [← hitems]; rfl
            accepted := ?_, started := ?_, threads := ?_, wakes := ?_, pending := ?_ }⟩
        · change e.accepted = e.started ++ [first] ++ waiting
          rw [h.accepted, List.append_assoc]
          rfl
        · change (e.started ++ [first]).Perm (first :: e.running ++ (e.finished ++ e.thrown))
          exact (List.perm_append_singleton ..).trans (h.started.cons _)
        · simp only [List.length_cons]
          omega
        · simp only [List.length_cons] at hwakes ⊢
          omega
        · have hpending := h.pending
          simp only [List.length_cons] at hpending ⊢
          rw [hpending]
          congr 1
          omega
    · simp [List.replicate_succ] at hitems
  · have hitems := RingBuffer.items_popFront hpop
    rw [h.items] at hitems
    rcases stops with _ | stops
    · rcases waiting with _ | ⟨first, waiting⟩ <;> simp at hitems
    · rw [List.replicate_succ, List.cons_append, List.cons.injEq] at hitems
      have hstopped := h.stopped
      refine ⟨stops, waiting,
        { h with
          items := hitems.2.symm, threads := ?_, orders := ?_, wakes := ?_
          stopped := fun hs => ⟨(hstopped hs).1, ?_⟩ }⟩
      · dsimp only
        omega
      · rw [← horders]
        dsimp only
        omega
      · dsimp only
        omega
      · have := (hstopped hs).2
        omega

variable [DecidableEq τ]

/-- A task that leaves its thread is kept among the others. -/
theorem perm_moved {started running rest rest' : List τ}
    (hstarted : started.Perm (running ++ rest)) (hmem : task ∈ running)
    (hrest : rest'.Perm (task :: rest)) : started.Perm (running.erase task ++ rest') :=
  calc
    started.Perm (running ++ rest) := hstarted
    List.Perm _ (task :: running.erase task ++ rest) := (List.perm_cons_erase hmem).append_right _
    List.Perm _ (running.erase task ++ task :: rest) := List.perm_middle.symm
    List.Perm _ (running.erase task ++ rest') := hrest.symm.append_left _

theorem finish_inv (h : e.Inv mThreadNum stops waiting) (hact : e.finish task = some e') :
    e'.Inv mThreadNum stops waiting := by
  unfold finish at hact
  split_ifs at hact with hmem
  cases hact
  have hlength := List.length_erase_of_mem hmem
  have hpos := List.length_pos_of_mem hmem
  have hthreads := h.threads
  have hwakes := h.wakes
  have hpending := h.pending
  refine { h with started := ?_, threads := ?_, wakes := ?_, pending := ?_ }
  · refine perm_moved h.started hmem ?_
    rw [List.append_assoc]
    exact List.perm_middle
  · dsimp only
    omega
  · dsimp only
    omega
  · dsimp only
    rw [hlength]
    bv_omega

theorem throw_inv (h : e.Inv mThreadNum stops waiting) (hact : e.throw task = some e') :
    e'.Inv mThreadNum stops waiting := by
  unfold throw at hact
  split_ifs at hact with hmem
  cases hact
  have hlength := List.length_erase_of_mem hmem
  have hpos := List.length_pos_of_mem hmem
  have hthreads := h.threads
  have hwakes := h.wakes
  refine { h with started := ?_, threads := ?_, wakes := ?_, pending := ?_ }
  · refine perm_moved h.started hmem ?_
    rw [← List.append_assoc]
    exact List.perm_append_singleton ..
  · dsimp only
    omega
  · dsimp only
    omega
  · dsimp only
    rw [h.pending, hlength, List.length_append, List.length_singleton]
    congr 1
    omega

/-! ### Runs -/

/-- **An action keeps the account.** -/
theorem act_inv (h : e.Inv mThreadNum stops waiting) {a : Action τ}
    (hact : e.act mThreadNum a = some e') :
    ∃ stops' waiting', e'.Inv mThreadNum stops' waiting' := by
  cases a with
  | execute task => exact ⟨_, _, execute_inv h hact⟩
  | post => exact ⟨_, _, post_inv h hact⟩
  | count => exact ⟨_, _, count_inv h hact⟩
  | stop => exact ⟨_, _, stop_inv h hact⟩
  | enqueueFirst => exact ⟨_, _, enqueueFirst_inv h hact⟩
  | join => exact ⟨_, _, join_inv h hact⟩
  | dequeue => exact dequeue_inv h hact
  | semWait => exact ⟨_, _, semWait_inv h hact⟩
  | finish task => exact ⟨_, _, finish_inv h hact⟩
  | throw task => exact ⟨_, _, throw_inv h hact⟩

theorem run_inv (h : e.Inv mThreadNum stops waiting) (actions : List (Action τ)) :
    ∃ stops' waiting', (actions.foldl (step mThreadNum) e).Inv mThreadNum stops' waiting' := by
  induction actions generalizing e stops waiting with
  | nil => exact ⟨_, _, h⟩
  | cons a actions ih =>
    rw [List.foldl_cons, step]
    rcases hact : e.act mThreadNum a with _ | e'
    · exact ih h
    · rcases act_inv h hact with ⟨_, _, h'⟩
      exact ih h'

end UbseTaskExecutor

/-- Two tasks are accepted, and one of them throws before the executor is stopped. -/
def twoTasks : List (Action Nat) :=
  [.execute 1, .post, .count, .execute 2, .post, .count, .dequeue, .throw 1, .stop, .enqueueFirst,
    .post, .dequeue, .join]

/-- The actions that nobody has to call for. -/
def Action.own {τ : Type} : Action τ → Bool
  | .execute _ => false
  | .stop => false
  | _ => true

/-- What a call still has to do: an order is more work than an item in the queue. -/
def Holder.load : Holder → Nat
  | .nobody => 0
  | .posting => 4
  | .counting => 1
  | .stopping left => 6 * left + 1
  | .stopPosting left => 6 * left + 4

namespace UbseTaskExecutor

variable {τ : Type} {mCapacity : Nat} {mThreadNum stops : Nat} {waiting : List τ}
  {e e' : UbseTaskExecutor τ mCapacity}

/-- A post of the semaphore is work, too, as it lets a thread look once. -/
def load (e : UbseTaskExecutor τ mCapacity) : Nat :=
  2 * e.mRunnableQueue.items.length + 2 * e.mSem + 2 * e.running.length + e.looking + e.holder.load

theorem post_load (hact : e.post = some e') : e'.load < e.load := by
  rcases hholder : e.holder with _ | _ | _ | left | left <;>
    simp only [post, hholder, Option.some.injEq, reduceCtorEq] at hact <;> subst hact <;>
    simp only [load, hholder, Holder.load] <;> omega

theorem enqueueFirst_load (hact : e.enqueueFirst = some e') : e'.load < e.load := by
  rcases hholder : e.holder with _ | _ | _ | _ | _ <;>
    simp only [enqueueFirst, hholder, reduceCtorEq] at hact
  rename_i left
  rcases left with _ | left
  · simp only [reduceCtorEq] at hact
  · rcases Option.map_eq_some_iff.1 hact with ⟨queue, hpush, rfl⟩
    simp only [load, hholder, Holder.load, RingBuffer.items_pushFront hpush, List.length_cons]
    omega

theorem dequeue_load (hact : e.dequeue = some e') : e'.load < e.load := by
  unfold dequeue at hact
  split_ifs at hact with hlooking
  rcases hpop : e.mRunnableQueue.popFront with _ | ⟨_ | _, queue⟩ <;> rw [hpop] at hact <;>
    cases hact
  · simp only [load]
    omega
  · simp only [load, RingBuffer.items_popFront hpop, List.length_cons]
    omega
  · simp only [load, RingBuffer.items_popFront hpop, List.length_cons]
    omega

variable [DecidableEq τ]

/-- The executor goes on by itself. -/
def Works (mThreadNum : Nat) (e e' : UbseTaskExecutor τ mCapacity) : Prop :=
  ∃ a : Action τ, a.own = true ∧ e.act mThreadNum a = some e'

/-- **Every step of its own leaves less to do.** -/
theorem works_load (hworks : Works mThreadNum e e') : e'.load < e.load := by
  rcases hworks with ⟨a, hown, hact⟩
  cases a with
  | execute task => cases hown
  | stop => cases hown
  | post => exact post_load hact
  | enqueueFirst => exact enqueueFirst_load hact
  | dequeue => exact dequeue_load hact
  | count =>
    dsimp only [act] at hact
    unfold count at hact
    split_ifs at hact with hholder
    cases hact
    simp only [load, hholder, Holder.load]
    omega
  | join =>
    dsimp only [act] at hact
    unfold join at hact
    split_ifs at hact with hleft
    cases hact
    simp only [load, hleft.1, Holder.load]
    omega
  | semWait =>
    dsimp only [act] at hact
    unfold semWait at hact
    split_ifs at hact with hnone
    cases hact
    simp only [load]
    omega
  | finish task =>
    dsimp only [act] at hact
    unfold finish at hact
    split_ifs at hact with hmem
    cases hact
    have hpos := List.length_pos_of_mem hmem
    simp only [load, List.length_erase_of_mem hmem]
    omega
  | throw task =>
    dsimp only [act] at hact
    unfold throw at hact
    split_ifs at hact with hmem
    cases hact
    have hpos := List.length_pos_of_mem hmem
    simp only [load, List.length_erase_of_mem hmem]
    omega

theorem acc_works (mThreadNum : Nat) (e : UbseTaskExecutor τ mCapacity) :
    Acc (fun e' e => Works mThreadNum e e') e :=
  Subrelation.accessible (fun hworks => works_load hworks) (InvImage.accessible load
    (WellFounded.apply Nat.lt_wfRel.wf _))

/-! ### When the executor comes to rest -/

/-- No thread is at work, and no post or count is due. -/
theorem rests (hstuck : ∀ a : Action τ, a.own = true → e.act mThreadNum a = none) :
    e.looking = 0 ∧ e.running = [] ∧ (e.mSem = 0 ∨ e.sleeping = 0) ∧
      (e.holder = .nobody ∨ ∃ left, e.holder = .stopping left) := by
  have hdequeue := hstuck .dequeue rfl
  have hsemWait := hstuck .semWait rfl
  have hpost := hstuck .post rfl
  have hcount := hstuck .count rfl
  refine ⟨?_, ?_, ?_, ?_⟩
  · by_contra hlooking
    simp only [act, dequeue, hlooking, if_false] at hdequeue
    rcases hpop : e.mRunnableQueue.popFront with _ | ⟨_ | _, queue⟩ <;> rw [hpop] at hdequeue <;>
      cases hdequeue
  · refine List.eq_nil_iff_forall_not_mem.2 fun task hmem => ?_
    have hfinish := hstuck (.finish task) rfl
    simp [act, finish, hmem] at hfinish
  · by_contra hnone
    simp [act, semWait, hnone] at hsemWait
  · rcases hholder : e.holder with _ | _ | _ | left | left
    · exact .inl rfl
    · simp [act, post, hholder] at hpost
    · simp [act, count, hholder] at hcount
    · exact .inr ⟨left, rfl⟩
    · simp [act, post, hholder] at hpost

/-- `Stop` cannot wait for ever: while it has orders to give or threads to wait for, a thread is
awake, since it has something to find. -/
theorem not_stopping (h : e.Inv mThreadNum stops waiting) (hcapacity : 0 < mCapacity)
    (hstuck : ∀ a : Action τ, a.own = true → e.act mThreadNum a = none) (left : Nat) :
    e.holder ≠ .stopping left := by
  intro hholder
  rcases rests hstuck with ⟨hlooking, hrunning, hasleep, -⟩
  have hthreads := h.threads
  have horders := h.orders
  have hwakes := h.wakes
  have hlength := h.length_items
  rw [hlooking, hrunning, List.length_nil] at hthreads
  simp only [hholder, Holder.left, Holder.ends, or_true, if_true] at horders
  simp only [hholder, hlooking, Holder.posts] at hwakes
  rcases left with _ | left
  · -- All orders are given, so a thread that has not left has one to find.
    have hjoin := hstuck .join rfl
    have hsleeping : e.sleeping ≠ 0 := by
      intro hsleeping
      simp [act, join, hholder, hlooking, hsleeping, hrunning] at hjoin
    have hsem := hasleep.resolve_right hsleeping
    omega
  · -- The queue is full, so there is something to find.
    have hpush := hstuck .enqueueFirst rfl
    simp only [act, enqueueFirst, hholder, Option.map_eq_none_iff] at hpush
    rw [RingBuffer.pushFront_eq_none, hlength] at hpush
    have hsleeping := hasleep.resolve_left (by omega)
    omega

theorem nobody_of_stuck (h : e.Inv mThreadNum stops waiting) (hcapacity : 0 < mCapacity)
    (hstuck : ∀ a : Action τ, a.own = true → e.act mThreadNum a = none) : e.holder = .nobody := by
  rcases rests hstuck with ⟨-, -, -, hnobody | ⟨left, hleft⟩⟩
  · exact hnobody
  · exact absurd hleft (not_stopping h hcapacity hstuck left)

/-- All threads sleep, so the semaphore is down, and there is nothing to find. -/
theorem served_of_stuck (h : e.Inv mThreadNum stops waiting) (hthreads : 0 < mThreadNum)
    (hstuck : ∀ a : Action τ, a.own = true → e.act mThreadNum a = none)
    (hnobody : e.holder = .nobody) (hstopped : e.mStopped = false) :
    e.mRunnableQueue.items = [] ∧ e.accepted.Perm (e.finished ++ e.thrown) := by
  rcases rests hstuck with ⟨hlooking, hrunning, hasleep, -⟩
  have hall := h.threads
  have horders := h.orders
  have hwakes := h.wakes
  have hstarted := h.started
  rw [hlooking, hrunning, List.length_nil] at hall
  simp only [hstopped, hnobody, Holder.left, Holder.ends, Bool.false_eq_true, or_self,
    if_false] at horders
  simp only [hnobody, hlooking, Holder.posts] at hwakes
  have hsem := hasleep.resolve_right (by omega)
  obtain rfl : waiting = [] := List.length_eq_zero_iff.1 (by omega)
  obtain rfl : stops = 0 := by omega
  refine ⟨h.items, ?_⟩
  rw [hrunning, List.nil_append] at hstarted
  rw [h.accepted, List.append_nil]
  exact hstarted

end UbseTaskExecutor

/-- **The executor serves its tasks.** After any run, it cannot go on for ever by itself, as long as
no task does, and it comes to rest in one of two ways: it has not been stopped, nothing is left in the
queue, and every accepted task has finished or thrown; or it has stopped, and every thread has left.
So no thread sleeps over a task, and `Stop` always returns, even if the queue is full. -/
theorem executor_serves {τ : Type} [DecidableEq τ] {mCapacity : Nat} (mThreadNum : Nat)
    (hthreads : 0 < mThreadNum) (hcapacity : 0 < mCapacity) (actions : List (Action τ)) :
    let e : UbseTaskExecutor τ mCapacity :=
      actions.foldl (UbseTaskExecutor.step mThreadNum) (.afterStart mThreadNum hcapacity)
    Acc (fun e' e => UbseTaskExecutor.Works mThreadNum e e') e ∧
      ((∀ a : Action τ, a.own = true → e.act mThreadNum a = none) →
        e.holder = .nobody ∧
          (e.mStopped = false ∧ e.mRunnableQueue.items = [] ∧
              e.accepted.Perm (e.finished ++ e.thrown) ∨
            e.mStopped = true ∧ e.exited = mThreadNum)) := by
  intro e
  obtain ⟨stops, waiting, hinv⟩ : ∃ stops waiting, e.Inv mThreadNum stops waiting :=
    UbseTaskExecutor.run_inv (UbseTaskExecutor.afterStart_inv mThreadNum hcapacity) actions
  refine ⟨UbseTaskExecutor.acc_works mThreadNum e, fun hstuck => ?_⟩
  have hnobody := UbseTaskExecutor.nobody_of_stuck hinv hcapacity hstuck
  refine ⟨hnobody, ?_⟩
  rcases hstopped : e.mStopped with _ | _
  · exact .inl ⟨rfl, UbseTaskExecutor.served_of_stuck hinv hthreads hstuck hnobody hstopped⟩
  · exact .inr ⟨rfl, (hinv.stopped hstopped).2⟩

theorem executor_serves_twoTasks :
    let e : UbseTaskExecutor Nat 4 :=
      twoTasks.foldl (UbseTaskExecutor.step 1) (.afterStart 1 (by decide))
    Acc (fun e' e => UbseTaskExecutor.Works 1 e e') e ∧
      ((∀ a : Action Nat, a.own = true → e.act 1 a = none) →
        e.holder = .nobody ∧
          (e.mStopped = false ∧ e.mRunnableQueue.items = [] ∧
              e.accepted.Perm (e.finished ++ e.thrown) ∨
            e.mStopped = true ∧ e.exited = 1)) :=
  executor_serves 1 (by decide) (by decide) twoTasks

end Executor

end UbsEngine
