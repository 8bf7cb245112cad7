import UbsEngine.Event.Delivery
import Mathlib.Data.Prod.Lex
import Mathlib.Order.WellFounded

/-!
# Every event reaches its subscribers in the end

Left to itself, the bus does what there is to do: its threads cannot go on forever
(`UbsEngine.Event.Bus.acc_works`), and while it runs they only come to rest when nothing is left, and
then every handler has been called for every event that the hub has delivered to it
(`UbsEngine.Event.bus_drains`). So the queues of the priorities cannot block each other, and the thread
that distributes cannot wait for room forever.
-/

namespace UbsEngine

namespace Event

/-- The actions that the bus does by itself. -/
def Action.own : Action → Bool
  | .take => true
  | .readSubscribes => true
  | .distribute => true
  | .popEvent => true
  | .fetch _ => true
  | .call _ _ => true
  | .next _ _ => true
  | _ => false

/-- The bus goes on by itself. -/
def Bus.Works (b b' : Bus) : Prop := ∃ a : Action, a.own = true ∧ b.act a = some b'

/-! ### The work comes to an end -/

/-- A task is less and less work on its way, and a worker that has left is none. -/
def UbseEventThreadPool.load (pool : UbseEventThreadPool) (p : UbseEventPriority) : Nat :=
  4 * (pool.queues p).queue.length + 3 * (pool.holding p).length + 2 * (pool.calling p).length +
    pool.idle p

def DistributeThread.load : DistributeThread → Nat
  | .notStarted => 0
  | .waiting => 1
  | .taken _ => 0
  | .sending _ eventVec => 5 * eventVec.length + 2
  | .ended => 0

/-- First the events that have not been read, whose subscribers are not known yet. -/
def Bus.load (b : Bus) : Nat ×ₗ Nat :=
  toLex (b.hub.waiting.length, b.distributeThread.load +
    (b.pool.load .high + b.pool.load .medium + b.pool.load .low))

namespace UbseEventThreadPool

variable {pool pool' : UbseEventThreadPool} {priority : UbseEventPriority} {worker : Nat}

/-- An action on one priority. -/
theorem load_lt_of_priority (priority : UbseEventPriority)
    (hother : ∀ p, p ≠ priority → pool'.load p = pool.load p)
    (hlt : pool'.load priority < pool.load priority) :
    pool'.load .high + pool'.load .medium + pool'.load .low <
      pool.load .high + pool.load .medium + pool.load .low := by
  rcases priority with _ | _ | _
  · rw [hother .medium (by decide), hother .low (by decide)]
    omega
  · rw [hother .high (by decide), hother .low (by decide)]
    omega
  · rw [hother .high (by decide), hother .medium (by decide)]
    omega

theorem fetch_load (hrunning : pool.isRunning = true → ∀ p, (pool.queues p).isQueueRunning = true)
    (h : pool.fetch priority = some pool') :
    pool'.load .high + pool'.load .medium + pool'.load .low <
      pool.load .high + pool.load .medium + pool.load .low := by
  rw [fetch, Option.ite_none_left_eq_some] at h
  obtain ⟨hidle, h⟩ := h
  obtain ⟨⟨task, q⟩, hget, rfl⟩ := Option.map_eq_some_iff.1 h
  unfold UbseEventQueue.getTask at hget
  split_ifs at hget with hstopped
  · cases hget
    have hpool : pool.isRunning ≠ true := fun hpool => by
      simp [hrunning hpool priority] at hstopped
    refine load_lt_of_priority priority (fun p hp => by simp [load, hp]) ?_
    simp only [load, Function.update_self, if_neg hpool]
    omega
  · split at hget
    next => cases hget
    next task rest hqueue =>
      cases hget
      refine load_lt_of_priority priority (fun p hp => by simp [load, hp]) ?_
      simp only [load, Function.update_self, hqueue, List.length_cons, List.length_append,
        List.length_nil]
      omega

theorem call_load (h : pool.call priority worker = some pool') :
    pool'.load .high + pool'.load .medium + pool'.load .low <
      pool.load .high + pool.load .medium + pool.load .low := by
  obtain ⟨task, htask, rfl⟩ := Option.map_eq_some_iff.1 h
  obtain ⟨hlt, -⟩ := List.getElem?_eq_some_iff.1 htask
  dsimp only
  split_ifs
  · refine load_lt_of_priority priority (fun p hp => by simp [load, hp]) ?_
    simp only [load, Function.update_self, List.length_eraseIdx_of_lt hlt, List.length_append,
      List.length_singleton]
    omega
  · refine load_lt_of_priority priority (fun p hp => by simp [load, hp]) ?_
    simp only [load, Function.update_self, List.length_eraseIdx_of_lt hlt]
    omega

theorem next_load (h : pool.next priority worker = some pool') :
    pool'.load .high + pool'.load .medium + pool'.load .low <
      pool.load .high + pool.load .medium + pool.load .low := by
  rw [next, Option.ite_none_right_eq_some, Option.some.injEq] at h
  obtain ⟨hlt, rfl⟩ := h
  refine load_lt_of_priority priority (fun p hp => by simp [load, hp]) ?_
  simp only [load, Function.update_self, List.length_eraseIdx_of_lt hlt]
  split_ifs <;> omega

end UbseEventThreadPool

namespace Bus

variable {b b' : Bus}

theorem load_lt_of_waiting (h : b'.hub.waiting.length < b.hub.waiting.length) :
    b'.load < b.load := Prod.Lex.toLex_lt_toLex.2 (.inl h)

theorem load_lt_of_hub (hhub : b'.hub = b.hub)
    (hlt : b'.distributeThread.load +
        (b'.pool.load .high + b'.pool.load .medium + b'.pool.load .low) <
      b.distributeThread.load + (b.pool.load .high + b.pool.load .medium + b.pool.load .low)) :
    b'.load < b.load := by
  refine Prod.Lex.toLex_lt_toLex.2 (.inr ⟨?_, hlt⟩)
  rw [hhub]

/-- A step of the bus is a part of its work, one case for each action. -/
theorem works_load (h : b.Inv) (hworks : b.Works b') : b'.load < b.load := by
  obtain ⟨a, hown, hact⟩ := hworks
  have hhub := (act_simulates h hact).hub
  have hpool : ∀ f : Option UbseEventThreadPool, (f.map fun pool => { b with pool }) = some b' →
      b'.hub = b.hub → (∀ pool, f = some pool →
        pool.load .high + pool.load .medium + pool.load .low <
          b.pool.load .high + b.pool.load .medium + b.pool.load .low) → b'.load < b.load := by
    rintro f hf hhub hlt
    obtain ⟨pool, hpool, rfl⟩ := Option.map_eq_some_iff.1 hf
    exact load_lt_of_hub hhub (Nat.add_lt_add_left (hlt pool hpool) _)
  cases a with
  | take =>
    refine load_lt_of_hub hhub ?_
    obtain ⟨hthread, heq⟩ := Option.ite_none_right_eq_some.1 hact
    split_ifs at heq
    · cases heq
      simp [hthread, DistributeThread.load]
    · obtain ⟨event, -, rfl⟩ := Option.map_eq_some_iff.1 heq
      simp [hthread, DistributeThread.load]
  | readSubscribes =>
    refine load_lt_of_waiting ?_
    rw [hhub]
    simp only [act, readSubscribes] at hact
    split at hact
    next event hthread =>
      obtain ⟨rest, hrest⟩ := List.head?_eq_some_iff.1 (h.event event (by rw [hthread]; rfl))
      have hwaiting : b.hub.waiting = event :: rest := by
        simp [Bus.hub, hthread, hrest, DistributeThread.hasRead]
      simp only [Action.visible, hthread, Option.elim_some, Hub.apply, hwaiting]
      exact Nat.lt_succ_self _
    next => cases hact
  | distribute =>
    refine load_lt_of_hub hhub ?_
    simp only [act, distribute] at hact
    split at hact
    next event task todo hthread =>
      obtain ⟨q, hadd, rfl⟩ := Option.map_eq_some_iff.1 hact
      have hlength : q.queue.length ≤ (b.pool.queues task.priority).queue.length + 1 := by
        unfold UbseEventQueue.addEventTask at hadd
        split_ifs at hadd <;> cases hadd <;> simp
      rw [hthread]
      simp only [DistributeThread.load, UbseEventThreadPool.load, List.length_cons,
        Function.update_apply]
      rcases hp : task.priority with _ | _ | _ <;> rw [hp] at hlength <;> simp <;> omega
    next => cases hact
  | popEvent =>
    refine load_lt_of_hub hhub ?_
    simp only [act, popEvent] at hact
    split at hact
    next event hthread =>
      cases hact
      simp [hthread, DistributeThread.load]
    next => cases hact
  | fetch =>
    exact hpool _ hact hhub fun _ => UbseEventThreadPool.fetch_load h.isQueueRunning
  | call => exact hpool _ hact hhub fun _ => UbseEventThreadPool.call_load
  | next => exact hpool _ hact hhub fun _ => UbseEventThreadPool.next_load
  | _ => cases hown

/-- **The bus cannot go on forever** by itself. -/
theorem acc_works (h : b.Inv) : Acc (fun b' b => Works b b') b := by
  induction hload : b.load using WellFoundedLT.induction generalizing b with
  | ind load ih =>
    refine Acc.intro b fun b' hworks => ?_
    obtain ⟨a, -, hact⟩ := id hworks
    exact ih b'.load (hload ▸ works_load h hworks) (act_simulates h hact).inv rfl

/-! ### When the bus comes to rest -/

variable {threads : UbseEventPriority → Nat}

/-- Nothing is left to do for a priority. -/
def Idle (b : Bus) (p : UbseEventPriority) : Prop :=
  (b.pool.queues p).queue = [] ∧ b.pool.holding p = [] ∧ b.pool.calling p = []

/-- One of the workers of a priority can go on, unless nothing is left for it. -/
theorem idle_of_stuck (h : b.Inv) (hpool : b.pool.Inv threads) (hthreads : ∀ p, 0 < threads p)
    (hrunning : b.pool.isRunning = true)
    (hstuck : ∀ a : Action, a.own = true → b.act a = none) (p : UbseEventPriority) : b.Idle p := by
  have hholding : b.pool.holding p = [] := by
    have hcall := hstuck (.call p 0) rfl
    simpa [act, UbseEventThreadPool.call] using hcall
  have hcalling : b.pool.calling p = [] := by
    have hnext := hstuck (.next p 0) rfl
    simpa [act, UbseEventThreadPool.next] using hnext
  refine ⟨?_, hholding, hcalling⟩
  -- All workers are at the queue, and so it is empty.
  have hworkers := hpool.workers hrunning p
  have hpos := hthreads p
  rw [hholding, hcalling, List.length_nil] at hworkers
  have hidle : b.pool.idle p ≠ 0 := by omega
  have hfetch := hstuck (.fetch p) rfl
  rcases hqueue : (b.pool.queues p).queue with _ | ⟨task, rest⟩
  · rfl
  · simp [act, UbseEventThreadPool.fetch, hidle, UbseEventQueue.getTask,
      h.isQueueRunning hrunning p, hqueue] at hfetch

/-- While it is to run, the thread that distributes can go on, unless no event is left: a queue with
no room would keep the workers busy. -/
theorem waiting_of_stuck (h : b.Inv) (hpool : b.pool.Inv threads) (hthreads : ∀ p, 0 < threads p)
    (hrunning : b.threadRunning = true)
    (hstuck : ∀ a : Action, a.own = true → b.act a = none) :
    b.distributeThread = .waiting ∧ b.events = [] := by
  obtain ⟨hstarted, hended⟩ := h.threadRunning hrunning
  have hpoolRunning := h.isRunning hended
  have htake := hstuck .take rfl
  have hread := hstuck .readSubscribes rfl
  have hsend := hstuck .distribute rfl
  have hpop := hstuck .popEvent rfl
  rcases hthread : b.distributeThread with _ | _ | event | ⟨event, _ | ⟨task, todo⟩⟩ | _
  · exact absurd hthread hstarted
  · refine ⟨rfl, ?_⟩
    simpa [act, take, hthread, hrunning] using htake
  · simp [act, readSubscribes, hthread] at hread
  · simp [act, popEvent, hthread] at hpop
  · obtain ⟨hqueue, -, -⟩ := idle_of_stuck h hpool hthreads hpoolRunning hstuck task.priority
    simp [act, distribute, hthread, UbseEventQueue.addEventTask,
      h.isQueueRunning hpoolRunning, hqueue, hpool.capacity, defaultQueueSize] at hsend
  · exact absurd hthread hended

end Bus

theorem threadMaxItem_pos (configured : UbseEventPriority → Nat) (p : UbseEventPriority) :
    0 < threadMaxItem configured p := by
  rcases p with _ | _ | _ <;> simp only [threadMaxItem, configCheck] <;> split_ifs <;> omega

/-- **The bus drains.** After any run and for any configuration, the bus cannot go on forever by
itself. While it is to run, it only comes to rest when no event and no task is left, and then the
handlers have been called for exactly the tasks that the hub has delivered, once for each of them. -/
theorem bus_drains (configured : UbseEventPriority → Nat) (actions : List Action) :
    let b := actions.foldl Bus.step (Bus.init configured)
    let hub := ((Bus.init configured).visible actions).foldl Hub.apply {}
    Acc (fun b' b => Bus.Works b b') b ∧
      (b.threadRunning = true ∧ (∀ a : Action, a.own = true → b.act a = none) →
        hub.waiting = [] ∧ ∀ p, b.Idle p ∧ (b.pool.called p).Perm (hub.delivered p)) := by
  intro b hub
  obtain ⟨hinv, hhub⟩ := Bus.run_simulates (Bus.init_inv configured) actions
  rw [Bus.init_hub] at hhub
  have hpool := Bus.run_pool_inv (Bus.init_pool_inv configured) actions
  refine ⟨Bus.acc_works hinv, ?_⟩
  rintro ⟨hrunning, hstuck⟩
  have hthreads := threadMaxItem_pos configured
  obtain ⟨hthread, hevents⟩ := Bus.waiting_of_stuck hinv hpool hthreads hrunning hstuck
  have hpoolRunning := hinv.isRunning (hinv.threadRunning hrunning).2
  have hhub' : hub = b.hub := hhub.symm
  refine ⟨?_, fun p => ?_⟩
  · rw [hhub']
    simp [Bus.hub, b, hthread, hevents]
  · have hidle := Bus.idle_of_stuck hinv hpool hthreads hpoolRunning hstuck p
    obtain ⟨hqueue, hholding, -⟩ := id hidle
    have hperm := hpool.complete hpoolRunning p
    rw [hholding, List.append_nil] at hperm
    refine ⟨hidle, ?_⟩
    rw [hhub']
    simpa [Bus.hub, b, hthread, hqueue, DistributeThread.todo] using hperm

end Event

end UbsEngine
