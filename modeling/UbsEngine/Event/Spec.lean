import UbsEngine.Event.Bus

/-!
# What the event bus is for

To its users the bus is a hub (`UbsEngine.Event.Hub`): subscribing, publishing and delivering an
event are single operations, events are delivered one by one in the order in which they have been
published, and the delivery of an event puts one task for every subscriber of that moment at the end
of what the workers of its priority have to do.

Whatever the order of the actions of the threads, the bus is such a hub
(`UbsEngine.Event.Bus.run_simulates`): the part of a run that its users see, taken in its order,
gives the same subscriptions, the same events to deliver, and the same tasks, of which each priority
has fetched a first part.
-/

namespace UbsEngine

namespace Event

/-! ### The hub -/

@[ext]
structure Hub where
  subscribers : String → List EventTask := fun _ => []
  /-- Whether anyone has ever subscribed. -/
  known : String → Prop := fun _ => False
  waiting : List Published := []
  delivered : UbseEventPriority → List EventTask := fun _ => []

inductive Hub.Op
  | subscribe (task : EventTask)
  | unsubscribe (eventId : String) (targetFunc : Nat)
  | publish (event : Published)
  | deliver

namespace Hub

/-- The tasks of an event for the subscribers of one priority. -/
def tasksFor (hub : Hub) (event : Published) (priority : UbseEventPriority) : List EventTask :=
  ((hub.subscribers event.eventId).map (·.forEvent event)).filter (·.priority = priority)

open Classical in
noncomputable def apply (hub : Hub) : Op → Hub
  | .subscribe task =>
    { hub with
      subscribers := Function.update hub.subscribers task.eventId
        (hub.subscribers task.eventId ++ [task])
      known := fun eventId => eventId = task.eventId ∨ hub.known eventId }
  | .unsubscribe eventId targetFunc =>
    { hub with
      subscribers := Function.update hub.subscribers eventId
        ((hub.subscribers eventId).filter (Bus.keepsHandler targetFunc)) }
  | .publish event =>
    if hub.known event.eventId then { hub with waiting := hub.waiting ++ [event] } else hub
  | .deliver =>
    match hub.waiting with
    | [] => hub
    | event :: waiting =>
      { hub with
        waiting
        delivered := fun priority => hub.delivered priority ++ hub.tasksFor event priority }

end Hub

/-! ### The bus as a hub -/

/-- The tasks that are not in a queue yet. -/
def DistributeThread.todo : DistributeThread → List EventTask
  | .sending _ eventVec => eventVec
  | _ => []

/-- Whether the first event of the queue has been read already. -/
def DistributeThread.hasRead : DistributeThread → Bool
  | .sending _ _ => true
  | _ => false

/-- The event that the thread is busy with. -/
def DistributeThread.event? : DistributeThread → Option Published
  | .taken event => some event
  | .sending event _ => some event
  | _ => none

def Bus.hub (b : Bus) : Hub where
  subscribers := fun eventId => (b.subscribes.lookup eventId).getD []
  known := fun eventId => (b.subscribes.lookup eventId).isSome
  waiting := if b.distributeThread.hasRead then b.events.tail else b.events
  delivered := fun priority =>
    b.pool.fetched priority ++ (b.pool.queues priority).queue ++
      b.distributeThread.todo.filter (·.priority = priority)

/-- What the users of the bus see of an action. -/
def Action.visible (b : Bus) : Action → Option Hub.Op
  | .registerSubscribe eventId priority registerFunc =>
    registerFunc.map fun registerFunc => .subscribe { eventId, priority, registerFunc }
  | .unRegisterSubscribe eventId (some (.function targetFunc)) =>
    some (.unsubscribe eventId targetFunc)
  | .pubEvent publisher => b.publishing[publisher]?.map .publish
  | .readSubscribes =>
    match b.distributeThread with
    | .taken _ => some .deliver
    | _ => none
  | _ => none

/-- What the bus keeps. -/
structure Bus.Inv (b : Bus) : Prop where
  publishing : ∀ event ∈ b.publishing, (b.subscribes.lookup event.eventId).isSome
  /-- The event that the thread is busy with stays in front. -/
  event : ∀ event ∈ b.distributeThread.event?, b.events.head? = some event
  /-- The queues run at least until the thread has ended. -/
  isRunning : b.distributeThread ≠ .ended → b.pool.isRunning = true
  isQueueRunning : b.pool.isRunning = true → ∀ p, (b.pool.queues p).isQueueRunning = true
  threadRunning : b.threadRunning = true →
    b.distributeThread ≠ .notStarted ∧ b.distributeThread ≠ .ended

namespace Bus

/-- An action leads to a state that the hub allows. -/
structure Simulates (b b' : Bus) (op : Option Hub.Op) : Prop where
  inv : b'.Inv
  hub : b'.hub = op.elim b.hub b.hub.apply

variable {b b' : Bus}

theorem Simulates.rfl (h : b.Inv) : Simulates b b none := ⟨h, .refl _⟩

/-! ### The actions of the users -/

theorem registerSubscribe_simulates (h : b.Inv) (eventId : String) (priority : UbseEventPriority)
    (registerFunc : Option UbseEventHandler) :
    Simulates b (b.registerSubscribe eventId priority registerFunc)
      (registerFunc.map fun registerFunc => .subscribe { eventId, priority, registerFunc }) := by
  rcases registerFunc with _ | registerFunc
  · exact .rfl h
  refine ⟨⟨fun event hevent => ?_, h.event, h.isRunning, h.isQueueRunning,
    h.threadRunning⟩, ?_⟩
  · have hknown := h.publishing event hevent
    simp only [registerSubscribe, Map.lookup_insert_ite]
    split_ifs
    · rfl
    · exact hknown
  · refine Hub.ext (funext fun id => ?_) (funext fun id => propext ?_) rfl rfl
    · simp only [Bus.hub, registerSubscribe, Option.map_some, Option.elim_some, Hub.apply]
      rw [Map.lookup_insert_ite, Function.update_apply]
      split_ifs <;> rfl
    · simp only [Bus.hub, registerSubscribe, Option.map_some, Option.elim_some, Hub.apply]
      rw [Map.lookup_insert_ite]
      split_ifs with hid <;> simp [hid]

/-- Removing handlers forgets nothing that is known. -/
theorem unRegisterSubscribe_simulates (h : b.Inv) (eventId : String)
    (registerFunc : Option UbseEventHandler) :
    Simulates b (b.unRegisterSubscribe eventId registerFunc)
      ((Action.unRegisterSubscribe eventId registerFunc).visible b) := by
  rcases registerFunc with _ | ⟨targetFunc | _⟩
  · exact .rfl h
  · simp only [unRegisterSubscribe, Action.visible]
    rcases hlookup : b.subscribes.lookup eventId with _ | handlers
    · refine ⟨h, Hub.ext (funext fun id => ?_) rfl rfl rfl⟩
      simp only [Bus.hub, Option.elim_some, Hub.apply]
      rw [hlookup, Option.getD_none, List.filter_nil, Function.update_apply]
      split_ifs with hid
      · rw [hid, hlookup]
        rfl
      · rfl
    · refine ⟨⟨fun event hevent => ?_, h.event, h.isRunning, h.isQueueRunning,
    h.threadRunning⟩, ?_⟩
      · have hknown := h.publishing event hevent
        simp only [Map.lookup_insert_ite]
        split_ifs
        · rfl
        · exact hknown
      · refine Hub.ext (funext fun id => ?_) (funext fun id => propext ?_) rfl rfl
        · simp only [Bus.hub, Option.elim_some, Hub.apply]
          rw [Map.lookup_insert_ite, Function.update_apply, hlookup]
          split_ifs <;> rfl
        · simp only [Bus.hub, Option.elim_some, Hub.apply]
          rw [Map.lookup_insert_ite]
          split_ifs with hid
          · rw [hid, hlookup]
            simp
          · rfl
  · exact .rfl h

theorem isRegisteredSubscribe_simulates (h : b.Inv) (event : Published) :
    Simulates b (b.isRegisteredSubscribe event) none := by
  unfold isRegisteredSubscribe
  split_ifs with hknown
  · refine ⟨⟨fun event' hevent' => ?_, h.event, h.isRunning, h.isQueueRunning,
    h.threadRunning⟩, rfl⟩
    rcases List.mem_append.1 hevent' with hevent' | hevent'
    · exact h.publishing event' hevent'
    · rw [List.mem_singleton.1 hevent']
      exact hknown
  · exact .rfl h

theorem monitorCongestion_eq (b : Bus) (eventId : String) : b.monitorCongestion eventId =
    { b with congestCntMap := (b.monitorCongestion eventId).congestCntMap } := by
  unfold monitorCongestion
  split <;> rfl

/-- Whoever wants to publish has seen that the event is known, and it stays known. -/
theorem pubEvent_simulates (h : b.Inv) {publisher : Nat} (hact : b.pubEvent publisher = some b') :
    Simulates b b' (b.publishing[publisher]?.map .publish) := by
  obtain ⟨event, hevent, rfl⟩ := Option.map_eq_some_iff.1 hact
  have hknown : b.hub.known event.eventId := h.publishing event (List.mem_of_getElem? hevent)
  have hhead : ∀ first, b.events.head? = some first →
      (b.events ++ [event]).head? = some first := by
    intro first hfirst
    rw [List.head?_append, hfirst]
    rfl
  rw [hevent, monitorCongestion_eq]
  refine ⟨⟨fun event' hevent' => h.publishing event' (List.mem_of_mem_eraseIdx hevent'),
    fun first hfirst => hhead first (h.event first hfirst), h.isRunning,
    h.isQueueRunning, h.threadRunning⟩, ?_⟩
  simp only [Option.map_some, Option.elim_some, Hub.apply]
  rw [if_pos hknown]
  refine Hub.ext rfl rfl ?_ rfl
  simp only [Bus.hub]
  split_ifs with hread
  · -- The event that has been read is still the first one.
    rcases hthread : b.distributeThread with _ | _ | first | ⟨first, todo⟩ | _
    case sending =>
      obtain ⟨rest, hrest⟩ := List.head?_eq_some_iff.1 (h.event first (by rw [hthread]; rfl))
      rw [hrest]
      rfl
    all_goals
      rw [hthread] at hread
      cases hread
  · rfl

/-! ### The thread that distributes -/

theorem start_simulates (h : b.Inv) (hact : b.start = some b') : Simulates b b' none := by
  rw [start, Option.ite_none_right_eq_some, Option.some.injEq] at hact
  obtain ⟨hthread, rfl⟩ := hact
  have hrunning := h.isRunning (by simp [hthread])
  refine ⟨⟨h.publishing, ?_, fun _ => hrunning, h.isQueueRunning, fun _ => by simp⟩, ?_⟩
  · rintro event hevent
    cases hevent
  · simp [Bus.hub, hthread, DistributeThread.hasRead, DistributeThread.todo]

theorem take_simulates (h : b.Inv) (hact : b.take = some b') : Simulates b b' none := by
  rw [take, Option.ite_none_right_eq_some] at hact
  obtain ⟨hthread, hact⟩ := hact
  have hrunning := h.isRunning (by simp [hthread])
  split_ifs at hact with hstopped
  · cases hact
    refine ⟨⟨h.publishing, ?_, fun _ => hrunning, h.isQueueRunning, fun hnot => ?_⟩, ?_⟩
    · rintro event hevent
      cases hevent
    · exact absurd hnot (by simpa using hstopped)
    · simp [Bus.hub, hthread, DistributeThread.hasRead, DistributeThread.todo]
  · obtain ⟨event, hevent, rfl⟩ := Option.map_eq_some_iff.1 hact
    refine ⟨⟨h.publishing, ?_, fun _ => hrunning, h.isQueueRunning, fun _ => by simp⟩, ?_⟩
    · rintro event' hevent'
      cases hevent'
      exact hevent
    · simp [Bus.hub, hthread, DistributeThread.hasRead, DistributeThread.todo]

/-- **The delivery**: the tasks are as good as in the queues. -/
theorem readSubscribes_simulates (h : b.Inv) (hact : b.readSubscribes = some b') :
    Simulates b b' (Action.readSubscribes.visible b) := by
  unfold readSubscribes at hact
  split at hact
  next event hthread =>
    cases hact
    have hrunning := h.isRunning (by simp [hthread])
    have hhead := h.event event (by rw [hthread]; rfl)
    refine ⟨⟨h.publishing, ?_, fun _ => hrunning, h.isQueueRunning, fun _ => by simp⟩, ?_⟩
    · rintro event' hevent'
      cases hevent'
      exact hhead
    · obtain ⟨rest, hrest⟩ := List.head?_eq_some_iff.1 hhead
      simp only [Action.visible, hthread, Option.elim_some, Hub.apply]
      simp [Bus.hub, Hub.tasksFor, hthread, hrest, DistributeThread.hasRead, DistributeThread.todo]
  next => cases hact

/-- The queue of the task is running, and so nothing is lost. -/
theorem distribute_simulates (h : b.Inv) (hact : b.distribute = some b') :
    Simulates b b' none := by
  unfold distribute at hact
  split at hact
  next event task todo hthread =>
    obtain ⟨q, hq, rfl⟩ := Option.map_eq_some_iff.1 hact
    have hrunning := h.isRunning (by simp [hthread])
    have hqueue := h.isQueueRunning hrunning task.priority
    rw [UbseEventQueue.addEventTask, if_neg (by simp [hqueue]), Option.ite_none_right_eq_some,
      Option.some.injEq] at hq
    obtain ⟨-, rfl⟩ := hq
    refine ⟨⟨h.publishing, ?_, fun _ => hrunning, fun _ p => ?_, fun _ => by simp⟩, ?_⟩
    · rintro event' hevent'
      cases hevent'
      exact h.event event (by rw [hthread]; rfl)
    · simp only [Function.update_apply]
      split_ifs
      · exact hqueue
      · exact h.isQueueRunning hrunning p
    · refine Hub.ext rfl rfl ?_ (funext fun p => ?_)
      · simp [Bus.hub, hthread, DistributeThread.hasRead]
      · simp only [Bus.hub, hthread, DistributeThread.todo, Option.elim_none, Function.update_apply]
        by_cases hp : p = task.priority
        · simp [hp]
        · simp [hp, Ne.symm hp]
  next => cases hact

theorem popEvent_simulates (h : b.Inv) (hact : b.popEvent = some b') : Simulates b b' none := by
  unfold popEvent at hact
  split at hact
  next event hthread =>
    cases hact
    have hrunning := h.isRunning (by simp [hthread])
    refine ⟨⟨h.publishing, ?_, fun _ => hrunning, h.isQueueRunning, fun _ => by simp⟩, ?_⟩
    · rintro event' hevent'
      cases hevent'
    · simp [Bus.hub, hthread, DistributeThread.hasRead, DistributeThread.todo]
  next => cases hact

/-! ### The workers -/

end Bus

/-- What the workers do concerns nobody else: a task that has left a queue has been fetched. -/
structure UbseEventThreadPool.Moved (pool pool' : UbseEventThreadPool) : Prop where
  flow : ∀ p, pool'.fetched p ++ (pool'.queues p).queue =
    pool.fetched p ++ (pool.queues p).queue
  isRunning : pool'.isRunning = pool.isRunning
  isQueueRunning : pool.isRunning = true → ∀ p, (pool.queues p).isQueueRunning = true →
    (pool'.queues p).isQueueRunning = true

namespace UbseEventThreadPool

variable {pool pool' : UbseEventThreadPool}

theorem fetch_moved {priority : UbseEventPriority} (h : pool.fetch priority = some pool') :
    Moved pool pool' := by
  rw [fetch, Option.ite_none_left_eq_some] at h
  obtain ⟨-, h⟩ := h
  obtain ⟨⟨task, q⟩, hget, rfl⟩ := Option.map_eq_some_iff.1 h
  unfold UbseEventQueue.getTask at hget
  split_ifs at hget with hstopped
  · cases hget
    refine ⟨fun p => ?_, rfl, fun _ p hp => ?_⟩ <;> simp only [Function.update_eq_self]
    exact hp
  · split at hget
    next => cases hget
    next task rest hqueue =>
      cases hget
      refine ⟨fun p => ?_, rfl, fun _ p hp => ?_⟩
      · by_cases hp : p = priority
        · simp [hp, hqueue]
        · simp [hp]
      · by_cases hp' : p = priority
        · simpa [hp'] using hstopped
        · simpa [hp'] using hp

theorem call_moved {priority : UbseEventPriority} {worker : Nat}
    (h : pool.call priority worker = some pool') : Moved pool pool' := by
  obtain ⟨task, -, rfl⟩ := Option.map_eq_some_iff.1 h
  dsimp only
  split_ifs
  · exact ⟨fun _ => rfl, rfl, fun _ _ hp => hp⟩
  · exact ⟨fun _ => rfl, rfl, fun _ _ hp => hp⟩

theorem next_moved {priority : UbseEventPriority} {worker : Nat}
    (h : pool.next priority worker = some pool') : Moved pool pool' := by
  rw [next, Option.ite_none_right_eq_some, Option.some.injEq] at h
  obtain ⟨-, rfl⟩ := h
  exact ⟨fun _ => rfl, rfl, fun _ _ hp => hp⟩

theorem stopQueue_moved {priority : UbseEventPriority} (h : pool.stopQueue priority = some pool') :
    Moved pool pool' := by
  rw [stopQueue, Option.ite_none_left_eq_some, Option.some.injEq] at h
  obtain ⟨hstopped, rfl⟩ := h
  refine ⟨fun p => ?_, rfl, fun hrunning => absurd hrunning hstopped⟩
  by_cases hp : p = priority <;> simp [hp]

end UbseEventThreadPool

namespace Bus

variable {b b' : Bus}

theorem moved_simulates (h : b.Inv) {pool : UbseEventThreadPool} (hmoved : b.pool.Moved pool) :
    Simulates b { b with pool } none := by
  refine ⟨⟨h.publishing, h.event, fun hthread => ?_, fun hrunning p => ?_,
    h.threadRunning⟩, ?_⟩
  · rw [hmoved.isRunning]
    exact h.isRunning hthread
  · rw [hmoved.isRunning] at hrunning
    exact hmoved.isQueueRunning hrunning p (h.isQueueRunning hrunning p)
  · refine Hub.ext rfl rfl rfl (funext fun p => ?_)
    exact congrArg (· ++ b.distributeThread.todo.filter (·.priority = p)) (hmoved.flow p)

/-! ### The end -/

theorem stop_simulates (h : b.Inv) : Simulates b b.stop none := by
  by_cases hthread : b.distributeThread = .notStarted
  · have hstop : b.stop = { b with threadRunning := false, distributeThread := .ended } := by
      rw [stop, if_pos hthread]
    rw [hstop]
    refine ⟨⟨h.publishing, ?_, fun hne => absurd rfl hne, h.isQueueRunning, ?_⟩, ?_⟩
    · rintro event hevent
      cases hevent
    · rintro hnot
      cases hnot
    · simp [Bus.hub, hthread, DistributeThread.hasRead, DistributeThread.todo]
  · have hstop : b.stop = { b with threadRunning := false } := by
      rw [stop, if_neg hthread]
    rw [hstop]
    refine ⟨⟨h.publishing, h.event, h.isRunning, h.isQueueRunning, ?_⟩, rfl⟩
    rintro hnot
    cases hnot

theorem stopPool_simulates (h : b.Inv) (hact : b.stopPool = some b') : Simulates b b' none := by
  rw [stopPool, Option.ite_none_right_eq_some, Option.some.injEq] at hact
  obtain ⟨hthread, rfl⟩ := hact
  refine ⟨⟨h.publishing, h.event, fun hne => absurd hthread hne, ?_, h.threadRunning⟩, rfl⟩
  rintro hrunning
  cases hrunning

/-! ### Any action -/

/-- **One action** of any thread. -/
theorem act_simulates (h : b.Inv) {a : Action} (hact : b.act a = some b') :
    Simulates b b' (a.visible b) := by
  have hpool : ∀ f : Option UbseEventThreadPool, (f.map fun pool => { b with pool }) = some b' →
      (∀ pool, f = some pool → b.pool.Moved pool) → Simulates b b' none := by
    rintro f hf hmoved
    obtain ⟨pool, hpool, rfl⟩ := Option.map_eq_some_iff.1 hf
    exact moved_simulates h (hmoved pool hpool)
  cases a with
  | registerSubscribe =>
    cases hact
    exact registerSubscribe_simulates h ..
  | unRegisterSubscribe =>
    cases hact
    exact unRegisterSubscribe_simulates h ..
  | isRegisteredSubscribe =>
    cases hact
    exact isRegisteredSubscribe_simulates h _
  | pubEvent => exact pubEvent_simulates h hact
  | start => exact start_simulates h hact
  | take => exact take_simulates h hact
  | readSubscribes => exact readSubscribes_simulates h hact
  | distribute => exact distribute_simulates h hact
  | popEvent => exact popEvent_simulates h hact
  | fetch => exact hpool _ hact fun _ => UbseEventThreadPool.fetch_moved
  | call => exact hpool _ hact fun _ => UbseEventThreadPool.call_moved
  | next => exact hpool _ hact fun _ => UbseEventThreadPool.next_moved
  | stop =>
    cases hact
    exact stop_simulates h
  | stopPool => exact stopPool_simulates h hact
  | stopQueue => exact hpool _ hact fun _ => UbseEventThreadPool.stopQueue_moved

/-- Nobody sees an action that is not possible. -/
theorem visible_of_act {a : Action} (hact : b.act a = none) : a.visible b = none := by
  cases a with
  | registerSubscribe => cases hact
  | unRegisterSubscribe => cases hact
  | pubEvent publisher =>
    rw [Action.visible, Option.map_eq_none_iff]
    exact Option.map_eq_none_iff.1 hact
  | readSubscribes =>
    rcases hthread : b.distributeThread with _ | _ | event | ⟨event, todo⟩ | _
    case taken => simp [act, readSubscribes, hthread] at hact
    all_goals simp [Action.visible, hthread]
  | _ => rfl

theorem step_simulates (h : b.Inv) (a : Action) : Simulates b (b.step a) (a.visible b) := by
  unfold step
  rcases hact : b.act a with _ | b'
  · rw [visible_of_act hact]
    exact .rfl h
  · exact act_simulates h hact

theorem init_inv (configured : UbseEventPriority → Nat) : (init configured).Inv where
  publishing := fun _ hevent => absurd hevent List.not_mem_nil
  event := by
    rintro event hevent
    cases hevent
  isRunning := fun _ => rfl
  isQueueRunning := fun _ _ => rfl
  threadRunning := by
    rintro hrunning
    cases hrunning

theorem init_hub (configured : UbseEventPriority → Nat) : (init configured).hub = {} := by
  simp [Bus.hub, init, DistributeThread.hasRead, DistributeThread.todo]

/-- What the users see of a run. -/
def visible (b : Bus) (actions : List Action) : List Hub.Op :=
  (System.trace step b actions).filterMap fun x => x.event.visible x.pre

theorem run_simulates (h : b.Inv) (actions : List Action) :
    (actions.foldl step b).Inv ∧
      (actions.foldl step b).hub = (b.visible actions).foldl Hub.apply b.hub := by
  induction actions generalizing b with
  | nil => exact ⟨h, rfl⟩
  | cons a actions ih =>
    obtain ⟨hinv, hhub⟩ := step_simulates h a
    obtain ⟨hinv', hhub'⟩ := ih hinv
    refine ⟨hinv', hhub'.trans ?_⟩
    rw [hhub]
    change _ = List.foldl Hub.apply b.hub (List.filterMap _ (_ :: _))
    rw [List.filterMap_cons]
    rcases a.visible b with _ | op <;> rfl

end Bus

end Event

end UbsEngine
