import UbsEngine.Library.Assoc
import UbsEngine.Library.Run

/-!
# The event bus

Modules subscribe handlers to events and publish events. A published event waits in a queue from
which one thread takes it, reads who has subscribed, and puts a task for each of the handlers into
the queue of its priority. From there the workers of that priority fetch the tasks and call the
handlers.

The threads only meet at the locks. What one of them does under a lock, or between two, is one
action here (`UbsEngine.Event.Action`), and the actions of different threads come in any order
(`UbsEngine.Event.Bus.step`). An action that is not possible changes nothing.
-/

namespace UbsEngine

namespace Event

inductive UbseEventPriority
  | high
  | medium
  | low
deriving DecidableEq, Repr

/-- A handler is a function or another object that can be called. Only functions can be compared. -/
inductive UbseEventHandler
  | function (address : Nat)
  | object (id : Nat)
deriving DecidableEq, Repr

structure EventTask where
  eventId : String
  eventMessage : String := ""
  priority : UbseEventPriority
  registerFunc : UbseEventHandler
  traceId : String := ""
deriving DecidableEq, Repr

/-- An event that has been published. -/
structure Published where
  eventId : String
  eventMessage : String
  traceId : String
deriving DecidableEq, Repr

/-- The task of a handler for an event. -/
def EventTask.forEvent (task : EventTask) (event : Published) : EventTask :=
  { task with
    eventId := event.eventId, eventMessage := event.eventMessage, traceId := event.traceId }

/-! ### The queues of the priorities -/

structure UbseEventQueue where
  queue : List EventTask := []
  capacity : Nat
  isQueueRunning : Bool := true

namespace UbseEventQueue

/-- The caller waits while there is no result. -/
def addEventTask (q : UbseEventQueue) (eventTask : EventTask) : Option UbseEventQueue :=
  if !q.isQueueRunning then some q
  else if q.queue.length < q.capacity then some { q with queue := q.queue ++ [eventTask] }
  else none

/-- The caller waits while there is no result. It gets an empty task when the queue has stopped. -/
def getTask (q : UbseEventQueue) : Option (Option EventTask × UbseEventQueue) :=
  if !q.isQueueRunning then some (none, q)
  else
    match q.queue with
    | [] => none
    | eventTask :: rest => some (some eventTask, { q with queue := rest })

end UbseEventQueue

/-! ### The configuration -/

/-- A number of the configuration, unless it is out of bounds. -/
def configCheck (lowest highest default value : Nat) : Nat :=
  if value < lowest ∨ value > highest then default else value

/-- `UbseEventConfigCheck` for the numbers of workers. -/
def threadMaxItem (configured : UbseEventPriority → Nat) : UbseEventPriority → Nat
  | .high => configCheck 2 16 10 (configured .high)
  | .medium => configCheck 2 16 5 (configured .medium)
  | .low => configCheck 2 16 2 (configured .low)

/-- `DEFAULT_QUEUE_SIZE`, which the pool is made with. -/
def defaultQueueSize : Nat := 1024

/-! ### The pool of workers -/

/-- The pool, with the workers of each priority: how many are at `GetTask`, which tasks have been
fetched, and which handlers are being called. What has been fetched and called is kept. -/
structure UbseEventThreadPool where
  queues : UbseEventPriority → UbseEventQueue := fun _ => { capacity := defaultQueueSize }
  isRunning : Bool := true
  idle : UbseEventPriority → Nat
  holding : UbseEventPriority → List EventTask := fun _ => []
  calling : UbseEventPriority → List EventTask := fun _ => []
  fetched : UbseEventPriority → List EventTask := fun _ => []
  called : UbseEventPriority → List EventTask := fun _ => []

namespace UbseEventThreadPool

variable (pool : UbseEventThreadPool) (priority : UbseEventPriority)

/-- `WorkerLoop` as far as `GetTask`. -/
def fetch : Option UbseEventThreadPool :=
  if pool.idle priority = 0 then none
  else
    (pool.queues priority).getTask.map fun r =>
      match r with
      | (none, q) =>
        -- The worker leaves the loop, if the pool has stopped.
        { pool with
          queues := Function.update pool.queues priority q
          idle := Function.update pool.idle priority
            (if pool.isRunning then pool.idle priority else pool.idle priority - 1) }
      | (some task, q) =>
        { pool with
          queues := Function.update pool.queues priority q
          idle := Function.update pool.idle priority (pool.idle priority - 1)
          holding := Function.update pool.holding priority (pool.holding priority ++ [task])
          fetched := Function.update pool.fetched priority (pool.fetched priority ++ [task]) }

/-- `WorkerLoop` from `GetTask` to the call, for one of the workers that have a task. -/
def call (worker : Nat) : Option UbseEventThreadPool :=
  (pool.holding priority)[worker]?.map fun task =>
    let pool := { pool with
      holding := Function.update pool.holding priority ((pool.holding priority).eraseIdx worker) }
    if pool.isRunning then
      { pool with
        calling := Function.update pool.calling priority (pool.calling priority ++ [task])
        called := Function.update pool.called priority (pool.called priority ++ [task]) }
    else pool

/-- `WorkerLoop` from the end of the call, for one of the workers that have called a handler. -/
def next (worker : Nat) : Option UbseEventThreadPool :=
  if worker < (pool.calling priority).length then
    some
      { pool with
        calling := Function.update pool.calling priority ((pool.calling priority).eraseIdx worker)
        idle := Function.update pool.idle priority
          (if pool.isRunning then pool.idle priority + 1 else pool.idle priority) }
  else none

/-- The first half of `Stop`. -/
def stop : UbseEventThreadPool := { pool with isRunning := false }

/-- `StopQueue`, which the second half consists of. -/
def stopQueue : Option UbseEventThreadPool :=
  if pool.isRunning then none
  else
    some
      { pool with
        queues := Function.update pool.queues priority
          { pool.queues priority with isQueueRunning := false } }

end UbseEventThreadPool

/-! ### The bus -/

/-- Where the thread of `RunDistribute` is. -/
inductive DistributeThread
  | notStarted
  | waiting
  /-- It has taken the first event and given the lock back. -/
  | taken (event : Published)
  /-- It has read the subscriptions, and these tasks are left. -/
  | sending (event : Published) (eventVec : List EventTask)
  | ended
deriving DecidableEq, Repr

structure Bus where
  subscribes : Map String (List EventTask) := ∅
  /-- What is between `IsRegisteredSubscribe` and the lock in `PubEvent`. -/
  publishing : List Published := []
  events : List Published := []
  congestCntMap : Map String Nat := ∅
  threadRunning : Bool := false
  distributeThread : DistributeThread := .notStarted
  pool : UbseEventThreadPool

/-- A bus that is initialized. -/
def Bus.init (configured : UbseEventPriority → Nat) : Bus where
  pool := { idle := threadMaxItem configured }

namespace Bus

variable (b : Bus)

def registerSubscribe (eventId : String) (priority : UbseEventPriority)
    (registerFunc : Option UbseEventHandler) : Bus :=
  match registerFunc with
  | none => b
  | some registerFunc =>
    let task : EventTask := { eventId, priority, registerFunc }
    { b with
      subscribes := b.subscribes.insert eventId
        ((b.subscribes.lookup eventId).getD [] ++ [task]) }

/-- What `UnRegisterSubscribe` leaves: functions that are not the one to remove. -/
def keepsHandler (targetFunc : Nat) (task : EventTask) : Bool :=
  match task.registerFunc with
  | .object _ => false
  | .function storedFunc => storedFunc != targetFunc

def unRegisterSubscribe (eventId : String) (registerFunc : Option UbseEventHandler) : Bus :=
  match registerFunc with
  | some (.function targetFunc) =>
    match b.subscribes.lookup eventId with
    | none => b
    | some handlers =>
      { b with
        subscribes := b.subscribes.insert eventId (handlers.filter (keepsHandler targetFunc)) }
  | _ => b

/-- `PubEvent` as far as the lock. -/
def isRegisteredSubscribe (event : Published) : Bus :=
  if (b.subscribes.lookup event.eventId).isSome then
    { b with publishing := b.publishing ++ [event] }
  else b

def monitorCongestion (eventId : String) : Bus :=
  match b.congestCntMap.lookup eventId with
  | none => { b with congestCntMap := b.congestCntMap.insert eventId 1 }
  | some cnt => { b with congestCntMap := b.congestCntMap.insert eventId ((cnt + 1) % 2 ^ 32) }

/-- `PubEvent` under the lock, for one of the threads that want it. -/
def pubEvent (publisher : Nat) : Option Bus :=
  b.publishing[publisher]?.map fun event =>
    let b := b.monitorCongestion event.eventId
    { b with
      publishing := b.publishing.eraseIdx publisher
      events := b.events ++ [event] }

/-! ### The thread that distributes -/

def start : Option Bus :=
  if b.distributeThread = .notStarted then
    some { b with threadRunning := true, distributeThread := .waiting }
  else none

/-- `EventDistribute` until it gives the lock back, or the thread ends. -/
def take : Option Bus :=
  if b.distributeThread = .waiting then
    if !b.threadRunning then some { b with distributeThread := .ended }
    else b.events.head?.map fun event => { b with distributeThread := .taken event }
  else none

/-- `EventDistribute` under the lock of the subscriptions. -/
def readSubscribes : Option Bus :=
  match b.distributeThread with
  | .taken event =>
    some { b with
      distributeThread := .sending event
        (((b.subscribes.lookup event.eventId).getD []).map (·.forEvent event)) }
  | _ => none

/-- `Distribute` for the next task. -/
def distribute : Option Bus :=
  match b.distributeThread with
  | .sending event (task :: eventVec) =>
    ((b.pool.queues task.priority).addEventTask task).map fun q =>
      { b with
        distributeThread := .sending event eventVec
        pool := { b.pool with queues := Function.update b.pool.queues task.priority q } }
  | _ => none

/-- An event less in the counts. -/
def relieveCongestion (congestCntMap : Map String Nat) (eventId : String) : Map String Nat :=
  match congestCntMap.lookup eventId with
  | none => congestCntMap
  | some cnt =>
    let cnt := (cnt + (2 ^ 32 - 1)) % 2 ^ 32
    if cnt = 0 then congestCntMap.erase eventId else congestCntMap.insert eventId cnt

/-- The end of `EventDistribute`, under the lock again. -/
def popEvent : Option Bus :=
  match b.distributeThread with
  | .sending event [] =>
    some { b with
      congestCntMap := relieveCongestion b.congestCntMap event.eventId
      events := b.events.tail
      distributeThread := .waiting }
  | _ => none

/-- `Stop` as far as the join. A thread that has not been started yet is not started any more. -/
def stop : Bus :=
  { b with
    threadRunning := false
    distributeThread :=
      if b.distributeThread = .notStarted then .ended else b.distributeThread }

/-- `Stop` of the pool, which waits until the thread that distributes has ended. -/
def stopPool : Option Bus :=
  if b.distributeThread = .ended then some { b with pool := b.pool.stop } else none

end Bus

/-! ### Runs -/

inductive Action
  | registerSubscribe (eventId : String) (priority : UbseEventPriority)
      (registerFunc : Option UbseEventHandler)
  | unRegisterSubscribe (eventId : String) (registerFunc : Option UbseEventHandler)
  | isRegisteredSubscribe (event : Published)
  | pubEvent (publisher : Nat)
  | start
  | take
  | readSubscribes
  | distribute
  | popEvent
  | fetch (priority : UbseEventPriority)
  | call (priority : UbseEventPriority) (worker : Nat)
  | next (priority : UbseEventPriority) (worker : Nat)
  | stop
  | stopPool
  | stopQueue (priority : UbseEventPriority)
deriving DecidableEq, Repr

namespace Bus

def act (b : Bus) : Action → Option Bus
  | .registerSubscribe eventId priority registerFunc =>
    some (b.registerSubscribe eventId priority registerFunc)
  | .unRegisterSubscribe eventId registerFunc => some (b.unRegisterSubscribe eventId registerFunc)
  | .isRegisteredSubscribe event => some (b.isRegisteredSubscribe event)
  | .pubEvent publisher => b.pubEvent publisher
  | .start => b.start
  | .take => b.take
  | .readSubscribes => b.readSubscribes
  | .distribute => b.distribute
  | .popEvent => b.popEvent
  | .fetch priority => (b.pool.fetch priority).map fun pool => { b with pool }
  | .call priority worker => (b.pool.call priority worker).map fun pool => { b with pool }
  | .next priority worker => (b.pool.next priority worker).map fun pool => { b with pool }
  | .stop => some b.stop
  | .stopPool => b.stopPool
  | .stopQueue priority => (b.pool.stopQueue priority).map fun pool => { b with pool }

def step (b : Bus) (a : Action) : Bus := (b.act a).getD b

end Bus

end Event

end UbsEngine
