import UbsEngine.Executor.RingBuffer
import Mathlib.Data.BitVec

/-!
# The task executor

A fixed number of threads serve one queue of tasks (`UbsEngine.Executor.UbseTaskExecutor`). The queue
is a ring buffer with a semaphore beside it: who puts an item into the buffer posts the semaphore
afterwards, and a thread that finds the buffer empty waits for the semaphore and looks again. A
thread that finds an item does not touch the semaphore.

`Execute` and `Stop` hold a mutex from their beginning to their end, and `Stop` even waits for the
threads while it holds it. To stop, it puts one order to leave for each thread in front of the tasks.

The state is the one after `Start`, and an action is what one thread does between two points at which
another one may come in between. A task that runs comes to its end or throws, and does not call the
executor meanwhile: one that called `Execute` while `Stop` waits would wait for the mutex for ever.
-/

namespace UbsEngine

namespace Executor

/-- What is in the queue: a task, or the order to leave. -/
inductive UbseRunnable (τ : Type) where
  | normal (task : τ)
  | stop

instance UbseRunnable.instInhabited {τ : Type} : Inhabited (UbseRunnable τ) := ⟨.stop⟩

/-- Who holds the mutex of the executor, and how far it has come. -/
inductive Holder where
  | nobody
  /-- `Execute` is to post the semaphore. -/
  | posting
  /-- `Execute` is to count its task. -/
  | counting
  /-- `Stop` has so many orders yet to put into the queue. -/
  | stopping (left : Nat)
  /-- `Stop` is to post the semaphore first. -/
  | stopPosting (left : Nat)
  deriving DecidableEq

/-- A thread is looking into the queue, sleeping at the semaphore, running a task, or has left. The
last four fields are the tasks that were accepted, begun, finished and broken off so far. -/
structure UbseTaskExecutor (τ : Type) (mCapacity : Nat) where
  mRunnableQueue : RingBuffer (UbseRunnable τ) mCapacity
  mSem : Nat
  pending : BitVec 64
  mStopped : Bool
  holder : Holder
  looking : Nat
  sleeping : Nat
  running : List τ
  exited : Nat
  accepted : List τ
  started : List τ
  finished : List τ
  thrown : List τ

namespace UbseTaskExecutor

variable {τ : Type} {mCapacity : Nat}

/-- The executor when `Start` has come to its end. -/
def afterStart (mThreadNum : Nat) (h : 0 < mCapacity) : UbseTaskExecutor τ mCapacity where
  mRunnableQueue := .create h
  mSem := 0
  pending := 0
  mStopped := false
  holder := .nobody
  looking := mThreadNum
  sleeping := 0
  running := []
  exited := 0
  accepted := []
  started := []
  finished := []
  thrown := []

variable (e : UbseTaskExecutor τ mCapacity)

/-! ### The callers -/

/-- `Execute` up to the queue, if the mutex is free. A stopped executor and a full queue refuse the
task. -/
def execute (task : τ) : Option (UbseTaskExecutor τ mCapacity) :=
  if e.holder ≠ .nobody ∨ e.mStopped = true then none
  else
    (e.mRunnableQueue.pushBack (.normal task)).map fun queue =>
      { e with mRunnableQueue := queue, holder := .posting, accepted := e.accepted ++ [task] }

/-- `sem_post`, in `Enqueue` and in `EnqueueFirst`. -/
def post : Option (UbseTaskExecutor τ mCapacity) :=
  match e.holder with
  | .posting => some { e with mSem := e.mSem + 1, holder := .counting }
  | .stopPosting left => some { e with mSem := e.mSem + 1, holder := .stopping left }
  | _ => none

/-- The end of `Execute`. -/
def count : Option (UbseTaskExecutor τ mCapacity) :=
  if e.holder = .counting then some { e with pending := e.pending + 1, holder := .nobody } else none

/-- `Stop`, if the mutex is free. -/
def stop (mThreadNum : Nat) : Option (UbseTaskExecutor τ mCapacity) :=
  if e.holder ≠ .nobody ∨ e.mStopped = true then none
  else some { e with holder := .stopping mThreadNum }

/-- One order is put into the queue. While the queue is full, `Stop` tries again later. -/
def enqueueFirst : Option (UbseTaskExecutor τ mCapacity) :=
  match e.holder with
  | .stopping (left + 1) =>
    (e.mRunnableQueue.pushFront .stop).map fun queue =>
      { e with mRunnableQueue := queue, holder := .stopPosting left }
  | _ => none

/-- All threads have left. -/
def join : Option (UbseTaskExecutor τ mCapacity) :=
  if e.holder = .stopping 0 ∧ e.looking = 0 ∧ e.sleeping = 0 ∧ e.running = [] then
    some { e with holder := .nobody, mStopped := true }
  else none

/-! ### The threads -/

/-- A thread looks into the queue. -/
def dequeue : Option (UbseTaskExecutor τ mCapacity) :=
  if e.looking = 0 then none
  else
    match e.mRunnableQueue.popFront with
    | none => some { e with looking := e.looking - 1, sleeping := e.sleeping + 1 }
    | some (.normal task, queue) =>
      some { e with
        mRunnableQueue := queue
        looking := e.looking - 1
        running := task :: e.running
        started := e.started ++ [task] }
    | some (.stop, queue) =>
      some { e with mRunnableQueue := queue, looking := e.looking - 1, exited := e.exited + 1 }

/-- `sem_wait`. -/
def semWait : Option (UbseTaskExecutor τ mCapacity) :=
  if e.mSem = 0 ∨ e.sleeping = 0 then none
  else some { e with mSem := e.mSem - 1, sleeping := e.sleeping - 1, looking := e.looking + 1 }

variable [DecidableEq τ]

/-- A task has run. -/
def finish (task : τ) : Option (UbseTaskExecutor τ mCapacity) :=
  if task ∈ e.running then
    some { e with
      running := e.running.erase task
      looking := e.looking + 1
      pending := e.pending - 1
      finished := e.finished ++ [task] }
  else none

/-- A task has thrown. It is caught, and stays counted. -/
def throw (task : τ) : Option (UbseTaskExecutor τ mCapacity) :=
  if task ∈ e.running then
    some { e with
      running := e.running.erase task
      looking := e.looking + 1
      thrown := e.thrown ++ [task] }
  else none

end UbseTaskExecutor

/-! ### The actions -/

inductive Action (τ : Type) where
  | execute (task : τ)
  | post
  | count
  | stop
  | enqueueFirst
  | join
  | dequeue
  | semWait
  | finish (task : τ)
  | throw (task : τ)

namespace UbseTaskExecutor

variable {τ : Type} {mCapacity : Nat} [DecidableEq τ]

/-- What an action does, unless whoever does it must wait or is turned away. -/
def act (mThreadNum : Nat) (e : UbseTaskExecutor τ mCapacity) :
    Action τ → Option (UbseTaskExecutor τ mCapacity)
  | .execute task => e.execute task
  | .post => e.post
  | .count => e.count
  | .stop => e.stop mThreadNum
  | .enqueueFirst => e.enqueueFirst
  | .join => e.join
  | .dequeue => e.dequeue
  | .semWait => e.semWait
  | .finish task => e.finish task
  | .throw task => e.throw task

def step (mThreadNum : Nat) (e : UbseTaskExecutor τ mCapacity) (a : Action τ) :
    UbseTaskExecutor τ mCapacity := (e.act mThreadNum a).getD e

end UbseTaskExecutor

end Executor

end UbsEngine
