import Mathlib.Data.BitVec
import Mathlib.Logic.Function.Basic

/-!
# The log buffer

Any thread may log. It takes the next index of a buffer by one atomic addition, and writes its entry
there (`UbsEngine.Log.RingBuffer`); an index beyond the buffer means that the entry is dropped, and is
given back by an atomic subtraction. Only one thread takes the entries out. It has a buffer of its
own, and when that is empty it exchanges it for the one that the others write to
(`UbsEngine.Log.LogBuffer`).

The threads that log share a lock, and whoever exchanges the buffers, or stops the log, has the lock
alone. So an exchange is one action, which must wait for the threads that are in the middle of a
`Push`; the addition and what follows it are two.
-/

namespace UbsEngine

namespace Log

/-- The indices have 32 bits. -/
structure RingBuffer (α : Type) where
  buffer_ : Nat → α
  left_ : BitVec 32
  right_ : BitVec 32

namespace RingBuffer

variable {α : Type}

def create [Inhabited α] : RingBuffer α := ⟨fun _ => default, 0, 0⟩

def isEmpty (r : RingBuffer α) : Bool := r.left_ == r.right_

/-- What lies between the indices. -/
def entries (r : RingBuffer α) : List α :=
  (List.range (r.right_.toNat - r.left_.toNat)).map fun i => r.buffer_ (r.left_.toNat + i)

end RingBuffer

/-- Where the thread is that writes the log. It runs in a loop until it is told to end, and then in a
second one until the buffers are empty. -/
inductive LoggingThread where
  /-- At the head of the first loop. -/
  | deciding
  /-- At the beginning of `Pop`. -/
  | looking (draining : Bool)
  /-- Before the exchange of the buffers. -/
  | swapping (draining : Bool)
  /-- There is an entry to take. -/
  | popping (draining : Bool)
  | ended
  deriving DecidableEq

/-- At the head of a loop. -/
def LoggingThread.head : Bool → LoggingThread
  | false => .deciding
  | true => .looking true

/-- The threads that are in the middle of a `Push` have an index to write to, or one to give back. The
last three fields are the entries that were given an index, written to the log, and dropped so far. -/
structure LogBuffer (α : Type) where
  readBuffer_ : RingBuffer α
  writeBuffer_ : RingBuffer α
  stop_ : Bool
  threadRunning_ : Bool
  thread : LoggingThread
  writing : List (Nat × α)
  refused : Nat
  accepted : List α
  written : List α
  dropped : List α

namespace LogBuffer

variable {α : Type}

/-- The buffers when the thread begins. -/
def create [Inhabited α] : LogBuffer α where
  readBuffer_ := .create
  writeBuffer_ := .create
  stop_ := false
  threadRunning_ := true
  thread := .deciding
  writing := []
  refused := 0
  accepted := []
  written := []
  dropped := []

variable (b : LogBuffer α)

/-! ### The threads that log -/

/-- `Push` up to the addition, by one of so many threads. -/
def claim (size_ threads : Nat) (entry : α) : Option (LogBuffer α) :=
  if threads ≤ b.writing.length + b.refused then none
  else if b.stop_ = true then some { b with dropped := b.dropped ++ [entry] }
  else
    let writeIndex := b.writeBuffer_.right_
    let writeBuffer_ := { b.writeBuffer_ with right_ := writeIndex + 1 }
    if writeIndex.toNat < size_ then
      some { b with
        writeBuffer_ := writeBuffer_
        writing := (writeIndex.toNat, entry) :: b.writing
        accepted := b.accepted ++ [entry] }
    else
      some { b with
        writeBuffer_ := writeBuffer_
        refused := b.refused + 1
        dropped := b.dropped ++ [entry] }

/-- The entry is moved to its place. -/
def write (writeIndex : Nat) : Option (LogBuffer α) :=
  (b.writing.find? fun w => w.1 == writeIndex).map fun w =>
    { b with
      writeBuffer_ :=
        { b.writeBuffer_ with buffer_ := Function.update b.writeBuffer_.buffer_ w.1 w.2 }
      writing := b.writing.filter fun w => w.1 != writeIndex }

/-- An index beyond the buffer is given back. -/
def giveBack : Option (LogBuffer α) :=
  if b.refused = 0 then none
  else
    some { b with
      writeBuffer_ := { b.writeBuffer_ with right_ := b.writeBuffer_.right_ - 1 }
      refused := b.refused - 1 }

/-! ### The thread that writes the log -/

/-- The condition of the first loop. -/
def checkRunning : Option (LogBuffer α) :=
  if b.thread = .deciding then
    some { b with thread := if b.threadRunning_ = true then .looking false else .looking true }
  else none

/-- `Pop` up to the exchange. The first loop goes on when nothing is there, the second one ends. -/
def look : Option (LogBuffer α) :=
  match b.thread with
  | .looking draining =>
    some { b with
      thread :=
        if b.readBuffer_.isEmpty = false then .popping draining
        else if b.writeBuffer_.isEmpty = false then .swapping draining
        else if draining = true then .ended
        else .deciding }
  | _ => none

/-- `Swap`. -/
def swap : Option (LogBuffer α) :=
  match b.thread with
  | .swapping draining =>
    if b.writing = [] ∧ b.refused = 0 then
      some { b with
        readBuffer_ := ⟨b.writeBuffer_.buffer_, 0, b.writeBuffer_.right_⟩
        writeBuffer_ := ⟨b.readBuffer_.buffer_, 0, 0⟩
        thread := .popping draining }
    else none
  | _ => none

/-- An entry is taken out and written to the log. -/
def pop : Option (LogBuffer α) :=
  match b.thread with
  | .popping draining =>
    some { b with
      readBuffer_ := { b.readBuffer_ with left_ := b.readBuffer_.left_ + 1 }
      written := b.written ++ [b.readBuffer_.buffer_ b.readBuffer_.left_.toNat]
      thread := .head draining }
  | _ => none

/-! ### The end -/

/-- `Exit`, which has the lock alone. -/
def stop : Option (LogBuffer α) :=
  if b.writing = [] ∧ b.refused = 0 then some { b with stop_ := true } else none

/-- The thread is told to end. -/
def tellThread : Option (LogBuffer α) :=
  if b.stop_ = true then some { b with threadRunning_ := false } else none

end LogBuffer

/-! ### The actions -/

inductive Action (α : Type) where
  | claim (entry : α)
  | write (writeIndex : Nat)
  | giveBack
  | checkRunning
  | look
  | swap
  | pop
  | stop
  | tellThread

namespace LogBuffer

variable {α : Type}

/-- What an action does, unless whoever does it must wait. -/
def act (size_ threads : Nat) (b : LogBuffer α) : Action α → Option (LogBuffer α)
  | .claim entry => b.claim size_ threads entry
  | .write writeIndex => b.write writeIndex
  | .giveBack => b.giveBack
  | .checkRunning => b.checkRunning
  | .look => b.look
  | .swap => b.swap
  | .pop => b.pop
  | .stop => b.stop
  | .tellThread => b.tellThread

def step (size_ threads : Nat) (b : LogBuffer α) (a : Action α) : LogBuffer α :=
  (b.act size_ threads a).getD b

/-! ### Before the thread begins -/

/-- `Push` while nobody else logs. -/
def push (size_ : Nat) (b : LogBuffer α) (entry : α) : LogBuffer α :=
  [.claim entry, .write b.writeBuffer_.right_.toNat, .giveBack].foldl (step size_ 1) b

/-- The old buffers are exchanged, and what is then to be read is moved to new ones. -/
def resizeBuffer [Inhabited α] (newCapacity : Nat) (oldBuffer : LogBuffer α) : LogBuffer α :=
  let readBuffer_ : RingBuffer α :=
    ⟨oldBuffer.writeBuffer_.buffer_, 0, oldBuffer.writeBuffer_.right_⟩
  readBuffer_.entries.foldl (push newCapacity) .create

end LogBuffer

end Log

end UbsEngine
