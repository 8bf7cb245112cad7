import UbsEngine.Ipc.Sessions
import UbsEngine.Library.Run

/-!
# The Unix-socket server

One thread accepts connections and handles what is to be read from or written to the descriptors
of clients. A request is given an id, which is mapped to the descriptor it came from, and most
requests are answered later and by other threads: `SendResponse` takes the id out of that map,
and then, in a critical section of its own, puts the response into the write buffer of the
session that has the descriptor.

An event of `UbsEngine.Ipc.Event` is what one thread does under one lock, or what the thread of
the event loop does by itself; every order of events is a run of `UbsEngine.Ipc.serverSystem`.
Next to the state of the server stands its history (`UbsEngine.Ipc.Request`, the logs of what was
written where), which the server does not see.
-/

namespace UbsEngine

namespace Ipc

/-! ### Ids of requests -/

/-- An id of a request. The four parts have bits of their own in a number of 64 bits. -/
structure RequestId where
  requestType : UInt8
  slotId : UInt8
  timestamp : UInt32
  counter : UInt16
  deriving DecidableEq, Repr

/-- `UbseRequestType::SDK_REQUEST`. -/
def SDK_REQUEST : UInt8 := 1

/-- The generator of ids. -/
structure UbseRequestIdUtil where
  lastTimestamp : UInt32 := 0
  counter : UInt16 := 0
  deriving DecidableEq, Repr

/-- The milliseconds since the start, in 32 bits. The clock is in nanoseconds. -/
def getCurrentTimestamp (now : Nat) : UInt32 := UInt32.ofNat (now / 10 ^ 6)

/-- What the generator reads off the clock: the time, and the time after waiting for the next
millisecond, if it has to. -/
structure ClockReading where
  now : Nat
  later : Nat
  deriving DecidableEq, Repr

/-- The ids of a millisecond are used up: the counter overflows. -/
def UbseRequestIdUtil.waits (u : UbseRequestIdUtil) (r : ClockReading) : Bool :=
  getCurrentTimestamp r.now = u.lastTimestamp ∧ u.counter + 1 = 0

def UbseRequestIdUtil.generateRequestId (u : UbseRequestIdUtil) (slotId : UInt8)
    (r : ClockReading) : RequestId × UbseRequestIdUtil :=
  let currentTs := getCurrentTimestamp r.now
  if u.waits r then
    let nextTs := getCurrentTimestamp r.later
    (⟨SDK_REQUEST, slotId, nextTs, 1⟩, ⟨nextTs, 1⟩)
  else if currentTs = u.lastTimestamp then
    (⟨SDK_REQUEST, slotId, currentTs, u.counter + 1⟩, ⟨currentTs, u.counter + 1⟩)
  else (⟨SDK_REQUEST, slotId, currentTs, 1⟩, ⟨currentTs, 1⟩)

/-- When an id has been generated. -/
def UbseRequestIdUtil.doneAt (u : UbseRequestIdUtil) (r : ClockReading) : Nat :=
  if u.waits r then r.later else r.now

/-! ### Messages -/

def UBSE_OK : UInt32 := 0

def UBSE_ERR_IPC_CONNECTION_FAILED : UInt32 := 20

def UBSE_ERROR_INVAL : UInt32 := 10003

def UBSE_MESSAGE_SIZE : UInt32 := 10 * 1024 * 1024

def UBSE_LONG_LINK_REGISTER : UInt16 := 4

structure UbseRequestHeader where
  moduleCode : UInt16
  opCode : UInt16
  bodyLen : UInt32
  clientRequestId : UInt64
  deriving DecidableEq, Repr

/-- What is read from a descriptor. -/
inductive Incoming
  /-- The byte that tells a request from a response is not received. -/
  | nothing
  /-- The client answers a message of the server. -/
  | response
  /-- The header of a request is not received. -/
  | noHeader
  /-- A request, whose body is received or not. -/
  | request (header : UbseRequestHeader) (bodyReceived : Bool)
  deriving DecidableEq, Repr

/-- What becomes of a task that is handed to the thread pool. -/
inductive Submission
  | noExecutor | refused | accepted
  deriving DecidableEq, Repr

/-- What the handling of a request meets around the server. -/
structure Surroundings where
  slotId : UInt8
  /-- The clock, at every attempt to generate an id. -/
  clock : Nat → ClockReading
  /-- The result of the checks of permission, `UBSE_OK` or an error. -/
  permission : UInt32
  submission : Submission
  /-- Whether the events to wait for can be changed. -/
  modified : Bool

/-! ### The state -/

/-- A request, for the history: its id, and the connection it came from. -/
structure Request where
  requestId : RequestId
  conn : Conn
  deriving DecidableEq, Repr

/-- A response on its way to a session. -/
structure Sending where
  /-- The number of the request in the history. -/
  request : Nat
  targetFd : Fd
  finalResponse : UbseResponseMessage
  deriving DecidableEq, Repr

structure UbseUDSServer where
  sessions : Sessions := {}
  requestIdToFd : Map RequestId Fd := ∅
  clientReqId : Map RequestId UInt64 := ∅
  requestIdUtil : UbseRequestIdUtil := {}
  /-- The last time that was read off the clock. -/
  clock : Nat := 0
  /-- The responses whose session has not been looked up yet. -/
  sendings : List Sending := []
  /-- A thread waits for the lock of the sessions while it holds it, and so do all the others. -/
  deadlocked : Bool := false
  /-- How many connections have been accepted. -/
  accepted : Conn := 0
  /-- The requests that were given an id, oldest first. -/
  requests : List Request := []
  /-- For every response put into a write buffer: the request, and the connection of the
  session. -/
  written : List (Nat × Conn) := []
  /-- For every response sent: the request, and the connection that the descriptor belongs to. -/
  delivered : List (Nat × Conn) := []

namespace UbseUDSServer

variable (cfg : UbseUDSConfig) (s : UbseUDSServer)

/-- Changing the sessions. -/
def withSessions (f : Sessions → Sessions) : UbseUDSServer := { s with sessions := f s.sessions }

/-! ### Responses -/

/-- The first half of `SendResponse`: the id is taken out of the map. -/
def takeRequest (request : Nat) (requestId : RequestId) (response : UbseResponseMessage) :
    Option Sending × UbseUDSServer :=
  match s.requestIdToFd.lookup requestId with
  | none => (none, s)
  | some targetFd =>
    let clientRequestId := (s.clientReqId.lookup requestId).getD response.clientRequestId
    let finalResponse : UbseResponseMessage :=
      if response.bodyLen > UBSE_MESSAGE_SIZE then { statusCode := UBSE_ERROR_INVAL, bodyLen := 0 }
      else { response with clientRequestId }
    (some { request, targetFd, finalResponse },
      { s with
        requestIdToFd := s.requestIdToFd.erase requestId
        clientReqId := s.clientReqId.erase requestId })

/-- `SerializeResponseMessage` fails if there is no body to copy. -/
def serializable (response : UbseResponseMessage) : Bool :=
  response.bodyLen = 0 || response.body.isSome

/-- The second half of `SendResponse`. It closes a session while it holds the lock of the
sessions, which closing asks for. -/
def putResponse (x : Sending) (modified : Bool) : UbseUDSServer :=
  match s.sessions.sessions.lookup x.targetFd with
  | none => s
  | some session =>
    if !serializable x.finalResponse then { s with deadlocked := true }
    else
      { s with
        sessions := s.sessions.modify x.targetFd fun session =>
          { session with
            writeBuffer := some { request := x.request, response := x.finalResponse }
            state := .READY_TO_WRITE }
        written := s.written ++ [(x.request, session.conn)]
        deadlocked := !modified }

/-- `SendResponse` by the thread of the event loop. -/
def sendResponse (request : Nat) (requestId : RequestId) (response : UbseResponseMessage)
    (modified : Bool) : UbseUDSServer :=
  let r := s.takeRequest request requestId response
  match r.1 with
  | none => r.2
  | some x => r.2.putResponse x modified

/-! ### Requests -/

/-- `GenerateAndRegisterRequestId`. -/
def generateAndRegisterRequestId (fd : Fd) (slotId : UInt8) (clock : Nat → ClockReading) :
    Nat → UbseUDSServer → Option RequestId × UbseUDSServer
  | 0, s => (none, s)
  | n + 1, s =>
    let r := s.requestIdUtil.generateRequestId slotId (clock n)
    let s := { s with requestIdUtil := r.2, clock := s.requestIdUtil.doneAt (clock n) }
    match s.requestIdToFd.lookup r.1 with
    | none => (some r.1, { s with requestIdToFd := s.requestIdToFd.insert r.1 fd })
    | some _ => generateAndRegisterRequestId fd slotId clock n s

/-- How often the generation of an id is tried. -/
def maxRetries : Nat := 3

/-- A request whose id is registered, on a session: the checks, the upgrade, and the answer if
there is one at once. -/
def dispatch (fd : Fd) (header : UbseRequestHeader) (request : Nat) (requestId : RequestId)
    (env : Surroundings) : UbseUDSServer :=
  if env.permission ≠ UBSE_OK then
    s.sendResponse request requestId { statusCode := env.permission, bodyLen := 0 } env.modified
  else if header.moduleCode = UBSE_LONG_LINK_REGISTER then
    -- `HandlePersistentSession`
    let r := s.sessions.upgradeSession cfg fd true
    let s := { s with sessions := r.2 }
    let statusCode := if r.1 then UBSE_OK else UBSE_ERR_IPC_CONNECTION_FAILED
    s.sendResponse request requestId { statusCode, bodyLen := 0 } env.modified
  else
    let r := s.sessions.upgradeSession cfg fd false
    let s := { s with sessions := r.2 }
    if !r.1 then
      s.sendResponse request requestId
        { statusCode := UBSE_ERR_IPC_CONNECTION_FAILED, bodyLen := 0 } env.modified
    else
      let s := s.withSessions fun x => x.modify fd fun session => { session with state := .PROCESSING }
      match env.submission with
      | .refused => s.withSessions fun x => x.closeSession fd
      | .noExecutor | .accepted => s

def processRequest (fd : Fd) (conn : Conn) (header : UbseRequestHeader) (env : Surroundings) :
    UbseUDSServer :=
  let r := generateAndRegisterRequestId fd env.slotId env.clock maxRetries s
  match r.1 with
  | none => r.2.withSessions fun x => x.closeSession fd
  | some requestId =>
    let request := r.2.requests.length
    let s : UbseUDSServer :=
      { r.2 with
        clientReqId := r.2.clientReqId.insert requestId header.clientRequestId
        requests := r.2.requests ++ [⟨requestId, conn⟩] }
    s.dispatch cfg fd header request requestId env

/-- `HandleRead`. A response of the client goes to a callback and leaves the session as it is. -/
def handleRead (fd : Fd) (session : ClientSession) (incoming : Incoming) (env : Surroundings) :
    UbseUDSServer :=
  if session.state ≠ .CONNECT ∧ session.state ≠ .READING then s
  else
    let s := s.withSessions fun x => x.modify fd fun session => { session with state := .READING }
    match incoming with
    | .nothing | .noHeader => s.withSessions fun x => x.closeSession fd
    | .response => s
    | .request header bodyReceived =>
      if header.bodyLen > UBSE_MESSAGE_SIZE then s.withSessions fun x => x.closeSession fd
      else if header.bodyLen > 0 ∧ !bodyReceived then s.withSessions fun x => x.closeSession fd
      else s.processRequest cfg fd session.conn header env

/-- `HandleWrite`. -/
def handleWrite (fd : Fd) (session : ClientSession) (sent : Bool) (now : Nat) : UbseUDSServer :=
  if session.state ≠ .READY_TO_WRITE ∧ session.state ≠ .WRITING then s
  else if session.writeBuffer.isSome ∧ !sent then s.withSessions fun x => x.closeSession fd
  else
    let deliveries := match session.writeBuffer, s.sessions.descriptors.lookup fd with
      | some x, some conn => [(x.request, conn)]
      | _, _ => []
    let s := { s with delivered := s.delivered ++ deliveries, clock := now }
    s.withSessions fun x =>
      if session.connType ≠ .PERSISTENT then
        ((x.modify fd fun session =>
          { session with writeBuffer := none, closingStartTime := now }).removeSession fd
            true).checkAndCloseTimeoutSessions now
      else x.modify fd fun session => { session with writeBuffer := none, state := .CONNECT }

end UbseUDSServer

/-! ### The system -/

/-- What can happen. -/
inductive Event
  /-- A connection is accepted. -/
  | accept (fd : Fd) (credentials : Option UbseClientInfo) (watched : Bool)
  /-- An error or the end of a connection (`EPOLLERR`, `EPOLLHUP`, `EPOLLRDHUP`). -/
  | hangup (fd : Fd)
  /-- There is something to read (`EPOLLIN`). -/
  | readable (fd : Fd) (incoming : Incoming) (env : Surroundings)
  /-- The descriptor can be written to (`EPOLLOUT`). -/
  | writable (fd : Fd) (sent : Bool) (now : Nat)
  /-- Some thread responds to a request: the first half. -/
  | respond (request : Nat) (response : UbseResponseMessage)
  /-- The second half. -/
  | put (x : Sending) (modified : Bool)

namespace UbseUDSServer

/-- The state after an event. -/
def step (cfg : UbseUDSConfig) (s : UbseUDSServer) : Event → UbseUDSServer
  | .accept fd credentials watched =>
    { s.withSessions fun x => x.handleNewConnection cfg fd credentials s.accepted watched with
      accepted := s.accepted + 1 }
  | .hangup fd => s.withSessions fun x => x.closeSession fd
  | .readable fd incoming env =>
    match s.sessions.sessions.lookup fd with
    | none => s
    | some session => s.handleRead cfg fd session incoming env
  | .writable fd sent now =>
    match s.sessions.sessions.lookup fd with
    | none => s
    | some session => s.handleWrite fd session sent now
  | .respond request response =>
    match s.requests[request]? with
    | none => s
    | some r =>
      let t := s.takeRequest request r.requestId response
      { t.2 with sendings := t.2.sendings ++ t.1.toList }
  | .put x modified => { s.putResponse x modified with sendings := s.sendings.erase x }

/-- The clock does not run backwards, and a new millisecond is waited for until it is there. -/
def ClockRuns (s : UbseUDSServer) (clock : Nat → ClockReading) : Prop :=
  ∀ n < maxRetries, s.clock ≤ (clock n).now ∧ (clock n).now ≤ (clock n).later ∧
    getCurrentTimestamp (clock n).later ≠ getCurrentTimestamp (clock n).now

/-- What the surroundings of the server allow. -/
def Possible (s : UbseUDSServer) : Event → Prop
  | .accept fd _ _ => s.deadlocked = false ∧ s.sessions.descriptors.lookup fd = none
  | .hangup _ => s.deadlocked = false
  | .readable _ _ env => s.deadlocked = false ∧ s.ClockRuns env.clock
  | .writable _ _ now => s.deadlocked = false ∧ s.clock ≤ now
  | .respond request _ => request < s.requests.length
  | .put x _ => s.deadlocked = false ∧ x ∈ s.sendings

instance (s : UbseUDSServer) (clock : Nat → ClockReading) : Decidable (s.ClockRuns clock) :=
  inferInstanceAs (Decidable (∀ n < maxRetries, _ ∧ _ ∧ _))

instance (s : UbseUDSServer) : DecidablePred s.Possible
  | .accept _ _ _ => inferInstanceAs (Decidable (_ ∧ _))
  | .hangup _ => inferInstanceAs (Decidable (_ = _))
  | .readable _ _ _ => inferInstanceAs (Decidable (_ ∧ _))
  | .writable _ _ _ => inferInstanceAs (Decidable (_ ∧ _))
  | .respond _ _ => inferInstanceAs (Decidable (_ < _))
  | .put _ _ => inferInstanceAs (Decidable (_ ∧ _))

end UbseUDSServer

/-- **The server from its start on.** -/
def serverSystem (cfg : UbseUDSConfig) : System UbseUDSServer Event where
  init s := s = {}
  step s e t := s.Possible e ∧ s.step cfg e = t

/-- Events that are possible one after the other are a run of the server. -/
theorem run_trace (cfg : UbseUDSConfig) (es : List Event)
    (h : ∀ x ∈ System.trace (UbseUDSServer.step cfg) {} es, x.pre.Possible x.event) :
    (serverSystem cfg).Run {} (System.trace (UbseUDSServer.step cfg) {} es)
      (es.foldl (UbseUDSServer.step cfg) {}) :=
  System.run_trace_of_step _ fun x hx => ⟨h x hx, System.post_of_mem_trace hx⟩

/-- What a request meets when all is well. -/
def wellMet (now : Nat) : Surroundings where
  slotId := 0
  clock := fun _ => ⟨now, now + 10 ^ 6⟩
  permission := UBSE_OK
  submission := .accepted
  modified := true

end Ipc

end UbsEngine
