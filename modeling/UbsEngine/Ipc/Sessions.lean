import UbsEngine.Library.Assoc
import Mathlib.Data.Fintype.Card

/-!
# Sessions of the Unix-socket server

The server keeps a session for every open connection, under the number of its descriptor. A
session is pending until the first request on it says what it is for; then it is upgraded to a
transient or a persistent one. How many sessions of a kind there are, in all and for each user,
is counted apart from the sessions, in unsigned numbers of 32 bits, and compared with the limits
of the configuration.

The operating system is part of the state: it hands out the number of any descriptor that is not
open. A connection has an identity of its own here, which no part of the server sees.
-/

namespace UbsEngine

namespace Ipc

/-- The number of a descriptor. -/
abbrev Fd := Fin (2 ^ 31)

instance neZero_numbers : NeZero (2 ^ 31) := ⟨by decide⟩

/-- The identity of a connection: how many connections were accepted before it. -/
abbrev Conn := Nat

/-- The limits of the configuration. -/
structure UbseUDSConfig where
  maxTransientConnections : UInt16 := 16
  maxTransientConnectionsPerUser : UInt32 := 8
  maxPersistentConnections : UInt32 := 256
  maxPersistentConnectionsPerUser : UInt32 := 128
  deriving DecidableEq, Repr

structure UbseClientInfo where
  uid : UInt32
  gid : UInt32
  pid : UInt32
  deriving DecidableEq, Repr

inductive SessionState
  | CONNECT | READING | PROCESSING | READY_TO_WRITE | WRITING | CLOSING
  deriving DecidableEq, Repr

inductive SessionType
  | PENDING | TRANSIENT | PERSISTENT
  deriving DecidableEq, Repr

/-- The type of a session after an upgrade. -/
def SessionType.upgraded (isPersistent : Bool) : SessionType :=
  if isPersistent then .PERSISTENT else .TRANSIENT

/-- A response. -/
structure UbseResponseMessage where
  statusCode : UInt32
  bodyLen : UInt32
  clientRequestId : UInt64 := 0
  /-- Without a body there is no pointer. -/
  body : Option (List UInt8) := none
  deriving DecidableEq, Repr

/-- A response in a write buffer. -/
structure Written where
  /-- The request that it was produced for, by its number in the history. -/
  request : Nat
  response : UbseResponseMessage
  deriving DecidableEq, Repr

structure ClientSession where
  clientInfo : UbseClientInfo
  connType : SessionType
  state : SessionState
  /-- What is to be sent, if it is not empty. -/
  writeBuffer : Option Written
  closingStartTime : Nat
  /-- The connection that the session was made for. -/
  conn : Conn
  deriving DecidableEq, Repr

@[ext] structure UserCount where
  transientCount : UInt32 := 0
  persistentCount : UInt32 := 0
  deriving DecidableEq, Repr

/-- The session of a new connection. -/
def ClientSession.pending (clientInfo : UbseClientInfo) (conn : Conn) : ClientSession where
  clientInfo := clientInfo
  connType := .PENDING
  state := .CONNECT
  writeBuffer := none
  closingStartTime := 0
  conn := conn

/-- The sessions, and how many there are. -/
structure Sessions where
  sessions : Map Fd ClientSession := ∅
  preClosingSessions : Map Fd ClientSession := ∅
  userStats : Map UInt32 UserCount := ∅
  totalPending : UInt32 := 0
  globalTransient : UInt32 := 0
  globalPersistent : UInt32 := 0
  /-- The open descriptors of clients, and the connection each of them belongs to. -/
  descriptors : Map Fd Conn := ∅

namespace Sessions

variable (cfg : UbseUDSConfig) (s : Sessions)

/-- The entry of a user, which is made if it is missing (`userStats_[uid]`). -/
def stats (uid : UInt32) : UserCount := (s.userStats.lookup uid).getD {}

/-- The limit on all sessions. -/
def maxConnections : UInt32 := cfg.maxPersistentConnections + cfg.maxTransientConnections.toUInt32

/-- There is no place for another session. -/
def isFull : Bool :=
  maxConnections cfg ≤ s.totalPending + s.globalPersistent + s.globalTransient

def addPendingSession (fd : Fd) (credentials : Option UbseClientInfo) (conn : Conn) :
    Bool × Sessions :=
  match credentials with
  | none => (false, s)
  | some clientInfo =>
    if s.isFull cfg then (false, s)
    else
      (true,
        { s with
          sessions := s.sessions.insert fd (.pending clientInfo conn)
          totalPending := s.totalPending + 1 })

/-- A connection is refused, or a session is made while there is place for it. -/
theorem addPendingSession_cases (fd : Fd) (credentials : Option UbseClientInfo) (conn : Conn) :
    s.addPendingSession cfg fd credentials conn = (false, s) ∨
      ∃ info, credentials = some info ∧ s.isFull cfg = false ∧
        s.addPendingSession cfg fd credentials conn =
          (true, { s with
            sessions := s.sessions.insert fd (.pending info conn)
            totalPending := s.totalPending + 1 }) := by
  cases credentials with
  | none => exact .inl rfl
  | some info =>
    cases hfull : s.isFull cfg with
    | true => exact .inl (if_pos hfull)
    | false => exact .inr ⟨info, rfl, rfl, if_neg (hfull ▸ Bool.false_ne_true)⟩

/-- The number of sessions of a kind has reached its limit, in all or for the user. -/
def limitReached (uid : UInt32) (isPersistent : Bool) : Bool :=
  if isPersistent then
    cfg.maxPersistentConnections ≤ s.globalPersistent ||
      cfg.maxPersistentConnectionsPerUser ≤ (s.stats uid).persistentCount
  else
    cfg.maxTransientConnections.toUInt32 ≤ s.globalTransient ||
      cfg.maxTransientConnectionsPerUser ≤ (s.stats uid).transientCount

/-- The entry of a user is there after it has been read. -/
def touch (uid : UInt32) : Sessions :=
  { s with userStats := s.userStats.insert uid (s.stats uid) }

/-- Whether the limits were compared as far as the entry of the user. -/
def reachesUser (isPersistent : Bool) : Bool :=
  if isPersistent then !(cfg.maxPersistentConnections ≤ s.globalPersistent)
  else !(cfg.maxTransientConnections.toUInt32 ≤ s.globalTransient)

def upgradeSession (fd : Fd) (isPersistent : Bool) : Bool × Sessions :=
  match s.sessions.lookup fd with
  | none => (false, s)
  | some session =>
    let uid := session.clientInfo.uid
    let count := s.stats uid
    if s.limitReached cfg uid isPersistent then
      (false, if s.reachesUser cfg isPersistent then s.touch uid else s)
    else if isPersistent then
      (true,
        { s with
          globalPersistent := s.globalPersistent + 1
          userStats := s.userStats.insert uid
            { count with persistentCount := count.persistentCount + 1 }
          sessions := s.sessions.insert fd { session with connType := .PERSISTENT }
          totalPending := s.totalPending - 1 })
    else
      (true,
        { s with
          globalTransient := s.globalTransient + 1
          userStats := s.userStats.insert uid
            { count with transientCount := count.transientCount + 1 }
          sessions := s.sessions.insert fd { session with connType := .TRANSIENT }
          totalPending := s.totalPending - 1 })

/-- The counts of a user without a session of a type. -/
def UserCount.uncount (count : UserCount) : SessionType → UserCount
  | .PENDING => count
  | .PERSISTENT => { count with persistentCount := count.persistentCount - 1 }
  | .TRANSIENT => { count with transientCount := count.transientCount - 1 }

/-- The entries of the users without a session. The entry of a user without sessions is
removed. -/
def releaseUser (userStats : Map UInt32 UserCount) (uid : UInt32) (connType : SessionType) :
    Map UInt32 UserCount :=
  let count := UserCount.uncount ((userStats.lookup uid).getD {}) connType
  if count.persistentCount = 0 ∧ count.transientCount = 0 then userStats.erase uid
  else userStats.insert uid count

def removeSession (fd : Fd) (isPreClosing : Bool) : Sessions :=
  match s.sessions.lookup fd with
  | none => { s with preClosingSessions := s.preClosingSessions.erase fd }
  | some session =>
    { s with
      totalPending := if session.connType = .PENDING then s.totalPending - 1 else s.totalPending
      globalPersistent :=
        if session.connType = .PERSISTENT then s.globalPersistent - 1 else s.globalPersistent
      globalTransient :=
        if session.connType = .TRANSIENT then s.globalTransient - 1 else s.globalTransient
      userStats := releaseUser s.userStats session.clientInfo.uid session.connType
      preClosingSessions :=
        if isPreClosing then
          (s.preClosingSessions.erase fd).insert fd { session with state := .CLOSING }
        else s.preClosingSessions.erase fd
      sessions := s.sessions.erase fd }

/-- `close(fd)`. -/
def close (fd : Fd) : Sessions := { s with descriptors := s.descriptors.erase fd }

def closeSession (fd : Fd) : Sessions := (s.removeSession fd false).close fd

/-- How long a client has to close a session whose response has been sent, in nanoseconds. -/
def SESSION_CLOSE_WAITING_TIME : Nat := 30 * 10 ^ 9

/-- The descriptors that a client should have closed by now. -/
def timedOut (now : Nat) : List Fd :=
  s.preClosingSessions.keys.filter fun fd =>
    match s.preClosingSessions.lookup fd with
    | some session => now - session.closingStartTime > SESSION_CLOSE_WAITING_TIME
    | none => false

def checkAndCloseTimeoutSessions (now : Nat) : Sessions :=
  { s with
    preClosingSessions := s.preClosingSessions.eraseAll (s.timedOut now)
    descriptors := s.descriptors.eraseAll (s.timedOut now) }

/-- Changing a session. -/
def modify (fd : Fd) (f : ClientSession → ClientSession) : Sessions :=
  { s with sessions := s.sessions.modify fd f }

/-- A new connection: the operating system opens the descriptor, and it is closed again if there
is no place for a session or if it cannot be watched. -/
def handleNewConnection (fd : Fd) (credentials : Option UbseClientInfo) (conn : Conn)
    (watched : Bool) : Sessions :=
  let s := { s with descriptors := s.descriptors.insert fd conn }
  let r := s.addPendingSession cfg fd credentials conn
  if !r.1 then r.2.close fd
  else if !watched then (r.2.removeSession fd false).close fd
  else r.2

end Sessions

end Ipc

end UbsEngine
