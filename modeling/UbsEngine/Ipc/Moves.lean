import UbsEngine.Ipc.Server

/-!
# What an event does to the sessions

An event of the server comes down to few operations on its sessions. Most of what happens is
quiet (`UbsEngine.Ipc.Sessions.Quiet`): a session is changed without changing whose it is and
what type it has, or it is closed. A request that passes the checks asks for an upgrade besides
(`UbsEngine.Ipc.UbseUDSServer.asksUpgrade`), a connection is taken in, and a session whose
response has been sent is set aside until its client closes it.

`UbsEngine.Ipc.UbseUDSServer.step_sessions` is the rule that follows: what these operations
preserve is preserved by every event. Its first use is `UbsEngine.Ipc.Sessions.Consistent`: a
session always has an open descriptor that belongs to its connection.
-/

namespace UbsEngine

namespace Ipc

/-- A session is changed without changing whose it is and what type it has. -/
def Keeping (f : ClientSession → ClientSession) : Prop :=
  ∀ x, (f x).clientInfo = x.clientInfo ∧ (f x).connType = x.connType ∧ (f x).conn = x.conn

namespace Sessions

/-- Sessions are changed in what they are doing, or closed, one after the other. -/
inductive Quiet : Sessions → Sessions → Prop
  | refl (s : Sessions) : Quiet s s
  | modify {s t : Sessions} {f : ClientSession → ClientSession} (fd : Fd) :
      Quiet s t → Keeping f → Quiet s (t.modify fd f)
  | close {s t : Sessions} (fd : Fd) : Quiet s t → Quiet s (t.closeSession fd)

variable {s t u : Sessions}

theorem Quiet.trans (h : Quiet s t) (h' : Quiet t u) : Quiet s u := by
  induction h' with
  | refl => exact h
  | modify fd _ hf ih => exact .modify fd ih hf
  | close fd _ ih => exact .close fd ih

/-- What a single quiet operation preserves, all of them do. -/
theorem Quiet.preserves {P : Sessions → Prop} (h : Quiet s t)
    (hmodify : ∀ (s : Sessions) fd f, Keeping f → P s → P (s.modify fd f))
    (hclose : ∀ (s : Sessions) fd, P s → P (s.closeSession fd)) (hs : P s) : P t := by
  induction h with
  | refl => exact hs
  | modify fd _ hf ih => exact hmodify _ fd _ hf ih
  | close fd _ ih => exact hclose _ fd ih

/-- A session whose response has been sent is set aside, and those that have been set aside for
too long are closed. -/
def setAside (s : Sessions) (fd : Fd) (now : Nat) : Sessions :=
  ((s.modify fd fun session =>
    { session with writeBuffer := none, closingStartTime := now }).removeSession fd
      true).checkAndCloseTimeoutSessions now

end Sessions

namespace UbseUDSServer

open Sessions

variable {cfg : UbseUDSConfig} {s : UbseUDSServer} {fd : Fd} {x : ClientSession}

/-! ### Responses -/

theorem quiet_putResponse (s : UbseUDSServer) (y : Sending) (b : Bool) :
    Quiet s.sessions (s.putResponse y b).sessions := by
  rw [putResponse]
  split
  next => exact .refl _
  next =>
    split
    next => exact .refl _
    next => exact .modify _ (.refl _) fun _ => ⟨rfl, rfl, rfl⟩

theorem sessions_takeRequest (s : UbseUDSServer) (n : Nat) (r : RequestId)
    (m : UbseResponseMessage) : (s.takeRequest n r m).2.sessions = s.sessions := by
  rw [takeRequest]
  split <;> rfl

theorem quiet_sendResponse (s : UbseUDSServer) (n : Nat) (r : RequestId)
    (m : UbseResponseMessage) (b : Bool) :
    Quiet s.sessions (s.sendResponse n r m b).sessions := by
  rw [sendResponse, ← sessions_takeRequest s n r m]
  split
  next => exact .refl _
  next => exact quiet_putResponse _ _ _

/-! ### Requests -/

/-- The ids of requests and the sessions have nothing to do with each other. -/
theorem generateAndRegisterRequestId_withSessions (fd : Fd) (slotId : UInt8)
    (clock : Nat → ClockReading) (f : Sessions → Sessions) (n : Nat) (s : UbseUDSServer) :
    generateAndRegisterRequestId fd slotId clock n (s.withSessions f) =
      ((generateAndRegisterRequestId fd slotId clock n s).1,
        (generateAndRegisterRequestId fd slotId clock n s).2.withSessions f) := by
  induction n generalizing s with
  | zero => rfl
  | succ n ih =>
    rw [generateAndRegisterRequestId, generateAndRegisterRequestId]
    simp only [withSessions]
    split
    next => rfl
    next => exact ih { s with
      requestIdUtil := (s.requestIdUtil.generateRequestId slotId (clock n)).2
      clock := s.requestIdUtil.doneAt (clock n) }

theorem sessions_generateAndRegisterRequestId (fd : Fd) (slotId : UInt8)
    (clock : Nat → ClockReading) (n : Nat) (s : UbseUDSServer) :
    (generateAndRegisterRequestId fd slotId clock n s).2.sessions = s.sessions := by
  induction n generalizing s with
  | zero => rfl
  | succ n ih =>
    rw [generateAndRegisterRequestId]
    dsimp only
    split
    next => rfl
    next => exact ih _

/-- A request that fails the checks is answered at once. -/
theorem quiet_dispatch_of_permission_ne {t : Sessions} (hs : s.sessions = t)
    (header : UbseRequestHeader) (n : Nat) (r : RequestId) {env : Surroundings}
    (h : env.permission ≠ UBSE_OK) :
    Quiet t (s.dispatch cfg fd header n r env).sessions := by
  subst hs
  rw [dispatch, if_pos h]
  exact quiet_sendResponse _ _ _ _ _

/-- A request that passes the checks upgrades its session. -/
theorem quiet_dispatch_of_permission_eq {t : Sessions} (hs : s.sessions = t)
    (header : UbseRequestHeader) (n : Nat) (r : RequestId) {env : Surroundings}
    (h : env.permission = UBSE_OK) :
    Quiet (t.upgradeSession cfg fd (header.moduleCode = UBSE_LONG_LINK_REGISTER)).2
      (s.dispatch cfg fd header n r env).sessions := by
  subst hs
  rw [dispatch, if_neg (not_not_intro h)]
  by_cases hm : header.moduleCode = UBSE_LONG_LINK_REGISTER
  · rw [if_pos hm, decide_eq_true hm]
    exact quiet_sendResponse
      { s with sessions := (s.sessions.upgradeSession cfg fd true).2 } _ _ _ _
  · rw [if_neg hm, decide_eq_false hm]
    dsimp only
    split
    next =>
      exact quiet_sendResponse
        { s with sessions := (s.sessions.upgradeSession cfg fd false).2 } _ _ _ _
    next =>
      split
      next => exact .close _ (.modify _ (.refl _) fun _ => ⟨rfl, rfl, rfl⟩)
      next => exact .modify _ (.refl _) fun _ => ⟨rfl, rfl, rfl⟩
      next => exact .modify _ (.refl _) fun _ => ⟨rfl, rfl, rfl⟩

/-- **The upgrade that an event asks for**: the session, and whether it is to become a persistent
one. A request has to be complete, to get an id and to pass the checks. -/
def asksUpgrade (s : UbseUDSServer) : Event → Option (Fd × ClientSession × Bool)
  | .readable fd (.request header bodyReceived) env =>
    (s.sessions.sessions.lookup fd).bind fun session =>
      if (session.state = .CONNECT ∨ session.state = .READING) ∧
          header.bodyLen ≤ UBSE_MESSAGE_SIZE ∧ (header.bodyLen > 0 → bodyReceived = true) ∧
          (generateAndRegisterRequestId fd env.slotId env.clock maxRetries s).1.isSome ∧
          env.permission = UBSE_OK then
        some (fd, session, header.moduleCode = UBSE_LONG_LINK_REGISTER)
      else none
  | _ => none

/-- The sessions when a session is read from. -/
def reading (s : UbseUDSServer) (fd : Fd) : Sessions :=
  s.sessions.modify fd fun session => { session with state := .READING }

theorem lookup_reading (h : s.sessions.sessions.lookup fd = some x) :
    (s.reading fd).sessions.lookup fd = some { x with state := .READING } := by
  rw [reading, Sessions.modify, Map.lookup_modify, if_pos rfl, h]
  rfl

theorem quiet_reading (s : UbseUDSServer) (fd : Fd) : Quiet s.sessions (s.reading fd) :=
  .modify fd (.refl _) fun _ => ⟨rfl, rfl, rfl⟩

/-- What is read from a session leads to an upgrade, or it is quiet. -/
theorem sessions_readable (cfg : UbseUDSConfig) (s : UbseUDSServer) (fd : Fd) (incoming : Incoming)
    (env : Surroundings) :
    (s.asksUpgrade (.readable fd incoming env) = none ∧
        Quiet s.sessions (s.step cfg (.readable fd incoming env)).sessions) ∨
      ∃ session b, s.asksUpgrade (.readable fd incoming env) = some (fd, session, b) ∧
        s.sessions.sessions.lookup fd = some session ∧
        Quiet ((s.reading fd).upgradeSession cfg fd b).2
          (s.step cfg (.readable fd incoming env)).sessions := by
  rw [step]
  cases hx : s.sessions.sessions.lookup fd with
  | none =>
    refine .inl ⟨?_, .refl _⟩
    cases incoming <;> simp [asksUpgrade, hx]
  | some session =>
    dsimp only
    rw [handleRead]
    split
    next hstate =>
      refine .inl ⟨?_, .refl _⟩
      cases incoming with
      | request =>
        rw [asksUpgrade, hx, Option.bind_some, if_neg]
        rintro ⟨h | h, -⟩
        · exact hstate.1 h
        · exact hstate.2 h
      | _ => rfl
    next hstate =>
      have hstate : session.state = .CONNECT ∨ session.state = .READING := by
        by_contra h
        exact hstate (not_or.1 h)
      have hclose : Quiet s.sessions ((s.reading fd).closeSession fd) :=
        .close fd (quiet_reading s fd)
      cases incoming with
      | nothing => exact .inl ⟨rfl, hclose⟩
      | noHeader => exact .inl ⟨rfl, hclose⟩
      | response => exact .inl ⟨rfl, quiet_reading s fd⟩
      | request header bodyReceived =>
        dsimp only
        rw [asksUpgrade, hx, Option.bind_some]
        by_cases hlen : header.bodyLen > UBSE_MESSAGE_SIZE
        · rw [if_pos hlen]
          refine .inl ⟨if_neg ?_, hclose⟩
          rintro ⟨-, h, -⟩
          exact absurd hlen (UInt32.not_lt.2 h)
        rw [if_neg hlen]
        by_cases hbody : header.bodyLen > 0 ∧ (!bodyReceived) = true
        · rw [if_pos hbody]
          refine .inl ⟨if_neg ?_, hclose⟩
          rintro ⟨-, -, h, -⟩
          rw [h hbody.1] at hbody
          exact Bool.false_ne_true hbody.2
        -- the request is complete: it gets an id, if one is found
        rw [if_neg hbody, processRequest, generateAndRegisterRequestId_withSessions]
        have hsessions := sessions_generateAndRegisterRequestId fd env.slotId env.clock
          maxRetries s
        generalize generateAndRegisterRequestId fd env.slotId env.clock maxRetries s = r
          at hsessions ⊢
        cases hr : r.1 with
        | none =>
          refine .inl ⟨if_neg ?_, ?_⟩
          · rintro ⟨-, -, -, h, -⟩
            exact Bool.false_ne_true h
          · dsimp only [withSessions]
            rw [hsessions]
            exact hclose
        | some requestId =>
          dsimp only [withSessions]
          rw [hsessions]
          by_cases hperm : env.permission = UBSE_OK
          · have hreceived : header.bodyLen > 0 → bodyReceived = true := by
              intro h
              by_contra hb
              exact hbody ⟨h, by simp [hb]⟩
            refine .inr ⟨session, _, if_pos ⟨hstate, UInt32.not_lt.1 hlen, hreceived, rfl, hperm⟩,
              rfl, ?_⟩
            apply quiet_dispatch_of_permission_eq (h := hperm)
            rfl
          · refine .inl ⟨if_neg fun h => hperm h.2.2.2.2, ?_⟩
            apply (quiet_reading s fd).trans
            apply quiet_dispatch_of_permission_ne (h := hperm)
            rfl

/-- What is written to a session may set it aside. -/
theorem sessions_writable (cfg : UbseUDSConfig) (s : UbseUDSServer) (fd : Fd) (sent : Bool) (now : Nat) :
    Quiet s.sessions (s.step cfg (.writable fd sent now)).sessions ∨
      (∃ session, s.sessions.sessions.lookup fd = some session) ∧
        (s.step cfg (.writable fd sent now)).sessions = s.sessions.setAside fd now := by
  rw [step]
  cases hx : s.sessions.sessions.lookup fd with
  | none => exact .inl (.refl _)
  | some session =>
    dsimp only
    rw [handleWrite]
    split
    next => exact .inl (.refl _)
    next =>
      split
      next => exact .inl (.close fd (.refl _))
      next =>
        dsimp only [withSessions]
        split
        next => exact .inr ⟨⟨session, rfl⟩, rfl⟩
        next => exact .inl (.modify fd (.refl _) fun _ => ⟨rfl, rfl, rfl⟩)

/-- **The rule for sessions**: what the operations on the sessions preserve, every event
preserves. The upgrade is the only one that depends on what the event asks for. -/
theorem step_sessions {P : Sessions → Prop}
    (hmodify : ∀ (s : Sessions) fd f, Keeping f → P s → P (s.modify fd f))
    (hclose : ∀ (s : Sessions) fd, P s → P (s.closeSession fd))
    (haccept : ∀ (s : Sessions) fd credentials conn watched, s.descriptors.lookup fd = none →
      P s → P (s.handleNewConnection cfg fd credentials conn watched))
    (haside : ∀ (s : Sessions) fd x now, s.sessions.lookup fd = some x → P s → P (s.setAside fd now))
    {e : Event} (hpossible : s.Possible e)
    (hupgrade : ∀ fd x b, s.asksUpgrade e = some (fd, x, b) →
      s.sessions.sessions.lookup fd = some x → P (s.reading fd) →
      P ((s.reading fd).upgradeSession cfg fd b).2)
    (hs : P s.sessions) : P (s.step cfg e).sessions := by
  cases e with
  | accept fd credentials watched => exact haccept _ fd _ _ _ hpossible.2 hs
  | hangup fd => exact hclose _ fd hs
  | readable fd incoming env =>
    rcases s.sessions_readable cfg fd incoming env with ⟨-, h⟩ | ⟨x, b, hask, hx, h⟩
    · exact h.preserves hmodify hclose hs
    · refine h.preserves hmodify hclose (hupgrade fd x b hask hx ?_)
      exact (s.quiet_reading fd).preserves hmodify hclose hs
  | writable fd sent now =>
    rcases s.sessions_writable cfg fd sent now with h | ⟨⟨x, hx⟩, h⟩
    · exact h.preserves hmodify hclose hs
    · rw [h]
      exact haside _ fd x now hx hs
  | respond n m =>
    rw [step]
    split
    next => exact hs
    next => exact (sessions_takeRequest s n _ m).symm ▸ hs
  | put x modified => exact (quiet_putResponse s x modified).preserves hmodify hclose hs

end UbseUDSServer

/-! ### Sessions and their descriptors -/

namespace Sessions

/-- **A session has an open descriptor**, which belongs to the connection of the session, and it is
not set aside at the same time. -/
structure Consistent (s : Sessions) : Prop where
  session : ∀ fd x, s.sessions.lookup fd = some x → s.descriptors.lookup fd = some x.conn
  preClosing : ∀ fd x, s.preClosingSessions.lookup fd = some x →
    s.descriptors.lookup fd = some x.conn
  apart : ∀ fd x, s.preClosingSessions.lookup fd = some x → s.sessions.lookup fd = none

variable {cfg : UbseUDSConfig} {s : Sessions}

/-- A descriptor that is not open has no session. -/
theorem Consistent.free (hs : s.Consistent) {fd : Fd} (h : s.descriptors.lookup fd = none) :
    s.sessions.lookup fd = none ∧ s.preClosingSessions.lookup fd = none := by
  constructor
  · refine Option.eq_none_iff_forall_ne_some.2 fun x hx => ?_
    rw [hs.session fd x hx] at h
    exact Option.some_ne_none _ h
  · refine Option.eq_none_iff_forall_ne_some.2 fun x hx => ?_
    rw [hs.preClosing fd x hx] at h
    exact Option.some_ne_none _ h

theorem Consistent.modify (hs : s.Consistent) (fd : Fd) {f : ClientSession → ClientSession}
    (hf : Keeping f) : (s.modify fd f).Consistent := by
  refine ⟨fun fd' x hx => ?_, hs.preClosing, fun fd' x hx => ?_⟩
  · rw [Sessions.modify, Map.lookup_modify] at hx
    split at hx
    next =>
      obtain ⟨y, hy, rfl⟩ := Option.map_eq_some_iff.1 hx
      rw [(hf y).2.2]
      exact hs.session fd' y hy
    next => exact hs.session fd' x hx
  · rw [Sessions.modify, Map.lookup_modify, hs.apart fd' x hx]
    exact ite_self _

/-- A session in the place of another one of the same connection. -/
theorem Consistent.replace (hs : s.Consistent) {fd : Fd} {x y : ClientSession}
    (hx : s.sessions.lookup fd = some x) (hy : y.conn = x.conn) {t : Sessions}
    (hsessions : t.sessions = s.sessions.insert fd y)
    (hpre : t.preClosingSessions = s.preClosingSessions)
    (hdesc : t.descriptors = s.descriptors) : t.Consistent := by
  refine ⟨fun fd' z hz => ?_, fun fd' z hz => ?_, fun fd' z hz => ?_⟩
  · rw [hsessions, Map.lookup_insert_ite] at hz
    rw [hdesc]
    split at hz
    next h =>
      obtain rfl := Option.some.inj hz
      rw [h, hy]
      exact hs.session fd x hx
    next => exact hs.session fd' z hz
  · rw [hpre] at hz
    rw [hdesc]
    exact hs.preClosing fd' z hz
  · rw [hpre] at hz
    rw [hsessions, Map.lookup_insert_ite, if_neg]
    · exact hs.apart fd' z hz
    · rintro rfl
      exact absurd (hs.apart _ z hz) (hx ▸ Option.some_ne_none _)

/-- What an upgrade does to the tables: at most, one session gets another type. -/
theorem upgradeSession_cases (cfg : UbseUDSConfig) (s : Sessions) (fd : Fd) (b : Bool) :
    (s.upgradeSession cfg fd b).2.descriptors = s.descriptors ∧
      (s.upgradeSession cfg fd b).2.preClosingSessions = s.preClosingSessions ∧
      ((s.upgradeSession cfg fd b).2.sessions = s.sessions ∨
        ∃ x, s.sessions.lookup fd = some x ∧ (s.upgradeSession cfg fd b).2.sessions =
          s.sessions.insert fd { x with connType := SessionType.upgraded b }) := by
  rw [Sessions.upgradeSession]
  split
  next => exact ⟨rfl, rfl, .inl rfl⟩
  next x hx =>
    dsimp only
    split
    next =>
      split
      next => exact ⟨rfl, rfl, .inl rfl⟩
      next => exact ⟨rfl, rfl, .inl rfl⟩
    next =>
      cases b with
      | true => exact ⟨rfl, rfl, .inr ⟨x, hx, rfl⟩⟩
      | false => exact ⟨rfl, rfl, .inr ⟨x, hx, rfl⟩⟩

theorem Consistent.upgradeSession (hs : s.Consistent) (fd : Fd) (b : Bool) :
    (s.upgradeSession cfg fd b).2.Consistent := by
  obtain ⟨hdesc, hpre, hsessions | ⟨x, hx, hsessions⟩⟩ := upgradeSession_cases cfg s fd b
  · refine ⟨?_, ?_, ?_⟩
    · rw [hsessions, hdesc]
      exact hs.session
    · rw [hpre, hdesc]
      exact hs.preClosing
    · rw [hpre, hsessions]
      exact hs.apart
  · exact hs.replace (y := { x with connType := SessionType.upgraded b }) hx rfl hsessions hpre
      hdesc

theorem sessions_removeSession (s : Sessions) (fd : Fd) (b : Bool) :
    (s.removeSession fd b).sessions = s.sessions.erase fd := by
  rw [removeSession]
  split
  next h => exact (Map.erase_of_lookup_none h).symm
  next => rfl

theorem descriptors_removeSession (s : Sessions) (fd : Fd) (b : Bool) :
    (s.removeSession fd b).descriptors = s.descriptors := by
  rw [removeSession]
  split <;> rfl

theorem preClosingSessions_removeSession_false (s : Sessions) (fd : Fd) :
    (s.removeSession fd false).preClosingSessions = s.preClosingSessions.erase fd := by
  rw [removeSession]
  split <;> rfl

theorem preClosingSessions_removeSession_true {fd : Fd} {x : ClientSession}
    (h : s.sessions.lookup fd = some x) : (s.removeSession fd true).preClosingSessions =
      (s.preClosingSessions.erase fd).insert fd { x with state := .CLOSING } := by
  rw [removeSession]
  simp only [h]
  rfl

theorem Consistent.closeSession (hs : s.Consistent) (fd : Fd) : (s.closeSession fd).Consistent := by
  have hne : ∀ {fd' : Fd} {α : Type} {m : Map Fd α} {x : α},
      (m.erase fd).lookup fd' = some x → fd' ≠ fd ∧ m.lookup fd' = some x := by
    intro fd' α m x h
    rw [Map.lookup_erase_ite] at h
    split at h
    next => cases h
    next hfd => exact ⟨hfd, h⟩
  refine ⟨fun fd' x hx => ?_, fun fd' x hx => ?_, fun fd' x hx => ?_⟩
  · rw [Sessions.closeSession, close, sessions_removeSession] at hx
    rw [Sessions.closeSession, close, descriptors_removeSession, Map.lookup_erase_ite,
      if_neg (hne hx).1]
    exact hs.session fd' x (hne hx).2
  · rw [Sessions.closeSession, close, preClosingSessions_removeSession_false] at hx
    rw [Sessions.closeSession, close, descriptors_removeSession, Map.lookup_erase_ite,
      if_neg (hne hx).1]
    exact hs.preClosing fd' x (hne hx).2
  · rw [Sessions.closeSession, close, preClosingSessions_removeSession_false] at hx
    rw [Sessions.closeSession, close, sessions_removeSession, Map.lookup_erase_ite,
      if_neg (hne hx).1]
    exact hs.apart fd' x (hne hx).2

/-- A session that is set aside keeps its descriptor. -/
theorem Consistent.removeSession_true (hs : s.Consistent) {fd : Fd} {x : ClientSession}
    (hx : s.sessions.lookup fd = some x) : (s.removeSession fd true).Consistent := by
  refine ⟨fun fd' y hy => ?_, fun fd' y hy => ?_, fun fd' y hy => ?_⟩
  · rw [sessions_removeSession, Map.lookup_erase_ite] at hy
    rw [descriptors_removeSession]
    split at hy
    next => cases hy
    next => exact hs.session fd' y hy
  · rw [preClosingSessions_removeSession_true hx, Map.lookup_insert_ite,
      Map.lookup_erase_ite] at hy
    rw [descriptors_removeSession]
    split at hy
    next h =>
      obtain rfl := Option.some.inj hy
      rw [h]
      exact hs.session fd x hx
    next => exact hs.preClosing fd' y hy
  · rw [preClosingSessions_removeSession_true hx, Map.lookup_insert_ite,
      Map.lookup_erase_ite] at hy
    rw [sessions_removeSession, Map.lookup_erase_ite]
    split at hy
    next h => rw [if_pos h]
    next h =>
      rw [if_neg h]
      exact hs.apart fd' y hy

theorem mem_timedOut {now : Nat} {fd : Fd} (h : fd ∈ s.timedOut now) :
    ∃ x, s.preClosingSessions.lookup fd = some x :=
  Map.mem_keys_iff.1 (List.mem_of_mem_filter h)

theorem Consistent.checkAndCloseTimeoutSessions (hs : s.Consistent) (now : Nat) :
    (s.checkAndCloseTimeoutSessions now).Consistent := by
  refine ⟨fun fd x hx => ?_, fun fd x hx => ?_, fun fd x hx => ?_⟩
  · rw [Sessions.checkAndCloseTimeoutSessions, Map.lookup_eraseAll, if_neg]
    · exact hs.session fd x hx
    · -- a descriptor with a session is not set aside
      intro h
      obtain ⟨y, hy⟩ := mem_timedOut h
      exact absurd (hs.apart fd y hy) (Option.ne_none_iff_exists'.2 ⟨x, hx⟩)
  · rw [Sessions.checkAndCloseTimeoutSessions, Map.lookup_eraseAll] at hx ⊢
    split at hx
    next => cases hx
    next h =>
      rw [if_neg h]
      exact hs.preClosing fd x hx
  · rw [Sessions.checkAndCloseTimeoutSessions, Map.lookup_eraseAll] at hx
    split at hx
    next => cases hx
    next => exact hs.apart fd x hx

theorem Consistent.setAside (hs : s.Consistent) {fd : Fd} {x : ClientSession}
    (hx : s.sessions.lookup fd = some x) (now : Nat) : (s.setAside fd now).Consistent := by
  have hmodify := hs.modify fd (f := fun session =>
    { session with writeBuffer := none, closingStartTime := now }) fun _ => ⟨rfl, rfl, rfl⟩
  have hlookup := Map.lookup_modify s.sessions fd fd fun session : ClientSession =>
    { session with writeBuffer := none, closingStartTime := now }
  rw [if_pos rfl, hx] at hlookup
  exact (hmodify.removeSession_true hlookup).checkAndCloseTimeoutSessions now

/-- Descriptors without a session can be opened and closed. -/
theorem Consistent.withDescriptors (hs : s.Consistent) {fd : Fd}
    (hfree : s.sessions.lookup fd = none ∧ s.preClosingSessions.lookup fd = none)
    {d : Map Fd Conn} (hd : ∀ fd', fd' ≠ fd → d.lookup fd' = s.descriptors.lookup fd') :
    Consistent { s with descriptors := d } := by
  refine ⟨fun fd' x hx => ?_, fun fd' x hx => ?_, hs.apart⟩
  · refine (hd fd' ?_).trans (hs.session fd' x hx)
    rintro rfl
    exact absurd hfree.1 (Option.ne_none_iff_exists'.2 ⟨x, hx⟩)
  · refine (hd fd' ?_).trans (hs.preClosing fd' x hx)
    rintro rfl
    exact absurd hfree.2 (Option.ne_none_iff_exists'.2 ⟨x, hx⟩)

theorem Consistent.handleNewConnection (hs : s.Consistent) (cfg : UbseUDSConfig) {fd : Fd}
    (hfree : s.descriptors.lookup fd = none) (credentials : Option UbseClientInfo) (conn : Conn)
    (watched : Bool) : (s.handleNewConnection cfg fd credentials conn watched).Consistent := by
  have hfree := hs.free hfree
  rw [Sessions.handleNewConnection]
  rcases addPendingSession_cases cfg { s with descriptors := s.descriptors.insert fd conn } fd
    credentials conn with h | ⟨info, -, -, h⟩
  · simp only [h]
    refine hs.withDescriptors hfree fun fd' hne => ?_
    rw [Map.lookup_erase_ite, if_neg hne, Map.lookup_insert_ite, if_neg hne]
  · simp only [h]
    have hopen : Consistent { s with descriptors := s.descriptors.insert fd conn } := by
      refine hs.withDescriptors hfree fun fd' hne => ?_
      rw [Map.lookup_insert_ite, if_neg hne]
    have hadd : Consistent
        { s with
          descriptors := s.descriptors.insert fd conn
          sessions := s.sessions.insert fd (.pending info conn)
          totalPending := s.totalPending + 1 } := by
      refine ⟨fun fd' x hx => ?_, hopen.preClosing, fun fd' x hx => ?_⟩
      · rw [Map.lookup_insert_ite] at hx
        split at hx
        next heq =>
          obtain rfl := Option.some.inj hx
          rw [heq]
          exact AList.lookup_insert _
        next => exact hopen.session fd' x hx
      · rw [Map.lookup_insert_ite, if_neg]
        · exact hs.apart fd' x hx
        · rintro rfl
          exact absurd hfree.2 (Option.ne_none_iff_exists'.2 ⟨x, hx⟩)
    cases watched with
    | false => exact hadd.closeSession fd
    | true => exact hadd

end Sessions

/-- Sessions stay with their descriptors, whatever happens. -/
theorem UbseUDSServer.consistent_step {cfg : UbseUDSConfig} {s : UbseUDSServer} {e : Event}
    (hpossible : s.Possible e) (hs : s.sessions.Consistent) :
    (s.step cfg e).sessions.Consistent :=
  step_sessions (P := Sessions.Consistent) (fun _ fd _ hf h => h.modify fd hf)
    (fun _ fd h => h.closeSession fd)
    (fun _ _ credentials conn watched hfree h => h.handleNewConnection cfg hfree credentials conn watched)
    (fun _ _ _ now hx h => h.setAside hx now) hpossible
    (fun fd _ b _ _ h => h.upgradeSession fd b) hs

end Ipc

end UbsEngine
