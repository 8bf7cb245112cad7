import UbsEngine.Ipc.Moves

/-!
# Responses reach who has asked

The id of a request is mapped to the number of the descriptor that it came from, and the map is
not touched when the descriptor is closed. The number may then belong to the connection of
another client when the response is put into a write buffer.

`UbsEngine.Ipc.keeps_answered` says when this does not happen: no connection is accepted under a
number that a request waits for, and nobody answers a request whose id has been given to another
one since. What is kept then is `UbsEngine.Ipc.UbseUDSServer.Tracked`: wherever the number of a
descriptor stands for a request, it is the connection of the request that has the descriptor, if
any connection has it.
-/

namespace UbsEngine

namespace Ipc

namespace Sessions

/-! ### Sessions that say no more -/

/-- The sessions `t` come from the sessions `s` without a new connection and without a new
response. -/
structure Shrinks (s t : Sessions) : Prop where
  consistent : t.Consistent
  descriptors : ∀ fd c, t.descriptors.lookup fd = some c → s.descriptors.lookup fd = some c
  sessions : ∀ fd y, t.sessions.lookup fd = some y → ∃ x, s.sessions.lookup fd = some x ∧
    x.conn = y.conn ∧ ∀ w, y.writeBuffer = some w → x.writeBuffer = some w

variable {cfg : UbseUDSConfig} {s t u : Sessions}

theorem Shrinks.trans (h : Shrinks s t) (h' : Shrinks t u) : Shrinks s u := by
  refine ⟨h'.consistent, fun fd c hc => h.descriptors fd c (h'.descriptors fd c hc),
    fun fd z hz => ?_⟩
  obtain ⟨y, hy, hconn, hbuf⟩ := h'.sessions fd z hz
  obtain ⟨x, hx, hconn', hbuf'⟩ := h.sessions fd y hy
  exact ⟨x, hx, hconn'.trans hconn, fun w hw => hbuf' w (hbuf w hw)⟩

theorem Consistent.shrinks (hs : s.Consistent) : Shrinks s s :=
  ⟨hs, fun _ _ h => h, fun _ x h => ⟨x, h, rfl, fun _ hw => hw⟩⟩

/-- Changing what a session is doing. -/
theorem Consistent.shrinks_modify (hs : s.Consistent) (fd : Fd)
    {f : ClientSession → ClientSession} (hf : Keeping f)
    (hbuf : ∀ x w, (f x).writeBuffer = some w → x.writeBuffer = some w) :
    Shrinks s (s.modify fd f) := by
  refine ⟨hs.modify fd hf, fun _ _ h => h, fun fd' y hy => ?_⟩
  rw [Sessions.modify, Map.lookup_modify] at hy
  split at hy
  next =>
    obtain ⟨x, hx, rfl⟩ := Option.map_eq_some_iff.1 hy
    exact ⟨x, hx, (hf x).2.2.symm, hbuf x⟩
  next => exact ⟨y, hy, rfl, fun _ hw => hw⟩

theorem Consistent.shrinks_closeSession (hs : s.Consistent) (fd : Fd) :
    Shrinks s (s.closeSession fd) := by
  refine ⟨hs.closeSession fd, fun fd' c hc => ?_, fun fd' y hy => ?_⟩
  · rw [Sessions.closeSession, close, descriptors_removeSession, Map.lookup_erase_ite] at hc
    split at hc
    next => cases hc
    next => exact hc
  · rw [Sessions.closeSession, close, sessions_removeSession, Map.lookup_erase_ite] at hy
    split at hy
    next => cases hy
    next => exact ⟨y, hy, rfl, fun _ hw => hw⟩

theorem Consistent.shrinks_setAside (hs : s.Consistent) {fd : Fd} {x : ClientSession}
    (hx : s.sessions.lookup fd = some x) (now : Nat) : Shrinks s (s.setAside fd now) := by
  refine ⟨hs.setAside hx now, fun fd' c hc => ?_, fun fd' y hy => ?_⟩
  · rw [Sessions.setAside, Sessions.checkAndCloseTimeoutSessions, Map.lookup_eraseAll] at hc
    split at hc
    next => cases hc
    next =>
      rw [descriptors_removeSession] at hc
      exact hc
  · rw [Sessions.setAside, Sessions.checkAndCloseTimeoutSessions, sessions_removeSession,
      Map.lookup_erase_ite] at hy
    split at hy
    next => cases hy
    next hne =>
      rw [Sessions.modify, Map.lookup_modify, if_neg hne] at hy
      exact ⟨y, hy, rfl, fun _ hw => hw⟩

theorem Consistent.shrinks_upgradeSession (hs : s.Consistent) (fd : Fd) (b : Bool) :
    Shrinks s (s.upgradeSession cfg fd b).2 := by
  obtain ⟨hdesc, -, hsessions | ⟨x, hx, hsessions⟩⟩ := upgradeSession_cases cfg s fd b
  · refine ⟨hs.upgradeSession fd b, fun fd' c hc => hdesc ▸ hc, fun fd' y hy => ?_⟩
    rw [hsessions] at hy
    exact ⟨y, hy, rfl, fun _ hw => hw⟩
  · refine ⟨hs.upgradeSession fd b, fun fd' c hc => hdesc ▸ hc, fun fd' y hy => ?_⟩
    rw [hsessions, Map.lookup_insert_ite] at hy
    split at hy
    next h =>
      obtain rfl := Option.some.inj hy
      exact ⟨x, h ▸ hx, rfl, fun _ hw => hw⟩
    next => exact ⟨y, hy, rfl, fun _ hw => hw⟩

/-- A new connection does not touch what has another descriptor, and nothing is to be sent on
it. -/
theorem handleNewConnection_lookup (cfg : UbseUDSConfig) (s : Sessions) (fd : Fd) (credentials : Option UbseClientInfo)
    (conn : Conn) (watched : Bool) {fd' : Fd} (hne : fd' ≠ fd) :
    (s.handleNewConnection cfg fd credentials conn watched).descriptors.lookup fd' =
        s.descriptors.lookup fd' ∧
      (s.handleNewConnection cfg fd credentials conn watched).sessions.lookup fd' =
        s.sessions.lookup fd' := by
  rw [Sessions.handleNewConnection]
  rcases addPendingSession_cases cfg { s with descriptors := s.descriptors.insert fd conn } fd
    credentials conn with h | ⟨info, -, -, h⟩
  · simp only [h]
    refine ⟨?_, rfl⟩
    exact (Map.lookup_erase_ite _ _ _).trans
      ((if_neg hne).trans ((Map.lookup_insert_ite _ _ _ _).trans (if_neg hne)))
  · simp only [h]
    cases watched with
    | true => exact ⟨AList.lookup_insert_ne hne, AList.lookup_insert_ne hne⟩
    | false =>
      constructor
      · refine (AList.lookup_erase_ne hne).trans ?_
        rw [descriptors_removeSession]
        exact AList.lookup_insert_ne hne
      · refine (congrArg (AList.lookup fd') (sessions_removeSession _ fd false)).trans ?_
        exact (AList.lookup_erase_ne hne).trans (AList.lookup_insert_ne hne)

theorem handleNewConnection_writeBuffer {fd : Fd} (hfree : s.sessions.lookup fd = none)
    (credentials : Option UbseClientInfo) (conn : Conn) (watched : Bool) {x : ClientSession}
    (h : (s.handleNewConnection cfg fd credentials conn watched).sessions.lookup fd = some x) :
    x.writeBuffer = none := by
  rw [Sessions.handleNewConnection] at h
  rcases addPendingSession_cases cfg { s with descriptors := s.descriptors.insert fd conn } fd
    credentials conn with hadd | ⟨info, -, -, hadd⟩
  · simp only [hadd] at h
    cases hfree.symm.trans h
  · simp only [hadd] at h
    cases watched with
    | true =>
      obtain rfl := Option.some.inj ((AList.lookup_insert _).symm.trans h)
      rfl
    | false =>
      refine absurd h ?_
      intro h
      have herase := congrArg (AList.lookup fd) (sessions_removeSession
        { s with
          descriptors := s.descriptors.insert fd conn
          sessions := s.sessions.insert fd (.pending info conn)
          totalPending := s.totalPending + 1 } fd false)
      cases (herase.trans (AList.lookup_erase _ _)).symm.trans h

end Sessions

namespace UbseUDSServer

open Sessions

/-! ### Requests and the descriptors that stand for them -/

/-- The request with this number is the last one that was given its id. -/
def Latest (s : UbseUDSServer) (n : Nat) (r : Request) : Prop :=
  s.requests[n]? = some r ∧
    ∀ m r', n < m → s.requests[m]? = some r' → r'.requestId ≠ r.requestId

/-- If any connection has the descriptor, it is the one that the request came from. -/
def Belongs (s : UbseUDSServer) (n : Nat) (fd : Fd) : Prop :=
  ∃ r, s.requests[n]? = some r ∧ ∀ c, s.sessions.descriptors.lookup fd = some c → c = r.conn

/-- **Responses got to who had asked**: those that were put into a write buffer, and those that
were sent. -/
def Answered (s : UbseUDSServer) : Prop :=
  ∀ n c, (n, c) ∈ s.written ∨ (n, c) ∈ s.delivered → ∃ r, s.requests[n]? = some r ∧ r.conn = c

/-- What is kept as long as no number of a descriptor stands for two connections. -/
structure Tracked (s : UbseUDSServer) : Prop where
  consistent : s.sessions.Consistent
  answered : s.Answered
  mapped : ∀ n r fd, s.Latest n r → s.requestIdToFd.lookup r.requestId = some fd → s.Belongs n fd
  sending : ∀ x ∈ s.sendings, s.Belongs x.request x.targetFd
  buffered : ∀ fd x w, s.sessions.sessions.lookup fd = some x → x.writeBuffer = some w →
    (w.request, x.conn) ∈ s.written

variable {cfg : UbseUDSConfig} {s t : UbseUDSServer} {n : Nat} {r : Request} {fd : Fd}

theorem Belongs.mono (h : s.Belongs n fd) (hrequests : t.requests = s.requests)
    (hsessions : Shrinks s.sessions t.sessions) : t.Belongs n fd := by
  obtain ⟨r, hr, hconn⟩ := h
  exact ⟨r, hrequests ▸ hr, fun c hc => hconn c (hsessions.descriptors fd c hc)⟩

/-- **What only takes away**, and responds with what is in a write buffer, keeps track. -/
theorem Tracked.mono (hs : s.Tracked) (hrequests : t.requests = s.requests)
    (hsessions : Shrinks s.sessions t.sessions)
    (hmap : ∀ i fd, t.requestIdToFd.lookup i = some fd → s.requestIdToFd.lookup i = some fd)
    (hsendings : ∀ x ∈ t.sendings, x ∈ s.sendings) (hwritten : t.written = s.written)
    (hdelivered : ∀ p ∈ t.delivered, p ∈ s.delivered ∨ p ∈ s.written) : t.Tracked := by
  refine ⟨hsessions.consistent, fun n c hnc => ?_, fun n r fd hlatest hfd => ?_, fun x hx => ?_,
    fun fd y w hy hw => ?_⟩
  · rw [hrequests]
    refine hs.answered n c ?_
    rcases hnc with h | h
    · exact .inl (hwritten ▸ h)
    · exact (hdelivered _ h).symm
  · rw [Latest, hrequests] at hlatest
    exact (hs.mapped n r fd hlatest (hmap _ _ hfd)).mono hrequests hsessions
  · exact (hs.sending x (hsendings x hx)).mono hrequests hsessions
  · obtain ⟨x, hx, hconn, hbuf⟩ := hsessions.sessions fd y hy
    rw [hwritten, ← hconn]
    exact hs.buffered fd x w hx (hbuf w hw)

theorem Tracked.withSessions (hs : s.Tracked) {f : Sessions → Sessions}
    (hf : Shrinks s.sessions (f s.sessions)) : (s.withSessions f).Tracked :=
  hs.mono rfl hf (fun _ _ h => h) (fun _ h => h) rfl fun _ h => .inl h

theorem Tracked.modify (hs : s.Tracked) (fd : Fd) {f : ClientSession → ClientSession}
    (hf : Keeping f) (hbuf : ∀ x w, (f x).writeBuffer = some w → x.writeBuffer = some w) :
    (s.withSessions fun x => x.modify fd f).Tracked :=
  hs.withSessions (f := fun x => x.modify fd f) (hs.consistent.shrinks_modify fd hf hbuf)

theorem Tracked.closeSession (hs : s.Tracked) (fd : Fd) :
    (s.withSessions fun x => x.closeSession fd).Tracked :=
  hs.withSessions (f := fun x => x.closeSession fd) (hs.consistent.shrinks_closeSession fd)

/-! ### Responding -/

theorem Tracked.takeRequest (hs : s.Tracked) (hn : s.Latest n r) (m : UbseResponseMessage) :
    (s.takeRequest n r.requestId m).2.Tracked ∧
      ∀ x, (s.takeRequest n r.requestId m).1 = some x →
        (s.takeRequest n r.requestId m).2.Belongs x.request x.targetFd := by
  rw [UbseUDSServer.takeRequest]
  split
  next => exact ⟨hs, fun x h => by cases h⟩
  next fd hfd =>
    refine ⟨?_, fun x hx => ?_⟩
    · refine hs.mono rfl hs.consistent.shrinks (fun i fd' h => ?_) (fun _ h => h) rfl
        fun _ h => .inl h
      rw [Map.lookup_erase_ite] at h
      split at h
      next => cases h
      next => exact h
    · obtain rfl := Option.some.inj hx
      exact hs.mapped n r fd hn hfd

theorem Tracked.putResponse (hs : s.Tracked) {x : Sending}
    (hx : s.Belongs x.request x.targetFd) (b : Bool) : (s.putResponse x b).Tracked := by
  rw [UbseUDSServer.putResponse]
  split
  next => exact hs
  next session hsession =>
    split
    next =>
      exact hs.mono rfl hs.consistent.shrinks (fun _ _ h => h) (fun _ h => h) rfl
        fun _ h => .inl h
    next =>
      refine ⟨hs.consistent.modify _ fun _ => ⟨rfl, rfl, rfl⟩, fun n c hnc => ?_, hs.mapped,
        hs.sending, fun fd y w hy hw => ?_⟩
      · rcases hnc with h | h
        · rcases List.mem_append.1 h with h | h
          · exact hs.answered n c (.inl h)
          · -- the session that is written to has the descriptor
            cases List.mem_singleton.1 h
            obtain ⟨r, hr, hconn⟩ := hx
            exact ⟨r, hr, (hconn _ (hs.consistent.session _ _ hsession)).symm⟩
        · exact hs.answered n c (.inr h)
      · dsimp only at hy
        rw [Sessions.modify, Map.lookup_modify] at hy
        split at hy
        next h =>
          rw [h, hsession] at hy
          obtain rfl := Option.some.inj hy
          obtain rfl := Option.some.inj hw
          exact List.mem_append_right _ (List.mem_singleton.2 rfl)
        next => exact List.mem_append_left _ (hs.buffered fd y w hy hw)

theorem Tracked.sendResponse (hs : s.Tracked) (hn : s.Latest n r) (m : UbseResponseMessage)
    (b : Bool) : (s.sendResponse n r.requestId m b).Tracked := by
  obtain ⟨htaken, hbelongs⟩ := hs.takeRequest hn m
  rw [UbseUDSServer.sendResponse]
  split
  next => exact htaken
  next x hx => exact htaken.putResponse (hbelongs x hx) b

/-! ### Handling a request -/

theorem generateAndRegisterRequestId_eq (fd : Fd) (slotId : UInt8) (clock : Nat → ClockReading)
    (n : Nat) (s : UbseUDSServer) :
    (generateAndRegisterRequestId fd slotId clock n s).2 =
      { s with
        requestIdUtil := (generateAndRegisterRequestId fd slotId clock n s).2.requestIdUtil
        clock := (generateAndRegisterRequestId fd slotId clock n s).2.clock
        requestIdToFd := match (generateAndRegisterRequestId fd slotId clock n s).1 with
          | some i => s.requestIdToFd.insert i fd
          | none => s.requestIdToFd } := by
  induction n generalizing s with
  | zero => rfl
  | succ n ih =>
    rw [generateAndRegisterRequestId]
    dsimp only
    split
    next => rfl
    next => exact ih _

/-- A request that is given an id is the last one with this id, and its session has the
descriptor that stands for it. -/
theorem Tracked.register (hs : s.Tracked) {session : ClientSession}
    (hsession : s.sessions.sessions.lookup fd = some session) (i : RequestId)
    (ht : t = { s with
      requestIdUtil := t.requestIdUtil
      clock := t.clock
      clientReqId := t.clientReqId
      requestIdToFd := s.requestIdToFd.insert i fd
      requests := s.requests ++ [⟨i, session.conn⟩] }) :
    t.Tracked ∧ t.Latest s.requests.length ⟨i, session.conn⟩ := by
  rw [ht]
  have hnew : (s.requests ++ [⟨i, session.conn⟩])[s.requests.length]? = some ⟨i, session.conn⟩ :=
    List.getElem?_concat_length
  have hold : ∀ {n : Nat} {r : Request}, s.requests[n]? = some r →
      (s.requests ++ [⟨i, session.conn⟩])[n]? = some r := by
    intro n r h
    rw [List.getElem?_append_left (List.getElem?_eq_some_iff.1 h).1, h]
  have hbelongs : ∀ {n fd}, s.Belongs n fd → Belongs { s with
      requestIdUtil := t.requestIdUtil
      clock := t.clock
      clientReqId := t.clientReqId
      requestIdToFd := s.requestIdToFd.insert i fd
      requests := s.requests ++ [⟨i, session.conn⟩] } n fd := by
    rintro n fd ⟨r, hr, hconn⟩
    exact ⟨r, hold hr, hconn⟩
  refine ⟨⟨hs.consistent, fun n c hnc => ?_, fun n r fd' hlatest hfd => ?_, fun x hx => ?_,
    hs.buffered⟩, hnew, fun m r' hm hr' => ?_⟩
  · obtain ⟨r, hr, hconn⟩ := hs.answered n c hnc
    exact ⟨r, hold hr, hconn⟩
  · obtain ⟨hr, hlast⟩ := hlatest
    dsimp only at hr hfd hlast
    rcases Nat.lt_trichotomy n s.requests.length with h | rfl | h
    · -- an older request: its id is another one
      have hne : r.requestId ≠ i := (hlast _ _ h hnew).symm
      rw [AList.lookup_insert_ne hne] at hfd
      have hr' : s.requests[n]? = some r := by
        rwa [List.getElem?_append_left h] at hr
      exact hbelongs (hs.mapped n r fd' ⟨hr', fun m r' hm h' => hlast m r' hm (hold h')⟩ hfd)
    · cases hnew.symm.trans hr
      cases (AList.lookup_insert _).symm.trans hfd
      refine ⟨_, hnew, fun c hc => ?_⟩
      exact Option.some.inj (hc.symm.trans (hs.consistent.session _ _ hsession))
    · have hlen := (List.getElem?_eq_some_iff.1 hr).1
      rw [List.length_append, List.length_singleton] at hlen
      omega
  · exact hbelongs (hs.sending x hx)
  · have hlen := (List.getElem?_eq_some_iff.1 hr').1
    dsimp only at hlen
    rw [List.length_append, List.length_singleton] at hlen
    omega

theorem Tracked.dispatch (hs : s.Tracked) (hn : s.Latest n r) (fd : Fd)
    (header : UbseRequestHeader) (env : Surroundings) :
    (s.dispatch cfg fd header n r.requestId env).Tracked := by
  have hupgrade : ∀ b, Tracked { s with sessions := (s.sessions.upgradeSession cfg fd b).2 } :=
    fun b => hs.withSessions (f := fun x => (x.upgradeSession cfg fd b).2)
      (hs.consistent.shrinks_upgradeSession fd b)
  rw [UbseUDSServer.dispatch]
  split
  next => exact hs.sendResponse hn _ _
  next =>
    split
    next => exact (hupgrade true).sendResponse hn _ _
    next =>
      dsimp only
      split
      next => exact (hupgrade false).sendResponse hn _ _
      next =>
        have hprocessing := (hupgrade false).modify fd
          (f := fun session => { session with state := .PROCESSING }) (fun _ => ⟨rfl, rfl, rfl⟩)
          fun _ _ h => h
        split
        next => exact hprocessing.closeSession fd
        next => exact hprocessing
        next => exact hprocessing

theorem Tracked.processRequest (hs : s.Tracked) {session : ClientSession}
    (hsession : s.sessions.sessions.lookup fd = some session) (header : UbseRequestHeader)
    (env : Surroundings) : (s.processRequest cfg fd session.conn header env).Tracked := by
  have heq := generateAndRegisterRequestId_eq fd env.slotId env.clock maxRetries s
  rw [UbseUDSServer.processRequest]
  dsimp only
  generalize generateAndRegisterRequestId fd env.slotId env.clock maxRetries s = p at heq ⊢
  split
  next h =>
    have hp : p.2.Tracked := by
      rw [heq, h]
      exact hs.mono rfl hs.consistent.shrinks (fun _ _ h => h) (fun _ h => h) rfl
        fun _ h => .inl h
    exact hp.closeSession fd
  next i h =>
    rw [h] at heq
    obtain ⟨htracked, hlatest⟩ := hs.register (t := { p.2 with
      clientReqId := p.2.clientReqId.insert i header.clientRequestId
      requests := p.2.requests ++ [⟨i, session.conn⟩] }) hsession i (by rw [heq])
    have hlen : p.2.requests.length = s.requests.length := by rw [heq]
    rw [hlen]
    exact htracked.dispatch hlatest fd header env

theorem Tracked.handleRead (hs : s.Tracked) {session : ClientSession}
    (hsession : s.sessions.sessions.lookup fd = some session) (incoming : Incoming)
    (env : Surroundings) : (s.handleRead cfg fd session incoming env).Tracked := by
  have hreading := hs.modify fd (f := fun session => { session with state := .READING })
    (fun _ => ⟨rfl, rfl, rfl⟩) fun _ _ h => h
  rw [UbseUDSServer.handleRead]
  split
  next => exact hs
  next =>
    cases incoming with
    | nothing => exact hreading.closeSession fd
    | noHeader => exact hreading.closeSession fd
    | response => exact hreading
    | request header bodyReceived =>
      dsimp only
      split
      next => exact hreading.closeSession fd
      next =>
        split
        next => exact hreading.closeSession fd
        next => exact hreading.processRequest (lookup_reading hsession) header env

theorem Tracked.handleWrite (hs : s.Tracked) {session : ClientSession}
    (hsession : s.sessions.sessions.lookup fd = some session) (sent : Bool) (now : Nat) :
    (s.handleWrite fd session sent now).Tracked := by
  rw [UbseUDSServer.handleWrite]
  split
  next => exact hs
  next =>
    split
    next => exact hs.closeSession fd
    next =>
      -- what is sent was put into the write buffer of this session
      refine hs.mono rfl ?_ (fun _ _ h => h) (fun _ h => h) rfl fun p hp => ?_
      · dsimp only [UbseUDSServer.withSessions]
        split
        next => exact hs.consistent.shrinks_setAside hsession now
        next =>
          refine hs.consistent.shrinks_modify fd (fun _ => ⟨rfl, rfl, rfl⟩) fun x w h => ?_
          cases h
      · rcases List.mem_append.1 hp with h | h
        · exact .inl h
        · split at h
          next w c hw hc =>
            cases List.mem_singleton.1 h
            cases hc.symm.trans (hs.consistent.session fd session hsession)
            exact .inr (hs.buffered fd session w hsession hw)
          next => cases h

/-! ### Events -/

/-- **No number of a descriptor and no id stands for two**: a connection is not accepted under a
number that a request waits for, and nobody answers a request whose id has been given to another
one since. -/
def Unambiguous (s : UbseUDSServer) : Event → Prop
  | .accept fd _ _ => (∀ i, s.requestIdToFd.lookup i ≠ some fd) ∧ ∀ x ∈ s.sendings, x.targetFd ≠ fd
  | .respond n _ => ∀ r, s.requests[n]? = some r →
      ∀ m r', n < m → s.requests[m]? = some r' → r'.requestId ≠ r.requestId
  | _ => True

theorem Tracked.accept (hs : s.Tracked) (hfree : s.sessions.descriptors.lookup fd = none)
    (hmap : ∀ i, s.requestIdToFd.lookup i ≠ some fd) (hsendings : ∀ x ∈ s.sendings, x.targetFd ≠ fd)
    (credentials : Option UbseClientInfo) (watched : Bool) :
    (s.step cfg (.accept fd credentials watched)).Tracked := by
  have hlookup : ∀ {fd'}, fd' ≠ fd → _ := fun hne => s.sessions.handleNewConnection_lookup
    cfg fd credentials s.accepted watched hne
  have hbelongs : ∀ {n fd'}, fd' ≠ fd → s.Belongs n fd' →
      (s.step cfg (.accept fd credentials watched)).Belongs n fd' := by
    rintro n fd' hne ⟨r, hr, hconn⟩
    exact ⟨r, hr, fun c hc => hconn c ((hlookup hne).1.symm.trans hc)⟩
  refine ⟨hs.consistent.handleNewConnection cfg hfree credentials _ watched, hs.answered,
    fun n r fd' hlatest h => ?_, fun x hx => hbelongs (hsendings x hx) (hs.sending x hx),
    fun fd' x w hx hw => ?_⟩
  · refine hbelongs ?_ (hs.mapped n r fd' hlatest h)
    rintro rfl
    exact hmap _ h
  · rcases eq_or_ne fd' fd with rfl | hne
    · cases (handleNewConnection_writeBuffer (hs.consistent.free hfree).1 credentials _ watched
        hx).symm.trans hw
    · exact hs.buffered fd' x w ((hlookup hne).2.symm.trans hx) hw

/-- **One event.** -/
theorem Tracked.step (hs : s.Tracked) {e : Event} (hpossible : s.Possible e)
    (he : s.Unambiguous e) : (s.step cfg e).Tracked := by
  cases e with
  | accept fd credentials watched => exact hs.accept hpossible.2 he.1 he.2 credentials watched
  | hangup fd => exact hs.closeSession fd
  | readable fd incoming env =>
    rw [UbseUDSServer.step]
    split
    next => exact hs
    next session hsession => exact hs.handleRead hsession incoming env
  | writable fd sent now =>
    rw [UbseUDSServer.step]
    split
    next => exact hs
    next session hsession => exact hs.handleWrite hsession sent now
  | respond n m =>
    rw [UbseUDSServer.step]
    split
    next => exact hs
    next r hr =>
      obtain ⟨htaken, hbelongs⟩ := hs.takeRequest ⟨hr, he r hr⟩ m
      refine ⟨htaken.consistent, htaken.answered, htaken.mapped, fun x hx => ?_, htaken.buffered⟩
      rcases List.mem_append.1 hx with hx | hx
      · exact htaken.sending x hx
      · exact hbelongs x (Option.mem_toList.1 hx)
  | put x b =>
    have hput := hs.putResponse (hs.sending x hpossible.2) b
    refine ⟨hput.consistent, hput.answered, hput.mapped, fun y hy => ?_, hput.buffered⟩
    have hsendings : (s.putResponse x b).sendings = s.sendings := by
      rw [UbseUDSServer.putResponse]
      split
      next => rfl
      next => split <;> rfl
    exact hput.sending y (hsendings ▸ List.mem_of_mem_erase hy)

end UbseUDSServer

theorem tracked_start : UbseUDSServer.Tracked {} := by
  refine ⟨⟨?_, ?_, ?_⟩, ?_, ?_, ?_, ?_⟩
  · rintro fd x ⟨⟩
  · rintro fd x ⟨⟩
  · rintro fd x ⟨⟩
  · rintro n c (h | h) <;> cases h
  · rintro n r fd ⟨⟨⟩, -⟩
  · rintro x ⟨⟩
  · rintro fd x w ⟨⟩

/-- **Responses reach only the connection that has asked, and no connection that is gone.** In a
run in which no number of a descriptor and no id stands for two, every response that is put into
a write buffer, and every one that is sent, is on the connection that its request came from; and
a session, which is where a response is put, always belongs to an open connection. -/
theorem keeps_answered (cfg : UbseUDSConfig) {s t : UbseUDSServer}
    {tr : List (Transition UbseUDSServer Event)} (hs : (serverSystem cfg).init s)
    (hrun : (serverSystem cfg).Run s tr t)
    (hguard : System.Guarded UbseUDSServer.Unambiguous tr) :
    System.Keeps (fun s => s.Answered ∧ s.sessions.Consistent) tr := by
  obtain rfl : s = {} := hs
  have hkeeps : System.Keeps UbseUDSServer.Tracked tr := by
    refine hrun.keeps_of_guarded ?_ tracked_start hguard
    rintro s e t hs he ⟨hpossible, rfl⟩
    exact hs.step hpossible he
  exact fun x hx => ⟨(hkeeps x hx).answered, (hkeeps x hx).consistent⟩

/-! ### The number of a descriptor, used again -/

/-- The response to the request of a client, which is the first one. -/
def firstResponse : Event := .respond 0 { statusCode := UBSE_OK, bodyLen := 0 }

/-- A client connects, asks, and is answered. -/
def exchange : List Event :=
  [.accept 5 (some ⟨1000, 1000, 4242⟩) true,
    .readable 5 (.request ⟨1, 0, 0, 77⟩ true) (wellMet 5000000), firstResponse,
    .put ⟨0, 5, { statusCode := UBSE_OK, bodyLen := 0, clientRequestId := 77 }⟩ true]

theorem keeps_answered_exchange :
    System.Keeps (fun s => s.Answered ∧ s.sessions.Consistent)
      (System.trace (UbseUDSServer.step {}) {} exchange) := by
  refine keeps_answered {} rfl (run_trace {} _ (by decide +kernel)) ?_
  intro y hy
  simp only [exchange, System.trace_cons, System.trace_nil, List.mem_cons, List.not_mem_nil,
    or_false] at hy
  rcases hy with rfl | rfl | rfl | rfl
  · exact ⟨fun _ h => (nomatch h), fun _ h => (nomatch h)⟩
  · trivial
  · -- there is no later request
    intro r hr m r' hm hr'
    have hlen := (List.getElem?_eq_some_iff.1 hr').1
    have hone : ([.accept 5 (some ⟨1000, 1000, 4242⟩) true,
        .readable 5 (.request ⟨1, 0, 0, 77⟩ true) (wellMet 5000000)].foldl
          (UbseUDSServer.step {}) {}).requests.length = 1 := by decide +kernel
    exact absurd hlen (not_lt.2 (hone.trans_le hm))
  · trivial

/-- A client asks and hangs up, another one connects and gets the number of the descriptor, and
then the response is there. -/
def numberReused : List Event :=
  [.accept 5 (some ⟨1000, 1000, 4242⟩) true,
    .readable 5 (.request ⟨1, 0, 0, 77⟩ true) (wellMet 5000000), .hangup 5,
    .accept 5 (some ⟨1001, 1001, 4343⟩) true, firstResponse,
    .put ⟨0, 5, { statusCode := UBSE_OK, bodyLen := 0, clientRequestId := 77 }⟩ true]

/-- The response to the first client goes to the second one. -/
theorem not_keeps_answered :
    ¬ ∀ (cfg : UbseUDSConfig) (s t : UbseUDSServer) (tr : List (Transition UbseUDSServer Event)),
      (serverSystem cfg).init s → (serverSystem cfg).Run s tr t →
        System.Keeps (fun s => s.Answered ∧ s.sessions.Consistent) tr := by
  intro h
  have hrun := run_trace {} numberReused (by decide +kernel)
  have hkeeps := hrun.keeps_end (by simp [numberReused]) (h {} {} _ _ rfl hrun)
  obtain ⟨r, hr, hconn⟩ := hkeeps.1 0 1 (.inl (by decide +kernel))
  -- the request came from the first connection
  have hfirst : ((numberReused.foldl (UbseUDSServer.step {}) {}).requests[0]?).map (·.conn) =
      some 0 := by decide +kernel
  rw [hr, Option.map_some, hconn] at hfirst
  cases hfirst

end Ipc

end UbsEngine
