import UbsEngine.Ipc.Moves

/-!
# Counting sessions

The counters of the server are meant to say how many sessions there are of a kind, in all and
for each user (`UbsEngine.Ipc.Sessions.Accounted`). They are moved when a session is made, when
it is upgraded and when it is removed, and upgrading takes the session off the pending ones
without looking at whether it is one.

`UbsEngine.Ipc.keeps_accounted_iff` is the exact condition: the counters are right in every state
of a run if and only if no session is upgraded that is not pending.
-/

namespace UbsEngine

namespace Ipc

/-- What sessions are counted by. -/
inductive SessionKind
  | pending | persistent | transient
  | persistentOf (uid : UInt32)
  | transientOf (uid : UInt32)
  deriving DecidableEq

/-- A session of a type and a user is counted. -/
def SessionKind.has : SessionKind → SessionType → UInt32 → Bool
  | pending, t, _ => t = .PENDING
  | persistent, t, _ => t = .PERSISTENT
  | transient, t, _ => t = .TRANSIENT
  | persistentOf uid, t, uid' => t = .PERSISTENT ∧ uid' = uid
  | transientOf uid, t, uid' => t = .TRANSIENT ∧ uid' = uid

/-- How many sessions of a kind there may be. -/
def SessionKind.limit (cfg : UbseUDSConfig) : SessionKind → Nat
  | pending => (Sessions.maxConnections cfg).toNat
  | persistent => cfg.maxPersistentConnections.toNat
  | transient => cfg.maxTransientConnections.toNat
  | persistentOf _ => cfg.maxPersistentConnectionsPerUser.toNat
  | transientOf _ => cfg.maxTransientConnectionsPerUser.toNat

theorem SessionKind.has_pending (k : SessionKind) (uid : UInt32) :
    k.has .PENDING uid = decide (k = .pending) := by
  cases k <;> simp [has]

namespace Sessions

/-- The counter of a kind. -/
def counter (s : Sessions) : SessionKind → UInt32
  | .pending => s.totalPending
  | .persistent => s.globalPersistent
  | .transient => s.globalTransient
  | .persistentOf uid => (s.stats uid).persistentCount
  | .transientOf uid => (s.stats uid).transientCount

/-- The number of sessions of a kind. -/
def number (s : Sessions) (k : SessionKind) : Nat :=
  s.sessions.total fun _ x => (k.has x.connType x.clientInfo.uid).toNat

/-- The number of sessions. -/
def size (s : Sessions) : Nat := s.sessions.total fun _ _ => 1

/-- The counters say how many sessions there are. -/
def Counted (s : Sessions) : Prop := ∀ k, (s.counter k).toNat = s.number k

/-- **The counters are right**, and so are the decisions that are made by them. -/
structure Accounted (cfg : UbseUDSConfig) (s : Sessions) : Prop where
  counted : s.Counted
  /-- No limit is exceeded. -/
  size_le : s.size ≤ (maxConnections cfg).toNat
  number_le : ∀ k, s.number k ≤ k.limit cfg
  /-- No connection is refused while there is place for it. -/
  le_size : s.isFull cfg = true → (maxConnections cfg).toNat ≤ s.size
  /-- No upgrade is refused unless there are as many sessions of a kind as there may be. -/
  le_number : ∀ uid isPersistent, s.limitReached cfg uid isPersistent = true →
    ∃ k : SessionKind, k.has (.upgraded isPersistent) uid = true ∧ k.limit cfg ≤ s.number k

/-! ### The counters under the operations -/

variable {cfg : UbseUDSConfig} {s : Sessions} {fd : Fd} {k : SessionKind} {uid : UInt32}

theorem stats_insert (s : Sessions) (c : UserCount) (uid uid' : UInt32) :
    stats { s with userStats := s.userStats.insert uid c } uid' =
      if uid' = uid then c else s.stats uid' := by
  rw [stats, Map.lookup_insert_ite]
  split <;> rfl

@[simp] theorem counter_touch (s : Sessions) (uid : UInt32) (k : SessionKind) :
    (s.touch uid).counter k = s.counter k := by
  have hstats : ∀ uid', (s.touch uid).stats uid' = s.stats uid' := by
    intro uid'
    rw [touch, stats_insert]
    split
    next h => rw [h]
    next => rfl
  cases k <;> simp only [counter, hstats] <;> rfl

/-- The counts of the users after one of them has lost a session. -/
theorem lookup_releaseUser (m : Map UInt32 UserCount) (uid uid' : UInt32) (t : SessionType) :
    ((releaseUser m uid t).lookup uid').getD {} =
      if uid' = uid then UserCount.uncount ((m.lookup uid).getD {}) t
      else (m.lookup uid').getD {} := by
  rw [releaseUser]
  split
  next h =>
    rw [Map.lookup_erase_ite]
    split
    next =>
      -- the entry that is removed counts nothing
      exact UserCount.ext h.2.symm h.1.symm
    next => rfl
  next =>
    rw [Map.lookup_insert_ite]
    split <;> rfl

/-! ### The numbers under the operations -/

theorem size_eq (s : Sessions) : s.size = s.sessions.keys.length := by
  rw [size, Map.total, AList.keys, List.keys, List.length_map]
  simp

theorem number_le_size (s : Sessions) (k : SessionKind) : s.number k ≤ s.size :=
  Map.total_le fun _ _ => Bool.toNat_le _

/-- There are as many descriptors as non-negative numbers of 32 bits. -/
theorem size_lt (s : Sessions) : s.size < 2 ^ 32 := by
  have hcard := s.sessions.keys_nodup.length_le_card
  rw [Fintype.card_fin] at hcard
  rw [size_eq]
  omega

theorem number_lt (s : Sessions) (k : SessionKind) : s.number k < 2 ^ 32 :=
  (s.number_le_size k).trans_lt s.size_lt

/-- A session that takes the place of one of the same type and user is counted the same. -/
theorem number_modify (f : ClientSession → ClientSession)
    (hf : ∀ x, (f x).connType = x.connType ∧ (f x).clientInfo.uid = x.clientInfo.uid)
    (s : Sessions) (fd : Fd) (k : SessionKind) : (s.modify fd f).number k = s.number k := by
  rw [number, number, modify, Map.total, Map.total, Map.modify, Map.mapValues, List.map_map]
  refine congrArg List.sum (List.map_congr_left fun e _ => ?_)
  rw [Function.comp_apply]
  dsimp only
  split
  next => rw [(hf e.2).1, (hf e.2).2]
  next => rfl

theorem size_modify (f : ClientSession → ClientSession) (s : Sessions) (fd : Fd) :
    (s.modify fd f).size = s.size := by
  rw [size, size, modify, Map.total, Map.total, Map.modify, Map.mapValues, List.map_map]
  rfl

/-- Every session is of one type. -/
theorem size_eq_add (s : Sessions) :
    s.size = s.number .pending + s.number .persistent + s.number .transient := by
  rw [size, number, number, number, Map.total, Map.total, Map.total, Map.total]
  induction s.sessions.entries with
  | nil => rfl
  | cons e es ih =>
    simp only [List.map_cons, List.sum_cons, ih]
    cases he : e.2.connType <;> simp [SessionKind.has] <;> omega

/-! ### What each operation does -/

variable {x : ClientSession}

/-- The counters do not depend on the tables of sessions and descriptors. -/
theorem counter_frame (s : Sessions) (m n : Map Fd ClientSession) (d : Map Fd Conn)
    (k : SessionKind) :
    counter { s with sessions := m, preClosingSessions := n, descriptors := d } k =
      s.counter k := by
  cases k <;> rfl

theorem counter_removeSession (h : s.sessions.lookup fd = some x) (b : Bool) (k : SessionKind) :
    (s.removeSession fd b).counter k =
      if k.has x.connType x.clientInfo.uid then s.counter k - 1 else s.counter k := by
  rw [removeSession]
  simp only [h]
  cases k with
  | pending => simp [counter, SessionKind.has]
  | persistent => simp [counter, SessionKind.has]
  | transient => simp [counter, SessionKind.has]
  | persistentOf uid =>
    simp only [counter, stats, lookup_releaseUser, SessionKind.has]
    by_cases huid : x.clientInfo.uid = uid
    · subst huid
      cases x.connType <;> simp [UserCount.uncount]
    · simp [huid, Ne.symm huid]
  | transientOf uid =>
    simp only [counter, stats, lookup_releaseUser, SessionKind.has]
    by_cases huid : x.clientInfo.uid = uid
    · subst huid
      cases x.connType <;> simp [UserCount.uncount]
    · simp [huid, Ne.symm huid]

theorem number_removeSession (h : s.sessions.lookup fd = some x) (b : Bool) (k : SessionKind) :
    (s.removeSession fd b).number k + (k.has x.connType x.clientInfo.uid).toNat = s.number k := by
  rw [number, sessions_removeSession]
  exact Map.total_erase (fun _ x => (k.has x.connType x.clientInfo.uid).toNat) h

theorem size_removeSession (h : s.sessions.lookup fd = some x) (b : Bool) :
    (s.removeSession fd b).size + 1 = s.size := by
  rw [size, sessions_removeSession]
  exact Map.total_erase (fun _ _ => 1) h

theorem toNat_add_one {c : UInt32} {n : Nat} (h : c.toNat = n) (hn : n + 1 < 2 ^ 32) :
    (c + 1).toNat = n + 1 := by
  rw [UInt32.toNat_add, h]
  exact Nat.mod_eq_of_lt hn

theorem toNat_sub_one_iff {c : UInt32} {n : Nat} (hn : n + 1 < 2 ^ 32) :
    (c - 1).toNat = n ↔ c.toNat = n + 1 := by
  constructor
  · intro h
    have hadd := toNat_add_one h hn
    rwa [UInt32.sub_add_cancel] at hadd
  · intro h
    have hle : (1 : UInt32) ≤ c := by
      rw [UInt32.le_iff_toNat_le, h]
      exact Nat.le_add_left 1 n
    rw [UInt32.toNat_sub_of_le _ _ hle, h]
    rfl

/-- Removing a session makes no counter right or wrong. -/
theorem counted_removeSession_iff (s : Sessions) (fd : Fd) (b : Bool) (k : SessionKind) :
    ((s.removeSession fd b).counter k).toNat = (s.removeSession fd b).number k ↔
      (s.counter k).toNat = s.number k := by
  cases h : s.sessions.lookup fd with
  | none =>
    have hcounter : (s.removeSession fd b).counter k = s.counter k := by
      rw [Sessions.removeSession]
      simp only [h]
      exact counter_frame s _ _ _ k
    rw [hcounter, number, sessions_removeSession, Map.erase_of_lookup_none h]
    exact Iff.rfl
  | some x =>
    have hnumber := number_removeSession h b k
    have hcounter := counter_removeSession h b k
    have hlt := s.number_lt k
    cases hk : k.has x.connType x.clientInfo.uid with
    | false =>
      rw [hk] at hnumber hcounter
      rw [hcounter, if_neg Bool.false_ne_true, ← hnumber]
      exact Iff.rfl
    | true =>
      rw [hk] at hnumber hcounter
      rw [hcounter, if_pos rfl, ← hnumber]
      rw [← hnumber] at hlt
      exact toNat_sub_one_iff hlt

/-- So do all quiet operations. -/
theorem Quiet.counted_iff {t : Sessions} (h : Quiet s t) (k : SessionKind) :
    (t.counter k).toNat = t.number k ↔ (s.counter k).toNat = s.number k := by
  refine h.preserves (P := fun t => (t.counter k).toNat = t.number k ↔ _) ?_ ?_ Iff.rfl
  · intro t fd f hf ih
    rw [number_modify f (fun x => ⟨(hf x).2.1, congrArg _ (hf x).1⟩) t fd k]
    exact (congrArg (·.toNat = _) (counter_frame t _ _ _ k)).to_iff.trans ih
  · intro t fd ih
    refine Iff.trans ?_ ((counted_removeSession_iff t fd false k).trans ih)
    exact (congrArg (·.toNat = _) (counter_frame (t.removeSession fd false) _ _ _ k)).to_iff

/-- A new session, if there is place for it and the number of the descriptor is free. -/
theorem Counted.addPendingSession (hs : s.Counted) (cfg : UbseUDSConfig)
    (hfree : s.sessions.lookup fd = none) (credentials : Option UbseClientInfo) (conn : Conn) :
    (s.addPendingSession cfg fd credentials conn).2.Counted := by
  rcases s.addPendingSession_cases cfg fd credentials conn with h | ⟨info, -, -, h⟩
  · rw [h]
    exact hs
  · rw [h]
    intro k
    have hnumber : number { s with sessions := s.sessions.insert fd (.pending info conn) } k =
        (decide (k = .pending)).toNat + s.number k := by
      rw [← k.has_pending info.uid]
      exact Map.total_insert_of_none _ _ hfree
    have hlt := number_lt { s with sessions := s.sessions.insert fd (.pending info conn) } k
    rw [hnumber] at hlt
    refine Eq.trans ?_ hnumber.symm
    by_cases hk : k = .pending
    · subst hk
      simp only [decide_true, Bool.toNat_true, Nat.add_comm 1] at hlt ⊢
      exact toNat_add_one (hs .pending) hlt
    · rw [decide_eq_false hk, Bool.toNat_false, Nat.zero_add, ← hs k]
      cases k <;> first | rfl | exact absurd rfl hk

/-- What an upgrade does, if it is not refused. -/
theorem upgradeSession_of_not_limitReached (h : s.sessions.lookup fd = some x) {b : Bool}
    (hlimit : s.limitReached cfg x.clientInfo.uid b = false) :
    (s.upgradeSession cfg fd b).1 = true ∧
      (s.upgradeSession cfg fd b).2.sessions =
        s.sessions.insert fd { x with connType := SessionType.upgraded b } ∧
      ∀ k, (s.upgradeSession cfg fd b).2.counter k =
        if k = .pending then s.counter k - 1
        else if k.has (SessionType.upgraded b) x.clientInfo.uid then s.counter k + 1
        else s.counter k := by
  rw [upgradeSession]
  simp only [h, hlimit]
  cases b with
  | true =>
    refine ⟨rfl, rfl, fun k => ?_⟩
    cases k with
    | persistentOf uid | transientOf uid =>
      rcases eq_or_ne uid x.clientInfo.uid with rfl | huid
      · simp [counter, stats, SessionKind.has, SessionType.upgraded]
      · simp [counter, stats, SessionKind.has, SessionType.upgraded, huid, huid.symm]
    | _ => simp [counter, SessionKind.has, SessionType.upgraded]
  | false =>
    refine ⟨rfl, rfl, fun k => ?_⟩
    cases k with
    | persistentOf uid | transientOf uid =>
      rcases eq_or_ne uid x.clientInfo.uid with rfl | huid
      · simp [counter, stats, SessionKind.has, SessionType.upgraded]
      · simp [counter, stats, SessionKind.has, SessionType.upgraded, huid, huid.symm]
    | _ => simp [counter, SessionKind.has, SessionType.upgraded]

/-- A refused upgrade changes nothing that is counted. -/
theorem upgradeSession_of_limitReached (h : s.sessions.lookup fd = some x) {b : Bool}
    (hlimit : s.limitReached cfg x.clientInfo.uid b = true) :
    (s.upgradeSession cfg fd b).1 = false ∧
      (s.upgradeSession cfg fd b).2.sessions = s.sessions ∧
      ∀ k, (s.upgradeSession cfg fd b).2.counter k = s.counter k := by
  rw [upgradeSession]
  simp only [h, hlimit, if_true]
  refine ⟨trivial, ?_, fun k => ?_⟩
  · split <;> rfl
  · split
    · exact counter_touch s _ k
    · rfl

/-! ### The limits -/

/-- What is compared when a connection is accepted is the number of sessions. -/
theorem Counted.isFull_iff (hs : s.Counted) (cfg : UbseUDSConfig) :
    s.isFull cfg = true ↔ (maxConnections cfg).toNat ≤ s.size := by
  have hlt := s.size_lt
  have hsum := s.size_eq_add
  have hp := hs .pending
  have hq := hs .persistent
  have ht := hs .transient
  simp only [counter] at hp hq ht
  rw [isFull, decide_eq_true_iff, UInt32.le_iff_toNat_le, UInt32.toNat_add, UInt32.toNat_add, hp,
    hq, ht, hsum, Nat.mod_eq_of_lt (a := s.number .pending + _) (by omega),
    Nat.mod_eq_of_lt (by omega)]

/-- What is compared when a session is upgraded are the numbers that the upgrade changes. -/
theorem Counted.limitReached_iff (hs : s.Counted) (cfg : UbseUDSConfig) (uid : UInt32)
    (b : Bool) : s.limitReached cfg uid b = true ↔
      ∃ k : SessionKind, k.has (.upgraded b) uid = true ∧ k.limit cfg ≤ s.number k := by
  have hle : ∀ (k : SessionKind) (n : UInt32), n ≤ s.counter k ↔ n.toNat ≤ s.number k := by
    intro k n
    rw [UInt32.le_iff_toNat_le, hs k]
  cases b with
  | true =>
    rw [limitReached, if_pos rfl, Bool.or_eq_true, decide_eq_true_iff, decide_eq_true_iff]
    refine (or_congr (hle .persistent _) (hle (.persistentOf uid) _)).trans ⟨?_, ?_⟩
    · rintro (h | h)
      · exact ⟨.persistent, rfl, h⟩
      · exact ⟨.persistentOf uid, by simp [SessionKind.has, SessionType.upgraded], h⟩
    · rintro ⟨k, hk, h⟩
      cases k <;> simp [SessionKind.has, SessionType.upgraded] at hk
      · exact .inl h
      · subst hk
        exact .inr h
  | false =>
    rw [limitReached, if_neg Bool.false_ne_true, Bool.or_eq_true, decide_eq_true_iff,
      decide_eq_true_iff]
    refine (or_congr (hle .transient _) (hle (.transientOf uid) _)).trans ⟨?_, ?_⟩
    · rintro (h | h)
      · exact ⟨.transient, rfl, h⟩
      · exact ⟨.transientOf uid, by simp [SessionKind.has, SessionType.upgraded], h⟩
    · rintro ⟨k, hk, h⟩
      cases k <;> simp [SessionKind.has, SessionType.upgraded] at hk
      · exact .inl h
      · subst hk
        exact .inr h

/-- No limit is exceeded. -/
structure Within (cfg : UbseUDSConfig) (s : Sessions) : Prop where
  size_le : s.size ≤ (maxConnections cfg).toNat
  number_le : ∀ k : SessionKind, s.number k ≤ k.limit cfg

/-- If the counters are right, so are the decisions that are made by them. -/
theorem accounted_iff : Accounted cfg s ↔ s.Counted ∧ Within cfg s :=
  ⟨fun h => ⟨h.counted, h.size_le, h.number_le⟩, fun h =>
    ⟨h.1, h.2.size_le, h.2.number_le, (h.1.isFull_iff cfg).1, fun uid b =>
      (h.1.limitReached_iff cfg uid b).1⟩⟩

theorem Within.mono {t : Sessions} (hs : Within cfg s) (hsize : t.size ≤ s.size)
    (hnumber : ∀ k, t.number k ≤ s.number k) : Within cfg t :=
  ⟨hsize.trans hs.size_le, fun k => (hnumber k).trans (hs.number_le k)⟩

theorem Within.removeSession (hs : Within cfg s) (fd : Fd) (b : Bool) :
    Within cfg (s.removeSession fd b) := by
  cases h : s.sessions.lookup fd with
  | none =>
    have heq : (s.removeSession fd b).sessions = s.sessions := by
      rw [sessions_removeSession, Map.erase_of_lookup_none h]
    refine hs.mono ?_ fun k => ?_
    · rw [size, heq, size]
    · rw [number, heq, number]
  | some x =>
    refine hs.mono ?_ fun k => ?_
    · exact Nat.le_of_succ_le (size_removeSession h b).le
    · rw [← number_removeSession h b k]
      exact Nat.le_add_right _ _

/-- A session is made only while there is place for it. -/
theorem Within.insert_pending (hs : Within cfg s) (hcounted : s.Counted)
    (hfull : s.isFull cfg = false) (hfree : s.sessions.lookup fd = none) (info : UbseClientInfo)
    (conn : Conn) {t : Sessions}
    (ht : t.sessions = s.sessions.insert fd (.pending info conn)) : Within cfg t := by
  have hlt : s.size < (maxConnections cfg).toNat := by
    by_contra h
    rw [(hcounted.isFull_iff cfg).2 (not_lt.1 h)] at hfull
    cases hfull
  have hsize : t.size = 1 + s.size := by
    rw [size, ht]
    exact Map.total_insert_of_none _ _ hfree
  have hsize_le : t.size ≤ (maxConnections cfg).toNat := by omega
  refine ⟨hsize_le, fun k => ?_⟩
  by_cases hk : k = .pending
  · subst hk
    exact (t.number_le_size _).trans hsize_le
  · have hnumber : t.number k = (decide (k = .pending)).toNat + s.number k := by
      rw [← k.has_pending info.uid, number, ht]
      exact Map.total_insert_of_none _ _ hfree
    rw [hnumber, decide_eq_false hk, Bool.toNat_false, Nat.zero_add]
    exact hs.number_le k

/-! ### Upgrades -/

/-- A session in the place of another one. -/
theorem number_insert_of_some (h : s.sessions.lookup fd = some x) {y : ClientSession}
    {t : Sessions} (ht : t.sessions = s.sessions.insert fd y) (k : SessionKind) :
    t.number k + (k.has x.connType x.clientInfo.uid).toNat =
      (k.has y.connType y.clientInfo.uid).toNat + s.number k := by
  rw [number, ht]
  exact Map.total_insert_of_some _ _ h

theorem SessionKind.has_upgraded_pending (b : Bool) (uid : UInt32) :
    SessionKind.pending.has (.upgraded b) uid = false := by
  cases b <;> rfl

/-- A pending session that is upgraded is counted as what it becomes, and no more as pending. -/
theorem Counted.upgradeSession (hs : s.Counted) (h : s.sessions.lookup fd = some x)
    (hpending : x.connType = .PENDING) (b : Bool) : (s.upgradeSession cfg fd b).2.Counted := by
  intro k
  cases hlimit : s.limitReached cfg x.clientInfo.uid b with
  | true =>
    obtain ⟨-, hsessions, hcounter⟩ := upgradeSession_of_limitReached h hlimit
    rw [hcounter k, hs k, number, number, hsessions]
  | false =>
    obtain ⟨-, hsessions, hcounter⟩ := upgradeSession_of_not_limitReached h hlimit
    have hnumber := number_insert_of_some h hsessions k
    have hlt := (s.upgradeSession cfg fd b).2.number_lt k
    have hlt' := s.number_lt k
    rw [hpending, k.has_pending] at hnumber
    rw [hcounter k]
    by_cases hk : k = .pending
    · subst hk
      rw [SessionKind.has_upgraded_pending] at hnumber
      simp only [decide_true, Bool.toNat_true, Bool.toNat_false, Nat.zero_add] at hnumber
      rw [if_pos rfl, toNat_sub_one_iff (hnumber ▸ hlt'), hnumber]
      exact hs .pending
    · rw [decide_eq_false hk, Bool.toNat_false, Nat.add_zero] at hnumber
      rw [if_neg hk, hnumber]
      dsimp only at hnumber ⊢
      cases hkb : k.has (.upgraded b) x.clientInfo.uid with
      | false =>
        rw [if_neg Bool.false_ne_true, Bool.toNat_false, Nat.zero_add]
        exact hs k
      | true =>
        rw [hkb, Bool.toNat_true, Nat.add_comm] at hnumber
        rw [if_pos rfl, Bool.toNat_true, Nat.add_comm]
        exact toNat_add_one (hs k) (hnumber ▸ hlt)

theorem Within.upgradeSession (hs : Within cfg s) (hcounted : s.Counted)
    (h : s.sessions.lookup fd = some x) (b : Bool) :
    Within cfg (s.upgradeSession cfg fd b).2 := by
  cases hlimit : s.limitReached cfg x.clientInfo.uid b with
  | true =>
    obtain ⟨-, hsessions, -⟩ := upgradeSession_of_limitReached h hlimit
    refine hs.mono ?_ fun k => ?_
    · rw [size, hsessions, size]
    · rw [number, hsessions, number]
  | false =>
    obtain ⟨-, hsessions, -⟩ := upgradeSession_of_not_limitReached h hlimit
    refine ⟨?_, fun k => ?_⟩
    · have hsize : (s.upgradeSession cfg fd b).2.size + 1 = 1 + s.size := by
        rw [size, hsessions]
        exact Map.total_insert_of_some _ _ h
      have := hs.size_le
      omega
    · have hnumber := number_insert_of_some h hsessions k
      have hle := hs.number_le k
      dsimp only at hnumber
      cases hkb : k.has (.upgraded b) x.clientInfo.uid with
      | false =>
        rw [hkb, Bool.toNat_false] at hnumber
        omega
      | true =>
        rw [hkb, Bool.toNat_true] at hnumber
        -- the limit was compared with this number
        have hlt : s.number k < k.limit cfg := by
          by_contra hge
          rw [(hcounted.limitReached_iff cfg x.clientInfo.uid b).2 ⟨k, hkb, not_lt.1 hge⟩]
            at hlimit
          cases hlimit
        omega

/-- A session that is upgraded and was not pending leaves the pending ones one too few. -/
theorem Counted.not_counted_upgradeSession (hs : s.Counted) (h : s.sessions.lookup fd = some x)
    (hpending : x.connType ≠ .PENDING) {b : Bool}
    (hlimit : s.limitReached cfg x.clientInfo.uid b = false) :
    ((s.upgradeSession cfg fd b).2.counter .pending).toNat ≠
      (s.upgradeSession cfg fd b).2.number .pending := by
  obtain ⟨-, hsessions, hcounter⟩ := upgradeSession_of_not_limitReached h hlimit
  have hnumber := number_insert_of_some h hsessions .pending
  have hlt := s.number_lt .pending
  rw [SessionKind.has_upgraded_pending] at hnumber
  simp only [SessionKind.has, decide_eq_false hpending, Bool.toNat_false, Nat.add_zero,
    Nat.zero_add] at hnumber
  rw [hcounter, if_pos rfl, hnumber, UInt32.toNat_sub, hs .pending, UInt32.toNat_one]
  omega

/-! ### New sessions -/

/-- What is kept at every event. -/
structure Kept (cfg : UbseUDSConfig) (s : Sessions) : Prop where
  consistent : s.Consistent
  counted : s.Counted
  within : Within cfg s

theorem Kept.modify (hs : Kept cfg s) (fd : Fd) {f : ClientSession → ClientSession}
    (hf : Keeping f) : Kept cfg (s.modify fd f) := by
  have hquiet : Quiet s (s.modify fd f) := .modify fd (.refl s) hf
  refine ⟨hs.consistent.modify fd hf, fun k => (hquiet.counted_iff k).2 (hs.counted k), ?_⟩
  refine hs.within.mono (size_modify f s fd).le fun k => Eq.le ?_
  exact number_modify f (fun x => ⟨(hf x).2.1, congrArg _ (hf x).1⟩) s fd k

theorem Kept.closeSession (hs : Kept cfg s) (fd : Fd) : Kept cfg (s.closeSession fd) := by
  have hquiet : Quiet s (s.closeSession fd) := .close fd (.refl s)
  refine ⟨hs.consistent.closeSession fd, fun k => (hquiet.counted_iff k).2 (hs.counted k), ?_⟩
  exact (hs.within.removeSession fd false).mono le_rfl fun _ => le_rfl

theorem Kept.setAside (hs : Kept cfg s) (hx : s.sessions.lookup fd = some x) (now : Nat) :
    Kept cfg (s.setAside fd now) := by
  have hmodify := hs.modify fd (f := fun session =>
    { session with writeBuffer := none, closingStartTime := now }) fun _ => ⟨rfl, rfl, rfl⟩
  refine ⟨hs.consistent.setAside hx now, fun k => ?_, ?_⟩
  · refine Eq.trans (congrArg _ (counter_frame (removeSession _ fd true) _ _ _ k)) ?_
    exact (counted_removeSession_iff _ fd true k).2 (hmodify.counted k)
  · exact (hmodify.within.removeSession fd true).mono le_rfl fun _ => le_rfl

theorem Kept.handleNewConnection (hs : Kept cfg s) (hfree : s.descriptors.lookup fd = none)
    (credentials : Option UbseClientInfo) (conn : Conn) (watched : Bool) :
    Kept cfg (s.handleNewConnection cfg fd credentials conn watched) := by
  have hconsistent := hs.consistent.handleNewConnection cfg hfree credentials conn watched
  have hnone := (hs.consistent.free hfree).1
  -- an open descriptor more is not counted
  have hcounted : Counted { s with descriptors := s.descriptors.insert fd conn } :=
    fun k => (congrArg _ (counter_frame s _ _ _ k)).trans (hs.counted k)
  have hadded := hcounted.addPendingSession cfg hnone credentials conn
  rw [Sessions.handleNewConnection] at hconsistent ⊢
  rcases addPendingSession_cases cfg { s with descriptors := s.descriptors.insert fd conn } fd
    credentials conn with h | ⟨info, -, hfull, h⟩
  · simp only [h] at hconsistent ⊢
    exact ⟨hconsistent, fun k => (congrArg _ (counter_frame s _ _ _ k)).trans (hs.counted k),
      hs.within.mono le_rfl fun _ => le_rfl⟩
  · have hwithin := hs.within.insert_pending hs.counted hfull hnone info conn
      (t := { s with
        descriptors := s.descriptors.insert fd conn
        sessions := s.sessions.insert fd (.pending info conn)
        totalPending := s.totalPending + 1 }) rfl
    simp only [h] at hconsistent hadded ⊢
    cases watched with
    | true => exact ⟨hconsistent, hadded, hwithin⟩
    | false =>
      refine ⟨hconsistent, fun k => ?_, ?_⟩
      · refine Eq.trans (congrArg _ (counter_frame (removeSession _ fd false) _ _ _ k)) ?_
        exact (counted_removeSession_iff _ fd false k).2 (hadded k)
      · exact (hwithin.removeSession fd false).mono le_rfl fun _ => le_rfl

end Sessions

/-! ### Runs -/

namespace UbseUDSServer

/-- **No session is upgraded that is not pending**: a request that passes the checks comes on a
pending session, or there is no place for another session of the kind it asks for. -/
def UpgradesPending (cfg : UbseUDSConfig) (s : UbseUDSServer) (e : Event) : Prop :=
  ∀ fd x b, s.asksUpgrade e = some (fd, x, b) →
    x.connType = .PENDING ∨ s.sessions.limitReached cfg x.clientInfo.uid b = true

theorem upgradesPending_of_eq {cfg : UbseUDSConfig} {s : UbseUDSServer} {e : Event} (fd : Fd)
    (x : ClientSession) (b : Bool) (h : s.asksUpgrade e = some (fd, x, b))
    (hx : x.connType = .PENDING) : s.UpgradesPending cfg e := by
  intro fd' y b' h'
  cases h.symm.trans h'
  exact .inl hx

/-- The counters are right after an event if and only if it upgrades no session that is not
pending. -/
theorem counted_step_iff {cfg : UbseUDSConfig} {s : UbseUDSServer} {e : Event}
    (hpossible : s.Possible e) (hs : Sessions.Kept cfg s.sessions) :
    Sessions.Kept cfg (s.step cfg e).sessions ↔ s.UpgradesPending cfg e := by
  constructor
  · intro ht fd x b hask
    by_contra hbad
    obtain ⟨hpending, hlimit⟩ := not_or.1 hbad
    -- the event is a request, and what follows the upgrade is quiet
    cases e with
    | readable fd' incoming env =>
      rcases s.sessions_readable cfg fd' incoming env with ⟨h, -⟩ | ⟨y, b', h, hy, hquiet⟩
      · rw [h] at hask
        cases hask
      · rw [h] at hask
        obtain ⟨rfl, rfl, rfl⟩ : fd' = fd ∧ y = x ∧ b' = b := by simpa using hask
        have hreading := hs.modify fd' (f := fun session => { session with state := .READING })
          fun _ => ⟨rfl, rfl, rfl⟩
        exact hreading.counted.not_counted_upgradeSession (lookup_reading hy) hpending
          (eq_false_of_ne_true hlimit) ((hquiet.counted_iff .pending).1 (ht.counted .pending))
    | _ => cases hask
  · intro hguard
    refine step_sessions (P := Sessions.Kept cfg) (fun _ fd _ hf h => h.modify fd hf)
      (fun _ fd h => h.closeSession fd) (fun _ _ cred conn w hfree h =>
        h.handleNewConnection hfree cred conn w) (fun _ _ _ now hx h => h.setAside hx now)
      hpossible (fun fd x b hask hx h => ?_) hs
    have hlookup := lookup_reading hx
    refine ⟨h.consistent.upgradeSession fd b, ?_, h.within.upgradeSession h.counted hlookup b⟩
    rcases hguard fd x b hask with hpending | hlimit
    · exact h.counted.upgradeSession hlookup hpending b
    · -- the upgrade is refused
      obtain ⟨-, hsessions, hcounter⟩ := Sessions.upgradeSession_of_limitReached hlookup hlimit
      intro k
      rw [hcounter k, Sessions.number, hsessions]
      exact h.counted k

/-- What is kept, with the decisions made explicit. -/
theorem kept_iff {cfg : UbseUDSConfig} {s : Sessions} :
    Sessions.Kept cfg s ↔ s.Consistent ∧ Sessions.Accounted cfg s := by
  rw [Sessions.accounted_iff]
  exact ⟨fun h => ⟨h.consistent, h.counted, h.within⟩, fun h => ⟨h.1, h.2.1, h.2.2⟩⟩

end UbseUDSServer

theorem kept_start (cfg : UbseUDSConfig) : Sessions.Kept cfg {} := by
  refine ⟨⟨?_, ?_, ?_⟩, fun k => ?_, Nat.zero_le _, fun _ => Nat.zero_le _⟩
  · rintro fd x ⟨⟩
  · rintro fd x ⟨⟩
  · rintro fd x ⟨⟩
  · cases k <;> rfl

/-- **The counters are right in every state of a run if and only if no session is upgraded in it
that is not pending.** -/
theorem keeps_accounted_iff (cfg : UbseUDSConfig) {s t : UbseUDSServer}
    {tr : List (Transition UbseUDSServer Event)} (hs : (serverSystem cfg).init s)
    (hrun : (serverSystem cfg).Run s tr t) :
    System.Keeps (fun s => Sessions.Accounted cfg s.sessions) tr ↔
      System.Guarded (UbseUDSServer.UpgradesPending cfg) tr := by
  obtain rfl : s = {} := hs
  have hconsistent : System.Keeps (fun s => s.sessions.Consistent) tr := by
    refine hrun.keeps_of_guarded (G := fun _ _ => True) ?_ (kept_start cfg).consistent
      fun _ _ => trivial
    rintro s e t hs - ⟨hpossible, rfl⟩
    exact UbseUDSServer.consistent_step hpossible hs
  have hexact := hrun.exact (G := UbseUDSServer.UpgradesPending cfg)
    (I := fun s => Sessions.Kept cfg s.sessions) ?_ (kept_start cfg)
  · rw [← hexact]
    refine ⟨fun h x hx => ?_, fun h x hx => ?_⟩
    · exact UbseUDSServer.kept_iff.2 ⟨hconsistent x hx, h x hx⟩
    · exact (UbseUDSServer.kept_iff.1 (h x hx)).2
  · rintro s e t hs ⟨hpossible, rfl⟩
    exact UbseUDSServer.counted_step_iff hpossible hs

/-! ### A client that registers twice -/

/-- A request to register. -/
def register : Incoming := .request ⟨UBSE_LONG_LINK_REGISTER, 0, 0, 77⟩ true

/-- A client connects and registers. -/
def registration : List Event :=
  [.accept 5 (some ⟨1000, 1000, 4242⟩) true, .readable 5 register (wellMet 5000000)]

theorem keeps_accounted_registration :
    System.Keeps (fun s => Sessions.Accounted {} s.sessions)
      (System.trace (UbseUDSServer.step {}) {} registration) := by
  refine (keeps_accounted_iff {} rfl (run_trace {} _ (by decide +kernel))).2 ?_
  intro y hy
  simp only [registration, System.trace_cons, System.trace_nil, List.mem_cons,
    List.not_mem_nil, or_false] at hy
  rcases hy with rfl | rfl
  · rintro fd x b ⟨⟩
  · exact UbseUDSServer.upgradesPending_of_eq 5 (.pending ⟨1000, 1000, 4242⟩ 0) true
      (by decide +kernel) rfl

/-- The client reads the answer, and registers once more. -/
def registrationTwice : List Event :=
  registration ++ [.writable 5 true 7000000, .readable 5 register (wellMet 8000000)]

/-- No session is pending then, and the number of pending sessions has run below zero. -/
theorem not_keeps_accounted :
    ¬ ∀ (cfg : UbseUDSConfig) (s t : UbseUDSServer) (tr : List (Transition UbseUDSServer Event)),
      (serverSystem cfg).init s → (serverSystem cfg).Run s tr t →
        System.Keeps (fun s => Sessions.Accounted cfg s.sessions) tr := by
  intro h
  have hrun := run_trace {} registrationTwice (by decide +kernel)
  have hcounted := (hrun.keeps_end (by simp [registrationTwice, registration])
    (h {} {} _ _ rfl hrun)).counted .pending
  revert hcounted
  decide +kernel

end Ipc

end UbsEngine
