import UbsEngine.Event.Spec
import Mathlib.Data.List.Perm.Subperm

/-!
# Every event reaches its subscribers at most once

The workers of a priority fetch the tasks in the order of the hub, and call a handler at most once
for each of them (`UbsEngine.Event.bus_delivers`). The counts that are kept of the waiting events are
right (`UbsEngine.Event.congestCntMap_counted`).
-/

namespace UbsEngine

namespace Event

/-! ### What the pool keeps -/

/-- A worker is at `GetTask`, has a task, or calls a handler. While the pool runs, it loses none of
the tasks. -/
structure UbseEventThreadPool.Inv (threads : UbseEventPriority → Nat) (pool : UbseEventThreadPool) :
    Prop where
  capacity : ∀ p, (pool.queues p).capacity = defaultQueueSize
  bounded : ∀ p, (pool.queues p).queue.length ≤ defaultQueueSize
  once : ∀ p, (pool.called p ++ pool.holding p).Subperm (pool.fetched p)
  complete : pool.isRunning = true → ∀ p,
    (pool.called p ++ pool.holding p).Perm (pool.fetched p)
  workers : pool.isRunning = true → ∀ p,
    pool.idle p + (pool.holding p).length + (pool.calling p).length = threads p

namespace UbseEventThreadPool

variable {threads : UbseEventPriority → Nat} {pool pool' : UbseEventThreadPool}
  {priority : UbseEventPriority} {worker : Nat}

/-- The action of a worker, which concerns its priority only. -/
theorem Inv.of_priority (h : pool.Inv threads) (priority : UbseEventPriority)
    (hisRunning : pool'.isRunning = pool.isRunning)
    (hother : ∀ p, p ≠ priority → pool'.queues p = pool.queues p ∧ pool'.called p = pool.called p ∧
      pool'.holding p = pool.holding p ∧ pool'.fetched p = pool.fetched p ∧
      pool'.idle p = pool.idle p ∧ pool'.calling p = pool.calling p)
    (hcapacity : (pool'.queues priority).capacity = defaultQueueSize)
    (hbounded : (pool'.queues priority).queue.length ≤ defaultQueueSize)
    (honce : (pool'.called priority ++ pool'.holding priority).Subperm (pool'.fetched priority))
    (hcomplete : pool.isRunning = true →
      (pool'.called priority ++ pool'.holding priority).Perm (pool'.fetched priority))
    (hworkers : pool.isRunning = true → pool'.idle priority + (pool'.holding priority).length +
      (pool'.calling priority).length = threads priority) : pool'.Inv threads := by
  refine ⟨fun p => ?_, fun p => ?_, fun p => ?_, fun hrunning p => ?_, fun hrunning p => ?_⟩ <;>
    by_cases hp : p = priority
  · rw [hp, hcapacity]
  · rw [(hother p hp).1, h.capacity]
  · rw [hp]
    exact hbounded
  · rw [(hother p hp).1]
    exact h.bounded p
  · rw [hp]
    exact honce
  · rw [(hother p hp).2.1, (hother p hp).2.2.1, (hother p hp).2.2.2.1]
    exact h.once p
  all_goals rw [hisRunning] at hrunning
  · rw [hp]
    exact hcomplete hrunning
  · rw [(hother p hp).2.1, (hother p hp).2.2.1, (hother p hp).2.2.2.1]
    exact h.complete hrunning p
  · rw [hp]
    exact hworkers hrunning
  · rw [(hother p hp).2.2.2.2.1, (hother p hp).2.2.1, (hother p hp).2.2.2.2.2]
    exact h.workers hrunning p

theorem fetch_inv (h : pool.Inv threads) (hfetch : pool.fetch priority = some pool') :
    pool'.Inv threads := by
  rw [fetch, Option.ite_none_left_eq_some] at hfetch
  obtain ⟨hidle, hfetch⟩ := hfetch
  obtain ⟨⟨task, q⟩, hget, rfl⟩ := Option.map_eq_some_iff.1 hfetch
  unfold UbseEventQueue.getTask at hget
  split_ifs at hget with hstopped
  · cases hget
    refine h.of_priority priority rfl (fun p hp => ?_) ?_ ?_ ?_ ?_ ?_
    · simp [hp]
    · simpa using h.capacity priority
    · simpa using h.bounded priority
    · exact h.once priority
    · exact fun hrunning => h.complete hrunning priority
    · rintro hrunning
      simpa [hrunning] using h.workers hrunning priority
  · split at hget
    next => cases hget
    next task rest hqueue =>
      cases hget
      have hbounded := h.bounded priority
      rw [hqueue, List.length_cons] at hbounded
      refine h.of_priority priority rfl (fun p hp => ?_) ?_ ?_ ?_ ?_ ?_
      · simp [hp]
      · simpa using h.capacity priority
      · simpa using Nat.le_of_succ_le hbounded
      · simp only [Function.update_self, ← List.append_assoc]
        exact (List.subperm_append_right _).2 (h.once priority)
      · rintro hrunning
        simp only [Function.update_self, ← List.append_assoc]
        exact (h.complete hrunning priority).append_right _
      · rintro hrunning
        have hworkers := h.workers hrunning priority
        simp only [Function.update_self, List.length_append, List.length_singleton]
        omega

theorem call_inv (h : pool.Inv threads) (hcall : pool.call priority worker = some pool') :
    pool'.Inv threads := by
  obtain ⟨task, htask, rfl⟩ := Option.map_eq_some_iff.1 hcall
  obtain ⟨hlt, rfl⟩ := List.getElem?_eq_some_iff.1 htask
  dsimp only
  have hperm := List.getElem_cons_eraseIdx_perm hlt
  have hlength := List.length_eraseIdx_of_lt hlt
  split_ifs with hrunning
  · have hmoved : (pool.called priority ++ [(pool.holding priority)[worker]] ++
        (pool.holding priority).eraseIdx worker).Perm
        (pool.called priority ++ pool.holding priority) := by
      rw [List.append_assoc]
      exact hperm.append_left _
    refine h.of_priority priority rfl (fun p hp => ?_) ?_ ?_ ?_ ?_ ?_
    · simp [hp]
    · exact h.capacity priority
    · exact h.bounded priority
    · simpa using hmoved.subperm.trans (h.once priority)
    · simpa using fun hrunning => hmoved.trans (h.complete hrunning priority)
    · rintro -
      have hworkers := h.workers hrunning priority
      simp only [Function.update_self, List.length_append, List.length_singleton]
      omega
  · refine h.of_priority priority rfl (fun p hp => ?_) ?_ ?_ ?_ ?_ ?_
    · simp [hp]
    · exact h.capacity priority
    · exact h.bounded priority
    · have hsub := (List.eraseIdx_sublist (pool.holding priority) worker).append_left
        (pool.called priority)
      simpa using hsub.subperm.trans (h.once priority)
    · exact fun hrunning' => absurd hrunning' hrunning
    · exact fun hrunning' => absurd hrunning' hrunning

theorem next_inv (h : pool.Inv threads) (hnext : pool.next priority worker = some pool') :
    pool'.Inv threads := by
  rw [next, Option.ite_none_right_eq_some, Option.some.injEq] at hnext
  obtain ⟨hlt, rfl⟩ := hnext
  refine h.of_priority priority rfl (fun p hp => ?_) ?_ ?_ ?_ ?_ ?_
  · simp [hp]
  · exact h.capacity priority
  · exact h.bounded priority
  · exact h.once priority
  · exact fun hrunning => h.complete hrunning priority
  · rintro hrunning
    have hworkers := h.workers hrunning priority
    simp only [Function.update_self, if_pos hrunning, List.length_eraseIdx_of_lt hlt]
    omega

theorem stopQueue_inv (h : pool.Inv threads) (hstop : pool.stopQueue priority = some pool') :
    pool'.Inv threads := by
  rw [stopQueue, Option.ite_none_left_eq_some, Option.some.injEq] at hstop
  obtain ⟨-, rfl⟩ := hstop
  refine h.of_priority priority rfl (fun p hp => ?_) ?_ ?_ (h.once priority)
    (fun hrunning => h.complete hrunning priority) fun hrunning => h.workers hrunning priority
  · simp [hp]
  · simpa using h.capacity priority
  · simpa using h.bounded priority

/-- A task more in a queue, if there is room. -/
theorem addEventTask_inv (h : pool.Inv threads) {task : EventTask} {q : UbseEventQueue}
    (hadd : (pool.queues priority).addEventTask task = some q) :
    UbseEventThreadPool.Inv threads
      { pool with queues := Function.update pool.queues priority q } := by
  unfold UbseEventQueue.addEventTask at hadd
  have hcapacity := h.capacity priority
  refine h.of_priority priority rfl (fun p hp => ?_) ?_ ?_ (h.once priority)
    (fun hrunning => h.complete hrunning priority) fun hrunning => h.workers hrunning priority
  · simp [hp]
  · simp only [Function.update_self]
    split_ifs at hadd <;> cases hadd <;> exact hcapacity
  · simp only [Function.update_self]
    split_ifs at hadd with hstopped hroom
    · cases hadd
      exact h.bounded priority
    · cases hadd
      rw [hcapacity] at hroom
      rw [List.length_append, List.length_singleton]
      exact hroom

end UbseEventThreadPool

/-- The actions that leave the pool and the queue of events alone. -/
def Action.quiet : Action → Bool
  | .registerSubscribe .. => true
  | .unRegisterSubscribe .. => true
  | .isRegisteredSubscribe _ => true
  | .start => true
  | .take => true
  | .readSubscribes => true
  | .stop => true
  | _ => false

namespace Bus

variable {threads : UbseEventPriority → Nat} {b b' : Bus}

theorem act_quiet {a : Action} (hquiet : a.quiet = true) (hact : b.act a = some b') :
    b'.pool = b.pool ∧ b'.events = b.events ∧ b'.congestCntMap = b.congestCntMap := by
  cases a with
  | registerSubscribe eventId priority registerFunc =>
    cases hact
    rcases registerFunc with _ | _ <;> exact ⟨rfl, rfl, rfl⟩
  | unRegisterSubscribe eventId registerFunc =>
    cases hact
    unfold unRegisterSubscribe
    split
    next => split <;> exact ⟨rfl, rfl, rfl⟩
    next => exact ⟨rfl, rfl, rfl⟩
  | isRegisteredSubscribe event =>
    cases hact
    unfold isRegisteredSubscribe
    split <;> exact ⟨rfl, rfl, rfl⟩
  | start =>
    obtain ⟨-, heq⟩ := Option.ite_none_right_eq_some.1 hact
    cases heq
    exact ⟨rfl, rfl, rfl⟩
  | take =>
    obtain ⟨-, heq⟩ := Option.ite_none_right_eq_some.1 hact
    split_ifs at heq
    · cases heq
      exact ⟨rfl, rfl, rfl⟩
    · obtain ⟨event, -, rfl⟩ := Option.map_eq_some_iff.1 heq
      exact ⟨rfl, rfl, rfl⟩
  | readSubscribes =>
    simp only [act, readSubscribes] at hact
    split at hact <;> cases hact
    exact ⟨rfl, rfl, rfl⟩
  | stop =>
    cases hact
    exact ⟨rfl, rfl, rfl⟩
  | _ => cases hquiet

/-- What the pool keeps in an action of any thread. -/
theorem act_pool_inv (h : b.pool.Inv threads) {a : Action} (hact : b.act a = some b') :
    b'.pool.Inv threads := by
  have hpool : ∀ f : Option UbseEventThreadPool, (f.map fun pool => { b with pool }) = some b' →
      (∀ pool, f = some pool → pool.Inv threads) → b'.pool.Inv threads := by
    rintro f hf hinv
    obtain ⟨pool, hpool, rfl⟩ := Option.map_eq_some_iff.1 hf
    exact hinv pool hpool
  have hquiet : a.quiet = true → b'.pool.Inv threads := fun hquiet => by
    rw [(act_quiet hquiet hact).1]
    exact h
  cases a with
  | pubEvent =>
    obtain ⟨event, -, rfl⟩ := Option.map_eq_some_iff.1 hact
    rw [monitorCongestion_eq]
    exact h
  | distribute =>
    simp only [act, distribute] at hact
    split at hact
    next =>
      obtain ⟨q, hadd, rfl⟩ := Option.map_eq_some_iff.1 hact
      exact UbseEventThreadPool.addEventTask_inv h hadd
    next => cases hact
  | popEvent =>
    simp only [act, popEvent] at hact
    split at hact <;> cases hact
    exact h
  | fetch => exact hpool _ hact fun _ => UbseEventThreadPool.fetch_inv h
  | call => exact hpool _ hact fun _ => UbseEventThreadPool.call_inv h
  | next => exact hpool _ hact fun _ => UbseEventThreadPool.next_inv h
  | stopPool =>
    obtain ⟨-, heq⟩ := Option.ite_none_right_eq_some.1 hact
    cases heq
    refine ⟨h.capacity, h.bounded, h.once, fun hrunning => ?_, fun hrunning => ?_⟩ <;>
      cases hrunning
  | stopQueue => exact hpool _ hact fun _ => UbseEventThreadPool.stopQueue_inv h
  | _ => exact hquiet rfl

theorem init_pool_inv (configured : UbseEventPriority → Nat) :
    (init configured).pool.Inv (threadMaxItem configured) where
  capacity := fun _ => rfl
  bounded := fun _ => Nat.zero_le _
  once := fun _ => List.Subperm.refl _
  complete := fun _ _ => List.Perm.refl _
  workers := fun _ _ => rfl

theorem run_pool_inv (h : b.pool.Inv threads) (actions : List Action) :
    (actions.foldl step b).pool.Inv threads := by
  induction actions generalizing b with
  | nil => exact h
  | cons a actions ih =>
    refine ih ?_
    unfold step
    rcases hact : b.act a with _ | b'
    · exact h
    · exact act_pool_inv h hact

end Bus

/-- **The bus delivers as the hub does**, for any order of the actions of all threads: the workers of
a priority fetch its tasks in the order of the hub, and call a handler at most once for each of
them. No queue holds more than its capacity, and no more handlers are called at a time than the
configuration allows. -/
theorem bus_delivers (configured : UbseEventPriority → Nat) (actions : List Action) :
    let b := actions.foldl Bus.step (Bus.init configured)
    let hub := ((Bus.init configured).visible actions).foldl Hub.apply {}
    b.hub = hub ∧
      (∀ p, b.pool.fetched p <+: hub.delivered p) ∧
      (∀ p, (b.pool.called p).Subperm (b.pool.fetched p)) ∧
      (∀ p, (b.pool.queues p).queue.length ≤ 1024) ∧
      (b.pool.isRunning = true → ∀ p, (b.pool.called p ++ b.pool.holding p).Perm (b.pool.fetched p) ∧
        (b.pool.calling p).length ≤ 16) := by
  intro b hub
  obtain ⟨-, hhub⟩ := Bus.run_simulates (Bus.init_inv configured) actions
  rw [Bus.init_hub] at hhub
  have hpool := Bus.run_pool_inv (Bus.init_pool_inv configured) actions
  refine ⟨hhub, fun p => ?_, fun p => ?_, hpool.bounded, fun hrunning p =>
    ⟨hpool.complete hrunning p, ?_⟩⟩
  · change _ <+: (List.foldl Hub.apply _ _).delivered p
    rw [← hhub]
    exact (List.prefix_append ..).trans (List.prefix_append ..)
  · exact (List.sublist_append_left _ _).subperm.trans (hpool.once p)
  · have hworkers := hpool.workers hrunning p
    have hmax : threadMaxItem configured p ≤ 16 := by
      rcases p with _ | _ | _ <;> simp only [threadMaxItem, configCheck] <;> split_ifs <;> omega
    exact Nat.le_trans (Nat.le_add_left _ _) (Nat.le_trans (Nat.le_of_eq hworkers) hmax)

/-! ### The counts of the waiting events -/

namespace Bus

variable {b b' : Bus}

/-- How many events of an identifier there are. -/
def congestion (events : List Published) (eventId : String) : Nat :=
  events.countP fun event => event.eventId = eventId

theorem congestion_append (events : List Published) (event : Published) (eventId : String) :
    congestion (events ++ [event]) eventId =
      congestion events eventId + if event.eventId = eventId then 1 else 0 := by
  rw [congestion, List.countP_append, List.countP_singleton]
  simp [congestion]

theorem congestion_cons (events : List Published) (event : Published) (eventId : String) :
    congestion (event :: events) eventId =
      congestion events eventId + if event.eventId = eventId then 1 else 0 := by
  rw [congestion, List.countP_cons]
  simp [congestion]

/-- The map holds the counts of the waiting events. -/
def Counted (b : Bus) : Prop :=
  ∀ eventId, b.congestCntMap.lookup eventId =
    if congestion b.events eventId = 0 then none else some (congestion b.events eventId)

theorem pubEvent_counted (h : b.Counted) {publisher : Nat} (hact : b.pubEvent publisher = some b')
    (hsmall : b'.events.length < 2 ^ 32) : b'.Counted := by
  obtain ⟨event, -, rfl⟩ := Option.map_eq_some_iff.1 hact
  rw [monitorCongestion_eq] at hsmall ⊢
  rintro eventId
  have hlt : congestion (b.events ++ [event]) event.eventId < 2 ^ 32 :=
    Nat.lt_of_le_of_lt List.countP_le_length hsmall
  rw [congestion_append, if_pos rfl] at hlt
  have hold := h event.eventId
  have hother := h eventId
  dsimp only
  rw [congestion_append]
  unfold monitorCongestion
  split
  next hnone =>
    have hzero : congestion b.events event.eventId = 0 := by
      by_contra hne
      rw [hnone, if_neg hne] at hold
      cases hold
    rw [Map.lookup_insert_ite, hother]
    by_cases hid : eventId = event.eventId
    · simp [hid, hzero]
    · simp [hid, Ne.symm hid]
  next cnt hsome =>
    have hcnt : cnt = congestion b.events event.eventId := by
      rw [hsome] at hold
      split_ifs at hold
      cases hold
      rfl
    rw [Map.lookup_insert_ite, hother]
    by_cases hid : eventId = event.eventId
    · rw [hid, if_pos rfl, if_pos rfl, if_neg (Nat.succ_ne_zero _), hcnt, Nat.mod_eq_of_lt hlt]
    · simp [hid, Ne.symm hid]

/-- A count that is right goes down by one. -/
theorem lookup_relieveCongestion {congestCntMap : Map String Nat} {eventId : String} {cnt : Nat}
    (hlookup : congestCntMap.lookup eventId = some (cnt + 1)) (hcnt : cnt + 1 < 2 ^ 32)
    (id : String) : (relieveCongestion congestCntMap eventId).lookup id =
      if id = eventId then (if cnt = 0 then none else some cnt) else congestCntMap.lookup id := by
  have hpred : (cnt + 1 + (2 ^ 32 - 1)) % 2 ^ 32 = cnt := by omega
  rw [relieveCongestion, hlookup]
  dsimp only
  rw [hpred]
  split_ifs with hzero hid hid
  · rw [hid, AList.lookup_erase]
  · exact AList.lookup_erase_ne hid
  · rw [hid, AList.lookup_insert]
  · exact AList.lookup_insert_ne hid

theorem popEvent_counted (hinv : b.Inv) (h : b.Counted) (hact : b.popEvent = some b')
    (hsmall : b.events.length < 2 ^ 32) : b'.Counted := by
  unfold popEvent at hact
  split at hact
  next event hthread =>
    cases hact
    obtain ⟨rest, hrest⟩ := List.head?_eq_some_iff.1 (hinv.event event (by rw [hthread]; rfl))
    rintro eventId
    have hlt : congestion b.events event.eventId < 2 ^ 32 :=
      Nat.lt_of_le_of_lt List.countP_le_length hsmall
    have hold := h event.eventId
    have hother := h eventId
    rw [hrest, congestion_cons] at hlt hold hother
    rw [if_pos rfl] at hlt hold
    rw [if_neg (Nat.succ_ne_zero _)] at hold
    dsimp only
    rw [hrest, List.tail_cons, lookup_relieveCongestion hold hlt]
    by_cases hid : eventId = event.eventId
    · rw [if_pos hid, hid]
    · rw [if_neg hid, hother, if_neg (Ne.symm hid), Nat.add_zero]
  next => cases hact

theorem act_counted (hinv : b.Inv) (h : b.Counted) {a : Action} (hact : b.act a = some b')
    (hsmall : b.events.length < 2 ^ 32) (hsmall' : b'.events.length < 2 ^ 32) : b'.Counted := by
  have hsame : b'.events = b.events → b'.congestCntMap = b.congestCntMap → b'.Counted := by
    rintro hevents hmap eventId
    rw [hmap, h eventId, hevents]
  have hpool : ∀ f : Option UbseEventThreadPool, (f.map fun pool => { b with pool }) = some b' →
      b'.Counted := by
    rintro f hf
    obtain ⟨pool, -, rfl⟩ := Option.map_eq_some_iff.1 hf
    exact hsame rfl rfl
  cases a with
  | pubEvent => exact pubEvent_counted h hact hsmall'
  | popEvent => exact popEvent_counted hinv h hact hsmall
  | distribute =>
    simp only [act, distribute] at hact
    split at hact
    next =>
      obtain ⟨q, -, rfl⟩ := Option.map_eq_some_iff.1 hact
      exact hsame rfl rfl
    next => cases hact
  | fetch => exact hpool _ hact
  | call => exact hpool _ hact
  | next => exact hpool _ hact
  | stopQueue => exact hpool _ hact
  | stopPool =>
    obtain ⟨-, heq⟩ := Option.ite_none_right_eq_some.1 hact
    cases heq
    exact hsame rfl rfl
  | _ => exact hsame (act_quiet rfl hact).2.1 (act_quiet rfl hact).2.2

theorem run_counted (hinv : b.Inv) (h : b.Counted) (hsmall : b.events.length < 2 ^ 32)
    (actions : List Action)
    (hkeeps : System.Keeps (fun b => b.events.length < 2 ^ 32) (System.trace step b actions)) :
    (actions.foldl step b).Counted := by
  induction actions generalizing b with
  | nil => exact h
  | cons a actions ih =>
    rw [System.trace_cons] at hkeeps
    have hsmall' : (b.step a).events.length < 2 ^ 32 := hkeeps _ List.mem_cons_self
    refine ih (step_simulates hinv a).inv ?_ hsmall' fun x hx => hkeeps x (List.mem_cons_of_mem _ hx)
    unfold step at hsmall' ⊢
    rcases hact : b.act a with _ | b'
    · exact h
    · rw [hact] at hsmall'
      exact act_counted hinv h hact hsmall hsmall'

end Bus

/-- **The counts are right** after any run in which there are never too many events for them: the map
has how many events of an identifier wait, and no entry for the others. -/
theorem congestCntMap_counted (configured : UbseEventPriority → Nat) (actions : List Action) :
    System.Keeps (fun b : Bus => b.events.length < 2 ^ 32)
        (System.trace Bus.step (Bus.init configured) actions) →
      (actions.foldl Bus.step (Bus.init configured)).Counted :=
  fun hkeeps => Bus.run_counted (Bus.init_inv configured) (fun _ => rfl) (Nat.two_pow_pos 32)
    actions hkeeps

/-- An event is published. -/
theorem congestCntMap_counted_published :
    ([.registerSubscribe "node" .high (some (.function 1)),
      .isRegisteredSubscribe ⟨"node", "up", "t"⟩, .pubEvent 0].foldl Bus.step
        (Bus.init fun _ => 4)).Counted :=
  congestCntMap_counted (fun _ => 4) _ (by
    unfold System.Keeps
    decide)

end Event

end UbsEngine
