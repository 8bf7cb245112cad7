import UbsEngine.Library.Grouping
import UbsEngine.ProcessMem.Rounds
import Mathlib.Algebra.Order.BigOperators.Group.List
import Mathlib.Algebra.Order.Group.Nat
import Mathlib.Data.List.Dedup

/-!
# What has not landed yet

A declaration is accepted long before its pages have moved. Until they have, what a numa is short
of is taken down by what is on its way from it, so that the next round does not borrow for it
again. A slot in flight counts as a whole. The completed slots of a process on a remote numa are a
pool: what they declare is compared with what has been observed of the process there, and what is
missing is given to the local numa that the latest slot of the pool comes from. Only if a pool has
no valid observation, all are compared with what is used on the remote numas instead, and shared.

Nothing is lost or counted twice. But the latest source of a pool also gets what is missing of the
others: `UbsEngine.ProcessMem.attributedToLatest_of_observed` says what a numa gets, and when it is
at most what its own slots hold.
-/

namespace UbsEngine

namespace ProcessMem

open Grouping

/-! ### Pools -/

/-- The completed slots of which the source and the place are known, in the order of the loop. -/
def completedSlots (cache : ManagedPidCache) : List (Int × BorrowSlot) :=
  cache.entries.flatMap fun e =>
    (e.2.borrow.slots.filter fun s =>
      s.status = .COMPLETED ∧ 0 ≤ s.srcNumaId ∧ 0 ≤ s.remoteNumaId).map fun s => (e.1, s)

/-- The process and the remote numa of a slot. -/
def poolOf (x : Int × BorrowSlot) : Int × Int := (x.1, x.2.remoteNumaId)

def pools (cache : ManagedPidCache) : List (Int × Int) :=
  ((completedSlots cache).map poolOf).dedup

/-- The slots of a pool. -/
def poolSlots (cache : ManagedPidCache) (pool : Int × Int) : List BorrowSlot :=
  ((completedSlots cache).filter fun x => poolOf x = pool).map (·.2)

/-- What some slots declare. -/
def declaredOf (slots : List BorrowSlot) : Nat := (slots.map (·.migratedBytes)).sum

/-- What the slots of one source declare. -/
def declaredFrom (slots : List BorrowSlot) (src : Int) : Nat :=
  (slots.map fun s => if s.srcNumaId = src then s.migratedBytes else 0).sum

/-- The source of the slot with the latest time; of slots with the same time it is the last one. -/
def latestSrc (slots : List BorrowSlot) : Option Int :=
  (slots.foldl (fun latest s =>
    if latest.1 ≤ s.borrowTime then (s.borrowTime, some s.srcNumaId) else latest) (0, none)).2

/-! ### Observations -/

structure CompletedLandedObserve where
  observedBytes : Nat := 0
  observedValid : Bool := false
  locked : Bool := false
  /-- In milliseconds. -/
  lastAttempt : Nat := 0
  /-- In milliseconds; `0` before the first observation. -/
  epochStart : Nat := 0
  deriving DecidableEq, Repr

abbrev CompletedLandedObserveMap := Map (Int × Int) CompletedLandedObserve

def kObserveIntervalMs : Nat := 500

def kObserveGraceFactor : Nat := 3

def kGateConvergeRatioDen : Nat := 8

def blocks128Mb (bytes : Nat) : Nat := (bytes / BYTES_PER_MB + MB_128 - 1) / MB_128

def isGateConverged (declared observedBytes : Nat) : Bool :=
  declared ≤ observedBytes ∨
    declared - observedBytes ≤ max (MB_128 * BYTES_PER_MB) (declared / kGateConvergeRatioDen)

/-- A turn of `AdvanceObserveStates`: the state of a pool, and whether its process is to be
sampled. -/
def CompletedLandedObserve.advance (timeoutPer128MbMs now declared : Nat)
    (state : CompletedLandedObserve) : CompletedLandedObserve × Bool :=
  if state.locked ∧ declared ≤ state.observedBytes then (state, false)
  else
    let state := if state.locked then { state with locked := false, epochStart := now } else state
    let state := if state.epochStart = 0 then { state with epochStart := now } else state
    if now - state.epochStart >
        kObserveGraceFactor * blocks128Mb declared * timeoutPer128MbMs then
      ({ state with locked := true, observedBytes := declared, observedValid := true }, false)
    else (state, kObserveIntervalMs ≤ now - state.lastAttempt)

/-- A turn of `RefreshObservedBySample`. A sample that is empty has failed. -/
def CompletedLandedObserve.refresh (now : Nat) (dist : List (Nat × Nat)) (destNumaId : Int)
    (state : CompletedLandedObserve) : CompletedLandedObserve :=
  if state.locked then state
  else if dist = [] then { state with lastAttempt := now }
  else
    { state with
      lastAttempt := now
      observedBytes := (dist.lookup destNumaId.toNat).getD 0
      observedValid := true }

/-- The states of the pools that there are, after the processes have been sampled that are due. -/
def observePools (timeoutPer128MbMs now : Nat) (residence : Int → List (Nat × Nat))
    (cache : ManagedPidCache) (observeMap : CompletedLandedObserveMap) :
    CompletedLandedObserveMap :=
  let advanced := fun pool : Int × Int =>
    ((observeMap.lookup pool).getD {}).advance timeoutPer128MbMs now
      (declaredOf (poolSlots cache pool))
  let pidsToSample := ((pools cache).filter fun pool => (advanced pool).2).map (·.1)
  Map.mapValues (Map.ofKeys (pools cache) fun pool => (advanced pool).1) fun pool state =>
    if pool.1 ∈ pidsToSample then state.refresh now (residence pool.1) pool.2 else state

/-- What has been observed of a pool. -/
def observedBytesOf (observeMap : CompletedLandedObserveMap) (pool : Int × Int) : Nat :=
  ((observeMap.lookup pool).map (·.observedBytes)).getD 0

/-- Every pool has a valid observation. -/
def allObserved (cache : ManagedPidCache) (observeMap : CompletedLandedObserveMap) : Bool :=
  (pools cache).all fun pool => (observeMap.lookup pool).any (·.observedValid)

/-! ### Attribution -/

/-- What is missing, shared by what the sources declare. -/
def shares (slots : List BorrowSlot) (pool : Nat) : List (Int × Nat) :=
  ((slots.map (·.srcNumaId)).dedup.map fun src =>
    (src, pool * declaredFrom slots src / declaredOf slots)).filter fun share => share.2 > 0

/-- `DistributePerDestObservedUnlanded`, for one pool. -/
def observedUnlanded (slots : List BorrowSlot) (observedBytes : Nat) : List (Int × Nat) :=
  if declaredOf slots = 0 ∨ declaredOf slots ≤ observedBytes then []
  else
    let pool := declaredOf slots - observedBytes
    match latestSrc slots with
    | some src => if 0 ≤ src then [(src, pool)] else shares slots pool
    | none => shares slots pool

/-- `DistributePerDestUnlanded`: all processes together, for each remote numa. -/
def distributePerDestUnlanded (cache : ManagedPidCache) (usedKb : Int → Nat) : List (Int × Nat) :=
  ((completedSlots cache).map (·.2.remoteNumaId)).dedup.flatMap fun dest =>
    let slots := ((completedSlots cache).filter fun x => x.2.remoteNumaId = dest).map (·.2)
    let usedBytes := usedKb dest * 1024
    if declaredOf slots = 0 ∨ declaredOf slots ≤ usedBytes then []
    else shares slots (declaredOf slots - usedBytes)

/-- What the slots in flight with a known source hold. -/
def borrowingUnlanded (cache : ManagedPidCache) : List (Int × Nat) :=
  cache.entries.flatMap fun e =>
    (e.2.borrow.slots.filter fun s => s.status = .BORROWING ∧ 0 ≤ s.srcNumaId).map
      fun s => (s.srcNumaId, s.migratedBytes)

/-- The local numas from which a process is still migrating. -/
def migratingSrcNumas (cache : ManagedPidCache) (observeMap : CompletedLandedObserveMap)
    (pid : Int) : Option (List Int) :=
  let moving := (pools cache).filter fun pool =>
    pool.1 = pid ∧
      isGateConverged (declaredOf (poolSlots cache pool)) (observedBytesOf observeMap pool) = false
  if moving = [] then none
  else some (moving.flatMap fun pool =>
    match latestSrc (poolSlots cache pool) with
    | some src => if 0 ≤ src then [src] else (poolSlots cache pool).map (·.srcNumaId)
    | none => (poolSlots cache pool).map (·.srcNumaId))

structure PendingUnlanded where
  unlanded : Map Int Nat
  completedLandedObserve : CompletedLandedObserveMap
  migratingSrcNumas : Int → Option (List Int)

/-- `BuildPendingUnlandedPerSrc`. What is used on the remote numas may not be known. -/
def buildPendingUnlandedPerSrc (timeoutPer128MbMs now : Nat) (residence : Int → List (Nat × Nat))
    (usedKb : Option (Int → Nat)) (cache : ManagedPidCache)
    (completedLandedObserve : CompletedLandedObserveMap) : PendingUnlanded :=
  let observeMap := observePools timeoutPer128MbMs now residence cache completedLandedObserve
  if pools cache ≠ [] ∧ allObserved cache observeMap then
    { unlanded := tally (borrowingUnlanded cache ++ (pools cache).flatMap fun pool =>
        observedUnlanded (poolSlots cache pool) (observedBytesOf observeMap pool))
      completedLandedObserve := observeMap
      migratingSrcNumas := ProcessMem.migratingSrcNumas cache observeMap }
  else
    { unlanded := tally (borrowingUnlanded cache ++
        (usedKb.map (distributePerDestUnlanded cache)).getD [])
      completedLandedObserve := observeMap
      migratingSrcNumas := fun _ => none }

/-! ### What the result says -/

/-- What the slots of a status and a source hold. -/
def srcBytes (status : BorrowSlotStatus) (cache : ManagedPidCache) (src : Int) : Nat :=
  (cache.entries.map fun e => (e.2.borrow.slots.map fun s =>
    if s.status = status ∧ s.srcNumaId = src then s.migratedBytes else 0).sum).sum

/-- What the slots in flight with a known source hold. -/
def knownBorrowingBytes (cache : ManagedPidCache) : Nat :=
  (cache.entries.map fun e => (e.2.borrow.slots.map fun s =>
    if s.status = .BORROWING ∧ 0 ≤ s.srcNumaId then s.migratedBytes else 0).sum).sum

/-- **What is missing is attributed to the latest source of each pool.** -/
structure AttributedToLatest (cache : ManagedPidCache) (observed : Int × Int → Nat)
    (unlanded : Map Int Nat) : Prop where
  attributed : ∀ src, 0 ≤ src → (unlanded.lookup src).getD 0 =
    srcBytes .BORROWING cache src + ((pools cache).map fun pool =>
      if latestSrc (poolSlots cache pool) = some src then
        declaredOf (poolSlots cache pool) - observed pool
      else 0).sum
  /-- At most what its own slots hold, if in its pools what the other sources declare has been
  observed. -/
  within : ∀ src, 0 ≤ src →
    (∀ pool ∈ pools cache, latestSrc (poolSlots cache pool) = some src →
      declaredOf (poolSlots cache pool) ≤
        observed pool + declaredFrom (poolSlots cache pool) src) →
    (unlanded.lookup src).getD 0 ≤ srcBytes .BORROWING cache src + srcBytes .COMPLETED cache src
  total : Map.total (fun _ bytes => bytes) unlanded = knownBorrowingBytes cache +
    ((pools cache).map fun pool => declaredOf (poolSlots cache pool) - observed pool).sum

/-! ### Slots and pools -/

section Pools

variable {cache : ManagedPidCache}

/-- The contributions of slots that are picked. -/
theorem summed_map_filter_slots (slots : List BorrowSlot) (p : BorrowSlot → Prop)
    [DecidablePred p] (src : Int) :
    summed ((slots.filter fun s => p s).map fun s => (s.srcNumaId, s.migratedBytes)) src =
      (slots.map fun s => if p s ∧ s.srcNumaId = src then s.migratedBytes else 0).sum := by
  induction slots with
  | nil => rfl
  | cons s slots ih =>
    rw [List.filter_cons, List.map_cons, List.sum_cons, ← ih]
    by_cases hp : p s
    · rw [if_pos (decide_eq_true hp), List.map_cons, summed_cons]
      exact congrArg (· + _) (if_congr (and_iff_right hp).symm rfl rfl)
    · rw [if_neg (by simpa using hp), if_neg fun h => hp h.1, Nat.zero_add]

theorem summed_borrowingUnlanded {src : Int} (hsrc : 0 ≤ src) :
    summed (borrowingUnlanded cache) src = srcBytes .BORROWING cache src := by
  rw [borrowingUnlanded, summed_flatMap, srcBytes]
  refine congrArg List.sum (List.map_congr_left fun e _ => ?_)
  rw [summed_map_filter_slots _ fun s => s.status = .BORROWING ∧ 0 ≤ s.srcNumaId]
  refine congrArg List.sum (List.map_congr_left fun s _ => if_congr ?_ rfl rfl)
  exact ⟨fun h => ⟨h.1.1, h.2⟩, fun h => ⟨⟨h.1, h.2 ▸ hsrc⟩, h.2⟩⟩

theorem sum_borrowingUnlanded :
    ((borrowingUnlanded cache).map (·.2)).sum = knownBorrowingBytes cache := by
  rw [borrowingUnlanded, List.map_flatMap, List.flatMap, List.sum_flatten, List.map_map,
    knownBorrowingBytes]
  refine congrArg List.sum (List.map_congr_left fun e _ => ?_)
  rw [Function.comp_apply, List.map_map]
  induction e.2.borrow.slots with
  | nil => rfl
  | cons s slots ih =>
    rw [List.filter_cons, List.map_cons, List.sum_cons, ← ih]
    split
    next h =>
      rw [if_pos (of_decide_eq_true h), List.map_cons, List.sum_cons]
      rfl
    next h => rw [if_neg fun hs => h (decide_eq_true hs), Nat.zero_add]

theorem mem_completedSlots {x : Int × BorrowSlot} :
    x ∈ completedSlots cache ↔ ∃ e ∈ cache.entries, e.1 = x.1 ∧ x.2 ∈ e.2.borrow.slots ∧
      x.2.status = .COMPLETED ∧ 0 ≤ x.2.srcNumaId ∧ 0 ≤ x.2.remoteNumaId := by
  obtain ⟨pid, s⟩ := x
  rw [completedSlots, List.mem_flatMap]
  refine exists_congr fun e => and_congr_right fun _ => ?_
  rw [List.mem_map]
  constructor
  · rintro ⟨a, ha, hpair⟩
    obtain ⟨ha, hp⟩ := List.mem_filter.1 ha
    cases hpair
    exact ⟨rfl, ha, of_decide_eq_true hp⟩
  · rintro ⟨rfl, hs, hp⟩
    exact ⟨s, List.mem_filter.2 ⟨hs, decide_eq_true hp⟩, rfl⟩

theorem nodup_pools (cache : ManagedPidCache) : (pools cache).Nodup := List.nodup_dedup _

theorem poolOf_mem_pools {x : Int × BorrowSlot} (h : x ∈ completedSlots cache) :
    poolOf x ∈ pools cache :=
  List.mem_dedup.2 (List.mem_map_of_mem h)

/-- A pool has slots, with known sources. -/
theorem poolSlots_spec {pool : Int × Int} (h : pool ∈ pools cache) :
    poolSlots cache pool ≠ [] ∧ ∀ s ∈ poolSlots cache pool, 0 ≤ s.srcNumaId := by
  constructor
  · obtain ⟨x, hx, rfl⟩ := List.mem_map.1 (List.mem_dedup.1 h)
    exact List.ne_nil_of_mem (List.mem_map_of_mem (List.mem_filter.2 ⟨hx, decide_eq_true rfl⟩))
  · intro s hs
    obtain ⟨x, hx, rfl⟩ := List.mem_map.1 hs
    obtain ⟨_, _, _, _, _, hsrc, _⟩ := mem_completedSlots.1 (List.mem_filter.1 hx).1
    exact hsrc

/-- The pools of a source declare what its completed slots with a known place hold, and no more. -/
theorem sum_declaredFrom_le (src : Int) :
    ((pools cache).map fun pool => declaredFrom (poolSlots cache pool) src).sum ≤
      srcBytes .COMPLETED cache src := by
  have hpools := sum_map_filter_key (nodup_pools cache) poolOf
    (l := completedSlots cache) (fun x hx => poolOf_mem_pools hx)
    fun x => if x.2.srcNumaId = src then x.2.migratedBytes else 0
  have hfrom : ∀ pool, declaredFrom (poolSlots cache pool) src =
      (((completedSlots cache).filter fun x => poolOf x = pool).map fun x =>
        if x.2.srcNumaId = src then x.2.migratedBytes else 0).sum := by
    intro pool
    rw [declaredFrom, poolSlots, List.map_map]
    rfl
  rw [List.map_congr_left fun pool _ => hfrom pool, hpools, completedSlots, List.map_flatMap,
    List.flatMap, List.sum_flatten, List.map_map]
  refine List.sum_le_sum fun e _ => ?_
  rw [Function.comp_apply, List.map_map]
  induction e.2.borrow.slots with
  | nil => exact le_rfl
  | cons s slots ih =>
    rw [List.filter_cons, List.map_cons, List.sum_cons]
    split
    next h =>
      rw [List.map_cons, List.sum_cons]
      refine Nat.add_le_add (le_of_eq ?_) ih
      exact if_congr (and_iff_right (of_decide_eq_true h).1).symm rfl rfl
    next => exact ih.trans (Nat.le_add_left _ _)

end Pools

/-! ### The latest source -/

/-- One slot after the other: the latest source is that of a slot as soon as there is one. -/
theorem latestSrc_concat (slots : List BorrowSlot) (s : BorrowSlot) :
    latestSrc (slots ++ [s]) = some s.srcNumaId ∨
      latestSrc (slots ++ [s]) = latestSrc slots ∧ slots ≠ [] := by
  rw [latestSrc, List.foldl_append, List.foldl_cons, List.foldl_nil]
  split
  next => exact .inl rfl
  next h =>
    refine .inr ⟨rfl, ?_⟩
    rintro rfl
    exact h (Nat.zero_le _)

theorem latestSrc_eq_some {slots : List BorrowSlot} (h : slots ≠ []) :
    ∃ s ∈ slots, latestSrc slots = some s.srcNumaId := by
  induction slots using List.reverseRecOn with
  | nil => exact absurd rfl h
  | append_singleton slots s ih =>
    rcases latestSrc_concat slots s with hlast | ⟨hbefore, hne⟩
    · exact ⟨s, List.mem_append_right _ List.mem_cons_self, hlast⟩
    · obtain ⟨a, ha, heq⟩ := ih hne
      exact ⟨a, List.mem_append_left _ ha, hbefore.trans heq⟩

/-- **All that is missing of a pool goes to its latest source.** The shares are for pools without
one, and there are none. -/
theorem observedUnlanded_spec {slots : List BorrowSlot} (hne : slots ≠ [])
    (hsrc : ∀ s ∈ slots, 0 ≤ s.srcNumaId) (observedBytes : Nat) :
    ((observedUnlanded slots observedBytes).map (·.2)).sum = declaredOf slots - observedBytes ∧
      ∀ src, summed (observedUnlanded slots observedBytes) src =
        if latestSrc slots = some src then declaredOf slots - observedBytes else 0 := by
  obtain ⟨s, hs, hlatest⟩ := latestSrc_eq_some hne
  rw [observedUnlanded, hlatest]
  split
  next hlanded =>
    have hzero : declaredOf slots - observedBytes = 0 := by omega
    rw [hzero]
    exact ⟨rfl, fun src => (ite_self 0).symm⟩
  next =>
    dsimp only
    rw [if_pos (hsrc s hs)]
    refine ⟨List.sum_singleton, fun src => ?_⟩
    rw [summed_cons, summed_nil, Nat.add_zero]
    exact if_congr (Option.some_inj).symm rfl rfl

/-- What a source declares in a pool is part of what the pool declares. -/
theorem sub_le_declaredFrom {slots : List BorrowSlot} {observedBytes : Nat} {src : Int}
    (h : declaredOf slots ≤ observedBytes + declaredFrom slots src) :
    declaredOf slots - observedBytes ≤ declaredFrom slots src := by
  omega

/-- If every pool has been observed nothing is shared, also when there are no pools. -/
theorem unlanded_of_observed {cache : ManagedPidCache} {timeoutPer128MbMs now : Nat}
    {residence : Int → List (Nat × Nat)} {usedKb : Option (Int → Nat)}
    {completedLandedObserve : CompletedLandedObserveMap}
    (h : allObserved cache
      (observePools timeoutPer128MbMs now residence cache completedLandedObserve)) :
    (buildPendingUnlandedPerSrc timeoutPer128MbMs now residence usedKb cache
        completedLandedObserve).unlanded =
      tally (borrowingUnlanded cache ++ (pools cache).flatMap fun pool =>
        observedUnlanded (poolSlots cache pool) (observedBytesOf
          (observePools timeoutPer128MbMs now residence cache completedLandedObserve) pool)) := by
  rw [buildPendingUnlandedPerSrc]
  by_cases hpools : pools cache = []
  · have hslots : completedSlots cache = [] := by
      refine List.eq_nil_iff_forall_not_mem.2 fun x hx => ?_
      exact List.not_mem_nil (hpools ▸ poolOf_mem_pools hx)
    rw [if_neg fun h => h.1 hpools, hpools]
    cases usedKb with
    | none => rfl
    | some usedKb =>
      rw [Option.map_some, Option.getD_some, distributePerDestUnlanded, hslots]
      rfl
  · rw [if_pos ⟨hpools, h⟩]

/-- **What is pending, when every pool has been observed.** -/
theorem attributedToLatest_of_observed (cache : ManagedPidCache) (timeoutPer128MbMs now : Nat)
    (residence : Int → List (Nat × Nat)) (usedKb : Option (Int → Nat))
    (completedLandedObserve : CompletedLandedObserveMap)
    (h : allObserved cache
      (observePools timeoutPer128MbMs now residence cache completedLandedObserve)) :
    AttributedToLatest cache
      (observedBytesOf (observePools timeoutPer128MbMs now residence cache completedLandedObserve))
      (buildPendingUnlandedPerSrc timeoutPer128MbMs now residence usedKb cache
        completedLandedObserve).unlanded := by
  rw [unlanded_of_observed h]
  generalize observedBytesOf (observePools timeoutPer128MbMs now residence cache
    completedLandedObserve) = observed
  have hpool : ∀ pool ∈ pools cache, _ := fun pool hmem =>
    observedUnlanded_spec (poolSlots_spec hmem).1 (poolSlots_spec hmem).2 (observed pool)
  have hattributed : ∀ src, 0 ≤ src →
      ((tally (borrowingUnlanded cache ++ (pools cache).flatMap fun pool =>
        observedUnlanded (poolSlots cache pool) (observed pool))).lookup src).getD 0 =
      srcBytes .BORROWING cache src + ((pools cache).map fun pool =>
        if latestSrc (poolSlots cache pool) = some src then
          declaredOf (poolSlots cache pool) - observed pool
        else 0).sum := by
    intro src hsrc
    rw [lookup_tally, summed_append, summed_borrowingUnlanded hsrc, summed_flatMap]
    refine congrArg (fun l => srcBytes .BORROWING cache src + List.sum l)
      (List.map_congr_left fun pool hmem => ?_)
    exact (hpool pool hmem).2 src
  refine ⟨hattributed, fun src hsrc hlanded => ?_, ?_⟩
  · rw [hattributed src hsrc]
    refine Nat.add_le_add_left (le_trans ?_ (sum_declaredFrom_le src)) _
    refine List.sum_le_sum fun pool hmem => ?_
    split
    next hlatest => exact sub_le_declaredFrom (hlanded pool hmem hlatest)
    next => exact Nat.zero_le _
  · rw [total_tally, List.map_append, List.sum_append, sum_borrowingUnlanded, List.map_flatMap,
      List.flatMap, List.sum_flatten, List.map_map]
    refine congrArg (fun l => knownBorrowingBytes cache + List.sum l)
      (List.map_congr_left fun pool hmem => ?_)
    exact (hpool pool hmem).1

/-- A process with two sources on one remote numa, the second of which has just been added. -/
def twoSourcesCache : ManagedPidCache :=
  (∅ : ManagedPidCache).insert 7
    { borrow :=
        { slots := [
            { capacity := 2 ^ 27, migratedBytes := 2 ^ 27, debtId := "1-7-1-0", srcNumaId := 0,
              remoteNumaId := 4, borrowTime := 1000, status := .COMPLETED },
            { capacity := 2 ^ 27, migratedBytes := 2 ^ 20, debtId := "1-7-2-1", srcNumaId := 1,
              remoteNumaId := 4, borrowTime := 2000, status := .COMPLETED }] }
      processStatus := .BORROWED }

theorem attributedToLatest_twoSources :
    AttributedToLatest twoSourcesCache
      (observedBytesOf (observePools 10000 3000 (fun _ => [(0, 2 ^ 30), (4, 2 ^ 27)])
        twoSourcesCache ∅))
      (buildPendingUnlandedPerSrc 10000 3000 (fun _ => [(0, 2 ^ 30), (4, 2 ^ 27)]) none
        twoSourcesCache ∅).unlanded :=
  attributedToLatest_of_observed twoSourcesCache 10000 3000 _ none ∅ (by decide +kernel)

/-- What has not landed from numa 0 hides a shortage of numa 1. -/
theorem not_pending_le_own :
    ¬ ∀ (cache : ManagedPidCache) (timeoutPer128MbMs now : Nat)
      (residence : Int → List (Nat × Nat)) (usedKb : Option (Int → Nat))
      (completedLandedObserve : CompletedLandedObserveMap),
      allObserved cache
        (observePools timeoutPer128MbMs now residence cache completedLandedObserve) →
      ∀ src, 0 ≤ src →
        (((buildPendingUnlandedPerSrc timeoutPer128MbMs now residence usedKb cache
          completedLandedObserve).unlanded).lookup src).getD 0 ≤
            srcBytes .BORROWING cache src + srcBytes .COMPLETED cache src := by
  intro h
  have h := h twoSourcesCache 10000 3000 (fun _ => [(0, 2 ^ 30)]) none ∅ (by decide +kernel) 1
    (by decide)
  revert h
  decide +kernel

end ProcessMem

end UbsEngine
