import UbsEngine.FaultNode.Evacuate
import UbsEngine.Library.Nested
import Mathlib.Algebra.Order.BigOperators.Group.List
import Mathlib.Algebra.Order.Group.Nat
import Mathlib.Data.List.Sort

/-!
# Which nodes lend for the processes of a faulty node

When a node that lends memory fails, the master decides which other nodes lend in its place. What a
process had borrowed comes in chunks, one for each NUMA node that is lost. The processes are served
one after the other, the small ones first. A chunk is taken from the node with the most memory left
on the socket that it prefers, or, when nothing is left there, on the socket with the most left; if
that is not enough, the next such node is asked. Only whole blocks of a node are taken, and where no
block can be taken the chunk is given up, and the process with it.

So every process is either served in full, in whole blocks and within the capacities, or reported;
and it is reported only if too little was left for it, or it was given up over a block
(`UbsEngine.FaultNode.allocates`).
-/

namespace UbsEngine

namespace FaultNode

/-! ### Data -/

/-- What a process had on a NUMA node that is lost. -/
structure PidChunkInfo where
  sizeKB : Nat
  preferredSocketId : Nat
  faultNumaId : Nat
  deriving DecidableEq

/-- What a node can lend on a socket. Nothing is known of blocks of size 0. -/
structure SimplifiedSocketCapacity where
  nodeId : String
  canBorrowMem : Nat
  blockSizeKb : Nat

/-- A socket of a node lends for a NUMA node that is lost. -/
structure SimplifiedFaultPidAllocTarget where
  lendNodeId : String
  lendSocketId : Nat
  srcFaultNumaId : Nat
  lendSizeKB : Nat
  deriving DecidableEq

structure NodeSocketKey where
  socketId : Int
  nodeId : String
  deriving DecidableEq

structure NodeLedgerEntry where
  remainingCap : Nat
  blockSizeKb : Nat
  deriving DecidableEq

/-- `nodeRemaining`: what is left of every socket of every node. -/
abbrev NodeLedger := Map NodeSocketKey NodeLedgerEntry

/-- The orders of the hash maps. -/
structure AllocOrders where
  nodeRemaining : Map.Iteration NodeSocketKey NodeLedgerEntry := default
  socketTotal : Map.Iteration Int Nat := default

/-- The ledger before anything is taken. -/
def nodeRemaining (socketQueueBySocketId : Map Int (List SimplifiedSocketCapacity)) : NodeLedger :=
  socketQueueBySocketId.entries.foldl (fun ledger e =>
    e.2.foldl (fun ledger node =>
      ledger.insert ⟨e.1, node.nodeId⟩ ⟨node.canBorrowMem, node.blockSizeKb⟩) ledger) ∅

/-! ### The choice of a target -/

section Choice

variable (o : AllocOrders) (ledger : NodeLedger)

/-- Something is left on a socket. -/
def alive (socketId : Int) : Bool :=
  (o.nodeRemaining.run ledger).any fun e => e.1.socketId = socketId && 0 < e.2.remainingCap

/-- What is left on every socket, in 64 bits. -/
def socketTotal : Map Int Nat :=
  (Grouping.tally (((o.nodeRemaining.run ledger).filter fun e => 0 < e.2.remainingCap).map
    fun e => (e.1.socketId, e.2.remainingCap))).mapValues fun _ total => total % 2 ^ 64

/-- The first of the largest totals, and its socket. -/
def bestSocket (totals : List (Int × Nat)) : Int × Nat :=
  totals.foldl (fun best e => if best.2 < e.2 then e else best) (-1, 0)

/-- The preferred socket, or else the one with the most left. -/
def targetSocketId (chunk : PidChunkInfo) : Int :=
  if alive o ledger chunk.preferredSocketId then chunk.preferredSocketId
  else (bestSocket (o.socketTotal.run (socketTotal o ledger))).1

/-- A node takes the place of the best one so far: it has more, or as much and a smaller id. -/
def betterNode (best : String × Nat) (e : NodeSocketKey × NodeLedgerEntry) : String × Nat :=
  if best.2 < e.2.remainingCap ∨
      (e.2.remainingCap = best.2 ∧ (best.1 = "" ∨ e.1.nodeId < best.1)) then
    (e.1.nodeId, e.2.remainingCap)
  else best

def bestNode (socketId : Int) : String × Nat :=
  ((o.nodeRemaining.run ledger).filter fun e => e.1.socketId = socketId).foldl betterNode ("", 0)

/-- The socket and the node that a chunk is taken from. -/
def chooseTarget (chunk : PidChunkInfo) : Option NodeSocketKey :=
  let socketId := targetSocketId o ledger chunk
  if socketId < 0 then none
  else
    let best := bestNode o ledger socketId
    if best.1 = "" ∨ best.2 = 0 then none else some ⟨socketId, best.1⟩

end Choice

/-! ### Chunks and processes -/

/-- What is taken of a node: whole blocks. -/
def NodeLedgerEntry.take (entry : NodeLedgerEntry) (remaining : Nat) : Nat :=
  let take := min remaining entry.remainingCap
  if 0 < entry.blockSizeKb then take / entry.blockSizeKb * entry.blockSizeKb else take

/-- The ledger after something is taken. A node that is used up is removed. -/
def charge (ledger : NodeLedger) (key : NodeSocketKey) (entry : NodeLedgerEntry) (take : Nat) :
    NodeLedger :=
  if entry.remainingCap - take = 0 then ledger.erase key
  else ledger.insert key { entry with remainingCap := entry.remainingCap - take }

/-- The number of a socket in 16 bits. -/
def NodeSocketKey.lendSocketId (key : NodeSocketKey) : Nat := (key.socketId % 65536).toNat

def NodeSocketKey.target (key : NodeSocketKey) (chunk : PidChunkInfo) (take : Nat) :
    SimplifiedFaultPidAllocTarget :=
  ⟨key.nodeId, key.lendSocketId, chunk.faultNumaId, take⟩

section Allocation

variable (o : AllocOrders)

/-- The loop over the targets of a chunk: what is still missing at its end, the ledger, and the
targets. Every turn takes something, so that the size of the chunk bounds the number of turns. -/
def serveChunk (chunk : PidChunkInfo) :
    Nat → Nat → NodeLedger → Nat × NodeLedger × List SimplifiedFaultPidAllocTarget
  | 0, remaining, ledger => (remaining, ledger, [])
  | fuel + 1, remaining, ledger =>
    if remaining = 0 then (remaining, ledger, [])
    else
      -- an empty ledger has no target
      match chooseTarget o ledger chunk with
      | none => (remaining, ledger, [])
      | some key =>
        let entry := (ledger.lookup key).getD ⟨0, 0⟩
        let take := entry.take remaining
        if take = 0 then (remaining, ledger, [])
        else
          let rest := serveChunk chunk fuel (remaining - take) (charge ledger key entry take)
          (rest.1, rest.2.1, key.target chunk take :: rest.2.2)

/-- The loop over the chunks of a process: the ledger, and the targets if all of them are served.
What a process has taken is not given back when it is given up. -/
def serveChunks : List PidChunkInfo → NodeLedger →
    NodeLedger × Option (List SimplifiedFaultPidAllocTarget)
  | [], ledger => (ledger, some [])
  | chunk :: chunks, ledger =>
    let served := serveChunk o chunk chunk.sizeKB chunk.sizeKB ledger
    if 0 < served.1 then (served.2.1, none)
    else
      let rest := serveChunks chunks served.2.1
      (rest.1, rest.2.map (served.2.2 ++ ·))

structure Allocation where
  nodeRemaining : NodeLedger
  pidAllocMap : Map Pid (List SimplifiedFaultPidAllocTarget)
  unallocatedPids : List Pid

variable (pidChunks : Map Pid (List PidChunkInfo))

/-- The chunks of a process. -/
def chunksOf (pid : Pid) : List PidChunkInfo := (pidChunks.lookup pid).getD []

/-- The turn of a process. -/
def servePid (s : Allocation) (pid : Pid) : Allocation :=
  let served := serveChunks o (chunksOf pidChunks pid) s.nodeRemaining
  match served.2 with
  | some targets => ⟨served.1, s.pidAllocMap.insert pid targets, s.unallocatedPids⟩
  | none => ⟨served.1, s.pidAllocMap, s.unallocatedPids ++ [pid]⟩

def pidTotalSize (pid : Pid) : Nat :=
  ((chunksOf pidChunks pid).map (·.sizeKB)).sum % 2 ^ 64

/-- The processes, the small ones first. -/
def pidOrder : List Pid :=
  pidChunks.keys.insertionSort fun a b =>
    pidTotalSize pidChunks a < pidTotalSize pidChunks b ∨
      (pidTotalSize pidChunks a = pidTotalSize pidChunks b ∧ a ≤ b)

/-- **The allocation**: `AllocatePidsToSockets`. -/
def allocatePidsToSockets (socketQueueBySocketId : Map Int (List SimplifiedSocketCapacity)) :
    Allocation :=
  (pidOrder pidChunks).foldl (servePid o pidChunks) ⟨nodeRemaining socketQueueBySocketId, ∅, []⟩

end Allocation

/-! ### What is chosen -/

/-- A search that keeps the better of what it has and what it meets ends with the best. -/
theorem foldl_best {α β : Type*} (better : β → α → β) (val : α → β) (rank : β → Nat)
    (hbetter : ∀ b a, (better b a = b ∨ better b a = val a) ∧ rank b ≤ rank (better b a) ∧
      rank (val a) ≤ rank (better b a)) (l : List α) (b : β) :
    (l.foldl better b = b ∨ ∃ a ∈ l, l.foldl better b = val a) ∧ rank b ≤ rank (l.foldl better b) ∧
      ∀ a ∈ l, rank (val a) ≤ rank (l.foldl better b) := by
  induction l generalizing b with
  | nil => exact ⟨.inl rfl, Nat.le_refl _, by simp⟩
  | cons a l ih =>
    obtain ⟨hor, hle, hval⟩ := hbetter b a
    obtain ⟨hfold, hrank, hall⟩ := ih (better b a)
    rw [List.foldl_cons]
    refine ⟨?_, hle.trans hrank, List.forall_mem_cons.2 ⟨hval.trans hrank, hall⟩⟩
    rcases hfold with hfold | ⟨a', ha', hfold⟩
    · rcases hor with hor | hor
      · exact .inl (hfold.trans hor)
      · exact .inr ⟨a, List.mem_cons_self, hfold.trans hor⟩
    · exact .inr ⟨a', List.mem_cons_of_mem a ha', hfold⟩

section Chosen

variable {o : AllocOrders} {ledger : NodeLedger} {chunk : PidChunkInfo}

theorem betterNode_spec (best : String × Nat) (e : NodeSocketKey × NodeLedgerEntry) :
    (betterNode best e = best ∨ betterNode best e = (e.1.nodeId, e.2.remainingCap)) ∧
      best.2 ≤ (betterNode best e).2 ∧ e.2.remainingCap ≤ (betterNode best e).2 := by
  rw [betterNode]
  split
  next h =>
    refine ⟨.inr rfl, ?_, Nat.le_refl _⟩
    dsimp only
    omega
  next h =>
    refine ⟨.inl rfl, Nat.le_refl _, ?_⟩
    omega

/-- The best node of a socket has the most, and unless nothing is left it is one of the nodes. -/
theorem bestNode_spec (o : AllocOrders) (ledger : NodeLedger) (socketId : Int) :
    (0 < (bestNode o ledger socketId).2 → ∃ entry,
      ledger.lookup ⟨socketId, (bestNode o ledger socketId).1⟩ = some entry ∧
        entry.remainingCap = (bestNode o ledger socketId).2) ∧
      ∀ key entry, ledger.lookup key = some entry → key.socketId = socketId →
        entry.remainingCap ≤ (bestNode o ledger socketId).2 := by
  obtain ⟨hor, -, hle⟩ := foldl_best betterNode (fun e => (e.1.nodeId, e.2.remainingCap))
    Prod.snd betterNode_spec
    ((o.nodeRemaining.run ledger).filter fun e => e.1.socketId = socketId) ("", 0)
  rw [← bestNode] at hor hle
  refine ⟨fun hpos => ?_, fun key entry hentry hsocket => ?_⟩
  · rcases hor with hnone | ⟨⟨key, entry⟩, hmem, hbest⟩
    · rw [hnone] at hpos
      exact absurd hpos (Nat.lt_irrefl 0)
    · obtain ⟨hmem, hsocket⟩ := List.mem_filter.1 hmem
      have hkey : key = ⟨socketId, (bestNode o ledger socketId).1⟩ := by
        rw [hbest, ← of_decide_eq_true hsocket]
      refine ⟨entry, ?_, by rw [hbest]⟩
      rw [← hkey]
      exact o.nodeRemaining.mem_run.1 hmem
  · refine hle (key, entry) (List.mem_filter.2 ⟨o.nodeRemaining.mem_run.2 hentry, ?_⟩)
    exact decide_eq_true hsocket

/-- **A target has something left.** -/
theorem lookup_of_chooseTarget {key : NodeSocketKey} (h : chooseTarget o ledger chunk = some key) :
    ∃ entry, ledger.lookup key = some entry ∧ 0 < entry.remainingCap := by
  rw [chooseTarget] at h
  dsimp only at h
  split at h
  · cases h
  split at h
  · cases h
  next hbest =>
    obtain rfl := Option.some.inj h
    have hpos := Nat.pos_of_ne_zero (not_or.1 hbest).2
    obtain ⟨entry, hentry, hcap⟩ := (bestNode_spec o ledger (targetSocketId o ledger chunk)).1 hpos
    exact ⟨entry, hentry, hcap ▸ hpos⟩

theorem alive_iff {socketId : Int} : alive o ledger socketId ↔
    ∃ key entry, ledger.lookup key = some entry ∧ key.socketId = socketId ∧
      0 < entry.remainingCap := by
  rw [alive, List.any_eq_true]
  constructor
  · rintro ⟨⟨key, entry⟩, hmem, h⟩
    rw [Bool.and_eq_true, decide_eq_true_eq, decide_eq_true_eq] at h
    exact ⟨key, entry, o.nodeRemaining.mem_run.1 hmem, h⟩
  · rintro ⟨key, entry, hentry, hsocket, hcap⟩
    refine ⟨(key, entry), o.nodeRemaining.mem_run.2 hentry, ?_⟩
    rw [Bool.and_eq_true, decide_eq_true_eq, decide_eq_true_eq]
    exact ⟨hsocket, hcap⟩

/-- What is left in a part of the ledger. -/
def leftOf (p : NodeSocketKey → Prop) [DecidablePred p] (ledger : NodeLedger) : Nat :=
  Map.total (fun key entry => if p key then entry.remainingCap else 0) ledger

/-- **A ledger as it should be**: nodes have names, sockets have numbers from 0 on, and what is left
on a socket is a number of 64 bits. -/
structure ProperLedger (ledger : NodeLedger) : Prop where
  named : ∀ key entry, ledger.lookup key = some entry → key.nodeId ≠ ""
  numbered : ∀ key entry, ledger.lookup key = some entry → 0 ≤ key.socketId
  fits : ∀ socketId, leftOf (fun key => key.socketId = socketId) ledger < 2 ^ 64

/-- The contributions to the totals of the sockets. -/
def contributions (o : AllocOrders) (ledger : NodeLedger) : List (Int × Nat) :=
  ((o.nodeRemaining.run ledger).filter fun e => 0 < e.2.remainingCap).map
    fun e => (e.1.socketId, e.2.remainingCap)

theorem mem_contributions {x : Int × Nat} : x ∈ contributions o ledger ↔
    ∃ key entry, ledger.lookup key = some entry ∧ 0 < entry.remainingCap ∧
      x = (key.socketId, entry.remainingCap) := by
  rw [contributions, List.mem_map]
  constructor
  · rintro ⟨⟨key, entry⟩, hmem, rfl⟩
    obtain ⟨hmem, hpos⟩ := List.mem_filter.1 hmem
    exact ⟨key, entry, o.nodeRemaining.mem_run.1 hmem, of_decide_eq_true hpos, rfl⟩
  · rintro ⟨key, entry, hentry, hpos, rfl⟩
    exact ⟨(key, entry), List.mem_filter.2 ⟨o.nodeRemaining.mem_run.2 hentry, decide_eq_true hpos⟩,
      rfl⟩

theorem summed_contributions_le (socketId : Int) :
    Grouping.summed (contributions o ledger) socketId ≤
      leftOf (fun key => key.socketId = socketId) ledger := by
  have hperm : leftOf (fun key => key.socketId = socketId) ledger =
      ((o.nodeRemaining.run ledger).map fun e =>
        if e.1.socketId = socketId then e.2.remainingCap else 0).sum := by
    rw [leftOf, Map.total, ((o.nodeRemaining.perm ledger).map _).sum_eq, List.map_map]
    rfl
  rw [hperm, contributions, Grouping.summed, List.map_map]
  exact (List.filter_sublist.map _).sum_le_sum fun _ _ => Nat.zero_le _

/-- The totals of a proper ledger do not go round. -/
theorem lookup_socketTotal (h : ProperLedger ledger) (socketId : Int) :
    (socketTotal o ledger).lookup socketId =
      if alive o ledger socketId then some (Grouping.summed (contributions o ledger) socketId)
      else none := by
  have htally : socketTotal o ledger =
      (Grouping.tally (contributions o ledger)).mapValues fun _ total => total % 2 ^ 64 := rfl
  have hsome := Grouping.isSome_lookup_tally (contributions o ledger) socketId
  have hsum := Grouping.lookup_tally (contributions o ledger) socketId
  have hmem : socketId ∈ (contributions o ledger).map (·.1) ↔ alive o ledger socketId := by
    rw [alive_iff, List.mem_map]
    constructor
    · rintro ⟨x, hx, rfl⟩
      obtain ⟨key, entry, hentry, hpos, rfl⟩ := mem_contributions.1 hx
      exact ⟨key, entry, hentry, rfl, hpos⟩
    · rintro ⟨key, entry, hentry, rfl, hpos⟩
      exact ⟨_, mem_contributions.2 ⟨key, entry, hentry, hpos, rfl⟩, rfl⟩
  rw [htally, Map.lookup_mapValues]
  rcases hlookup : (Grouping.tally (contributions o ledger)).lookup socketId with _ | total
  · rw [hlookup, hmem] at hsome
    rw [if_neg (by simpa using hsome)]
    rfl
  · rw [hlookup, hmem] at hsome
    rw [hlookup, Option.getD_some] at hsum
    have hlt : total < 2 ^ 64 := by
      rw [hsum]
      exact (summed_contributions_le socketId).trans_lt (h.fits socketId)
    rw [if_pos (hsome.1 rfl), ← hsum]
    exact congrArg some (Nat.mod_eq_of_lt hlt)

/-- The socket is alive if any is. -/
theorem alive_targetSocketId (h : ProperLedger ledger) (chunk : PidChunkInfo) {socketId : Int}
    (halive : alive o ledger socketId) : alive o ledger (targetSocketId o ledger chunk) := by
  rw [targetSocketId]
  split
  next hpreferred => exact hpreferred
  obtain ⟨hor, -, hle⟩ := foldl_best (fun best e : Int × Nat => if best.2 < e.2 then e else best)
    id Prod.snd (fun best e => by dsimp only [id]; split <;> simp <;> omega)
    (o.socketTotal.run (socketTotal o ledger)) (-1, 0)
  rw [← bestSocket] at hor hle
  -- the total of a socket that is alive is positive
  obtain ⟨key, entry, hentry, rfl, hpos⟩ := alive_iff.1 halive
  have hmem : (key.socketId, Grouping.summed (contributions o ledger) key.socketId) ∈
      o.socketTotal.run (socketTotal o ledger) := by
    rw [o.socketTotal.mem_run, lookup_socketTotal h, if_pos halive]
  have hsum := Grouping.le_summed (mem_contributions (o := o).2 ⟨key, entry, hentry, hpos, rfl⟩)
  have hbest := hle _ hmem
  rcases hor with hnone | ⟨best, hbestMem, heq⟩
  · rw [hnone] at hbest
    exact absurd (hsum.trans hbest) (Nat.not_le_of_lt hpos)
  · obtain ⟨socketId, total⟩ := best
    rw [o.socketTotal.mem_run, lookup_socketTotal h] at hbestMem
    rw [heq]
    change alive o ledger socketId = true
    by_contra hdead
    rw [if_neg hdead] at hbestMem
    cases hbestMem

/-- **Without a target nothing is left.** -/
theorem eq_zero_of_chooseTarget (h : ProperLedger ledger)
    (hnone : chooseTarget o ledger chunk = none) {key : NodeSocketKey} {entry : NodeLedgerEntry}
    (hentry : ledger.lookup key = some entry) : entry.remainingCap = 0 := by
  by_contra hne
  have halive : alive o ledger key.socketId :=
    alive_iff.2 ⟨key, entry, hentry, rfl, Nat.pos_of_ne_zero hne⟩
  obtain ⟨key', entry', hentry', hsocket, hpos⟩ :=
    alive_iff.1 (alive_targetSocketId h chunk halive)
  obtain ⟨hsome, hle⟩ := bestNode_spec o ledger (targetSocketId o ledger chunk)
  have hbest := hpos.trans_le (hle key' entry' hentry' hsocket)
  obtain ⟨best, hlookup, -⟩ := hsome hbest
  rw [chooseTarget] at hnone
  dsimp only at hnone
  rw [if_neg (Int.not_lt.2 (hsocket ▸ h.numbered key' entry' hentry')),
    if_neg (not_or.2 ⟨h.named _ _ hlookup, hbest.ne'⟩)] at hnone
  cases hnone

end Chosen

/-! ### What is taken -/

section Taken

/-- Whole blocks are taken. -/
theorem take_spec (entry : NodeLedgerEntry) (remaining : Nat) :
    entry.take remaining ≤ remaining ∧ entry.take remaining ≤ entry.remainingCap ∧
      (entry.blockSizeKb ≠ 0 → entry.blockSizeKb ∣ entry.take remaining) ∧
      (entry.take remaining = 0 → 0 < remaining → 0 < entry.remainingCap →
        min remaining entry.remainingCap < entry.blockSizeKb) := by
  rw [NodeLedgerEntry.take]
  split
  next hblock =>
    have hfloor := Nat.div_mul_le_self (min remaining entry.remainingCap) entry.blockSizeKb
    refine ⟨by omega, by omega, fun _ => Nat.dvd_mul_left _ _, fun hzero _ _ => ?_⟩
    rcases Nat.mul_eq_zero.1 hzero with hdiv | hdiv
    · exact (Nat.div_eq_zero_iff.1 hdiv).resolve_left hblock.ne'
    · omega
  next hblock => exact ⟨by omega, by omega, fun h => by omega, fun _ _ _ => by omega⟩

/-- **A charge**: what is taken is missing in every part of the ledger with the key, and nothing
else is. -/
theorem leftOf_charge (p : NodeSocketKey → Prop) [DecidablePred p] {ledger : NodeLedger}
    {key : NodeSocketKey} {entry : NodeLedgerEntry} (hentry : ledger.lookup key = some entry)
    {take : Nat} (hle : take ≤ entry.remainingCap) :
    leftOf p (charge ledger key entry take) + (if p key then take else 0) = leftOf p ledger := by
  have herase := Map.total_erase (fun key entry => if p key then entry.remainingCap else 0) hentry
  rw [leftOf, leftOf, charge]
  split
  next hzero =>
    rw [← herase]
    split <;> omega
  next =>
    rw [Map.total_insert, ← herase]
    dsimp only
    split <;> omega

/-- What remains of a ledger: the blocks are the same, and nothing becomes more. -/
def Remains (ledger' ledger : NodeLedger) : Prop :=
  ∀ key entry', ledger'.lookup key = some entry' → ∃ entry, ledger.lookup key = some entry ∧
    entry'.blockSizeKb = entry.blockSizeKb ∧ entry'.remainingCap ≤ entry.remainingCap

theorem Remains.refl (ledger : NodeLedger) : Remains ledger ledger :=
  fun _ entry h => ⟨entry, h, rfl, Nat.le_refl _⟩

theorem Remains.trans {a b c : NodeLedger} (hab : Remains a b) (hbc : Remains b c) :
    Remains a c := by
  intro key entry h
  obtain ⟨entry', h', hblock, hle⟩ := hab key entry h
  obtain ⟨entry'', h'', hblock', hle'⟩ := hbc key entry' h'
  exact ⟨entry'', h'', hblock.trans hblock', hle.trans hle'⟩

theorem remains_charge {ledger : NodeLedger} {key : NodeSocketKey} {entry : NodeLedgerEntry}
    (hentry : ledger.lookup key = some entry) (take : Nat) :
    Remains (charge ledger key entry take) ledger := by
  intro key' entry' h
  rw [charge] at h
  split at h
  · rw [Map.lookup_erase_ite] at h
    split at h
    · cases h
    · exact ⟨entry', h, rfl, Nat.le_refl _⟩
  · rw [Map.lookup_insert_ite] at h
    split at h
    next hkey =>
      obtain rfl := Option.some.inj h
      exact ⟨entry, hkey ▸ hentry, rfl, Nat.sub_le _ _⟩
    next => exact ⟨entry', h, rfl, Nat.le_refl _⟩

/-- A ledger stays proper. -/
theorem ProperLedger.of_remains {ledger ledger' : NodeLedger} (h : ProperLedger ledger)
    (hremains : Remains ledger' ledger)
    (hle : ∀ socketId, leftOf (fun key => key.socketId = socketId) ledger' ≤
      leftOf (fun key => key.socketId = socketId) ledger) : ProperLedger ledger' where
  named key entry hentry := by
    obtain ⟨entry', hentry', -⟩ := hremains key entry hentry
    exact h.named key entry' hentry'
  numbered key entry hentry := by
    obtain ⟨entry', hentry', -⟩ := hremains key entry hentry
    exact h.numbered key entry' hentry'
  fits socketId := (hle socketId).trans_lt (h.fits socketId)

end Taken

/-! ### A chunk -/

/-- A node and the number of a socket as targets have it. -/
def NodeSocketKey.lender (key : NodeSocketKey) : String × Nat := (key.nodeId, key.lendSocketId)

def SimplifiedFaultPidAllocTarget.lender (target : SimplifiedFaultPidAllocTarget) : String × Nat :=
  (target.lendNodeId, target.lendSocketId)

/-- What targets take from some of the lenders. -/
def takenFrom (q : String × Nat → Prop) [DecidablePred q]
    (targets : List SimplifiedFaultPidAllocTarget) : Nat :=
  (targets.map fun target => if q target.lender then target.lendSizeKB else 0).sum

/-- Something is taken, in whole blocks of a node of the ledger. -/
def Whole (ledger : NodeLedger) (target : SimplifiedFaultPidAllocTarget) : Prop :=
  0 < target.lendSizeKB ∧ ∃ key entry, ledger.lookup key = some entry ∧
    key.lender = target.lender ∧
      (entry.blockSizeKb ≠ 0 → entry.blockSizeKb ∣ target.lendSizeKB)

theorem Whole.of_remains {ledger ledger' : NodeLedger} {target : SimplifiedFaultPidAllocTarget}
    (h : Whole ledger' target) (hremains : Remains ledger' ledger) : Whole ledger target := by
  obtain ⟨hpos, key, entry', hentry', hlender, hdvd⟩ := h
  obtain ⟨entry, hentry, hblock, -⟩ := hremains key entry' hentry'
  refine ⟨hpos, key, entry, hentry, hlender, ?_⟩
  rwa [hblock] at hdvd

section Serve

variable (o : AllocOrders)

/-- The node that is chosen has less than a block for what is missing. -/
def BelowBlock (ledger : NodeLedger) (chunk : PidChunkInfo) (remaining : Nat) : Prop :=
  ∃ key entry, chooseTarget o ledger chunk = some key ∧ ledger.lookup key = some entry ∧
    min remaining entry.remainingCap < entry.blockSizeKb

/-- **A chunk that is served**, or given up with something missing. -/
structure Served (chunk : PidChunkInfo) (remaining : Nat) (ledger : NodeLedger)
    (r : Nat × NodeLedger × List SimplifiedFaultPidAllocTarget) : Prop where
  sizes : (r.2.2.map (·.lendSizeKB)).sum + r.1 = remaining
  taken : ∀ (q : String × Nat → Prop) [DecidablePred q],
    takenFrom q r.2.2 + leftOf (fun key => q key.lender) r.2.1 =
      leftOf (fun key => q key.lender) ledger
  less : ∀ (p : NodeSocketKey → Prop) [DecidablePred p], leftOf p r.2.1 ≤ leftOf p ledger
  remains : Remains r.2.1 ledger
  targets : ∀ target ∈ r.2.2, target.srcFaultNumaId = chunk.faultNumaId ∧ Whole ledger target
  stopped : r.1 = 0 ∨ chooseTarget o r.2.1 chunk = none ∨ BelowBlock o r.2.1 chunk r.1

variable {o} {chunk : PidChunkInfo}

/-- Nothing is taken. -/
theorem served_nothing {remaining : Nat} {ledger : NodeLedger}
    (h : remaining = 0 ∨ chooseTarget o ledger chunk = none ∨ BelowBlock o ledger chunk remaining) :
    Served o chunk remaining ledger (remaining, ledger, []) where
  sizes := Nat.zero_add _
  taken _ _ := Nat.zero_add _
  less _ _ := Nat.le_refl _
  remains := .refl ledger
  targets := by simp
  stopped := h

variable (o chunk) in
theorem served_serveChunk {fuel remaining : Nat} (hfuel : remaining ≤ fuel) (ledger : NodeLedger) :
    Served o chunk remaining ledger (serveChunk o chunk fuel remaining ledger) := by
  induction fuel generalizing remaining ledger with
  | zero => exact served_nothing (.inl (Nat.le_zero.1 hfuel))
  | succ fuel ih =>
    rw [serveChunk]
    split
    next hzero => exact served_nothing (.inl hzero)
    next hpos =>
      rcases hchoose : chooseTarget o ledger chunk with _ | key
      · exact served_nothing (.inr (.inl hchoose))
      obtain ⟨entry, hentry, hcap⟩ := lookup_of_chooseTarget hchoose
      dsimp only
      rw [hentry, Option.getD_some]
      obtain ⟨hle, hleCap, hdvd, hbelow⟩ := take_spec entry remaining
      split
      next hzero =>
        exact served_nothing (.inr (.inr ⟨key, entry, hchoose, hentry,
          hbelow hzero (Nat.pos_of_ne_zero hpos) hcap⟩))
      next htake =>
        have hremains := remains_charge hentry (entry.take remaining)
        have hfuel' : remaining - entry.take remaining ≤ fuel := by omega
        have hrest := ih hfuel' (charge ledger key entry (entry.take remaining))
        generalize serveChunk o chunk fuel (remaining - entry.take remaining)
          (charge ledger key entry (entry.take remaining)) = rest at hrest
        refine ⟨?_, fun q _ => ?_, fun p _ => ?_, hrest.remains.trans hremains, ?_, hrest.stopped⟩
        · have hsizes := hrest.sizes
          rw [List.map_cons, List.sum_cons]
          change entry.take remaining + _ + _ = _
          omega
        · have hcharge := leftOf_charge (fun key => q key.lender) hentry hleCap
          rw [← hcharge, ← hrest.taken q, takenFrom, List.map_cons, List.sum_cons]
          change (if q key.lender then entry.take remaining else 0) + takenFrom q rest.2.2 +
            leftOf (fun key => q key.lender) rest.2.1 = _
          omega
        · exact (hrest.less p).trans (Nat.le.intro (leftOf_charge p hentry hleCap))
        · refine List.forall_mem_cons.2 ⟨⟨rfl, Nat.pos_of_ne_zero htake, key, entry, hentry, rfl,
            hdvd⟩, fun target htarget => ?_⟩
          obtain ⟨hnuma, hwhole⟩ := hrest.targets target htarget
          exact ⟨hnuma, hwhole.of_remains hremains⟩

/-! ### A process -/

/-- What the targets of a process are for: so much for each NUMA node that is lost. -/
def targetSizes (targets : List SimplifiedFaultPidAllocTarget) : List (Nat × Nat) :=
  targets.map fun target => (target.srcFaultNumaId, target.lendSizeKB)

def chunkSizes (chunks : List PidChunkInfo) : List (Nat × Nat) :=
  chunks.map fun chunk => (chunk.faultNumaId, chunk.sizeKB)

/-- The sizes of some chunks together. -/
def chunksTotal (chunks : List PidChunkInfo) : Nat := (chunks.map (·.sizeKB)).sum

variable (o) in
/-- A chunk is given up over a block: when the chunks before it are served, and as much of it as
there are whole blocks for, the next node has less than a block for what is missing. -/
def GivenUp (ledger : NodeLedger) (chunks : List PidChunkInfo) : Prop :=
  ∃ before chunk after, chunks = before ++ chunk :: after ∧
    (serveChunks o before ledger).2.isSome ∧
    0 < (serveChunk o chunk chunk.sizeKB chunk.sizeKB (serveChunks o before ledger).1).1 ∧
    BelowBlock o (serveChunk o chunk chunk.sizeKB chunk.sizeKB (serveChunks o before ledger).1).2.1
      chunk (serveChunk o chunk chunk.sizeKB chunk.sizeKB (serveChunks o before ledger).1).1

/-- Too little is left for some chunks, or they are given up. -/
def Lacking (o : AllocOrders) (ledger : NodeLedger) (chunks : List PidChunkInfo) : Prop :=
  leftOf (fun _ => True) ledger < chunksTotal chunks ∨ GivenUp o ledger chunks

/-- Every NUMA node of the chunks is served, in whole blocks. -/
structure ServedAll (chunks : List PidChunkInfo) (ledger : NodeLedger)
    (targets : List SimplifiedFaultPidAllocTarget) : Prop where
  sizes : ∀ numaId, Grouping.summed (targetSizes targets) numaId =
    Grouping.summed (chunkSizes chunks) numaId
  whole : ∀ target ∈ targets, Whole ledger target

/-- The targets of a chunk are all for its NUMA node. -/
theorem Served.summed {remaining : Nat} {ledger : NodeLedger}
    {r : Nat × NodeLedger × List SimplifiedFaultPidAllocTarget}
    (h : Served o chunk remaining ledger r) (hserved : r.1 = 0) (numaId : Nat) :
    Grouping.summed (targetSizes r.2.2) numaId =
      if chunk.faultNumaId = numaId then remaining else 0 := by
  have hsizes := h.sizes
  rw [hserved, Nat.add_zero] at hsizes
  rw [← hsizes, Grouping.summed, targetSizes, List.map_map]
  have hnuma : ∀ target ∈ r.2.2, target.srcFaultNumaId = chunk.faultNumaId :=
    fun target htarget => (h.targets target htarget).1
  generalize r.2.2 = targets at hnuma ⊢
  induction targets with
  | nil => simp
  | cons target targets ih =>
    obtain ⟨htarget, htargets⟩ := List.forall_mem_cons.1 hnuma
    rw [List.map_cons, List.sum_cons, ih htargets, List.map_cons, List.sum_cons]
    dsimp only [Function.comp_apply]
    rw [htarget]
    split <;> rfl

theorem takenFrom_append (q : String × Nat → Prop) [DecidablePred q]
    (targets targets' : List SimplifiedFaultPidAllocTarget) :
    takenFrom q (targets ++ targets') = takenFrom q targets + takenFrom q targets' := by
  rw [takenFrom, List.map_append, List.sum_append]
  rfl

theorem takenFrom_true (targets : List SimplifiedFaultPidAllocTarget) :
    takenFrom (fun _ => True) targets = (targets.map (·.lendSizeKB)).sum := by
  simp only [takenFrom, if_true]

/-- The first chunk is served, and the others follow. -/
theorem serveChunks_cons {chunks : List PidChunkInfo} {ledger : NodeLedger}
    (h : (serveChunk o chunk chunk.sizeKB chunk.sizeKB ledger).1 = 0) :
    serveChunks o (chunk :: chunks) ledger =
      ((serveChunks o chunks (serveChunk o chunk chunk.sizeKB chunk.sizeKB ledger).2.1).1,
        (serveChunks o chunks (serveChunk o chunk chunk.sizeKB chunk.sizeKB ledger).2.1).2.map
          ((serveChunk o chunk chunk.sizeKB chunk.sizeKB ledger).2.2 ++ ·)) := by
  rw [serveChunks, h]
  rfl

/-- A chunk for which nothing is left gets all there was. -/
theorem Served.lt_of_chooseTarget {remaining : Nat} {ledger : NodeLedger}
    {r : Nat × NodeLedger × List SimplifiedFaultPidAllocTarget}
    (h : Served o chunk remaining ledger r) (hproper : ProperLedger ledger)
    (hnone : chooseTarget o r.2.1 chunk = none) (hmissing : 0 < r.1) :
    leftOf (fun _ => True) ledger < remaining := by
  have hproper' := hproper.of_remains h.remains fun socketId => h.less _
  have hleft : leftOf (fun _ => True) r.2.1 = 0 := by
    rw [leftOf, Map.total_eq_zero_iff]
    intro key entry hentry
    rw [eq_zero_of_chooseTarget hproper' hnone hentry, ite_self]
  have htaken := h.taken fun _ => True
  rw [hleft, takenFrom_true, Nat.add_zero] at htaken
  rw [← htaken, ← h.sizes]
  omega

/-- What the turn of a process does to the ledger. -/
structure Turn (chunks : List PidChunkInfo) (ledger : NodeLedger)
    (r : NodeLedger × Option (List SimplifiedFaultPidAllocTarget)) : Prop where
  less : ∀ (p : NodeSocketKey → Prop) [DecidablePred p], leftOf p r.1 ≤ leftOf p ledger
  remains : Remains r.1 ledger
  taken : ∀ targets, r.2 = some targets → ∀ (q : String × Nat → Prop) [DecidablePred q],
    takenFrom q targets + leftOf (fun key => q key.lender) r.1 =
      leftOf (fun key => q key.lender) ledger
  served : ∀ targets, r.2 = some targets → ServedAll chunks ledger targets

theorem turn_serveChunks (chunks : List PidChunkInfo) (ledger : NodeLedger) :
    Turn chunks ledger (serveChunks o chunks ledger) := by
  induction chunks generalizing ledger with
  | nil =>
    refine ⟨fun p _ => Nat.le_refl _, .refl ledger, ?_, ?_⟩
    · rintro targets h q _
      obtain rfl := Option.some.inj h
      exact Nat.zero_add _
    · rintro targets h
      obtain rfl := Option.some.inj h
      exact ⟨fun _ => rfl, by simp⟩
  | cons chunk chunks ih =>
    have hserved := served_serveChunk o chunk (Nat.le_refl chunk.sizeKB) ledger
    rcases Nat.eq_zero_or_pos (serveChunk o chunk chunk.sizeKB chunk.sizeKB ledger).1
      with hzero | hpos
    · rw [serveChunks_cons hzero]
      generalize serveChunk o chunk chunk.sizeKB chunk.sizeKB ledger = first at hserved hzero ⊢
      have hrest := ih first.2.1
      generalize serveChunks o chunks first.2.1 = rest at hrest ⊢
      refine ⟨fun p _ => (hrest.less p).trans (hserved.less p),
        hrest.remains.trans hserved.remains, ?_, ?_⟩
      · rintro targets h q _
        obtain ⟨others, hothers, rfl⟩ := Option.map_eq_some_iff.1 h
        have htaken := hrest.taken others hothers q
        rw [takenFrom_append, ← hserved.taken q, ← htaken]
        exact Nat.add_assoc ..
      · rintro targets h
        obtain ⟨others, hothers, rfl⟩ := Option.map_eq_some_iff.1 h
        obtain ⟨hsizes, hwhole⟩ := hrest.served others hothers
        refine ⟨fun numaId => ?_, fun target htarget => ?_⟩
        · rw [targetSizes, List.map_append, Grouping.summed_append]
          change Grouping.summed (targetSizes first.2.2) numaId +
            Grouping.summed (targetSizes others) numaId = _
          have hcons : chunkSizes (chunk :: chunks) =
              (chunk.faultNumaId, chunk.sizeKB) :: chunkSizes chunks := rfl
          rw [hserved.summed hzero, hsizes, hcons, Grouping.summed_cons]
        · rcases List.mem_append.1 htarget with hmem | hmem
          · exact (hserved.targets target hmem).2
          · exact (hwhole target hmem).of_remains hserved.remains
    · rw [serveChunks, if_pos hpos]
      exact ⟨fun p _ => hserved.less p, hserved.remains, by simp, by simp⟩

/-- **A process that is not served** has too little left for it, or is given up. -/
theorem lacking_of_serveChunks (chunks : List PidChunkInfo) (ledger : NodeLedger)
    (hproper : ProperLedger ledger) (h : (serveChunks o chunks ledger).2 = none) :
    Lacking o ledger chunks := by
  induction chunks generalizing ledger with
  | nil => cases h
  | cons chunk chunks ih =>
    have hserved := served_serveChunk o chunk (Nat.le_refl chunk.sizeKB) ledger
    have htotal : chunksTotal (chunk :: chunks) = chunk.sizeKB + chunksTotal chunks := rfl
    rcases Nat.eq_zero_or_pos (serveChunk o chunk chunk.sizeKB chunk.sizeKB ledger).1
      with hzero | hpos
    · rw [serveChunks_cons hzero] at h
      have hproper' := hproper.of_remains hserved.remains fun socketId => hserved.less _
      rcases ih _ hproper' (Option.map_eq_none_iff.1 h) with hless | hgiven
      · -- the first chunk takes its size
        have htaken := hserved.taken fun _ => True
        have hsizes := hserved.sizes
        rw [takenFrom_true] at htaken
        left
        omega
      · obtain ⟨before, chunk', after, rfl, hsome, hmissing, hbelow⟩ := hgiven
        refine .inr ⟨chunk :: before, chunk', after, rfl, ?_⟩
        rw [serveChunks_cons hzero]
        exact ⟨by rwa [Option.isSome_map], hmissing, hbelow⟩
    · rcases hserved.stopped with hzero | hnone | hbelow
      · omega
      · have hlt := hserved.lt_of_chooseTarget hproper hnone hpos
        left
        omega
      · exact .inr ⟨[], chunk, chunks, rfl, rfl, hpos, hbelow⟩

end Serve

/-! ### All processes -/

section Run

variable (o : AllocOrders) (pidChunks : Map Pid (List PidChunkInfo))

/-- The allocation when some processes have had their turns. -/
def allocation (ledger : NodeLedger) (pids : List Pid) : Allocation :=
  pids.foldl (servePid o pidChunks) ⟨ledger, ∅, []⟩

theorem allocation_concat (ledger : NodeLedger) (pids : List Pid) (pid : Pid) :
    allocation o pidChunks ledger (pids ++ [pid]) =
      servePid o pidChunks (allocation o pidChunks ledger pids) pid :=
  List.foldl_concat ..

/-- **The turns of some processes.** Each of them is either served or reported, those that are
served get their sizes in whole blocks, and together what the lenders have. A process is reported if
there is too little for it at its turn. -/
structure Allocates (ledger : NodeLedger) (pids : List Pid) (r : Allocation) : Prop where
  settled : ∀ pid, pid ∈ pids ↔ (r.pidAllocMap.lookup pid).isSome ∨ pid ∈ r.unallocatedPids
  once : ∀ pid, (r.pidAllocMap.lookup pid).isSome → pid ∉ r.unallocatedPids
  served : ∀ pid targets, r.pidAllocMap.lookup pid = some targets →
    ServedAll (chunksOf pidChunks pid) ledger targets
  within : ∀ (q : String × Nat → Prop) [DecidablePred q],
    Map.total (fun _ targets => takenFrom q targets) r.pidAllocMap +
      leftOf (fun key => q key.lender) r.nodeRemaining ≤ leftOf (fun key => q key.lender) ledger
  less : ∀ (p : NodeSocketKey → Prop) [DecidablePred p], leftOf p r.nodeRemaining ≤ leftOf p ledger
  remains : Remains r.nodeRemaining ledger
  lacking : ProperLedger ledger → ∀ pid ∈ r.unallocatedPids,
    ∃ before after, pids = before ++ pid :: after ∧
      Lacking o (allocation o pidChunks ledger before).nodeRemaining (chunksOf pidChunks pid)

variable {o pidChunks}

/-- The turn of one more process. -/
theorem Allocates.step {ledger : NodeLedger} {pids : List Pid} {pid : Pid}
    (h : Allocates o pidChunks ledger pids (allocation o pidChunks ledger pids))
    (hnew : pid ∉ pids) :
    Allocates o pidChunks ledger (pids ++ [pid])
      (servePid o pidChunks (allocation o pidChunks ledger pids) pid) := by
  have hlacking := lacking_of_serveChunks (o := o) (chunksOf pidChunks pid)
    (allocation o pidChunks ledger pids).nodeRemaining
  have hearlier : ∀ pid' before after, pids = before ++ pid' :: after →
      pids ++ [pid] = before ++ pid' :: (after ++ [pid]) := by
    rintro pid' before after rfl
    rw [List.append_assoc, List.cons_append]
  have hsettled := h.settled
  obtain ⟨-, honce, hserved, hwithin, hless, hremains, hunallocated⟩ := h
  -- a new process is neither served nor reported yet
  obtain ⟨hnotServed, hnotReported⟩ := not_or.1 (mt (hsettled pid).2 hnew)
  rw [servePid]
  have hturn := turn_serveChunks (o := o) (chunksOf pidChunks pid)
    (allocation o pidChunks ledger pids).nodeRemaining
  generalize hserve : serveChunks o (chunksOf pidChunks pid)
    (allocation o pidChunks ledger pids).nodeRemaining = turn at hturn hlacking ⊢
  generalize hs : allocation o pidChunks ledger pids = s at *
  obtain ⟨ledger', result⟩ := turn
  rcases result with _ | targets
  · refine ⟨fun pid' => ?_, fun pid' hsome hmem => ?_, hserved, fun q _ => ?_,
      fun p _ => (hturn.less p).trans (hless p), hturn.remains.trans hremains, ?_⟩
    · rw [List.mem_append, List.mem_append, hsettled pid', or_assoc]
    · rcases List.mem_append.1 hmem with hmem | hmem
      · exact honce pid' hsome hmem
      · exact hnotServed (List.mem_singleton.1 hmem ▸ hsome)
    · exact (Nat.add_le_add_left (hturn.less _) _).trans (hwithin q)
    · rintro hproper pid' hmem
      rcases List.mem_append.1 hmem with hmem | hmem
      · obtain ⟨before, after, hsplit, hlack⟩ := hunallocated hproper pid' hmem
        exact ⟨before, after ++ [pid], hearlier pid' before after hsplit, hlack⟩
      · obtain rfl := List.mem_singleton.1 hmem
        refine ⟨pids, [], rfl, ?_⟩
        rw [hs]
        exact hlacking (hproper.of_remains hremains fun socketId => hless _) rfl
  · have hpid : s.pidAllocMap.lookup pid = none := Option.not_isSome_iff_eq_none.1 hnotServed
    refine ⟨fun pid' => ?_, fun pid' hsome => ?_, fun pid' targets' htargets => ?_, fun q _ => ?_,
      fun p _ => (hturn.less p).trans (hless p), hturn.remains.trans hremains, ?_⟩
    · rw [List.mem_append, hsettled pid', List.mem_singleton]
      change _ ↔ ((s.pidAllocMap.insert pid targets).lookup pid').isSome ∨ _
      rw [Map.lookup_insert_ite]
      split
      next heq => simp [heq]
      next hne => simp [hne]
    · change ((s.pidAllocMap.insert pid targets).lookup pid').isSome at hsome
      rw [Map.lookup_insert_ite] at hsome
      split at hsome
      next heq => exact heq ▸ hnotReported
      next => exact honce pid' hsome
    · change (s.pidAllocMap.insert pid targets).lookup pid' = some targets' at htargets
      rw [Map.lookup_insert_ite] at htargets
      split at htargets
      next heq =>
        obtain rfl := Option.some.inj htargets
        obtain ⟨hsizes, hwhole⟩ := hturn.served targets rfl
        refine ⟨heq ▸ hsizes, fun target htarget => ?_⟩
        exact (hwhole target htarget).of_remains hremains
      next => exact hserved pid' targets' htargets
    · have htaken := hturn.taken targets rfl q
      have hbefore := hwithin q
      change Map.total _ (s.pidAllocMap.insert pid targets) +
        leftOf (fun key => q key.lender) ledger' ≤ _
      rw [Map.total_insert_of_none _ _ hpid]
      dsimp only at htaken ⊢
      omega
    · rintro hproper pid' hmem
      obtain ⟨before, after, hsplit, hlack⟩ := hunallocated hproper pid' hmem
      exact ⟨before, after ++ [pid], hearlier pid' before after hsplit, hlack⟩

/-- **The turns of any processes**, one after the other. -/
theorem allocates_allocation (ledger : NodeLedger) {pids : List Pid} (hnodup : pids.Nodup) :
    Allocates o pidChunks ledger pids (allocation o pidChunks ledger pids) := by
  induction pids using List.reverseRecOn with
  | nil =>
    refine ⟨fun pid => ?_, fun pid _ => List.not_mem_nil, ?_, fun q _ => ?_,
      fun p _ => Nat.le_refl _, .refl ledger, fun _ pid hmem => absurd hmem List.not_mem_nil⟩
    · simp [allocation]
    · rintro pid targets h
      cases h
    · exact Nat.le_of_eq (Nat.zero_add _)
  | append_singleton pids pid ih =>
    obtain ⟨hpids, -, hdisjoint⟩ := List.nodup_append.1 hnodup
    rw [allocation_concat]
    exact (ih hpids).step fun hmem => hdisjoint pid hmem pid (List.mem_singleton_self pid) rfl

variable (o pidChunks)

theorem mem_pidOrder {pid : Pid} : pid ∈ pidOrder pidChunks ↔ pid ∈ pidChunks := by
  rw [pidOrder, (List.perm_insertionSort _ _).mem_iff]
  rfl

/-- **The allocation.** Every process is either served or reported. The targets of a process that is
served sum to its chunks for each NUMA node, each in whole blocks of its node, and together the
targets take at most what each lender has. A process is reported only if, at its turn, less is left
than it needs, or the node with the most on the socket has less than a block for what is missing. -/
theorem allocates (socketQueueBySocketId : Map Int (List SimplifiedSocketCapacity)) :
    (∀ pid, pid ∈ pidOrder pidChunks ↔ pid ∈ pidChunks) ∧
      Allocates o pidChunks (nodeRemaining socketQueueBySocketId) (pidOrder pidChunks)
        (allocatePidsToSockets o pidChunks socketQueueBySocketId) := by
  refine ⟨fun pid => mem_pidOrder pidChunks, allocates_allocation _ ?_⟩
  exact (List.perm_insertionSort _ _).nodup_iff.2 pidChunks.nodupKeys

end Run

/-! ### Blocks of other nodes -/

/-- Chunks are covered by parts of nodes, each in whole blocks, beside what is taken already. -/
structure Covers (ledger : NodeLedger) (taken : String × Nat → Nat) (chunks : List PidChunkInfo)
    (parts : List (Nat × NodeSocketKey × Nat)) : Prop where
  sizes : ∀ numaId, Grouping.summed (parts.map fun part => (part.1, part.2.2)) numaId =
    Grouping.summed (chunkSizes chunks) numaId
  whole : ∀ part ∈ parts, ∃ entry, ledger.lookup part.2.1 = some entry ∧
    (entry.blockSizeKb ≠ 0 → entry.blockSizeKb ∣ part.2.2)
  within : ∀ key entry, ledger.lookup key = some entry →
    Grouping.summed (parts.map (·.2)) key + taken key.lender ≤ entry.remainingCap

/-- The node with the most on the socket has too large blocks for the chunk. -/
def largeBlocks : Map Int (List SimplifiedSocketCapacity) :=
  (∅ : Map Int (List SimplifiedSocketCapacity)).insert 0 [⟨"1", 1280, 128⟩, ⟨"2", 64, 32⟩]

def smallChunk : Map Pid (List PidChunkInfo) :=
  (∅ : Map Pid (List PidChunkInfo)).insert 1 [⟨64, 0, 4⟩]

/-- **A process is reported although it could be served.** -/
theorem reported_smallChunk :
    ¬ ∀ (o : AllocOrders) (pidChunks : Map Pid (List PidChunkInfo))
      (socketQueueBySocketId : Map Int (List SimplifiedSocketCapacity)),
      ∀ pid ∈ (allocatePidsToSockets o pidChunks socketQueueBySocketId).unallocatedPids,
        ¬ ∃ parts, Covers (nodeRemaining socketQueueBySocketId)
          (fun lender => Map.total (fun _ targets => takenFrom (· = lender) targets)
            (allocatePidsToSockets o pidChunks socketQueueBySocketId).pidAllocMap)
          (chunksOf pidChunks pid) parts := by
  intro h
  have hreported : 1 ∈ (allocatePidsToSockets {} smallChunk largeBlocks).unallocatedPids := by
    decide +kernel
  refine h {} smallChunk largeBlocks 1 hreported ⟨[(4, ⟨0, "2"⟩, 64)], ?_, ?_, ?_⟩
  · intro numaId
    rfl
  · intro part hpart
    obtain rfl := List.mem_singleton.1 hpart
    exact ⟨⟨64, 32⟩, rfl, fun _ => ⟨2, rfl⟩⟩
  · intro key entry hentry
    have hempty : (allocatePidsToSockets {} smallChunk largeBlocks).pidAllocMap = ∅ := by rfl
    have hledger : nodeRemaining largeBlocks =
        ((∅ : NodeLedger).insert ⟨0, "1"⟩ ⟨1280, 128⟩).insert ⟨0, "2"⟩ ⟨64, 32⟩ := by rfl
    rw [hledger, Map.lookup_insert_ite, Map.lookup_insert_ite] at hentry
    rw [hempty, Map.total_empty]
    split at hentry
    next hkey =>
      obtain rfl := Option.some.inj hentry
      subst hkey
      decide
    next hother =>
      rw [List.map_singleton, Grouping.summed_cons, if_neg fun heq => hother (Eq.symm heq)]
      exact Nat.zero_le _

end FaultNode

end UbsEngine
