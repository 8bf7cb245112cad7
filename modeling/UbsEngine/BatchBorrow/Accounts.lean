import UbsEngine.BatchBorrow.Strategy
import UbsEngine.Library.Laminar

/-!
# What has been taken from the candidates

All that a call has taken so far is in its results and in the one under way. What is taken from a
candidate, a socket or a node stays within the limit of it, and a candidate that is no longer kept
cannot give another block (`UbsEngine.BatchBorrow.Accounts`): taking from one candidate keeps this,
and so do the two passes.
-/

namespace UbsEngine

namespace BatchBorrow

open Grouping

/-! ### The candidates that are kept -/

section Pool

variable (totals : Map String Nat) (candidate : RemoteNumaCandidate)

theorem insertCandidate_perm (l : List RemoteNumaCandidate) :
    (insertCandidate totals candidate l).Perm (candidate :: l) := by
  induction l with
  | nil => exact .refl _
  | cons other others ih =>
    rw [insertCandidate]
    split
    next => exact .refl _
    next => exact (ih.cons other).trans (.swap ..)

end Pool

namespace BatchBorrowContext

variable {ctx : BatchBorrowContext} {planeIndex : Int} {candidate best : RemoteNumaCandidate}
  {rest : List RemoteNumaCandidate}

/-- The candidates of all planes. -/
def pool (ctx : BatchBorrowContext) : List RemoteNumaCandidate := Map.flat ctx.candidatesByPlane

theorem pool_perm (ctx : BatchBorrowContext) (planeIndex : Int) : ctx.pool.Perm
    (ctx.candidateSet planeIndex ++ Map.flat (ctx.candidatesByPlane.erase planeIndex)) :=
  Map.flat_perm ..

theorem pool_insert (ctx : BatchBorrowContext) (planeIndex : Int)
    (candidate : RemoteNumaCandidate) :
    (ctx.insert planeIndex candidate).pool.Perm (candidate :: ctx.pool) := by
  have hflat : (ctx.insert planeIndex candidate).pool =
      insertCandidate ctx.nodeTotalMemMap candidate (ctx.candidateSet planeIndex) ++
        Map.flat (ctx.candidatesByPlane.erase planeIndex) := Map.flat_insert ..
  rw [hflat]
  exact ((insertCandidate_perm ..).append_right _).trans ((pool_perm ctx planeIndex).symm.cons _)

/-- The candidates without the first one of a plane. -/
theorem pool_removeHead (h : ctx.candidateSet planeIndex = best :: rest) :
    ctx.pool.Perm (best :: pool { ctx with
      candidatesByPlane := ctx.candidatesByPlane.insert planeIndex rest }) := by
  have hperm := pool_perm ctx planeIndex
  rw [h] at hperm
  refine hperm.trans ?_
  rw [pool, Map.flat_insert]
  exact .refl _

theorem pool_eq_nil (h : ∀ planeIndex, ctx.candidateSet planeIndex = []) : ctx.pool = [] :=
  Map.flat_eq_nil h

theorem candidateSet_insert_of_ne {other : Int} (h : other ≠ planeIndex) :
    (ctx.insert planeIndex candidate).candidateSet other = ctx.candidateSet other := by
  rw [candidateSet, insert]
  dsimp only
  rw [AList.lookup_insert_ne h, candidateSet]

/-! ### The candidate with the highest priority on the other planes -/

/-- What the loop over the planes has found: nothing on the planes so far, or the first one of
some other plane. -/
def Found (ctx : BatchBorrowContext) (planes : List Int) :
    Option (Int × RemoteNumaCandidate × List RemoteNumaCandidate) → Prop
  | none => ∀ planeIdx ∈ planes, planeIdx ≠ ctx.planeIndex → ctx.candidateSet planeIdx = []
  | some (planeIdx, best, rest) =>
    planeIdx ≠ ctx.planeIndex ∧ ctx.candidateSet planeIdx = best :: rest

theorem found_bestHead (ctx : BatchBorrowContext) : ctx.Found ctx.planes ctx.bestHead := by
  unfold bestHead
  generalize ctx.planes = planes
  induction planes using List.reverseRecOn with
  | nil => exact fun _ h => absurd h List.not_mem_nil
  | append_singleton planes planeIdx ih =>
    rw [List.foldl_concat]
    generalize List.foldl _ none planes = found at ih ⊢
    split
    next heq =>
      cases found with
      | none =>
        intro other hother hne
        rcases List.mem_append.1 hother with hother | hother
        · exact ih other hother hne
        · exact absurd ((List.mem_singleton.1 hother).trans heq) hne
      | some found => exact ih
    next hne =>
      cases hset : ctx.candidateSet planeIdx with
      | nil =>
        cases found with
        | none =>
          intro other hother hother'
          rcases List.mem_append.1 hother with hother | hother
          · exact ih other hother hother'
          · rw [List.mem_singleton.1 hother]
            exact hset
        | some found => exact ih
      | cons head tail =>
        cases found with
        | none => exact ⟨hne, hset⟩
        | some found =>
          dsimp only
          split
          next => exact ⟨hne, hset⟩
          next => exact ih

theorem mem_planes {planeIdx : Int} :
    planeIdx ∈ ctx.planes ↔ planeIdx ∈ ctx.candidatesByPlane.keys :=
  (List.perm_insertionSort _ _).mem_iff

/-- Nothing is found just when the other planes have no candidates. -/
theorem candidateSet_of_bestHead_none (h : ctx.bestHead = none) {planeIdx : Int}
    (hne : planeIdx ≠ ctx.planeIndex) : ctx.candidateSet planeIdx = [] := by
  have hfound := found_bestHead ctx
  rw [h] at hfound
  by_cases hkey : planeIdx ∈ ctx.candidatesByPlane.keys
  · exact hfound planeIdx (mem_planes.2 hkey) hne
  · rw [candidateSet, AList.lookup_eq_none.2 hkey]
    rfl

end BatchBorrowContext

/-! ### How much a candidate gives -/

section Allocate

/-- A candidate gives whole blocks, and no more than is asked of it and is left of it, its node and
its socket. -/
theorem tryAllocate_le (candidate : RemoteNumaCandidate)
    (remaining block nodeBorrowed socketBorrowed : Nat) :
    let n := BatchBorrowContext.tryAllocateFromCandidate candidate remaining block nodeBorrowed
      socketBorrowed
    block ∣ n ∧ n ≤ remaining ∧ n ≤ candidate.availableMem ∧
      n ≤ MAX_BORROW_PER_NODE_KB - nodeBorrowed ∧
      n ≤ MAX_BORROW_PER_SOCKET_KB - socketBorrowed := by
  dsimp only
  unfold BatchBorrowContext.tryAllocateFromCandidate
  split
  next => simp
  next =>
    split
    next => simp
    next =>
      dsimp only
      split
      next => simp
      next =>
        generalize hlimit : min (MAX_BORROW_PER_NODE_KB - nodeBorrowed)
          (MAX_BORROW_PER_SOCKET_KB - socketBorrowed) = limit
        generalize hraw : min (min remaining candidate.availableMem) limit = raw
        have hround : raw / block * block ≤ raw := Nat.div_mul_le_self ..
        -- The two last limits hold already of what is rounded down.
        have hsame : min (min (raw / block * block) candidate.availableMem) limit =
            raw / block * block := by omega
        rw [hsame]
        exact ⟨Nat.dvd_mul_left .., by omega, by omega, by omega, by omega⟩

/-- A candidate that gives nothing has less than a block, or its node or its socket has. -/
theorem tryAllocate_eq_zero (candidate : RemoteNumaCandidate) (nodeBorrowed socketBorrowed : Nat)
    {remaining block : Nat} (hblock : 0 < block) (hremaining : block ≤ remaining)
    (h : BatchBorrowContext.tryAllocateFromCandidate candidate remaining block nodeBorrowed
      socketBorrowed = 0) :
    candidate.availableMem < block ∨ MAX_BORROW_PER_SOCKET_KB < socketBorrowed + block ∨
      MAX_BORROW_PER_NODE_KB < nodeBorrowed + block := by
  unfold BatchBorrowContext.tryAllocateFromCandidate at h
  split at h
  next => omega
  next =>
    split at h
    next => omega
    next =>
      dsimp only at h
      rw [if_neg (by omega)] at h
      generalize hlimit : min (MAX_BORROW_PER_NODE_KB - nodeBorrowed)
        (MAX_BORROW_PER_SOCKET_KB - socketBorrowed) = limit at h
      generalize hraw : min (min remaining candidate.availableMem) limit = raw at h
      have hround : raw / block * block ≤ raw := Nat.div_mul_le_self ..
      have hzero : raw / block * block = 0 := by omega
      have hdiv : raw / block = 0 := by
        rcases Nat.mul_eq_zero.1 hzero with hdiv | hdiv
        · exact hdiv
        · omega
      have hlt : raw < block := (Nat.div_eq_zero_iff_lt hblock).1 hdiv
      omega

end Allocate

/-! ### What has been taken -/

def RemoteNumaCandidate.numa (candidate : RemoteNumaCandidate) : String × Nat :=
  (candidate.nodeId, candidate.numaId)

def RemoteNumaCandidate.socket (candidate : RemoteNumaCandidate) : String × Nat :=
  (candidate.nodeId, candidate.socketId)

def DestMemoryBorrowParam.numa (destParam : DestMemoryBorrowParam) : String × Nat :=
  (destParam.destNid, destParam.destNumaId)

def DestMemoryBorrowParam.socket (destParam : DestMemoryBorrowParam) : String × Nat :=
  (destParam.destNid, destParam.destSocketId)

section Taken

variable {κ : Type*} [DecidableEq κ] (key : DestMemoryBorrowParam → κ)

/-- What has been taken under a key. -/
def takenUnder (l : List DestMemoryBorrowParam) (k : κ) : Nat :=
  summed (l.map fun d => (key d, d.memSize)) k

@[simp] theorem takenUnder_nil (k : κ) : takenUnder key [] k = 0 := rfl

theorem takenUnder_concat (l : List DestMemoryBorrowParam) (d : DestMemoryBorrowParam) (k : κ) :
    takenUnder key (l ++ [d]) k = takenUnder key l k + if key d = k then d.memSize else 0 := by
  rw [takenUnder, List.map_append, summed_append, List.map_singleton, summed_cons, summed_nil,
    Nat.add_zero, takenUnder]

theorem takenUnder_le_concat (l : List DestMemoryBorrowParam) (d : DestMemoryBorrowParam) (k : κ) :
    takenUnder key l k ≤ takenUnder key (l ++ [d]) k := by
  rw [takenUnder_concat]
  exact Nat.le_add_right ..

end Taken

/-- All sizes. -/
def allTaken (l : List DestMemoryBorrowParam) : Nat := (l.map (·.memSize)).sum

theorem allTaken_append (l m : List DestMemoryBorrowParam) :
    allTaken (l ++ m) = allTaken l + allTaken m := by
  rw [allTaken, List.map_append, List.sum_append, allTaken, allTaken]

/-- What the call has taken so far. -/
def BatchBorrowContext.log (ctx : BatchBorrowContext) : List DestMemoryBorrowParam :=
  ctx.results.flatMap (·.destParam) ++ ctx.destParams

/-- A candidate cannot give another block. -/
def Spent (ctx : BatchBorrowContext) (candidate : RemoteNumaCandidate) : Prop :=
  candidate.availableMem <
      takenUnder DestMemoryBorrowParam.numa ctx.log candidate.numa + ctx.blockSizeKB ∨
    MAX_BORROW_PER_SOCKET_KB <
      takenUnder DestMemoryBorrowParam.socket ctx.log candidate.socket + ctx.blockSizeKB ∨
    MAX_BORROW_PER_NODE_KB <
      takenUnder DestMemoryBorrowParam.destNid ctx.log candidate.nodeId + ctx.blockSizeKB

/-- What is kept is a candidate less what has been taken of it. -/
structure Kept (ctx : BatchBorrowContext) (original kept : RemoteNumaCandidate) : Prop where
  numa : kept.numa = original.numa
  socket : kept.socket = original.socket
  availableMem : kept.availableMem +
    takenUnder DestMemoryBorrowParam.numa ctx.log kept.numa = original.availableMem

/-- **The accounts of a call**: the quotas are those of what has been taken, all limits are kept,
and every candidate is kept or spent. -/
structure Accounts (originals : List RemoteNumaCandidate) (ctx : BatchBorrowContext) : Prop where
  node : ∀ nodeId, (ctx.nodeBorrowedMap.lookup nodeId).getD 0 =
    takenUnder DestMemoryBorrowParam.destNid ctx.log nodeId
  socket : ∀ key, (ctx.socketBorrowedMap.lookup key).getD 0 =
    takenUnder DestMemoryBorrowParam.socket ctx.log key
  nodeLimit : ∀ nodeId,
    takenUnder DestMemoryBorrowParam.destNid ctx.log nodeId ≤ MAX_BORROW_PER_NODE_KB
  socketLimit : ∀ key,
    takenUnder DestMemoryBorrowParam.socket ctx.log key ≤ MAX_BORROW_PER_SOCKET_KB
  blocks : ∀ d ∈ ctx.log, ctx.blockSizeKB ∣ d.memSize
  source : ∀ d ∈ ctx.log, ∃ c ∈ originals, d.numa = c.numa ∧ d.socket = c.socket
  within : ∀ c ∈ originals,
    takenUnder DestMemoryBorrowParam.numa ctx.log c.numa ≤ c.availableMem
  nodup : (ctx.pool.map RemoteNumaCandidate.numa).Nodup
  kept : ∀ c ∈ ctx.pool, ∃ c₀ ∈ originals, Kept ctx c₀ c
  spent : ∀ c ∈ originals, (∃ c' ∈ ctx.pool, c'.numa = c.numa) ∨ Spent ctx c

section Step

variable {originals : List RemoteNumaCandidate} {ctx ctx' : BatchBorrowContext}
  {best : RemoteNumaCandidate} {others : List RemoteNumaCandidate}

/-- Candidates are told apart by their NUMA nodes. -/
theorem eq_of_numa_eq {l : List RemoteNumaCandidate}
    (hnodup : (l.map RemoteNumaCandidate.numa).Nodup) {c c' : RemoteNumaCandidate} (hc : c ∈ l)
    (hc' : c' ∈ l) (h : c.numa = c'.numa) : c = c' :=
  List.inj_on_of_nodup_map hnodup hc hc' h

/-- A candidate that cannot give another block is left out. -/
theorem Accounts.drop (h : Accounts originals ctx)
    (hnodup : (originals.map RemoteNumaCandidate.numa).Nodup) {planeIndex : Int}
    (hpool : ctx.pool.Perm (best :: BatchBorrowContext.pool { ctx with
      candidatesByPlane := ctx.candidatesByPlane.insert planeIndex others }))
    (hspent : ∀ c₀ ∈ originals, Kept ctx c₀ best → Spent ctx c₀) :
    Accounts originals { ctx with
      candidatesByPlane := ctx.candidatesByPlane.insert planeIndex others } := by
  have hmem : ∀ c ∈ BatchBorrowContext.pool { ctx with
      candidatesByPlane := ctx.candidatesByPlane.insert planeIndex others }, c ∈ ctx.pool :=
    fun c hc => hpool.mem_iff.2 (List.mem_cons_of_mem _ hc)
  refine
    { node := h.node
      socket := h.socket
      nodeLimit := h.nodeLimit
      socketLimit := h.socketLimit
      blocks := h.blocks
      source := h.source
      within := h.within
      nodup := ?_
      kept := fun c hc => ?_
      spent := fun c hc => ?_ }
  · have hperm := (hpool.map RemoteNumaCandidate.numa).nodup_iff.1 h.nodup
    rw [List.map_cons, List.nodup_cons] at hperm
    exact hperm.2
  · obtain ⟨c₀, hc₀, hkept⟩ := h.kept c (hmem c hc)
    exact ⟨c₀, hc₀, hkept.numa, hkept.socket, hkept.availableMem⟩
  · rcases h.spent c hc with ⟨c', hc', hnuma⟩ | hspent'
    · rcases List.mem_cons.1 (hpool.mem_iff.1 hc') with rfl | hc'
      · -- The candidate itself: it is what is kept of the original.
        obtain ⟨c₀, hc₀, hkept⟩ := h.kept c' (hpool.mem_iff.2 List.mem_cons_self)
        rw [eq_of_numa_eq hnodup hc hc₀ (hnuma.symm.trans hkept.numa)]
        exact .inr (hspent c₀ hc₀ hkept)
      · exact .inl ⟨c', hc', hnuma⟩
    · exact .inr hspent'

/-- What a candidate gives. -/
def given (candidate : RemoteNumaCandidate) (size : Nat) : DestMemoryBorrowParam :=
  ⟨candidate.nodeId, candidate.socketId, candidate.numaId, size⟩

/-- A candidate gives some blocks, and is kept with what it has left, or has nothing left. -/
theorem Accounts.take (h : Accounts originals ctx)
    (hnodup : (originals.map RemoteNumaCandidate.numa).Nodup) (hblock : 0 < ctx.blockSizeKB)
    (hpool : ctx.pool.Perm (best :: others)) {n : Nat} (hdvd : ctx.blockSizeKB ∣ n)
    (hn : n ≤ best.availableMem)
    (hnode : n ≤ MAX_BORROW_PER_NODE_KB -
      takenUnder DestMemoryBorrowParam.destNid ctx.log best.nodeId)
    (hsocket : n ≤ MAX_BORROW_PER_SOCKET_KB -
      takenUnder DestMemoryBorrowParam.socket ctx.log best.socket)
    (hlog : ctx'.log = ctx.log ++ [given best n]) (hsize : ctx'.blockSizeKB = ctx.blockSizeKB)
    (hnodeMap : ctx'.nodeBorrowedMap = addTo ctx.nodeBorrowedMap best.nodeId n)
    (hsocketMap : ctx'.socketBorrowedMap = addTo ctx.socketBorrowedMap best.socket n)
    (hpool' : best.availableMem = n ∧ ctx'.pool.Perm others ∨
      ctx'.pool.Perm ({ best with availableMem := best.availableMem - n } :: others)) :
    Accounts originals ctx' := by
  obtain ⟨c₀, hc₀, hkept₀⟩ := h.kept best (hpool.mem_iff.2 List.mem_cons_self)
  have hnumas := (hpool.map RemoteNumaCandidate.numa).nodup_iff.1 h.nodup
  rw [List.map_cons, List.nodup_cons] at hnumas
  have hgiven : takenUnder DestMemoryBorrowParam.numa ctx'.log best.numa =
      takenUnder DestMemoryBorrowParam.numa ctx.log best.numa + n := by
    rw [hlog, takenUnder_concat, if_pos (show (given best n).numa = best.numa from rfl)]
    rfl
  have hother : ∀ k, k ≠ best.numa → takenUnder DestMemoryBorrowParam.numa ctx'.log k =
      takenUnder DestMemoryBorrowParam.numa ctx.log k := by
    intro k hk
    rw [hlog, takenUnder_concat, if_neg (show (given best n).numa ≠ k from hk.symm), Nat.add_zero]
  have hspent : ∀ c, Spent ctx c → Spent ctx' c := by
    intro c hc
    unfold Spent at hc ⊢
    rw [hlog, hsize]
    exact hc.imp (fun h => h.trans_le (Nat.add_le_add_right (takenUnder_le_concat ..) _))
      (Or.imp (fun h => h.trans_le (Nat.add_le_add_right (takenUnder_le_concat ..) _))
        fun h => h.trans_le (Nat.add_le_add_right (takenUnder_le_concat ..) _))
  have hmem : ∀ c ∈ others, c ∈ ctx'.pool := fun c hc => by
    rcases hpool' with ⟨-, hperm⟩ | hperm
    · exact hperm.mem_iff.2 hc
    · exact hperm.mem_iff.2 (List.mem_cons_of_mem _ hc)
  have hkeeps : ∀ c ∈ others, ∃ c₀ ∈ originals, Kept ctx' c₀ c := by
    intro c hc
    obtain ⟨c₁, hc₁, hkept⟩ := h.kept c (hpool.mem_iff.2 (List.mem_cons_of_mem _ hc))
    have hne : c.numa ≠ best.numa := fun heq => hnumas.1 (heq ▸ List.mem_map_of_mem hc)
    refine ⟨c₁, hc₁, hkept.numa, hkept.socket, ?_⟩
    rw [hother _ hne]
    exact hkept.availableMem
  refine
    { node := fun nodeId => ?_
      socket := fun key => ?_
      nodeLimit := fun nodeId => ?_
      socketLimit := fun key => ?_
      blocks := fun d hd => ?_
      source := fun d hd => ?_
      within := fun c hc => ?_
      nodup := ?_
      kept := fun c hc => ?_
      spent := fun c hc => ?_ }
  · rw [hnodeMap, lookup_addTo, h.node, hlog, takenUnder_concat]
    rfl
  · rw [hsocketMap, lookup_addTo, h.socket, hlog, takenUnder_concat]
    rfl
  · rw [hlog, takenUnder_concat]
    have hbefore := h.nodeLimit nodeId
    split
    next heq =>
      subst heq
      change takenUnder _ ctx.log best.nodeId + n ≤ _
      change takenUnder _ ctx.log best.nodeId ≤ _ at hbefore
      omega
    next => exact hbefore
  · rw [hlog, takenUnder_concat]
    have hbefore := h.socketLimit key
    split
    next heq =>
      subst heq
      change takenUnder _ ctx.log best.socket + n ≤ _
      change takenUnder _ ctx.log best.socket ≤ _ at hbefore
      omega
    next => exact hbefore
  · rw [hsize]
    rw [hlog] at hd
    rcases List.mem_append.1 hd with hd | hd
    · exact h.blocks d hd
    · rw [List.mem_singleton.1 hd]
      exact hdvd
  · rw [hlog] at hd
    rcases List.mem_append.1 hd with hd | hd
    · exact h.source d hd
    · rw [List.mem_singleton.1 hd]
      exact ⟨c₀, hc₀, hkept₀.numa, hkept₀.socket⟩
  · by_cases heq : c.numa = best.numa
    · obtain rfl := eq_of_numa_eq hnodup hc hc₀ (heq.trans hkept₀.numa)
      have havailable := hkept₀.availableMem
      rw [heq, hgiven]
      omega
    · rw [hother _ heq]
      exact h.within c hc
  · rcases hpool' with ⟨-, hperm⟩ | hperm
    · exact (hperm.map RemoteNumaCandidate.numa).nodup_iff.2 hnumas.2
    · refine (hperm.map RemoteNumaCandidate.numa).nodup_iff.2 ?_
      rw [List.map_cons, List.nodup_cons]
      exact hnumas
  · rcases hpool' with ⟨-, hperm⟩ | hperm
    · exact hkeeps c (hperm.mem_iff.1 hc)
    · rcases List.mem_cons.1 (hperm.mem_iff.1 hc) with rfl | hc
      · refine ⟨c₀, hc₀, hkept₀.numa, hkept₀.socket, ?_⟩
        have havailable := hkept₀.availableMem
        change best.availableMem - n + takenUnder _ ctx'.log best.numa = _
        rw [hgiven]
        omega
      · exact hkeeps c hc
  · rcases h.spent c hc with ⟨c', hc', hnuma⟩ | hspent'
    · rcases List.mem_cons.1 (hpool.mem_iff.1 hc') with rfl | hc'
      · rcases hpool' with ⟨hall, -⟩ | hperm
        · -- Nothing is left of it.
          obtain rfl := eq_of_numa_eq hnodup hc hc₀ (hnuma.symm.trans hkept₀.numa)
          have havailable := hkept₀.availableMem
          refine .inr (.inl ?_)
          rw [← hnuma, hgiven, hsize]
          omega
        · exact .inl ⟨_, hperm.mem_iff.2 List.mem_cons_self, hnuma⟩
      · exact .inl ⟨c', hmem c' hc', hnuma⟩
    · exact .inr (hspent c hspent')

end Step

/-! ### The passes -/

/-- What a pass does not touch. -/
structure SameCall (ctx ctx' : BatchBorrowContext) : Prop where
  srcNid : ctx'.srcNid = ctx.srcNid
  blockSizeKB : ctx'.blockSizeKB = ctx.blockSizeKB
  localNumaInfos : ctx'.localNumaInfos = ctx.localNumaInfos
  nodeToPlaneMap : ctx'.nodeToPlaneMap = ctx.nodeToPlaneMap
  planeIndex : ctx'.planeIndex = ctx.planeIndex
  results : ctx'.results = ctx.results

/-- What is still asked for after some rounds, and the context then. -/
structure Progress (originals : List RemoteNumaCandidate) (ctx : BatchBorrowContext)
    (remaining : Nat) (out : Nat × BatchBorrowContext) : Prop where
  accounts : Accounts originals out.2
  same : SameCall ctx out.2
  dvd : ctx.blockSizeKB ∣ out.1
  sizes : allTaken out.2.destParams + out.1 = allTaken ctx.destParams + remaining

section Passes

variable {originals : List RemoteNumaCandidate} {ctx : BatchBorrowContext} {remaining : Nat}
  {out out' : Nat × BatchBorrowContext}

theorem Progress.refl (haccounts : Accounts originals ctx) (hdvd : ctx.blockSizeKB ∣ remaining) :
    Progress originals ctx remaining (remaining, ctx) :=
  ⟨haccounts, ⟨rfl, rfl, rfl, rfl, rfl, rfl⟩, hdvd, rfl⟩

theorem Progress.trans (h : Progress originals ctx remaining out)
    (h' : Progress originals out.2 out.1 out') : Progress originals ctx remaining out' where
  accounts := h'.accounts
  same :=
    { srcNid := h'.same.srcNid.trans h.same.srcNid
      blockSizeKB := h'.same.blockSizeKB.trans h.same.blockSizeKB
      localNumaInfos := h'.same.localNumaInfos.trans h.same.localNumaInfos
      nodeToPlaneMap := h'.same.nodeToPlaneMap.trans h.same.nodeToPlaneMap
      planeIndex := h'.same.planeIndex.trans h.same.planeIndex
      results := h'.same.results.trans h.same.results }
  dvd := h.same.blockSizeKB ▸ h'.dvd
  sizes := h'.sizes.trans h.sizes

/-- **One round**: it makes progress, it comes closer to the end, and it leaves the other planes
alone. -/
theorem allocateFromHead_progress (haccounts : Accounts originals ctx)
    (hnodup : (originals.map RemoteNumaCandidate.numa).Nodup) (hblock : 0 < ctx.blockSizeKB)
    {planeIndex : Int} {best : RemoteNumaCandidate} {rest : List RemoteNumaCandidate}
    (hhead : ctx.candidateSet planeIndex = best :: rest) (hpos : 0 < remaining)
    (hdvd : ctx.blockSizeKB ∣ remaining) :
    Progress originals ctx remaining (ctx.allocateFromHead planeIndex best rest remaining) ∧
      (ctx.allocateFromHead planeIndex best rest remaining).1 +
          (ctx.allocateFromHead planeIndex best rest remaining).2.pool.length <
        remaining + ctx.pool.length ∧
      ∀ other, other ≠ planeIndex →
        (ctx.allocateFromHead planeIndex best rest remaining).2.candidateSet other =
          ctx.candidateSet other := by
  have hpool := BatchBorrowContext.pool_removeHead hhead
  have hlength := hpool.length_eq
  rw [List.length_cons] at hlength
  have hset : ∀ other, other ≠ planeIndex → BatchBorrowContext.candidateSet { ctx with
      candidatesByPlane := ctx.candidatesByPlane.insert planeIndex rest } other =
        ctx.candidateSet other := by
    intro other hne
    rw [BatchBorrowContext.candidateSet]
    dsimp only
    rw [AList.lookup_insert_ne hne, BatchBorrowContext.candidateSet]
  obtain ⟨hdvdN, hremaining, hmem, hnode, hsocket⟩ := tryAllocate_le best remaining
    ctx.blockSizeKB ((ctx.nodeBorrowedMap.lookup best.nodeId).getD 0)
    ((ctx.socketBorrowedMap.lookup (best.nodeId, best.socketId)).getD 0)
  have hzero := tryAllocate_eq_zero best ((ctx.nodeBorrowedMap.lookup best.nodeId).getD 0)
    ((ctx.socketBorrowedMap.lookup (best.nodeId, best.socketId)).getD 0) hblock
    (Nat.le_of_dvd hpos hdvd)
  unfold BatchBorrowContext.allocateFromHead
  dsimp only
  generalize BatchBorrowContext.tryAllocateFromCandidate best remaining ctx.blockSizeKB
    ((ctx.nodeBorrowedMap.lookup best.nodeId).getD 0)
    ((ctx.socketBorrowedMap.lookup (best.nodeId, best.socketId)).getD 0) = n
    at hdvdN hremaining hmem hnode hsocket hzero ⊢
  rw [haccounts.node] at hnode hzero
  rw [haccounts.socket] at hsocket hzero
  by_cases hn : n = 0
  · -- The candidate is spent.
    rw [if_pos hn]
    refine ⟨⟨haccounts.drop hnodup hpool fun c₀ hc₀ hkept => ?_, ⟨rfl, rfl, rfl, rfl, rfl, rfl⟩,
      hdvd, rfl⟩, by dsimp only; omega, hset⟩
    have havailable := hkept.availableMem
    have hnodeId : best.nodeId = c₀.nodeId := congrArg Prod.fst hkept.numa
    unfold Spent
    rw [← hkept.numa, ← hkept.socket, ← hnodeId]
    rcases hzero hn with h | h | h
    · exact .inl (by omega)
    · exact .inr (.inl h)
    · exact .inr (.inr h)
  · rw [if_neg hn]
    have hsizes : allTaken (ctx.destParams ++ [given best n]) + (remaining - n) =
        allTaken ctx.destParams + remaining := by
      have hone : allTaken [given best n] = n := Nat.add_zero n
      rw [allTaken_append, hone]
      omega
    have hlog : ctx.results.flatMap (·.destParam) ++ (ctx.destParams ++ [given best n]) =
        ctx.log ++ [given best n] := (List.append_assoc ..).symm
    by_cases hleft : 0 < best.availableMem - n
    · rw [if_pos hleft]
      have hpool' := BatchBorrowContext.pool_insert (BatchBorrowContext.applyAllocationResult
        { ctx with candidatesByPlane := ctx.candidatesByPlane.insert planeIndex rest } best n)
        planeIndex { best with availableMem := best.availableMem - n }
      have hlength' := hpool'.length_eq
      rw [List.length_cons] at hlength'
      have hsame : (BatchBorrowContext.applyAllocationResult { ctx with
          candidatesByPlane := ctx.candidatesByPlane.insert planeIndex rest } best n).pool =
            BatchBorrowContext.pool { ctx with
              candidatesByPlane := ctx.candidatesByPlane.insert planeIndex rest } := rfl
      rw [hsame] at hlength'
      refine ⟨⟨haccounts.take hnodup hblock hpool hdvdN hmem hnode hsocket hlog rfl rfl rfl
        (.inr hpool'), ⟨rfl, rfl, rfl, rfl, rfl, rfl⟩, Nat.dvd_sub hdvd hdvdN, hsizes⟩,
        by dsimp only; omega, fun other hne => ?_⟩
      rw [BatchBorrowContext.candidateSet_insert_of_ne hne]
      exact hset other hne
    · rw [if_neg hleft]
      refine ⟨⟨haccounts.take hnodup hblock hpool hdvdN hmem hnode hsocket hlog rfl rfl rfl
        (.inl ⟨by omega, .refl _⟩), ⟨rfl, rfl, rfl, rfl, rfl, rfl⟩, Nat.dvd_sub hdvd hdvdN,
        hsizes⟩, ?_, hset⟩
      have hsame : (BatchBorrowContext.applyAllocationResult { ctx with
          candidatesByPlane := ctx.candidatesByPlane.insert planeIndex rest } best n).pool =
            BatchBorrowContext.pool { ctx with
              candidatesByPlane := ctx.candidatesByPlane.insert planeIndex rest } := rfl
      rw [hsame]
      omega

/-- The pass over the own plane ends when nothing more is asked for, or the plane is exhausted. -/
theorem samePlanePass_progress (hnodup : (originals.map RemoteNumaCandidate.numa).Nodup) :
    ∀ (fuel remaining : Nat) (ctx : BatchBorrowContext), Accounts originals ctx →
      0 < ctx.blockSizeKB → ctx.blockSizeKB ∣ remaining →
      remaining + ctx.pool.length ≤ fuel →
      Progress originals ctx remaining (BatchBorrowContext.samePlanePass fuel remaining ctx) ∧
        ((BatchBorrowContext.samePlanePass fuel remaining ctx).1 = 0 ∨
          (BatchBorrowContext.samePlanePass fuel remaining ctx).2.candidateSet ctx.planeIndex = [])
  | 0, remaining, ctx, haccounts, _, hdvd, hfuel =>
    ⟨.refl haccounts hdvd, .inl (by rw [BatchBorrowContext.samePlanePass]; omega)⟩
  | fuel + 1, remaining, ctx, haccounts, hblock, hdvd, hfuel => by
    rw [BatchBorrowContext.samePlanePass]
    split
    next hzero => exact ⟨.refl haccounts hdvd, .inl hzero⟩
    next hpos =>
      split
      next hempty => exact ⟨.refl haccounts hdvd, .inr hempty⟩
      next best rest hhead =>
        obtain ⟨hprogress, hless, -⟩ :=
          allocateFromHead_progress haccounts hnodup hblock hhead (by omega) hdvd
        have hsize := hprogress.same.blockSizeKB
        obtain ⟨hrest, hend⟩ := samePlanePass_progress hnodup fuel _ _ hprogress.accounts
          (hsize ▸ hblock) (hsize ▸ hprogress.dvd) (by omega)
        refine ⟨hprogress.trans hrest, ?_⟩
        rwa [hprogress.same.planeIndex] at hend

/-- The pass over the other planes ends when nothing more is asked for, or they are exhausted. It
does not come back to the own plane. -/
theorem crossPlanePass_progress (hnodup : (originals.map RemoteNumaCandidate.numa).Nodup) :
    ∀ (fuel remaining : Nat) (ctx : BatchBorrowContext), Accounts originals ctx →
      0 < ctx.blockSizeKB → ctx.blockSizeKB ∣ remaining →
      remaining + ctx.pool.length ≤ fuel →
      Progress originals ctx remaining (BatchBorrowContext.crossPlanePass fuel remaining ctx) ∧
        ((BatchBorrowContext.crossPlanePass fuel remaining ctx).1 = 0 ∨
          ∀ other, other ≠ ctx.planeIndex →
            (BatchBorrowContext.crossPlanePass fuel remaining ctx).2.candidateSet other = []) ∧
        (BatchBorrowContext.crossPlanePass fuel remaining ctx).2.candidateSet ctx.planeIndex =
          ctx.candidateSet ctx.planeIndex
  | 0, remaining, ctx, haccounts, _, hdvd, hfuel =>
    ⟨.refl haccounts hdvd, .inl (by rw [BatchBorrowContext.crossPlanePass]; omega), rfl⟩
  | fuel + 1, remaining, ctx, haccounts, hblock, hdvd, hfuel => by
    rw [BatchBorrowContext.crossPlanePass]
    split
    next hzero => exact ⟨.refl haccounts hdvd, .inl hzero, rfl⟩
    next hpos =>
      split
      next hnone =>
        exact ⟨.refl haccounts hdvd,
          .inr fun other hne => BatchBorrowContext.candidateSet_of_bestHead_none hnone hne, rfl⟩
      next planeIdx best rest hsome =>
        have hfound := BatchBorrowContext.found_bestHead ctx
        rw [hsome] at hfound
        obtain ⟨hne, hhead⟩ := hfound
        obtain ⟨hprogress, hless, hothers⟩ :=
          allocateFromHead_progress haccounts hnodup hblock hhead (by omega) hdvd
        have hsize := hprogress.same.blockSizeKB
        obtain ⟨hrest, hend, hown⟩ := crossPlanePass_progress hnodup fuel _ _ hprogress.accounts
          (hsize ▸ hblock) (hsize ▸ hprogress.dvd) (by omega)
        rw [hprogress.same.planeIndex] at hend hown
        exact ⟨hprogress.trans hrest, hend, hown.trans (hothers _ hne.symm)⟩

/-- **Both passes**: if something is still asked for in the end, then every candidate is spent. -/
theorem passes_progress (haccounts : Accounts originals ctx)
    (hnodup : (originals.map RemoteNumaCandidate.numa).Nodup) (hblock : 0 < ctx.blockSizeKB)
    (hdvd : ctx.blockSizeKB ∣ remaining)
    (hout : out = ctx.allocateFromSamePlane remaining)
    (hout' : out' = if 0 < out.1 then out.2.allocateFromCrossPlane out.1 else out) :
    Progress originals ctx remaining out' ∧ (0 < out'.1 → out'.2.pool = []) := by
  obtain ⟨hsame, hsameEnd⟩ := samePlanePass_progress hnodup (ctx.rounds remaining) remaining ctx
    haccounts hblock hdvd le_rfl
  rw [← BatchBorrowContext.allocateFromSamePlane, ← hout] at hsame hsameEnd
  subst hout'
  split
  next hpos =>
    have hsize := hsame.same.blockSizeKB
    obtain ⟨hcross, hcrossEnd, hown⟩ := crossPlanePass_progress hnodup (out.2.rounds out.1) out.1
      out.2 hsame.accounts (hsize ▸ hblock) (hsize ▸ hsame.dvd) le_rfl
    rw [← BatchBorrowContext.allocateFromCrossPlane] at hcross hcrossEnd hown
    refine ⟨hsame.trans hcross, fun hleft => BatchBorrowContext.pool_eq_nil fun other => ?_⟩
    rcases eq_or_ne other out.2.planeIndex with rfl | hne
    · rw [hown, hsame.same.planeIndex]
      exact hsameEnd.resolve_left (by omega)
    · exact hcrossEnd.resolve_left (by omega) other hne
  next hzero => exact ⟨hsame, fun hpos => absurd hpos hzero⟩

end Passes

end BatchBorrow

end UbsEngine
