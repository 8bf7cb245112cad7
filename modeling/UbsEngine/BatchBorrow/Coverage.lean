import UbsEngine.BatchBorrow.Accounts
import Mathlib.Algebra.BigOperators.Fin
import Mathlib.Tactic.Ring

/-!
# What a call covers

A call that succeeds gives each NUMA node of the borrower exactly its share, from other nodes, in
whole blocks and within all limits (`UbsEngine.BatchBorrow.Covers`). If all that it asks for is
known, it succeeds exactly when there is any way at all to cover the shares
(`UbsEngine.BatchBorrow.Choice`): neither the order of the candidates nor the planes make it miss
one.
-/

namespace UbsEngine

namespace BatchBorrow

open Grouping

/-! ### The candidates of a cluster -/

section Candidates

variable {srcNid : String} {cluster : Cluster} {reserved : Map String ReservedInfo1G}
  {planes : Map String Int} {nodeId : String} {numaId : Nat} {numaInfo : UbseNumaInfo}
  {c : RemoteNumaCandidate}

theorem candidateOf_eq_some
    (h : candidateOf srcNid cluster reserved planes nodeId numaId numaInfo = some c) :
    c.nodeId = nodeId ∧ c.numaId = numaId ∧ c.socketId = numaInfo.socketId ∧
      c.availableMem = borrowableMem cluster reserved nodeId numaId numaInfo := by
  unfold candidateOf at h
  dsimp only at h
  split at h
  next => cases h
  next =>
    split at h
    next => cases h
    next =>
      cases h
      exact ⟨rfl, rfl, rfl, rfl⟩

/-- A candidate is a NUMA node of another node. -/
theorem mem_candidates (h : c ∈ candidates srcNid cluster reserved planes) :
    c.nodeId ≠ srcNid ∧ ∃ nodeInfo, cluster.allNodeInfo.lookup c.nodeId = some nodeInfo ∧
      ∃ numaInfo, nodeInfo.numaInfos.lookup c.numaId = some numaInfo ∧
        c.socketId = numaInfo.socketId ∧
        c.availableMem = borrowableMem cluster reserved c.nodeId c.numaId numaInfo := by
  unfold candidates at h
  obtain ⟨⟨nodeId, nodeInfo⟩, hnode, hc⟩ := List.mem_flatMap.1 h
  rw [List.mem_filter] at hnode
  obtain ⟨⟨numaId, numaInfo⟩, hnuma, hc⟩ := List.mem_filterMap.1 hc
  obtain ⟨rfl, rfl, hsocket, hmem⟩ := candidateOf_eq_some hc
  exact ⟨by simpa using hnode.2, nodeInfo, Map.mem_entries_iff.1 hnode.1, numaInfo,
    Map.mem_entries_iff.1 hnuma, hsocket, hmem⟩

/-- No NUMA node is a candidate twice. -/
theorem nodup_candidates (srcNid : String) (cluster : Cluster)
    (reserved : Map String ReservedInfo1G) (planes : Map String Int) :
    ((candidates srcNid cluster reserved planes).map RemoteNumaCandidate.numa).Nodup := by
  rw [List.Nodup, List.pairwise_map, candidates, List.pairwise_flatMap]
  constructor
  · intro node _
    rw [List.pairwise_filterMap]
    refine (List.nodupKeys_iff_pairwise.1 node.2.numaInfos.nodupKeys).imp ?_
    intro numa numa' hne c hc c' hc' heq
    have hnuma := (candidateOf_eq_some hc).2.1
    have hnuma' := (candidateOf_eq_some hc').2.1
    exact hne (hnuma.symm.trans ((congrArg Prod.snd heq).trans hnuma'))
  · refine ((List.nodupKeys_iff_pairwise.1 cluster.allNodeInfo.nodupKeys).filter _).imp ?_
    intro node node' hne c hc c' hc' heq
    obtain ⟨_, _, hc⟩ := List.mem_filterMap.1 hc
    obtain ⟨_, _, hc'⟩ := List.mem_filterMap.1 hc'
    have hnode := (candidateOf_eq_some hc).1
    have hnode' := (candidateOf_eq_some hc').1
    exact hne (hnode.symm.trans ((congrArg Prod.fst heq).trans hnode'))

end Candidates

/-- The candidates, if the queries they are made from are answered. -/
def remoteNumas (srcNid : String) (cluster : Cluster) : List RemoteNumaCandidate :=
  match cluster.nodeToPlaneMap, cluster.numaNodeInfoList with
  | some planes, some numaNodeInfoList =>
    candidates srcNid cluster (reservedInfo1GMap numaNodeInfoList) planes
  | _, _ => []

/-- The size of a block of the borrower. -/
def blockSizeOf (srcNid : String) (cluster : Cluster) : Nat :=
  ((cluster.allNodeInfo.lookup srcNid).map fun nodeInfo =>
    nodeInfo.blockSize * MB_TO_KBYTES).getD 0

theorem nodup_remoteNumas (srcNid : String) (cluster : Cluster) :
    ((remoteNumas srcNid cluster).map RemoteNumaCandidate.numa).Nodup := by
  unfold remoteNumas
  split
  next => exact nodup_candidates ..
  next => exact List.nodup_nil

theorem mem_remoteNumas {srcNid : String} {cluster : Cluster} {c : RemoteNumaCandidate}
    (h : c ∈ remoteNumas srcNid cluster) : c.nodeId ≠ srcNid ∧
      ∃ numaNodeInfoList, cluster.numaNodeInfoList = some numaNodeInfoList ∧
        ∃ nodeInfo, cluster.allNodeInfo.lookup c.nodeId = some nodeInfo ∧
          ∃ numaInfo, nodeInfo.numaInfos.lookup c.numaId = some numaInfo ∧
            c.socketId = numaInfo.socketId ∧
            c.availableMem = borrowableMem cluster (reservedInfo1GMap numaNodeInfoList) c.nodeId
              c.numaId numaInfo := by
  unfold remoteNumas at h
  split at h
  next planes numaNodeInfoList _ hlist =>
    obtain ⟨hne, hrest⟩ := mem_candidates h
    exact ⟨hne, numaNodeInfoList, hlist, hrest⟩
  next => exact absurd h List.not_mem_nil

/-! ### The start of a call -/

section Start

variable {srcNid : String} {srcNumaIds : List Int} {cluster : Cluster} {ctx : BatchBorrowContext}

/-- Constructing the candidates sets nothing else. -/
theorem constructCandidateNumas_eq (l : List RemoteNumaCandidate) (ctx : BatchBorrowContext) :
    ∃ m, ctx.constructCandidateNumas l = { ctx with candidatesByPlane := m } ∧
      (Map.flat m).Perm (l ++ ctx.pool) := by
  induction l generalizing ctx with
  | nil => exact ⟨ctx.candidatesByPlane, rfl, .refl _⟩
  | cons c l ih =>
    obtain ⟨m, hm, hperm⟩ := ih (ctx.insert c.plane c)
    refine ⟨m, hm, hperm.trans ?_⟩
    exact ((BatchBorrowContext.pool_insert ctx c.plane c).append_left l).trans List.perm_middle

/-- At first every candidate is kept as it is. -/
theorem accounts_of_empty {originals : List RemoteNumaCandidate} (hpool : ctx.pool.Perm originals)
    (hnodup : (originals.map RemoteNumaCandidate.numa).Nodup) (hresults : ctx.results = [])
    (hdest : ctx.destParams = []) (hnode : ctx.nodeBorrowedMap = ∅)
    (hsocket : ctx.socketBorrowedMap = ∅) : Accounts originals ctx := by
  have hlog : ctx.log = [] := by rw [BatchBorrowContext.log, hresults, hdest]; rfl
  refine
    { node := fun nodeId => ?_
      socket := fun key => ?_
      nodeLimit := fun nodeId => ?_
      socketLimit := fun key => ?_
      blocks := fun d hd => ?_
      source := fun d hd => ?_
      within := fun c hc => ?_
      nodup := ?_
      kept := fun c hc => ?_
      spent := fun c hc => .inl ⟨c, hpool.mem_iff.2 hc, rfl⟩ }
  · rw [hnode, hlog]
    rfl
  · rw [hsocket, hlog]
    rfl
  · rw [hlog]
    exact Nat.zero_le _
  · rw [hlog]
    exact Nat.zero_le _
  · rw [hlog] at hd
    exact absurd hd List.not_mem_nil
  · rw [hlog] at hd
    exact absurd hd List.not_mem_nil
  · rw [hlog]
    exact Nat.zero_le _
  · exact (hpool.map _).nodup_iff.2 hnodup
  · refine ⟨c, hpool.mem_iff.1 hc, rfl, rfl, ?_⟩
    rw [hlog]
    rfl

/-- What a call starts from. -/
structure Start (srcNid : String) (cluster : Cluster) (ctx : BatchBorrowContext) : Prop where
  own : ctx.srcNid = srcNid
  block : ctx.blockSizeKB = blockSizeOf srcNid cluster
  pos : 0 < ctx.blockSizeKB
  planes : cluster.nodeToPlaneMap = some ctx.nodeToPlaneMap
  localNumaInfos : cluster.localNumaInfos = some ctx.localNumaInfos
  results : ctx.results = []
  destParams : ctx.destParams = []
  accounts : Accounts (remoteNumas srcNid cluster) ctx

theorem start_of_initialContext (h : initialContext srcNid srcNumaIds cluster = some ctx) :
    Start srcNid cluster ctx := by
  unfold initialContext at h
  split at h
  next => cases h
  next =>
    split at h
    next planes numaNodeInfoList localNumaInfos hplanes hlist hlocal =>
      split at h
      next => cases h
      next nodeInfo hnode =>
        dsimp only at h
        split at h
        next => cases h
        next hblock =>
          cases h
          have hremote : remoteNumas srcNid cluster =
              candidates srcNid cluster (reservedInfo1GMap numaNodeInfoList) planes := by
            rw [remoteNumas, hplanes, hlist]
          have hsize : nodeInfo.blockSize * MB_TO_KBYTES = blockSizeOf srcNid cluster := by
            rw [blockSizeOf, hnode]
            rfl
          obtain ⟨m, hm, hpool⟩ := constructCandidateNumas_eq
            (candidates srcNid cluster (reservedInfo1GMap numaNodeInfoList) planes)
            { srcNid := srcNid
              blockSizeKB := nodeInfo.blockSize * MB_TO_KBYTES
              localNumaInfos := localNumaInfos
              nodeToPlaneMap := planes
              nodeTotalMemMap :=
                calculateNodeTotalMemMap srcNid cluster (reservedInfo1GMap numaNodeInfoList) }
          rw [hm]
          have hpool := hpool.trans (.of_eq (List.append_nil _))
          rw [← hremote] at hpool
          exact
            { own := rfl
              block := hsize
              pos := Nat.pos_of_ne_zero hblock
              planes := hplanes
              localNumaInfos := hlocal
              results := rfl
              destParams := rfl
              accounts := accounts_of_empty hpool (nodup_remoteNumas srcNid cluster) rfl rfl rfl
                rfl }
    next => cases h

end Start

/-! ### One NUMA node after the other -/

/-- A pair of a NUMA node and its share is served by a result. -/
structure Served (asked : Int × Nat) (result : MemBorrowStrategyResult) : Prop where
  srcNumaId : result.srcNumaId = asked.1
  borrowSize : result.borrowSize = asked.2
  sizes : allTaken result.destParam = asked.2

/-- What one NUMA node does not touch. -/
structure SameBorrower (ctx ctx' : BatchBorrowContext) : Prop where
  srcNid : ctx'.srcNid = ctx.srcNid
  blockSizeKB : ctx'.blockSizeKB = ctx.blockSizeKB
  localNumaInfos : ctx'.localNumaInfos = ctx.localNumaInfos
  nodeToPlaneMap : ctx'.nodeToPlaneMap = ctx.nodeToPlaneMap

theorem SameBorrower.placeOf {ctx ctx' : BatchBorrowContext} (h : SameBorrower ctx ctx')
    (numaId : Int) : ctx'.placeOf numaId = ctx.placeOf numaId := by
  rw [BatchBorrowContext.placeOf, h.srcNid, h.localNumaInfos, h.nodeToPlaneMap,
    BatchBorrowContext.placeOf]

/-- All candidates are spent, although less has been taken than is asked for. -/
def Exhausted (originals : List RemoteNumaCandidate) (block asked : Nat) : Prop :=
  ∃ ctx : BatchBorrowContext, Accounts originals ctx ∧ ctx.blockSizeKB = block ∧ ctx.pool = [] ∧
    allTaken ctx.log < asked

section Process

variable {originals : List RemoteNumaCandidate} {ctx ctx' : BatchBorrowContext} {numaId : Int}
  {needSize : Nat}

/-- The accounts are about nothing but what is taken, the quotas and the candidates. -/
theorem Accounts.congr (h : Accounts originals ctx) (hlog : ctx'.log = ctx.log)
    (hblock : ctx'.blockSizeKB = ctx.blockSizeKB) (hpool : ctx'.pool = ctx.pool)
    (hnode : ctx'.nodeBorrowedMap = ctx.nodeBorrowedMap)
    (hsocket : ctx'.socketBorrowedMap = ctx.socketBorrowedMap) : Accounts originals ctx' where
  node := by rw [hlog, hnode]; exact h.node
  socket := by rw [hlog, hsocket]; exact h.socket
  nodeLimit := by rw [hlog]; exact h.nodeLimit
  socketLimit := by rw [hlog]; exact h.socketLimit
  blocks := by rw [hlog, hblock]; exact h.blocks
  source := by rw [hlog]; exact h.source
  within := by rw [hlog]; exact h.within
  nodup := by rw [hpool]; exact h.nodup
  kept := by
    rw [hpool]
    intro c hc
    obtain ⟨c₀, hc₀, hkept⟩ := h.kept c hc
    exact ⟨c₀, hc₀, hkept.numa, hkept.socket, by rw [hlog]; exact hkept.availableMem⟩
  spent := by
    intro c hc
    rw [hpool, Spent, hlog, hblock]
    exact h.spent c hc

/-- Before a NUMA node there are no destinations that could be lost. -/
theorem Accounts.begin (h : Accounts originals ctx) (hdest : ctx.destParams = [])
    (planeIndex : Int) :
    Accounts originals { ctx with planeIndex := planeIndex, destParams := [] } := by
  refine h.congr ?_ rfl rfl rfl rfl
  rw [BatchBorrowContext.log, BatchBorrowContext.log, hdest]

/-- After it the destinations move to a result. -/
theorem Accounts.finish (h : Accounts originals ctx) (result : MemBorrowStrategyResult)
    (hresult : result.destParam = ctx.destParams) :
    Accounts originals { ctx with destParams := [], results := ctx.results ++ [result] } := by
  refine h.congr ?_ rfl rfl rfl rfl
  rw [BatchBorrowContext.log, BatchBorrowContext.log, List.flatMap_append, List.flatMap_singleton,
    List.append_nil, hresult]

/-- **A NUMA node that succeeds** has its share in one result, if it is not zero. -/
theorem processBorrowForNuma_of_some (haccounts : Accounts originals ctx)
    (hnodup : (originals.map RemoteNumaCandidate.numa).Nodup) (hblock : 0 < ctx.blockSizeKB)
    (hdvd : ctx.blockSizeKB ∣ needSize) (hdest : ctx.destParams = [])
    (h : ctx.processBorrowForNuma numaId needSize = some ctx') :
    Accounts originals ctx' ∧ SameBorrower ctx ctx' ∧ ctx'.destParams = [] ∧
      (needSize = 0 ∧ ctx'.results = ctx.results ∨
        needSize ≠ 0 ∧ ∃ result, ctx'.results = ctx.results ++ [result] ∧
          Served (numaId, needSize) result) := by
  unfold BatchBorrowContext.processBorrowForNuma at h
  split at h
  next hzero =>
    cases h
    exact ⟨haccounts, ⟨rfl, rfl, rfl, rfl⟩, hdest, .inl ⟨hzero, rfl⟩⟩
  next hzero =>
    split at h
    next => cases h
    next socketId planeIndex hplace =>
      dsimp only at h
      generalize hout : BatchBorrowContext.allocateFromSamePlane
        { ctx with planeIndex := planeIndex, destParams := [] } needSize = out at h
      generalize hout' : (if 0 < out.1 then out.2.allocateFromCrossPlane out.1 else out) = out' at h
      obtain ⟨hprogress, -⟩ := passes_progress (haccounts.begin hdest planeIndex) hnodup hblock hdvd
        hout.symm hout'.symm
      have hsame := hprogress.same
      have hsizes := hprogress.sizes
      split at h
      next => cases h
      next hleft =>
        cases h
        have htotal : allTaken out'.2.destParams = needSize := by
          have hnil : allTaken [] = 0 := rfl
          rw [hnil] at hsizes
          omega
        refine ⟨hprogress.accounts.finish _ rfl,
          ⟨hsame.srcNid, hsame.blockSizeKB, hsame.localNumaInfos, hsame.nodeToPlaneMap⟩, rfl,
          .inr ⟨hzero, _, congrArg (· ++ _) hsame.results, rfl, rfl, htotal⟩⟩

/-- **A NUMA node that fails** is not known, or has left no candidate. -/
theorem processBorrowForNuma_of_none (haccounts : Accounts originals ctx)
    (hnodup : (originals.map RemoteNumaCandidate.numa).Nodup) (hblock : 0 < ctx.blockSizeKB)
    (hdvd : ctx.blockSizeKB ∣ needSize) (hdest : ctx.destParams = [])
    (h : ctx.processBorrowForNuma numaId needSize = none) :
    ctx.placeOf numaId = none ∨
      Exhausted originals ctx.blockSizeKB (allTaken ctx.log + needSize) := by
  unfold BatchBorrowContext.processBorrowForNuma at h
  split at h
  next => cases h
  next =>
    split at h
    next hplace => exact .inl hplace
    next socketId planeIndex hplace =>
      dsimp only at h
      generalize hout : BatchBorrowContext.allocateFromSamePlane
        { ctx with planeIndex := planeIndex, destParams := [] } needSize = out at h
      generalize hout' : (if 0 < out.1 then out.2.allocateFromCrossPlane out.1 else out) = out' at h
      obtain ⟨hprogress, hpool⟩ := passes_progress (haccounts.begin hdest planeIndex) hnodup hblock
        hdvd hout.symm hout'.symm
      have hsizes := hprogress.sizes
      split at h
      next hleft =>
        refine .inr ⟨out'.2, hprogress.accounts, hprogress.same.blockSizeKB, hpool hleft, ?_⟩
        have hresults := hprogress.same.results
        have hnil : allTaken [] = 0 := rfl
        rw [hnil] at hsizes
        rw [BatchBorrowContext.log, BatchBorrowContext.log, allTaken_append, allTaken_append,
          hresults, hdest, hnil]
        dsimp only
        omega
      next => cases h

/-- **All NUMA nodes in turn**, if they succeed. -/
theorem processAll_of_some (hnodup : (originals.map RemoteNumaCandidate.numa).Nodup) :
    ∀ (asked : List (Int × Nat)) (ctx : BatchBorrowContext), Accounts originals ctx →
      0 < ctx.blockSizeKB → (∀ a ∈ asked, ctx.blockSizeKB ∣ a.2) → ctx.destParams = [] →
      ∀ ctx', BatchBorrowContext.processAll asked ctx = some ctx' →
      Accounts originals ctx' ∧ ctx'.blockSizeKB = ctx.blockSizeKB ∧ ctx'.destParams = [] ∧
        ∃ new, ctx'.results = ctx.results ++ new ∧
          List.Forall₂ Served (asked.filter fun a => a.2 ≠ 0) new
  | [], ctx, haccounts, _, _, hdest, ctx', h => by
    cases h
    exact ⟨haccounts, rfl, hdest, [], (List.append_nil _).symm, .nil⟩
  | (numaId, needSize) :: asked, ctx, haccounts, hblock, hdvd, hdest, ctx', h => by
    rw [BatchBorrowContext.processAll, Option.bind_eq_some_iff] at h
    obtain ⟨ctx₁, hone, hrest⟩ := h
    obtain ⟨hdvdOne, hdvd⟩ := List.forall_mem_cons.1 hdvd
    obtain ⟨haccounts₁, hsame, hdest₁, hresult⟩ :=
      processBorrowForNuma_of_some haccounts hnodup hblock hdvdOne hdest hone
    obtain ⟨haccounts', hsize, hdest', new, hnew, hserved⟩ := processAll_of_some hnodup asked ctx₁
      haccounts₁ (hsame.blockSizeKB ▸ hblock) (hsame.blockSizeKB ▸ hdvd) hdest₁ ctx' hrest
    refine ⟨haccounts', hsize.trans hsame.blockSizeKB, hdest', ?_⟩
    rcases hresult with ⟨hzero, hresults⟩ | ⟨hzero, result, hresults, hresult⟩
    · refine ⟨new, hresults ▸ hnew, ?_⟩
      rwa [List.filter_cons_of_neg (by simpa using hzero)]
    · refine ⟨result :: new, ?_, ?_⟩
      · rw [hnew, hresults, List.append_assoc, List.singleton_append]
      · rw [List.filter_cons_of_pos (by simpa using hzero)]
        exact .cons hresult hserved

/-- **All NUMA nodes in turn**, if one of them fails. -/
theorem processAll_of_none (hnodup : (originals.map RemoteNumaCandidate.numa).Nodup) :
    ∀ (asked : List (Int × Nat)) (ctx : BatchBorrowContext), Accounts originals ctx →
      0 < ctx.blockSizeKB → (∀ a ∈ asked, ctx.blockSizeKB ∣ a.2) → ctx.destParams = [] →
      BatchBorrowContext.processAll asked ctx = none →
      (∃ a ∈ asked, ctx.placeOf a.1 = none) ∨
        Exhausted originals ctx.blockSizeKB (allTaken ctx.log + (asked.map (·.2)).sum)
  | [], ctx, _, _, _, _, h => by cases h
  | (numaId, needSize) :: asked, ctx, haccounts, hblock, hdvd, hdest, h => by
    obtain ⟨hdvdOne, hdvd⟩ := List.forall_mem_cons.1 hdvd
    rw [BatchBorrowContext.processAll] at h
    cases hone : ctx.processBorrowForNuma numaId needSize with
    | none =>
      rcases processBorrowForNuma_of_none haccounts hnodup hblock hdvdOne hdest hone with
        hplace | ⟨ctx', haccounts', hsize, hpool, hless⟩
      · exact .inl ⟨_, List.mem_cons_self, hplace⟩
      · refine .inr ⟨ctx', haccounts', hsize, hpool, hless.trans_le ?_⟩
        rw [List.map_cons, List.sum_cons]
        omega
    | some ctx₁ =>
      rw [hone, Option.bind_some] at h
      obtain ⟨haccounts₁, hsame, hdest₁, hresult⟩ :=
        processBorrowForNuma_of_some haccounts hnodup hblock hdvdOne hdest hone
      have htaken : allTaken ctx₁.log = allTaken ctx.log + needSize := by
        rw [BatchBorrowContext.log, BatchBorrowContext.log, hdest, hdest₁, List.append_nil,
          List.append_nil]
        rcases hresult with ⟨hzero, hresults⟩ | ⟨-, result, hresults, hresult⟩
        · rw [hresults, show needSize = 0 from hzero, Nat.add_zero]
        · rw [hresults, List.flatMap_append, allTaken_append, List.flatMap_singleton,
            hresult.sizes]
      rcases processAll_of_none hnodup asked ctx₁ haccounts₁ (hsame.blockSizeKB ▸ hblock)
          (hsame.blockSizeKB ▸ hdvd) hdest₁ h with ⟨a, ha, hplace⟩ | hexhausted
      · exact .inl ⟨a, List.mem_cons_of_mem _ ha, (hsame.placeOf a.1).symm.trans hplace⟩
      · rw [htaken, hsame.blockSizeKB, Nat.add_assoc] at hexhausted
        exact .inr hexhausted

end Process

/-! ### The shares -/

section Shares

variable (srcNumaIds : List Int) (borrowSize : Nat) {block : Nat}

theorem length_calculatePerNumaBorrowSize (block : Nat) :
    (calculatePerNumaBorrowSize srcNumaIds borrowSize block).length = srcNumaIds.length := by
  unfold calculatePerNumaBorrowSize
  split
  next => rw [List.length_map]
  next => rw [List.length_map, List.length_range]

/-- The first ones of `n` get one more. -/
theorem sum_share (base block m n : Nat) (h : m ≤ n) :
    ((List.range n).map fun i => base * block + if i < m then block else 0).sum =
      (n * base + m) * block := by
  induction n generalizing m with
  | zero =>
    obtain rfl : m = 0 := by omega
    simp
  | succ n ih =>
    rw [List.range_succ, List.map_append, List.sum_append, List.map_singleton, List.sum_singleton]
    rcases Nat.lt_or_ge n m with hn | hn
    · obtain rfl : m = n + 1 := by omega
      have hfirst : ((List.range n).map fun i => base * block + if i < n + 1 then block else 0) =
          (List.range n).map fun i => base * block + if i < n then block else 0 := by
        refine List.map_congr_left fun i hi => ?_
        have hi := List.mem_range.1 hi
        rw [if_pos hi, if_pos (by omega)]
      rw [hfirst, ih n le_rfl, if_pos hn]
      ring
    · rw [ih m hn, if_neg (by omega)]
      ring

theorem mem_calculatePerNumaBorrowSize (hblock : 0 < block) {size : Nat}
    (h : size ∈ calculatePerNumaBorrowSize srcNumaIds borrowSize block) :
    size = borrowSize / block / srcNumaIds.length * block ∨
      size = borrowSize / block / srcNumaIds.length * block + block := by
  rw [calculatePerNumaBorrowSize, if_neg (by omega)] at h
  obtain ⟨i, -, rfl⟩ := List.mem_map.1 h
  split
  next => exact .inr rfl
  next => exact .inl rfl

theorem sum_calculatePerNumaBorrowSize (hblock : 0 < block) (hne : srcNumaIds ≠ []) :
    (calculatePerNumaBorrowSize srcNumaIds borrowSize block).sum = borrowSize / block * block := by
  have hpos : 0 < srcNumaIds.length := List.length_pos_iff.2 hne
  rw [calculatePerNumaBorrowSize, if_neg (by omega)]
  dsimp only
  rw [sum_share _ _ _ _ (Nat.mod_lt _ hpos).le, Nat.div_add_mod]

end Shares

/-! ### What is taken, counted over the candidates -/

section Counting

variable {originals : List RemoteNumaCandidate} {κ : Type*} [DecidableEq κ]

/-- What is taken under a key is what is taken from the candidates under it. -/
theorem sum_takenUnder (hnodup : (originals.map RemoteNumaCandidate.numa).Nodup)
    (key : DestMemoryBorrowParam → κ) (group : RemoteNumaCandidate → κ)
    {log : List DestMemoryBorrowParam}
    (hsource : ∀ d ∈ log, ∃ c ∈ originals, d.numa = c.numa ∧ key d = group c) (k : κ) :
    ∑ c ∈ originals.toFinset with group c = k,
        takenUnder DestMemoryBorrowParam.numa log c.numa =
      takenUnder key log k := by
  induction log using List.reverseRecOn with
  | nil => simp
  | append_singleton log d ih =>
    rw [takenUnder_concat, ← ih fun d hd => hsource d (List.mem_append_left _ hd)]
    rw [Finset.sum_congr rfl fun c _ => takenUnder_concat _ log d c.numa, Finset.sum_add_distrib]
    refine congrArg (_ + ·) ?_
    -- Just one candidate is the NUMA node that has given it.
    obtain ⟨c₀, hc₀, hnuma, hkey⟩ := hsource d (List.mem_append_right _ (List.mem_singleton_self d))
    have hone : ∀ c ∈ originals.toFinset.filter fun c => group c = k,
        (if d.numa = c.numa then d.memSize else 0) = if c₀ = c then d.memSize else 0 := by
      intro c hc
      have hmem := List.mem_toFinset.1 (Finset.mem_filter.1 hc).1
      refine if_congr ⟨fun h => ?_, fun h => ?_⟩ rfl rfl
      · exact eq_of_numa_eq hnodup hc₀ hmem (hnuma.symm.trans h)
      · rw [hnuma, h]
    rw [Finset.sum_congr rfl hone, Finset.sum_ite_eq, hkey]
    refine if_congr ?_ rfl rfl
    rw [Finset.mem_filter, List.mem_toFinset]
    exact ⟨fun h => h.2, fun h => ⟨hc₀, h⟩⟩

theorem takenUnder_unit (log : List DestMemoryBorrowParam) :
    takenUnder (fun _ => ()) log () = allTaken log := by
  rw [takenUnder, summed, List.map_map, allTaken]
  rfl

theorem sum_taken (hnodup : (originals.map RemoteNumaCandidate.numa).Nodup)
    {log : List DestMemoryBorrowParam}
    (hsource : ∀ d ∈ log, ∃ c ∈ originals, d.numa = c.numa) :
    ∑ c ∈ originals.toFinset, takenUnder DestMemoryBorrowParam.numa log c.numa =
      allTaken log := by
  have hunit : ∀ d ∈ log, ∃ c ∈ originals, d.numa = c.numa ∧ () = () := fun d hd =>
    (hsource d hd).imp fun c hc => ⟨hc.1, hc.2, rfl⟩
  have h := sum_takenUnder hnodup (fun _ => ()) (fun _ => ()) hunit ()
  rwa [takenUnder_unit, Finset.filter_true_of_mem fun _ _ => rfl] at h

theorem takenUnder_append (key : DestMemoryBorrowParam → κ) (l m : List DestMemoryBorrowParam)
    (k : κ) : takenUnder key (l ++ m) k = takenUnder key l k + takenUnder key m k := by
  rw [takenUnder, List.map_append, summed_append]
  rfl

theorem dvd_takenUnder {log : List DestMemoryBorrowParam} {block : Nat}
    (h : ∀ d ∈ log, block ∣ d.memSize) (key : DestMemoryBorrowParam → κ) (k : κ) :
    block ∣ takenUnder key log k := by
  induction log using List.reverseRecOn with
  | nil => exact dvd_zero _
  | append_singleton log d ih =>
    rw [takenUnder_concat]
    refine Nat.dvd_add (ih fun d hd => h d (List.mem_append_left _ hd)) ?_
    split
    next => exact h d (List.mem_append_right _ (List.mem_singleton_self d))
    next => exact dvd_zero _

theorem takenUnder_flatten (key : DestMemoryBorrowParam → κ)
    (rows : List (List DestMemoryBorrowParam)) (k : κ) :
    ∑ i ∈ Finset.range rows.length, takenUnder key (rows[i]?.getD []) k =
      takenUnder key rows.flatten k := by
  induction rows using List.reverseRecOn with
  | nil => rfl
  | append_singleton rows row ih =>
    rw [List.length_append, List.length_singleton, Finset.sum_range_succ,
      List.getElem?_concat_length, List.flatten_append, List.flatten_singleton, takenUnder_append]
    refine congrArg (· + _) ((Finset.sum_congr rfl fun i hi => ?_).trans ih)
    rw [List.getElem?_append_left (Finset.mem_range.1 hi)]

end Counting

/-! ### All ways to cover the shares -/

/-- **A way to cover the shares**: what each NUMA node of the borrower takes from each candidate, in
blocks and within the limits of the candidates, their sockets and their nodes. -/
structure Choice (originals : List RemoteNumaCandidate) (block : Nat) (sizes : List Nat)
    (taken : Nat → RemoteNumaCandidate → Nat) : Prop where
  blocks : ∀ i, ∀ c ∈ originals, block ∣ taken i c
  shares : ∀ i (h : i < sizes.length), ∑ c ∈ originals.toFinset, taken i c = sizes[i]
  numa : ∀ c ∈ originals, ∑ i ∈ Finset.range sizes.length, taken i c ≤ c.availableMem
  socket : ∀ key, ∑ c ∈ originals.toFinset with c.socket = key,
    ∑ i ∈ Finset.range sizes.length, taken i c ≤ MAX_BORROW_PER_SOCKET_KB
  node : ∀ nodeId, ∑ c ∈ originals.toFinset with c.nodeId = nodeId,
    ∑ i ∈ Finset.range sizes.length, taken i c ≤ MAX_BORROW_PER_NODE_KB

section Choices

variable {originals : List RemoteNumaCandidate} {block : Nat} {sizes : List Nat}

/-- **No way is left** when the candidates are exhausted. -/
theorem not_choice_of_exhausted (hnodup : (originals.map RemoteNumaCandidate.numa).Nodup)
    (h : Exhausted originals block sizes.sum) (taken : Nat → RemoteNumaCandidate → Nat) :
    ¬ Choice originals block sizes taken := by
  rintro hchoice
  obtain ⟨ctx, haccounts, rfl, hpool, hless⟩ := h
  have hspent : ∀ c ∈ originals, Spent ctx c := by
    intro c hc
    refine (haccounts.spent c hc).resolve_left ?_
    rintro ⟨c', hc', -⟩
    rw [hpool] at hc'
    exact absurd hc' List.not_mem_nil
  have hle : ∑ c ∈ originals.toFinset, ∑ i ∈ Finset.range sizes.length, taken i c ≤
      ∑ c ∈ originals.toFinset, takenUnder DestMemoryBorrowParam.numa ctx.log c.numa := by
    have hnested : ∀ c ∈ originals.toFinset, ∀ c' ∈ originals.toFinset,
        c.socket = c'.socket → c.nodeId = c'.nodeId := fun c _ c' _ h => congrArg Prod.fst h
    refine Laminar.sum_le_of_full hnested (fun c _ => dvd_takenUnder haccounts.blocks _ _)
      (fun c hc => Finset.dvd_sum fun i _ => hchoice.blocks i c (List.mem_toFinset.1 hc))
      (fun c hc => hchoice.numa c (List.mem_toFinset.1 hc)) hchoice.socket hchoice.node ?_
    intro c hc
    have hsource := haccounts.source
    rw [sum_takenUnder hnodup DestMemoryBorrowParam.socket RemoteNumaCandidate.socket hsource,
      sum_takenUnder hnodup DestMemoryBorrowParam.destNid RemoteNumaCandidate.nodeId fun d hd =>
        (hsource d hd).imp fun c hc => ⟨hc.1, hc.2.1, congrArg Prod.fst hc.2.1⟩]
    exact hspent c (List.mem_toFinset.1 hc)
  rw [sum_taken hnodup fun d hd => (haccounts.source d hd).imp fun c hc => ⟨hc.1, hc.2.1⟩,
    Finset.sum_comm] at hle
  have hsum : ∑ i ∈ Finset.range sizes.length, ∑ c ∈ originals.toFinset, taken i c = sizes.sum := by
    rw [← Fin.sum_univ_eq_sum_range fun i => ∑ c ∈ originals.toFinset, taken i c,
      ← Fin.sum_univ_getElem]
    exact Finset.sum_congr rfl fun i _ => hchoice.shares i i.2
  omega

/-- The destinations of each NUMA node of the borrower, also of those that ask for nothing. -/
theorem exists_rows {asked : List (Int × Nat)} {results : List MemBorrowStrategyResult}
    (h : List.Forall₂ Served (asked.filter fun a => a.2 ≠ 0) results) :
    ∃ rows : List (List DestMemoryBorrowParam),
      List.Forall₂ (fun a row => allTaken row = a.2) asked rows ∧
        rows.flatten = results.flatMap (·.destParam) := by
  induction asked generalizing results with
  | nil =>
    cases h
    exact ⟨[], .nil, rfl⟩
  | cons a asked ih =>
    by_cases hzero : a.2 = 0
    · rw [List.filter_cons_of_neg (by simpa using hzero)] at h
      obtain ⟨rows, hrows, hflat⟩ := ih h
      exact ⟨[] :: rows, .cons hzero.symm hrows, hflat⟩
    · rw [List.filter_cons_of_pos (by simpa using hzero)] at h
      cases h with
      | @cons _ result _ results hserved hrest =>
        obtain ⟨rows, hrows, hflat⟩ := ih hrest
        exact ⟨result.destParam :: rows, .cons hserved.sizes hrows, by
          rw [List.flatten_cons, hflat, List.flatMap_cons]⟩

/-- **A success is a way** to cover the shares. -/
theorem choice_of_served (hnodup : (originals.map RemoteNumaCandidate.numa).Nodup)
    {ctx : BatchBorrowContext} (haccounts : Accounts originals ctx) (hdest : ctx.destParams = [])
    {asked : List (Int × Nat)}
    (h : List.Forall₂ Served (asked.filter fun a => a.2 ≠ 0) ctx.results) :
    ∃ taken, Choice originals ctx.blockSizeKB (asked.map (·.2)) taken := by
  obtain ⟨rows, hrows, hflat⟩ := exists_rows h
  have hlog : rows.flatten = ctx.log := by
    rw [hflat, BatchBorrowContext.log, hdest, List.append_nil]
  have hlength : (asked.map (·.2)).length = rows.length := by
    rw [List.length_map, hrows.length_eq]
  have hmem : ∀ i : Nat, ∀ d ∈ rows[i]?.getD [], d ∈ ctx.log := by
    intro i d hd
    rw [← hlog]
    cases hrow : rows[i]? with
    | none =>
      rw [hrow] at hd
      exact absurd hd List.not_mem_nil
    | some row =>
      rw [hrow] at hd
      exact List.mem_flatten.2 ⟨row, List.mem_of_getElem? hrow, hd⟩
  have hsource := haccounts.source
  refine ⟨fun i c => takenUnder DestMemoryBorrowParam.numa (rows[i]?.getD []) c.numa,
    { blocks := fun i c _ => dvd_takenUnder (fun d hd => haccounts.blocks d (hmem i d hd)) _ _
      shares := fun i hi => ?_
      numa := fun c hc => ?_
      socket := fun key => ?_
      node := fun nodeId => ?_ }⟩
  · rw [sum_taken hnodup fun d hd =>
      (hsource d (hmem i d hd)).imp fun c hc => ⟨hc.1, hc.2.1⟩]
    have hi' : i < rows.length := hlength ▸ hi
    rw [List.getElem?_eq_getElem hi', Option.getD_some, List.getElem_map]
    exact hrows.get (by rwa [List.length_map] at hi) hi'
  · rw [hlength, takenUnder_flatten, hlog]
    exact haccounts.within c hc
  · rw [Finset.sum_congr rfl fun c _ => by rw [hlength, takenUnder_flatten, hlog],
      sum_takenUnder hnodup DestMemoryBorrowParam.socket RemoteNumaCandidate.socket hsource]
    exact haccounts.socketLimit key
  · rw [Finset.sum_congr rfl fun c _ => by rw [hlength, takenUnder_flatten, hlog],
      sum_takenUnder hnodup DestMemoryBorrowParam.destNid RemoteNumaCandidate.nodeId fun d hd =>
        (hsource d hd).imp fun c hc => ⟨hc.1, hc.2.1, congrArg Prod.fst hc.2.1⟩]
    exact haccounts.nodeLimit nodeId

end Choices

/-! ### The whole call -/

/-- **What a successful call gives**: `sizes` are the shares. -/
structure Covers (srcNid : String) (srcNumaIds : List Int) (borrowSize : Nat) (cluster : Cluster)
    (sizes : List Nat) (results : List MemBorrowStrategyResult) : Prop where
  blocks : ∀ size ∈ sizes, blockSizeOf srcNid cluster ∣ size
  even : ∀ size ∈ sizes, ∀ size' ∈ sizes, size ≤ size' + blockSizeOf srcNid cluster
  total : sizes.sum = borrowSize / blockSizeOf srcNid cluster * blockSizeOf srcNid cluster
  length : sizes.length = srcNumaIds.length
  /-- One result for each NUMA node with a share, in their order. -/
  served : List.Forall₂ Served ((srcNumaIds.zip sizes).filter fun a => a.2 ≠ 0) results
  destBlocks : ∀ d ∈ results.flatMap (·.destParam), blockSizeOf srcNid cluster ∣ d.memSize
  /-- What is taken comes from a NUMA node of another node, and its socket is the right one. -/
  source : ∀ d ∈ results.flatMap (·.destParam), d.destNid ≠ srcNid ∧
    ∃ nodeInfo, cluster.allNodeInfo.lookup d.destNid = some nodeInfo ∧
      ∃ numaInfo, nodeInfo.numaInfos.lookup d.destNumaId = some numaInfo ∧
        numaInfo.socketId = d.destSocketId
  numa : ∀ numaNodeInfoList, cluster.numaNodeInfoList = some numaNodeInfoList →
    ∀ nodeId nodeInfo, cluster.allNodeInfo.lookup nodeId = some nodeInfo →
      ∀ numaId numaInfo, nodeInfo.numaInfos.lookup numaId = some numaInfo →
        takenUnder DestMemoryBorrowParam.numa (results.flatMap (·.destParam)) (nodeId, numaId) ≤
          borrowableMem cluster (reservedInfo1GMap numaNodeInfoList) nodeId numaId numaInfo
  socketLimit : ∀ key, takenUnder DestMemoryBorrowParam.socket (results.flatMap (·.destParam)) key ≤
    MAX_BORROW_PER_SOCKET_KB
  nodeLimit : ∀ nodeId,
    takenUnder DestMemoryBorrowParam.destNid (results.flatMap (·.destParam)) nodeId ≤
      MAX_BORROW_PER_NODE_KB

/-- Whatever the call asks for before it looks at the candidates is known. -/
structure Known (srcNid : String) (srcNumaIds : List Int) (cluster : Cluster) : Prop where
  nonempty : srcNumaIds ≠ []
  block : 0 < blockSizeOf srcNid cluster
  records : cluster.numaNodeInfoList.isSome
  places : ∃ planes, cluster.nodeToPlaneMap = some planes ∧
    ∃ localNumaInfos, cluster.localNumaInfos = some localNumaInfos ∧
      ∀ numaId ∈ srcNumaIds, ∃ socketId,
        BatchBorrowContext.getSocketIdByNumaId localNumaInfos numaId = some socketId ∧
          (planes.lookup (planeKey srcNid socketId)).isSome

section Call

variable {srcNid : String} {srcNumaIds : List Int} {cluster : Cluster} {borrowSize : Nat}
  {ctx ctx' : BatchBorrowContext}

theorem nonempty_of_initialContext (h : initialContext srcNid srcNumaIds cluster = some ctx) :
    srcNumaIds ≠ [] := by
  rintro rfl
  rw [initialContext, List.isEmpty_nil, if_pos rfl] at h
  cases h

theorem exists_initialContext (h : Known srcNid srcNumaIds cluster) :
    ∃ ctx, initialContext srcNid srcNumaIds cluster = some ctx := by
  obtain ⟨planes, hplanes, localNumaInfos, hlocal, -⟩ := h.places
  obtain ⟨numaNodeInfoList, hlist⟩ := Option.isSome_iff_exists.1 h.records
  have hblock := h.block
  unfold initialContext
  rw [if_neg (by simpa using h.nonempty), hplanes, hlist, hlocal]
  rw [blockSizeOf] at hblock
  cases hnode : cluster.allNodeInfo.lookup srcNid with
  | none =>
    rw [hnode] at hblock
    exact absurd hblock (Nat.lt_irrefl 0)
  | some nodeInfo =>
    rw [hnode, Option.map_some, Option.getD_some] at hblock
    dsimp only
    rw [if_neg (Nat.pos_iff_ne_zero.1 hblock)]
    exact ⟨_, rfl⟩

theorem Start.isSome_placeOf (hstart : Start srcNid cluster ctx)
    (h : Known srcNid srcNumaIds cluster) {numaId : Int} (hmem : numaId ∈ srcNumaIds) :
    ctx.placeOf numaId ≠ none := by
  obtain ⟨planes, hplanes, localNumaInfos, hlocal, hplaces⟩ := h.places
  obtain ⟨socketId, hsocket, hplane⟩ := hplaces numaId hmem
  obtain rfl := Option.some.inj (hstart.planes.symm.trans hplanes)
  obtain rfl := Option.some.inj (hstart.localNumaInfos.symm.trans hlocal)
  obtain ⟨planeIndex, hplane⟩ := Option.isSome_iff_exists.1 hplane
  rw [BatchBorrowContext.placeOf, hsocket, Option.bind_some, hstart.own, hplane]
  exact Option.some_ne_none _

theorem dvd_share (block : Nat) (hblock : 0 < block) {a : Int × Nat}
    (h : a ∈ srcNumaIds.zip (calculatePerNumaBorrowSize srcNumaIds borrowSize block)) :
    block ∣ a.2 := by
  rcases mem_calculatePerNumaBorrowSize srcNumaIds borrowSize hblock
      (List.of_mem_zip (a := a.1) (b := a.2) h).2 with hsize | hsize
  · rw [hsize]
    exact Nat.dvd_mul_left ..
  · rw [hsize]
    exact Nat.dvd_add (Nat.dvd_mul_left ..) (Nat.dvd_refl _)

theorem map_snd_zip (srcNumaIds : List Int) (borrowSize block : Nat) :
    (srcNumaIds.zip (calculatePerNumaBorrowSize srcNumaIds borrowSize block)).map (·.2) =
      calculatePerNumaBorrowSize srcNumaIds borrowSize block :=
  List.map_snd_zip (length_calculatePerNumaBorrowSize ..).le

theorem covers_of_processAll (hinit : initialContext srcNid srcNumaIds cluster = some ctx)
    (h : BatchBorrowContext.processAll
      (srcNumaIds.zip (calculatePerNumaBorrowSize srcNumaIds borrowSize ctx.blockSizeKB)) ctx =
        some ctx') :
    Covers srcNid srcNumaIds borrowSize cluster
      (calculatePerNumaBorrowSize srcNumaIds borrowSize (blockSizeOf srcNid cluster))
      ctx'.results := by
  have hstart := start_of_initialContext hinit
  have hpos := hstart.pos
  obtain ⟨haccounts, hsize, hdest, new, hresults, hserved⟩ :=
    processAll_of_some (nodup_remoteNumas srcNid cluster) _ ctx hstart.accounts hpos
      (fun a ha => dvd_share _ hpos ha) hstart.destParams ctx' h
  rw [hstart.results, List.nil_append] at hresults
  have hlog : ctx'.log = ctx'.results.flatMap (·.destParam) := by
    rw [BatchBorrowContext.log, hdest, List.append_nil]
  have hblock := hstart.block
  rw [hblock] at hsize hserved hpos
  refine
    { blocks := fun size hmem => ?_
      even := fun size hmem size' hmem' => ?_
      total := sum_calculatePerNumaBorrowSize _ _ hpos (nonempty_of_initialContext hinit)
      length := length_calculatePerNumaBorrowSize ..
      served := hresults ▸ hserved
      destBlocks := fun d hd => hsize ▸ haccounts.blocks d (hlog ▸ hd)
      source := fun d hd => ?_
      numa := fun numaNodeInfoList hlist nodeId nodeInfo hnode numaId numaInfo hnuma => ?_
      socketLimit := fun key => hlog ▸ haccounts.socketLimit key
      nodeLimit := fun nodeId => hlog ▸ haccounts.nodeLimit nodeId }
  · rcases mem_calculatePerNumaBorrowSize _ _ hpos hmem with rfl | rfl
    · exact Nat.dvd_mul_left ..
    · exact Nat.dvd_add (Nat.dvd_mul_left ..) (Nat.dvd_refl _)
  · have hsizes := mem_calculatePerNumaBorrowSize _ _ hpos hmem
    have hsizes' := mem_calculatePerNumaBorrowSize _ _ hpos hmem'
    omega
  · obtain ⟨c, hc, hdnuma, hdsocket⟩ := haccounts.source d (hlog ▸ hd)
    have hnid : d.destNid = c.nodeId := congrArg Prod.fst hdnuma
    have hnuma : d.destNumaId = c.numaId := congrArg Prod.snd hdnuma
    have hsocket : d.destSocketId = c.socketId := congrArg Prod.snd hdsocket
    obtain ⟨hne, -, -, nodeInfo, hnode, numaInfo, hinfo, hsame, -⟩ := mem_remoteNumas hc
    rw [hnid, hnuma, hsocket]
    exact ⟨hne, nodeInfo, hnode, numaInfo, hinfo, hsame.symm⟩
  · rw [← hlog]
    by_cases hcandidate : ∃ c ∈ remoteNumas srcNid cluster, c.numa = (nodeId, numaId)
    · obtain ⟨c, hc, hkey⟩ := hcandidate
      obtain rfl : c.nodeId = nodeId := congrArg Prod.fst hkey
      obtain rfl : c.numaId = numaId := congrArg Prod.snd hkey
      obtain ⟨-, list, hlist', info, hinfo, numa, hnuma', -, hmem⟩ := mem_remoteNumas hc
      obtain rfl := Option.some.inj (hlist.symm.trans hlist')
      obtain rfl := Option.some.inj (hnode.symm.trans hinfo)
      obtain rfl := Option.some.inj (hnuma.symm.trans hnuma')
      exact (haccounts.within c hc).trans hmem.le
    · -- Nothing is taken from what is no candidate.
      refine (summed_eq_zero fun x hx hkey => ?_).le.trans (Nat.zero_le _)
      obtain ⟨d, hd, rfl⟩ := List.mem_map.1 hx
      obtain ⟨c, hc, hdnuma, -⟩ := haccounts.source d hd
      exact absurd ⟨c, hc, hdnuma.symm.trans hkey⟩ hcandidate

/-- **The strategy is exact**: a success covers the shares, and if everything is known it succeeds
just when there is a way to. -/
theorem batchBorrowStrategyImpl_exact (srcNid : String) (srcNumaIds : List Int) (borrowSize : Nat)
    (cluster : Cluster) :
    let sizes := calculatePerNumaBorrowSize srcNumaIds borrowSize (blockSizeOf srcNid cluster)
    (∀ results, batchBorrowStrategyImpl srcNid srcNumaIds borrowSize cluster = some results →
      Covers srcNid srcNumaIds borrowSize cluster sizes results) ∧
    (Known srcNid srcNumaIds cluster →
      ((batchBorrowStrategyImpl srcNid srcNumaIds borrowSize cluster).isSome ↔
        ∃ taken,
          Choice (remoteNumas srcNid cluster) (blockSizeOf srcNid cluster) sizes taken)) := by
  intro sizes
  have hnodup := nodup_remoteNumas srcNid cluster
  constructor
  · intro results h
    rw [batchBorrowStrategyImpl, Option.bind_eq_some_iff] at h
    obtain ⟨ctx, hinit, h⟩ := h
    obtain ⟨ctx', hall, rfl⟩ := Option.map_eq_some_iff.1 h
    exact covers_of_processAll hinit hall
  · intro hknown
    obtain ⟨ctx, hinit⟩ := exists_initialContext hknown
    have hstart := start_of_initialContext hinit
    have hpos := hstart.pos
    have hdvd : ∀ a ∈ srcNumaIds.zip (calculatePerNumaBorrowSize srcNumaIds borrowSize
        ctx.blockSizeKB), ctx.blockSizeKB ∣ a.2 := fun a ha => dvd_share _ hpos ha
    have hsizes := map_snd_zip srcNumaIds borrowSize ctx.blockSizeKB
    rw [batchBorrowStrategyImpl, hinit, Option.bind_some]
    dsimp only
    cases hall : BatchBorrowContext.processAll (srcNumaIds.zip
        (calculatePerNumaBorrowSize srcNumaIds borrowSize ctx.blockSizeKB)) ctx with
    | some ctx' =>
      obtain ⟨haccounts, hsize, hdest, new, hresults, hserved⟩ :=
        processAll_of_some hnodup _ ctx hstart.accounts hpos hdvd hstart.destParams ctx' hall
      rw [hstart.results, List.nil_append] at hresults
      have hchoice := choice_of_served hnodup haccounts hdest (hresults ▸ hserved)
      rw [hsizes, hsize, hstart.block] at hchoice
      exact iff_of_true rfl hchoice
    | none =>
      refine iff_of_false (by simp) ?_
      rintro ⟨taken, hchoice⟩
      rcases processAll_of_none hnodup _ ctx hstart.accounts hpos hdvd hstart.destParams hall with
        ⟨a, ha, hplace⟩ | hexhausted
      · have hmem := (List.of_mem_zip (a := a.1) (b := a.2) ha).1
        exact hstart.isSome_placeOf hknown hmem hplace
      · have hlog : allTaken ctx.log = 0 := by
          rw [BatchBorrowContext.log, hstart.results, hstart.destParams]
          rfl
        rw [hsizes, hlog, Nat.zero_add, hstart.block] at hexhausted
        exact not_choice_of_exhausted hnodup hexhausted taken hchoice

/-- Two nodes lend to the node `a`, one of them on the plane of its NUMA node 0. -/
def twoLenders : Cluster where
  nodeToPlaneMap := some (Map.ofKeys ["a-0", "a-1", "b-0", "c-0"] fun key =>
    if key = "a-1" ∨ key = "c-0" then 1 else 0)
  allNodeInfo := Map.ofKeys ["a", "b", "c"] fun _ =>
    { blockSize := 1024
      numaInfos := Map.ofKeys [0] fun _ =>
        { socketId := 0, nr_hugepages_1G := 4, free_hugepages_1G := 3 } }
  numaNodeInfoList := some []
  localNumaInfos := some [⟨0, 0⟩, ⟨1, 1⟩]

/-- Six blocks are there for five that are asked for. -/
theorem batchBorrowStrategyImpl_exact_twoLenders :
    Covers "a" [0, 1] 5242880 twoLenders [3145728, 2097152]
      [⟨"a", 0, 0, 3145728, [⟨"b", 0, 0, 3145728⟩]⟩,
        ⟨"a", 1, 1, 2097152, [⟨"c", 0, 0, 2097152⟩]⟩] ∧
    ∃ taken, Choice (remoteNumas "a" twoLenders) 1048576 [3145728, 2097152] taken := by
  have h := batchBorrowStrategyImpl_exact "a" [0, 1] 5242880 twoLenders
  have hknown : Known "a" [0, 1] twoLenders :=
    ⟨by decide, by decide +kernel, rfl, _, rfl, _, rfl, by decide +kernel⟩
  exact ⟨h.1 _ (by decide +kernel), (h.2 hknown).1 (by decide +kernel)⟩

end Call

end BatchBorrow

end UbsEngine
