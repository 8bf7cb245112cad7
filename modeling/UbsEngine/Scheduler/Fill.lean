import Mathlib.Algebra.BigOperators.Ring.List
import Mathlib.Algebra.Ring.Nat
import UbsEngine.Scheduler.Classify

/-!
# The filter on free memory and the filling

`FreeMemoryFilter` keeps a socket when the whole blocks its numas can lend cover the request,
and the filling takes these blocks from one numa after the other, in an order that depends on
the strategy. Both come to the same sum: the filling of a socket that is kept covers the
request, whatever the order (`UbsEngine.Scheduler.exactFill_of_kept`), and a filling that
fails has met too little memory (`UbsEngine.Scheduler.lendable_lt_of_fails`).

The last piece is what remains of the request. It is made of whole blocks exactly when the
request is, and a request is rounded up to the block of the node that *borrows*, which need
not be a lender and need not have the block of the lenders
(`UbsEngine.Scheduler.agrees_iff`).
-/

namespace UbsEngine

namespace Scheduler

open SchedulerRequest

/-! ### Sums of whole blocks -/

theorem bump_le (c x : Nat) : bump c x ≤ c + x := by
  rw [bump, safeAdd]
  split
  · exact le_rfl
  · exact Nat.le_add_right c x

theorem safeSum_le (xs : List Nat) : safeSum xs ≤ xs.sum := by
  suffices h : ∀ c, xs.foldl bump c ≤ c + xs.sum by simpa [safeSum] using h 0
  induction xs with
  | nil => exact fun c => le_rfl
  | cons x xs ih =>
    intro c
    rw [List.foldl_cons, List.sum_cons]
    calc xs.foldl bump (bump c x) ≤ bump c x + xs.sum := ih _
      _ ≤ c + x + xs.sum := Nat.add_le_add_right (bump_le c x) _
      _ = c + (x + xs.sum) := Nat.add_assoc c x _

/-- The whole blocks that some numas can lend. -/
def lendable (waterLine block : Nat) (numas : List (NumaId × SchedulerNumaInfo)) : Nat :=
  (numas.map fun n => floorBlock (n.2.getAvailableLendSize waterLine) block).sum

theorem lendable_perm {waterLine block : Nat} {numas numas' : List (NumaId × SchedulerNumaInfo)}
    (h : numas.Perm numas') : lendable waterLine block numas = lendable waterLine block numas' :=
  (h.map _).sum_eq

section Fill

variable {waterLine block : Nat}

/-- Less than one whole block is none. -/
theorem floorBlock_eq_zero {size : Nat} (h : floorBlock size block < block) :
    floorBlock size block = 0 := by
  rw [floorBlock] at h ⊢
  rw [Nat.mul_eq_zero]
  refine Or.inl (Nat.lt_one_iff.1 ?_)
  exact Nat.lt_of_mul_lt_mul_right (a := block) (by rwa [Nat.one_mul])

/-- **What remains of a filling**: the request without all that the numas can lend. -/
theorem fillPieces_rest (numas : List (NumaId × SchedulerNumaInfo)) (remaining : Nat) :
    (fillPieces waterLine block numas remaining).2 = remaining - lendable waterLine block numas := by
  induction numas generalizing remaining with
  | nil => rfl
  | cons e numas ih =>
    obtain ⟨numaId, numa⟩ := e
    rw [fillPieces, lendable, List.map_cons, List.sum_cons]
    dsimp only
    split
    next hskip =>
      rw [ih, lendable]
      rcases hskip with hzero | hless
      · rw [hzero, Nat.zero_sub, Nat.zero_sub]
      · rw [floorBlock_eq_zero hless, Nat.zero_add]
    next =>
      rw [ih, lendable]
      omega

/-- A piece is not above what its numa can lend in whole blocks. -/
theorem fillPieces_le {numas : List (NumaId × SchedulerNumaInfo)} {remaining : Nat} {p : Piece}
    (hp : p ∈ (fillPieces waterLine block numas remaining).1) :
    ∃ numa, (p.1, numa) ∈ numas ∧
      p.2 ≤ floorBlock (numa.getAvailableLendSize waterLine) block := by
  induction numas generalizing remaining with
  | nil => cases hp
  | cons e numas ih =>
    obtain ⟨numaId, numa⟩ := e
    have hrest : ∀ {remaining}, p ∈ (fillPieces waterLine block numas remaining).1 →
        ∃ numa', (p.1, numa') ∈ (numaId, numa) :: numas ∧
          p.2 ≤ floorBlock (numa'.getAvailableLendSize waterLine) block := by
      intro remaining hp
      obtain ⟨numa', hmem, hle⟩ := ih hp
      exact ⟨numa', List.mem_cons_of_mem _ hmem, hle⟩
    rw [fillPieces] at hp
    dsimp only at hp
    split at hp
    · exact hrest hp
    · rcases List.mem_cons.1 hp with rfl | hp
      · exact ⟨numa, List.mem_cons_self, Nat.min_le_left _ _⟩
      · exact hrest hp

/-- The pieces of a request of whole blocks are whole blocks. -/
theorem fillPieces_dvd {numas : List (NumaId × SchedulerNumaInfo)} {remaining : Nat}
    (hdvd : block ∣ remaining) {p : Piece}
    (hp : p ∈ (fillPieces waterLine block numas remaining).1) : block ∣ p.2 := by
  induction numas generalizing remaining with
  | nil => cases hp
  | cons e numas ih =>
    obtain ⟨numaId, numa⟩ := e
    have hmin : block ∣ min (floorBlock (numa.getAvailableLendSize waterLine) block) remaining := by
      rcases Nat.le_total (floorBlock (numa.getAvailableLendSize waterLine) block) remaining
        with hle | hle
      · rw [Nat.min_eq_left hle]
        exact Nat.dvd_mul_left _ _
      · rwa [Nat.min_eq_right hle]
    rw [fillPieces] at hp
    dsimp only at hp
    split at hp
    · exact ih hdvd hp
    · rcases List.mem_cons.1 hp with rfl | hp
      · exact hmin
      · exact ih (Nat.dvd_sub hdvd hmin) hp

end Fill

/-! ### The strategies -/

section Strategies

variable {s : SchedulerImpl} {choice : Choice} {request : SchedulerRequest}
variable {node : NodeId × SocketId} {info : SchedulerNodeInfo} {algoResult : UbseMemAlgoResult}

/-- A layout is whole when nothing remains. -/
def filled (request : SchedulerRequest) (info : SchedulerNodeInfo) (node : NodeId × SocketId)
    (numas : List (NumaId × SchedulerNumaInfo)) (algoResult : UbseMemAlgoResult) :
    UbseMemAlgoResult × UbseResult :=
  let pieces := fillPieces request.waterLine info.blockBytes numas request.requestSize
  (layPieces request node pieces.1 algoResult, if pieces.2 > 0 then .error .error else .ok ())

/-- **Either strategy fills the numas of the socket in some order**, unless there are none. -/
theorem select_eq_filled (request : SchedulerRequest) (algoResult : UbseMemAlgoResult)
    (hinfo : s.nodeInfo.getNodeInfo node.1 = some info)
    (hb : algoResult.blockSize = info.blockSize) (hne : getSortedNumaList s choice node ≠ []) :
    (∃ numas, numas.Perm (info.getAllNumaInfos node.2) ∧
        selectNumaByFreeMemory s choice request node algoResult =
          filled request info node numas algoResult) ∧
      ∃ numas, numas.Perm (info.getAllNumaInfos node.2) ∧
        selectNumaByReliable s choice request node algoResult =
          filled request info node numas algoResult := by
  have hperm := getSortedNumaList_perm hinfo hne
  rcases hlist : getSortedNumaList s choice node with _ | ⟨e, numas⟩
  · exact absurd hlist hne
  rw [hlist] at hperm
  constructor
  · refine ⟨e :: numas, hperm, ?_⟩
    rw [selectNumaByFreeMemory, hlist]
    dsimp only
    rw [fillFromNumaList_eq, placementBlock_of_blockSize hb]
    rfl
  · let provided := fun n : NumaId × SchedulerNumaInfo =>
      s.account.borrowedByRequestor node.1 node.2 request.importNodeId n.1
    let order := fewBorrowersFirst (s.account.borrowerCount node.1 node.2) choice.tie
    refine ⟨((e :: numas).filter provided).insertionSort order ++
      ((e :: numas).filter fun n => !provided n).insertionSort order, ?_, ?_⟩
    · refine List.Perm.trans ?_ hperm
      exact (List.Perm.append (List.perm_insertionSort _ _) (List.perm_insertionSort _ _)).trans
        (List.filter_append_perm _ (e :: numas))
    · rw [selectNumaByReliable, hlist]
      dsimp only
      rw [← fillFromNumaList_append, fillFromNumaList_eq, placementBlock_of_blockSize hb]
      rfl

theorem getSortedNumaList_eq_nil (hinfo : s.nodeInfo.getNodeInfo node.1 = some info)
    (h : getSortedNumaList s choice node = []) (hsocket : (info.getSocketInfo node.2).isSome) :
    info.getAllNumaInfos node.2 = [] := by
  obtain ⟨socket, hsocket⟩ := Option.isSome_iff_exists.1 hsocket
  rw [getSortedNumaList, hinfo] at h
  dsimp only at h
  rw [hsocket] at h
  have hlen := congrArg List.length h
  rw [List.length_insertionSort] at hlen
  exact List.eq_nil_of_length_eq_zero hlen

/-- **What a request without numas of its own is laid out as.** -/
theorem fillAlgoResult_eq (choice : Choice) (algoResult : UbseMemAlgoResult)
    (hinfo : s.nodeInfo.getNodeInfo node.1 = some info)
    (hblock : info.blockSize ≠ 0) (hl : placingLenders request = none) :
    (getSortedNumaList s choice node = [] ∧
        (fillAlgoResult s choice request node algoResult).2 = .error .error) ∨
      ∃ numas, numas.Perm (info.getAllNumaInfos node.2) ∧
        fillAlgoResult s choice request node algoResult =
          filled request info node numas
            { algoResult with blockSize := info.blockSize, attachSocketId := node.2 } := by
  rw [fillAlgoResult, hinfo]
  dsimp only
  rw [if_neg hblock, hl]
  dsimp only
  by_cases hne : getSortedNumaList s choice node = []
  · refine Or.inl ⟨hne, ?_⟩
    split
    · rw [selectNumaByReliable, hne]
    · rw [selectNumaByFreeMemory, hne]
  · obtain ⟨hfree, hreliable⟩ := select_eq_filled request
      { algoResult with blockSize := info.blockSize, attachSocketId := node.2 }
      hinfo rfl hne
    refine Or.inr ?_
    split
    · exact hreliable
    · exact hfree

/-- **A filling that fails** has met less than the request, in whole blocks. -/
theorem lendable_lt_of_fails (request : SchedulerRequest)
    (hinfo : s.nodeInfo.getNodeInfo node.1 = some info)
    (hl : placingLenders request = none) (hpos : 0 < request.requestSize)
    (hsocket : (info.getSocketInfo node.2).isSome)
    (h : (fillAlgoResult s choice request node algoResult).2 ≠ .ok ()) :
    lendable request.waterLine info.blockBytes (info.getAllNumaInfos node.2) <
      request.requestSize := by
  by_cases hblock : info.blockSize = 0
  · -- Without a block no numa lends anything.
    have hzero : info.blockBytes = 0 := by
      rw [SchedulerNodeInfo.blockBytes, hblock]
      rfl
    rw [hzero, lendable]
    refine lt_of_eq_of_lt (List.sum_eq_zero ?_) hpos
    intro x hx
    obtain ⟨n, -, rfl⟩ := List.mem_map.1 hx
    rw [floorBlock, Nat.mul_zero]
  · rcases fillAlgoResult_eq choice algoResult hinfo hblock hl with
      ⟨hnil, -⟩ | ⟨numas, hperm, hfill⟩
    · rw [getSortedNumaList_eq_nil hinfo hnil hsocket]
      exact hpos
    · rw [hfill, filled] at h
      dsimp only at h
      rw [fillPieces_rest, lendable_perm hperm] at h
      by_contra hge
      rw [if_neg (by omega)] at h
      exact h rfl

end Strategies

/-! ### Agreement -/

section Agreement

variable (s : SchedulerImpl) (request : SchedulerRequest)

/-- **An exact filling** of a socket of a node. -/
structure ExactFill (c : NodeId × SocketId) (fill : UbseMemAlgoResult × UbseResult) : Prop where
  /-- It succeeds. -/
  ok : fill.2 = .ok ()
  /-- No numa is used twice. -/
  once : (fill.1.exportNumaInfos.map (·.numa)).Nodup
  /-- Every piece is on a numa of the socket, made of whole blocks of the node, and not above the
  whole blocks that the numa can lend. -/
  piece : ∀ loc ∈ fill.1.exportNumaInfos, ∃ node numa, s.nodeInfo.getNodeInfo c.1 = some node ∧
    (loc.numa, numa) ∈ node.getAllNumaInfos c.2 ∧ loc.nodeId = c.1 ∧ loc.socket = c.2 ∧
      0 < loc.size ∧ node.blockBytes ∣ loc.size ∧
      loc.size ≤ floorBlock (numa.getAvailableLendSize request.waterLine) node.blockBytes
  /-- Together the pieces are the request. -/
  sum : (fill.1.exportNumaInfos.map (·.size)).sum = request.requestSize
  /-- A borrow imports what is exported. -/
  mirror : fill.1.importNumaInfos = match request.requestMode with
    | .borrow => fill.1.exportNumaInfos.map fun loc => { loc with nodeId := request.importNodeId }
    | .share => []

/-- The request under one of the strategies. -/
def SchedulerRequest.balanced (balance : Bool) : SchedulerRequest :=
  { request with lenderBalance := balance }

/-- **The filter and the filling agree**: what `FreeMemoryFilter` keeps of some nodes is filled
exactly by either strategy, and a socket whose filling fails cannot lend the request. -/
structure Agree (nodes : List NodeInfo) : Prop where
  kept : ∀ c ∈ candidates (freeMemoryFilter s.nodeInfo request nodes).1, ∀ choice balance,
    ExactFill s request c (fillAlgoResult s choice (request.balanced balance) c {})
  fails : ∀ c info, s.nodeInfo.getNodeInfo c.1 = some info → (info.getSocketInfo c.2).isSome →
    ∀ choice balance, (fillAlgoResult s choice (request.balanced balance) c {}).2 ≠ .ok () →
      lendable request.waterLine info.blockBytes (info.getAllNumaInfos c.2) < request.requestSize

/-- The request is made of whole blocks of the node of a candidate. -/
def WholeBlocks (c : NodeId × SocketId) : Prop :=
  ∀ info, s.nodeInfo.getNodeInfo c.1 = some info → info.blockBytes ∣ request.requestSize

variable {s request} {nodes : List NodeInfo} {c : NodeId × SocketId}

/-- `FreeMemoryFilter`: the whole blocks of the numas of a socket cover the request. -/
theorem freeMemory_passed (hpos : 0 < request.requestSize)
    (hc : c ∈ candidates (freeMemoryFilter s.nodeInfo request nodes).1) :
    ∃ info, s.nodeInfo.getNodeInfo c.1 = some info ∧ info.blockSize ≠ 0 ∧
      (info.getSocketInfo c.2).isSome ∧ request.requestSize ≤
        lendable request.waterLine info.blockBytes (info.getAllNumaInfos c.2) := by
  obtain ⟨node, -, hn, ⟨socketInfo, hsocket, hs⟩, -⟩ := mem_candidates_map
    (shrinks_freeMemoryNode s.nodeInfo request)
    (mem_candidates_removeEmptyNodes (n := c.1) (s := c.2) hc)
  rw [freeMemoryNode, if_neg hpos.ne', hn] at hsocket
  split at hsocket
  · cases hsocket
  next info hinfo =>
    rw [freeMemorySockets, sizeMb2Byte_toNat, Option.elim_some] at hsocket
    split at hsocket
    · cases hsocket
    next hblock =>
      obtain ⟨-, hroom⟩ := List.mem_filter.1 hsocket
      rw [Bool.and_eq_true, hs, decide_eq_true_eq] at hroom
      refine ⟨info, hinfo, hblock, hroom.1, hroom.2.trans ?_⟩
      have hbytes : info.blockSize.toNat * 2 ^ 20 ≠ 0 :=
        (SchedulerNodeInfo.blockBytes_pos hblock).ne'
      rw [SchedulerNodeInfo.getSocketAvailableLendSize, if_neg hbytes]
      exact safeSum_le _

/-- The pieces of a layout as they stand in the result. -/
theorem exportNumaInfos_filled (request : SchedulerRequest) (c : NodeId × SocketId)
    (info : SchedulerNodeInfo) (numas : List (NumaId × SchedulerNumaInfo))
    (algoResult : UbseMemAlgoResult) (he : algoResult.exportNumaInfos = []) :
    (filled request info c numas algoResult).1.exportNumaInfos =
      (fillPieces request.waterLine info.blockBytes numas request.requestSize).1.map
        fun p => exportPiece c.1 c.2 p.1 p.2 := by
  rw [filled, exportNumaInfos_layPieces, he, List.nil_append]

theorem numa_exportPiece (n : NodeId) (socketId : SocketId) (k : NumaId) (size : Nat) :
    (exportPiece n socketId k size).numa = k := ofInt_toNat k

theorem socket_exportPiece (n : NodeId) (socketId : SocketId) (k : NumaId) (size : Nat) :
    (exportPiece n socketId k size).socket = socketId := ofInt_asInt32 socketId

theorem nodup_getAllNumaInfos (info : SchedulerNodeInfo) (socketId : SocketId) :
    ((info.getAllNumaInfos socketId).map (·.1)).Nodup := by
  rw [SchedulerNodeInfo.getAllNumaInfos]
  refine (((List.perm_insertionSort _ _).map _).nodup_iff).2 ?_
  refine List.Nodup.sublist (List.filter_sublist.map _) ?_
  rw [List.map_map]
  exact info.numaInfoMap.nodupKeys

/-- **What is kept is filled exactly**, up to the blocks of the pieces: these are whole exactly
when the request is. -/
theorem exactFill_of_kept (hl : placingLenders request = none) (hpos : 0 < request.requestSize)
    (hc : c ∈ candidates (freeMemoryFilter s.nodeInfo request nodes).1) (choice : Choice)
    (balance : Bool) :
    ExactFill s request c (fillAlgoResult s choice (request.balanced balance) c {}) ↔
      WholeBlocks s request c := by
  obtain ⟨info, hinfo, hblock, hsocket, hroom⟩ := freeMemory_passed hpos hc
  have hbytes := SchedulerNodeInfo.blockBytes_pos hblock
  have hl' : placingLenders (request.balanced balance) = none := hl
  rcases fillAlgoResult_eq choice {} hinfo hblock hl' with
    ⟨hnil, -⟩ | ⟨numas, hperm, hfill⟩
  · rw [getSortedNumaList_eq_nil hinfo hnil hsocket] at hroom
    exact absurd hroom (Nat.not_le_of_gt hpos)
  rw [hfill]
  have hrest : (fillPieces request.waterLine info.blockBytes numas request.requestSize).2 = 0 := by
    rw [fillPieces_rest, lendable_perm hperm]
    exact Nat.sub_eq_zero_of_le hroom
  have hsum := sum_fillPieces request.waterLine info.blockBytes numas request.requestSize
  rw [hrest, Nat.add_zero] at hsum
  have hexports := exportNumaInfos_filled (request.balanced balance) c info numas
    { ({} : UbseMemAlgoResult) with blockSize := info.blockSize, attachSocketId := c.2 } rfl
  constructor
  · -- Pieces of whole blocks add up to whole blocks.
    intro h info' hinfo'
    obtain rfl : info = info' := Option.some.inj (hinfo.symm.trans hinfo')
    rw [← h.sum]
    refine List.dvd_sum fun size hsize => ?_
    obtain ⟨loc, hloc, rfl⟩ := List.mem_map.1 hsize
    obtain ⟨node, -, hnode, -, -, -, -, hdvd, -⟩ := h.piece loc hloc
    obtain rfl : info = node := Option.some.inj (hinfo.symm.trans hnode)
    exact hdvd
  · intro hwhole
    refine ⟨?_, ?_, ?_, ?_, ?_⟩
    · rw [filled]
      dsimp only
      rw [show (request.balanced balance).waterLine = request.waterLine from rfl,
        show (request.balanced balance).requestSize = request.requestSize from rfl, hrest]
      rfl
    · rw [hexports, List.map_map]
      have hids : ((fun loc : UbseMemDebtNumaInfo => loc.numa) ∘
          fun p : Piece => exportPiece c.1 c.2 p.1 p.2) = fun p => p.1 :=
        funext fun p => numa_exportPiece c.1 c.2 p.1 p.2
      rw [hids]
      refine List.Nodup.sublist (fillPieces_sublist numas _) ?_
      exact ((hperm.map _).nodup_iff).2 (nodup_getAllNumaInfos info c.2)
    · intro loc hloc
      rw [hexports] at hloc
      obtain ⟨p, hp, rfl⟩ := List.mem_map.1 hloc
      obtain ⟨numa, hnuma, hle⟩ := fillPieces_le hp
      refine ⟨info, numa, hinfo, ?_, rfl, socket_exportPiece _ _ _ _, fillPieces_pos hbytes hp,
        fillPieces_dvd (hwhole info hinfo) hp, hle⟩
      rw [numa_exportPiece]
      exact hperm.subset hnuma
    · rw [hexports, List.map_map]
      exact hsum
    · rw [hexports, filled, importNumaInfos_layPieces, List.nil_append]
      have hmode : (request.balanced balance).requestMode = request.requestMode := rfl
      rw [hmode]
      cases request.requestMode with
      | borrow =>
        dsimp only
        rw [List.map_map]
        rfl
      | share => rfl

/-- **The filter and the filling, exactly**: for a request without numas of its own they agree if
and only if the request is made of whole blocks of every node the filter keeps. -/
theorem agrees_iff (s : SchedulerImpl) {request : SchedulerRequest}
    (hl : placingLenders request = none) (hpos : 0 < request.requestSize) (nodes : List NodeInfo) :
    Agree s request nodes ↔
      ∀ c ∈ candidates (freeMemoryFilter s.nodeInfo request nodes).1, WholeBlocks s request c := by
  constructor
  · intro h c hc
    exact (exactFill_of_kept hl hpos hc ⟨c, fun _ => 0⟩ false).1 (h.kept c hc _ _)
  · intro h
    constructor
    · intro c hc choice balance
      exact (exactFill_of_kept hl hpos hc choice balance).2 (h c hc)
    · intro c info hinfo hsocket choice balance hfails
      have hl' : placingLenders (request.balanced balance) = none := hl
      exact lendable_lt_of_fails (request.balanced balance) hinfo hl' hpos hsocket hfails

end Agreement

/-! ### Blocks of the borrower and of the lender -/

theorem alignRequestSize_of_some {size blockSizeMb blockBytes aligned : Nat}
    (hbytes : sizeMb2Byte blockSizeMb = some blockBytes)
    (hadd : safeAdd size (blockBytes - 1) = some aligned) (hne : ¬ (size = 0 ∨ blockSizeMb = 0)) :
    alignRequestSize size blockSizeMb = aligned / blockBytes * blockBytes := by
  simp only [alignRequestSize, if_neg hne, hbytes, hadd]

/-- A size that is rounded up is made of whole blocks. -/
theorem dvd_alignRequestSize (size : Nat) {blockSizeMb : Nat}
    (hblock : blockSizeMb * 2 ^ 20 < 2 ^ 64)
    (hne : blockSizeMb ≠ 0) (hfits : size + (blockSizeMb * 2 ^ 20 - 1) < 2 ^ 64) :
    blockSizeMb * 2 ^ 20 ∣ alignRequestSize size blockSizeMb := by
  by_cases hsize : size = 0
  · rw [alignRequestSize, if_pos (.inl hsize), hsize]
    exact Nat.dvd_zero _
  · rw [alignRequestSize_of_some (if_pos hblock) (if_pos hfits) (not_or.2 ⟨hsize, hne⟩)]
    exact Nat.dvd_mul_left _ _

/-- **Where borrower and lender have the same block, the request is made of whole blocks.** -/
theorem wholeBlocks_of_same_block {s : SchedulerImpl} {req : UbseMemFdBorrowReq}
    {c : NodeId × SocketId} {info : SchedulerNodeInfo}
    (hinfo : s.nodeInfo.getNodeInfo c.1 = some info) (hblock : info.blockSize ≠ 0)
    (hsame : getRequestNodeBlockSize req.importNodeId req.requestNodeId s.nodeInfo =
      info.blockSize.toNat)
    (hfits : req.size + (info.blockBytes - 1) < 2 ^ 64) :
    WholeBlocks s (buildRequest (.fd req) s.nodeInfo) c := by
  intro info' hinfo'
  obtain rfl : info = info' := Option.some.inj (hinfo.symm.trans hinfo')
  have hne : info.blockSize.toNat ≠ 0 := fun h0 => hblock (UInt32.toNat_inj.1 h0)
  have hlt := info.blockSize.toNat_lt
  have hdvd := dvd_alignRequestSize req.size (by omega) hne hfits
  rw [← hsame] at hdvd
  rw [SchedulerNodeInfo.blockBytes, ← hsame]
  exact hdvd

/-- A request for two blocks, between nodes with the same block. -/
theorem agree_linkedState :
    Agree (refresh linkedState linkedCluster).1
      (buildRequest (sizeRequest (2 ^ 28)) linkedState.nodeInfo)
      (refresh linkedState linkedCluster).1.nodeInfo.getAllNodes := by
  refine (agrees_iff _ rfl (by decide) _).2 fun c hc info hinfo => ?_
  have hall : ∀ c ∈ candidates (freeMemoryFilter (refresh linkedState linkedCluster).1.nodeInfo
      (buildRequest (sizeRequest (2 ^ 28)) linkedState.nodeInfo)
      (refresh linkedState linkedCluster).1.nodeInfo.getAllNodes).1,
      ((refresh linkedState linkedCluster).1.nodeInfo.getNodeInfo c.1).all fun info =>
        decide (info.blockBytes ∣ 2 ^ 28) := by
    decide +kernel
  have hdvd := hall c hc
  rw [hinfo, Option.all_some] at hdvd
  exact of_decide_eq_true hdvd

/-- A node that lends in blocks of 1 GiB, next to one that does not lend and has blocks of
128 MB. -/
def mixedCluster : Cluster where
  nodes := [("1", { borrowerReport with isLender := false }),
    ("2", { lenderReport .working with blockSize := 1024 })]
  deployed := [1, 2]

/-- The scheduler after both have reported. -/
def mixedState : SchedulerImpl :=
  (mixedCluster.nodes.map fun node => SchedulerEvent.nodeObjChange node.2 [1, 2]).foldl
    SchedulerImpl.step (.start {})

/-- A request for one block of the borrower is a piece of a block of the lender. -/
theorem not_agree :
    ¬∀ (conf : SchedulerConf) (s : SchedulerImpl), (schedulerSystem conf).Reachable s →
      ∀ (cluster : Cluster) (req : MemReq),
      placingLenders (buildRequest req s.nodeInfo) = none →
      0 < (buildRequest req s.nodeInfo).requestSize →
      Agree (refresh s cluster).1 (buildRequest req s.nodeInfo)
        (refresh s cluster).1.nodeInfo.getAllNodes := by
  intro h
  have hagree := h {} mixedState ⟨_, _, rfl, System.run_trace _ _ _ _⟩ mixedCluster
    (sizeRequest (2 ^ 27)) rfl (by decide +kernel)
  have hfill := hagree.kept ("2", 0) (by decide +kernel) pickTwo false
  have hlocs : (fillAlgoResult (refresh mixedState mixedCluster).1 pickTwo
      ((buildRequest (sizeRequest (2 ^ 27)) mixedState.nodeInfo).balanced false)
      ("2", 0) {}).1.exportNumaInfos = [exportPiece "2" 0 0 (2 ^ 27)] := by
    decide +kernel
  obtain ⟨node, -, hnode, -, -, -, -, hdvd, -⟩ :=
    hfill.piece (exportPiece "2" 0 0 (2 ^ 27)) (by rw [hlocs]; exact List.mem_singleton.2 rfl)
  have hblock : ((refresh mixedState mixedCluster).1.nodeInfo.getNodeInfo "2").map
      (·.blockBytes) = some (2 ^ 30) := by
    decide +kernel
  rw [hnode, Option.map_some, Option.some.injEq] at hblock
  rw [hblock] at hdvd
  exact absurd hdvd (by decide)

end Scheduler

end UbsEngine
