import UbsEngine.Scheduler.FilterSpec

/-!
# What a successful placement lays out

A request that is placed goes to one socket, the candidate the scores picked, in pieces: a
numa and a size each. This file says which pieces, apart from how the result is built up
(`UbsEngine.Scheduler.scheduleBorrow_lays`):

* where the request names lenders, each lender's size, rounded up to blocks;
* where an address request names one, the exact size of the request;
* otherwise what the numas of the socket can give, in whole blocks, until the request is
  covered.
-/

namespace UbsEngine

namespace Scheduler

/-- A piece of a placement: a numa and a size. -/
abbrev Piece := NumaId × Nat

/-! ### Pieces in a result -/

section Lay

variable (request : SchedulerRequest) (node : NodeId × SocketId)

/-- The pieces added to a result, one after the other. -/
def layPieces (pieces : List Piece) (algoResult : UbseMemAlgoResult) : UbseMemAlgoResult :=
  pieces.foldl (fun algoResult p => addPiece request node.1 node.2 p.1 p.2 algoResult) algoResult

@[simp] theorem layPieces_nil (algoResult : UbseMemAlgoResult) :
    layPieces request node [] algoResult = algoResult := rfl

theorem layPieces_cons (p : Piece) (pieces : List Piece) (algoResult : UbseMemAlgoResult) :
    layPieces request node (p :: pieces) algoResult =
      layPieces request node pieces (addPiece request node.1 node.2 p.1 p.2 algoResult) := rfl

theorem exportNumaInfos_layPieces (pieces : List Piece) (algoResult : UbseMemAlgoResult) :
    (layPieces request node pieces algoResult).exportNumaInfos =
      algoResult.exportNumaInfos ++ pieces.map fun p => exportPiece node.1 node.2 p.1 p.2 := by
  induction pieces generalizing algoResult with
  | nil => simp
  | cons p pieces ih =>
    rw [layPieces_cons, ih]
    simp [addPiece]

theorem importNumaInfos_layPieces (pieces : List Piece) (algoResult : UbseMemAlgoResult) :
    (layPieces request node pieces algoResult).importNumaInfos =
      algoResult.importNumaInfos ++ match request.requestMode with
        | .borrow => pieces.map fun p => exportPiece request.importNodeId node.2 p.1 p.2
        | .share => [] := by
  induction pieces generalizing algoResult with
  | nil => cases request.requestMode <;> simp
  | cons p pieces ih =>
    rw [layPieces_cons, ih]
    cases h : request.requestMode <;> simp [addPiece, h]

@[simp] theorem blockSize_layPieces (pieces : List Piece) (algoResult : UbseMemAlgoResult) :
    (layPieces request node pieces algoResult).blockSize = algoResult.blockSize := by
  induction pieces generalizing algoResult with
  | nil => rfl
  | cons p pieces ih => rw [layPieces_cons, ih]; rfl

theorem layPieces_append (pieces pieces' : List Piece) (algoResult : UbseMemAlgoResult) :
    layPieces request node (pieces ++ pieces') algoResult =
      layPieces request node pieces' (layPieces request node pieces algoResult) :=
  List.foldl_append

theorem placementBlock_layPieces (pieces : List Piece) (algoResult : UbseMemAlgoResult) :
    placementBlock (layPieces request node pieces algoResult) = placementBlock algoResult := by
  unfold placementBlock
  rw [blockSize_layPieces]

end Lay

/-! ### Filling numas -/

/-- The pieces `FillFromNumaList` lays, and what remains: the recursion of
`UbsEngine.Scheduler.fillFromNumaList` without the result. -/
def fillPieces (waterLine block : Nat) : List (NumaId × SchedulerNumaInfo) → Nat → List Piece × Nat
  | [], remaining => ([], remaining)
  | (numaId, numa) :: numas, remaining =>
    let available := floorBlock (numa.getAvailableLendSize waterLine) block
    if remaining = 0 ∨ available < block then fillPieces waterLine block numas remaining
    else
      let rest := fillPieces waterLine block numas (remaining - min available remaining)
      ((numaId, min available remaining) :: rest.1, rest.2)

section Fill

variable {waterLine block : Nat}

theorem fillPieces_zero (numas : List (NumaId × SchedulerNumaInfo)) :
    fillPieces waterLine block numas 0 = ([], 0) := by
  induction numas with
  | nil => rfl
  | cons e numas ih =>
    obtain ⟨numaId, numa⟩ := e
    simp [fillPieces, ih]

theorem fillFromNumaList_eq (request : SchedulerRequest) (node : NodeId × SocketId)
    (numas : List (NumaId × SchedulerNumaInfo)) (algoResult : UbseMemAlgoResult)
    (remaining : Nat) :
    fillFromNumaList request node numas algoResult remaining =
      (layPieces request node
        (fillPieces request.waterLine (placementBlock algoResult) numas remaining).1 algoResult,
        (fillPieces request.waterLine (placementBlock algoResult) numas remaining).2) := by
  induction numas generalizing algoResult remaining with
  | nil => rfl
  | cons e numas ih =>
    obtain ⟨numaId, numa⟩ := e
    unfold fillFromNumaList fillPieces
    by_cases hr : remaining = 0
    · simp [hr, fillPieces_zero]
    · simp only [hr, if_false, false_or]
      split
      · exact ih algoResult remaining
      · have hblock := placementBlock_layPieces request node [(numaId, min (floorBlock
          (numa.getAvailableLendSize request.waterLine) (placementBlock algoResult)) remaining)]
          algoResult
        rw [layPieces_cons, layPieces_nil] at hblock
        rw [ih, hblock, layPieces_cons]

theorem fillPieces_append (numas numas' : List (NumaId × SchedulerNumaInfo)) (remaining : Nat) :
    fillPieces waterLine block (numas ++ numas') remaining =
      ((fillPieces waterLine block numas remaining).1 ++
          (fillPieces waterLine block numas' (fillPieces waterLine block numas remaining).2).1,
        (fillPieces waterLine block numas' (fillPieces waterLine block numas remaining).2).2) := by
  induction numas generalizing remaining with
  | nil => rfl
  | cons e numas ih =>
    obtain ⟨numaId, numa⟩ := e
    simp only [List.cons_append, fillPieces]
    split
    · exact ih remaining
    · rw [ih]
      rfl

theorem fillFromNumaList_append (request : SchedulerRequest) (node : NodeId × SocketId)
    (numas numas' : List (NumaId × SchedulerNumaInfo)) (algoResult : UbseMemAlgoResult)
    (remaining : Nat) :
    fillFromNumaList request node (numas ++ numas') algoResult remaining =
      fillFromNumaList request node numas'
        (fillFromNumaList request node numas algoResult remaining).1
        (fillFromNumaList request node numas algoResult remaining).2 := by
  simp only [fillFromNumaList_eq, fillPieces_append, layPieces_append, placementBlock_layPieces]

/-- A filling that succeeds leaves nothing. -/
theorem eq_of_fill_ok {fill : UbseMemAlgoResult × Nat} {r : UbseMemAlgoResult}
    (h : ((fill.1, if fill.2 > 0 then .error .error else .ok ()) : UbseMemAlgoResult × UbseResult) =
      (r, .ok ())) : fill = (r, 0) := by
  obtain ⟨hr, hrest⟩ := Prod.mk.inj h
  refine Prod.ext hr (by_contra fun hpos => ?_)
  rw [if_pos (Nat.pos_of_ne_zero hpos)] at hrest
  cases hrest

/-- Together the pieces are what was asked for, without what remains. -/
theorem sum_fillPieces (waterLine block : Nat) (numas : List (NumaId × SchedulerNumaInfo))
    (remaining : Nat) :
    ((fillPieces waterLine block numas remaining).1.map (·.2)).sum +
      (fillPieces waterLine block numas remaining).2 = remaining := by
  induction numas generalizing remaining with
  | nil => simp [fillPieces]
  | cons e numas ih =>
    obtain ⟨numaId, numa⟩ := e
    unfold fillPieces
    dsimp only
    split
    · exact ih remaining
    · have := ih (remaining -
        min (floorBlock (numa.getAvailableLendSize waterLine) block) remaining)
      simp only [List.map_cons, List.sum_cons]
      omega

/-- No piece is empty. -/
theorem fillPieces_pos (hb : 0 < block) {numas : List (NumaId × SchedulerNumaInfo)}
    {remaining : Nat} {p : Piece} (hp : p ∈ (fillPieces waterLine block numas remaining).1) :
    0 < p.2 := by
  induction numas generalizing remaining with
  | nil => cases hp
  | cons e numas ih =>
    obtain ⟨numaId, numa⟩ := e
    unfold fillPieces at hp
    dsimp only at hp
    split at hp
    · exact ih hp
    next h =>
      rcases List.mem_cons.1 hp with rfl | hp
      · dsimp only
        omega
      · exact ih hp

/-- The numas of the pieces are among those that were filled. -/
theorem fillPieces_sublist (numas : List (NumaId × SchedulerNumaInfo)) (remaining : Nat) :
    ((fillPieces waterLine block numas remaining).1.map (·.1)).Sublist (numas.map (·.1)) := by
  induction numas generalizing remaining with
  | nil => exact List.Sublist.slnil
  | cons e numas ih =>
    obtain ⟨numaId, numa⟩ := e
    unfold fillPieces
    dsimp only
    split
    · exact (ih remaining).cons _
    · exact (ih _).cons_cons _

/-- **Every piece but the last is made of whole blocks**, so together the pieces take no more
blocks than the request does. -/
theorem blocks_fillPieces (hb : 0 < block) (numas : List (NumaId × SchedulerNumaInfo))
    {remaining : Nat} (h : (fillPieces waterLine block numas remaining).2 = 0) :
    ((fillPieces waterLine block numas remaining).1.map fun p => (p.2 + block - 1) / block).sum =
      (remaining + block - 1) / block := by
  induction numas generalizing remaining with
  | nil =>
    have hr : remaining = 0 := h
    subst hr
    simp only [fillPieces, List.map_nil, List.sum_nil, Nat.zero_add]
    exact (Nat.div_eq_of_lt (by omega)).symm
  | cons e numas ih =>
    obtain ⟨numaId, numa⟩ := e
    unfold fillPieces at h ⊢
    dsimp only at h ⊢
    split at h
    next hskip =>
      rw [if_pos hskip]
      exact ih h
    next hskip =>
      rw [if_neg hskip]
      simp only [List.map_cons, List.sum_cons]
      rw [ih h]
      by_cases hle : floorBlock (numa.getAvailableLendSize waterLine) block ≤ remaining
      · -- The numa gives all it has, which is a number of blocks.
        rw [Nat.min_eq_left hle]
        obtain ⟨q, hq⟩ : ∃ q, floorBlock (numa.getAvailableLendSize waterLine) block = q * block :=
          ⟨_, rfl⟩
        rw [hq] at hle ⊢
        have h1 : (q * block + block - 1) / block = q := by
          rw [Nat.add_sub_assoc hb, Nat.mul_comm, Nat.mul_add_div hb,
            Nat.div_eq_of_lt (by omega), Nat.add_zero]
        have h2 : (remaining + block - 1) / block =
            q + (remaining - q * block + block - 1) / block := by
          rw [← Nat.mul_add_div hb, Nat.mul_comm block q]
          congr 1
          omega
        rw [h1, h2]
      · -- The numa gives all that remains.
        rw [Nat.min_eq_right (by omega), Nat.sub_self, Nat.zero_add,
          Nat.div_eq_of_lt (show block - 1 < block by omega), Nat.add_zero]

end Fill

/-! ### The placement of a request -/

/-- The block of a node, in bytes. -/
def SchedulerNodeInfo.blockBytes (info : SchedulerNodeInfo) : Nat := info.blockSize.toNat * 2 ^ 20

theorem SchedulerNodeInfo.blockBytes_pos {info : SchedulerNodeInfo} (h : info.blockSize ≠ 0) :
    0 < info.blockBytes := by
  have hpos : 0 < info.blockSize.toNat :=
    Nat.pos_iff_ne_zero.2 fun h0 => h (UInt32.toNat_inj.1 h0)
  unfold blockBytes
  exact Nat.mul_pos hpos (Nat.two_pow_pos 20)

theorem placementBlock_of_blockSize {algoResult : UbseMemAlgoResult} {info : SchedulerNodeInfo}
    (h : algoResult.blockSize = info.blockSize) : placementBlock algoResult = info.blockBytes := by
  unfold placementBlock SchedulerNodeInfo.blockBytes
  rw [h, sizeMb2Byte_toNat, Option.getD_some]

/-- The pieces that lenders ask for, each size rounded up to blocks. -/
def lenderPieces (block : Nat) (lenders : List UbseMemLenderInfo) : List Piece :=
  (lenders.filter (·.numaId ≠ invalidId)).map fun lender =>
    (lender.numaId, roundUpBlock lender.lenderSize block)

/-- **What a request is laid out as** on a socket of a node. -/
inductive Pieces (request : SchedulerRequest) (info : SchedulerNodeInfo) (socketId : SocketId) :
    List Piece → Prop
  /-- The request names lenders. -/
  | named {first : UbseMemLenderInfo} {lenders : List UbseMemLenderInfo}
      (h : placingLenders request = some (first, lenders)) (haddr : request.isAddr = false) :
      Pieces request info socketId (lenderPieces info.blockBytes lenders)
  /-- The request is for addresses, of a numa it names. -/
  | addr {first : UbseMemLenderInfo} {lenders : List UbseMemLenderInfo}
      (h : placingLenders request = some (first, lenders)) (haddr : request.isAddr = true) :
      Pieces request info socketId [(first.numaId, request.requestSize)]
  /-- The request leaves it to the scheduler. -/
  | free {numas : List (NumaId × SchedulerNumaInfo)} (h : placingLenders request = none)
      (hperm : numas.Perm (info.getAllNumaInfos socketId))
      (hrest : (fillPieces request.waterLine info.blockBytes numas request.requestSize).2 = 0) :
      Pieces request info socketId
        (fillPieces request.waterLine info.blockBytes numas request.requestSize).1

/-- A result that holds a layout: its pieces, as locations of the exporter and, for a borrow,
of the importer. -/
structure Lays (request : SchedulerRequest) (info : SchedulerNodeInfo) (node : NodeId × SocketId)
    (pieces : List Piece) (algoResult : UbseMemAlgoResult) : Prop where
  blockSize_eq : algoResult.blockSize = info.blockSize
  blockSize_ne : info.blockSize ≠ 0
  exportNumaInfos_eq :
    algoResult.exportNumaInfos = pieces.map fun p => exportPiece node.1 node.2 p.1 p.2
  importNumaInfos_eq :
    algoResult.importNumaInfos = match request.requestMode with
      | .borrow => pieces.map fun p => exportPiece request.importNodeId node.2 p.1 p.2
      | .share => []

theorem lays_layPieces {request : SchedulerRequest} {info : SchedulerNodeInfo}
    {node : NodeId × SocketId} {pieces : List Piece} {algoResult : UbseMemAlgoResult}
    (hb : algoResult.blockSize = info.blockSize) (hne : info.blockSize ≠ 0)
    (he : algoResult.exportNumaInfos = []) (hi : algoResult.importNumaInfos = []) :
    Lays request info node pieces (layPieces request node pieces algoResult) where
  blockSize_eq := by rw [blockSize_layPieces, hb]
  blockSize_ne := hne
  exportNumaInfos_eq := by rw [exportNumaInfos_layPieces, he, List.nil_append]
  importNumaInfos_eq := by rw [importNumaInfos_layPieces, hi, List.nil_append]

/-- Lenders of the node that was picked ask for pieces of it. -/
theorem foldl_selectNumaByLenderInfo {request : SchedulerRequest} {node : NodeId × SocketId}
    {block : Nat} {lenders : List UbseMemLenderInfo} (hn : ∀ lender ∈ lenders, lender.nodeId = node.1)
    {algoResult : UbseMemAlgoResult} (hs : algoResult.attachSocketId = node.2)
    (hb : placementBlock algoResult = block) :
    lenders.foldl (fun algoResult lender => selectNumaByLenderInfo request lender algoResult)
        algoResult =
      layPieces request node
        (lenders.map fun lender => (lender.numaId, roundUpBlock lender.lenderSize block))
        algoResult := by
  induction lenders generalizing algoResult with
  | nil => rfl
  | cons lender lenders ih =>
    rw [List.foldl_cons, List.map_cons, layPieces_cons]
    have hpiece : selectNumaByLenderInfo request lender algoResult =
        addPiece request node.1 node.2 lender.numaId (roundUpBlock lender.lenderSize block)
          algoResult := by
      rw [selectNumaByLenderInfo, hn lender List.mem_cons_self, hs, hb]
    rw [hpiece]
    exact ih (fun lender hl => hn lender (List.mem_cons_of_mem _ hl)) hs hb

section Fill

variable {s : SchedulerImpl} {choice : Choice} {request : SchedulerRequest}
variable {node : NodeId × SocketId} {info : SchedulerNodeInfo}

/-- The numas that are filled are those of the socket, in some order. -/
theorem getSortedNumaList_perm (hinfo : s.nodeInfo.getNodeInfo node.1 = some info)
    (h : getSortedNumaList s choice node ≠ []) :
    (getSortedNumaList s choice node).Perm (info.getAllNumaInfos node.2) := by
  unfold getSortedNumaList at h ⊢
  rw [hinfo] at h ⊢
  dsimp only at h ⊢
  cases hsocket : info.getSocketInfo node.2 with
  | none => rw [hsocket] at h; exact absurd rfl h
  | some socket => exact List.perm_insertionSort _ _

/-- What an unforced placement lays out. -/
theorem select_lays (hinfo : s.nodeInfo.getNodeInfo node.1 = some info)
    (hne : info.blockSize ≠ 0) (hl : placingLenders request = none)
    {algoResult r : UbseMemAlgoResult} (hb : algoResult.blockSize = info.blockSize)
    (he : algoResult.exportNumaInfos = []) (hi : algoResult.importNumaInfos = [])
    (h : selectNumaByReliable s choice request node algoResult = (r, .ok ()) ∨
      selectNumaByFreeMemory s choice request node algoResult = (r, .ok ())) :
    ∃ pieces, Pieces request info node.2 pieces ∧ Lays request info node pieces r := by
  -- Either way some order of the numas of the socket is filled until nothing remains.
  suffices ∃ numas : List (NumaId × SchedulerNumaInfo), numas.Perm (info.getAllNumaInfos node.2) ∧
      fillFromNumaList request node numas algoResult request.requestSize = (r, 0) by
    obtain ⟨numas, hperm, hfill⟩ := this
    rw [fillFromNumaList_eq, placementBlock_of_blockSize hb] at hfill
    obtain ⟨rfl, hrest⟩ := Prod.mk.inj hfill
    exact ⟨_, .free hl hperm hrest, lays_layPieces hb hne he hi⟩
  have hperm := @getSortedNumaList_perm s choice node info hinfo
  rcases h with h | h
  · unfold selectNumaByReliable at h
    cases hlist : getSortedNumaList s choice node with
    | nil => simp [hlist] at h
    | cons e numas =>
      rw [hlist] at h hperm
      dsimp only at h
      refine ⟨_, ?_, (fillFromNumaList_append _ _ _ _ _ _).trans (eq_of_fill_ok h)⟩
      refine List.Perm.trans ?_ (hperm (List.cons_ne_nil _ _))
      exact (List.Perm.append (List.perm_insertionSort _ _) (List.perm_insertionSort _ _)).trans
        (List.filter_append_perm _ (e :: numas))
  · unfold selectNumaByFreeMemory at h
    cases hlist : getSortedNumaList s choice node with
    | nil => simp [hlist] at h
    | cons e numas =>
      rw [hlist] at h hperm
      exact ⟨e :: numas, hperm (List.cons_ne_nil _ _), eq_of_fill_ok h⟩

end Fill

/-! ### Scheduling -/

section Schedule

variable {s s₁ : SchedulerImpl} {cluster : Cluster} {choice : Choice} {request : SchedulerRequest}
variable {algoResult r : UbseMemAlgoResult}

/-- **A scheduling that succeeds**: the candidate that was picked has passed every filter of the
request, and the request is laid out on it. -/
theorem scheduleBorrow_ok
    (h : scheduleBorrow s cluster choice request algoResult = (s₁, r, .ok ())) :
    s₁ = (refresh s cluster).1 ∧
      (∀ name ∈ request.filterNames, ∃ before after,
        applyFilter s₁.nodeInfo s₁.account request before name = (after, .ok ()) ∧
          choice.best ∈ candidates after) ∧
      fillAlgoResult s₁ choice request choice.best algoResult = (r, .ok ()) := by
  unfold scheduleBorrow at h
  split at h
  · cases h
  next s' hrefresh =>
    obtain ⟨rfl, hplace⟩ := Prod.mk.inj h
    refine ⟨by rw [hrefresh], ?_⟩
    unfold place at hplace
    split at hplace
    · cases hplace
    · cases hplace
    next nodes hfilter =>
      split at hplace
      next hbest =>
        refine ⟨fun name hname => ?_, hplace⟩
        obtain ⟨before, after, hpass, hkept⟩ := filterByNames_ok hfilter hname
        exact ⟨before, after, hpass, hkept _ hbest⟩
      next => cases hplace

/-- A request that names lenders has the filter on them. -/
theorem specifiedLender_mem {req : MemReq} {mgr : SchedulerNodeManager}
    (h : (SchedulerRequest.buildRequest req mgr).lenderInfos ≠ none) :
    .specifiedLender ∈ (SchedulerRequest.buildRequest req mgr).filterNames := by
  cases req with
  | fd req =>
    simp only [SchedulerRequest.buildRequest, SchedulerRequest.setupFromNodeConf,
      SchedulerRequest.buildFromFdBorrow] at h ⊢
    by_cases hl : req.lenderLocs = []
    · simp [hl] at h
    · simp [hl]
  | numa req =>
    simp only [SchedulerRequest.buildRequest, SchedulerRequest.setupFromNodeConf,
      SchedulerRequest.buildFromNumaBorrow] at h ⊢
    by_cases hlink : req.linkInfo.lenderSocketId ≠ -1
    · simp [hlink] at h
    by_cases hl : req.lenderLocs = []
    · simp [hl] at h
    · simp [hlink, hl]
  | addr req =>
    simp only [SchedulerRequest.buildRequest, SchedulerRequest.setupFromNodeConf,
      SchedulerRequest.buildFromAddrBorrow] at h ⊢
    split at h
    next hl => simp [hl]
    next => exact absurd rfl h
  | shm req =>
    simp only [SchedulerRequest.buildRequest, SchedulerRequest.setupFromNodeConf,
      SchedulerRequest.buildFromShareBorrow] at h ⊢
    by_cases hl : req.lenderInfo.lenderSize ≠ 0
    · simp [hl]
    · simp [hl] at h

theorem lenderInfos_of_placingLenders {first : UbseMemLenderInfo}
    {lenders : List UbseMemLenderInfo} (h : placingLenders request = some (first, lenders)) :
    ∃ others, lenders = first :: others ∧ request.lenderInfos = some (first :: others) ∧
      first.numaId ≠ invalidId := by
  unfold placingLenders at h
  split at h
  next first' lenders' hl =>
    split at h
    next hne =>
      obtain ⟨rfl, rfl⟩ := Prod.mk.inj (Option.some.inj h)
      exact ⟨lenders', rfl, hl, hne⟩
    next => cases h
  next => cases h

/-- **What a successful scheduling lays out** on the socket that was picked. -/
theorem scheduleBorrow_lays
    (hspec : request.lenderInfos ≠ none → .specifiedLender ∈ request.filterNames)
    (he : algoResult.exportNumaInfos = []) (hi : algoResult.importNumaInfos = [])
    (h : scheduleBorrow s cluster choice request algoResult = (s₁, r, .ok ())) :
    ∃ info pieces, s₁.nodeInfo.getNodeInfo choice.best.1 = some info ∧
      Pieces request info choice.best.2 pieces ∧ Lays request info choice.best pieces r := by
  obtain ⟨-, hpass, hfill⟩ := scheduleBorrow_ok h
  unfold fillAlgoResult at hfill
  cases hinfo : s₁.nodeInfo.getNodeInfo choice.best.1 with
  | none => rw [hinfo] at hfill; cases hfill
  | some info =>
    rw [hinfo] at hfill
    dsimp only at hfill
    by_cases hne : info.blockSize = 0
    · rw [if_pos hne] at hfill; cases hfill
    rw [if_neg hne] at hfill
    refine ⟨info, ?_⟩
    set r₀ : UbseMemAlgoResult :=
      { algoResult with blockSize := info.blockSize, attachSocketId := choice.best.2 } with hr₀
    have hb : r₀.blockSize = info.blockSize := rfl
    cases hl : placingLenders request with
    | some lenders =>
      obtain ⟨first, lenders⟩ := lenders
      obtain ⟨others, rfl, hlenders, -⟩ := lenderInfos_of_placingLenders hl
      -- The filter has seen to it that all lenders are on the node that was picked.
      have hnode : ∀ lender ∈ first :: others, lender.nodeId = choice.best.1 := by
        obtain ⟨before, after, happly, hbest⟩ := hpass _ (hspec (by rw [hlenders]; exact Option.some_ne_none _))
        obtain ⟨hn, hall⟩ := specifiedLender_passed (n := choice.best.1) (s := choice.best.2)
          hlenders happly hbest
        intro lender hlender
        rw [hn]
        exact isConsistentLender_nodeId (hall lender hlender)
      simp only [hl] at hfill
      by_cases haddr : request.isAddr = true
      · rw [if_pos haddr] at hfill
        obtain ⟨rfl, -⟩ := Prod.mk.inj hfill
        refine ⟨_, rfl, .addr hl haddr, ?_⟩
        have hlays : Lays request info choice.best _ (layPieces request choice.best
            [(first.numaId, request.requestSize)] r₀) := lays_layPieces hb hne he hi
        rwa [layPieces_cons, layPieces_nil, ← hnode first List.mem_cons_self] at hlays
      · rw [if_neg haddr] at hfill
        obtain ⟨rfl, -⟩ := Prod.mk.inj hfill
        refine ⟨_, rfl, .named hl (by simpa using haddr), ?_⟩
        rw [foldl_selectNumaByLenderInfo
          (fun lender hlender => hnode lender (List.mem_filter.1 hlender).1) rfl
          (placementBlock_of_blockSize hb)]
        exact lays_layPieces hb hne he hi
    | none =>
      simp only [hl] at hfill
      obtain ⟨pieces, hpieces, hlays⟩ := select_lays (r := r) hinfo hne hl hb he hi <| by
        split at hfill
        · exact Or.inl hfill
        · exact Or.inr hfill
      exact ⟨pieces, rfl, hpieces, hlays⟩

end Schedule

end Scheduler

end UbsEngine
