import UbsEngine.Scheduler.Placement
import UbsEngine.Scheduler.Conservation

/-!
# What lenders that are named can be asked for

A request may name its lenders, a numa and a size each. `SpecifiedLenderFilter` checks what
it asks of the numas, and the placement then exports exactly what was asked – but the two do
not look at the same thing. The filter keeps a socket as soon as one numa of it is left, and
of several sizes for one numa it looks at the last; the placement goes through the whole
list.

`UbsEngine.Scheduler.notOverdrawn_iff` says what this comes to: a placement overdraws no numa
if and only if every numa that is named passes the check, and those that are named more than
once hold the sum.
-/

namespace UbsEngine

namespace Scheduler

/-! ### Rounding -/

theorem floorBlock_le (size block : Nat) : floorBlock size block ≤ size := Nat.div_mul_le_self _ _

/-- What fits into whole blocks fits rounded up to blocks. -/
theorem roundUpBlock_le {size available block : Nat} (hb : 0 < block)
    (h : size ≤ floorBlock available block) :
    roundUpBlock size block ≤ floorBlock available block := by
  unfold roundUpBlock floorBlock
  refine Nat.mul_le_mul_right block ?_
  have hmod : (size + block - 1) % 2 ^ 64 / block ≤ (size + block - 1) / block :=
    Nat.div_le_div_right (Nat.mod_le _ _)
  refine hmod.trans ?_
  rw [← Nat.lt_succ_iff, Nat.div_lt_iff_lt_mul hb, Nat.succ_mul]
  unfold floorBlock at h
  omega

/-! ### The sizes of the filter -/

theorem lookup_foldl_insert (lenders : List UbseMemLenderInfo) (sizes : Map NumaId Nat)
    (k : NumaId) :
    (lenders.foldl (fun sizes lender => sizes.insert lender.numaId lender.lenderSize) sizes).lookup
        k =
      ((lenders.filter (·.numaId = k)).getLast?.map (·.lenderSize)).or (sizes.lookup k) := by
  induction lenders generalizing sizes with
  | nil => rfl
  | cons lender lenders ih =>
    rw [List.foldl_cons, ih, Map.lookup_insert_ite, List.filter_cons]
    by_cases hk : lender.numaId = k
    · simp only [hk, decide_true, if_true, List.getLast?_cons]
      cases (lenders.filter (·.numaId = k)).getLast? <;> rfl
    · simp [hk, Ne.symm hk]

/-- The filter looks at the last size that is asked of a numa. -/
theorem lookup_numaToSize {lenders : List UbseMemLenderInfo} {k : NumaId} (hk : k ≠ invalidId) :
    (numaToSize lenders).lookup k =
      (lenders.filter (·.numaId = k)).getLast?.map (·.lenderSize) := by
  unfold numaToSize
  rw [lookup_foldl_insert, List.filter_filter]
  have hfilter : (lenders.filter fun lender =>
      decide (lender.numaId = k) && decide (lender.numaId ≠ invalidId)) =
        lenders.filter (·.numaId = k) := by
    refine List.filter_congr fun lender _ => ?_
    by_cases h : lender.numaId = k
    · simp [h, hk]
    · simp [h]
  rw [hfilter]
  exact Option.or_none

/-! ### What is placed and what is asked for -/

/-- What a placement exports from a numa. -/
def UbseMemAlgoResult.placedOn (algoResult : UbseMemAlgoResult) (nodeId : NodeId)
    (numaId : NumaId) : Nat :=
  (algoResult.exportNumaInfos.map fun info =>
    if info.nodeId = nodeId ∧ info.numa = numaId then info.size else 0).sum

/-- A numa passes the check of `CheckNumaCapacity` for the lenders of a request. -/
def PassesCapacity (mgr : SchedulerNodeManager) (request : SchedulerRequest)
    (lenders : List UbseMemLenderInfo) (nodeId : NodeId) (numaId : NumaId) : Prop :=
  ∃ info, mgr.getNodeInfo nodeId = some info ∧
    hasCapacity mgr nodeId (capacityBlock info) (numaToSize lenders) request.waterLine numaId = true

/-- **No numa is overdrawn**: what is exported from a numa is at most what it can lend under
the watermark of the request, and every numa something is exported from has passed the
check. -/
def NotOverdrawn (mgr : SchedulerNodeManager) (request : SchedulerRequest)
    (lenders : List UbseMemLenderInfo) (algoResult : UbseMemAlgoResult) : Prop :=
  (∀ nodeId numaId numa, mgr.getNumaInfo nodeId numaId = some numa →
      algoResult.placedOn nodeId numaId ≤ numa.getAvailableLendSize request.waterLine) ∧
    ∀ info ∈ algoResult.exportNumaInfos, PassesCapacity mgr request lenders info.nodeId info.numa

/-- The block in which a node lends, in bytes. -/
def blockBytesOf (mgr : SchedulerNodeManager) (nodeId : NodeId) : Nat :=
  ((mgr.getNodeInfo nodeId).map (·.blockBytes)).getD 1

/-- The lenders that name a numa. -/
def namesOf (lenders : List UbseMemLenderInfo) (numaId : NumaId) : List UbseMemLenderInfo :=
  lenders.filter (·.numaId = numaId)

/-- **The lenders of a request fit**: every numa they name passes the check, and one that is
named more than once holds all that is asked of it, each size rounded up to blocks. -/
def LendersFit (mgr : SchedulerNodeManager) (request : SchedulerRequest) (nodeId : NodeId)
    (lenders : List UbseMemLenderInfo) : Prop :=
  ∀ lender ∈ lenders, lender.numaId ≠ invalidId →
    PassesCapacity mgr request lenders nodeId lender.numaId ∧
      (1 < (namesOf lenders lender.numaId).length →
        ∀ numa, mgr.getNumaInfo nodeId lender.numaId = some numa →
          ((namesOf lenders lender.numaId).map fun other =>
            roundUpBlock other.lenderSize (blockBytesOf mgr nodeId)).sum ≤
              numa.getAvailableLendSize request.waterLine)

/-! ### The layout of named lenders -/

theorem placedOn_eq {algoResult : UbseMemAlgoResult} {node : NodeId × SocketId}
    {pieces : List Piece}
    (h : algoResult.exportNumaInfos = pieces.map fun p => exportPiece node.1 node.2 p.1 p.2)
    (nodeId : NodeId) (k : NumaId) :
    algoResult.placedOn nodeId k =
      if node.1 = nodeId then ((pieces.filter (·.1 = k)).map (·.2)).sum else 0 := by
  unfold UbseMemAlgoResult.placedOn
  rw [h, List.map_map]
  simp only [Function.comp_def, UbseMemDebtNumaInfo.numa, exportPiece, ofInt_toNat]
  split
  next hn =>
    simp only [hn, true_and]
    clear h
    induction pieces with
    | nil => rfl
    | cons p pieces ih =>
      rw [List.map_cons, List.sum_cons, ih, List.filter_cons]
      by_cases hk : p.1 = k <;> simp [hk]
  next hn => simp [hn]

theorem sum_lenderPieces (block : Nat) (lenders : List UbseMemLenderInfo) {k : NumaId}
    (hk : k ≠ invalidId) :
    (((lenderPieces block lenders).filter (·.1 = k)).map (·.2)).sum =
      ((namesOf lenders k).map fun lender => roundUpBlock lender.lenderSize block).sum := by
  unfold lenderPieces namesOf
  rw [List.filter_map, List.filter_filter, List.map_map]
  refine congrArg List.sum (congrArg₂ _ rfl (List.filter_congr fun lender _ => ?_))
  by_cases h : lender.numaId = k
  · simp [h, hk]
  · simp [h]

theorem mem_lenderPieces {block : Nat} {lenders : List UbseMemLenderInfo} {p : Piece} :
    p ∈ lenderPieces block lenders ↔ ∃ lender ∈ lenders, lender.numaId ≠ invalidId ∧
      p = (lender.numaId, roundUpBlock lender.lenderSize block) := by
  simp only [lenderPieces, List.mem_map, List.mem_filter, decide_eq_true_eq]
  constructor
  · rintro ⟨lender, ⟨hl, hne⟩, rfl⟩
    exact ⟨lender, hl, hne, rfl⟩
  · rintro ⟨lender, hl, hne, rfl⟩
    exact ⟨lender, ⟨hl, hne⟩, rfl⟩

theorem capacityBlock_eq {info : SchedulerNodeInfo} (h : info.blockSize ≠ 0) :
    capacityBlock info = info.blockBytes := by
  unfold capacityBlock
  rw [if_neg h, sizeMb2Byte_toNat, Option.getD_some, SchedulerNodeInfo.blockBytes]

theorem blockBytesOf_eq {mgr : SchedulerNodeManager} {nodeId : NodeId} {info : SchedulerNodeInfo}
    (hinfo : mgr.getNodeInfo nodeId = some info) : blockBytesOf mgr nodeId = info.blockBytes := by
  unfold blockBytesOf
  rw [hinfo, Option.map_some, Option.getD_some]

/-- A numa that is named once and passes the check holds what is asked of it. -/
theorem roundUpBlock_le_of_passes {mgr : SchedulerNodeManager} {request : SchedulerRequest}
    {lenders : List UbseMemLenderInfo} {nodeId : NodeId} {info : SchedulerNodeInfo}
    (hinfo : mgr.getNodeInfo nodeId = some info) (hb : info.blockSize ≠ 0)
    {lender : UbseMemLenderInfo} (hne : lender.numaId ≠ invalidId)
    (honly : namesOf lenders lender.numaId = [lender])
    (h : PassesCapacity mgr request lenders nodeId lender.numaId) {numa : SchedulerNumaInfo}
    (hnuma : mgr.getNumaInfo nodeId lender.numaId = some numa) :
    roundUpBlock lender.lenderSize info.blockBytes ≤
      numa.getAvailableLendSize request.waterLine := by
  obtain ⟨info', hinfo', hcap⟩ := h
  obtain rfl : info = info' := Option.some.inj (hinfo.symm.trans hinfo')
  have hsize : (numaToSize lenders).lookup lender.numaId = some lender.lenderSize := by
    unfold namesOf at honly
    rw [lookup_numaToSize hne, honly]
    rfl
  unfold hasCapacity at hcap
  rw [hsize, hnuma, capacityBlock_eq hb] at hcap
  have hle : lender.lenderSize ≤
      floorBlock (numa.getAvailableLendSize request.waterLine) info.blockBytes := by
    simpa using hcap
  exact (roundUpBlock_le (SchedulerNodeInfo.blockBytes_pos hb) hle).trans (floorBlock_le _ _)

/-- Lenders that fit ask no numa for more than it can lend. -/
theorem LendersFit.sum_le {mgr : SchedulerNodeManager} {request : SchedulerRequest}
    {lenders : List UbseMemLenderInfo} {nodeId : NodeId} {info : SchedulerNodeInfo}
    (hfit : LendersFit mgr request nodeId lenders)
    (hinfo : mgr.getNodeInfo nodeId = some info) (hb : info.blockSize ≠ 0) {k : NumaId}
    (hk : k ≠ invalidId) {numa : SchedulerNumaInfo} (hnuma : mgr.getNumaInfo nodeId k = some numa) :
    ((namesOf lenders k).map fun lender =>
        roundUpBlock lender.lenderSize info.blockBytes).sum ≤
      numa.getAvailableLendSize request.waterLine := by
  cases hnames : namesOf lenders k with
  | nil => exact Nat.zero_le _
  | cons lender rest =>
    have hmem : lender ∈ namesOf lenders k := by rw [hnames]; exact List.mem_cons_self
    obtain ⟨hlender, hname⟩ := List.mem_filter.1 hmem
    obtain rfl : lender.numaId = k := of_decide_eq_true hname
    obtain ⟨hpasses, hmany⟩ := hfit lender hlender hk
    cases rest with
    | nil =>
      rw [List.map_cons, List.map_nil, List.sum_singleton]
      exact roundUpBlock_le_of_passes hinfo hb hk hnames hpasses hnuma
    | cons other rest =>
      rw [hnames, blockBytesOf_eq hinfo] at hmany
      exact hmany (by rw [List.length_cons, List.length_cons]; omega) numa hnuma

theorem isAddr_buildRequest {req : MemReq} (hreq : req.type ≠ .addr)
    (mgr : SchedulerNodeManager) : (SchedulerRequest.buildRequest req mgr).isAddr = false := by
  cases req with
  | addr req => exact absurd rfl hreq
  | _ => rfl

/-- **Named lenders, exactly**: a request for memory of a size that is placed with the lenders it
names overdraws none of their numas if and only if the lenders fit. -/
theorem notOverdrawn_iff {s s₁ : SchedulerImpl} {cluster : Cluster} {choice : Choice}
    {req : MemReq} (hreq : req.type ≠ .addr) {first : UbseMemLenderInfo}
    {lenders : List UbseMemLenderInfo}
    (hl : placingLenders (SchedulerRequest.buildRequest req s.nodeInfo) = some (first, lenders))
    {algoResult : UbseMemAlgoResult}
    (h : scheduleBorrow s cluster choice (SchedulerRequest.buildRequest req s.nodeInfo) {} =
      (s₁, algoResult, .ok ())) :
    NotOverdrawn (refresh s cluster).1.nodeInfo (SchedulerRequest.buildRequest req s.nodeInfo)
        lenders algoResult ↔
      LendersFit (refresh s cluster).1.nodeInfo (SchedulerRequest.buildRequest req s.nodeInfo)
        first.nodeId lenders := by
  obtain ⟨hs₁, hpass, -⟩ := scheduleBorrow_ok h
  obtain ⟨info, pieces, hinfo, hpieces, hlays⟩ :=
    scheduleBorrow_lays specifiedLender_mem rfl rfl h
  obtain ⟨others, hlenders, hinfos, -⟩ := lenderInfos_of_placingLenders hl
  have hnode : choice.best.1 = first.nodeId := by
    obtain ⟨before, after, happly, hbest⟩ :=
      hpass _ (specifiedLender_mem (by rw [hinfos]; exact Option.some_ne_none _))
    exact (specifiedLender_passed (n := choice.best.1) (s := choice.best.2) hinfos happly hbest).1
  have hlayout : pieces = lenderPieces info.blockBytes lenders := by
    cases hpieces with
    | named hl' haddr =>
      obtain ⟨rfl, rfl⟩ := Prod.mk.inj (Option.some.inj (hl.symm.trans hl'))
      rfl
    | addr hl' haddr =>
      rw [isAddr_buildRequest hreq] at haddr
      cases haddr
    | free hl' => rw [hl] at hl'; cases hl'
  set request := SchedulerRequest.buildRequest req s.nodeInfo
  rw [← hs₁]
  rw [hnode] at hinfo
  have hplaced := placedOn_eq hlays.exportNumaInfos_eq
  rw [hnode, hlayout] at hplaced
  constructor
  · rintro ⟨hsum, hchecked⟩ lender hlender hne
    refine ⟨?_, fun _ numa hnuma => ?_⟩
    · have := hchecked (exportPiece choice.best.1 choice.best.2 lender.numaId
        (roundUpBlock lender.lenderSize info.blockBytes)) <| by
          rw [hlays.exportNumaInfos_eq, hlayout]
          exact List.mem_map_of_mem (mem_lenderPieces.2 ⟨lender, hlender, hne, rfl⟩)
      simpa [exportPiece, UbseMemDebtNumaInfo.numa, hnode] using this
    · have := hsum first.nodeId lender.numaId numa hnuma
      rwa [hplaced, if_pos rfl, sum_lenderPieces _ _ hne, ← blockBytesOf_eq hinfo] at this
  · intro hfit
    constructor
    · intro nodeId k numa hnuma
      rw [hplaced]
      split
      swap
      · exact Nat.zero_le _
      next hn =>
        subst hn
        by_cases hk : k = invalidId
        · have hzero : (lenderPieces info.blockBytes lenders).filter (·.1 = k) = [] := by
            refine List.filter_eq_nil_iff.2 fun p hp hpk => ?_
            obtain ⟨lender, hlender, hne, rfl⟩ := mem_lenderPieces.1 hp
            exact hne ((of_decide_eq_true hpk).trans hk)
          rw [hzero]
          exact Nat.zero_le _
        · rw [sum_lenderPieces _ _ hk]
          exact hfit.sum_le hinfo hlays.blockSize_ne hk hnuma
    · intro loc hloc
      rw [hlays.exportNumaInfos_eq, hlayout] at hloc
      obtain ⟨p, hp, rfl⟩ := List.mem_map.1 hloc
      obtain ⟨lender, hlender, hne, rfl⟩ := mem_lenderPieces.1 hp
      simpa [exportPiece, UbseMemDebtNumaInfo.numa, hnode] using (hfit lender hlender hne).1

/-! ### Two nodes -/

/-- What a node reports that has one socket with two numas of 4 GiB, linked to another node. -/
def linkedReport (nodeId : NodeId) (slot : UInt32) (peer : String) : UbseNodeInfo where
  nodeId := nodeId
  numaInfos := ((∅ : Map NumaId UbseNumaInfo).insert 0
    { socketId := 0, memTotal := 2 ^ 32, memUsed := 0, memFree := 2 ^ 32 }).insert 1
    { socketId := 0, memTotal := 2 ^ 32, memUsed := 0, memFree := 2 ^ 32 }
  cpuInfos := [{ slotId := slot, socketId := 0, chipId := some 1,
                 portInfos := [{ portId := some 1, isUp := true, remoteSlotId := peer,
                                 remoteChipId := some 1 }] }]
  clusterState := .working

/-- What the node controller knows of two nodes that are linked. -/
def linkedCluster : Cluster where
  nodes := [("1", linkedReport "1" 1 "2"), ("2", linkedReport "2" 2 "1")]
  deployed := [1, 2]

/-- The scheduler after both have reported. -/
def linkedState : SchedulerImpl :=
  [SchedulerEvent.nodeObjChange (linkedReport "1" 1 "2") [1, 2],
    .nodeObjChange (linkedReport "2" 2 "1") [1, 2]].foldl SchedulerImpl.step {}

/-- The scores put the socket of node 2 first. -/
def pickTwo : Choice where
  best := ("2", 0)
  tie := fun _ => 0

/-- A request of node 1 that names numa 0 of node 2 for each of some sizes. -/
def namingRequest (sizes : List Nat) : MemReq :=
  .fd { name := "a", requestNodeId := "1", importNodeId := "1", size := 2 ^ 28,
        lenderLocs := sizes.map fun _ => ("2", 0), lenderSizes := sizes }

/-- How that request is placed. -/
def namingPlacement (sizes : List Nat) : SchedulerImpl × UbseMemAlgoResult × UbseResult :=
  scheduleBorrow linkedState linkedCluster pickTwo
    (SchedulerRequest.buildRequest (namingRequest sizes) linkedState.nodeInfo) {}

theorem namingPlacement_ok {sizes : List Nat} (h : (namingPlacement sizes).2.2 = .ok ()) :
    scheduleBorrow linkedState linkedCluster pickTwo
        (SchedulerRequest.buildRequest (namingRequest sizes) linkedState.nodeInfo) {} =
      ((namingPlacement sizes).1, (namingPlacement sizes).2.1, .ok ()) :=
  Prod.ext rfl (Prod.ext rfl h)

/-- One block of a numa that has room: nothing is overdrawn. -/
theorem notOverdrawn_one :
    NotOverdrawn (refresh linkedState linkedCluster).1.nodeInfo
      (SchedulerRequest.buildRequest (namingRequest [2 ^ 27]) linkedState.nodeInfo)
      [{ lenderSize := 2 ^ 27, nodeId := "2", numaId := 0 }] (namingPlacement [2 ^ 27]).2.1 := by
  refine (notOverdrawn_iff (s := linkedState) (by decide) rfl
    (namingPlacement_ok (by decide))).2 ?_
  rintro lender hlender -
  obtain rfl := List.mem_singleton.1 hlender
  exact ⟨⟨_, rfl, by decide⟩, fun h => absurd h (by decide)⟩

/-- A numa that is named twice is overdrawn: the filter looks at the second size alone. -/
theorem not_notOverdrawn :
    ¬∀ (s s₁ : SchedulerImpl) (cluster : Cluster) (choice : Choice) (req : MemReq)
      (first : UbseMemLenderInfo) (lenders : List UbseMemLenderInfo)
      (algoResult : UbseMemAlgoResult), req.type ≠ .addr →
      placingLenders (SchedulerRequest.buildRequest req s.nodeInfo) = some (first, lenders) →
      scheduleBorrow s cluster choice (SchedulerRequest.buildRequest req s.nodeInfo) {} =
        (s₁, algoResult, .ok ()) →
      NotOverdrawn (refresh s cluster).1.nodeInfo (SchedulerRequest.buildRequest req s.nodeInfo)
        lenders algoResult := by
  intro h
  have hnot := h linkedState (namingPlacement [2 ^ 32, 2 ^ 27]).1 linkedCluster pickTwo
    (namingRequest [2 ^ 32, 2 ^ 27]) { lenderSize := 2 ^ 32, nodeId := "2", numaId := 0 }
    [{ lenderSize := 2 ^ 32, nodeId := "2", numaId := 0 },
      { lenderSize := 2 ^ 27, nodeId := "2", numaId := 0 }]
    (namingPlacement [2 ^ 32, 2 ^ 27]).2.1 (by decide) rfl (namingPlacement_ok (by decide))
  have hlend : ((refresh linkedState linkedCluster).1.nodeInfo.getNumaInfo "2" 0).map
      (·.getAvailableLendSize 100) = some (2 ^ 32) := by decide
  obtain ⟨numa, hnuma, hsize⟩ := Option.map_eq_some_iff.1 hlend
  have hplaced : (namingPlacement [2 ^ 32, 2 ^ 27]).2.1.placedOn "2" 0 = 2 ^ 32 + 2 ^ 27 := by
    decide
  have hwater : (SchedulerRequest.buildRequest (namingRequest [2 ^ 32, 2 ^ 27])
      linkedState.nodeInfo).waterLine = 100 := by decide
  have hle := hnot.1 "2" 0 numa hnuma
  rw [hplaced, hwater, hsize] at hle
  exact absurd hle (by decide)

end Scheduler

end UbsEngine
