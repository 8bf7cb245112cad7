import UbsEngine.Library.Bytes
import Mathlib.Algebra.Order.BigOperators.Group.List
import Mathlib.Algebra.Order.Group.Nat

/-!
# How much a numa borrows when it runs out of memory

`UbsEngine.Escape.calBorrowMem` answers an alarm of a numa with a list of blocks to borrow. Four
limits bound them: the sizes of a block, what one round may borrow, and what a numa may have
borrowed in all. The last one is rounded up to the alignment, and what it leaves beside the memory
that is borrowed already is rounded up once more.

The loop is read off in closed form (`UbsEngine.Escape.sum_requestBlocks`), which gives the exact
condition for the limits to be kept (`UbsEngine.Escape.withinLimits_iff`).
-/

namespace UbsEngine

namespace Escape

/-! ### The strategy and what it is given -/

def specs1G : Nat := 1 <<< 30
def specs2G : Nat := 2 <<< 30
def specs3G : Nat := 3 <<< 30
def specs4G : Nat := 4 <<< 30
def specs16G : Nat := 16 <<< 30
def specs20G : Nat := 20 <<< 30
def specs128M : Nat := 128 <<< 20

/-- `MemPerBorrow`: the sizes the bounds of a block may be set to. -/
def memPerBorrow : List Nat := [specs1G, specs2G, specs3G, specs4G]

/-- The largest number of 64 bits. -/
def uint64Max : Nat := 2 ^ 64 - 1

inductive StrategyTip
  | nope
  | retBorrowLegerEmpty
  | retBanRetTooLargeMem
  | borBigFreeRemoteMem
  | borNotEnoughCredit
deriving DecidableEq, Repr

/-- A loan of a numa: its name, and how much each of the lending numas gives. -/
structure BorrowItem where
  name : String
  requestSize : List Nat
deriving DecidableEq, Repr

/-- An alarm: the loans of the numa, and the remote memory each virtual machine uses. -/
structure AlarmNumaInfo where
  remoteUsedMem : List Nat
  borrowItem : List BorrowItem
deriving Repr

/-- The sizes the strategy is set to, with their defaults. -/
structure DefaultStrategy where
  maxMemPerBorrowBytes : Nat := specs4G
  minMemPerBorrowBytes : Nat := specs1G
  memBorrowAlignBytes : Nat := specs1G
  maxPerTotalMemBorrowBytes : Nat := specs16G
deriving DecidableEq, Repr

/-- A valid configuration: each size is in the range its setter names. -/
structure DefaultStrategy.Valid (s : DefaultStrategy) : Prop where
  max_mem : s.maxMemPerBorrowBytes ∈ memPerBorrow
  min_mem : s.minMemPerBorrowBytes ∈ memPerBorrow
  min_le_max : s.minMemPerBorrowBytes ≤ s.maxMemPerBorrowBytes
  le_align : specs128M ≤ s.memBorrowAlignBytes
  align_le_min : s.memBorrowAlignBytes ≤ s.minMemPerBorrowBytes
  le_total : specs4G ≤ s.maxPerTotalMemBorrowBytes
  total_le : s.maxPerTotalMemBorrowBytes ≤ specs20G

/-- A strategy with a valid configuration. -/
structure ValidStrategy extends DefaultStrategy where
  valid : toDefaultStrategy.Valid

/-- The strategy as it is built. -/
def ValidStrategy.default : ValidStrategy where
  valid := by constructor <;> decide

theorem le_of_mem_memPerBorrow {n : Nat} (h : n ∈ memPerBorrow) :
    specs1G ≤ n ∧ n ≤ specs4G := by
  simp only [memPerBorrow, List.mem_cons, List.not_mem_nil, or_false] at h
  rcases h with rfl | rfl | rfl | rfl <;> decide

namespace ValidStrategy

variable (s : ValidStrategy)

theorem min_pos : 0 < s.minMemPerBorrowBytes :=
  Nat.lt_of_lt_of_le (by decide) (le_of_mem_memPerBorrow s.valid.min_mem).1

theorem align_pos : 0 < s.memBorrowAlignBytes := Nat.lt_of_lt_of_le (by decide) s.valid.le_align

theorem max_le_total : s.maxMemPerBorrowBytes ≤ s.maxPerTotalMemBorrowBytes :=
  (le_of_mem_memPerBorrow s.valid.max_mem).2.trans s.valid.le_total

end ValidStrategy

/-! ### Rounding up -/

/-- `Align`: rounding up by masking, at most to what 64 bits hold. -/
def align (n align : Nat) : Nat :=
  if uint64Max - (align - 1) < n then uint64Max &&& (uint64Max - (align - 1))
  else (n + align - 1) &&& (uint64Max - (align - 1))

/-- Rounding up does not lower a number that leaves room for it. -/
theorem min_le_align {a : Nat} (n : Nat) (hpos : 0 < a) (ha : a ≤ 2 ^ 64) :
    min n (2 ^ 64 - a) ≤ align n a := by
  have hmask : a - 1 < 2 ^ 64 := by omega
  unfold align uint64Max
  split
  next =>
    have hclear := Bytes.le_clear_add (x := 2 ^ 64 - 1) (by decide) hmask
    omega
  next hle =>
    have hclear := Bytes.le_clear_add (x := n + a - 1) (by omega) hmask
    omega

theorem le_align {n a : Nat} (hpos : 0 < a) (h : n + a ≤ 2 ^ 64) : n ≤ align n a :=
  (le_min le_rfl (Nat.le_sub_of_add_le h)).trans (min_le_align n hpos (by omega))

theorem align_pos {n a : Nat} (hn : 0 < n) (hpos : 0 < a) (ha : a < 2 ^ 64) : 0 < align n a :=
  (lt_min hn (Nat.sub_pos_of_lt ha)).trans_le (min_le_align n hpos ha.le)

/-! ### The loop -/

/-- The sum of the sizes of a loan, or half of the largest block if it passes 64 bits. -/
def theBorrowedBlockSize (s : DefaultStrategy) : Nat → List Nat → Nat
  | sum, [] => sum
  | sum, requestSize :: rest =>
    if uint64Max - requestSize < sum then s.maxMemPerBorrowBytes >>> 1
    else theBorrowedBlockSize s (sum + requestSize) rest

/-- `GetMaxBorrowedBlockSize`: the largest loan of the numa. -/
def getMaxBorrowedBlockSize (s : DefaultStrategy) (borrowItem : List BorrowItem) : Nat :=
  borrowItem.foldl (fun maxBorrowedBlockSize item =>
    max maxBorrowedBlockSize (theBorrowedBlockSize s 0 item.requestSize)) 0

/-- The size the loop starts from: that of the largest loan, or half of the lower bound if there is
none. -/
def startBlockSize (s : DefaultStrategy) (borrowItem : List BorrowItem) : Nat :=
  let maxBorrowedBlockSize := getMaxBorrowedBlockSize s borrowItem
  if maxBorrowedBlockSize = 0 then s.minMemPerBorrowBytes >>> 1 else maxBorrowedBlockSize

/-- The size of the next block: twice the largest so far or what is still expected, as far as the
limits go. -/
def oneBorrowedBlockSize (s : DefaultStrategy) (expectedRevenue remainMaxBorrowSize
    maxBorrowedBlockSize sumBorrowSize : Nat) : Nat :=
  min (min (min s.maxMemPerBorrowBytes
      (max (2 * maxBorrowedBlockSize % 2 ^ 64) (expectedRevenue - sumBorrowSize)))
    (s.maxPerTotalMemBorrowBytes - sumBorrowSize)) (remainMaxBorrowSize - sumBorrowSize)

/-- The loop of `CalBorrowMem`: the tip, and the blocks in their order. -/
def requestBlocks (s : ValidStrategy) (expectedRevenue remainMaxBorrowSize maxBorrowedBlockSize
    sumBorrowSize : Nat) (strategyTip : StrategyTip) : StrategyTip × List Nat :=
  if sumBorrowSize < expectedRevenue ∧ sumBorrowSize < remainMaxBorrowSize ∧
      sumBorrowSize < s.maxPerTotalMemBorrowBytes then
    let block := oneBorrowedBlockSize s.toDefaultStrategy expectedRevenue remainMaxBorrowSize
      maxBorrowedBlockSize sumBorrowSize
    let strategyTip :=
      if block = remainMaxBorrowSize then StrategyTip.borNotEnoughCredit else strategyTip
    if block < s.minMemPerBorrowBytes then (strategyTip, [])
    else
      let rest := requestBlocks s expectedRevenue remainMaxBorrowSize
        (if maxBorrowedBlockSize < block then block else maxBorrowedBlockSize)
        (sumBorrowSize + block) strategyTip
      (rest.1, block :: rest.2)
  else (strategyTip, [])
-- a block has at least the lower bound, which a valid configuration keeps above 0
termination_by expectedRevenue - sumBorrowSize
decreasing_by
  have hpos := s.min_pos
  omega

/-- `MonitorNumaMemoryBorrowing`: the remote memory in use, in 64 bits. -/
def monitorNumaMemoryBorrowing (alarmNumaInfo : AlarmNumaInfo) : Nat :=
  alarmNumaInfo.remoteUsedMem.foldl (fun numaRemoteUsedMemSize remoteUsedMem =>
    (numaRemoteUsedMemSize + remoteUsedMem) % 2 ^ 64) 0

/-- `CalBorrowMem`, for what `maxMemBorrow` allows of the total of the numa: the tip, the sum and
the blocks. -/
def calBorrowMem (s : ValidStrategy) (alarmNumaInfo : AlarmNumaInfo) (numaMemBorrow : Nat)
    (maxBorrowSize expectedRevenue : Nat) : StrategyTip × Nat × List Nat :=
  let maxBorrowSize := align maxBorrowSize s.memBorrowAlignBytes
  if maxBorrowSize < numaMemBorrow then (.borNotEnoughCredit, 0, [])
  else
    let remainMaxBorrowSize := maxBorrowSize - numaMemBorrow
    let numaRemoteUsedMemSize := monitorNumaMemoryBorrowing alarmNumaInfo
    if numaMemBorrow < (expectedRevenue + numaRemoteUsedMemSize) % 2 ^ 64 then
      let expectedRevenue := (expectedRevenue + numaRemoteUsedMemSize) % 2 ^ 64 - numaMemBorrow
      let remainMaxBorrowSize := align remainMaxBorrowSize s.memBorrowAlignBytes
      let expectedRevenue := align expectedRevenue s.memBorrowAlignBytes
      let maxBorrowedBlockSize := startBlockSize s.toDefaultStrategy alarmNumaInfo.borrowItem
      let blocks := requestBlocks s expectedRevenue remainMaxBorrowSize maxBorrowedBlockSize 0 .nope
      (blocks.1, blocks.2.sum, blocks.2)
    else (.borBigFreeRemoteMem, 0, [])

/-! ### What the blocks add up to -/

/-- An amount in whole blocks of the largest size. -/
def wholeBlocks (size amount : Nat) : Nat := (amount + (size - 1)) / size * size

theorem wholeBlocks_zero {size : Nat} (h : 0 < size) : wholeBlocks size 0 = 0 := by
  rw [wholeBlocks, Nat.zero_add, Nat.div_eq_of_lt (by omega), Nat.zero_mul]

theorem wholeBlocks_eq_add {size amount : Nat} (h : 0 < amount) (hsize : 0 < size) :
    wholeBlocks size amount = size + wholeBlocks size (amount - size) := by
  unfold wholeBlocks
  rcases Nat.lt_or_ge amount size with hlt | hge
  · have hone : (amount + (size - 1)) / size = 1 :=
      Nat.div_eq_of_lt_le (by omega) (by omega)
    rw [hone, show amount - size + (size - 1) = size - 1 by omega, Nat.div_eq_of_lt (by omega)]
    omega
  · rw [show amount + (size - 1) = amount - size + (size - 1) + size by omega,
      Nat.add_div_right _ hsize, Nat.add_one_mul, Nat.add_comm]

theorem le_wholeBlocks {size amount : Nat} (h : 0 < amount) (hsize : 0 < size) :
    size ≤ wholeBlocks size amount := by
  rw [wholeBlocks_eq_add h hsize]
  exact Nat.le_add_right _ _

/-- An amount is no more than the whole blocks it takes. -/
theorem self_le_wholeBlocks {size : Nat} (amount : Nat) (hsize : 0 < size) :
    amount ≤ wholeBlocks size amount := by
  have hmod := Nat.mod_lt (amount + (size - 1)) hsize
  have hdiv := Nat.div_add_mod' (amount + (size - 1)) size
  unfold wholeBlocks
  omega

/-- What is served of an amount that is asked for: all of it if there is room, and else the room in
blocks of the largest size; a last block below the lower bound is left out. -/
def served (lower size amount room : Nat) : Nat :=
  if amount ≤ room then if amount < lower then 0 else amount
  else if room % size < lower then room - room % size else room

theorem served_of_lt {lower size amount room : Nat} (h : room < amount) (hroom : room < size) :
    served lower size amount room = if room < lower then 0 else room := by
  rw [served, if_neg (by omega), Nat.mod_eq_of_lt hroom, Nat.sub_self]

theorem served_le (lower size amount room : Nat) : served lower size amount room ≤ room := by
  unfold served
  split
  · split <;> omega
  · split
    · exact Nat.sub_le _ _
    · exact le_rfl

/-- Serving a block first changes nothing. -/
theorem add_served {lower size amount room : Nat} (hamount : 0 < amount) (hsize : 0 < size)
    (hlower : lower ≤ size) (hroom : size ≤ room) :
    size + served lower size (wholeBlocks size (amount - size)) (room - size) =
      served lower size (wholeBlocks size amount) room := by
  have hask := wholeBlocks_eq_add hamount hsize
  have hmod : room % size = (room - size) % size := Nat.mod_eq_sub_mod hroom
  have hle := Nat.mod_le (room - size) size
  unfold served
  rw [hmod, hask]
  by_cases hfit : wholeBlocks size (amount - size) ≤ room - size
  · have hfits : size + wholeBlocks size (amount - size) ≤ room := by omega
    have hlarge : ¬size + wholeBlocks size (amount - size) < lower := by omega
    rw [if_pos hfit, if_pos hfits, if_neg hlarge]
    rcases Nat.eq_zero_or_pos (amount - size) with hzero | hpos
    · rw [hzero, wholeBlocks_zero hsize, ite_self]
    · have hge := le_wholeBlocks hpos hsize
      rw [if_neg (by omega)]
  · have hnot : ¬size + wholeBlocks size (amount - size) ≤ room := by omega
    rw [if_neg hfit, if_neg hnot]
    split <;> omega

section Loop

variable (s : ValidStrategy) {expectedRevenue remainMaxBorrowSize maxBorrowedBlockSize
  sumBorrowSize : Nat} (strategyTip : StrategyTip)

/-- What the limits leave in a round. -/
def roundRoom (s : DefaultStrategy) (remainMaxBorrowSize : Nat) : Nat :=
  min remainMaxBorrowSize s.maxPerTotalMemBorrowBytes

/-- The loop ends when enough is borrowed or a limit is reached. -/
theorem requestBlocks_of_done (h : expectedRevenue ≤ sumBorrowSize ∨
      roundRoom s.toDefaultStrategy remainMaxBorrowSize ≤ sumBorrowSize) :
    (requestBlocks s expectedRevenue remainMaxBorrowSize maxBorrowedBlockSize sumBorrowSize
      strategyTip).2 = [] := by
  unfold requestBlocks
  rw [if_neg]
  unfold roundRoom at h
  omega

/-- The size of a block while the doubled sizes do not pass 64 bits. -/
theorem oneBorrowedBlockSize_eq (expectedRevenue remainMaxBorrowSize sumBorrowSize : Nat)
    (hdouble : 2 * maxBorrowedBlockSize < 2 ^ 64) :
    oneBorrowedBlockSize s.toDefaultStrategy expectedRevenue remainMaxBorrowSize
      maxBorrowedBlockSize sumBorrowSize =
      min (min s.maxMemPerBorrowBytes
          (max (2 * maxBorrowedBlockSize) (expectedRevenue - sumBorrowSize)))
        (roundRoom s.toDefaultStrategy remainMaxBorrowSize - sumBorrowSize) := by
  unfold oneBorrowedBlockSize roundRoom
  rw [Nat.mod_eq_of_lt hdouble]
  omega

/-- The loop ends at a block below the lower bound. -/
theorem requestBlocks_of_short (h : oneBorrowedBlockSize s.toDefaultStrategy expectedRevenue
      remainMaxBorrowSize maxBorrowedBlockSize sumBorrowSize < s.minMemPerBorrowBytes) :
    (requestBlocks s expectedRevenue remainMaxBorrowSize maxBorrowedBlockSize sumBorrowSize
      strategyTip).2 = [] := by
  unfold requestBlocks
  split
  · rw [if_pos h]
  · rfl

/-- Any other block is requested, and the loop goes on. -/
theorem requestBlocks_of_block {block : Nat} (hneed : sumBorrowSize < expectedRevenue)
    (hroom : sumBorrowSize < roundRoom s.toDefaultStrategy remainMaxBorrowSize)
    (hblock : oneBorrowedBlockSize s.toDefaultStrategy expectedRevenue remainMaxBorrowSize
      maxBorrowedBlockSize sumBorrowSize = block) (h : s.minMemPerBorrowBytes ≤ block) :
    ∃ tip, (requestBlocks s expectedRevenue remainMaxBorrowSize maxBorrowedBlockSize sumBorrowSize
      strategyTip).2 = block :: (requestBlocks s expectedRevenue remainMaxBorrowSize
        (max maxBorrowedBlockSize block) (sumBorrowSize + block) tip).2 := by
  unfold roundRoom at hroom
  refine ⟨if block = remainMaxBorrowSize then .borNotEnoughCredit else strategyTip, ?_⟩
  rw [requestBlocks, if_pos (by omega), hblock, max_def_lt]
  dsimp only
  rw [if_neg (Nat.not_lt.2 h)]

/-- **Every block keeps the bounds of a block**. -/
theorem mem_requestBlocks : ∀ block ∈ (requestBlocks s expectedRevenue remainMaxBorrowSize
      maxBorrowedBlockSize sumBorrowSize strategyTip).2,
    s.minMemPerBorrowBytes ≤ block ∧ block ≤ s.maxMemPerBorrowBytes := by
  fun_induction requestBlocks with
  | case1 => exact fun _ hmem => (nomatch hmem)
  | case2 maxBorrowedBlockSize sumBorrowSize tip hgo block tip' hshort rest ih =>
    intro b hmem
    rcases List.mem_cons.1 hmem with rfl | hmem
    · refine ⟨Nat.not_lt.1 hshort, ?_⟩
      show oneBorrowedBlockSize _ _ _ _ _ ≤ _
      unfold oneBorrowedBlockSize
      omega
    · exact ih b hmem
  | case3 => exact fun _ hmem => (nomatch hmem)

/-- A block that is the last one, because it reaches what is expected or a limit. -/
theorem sum_requestBlocks_of_last {block : Nat} (hneed : sumBorrowSize < expectedRevenue)
    (hroom : sumBorrowSize < roundRoom s.toDefaultStrategy remainMaxBorrowSize)
    (hblock : oneBorrowedBlockSize s.toDefaultStrategy expectedRevenue remainMaxBorrowSize
      maxBorrowedBlockSize sumBorrowSize = block)
    (hlast : expectedRevenue ≤ sumBorrowSize + block ∨
      roundRoom s.toDefaultStrategy remainMaxBorrowSize ≤ sumBorrowSize + block) :
    (requestBlocks s expectedRevenue remainMaxBorrowSize maxBorrowedBlockSize sumBorrowSize
      strategyTip).2.sum = if block < s.minMemPerBorrowBytes then 0 else block := by
  split
  next hshort => rw [requestBlocks_of_short s strategyTip (hblock ▸ hshort), List.sum_nil]
  next hshort =>
    obtain ⟨tip, htip⟩ := requestBlocks_of_block s strategyTip hneed hroom hblock
      (Nat.not_lt.1 hshort)
    rw [htip, requestBlocks_of_done s tip hlast, List.sum_singleton]

/-- Once the blocks so far make the loop ask for blocks of the largest size, it goes on like that. -/
theorem sum_requestBlocks_of_large (hlarge : s.maxMemPerBorrowBytes ≤ 2 * maxBorrowedBlockSize)
    (hdouble : 2 * maxBorrowedBlockSize < 2 ^ 64) :
    (requestBlocks s expectedRevenue remainMaxBorrowSize maxBorrowedBlockSize sumBorrowSize
      strategyTip).2.sum =
      served s.minMemPerBorrowBytes s.maxMemPerBorrowBytes
        (wholeBlocks s.maxMemPerBorrowBytes (expectedRevenue - sumBorrowSize))
        (roundRoom s.toDefaultStrategy remainMaxBorrowSize - sumBorrowSize) := by
  have hmin := s.min_pos
  have hbounds := s.valid.min_le_max
  have hlimit := (le_of_mem_memPerBorrow s.valid.max_mem).2
  have hsmall : specs4G = 4294967296 := by decide
  -- by induction on what is still expected
  induction hn : expectedRevenue - sumBorrowSize using Nat.strong_induction_on generalizing
    maxBorrowedBlockSize sumBorrowSize strategyTip with
  | _ n ih =>
  rcases Nat.eq_zero_or_pos n with rfl | hpos
  · rw [requestBlocks_of_done s strategyTip (Or.inl (by omega)), wholeBlocks_zero (by omega),
      served, if_pos (Nat.zero_le _), ite_self, List.sum_nil]
  have hwhole : s.maxMemPerBorrowBytes ≤ wholeBlocks s.maxMemPerBorrowBytes n :=
    le_wholeBlocks hpos (by omega)
  rcases Nat.lt_or_ge sumBorrowSize (roundRoom s.toDefaultStrategy remainMaxBorrowSize) with
    hroom | hfull
  · have hblock := oneBorrowedBlockSize_eq s expectedRevenue remainMaxBorrowSize sumBorrowSize
      hdouble
    rcases Nat.lt_or_ge (roundRoom s.toDefaultStrategy remainMaxBorrowSize - sumBorrowSize)
      s.maxMemPerBorrowBytes with hlast | hwide
    · have hrest : oneBorrowedBlockSize s.toDefaultStrategy expectedRevenue remainMaxBorrowSize
          maxBorrowedBlockSize sumBorrowSize =
          roundRoom s.toDefaultStrategy remainMaxBorrowSize - sumBorrowSize := by omega
      rw [served_of_lt (by omega) hlast]
      exact sum_requestBlocks_of_last s strategyTip (by omega) hroom hrest (Or.inr (by omega))
    · have hlargest : oneBorrowedBlockSize s.toDefaultStrategy expectedRevenue
          remainMaxBorrowSize maxBorrowedBlockSize sumBorrowSize = s.maxMemPerBorrowBytes := by
        omega
      obtain ⟨tip, htip⟩ := requestBlocks_of_block s strategyTip (by omega) hroom hlargest hbounds
      rw [htip, List.sum_cons, ih _ (by omega) tip (by omega) (by omega) rfl,
        ← add_served hpos (by omega) hbounds hwide, ← Nat.sub_sub, ← Nat.sub_sub, hn]
  · rw [requestBlocks_of_done s strategyTip (Or.inr hfull), Nat.sub_eq_zero_of_le hfull,
      served_of_lt (by omega) (by omega), if_pos hmin, List.sum_nil]

/-- What the blocks of a request add up to if there is room: an amount below the largest size is one
block. -/
def askedTotal (s : DefaultStrategy) (expectedRevenue maxBorrowedBlockSize : Nat) : Nat :=
  if max (2 * maxBorrowedBlockSize) expectedRevenue < s.maxMemPerBorrowBytes then
    max (2 * maxBorrowedBlockSize) expectedRevenue
  else wholeBlocks s.maxMemPerBorrowBytes expectedRevenue

/-- **The sum of the blocks**, in closed form. -/
theorem sum_requestBlocks (remainMaxBorrowSize : Nat) (hneed : 0 < expectedRevenue)
    (hdouble : 2 * maxBorrowedBlockSize < 2 ^ 64) :
    (requestBlocks s expectedRevenue remainMaxBorrowSize maxBorrowedBlockSize 0 strategyTip).2.sum =
      served s.minMemPerBorrowBytes s.maxMemPerBorrowBytes
        (askedTotal s.toDefaultStrategy expectedRevenue maxBorrowedBlockSize)
        (roundRoom s.toDefaultStrategy remainMaxBorrowSize) := by
  have hmin := s.min_pos
  have hbounds := s.valid.min_le_max
  have hlimit := (le_of_mem_memPerBorrow s.valid.max_mem).2
  have hsmall : specs4G = 4294967296 := by decide
  have hwhole : s.maxMemPerBorrowBytes ≤ wholeBlocks s.maxMemPerBorrowBytes expectedRevenue :=
    le_wholeBlocks hneed (by omega)
  rcases Nat.lt_or_ge (2 * maxBorrowedBlockSize) s.maxMemPerBorrowBytes with hsmaller | hlarge
  swap
  · rw [sum_requestBlocks_of_large s strategyTip hlarge hdouble, Nat.sub_zero, Nat.sub_zero,
      askedTotal, if_neg (by omega)]
  rcases Nat.eq_zero_or_pos (roundRoom s.toDefaultStrategy remainMaxBorrowSize) with hfull | hroom
  · have hasked : 0 < askedTotal s.toDefaultStrategy expectedRevenue maxBorrowedBlockSize := by
      unfold askedTotal
      split <;> omega
    rw [requestBlocks_of_done s strategyTip (Or.inr (by omega)), hfull, served_of_lt hasked
      (by omega), if_pos hmin, List.sum_nil]
  have hblock := oneBorrowedBlockSize_eq s expectedRevenue remainMaxBorrowSize 0 hdouble
  rw [Nat.sub_zero, Nat.sub_zero] at hblock
  unfold askedTotal
  split
  next hone =>
    -- one block is enough
    rw [Nat.min_eq_right hone.le] at hblock
    rw [sum_requestBlocks_of_last s strategyTip hneed hroom hblock (by omega)]
    rcases Nat.lt_or_ge (roundRoom s.toDefaultStrategy remainMaxBorrowSize)
      (max (2 * maxBorrowedBlockSize) expectedRevenue) with hless | hfits
    · rw [served_of_lt hless (hless.trans hone), Nat.min_eq_right hless.le]
    · rw [served, if_pos hfits, Nat.min_eq_left hfits]
  next hmore =>
    rw [Nat.min_eq_left (Nat.not_lt.1 hmore)] at hblock
    rcases Nat.lt_or_ge (roundRoom s.toDefaultStrategy remainMaxBorrowSize)
      s.maxMemPerBorrowBytes with hlast | hwide
    · rw [Nat.min_eq_right hlast.le] at hblock
      rw [sum_requestBlocks_of_last s strategyTip hneed hroom hblock (Or.inr (by omega)),
        served_of_lt (by omega) hlast]
    · -- the first block has the largest size, and so have those after it
      rw [Nat.min_eq_left hwide] at hblock
      obtain ⟨tip, htip⟩ := requestBlocks_of_block s strategyTip hneed hroom hblock hbounds
      rw [htip, List.sum_cons, sum_requestBlocks_of_large s tip (by omega) (by omega),
        Nat.zero_add, add_served hneed (by omega) hbounds hwide]

theorem le_askedTotal (expectedRevenue maxBorrowedBlockSize : Nat) :
    expectedRevenue ≤ askedTotal s.toDefaultStrategy expectedRevenue maxBorrowedBlockSize := by
  have hmin := s.min_pos
  have hbounds := s.valid.min_le_max
  unfold askedTotal
  split
  · exact le_max_right _ _
  · exact self_le_wholeBlocks _ (by omega)

end Loop

/-! ### The limits -/

/-- What is to be borrowed in addition to the remote memory that is free, aligned. -/
def alignedNeed (s : DefaultStrategy) (alarmNumaInfo : AlarmNumaInfo)
    (numaMemBorrow expectedRevenue : Nat) : Nat :=
  if numaMemBorrow < expectedRevenue + alarmNumaInfo.remoteUsedMem.sum then
    align (expectedRevenue + alarmNumaInfo.remoteUsedMem.sum - numaMemBorrow) s.memBorrowAlignBytes
  else 0

/-- The blocks keep every limit, and they reach the need unless one of the limits is exhausted. -/
structure WithinLimits (s : DefaultStrategy) (maxBorrowSize numaMemBorrow need : Nat)
    (blocks : List Nat) : Prop where
  each : ∀ block ∈ blocks, s.minMemPerBorrowBytes ≤ block ∧ block ≤ s.maxMemPerBorrowBytes
  round : blocks.sum ≤ s.maxPerTotalMemBorrowBytes
  capped : numaMemBorrow + blocks.sum ≤ maxBorrowSize
  enough : need ≤ blocks.sum ∨
    s.maxPerTotalMemBorrowBytes - blocks.sum < s.minMemPerBorrowBytes ∨
    maxBorrowSize - (numaMemBorrow + blocks.sum) < s.minMemPerBorrowBytes

/-- When the limits are kept. The room is what the rounded limits leave; it may be more than what is
left in fact. -/
def LimitsFit (s : DefaultStrategy) (maxBorrowSize numaMemBorrow need largest : Nat) : Prop :=
  let left := maxBorrowSize - numaMemBorrow
  let room := roundRoom s
    (align (align maxBorrowSize s.memBorrowAlignBytes - numaMemBorrow) s.memBorrowAlignBytes)
  let asked := askedTotal s need largest
  numaMemBorrow ≤ maxBorrowSize ∧
    (need = 0 ∨ (asked < s.minMemPerBorrowBytes ∧ left < s.minMemPerBorrowBytes) ∨
      (s.minMemPerBorrowBytes ≤ asked ∧ (asked ≤ left ∨ room ≤ left ∨
        (room < asked ∧ room % s.maxMemPerBorrowBytes < s.minMemPerBorrowBytes ∧
          room - room % s.maxMemPerBorrowBytes ≤ left))))

instance (s : DefaultStrategy) (maxBorrowSize numaMemBorrow need largest : Nat) :
    Decidable (LimitsFit s maxBorrowSize numaMemBorrow need largest) :=
  inferInstanceAs (Decidable (_ ∧ _))

theorem monitorNumaMemoryBorrowing_eq (alarmNumaInfo : AlarmNumaInfo) :
    monitorNumaMemoryBorrowing alarmNumaInfo = alarmNumaInfo.remoteUsedMem.sum % 2 ^ 64 := by
  have hloop : ∀ (l : List Nat) (sum : Nat), l.foldl (fun sum remoteUsedMem =>
      (sum + remoteUsedMem) % 2 ^ 64) (sum % 2 ^ 64) = (sum + l.sum) % 2 ^ 64 := by
    intro l
    induction l with
    | nil => exact fun sum => rfl
    | cons a l ih =>
      intro sum
      rw [List.foldl_cons, Nat.mod_add_mod, ih, List.sum_cons, Nat.add_assoc]
  have hzero := hloop alarmNumaInfo.remoteUsedMem 0
  rwa [Nat.zero_add] at hzero

/-- What is served keeps the cap, and stops short only at a limit. -/
theorem served_within_iff {lower size total remain asked need left : Nat} (hlower : 0 < lower)
    (hsize : lower ≤ size) (htotal : size ≤ total) (hneed : 0 < need) (hasked : need ≤ asked)
    (hremain : left ≤ remain) :
    (served lower size asked (min remain total) ≤ left ∧
      (need ≤ served lower size asked (min remain total) ∨
        total - served lower size asked (min remain total) < lower ∨
        left - served lower size asked (min remain total) < lower)) ↔
      (need = 0 ∨ (asked < lower ∧ left < lower) ∨
        (lower ≤ asked ∧ (asked ≤ left ∨ min remain total ≤ left ∨
          (min remain total < asked ∧ min remain total % size < lower ∧
            min remain total - min remain total % size ≤ left)))) := by
  have hmod := Nat.mod_le (min remain total) size
  unfold served
  rcases Nat.lt_or_ge (min remain total) asked with hshort | hroom
  · rw [if_neg (Nat.not_le.2 hshort)]
    rcases Nat.lt_or_ge (min remain total) size with hlt | hge
    · -- less than a block is left
      rw [Nat.mod_eq_of_lt hlt]
      split <;> omega
    · split <;> omega
  · rw [if_pos hroom]
    split <;> omega

/-- **The limits are kept exactly if they fit**: rounding up the limit of the numa may leave more
room than there is, and small loans may leave a block below the lower bound. -/
theorem withinLimits_iff (s : ValidStrategy) (alarmNumaInfo : AlarmNumaInfo)
    (numaMemBorrow maxBorrowSize expectedRevenue : Nat)
    (hsum : expectedRevenue + alarmNumaInfo.remoteUsedMem.sum < 2 ^ 64)
    (halign : maxBorrowSize + s.memBorrowAlignBytes ≤ 2 ^ 64)
    (hdouble : 2 * startBlockSize s.toDefaultStrategy alarmNumaInfo.borrowItem < 2 ^ 64) :
    WithinLimits s.toDefaultStrategy maxBorrowSize numaMemBorrow
        (alignedNeed s.toDefaultStrategy alarmNumaInfo numaMemBorrow expectedRevenue)
        (calBorrowMem s alarmNumaInfo numaMemBorrow maxBorrowSize expectedRevenue).2.2 ↔
      LimitsFit s.toDefaultStrategy maxBorrowSize numaMemBorrow
        (alignedNeed s.toDefaultStrategy alarmNumaInfo numaMemBorrow expectedRevenue)
        (startBlockSize s.toDefaultStrategy alarmNumaInfo.borrowItem) := by
  have hpos := s.align_pos
  have hmin := s.min_pos
  have hbounds := s.valid.min_le_max
  have htotal := s.max_le_total
  have hsmall : s.memBorrowAlignBytes < 2 ^ 64 :=
    (s.valid.align_le_min.trans (le_of_mem_memPerBorrow s.valid.min_mem).2).trans_lt (by decide)
  have hcap := le_align hpos halign
  have hremote : monitorNumaMemoryBorrowing alarmNumaInfo = alarmNumaInfo.remoteUsedMem.sum := by
    rw [monitorNumaMemoryBorrowing_eq, Nat.mod_eq_of_lt (by omega)]
  unfold calBorrowMem LimitsFit alignedNeed
  dsimp only
  rw [hremote, Nat.mod_eq_of_lt hsum]
  by_cases hover : align maxBorrowSize s.memBorrowAlignBytes < numaMemBorrow
  · rw [if_pos hover]
    refine ⟨fun h => ?_, fun h => ?_⟩
    · have hcapped := h.capped
      omega
    · omega
  rw [if_neg hover]
  by_cases hfree : numaMemBorrow < expectedRevenue + alarmNumaInfo.remoteUsedMem.sum
  swap
  · rw [if_neg hfree, if_neg hfree]
    refine ⟨fun h => ⟨h.capped, Or.inl rfl⟩, fun h => ?_⟩
    exact ⟨fun _ hmem => (nomatch hmem), Nat.zero_le _, h.1, Or.inl le_rfl⟩
  rw [if_pos hfree, if_pos hfree]
  dsimp only
  have hneed := align_pos (Nat.sub_pos_of_lt hfree) hpos hsmall
  -- what is left in fact is no more than the rounded limits leave
  have hleft : maxBorrowSize - numaMemBorrow ≤
      align (align maxBorrowSize s.memBorrowAlignBytes - numaMemBorrow) s.memBorrowAlignBytes :=
    (le_min (by omega) (by omega)).trans (min_le_align _ hpos hsmall.le)
  have hserved := served_within_iff hmin hbounds htotal hneed (le_askedTotal s _
    (startBlockSize s.toDefaultStrategy alarmNumaInfo.borrowItem)) hleft
  have hblocks := sum_requestBlocks s .nope
    (align (align maxBorrowSize s.memBorrowAlignBytes - numaMemBorrow) s.memBorrowAlignBytes)
    hneed hdouble
  unfold roundRoom at hblocks ⊢
  rw [← hblocks] at hserved
  refine ⟨fun h => ⟨?_, ?_⟩, fun ⟨hle, h⟩ => ?_⟩
  · exact (Nat.le_add_right _ _).trans h.capped
  · refine hserved.1 ⟨Nat.le_sub_of_add_le' h.capped, ?_⟩
    rw [Nat.sub_sub]
    exact h.enough
  · obtain ⟨hcapped, henough⟩ := hserved.2 h
    rw [Nat.sub_sub] at henough
    refine ⟨mem_requestBlocks s .nope, ?_, Nat.add_le_of_le_sub' hle hcapped, henough⟩
    rw [hblocks]
    exact (served_le _ _ _ _).trans (min_le_right _ _)

/-- A numa that has borrowed 1 GB from another one, may borrow 8 GB and expects 3 GB. -/
theorem withinLimits_iff_default :
    WithinLimits ValidStrategy.default.toDefaultStrategy (8 <<< 30) (1 <<< 30)
      (alignedNeed ValidStrategy.default.toDefaultStrategy ⟨[], [⟨"a", [1 <<< 30]⟩]⟩ (1 <<< 30)
        (3 <<< 30))
      (calBorrowMem .default ⟨[], [⟨"a", [1 <<< 30]⟩]⟩ (1 <<< 30) (8 <<< 30) (3 <<< 30)).2.2 :=
  (withinLimits_iff .default ⟨[], [⟨"a", [1 <<< 30]⟩]⟩ (1 <<< 30) (8 <<< 30) (3 <<< 30)
    (by decide) (by decide) (by decide)).2 (by decide)

/-- A numa that may borrow 1.5 GB is given 2 GB. -/
theorem not_withinLimits :
    ¬WithinLimits ValidStrategy.default.toDefaultStrategy (3 <<< 29) 0
      (alignedNeed ValidStrategy.default.toDefaultStrategy ⟨[], []⟩ 0 (2 <<< 30))
      (calBorrowMem .default ⟨[], []⟩ 0 (3 <<< 29) (2 <<< 30)).2.2 := by
  intro h
  have hblocks : (calBorrowMem .default ⟨[], []⟩ 0 (3 <<< 29) (2 <<< 30)).2.2 =
      (requestBlocks .default (2 <<< 30) (2 <<< 30) (1 <<< 29) 0 .nope).2 := rfl
  have hcapped := h.capped
  rw [hblocks, sum_requestBlocks .default .nope (2 <<< 30) (by decide) (by decide)] at hcapped
  exact absurd hcapped (by decide)

end Escape

end UbsEngine
