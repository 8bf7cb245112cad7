import UbsEngine.Fragment.BorrowStrategy

/-!
# What the strategy for one size finds

A successful strategy covers the size that was asked for exactly when that size, rounded up to blocks,
has 64 bits, and either the blocks divide 4 GB or no piece of 4 GB is cut on the way
(`UbsEngine.Fragment.covers_iff`).
-/

namespace UbsEngine

namespace Fragment

/-! ### Blocks and pieces of 4 GB -/

section Counts

variable {gBlockSize size need : BitVec 32}

theorem toNat_block (gBlockSize : BitVec 32) :
    (gBlockSize.setWidth 64 * 1024).toNat = gBlockSize.toNat * 1024 := by
  have hlt := gBlockSize.isLt
  have hwidth : (gBlockSize.setWidth 64).toNat = gBlockSize.toNat :=
    BitVec.toNat_setWidth_of_le (by decide)
  rw [BitVec.toNat_mul_of_lt, hwidth]
  · rfl
  · rw [hwidth]
    exact Nat.lt_of_lt_of_le (Nat.mul_lt_mul_of_pos_right hlt (by decide)) (by decide)

theorem toNat_bytes (size : BitVec 32) :
    (size.setWidth 64 * 1048576).toNat = size.toNat * 1048576 := by
  have hlt := size.isLt
  have hwidth : (size.setWidth 64).toNat = size.toNat := BitVec.toNat_setWidth_of_le (by decide)
  rw [BitVec.toNat_mul_of_lt, hwidth]
  · rfl
  · rw [hwidth]
    exact Nat.lt_of_lt_of_le (Nat.mul_lt_mul_of_pos_right hlt (by decide)) (by decide)

theorem toNat_fourGbBlockSize : (fourGbBlockSize gBlockSize).toNat = 4096 / gBlockSize.toNat := by
  have hfour : fourGb.toNat = 4096 * 1024 := rfl
  have hle : 4096 / gBlockSize.toNat ≤ 4096 := Nat.div_le_self ..
  rw [fourGbBlockSize, BitVec.toNat_setWidth, BitVec.toNat_udiv, toNat_block, hfour,
    Nat.mul_div_mul_right _ _ (by decide), Nat.mod_eq_of_lt (by omega)]

theorem toNat_couldBorrowNum :
    (couldBorrowNum gBlockSize size).toNat = size.toNat / gBlockSize.toNat := by
  have hblock : (gBlockSize.setWidth 64 * 1024 * 1024).toNat = gBlockSize.toNat * 1048576 := by
    have hlt := gBlockSize.isLt
    rw [BitVec.toNat_mul_of_lt, toNat_block, Nat.mul_assoc]
    · rfl
    · rw [toNat_block, Nat.mul_assoc]
      exact Nat.lt_of_lt_of_le (Nat.mul_lt_mul_of_pos_right hlt (by decide)) (by decide)
  have hle : size.toNat / gBlockSize.toNat ≤ size.toNat := Nat.div_le_self ..
  have hlt := size.isLt
  rw [couldBorrowNum, BitVec.toNat_setWidth, BitVec.toNat_udiv, toNat_bytes, hblock,
    Nat.mul_div_mul_right _ _ (by decide), Nat.mod_eq_of_lt (by omega)]

theorem toNat_haveFourGbNum : (haveFourGbNum size).toNat = size.toNat / 4096 := by
  have hfour : (fourGb * 1024).toNat = 4096 * 1048576 := rfl
  have hlt := size.isLt
  rw [haveFourGbNum, BitVec.toNat_setWidth, BitVec.toNat_udiv, toNat_bytes, hfour,
    Nat.mul_div_mul_right _ _ (by decide), Nat.mod_eq_of_lt (by omega)]

/-- The blocks that are taken from a numa. -/
def taken (gBlockSize size need : BitVec 32) : BitVec 32 :=
  if couldBorrowNum gBlockSize size ≤ need then couldBorrowNum gBlockSize size else need

/-- No piece of 4 GB is cut from a numa. -/
def Uncut (gBlockSize size need : BitVec 32) : Prop :=
  if couldBorrowNum gBlockSize size ≤ need then size < 4096 else need < fourGbBlockSize gBlockSize

theorem taken_mul_le : (taken gBlockSize size need).toNat * gBlockSize.toNat ≤ size.toNat := by
  have hcould := Nat.div_mul_le_self size.toNat gBlockSize.toNat
  unfold taken
  split_ifs with hle
  · rw [toNat_couldBorrowNum]
    exact hcould
  · rw [BitVec.not_le, BitVec.lt_def, toNat_couldBorrowNum] at hle
    exact Nat.le_trans (Nat.mul_le_mul_right _ (Nat.le_of_lt hle)) hcould

/-- The blocks that are left when the pieces of 4 GB are cut from all that a numa has. -/
theorem toNat_rest :
    (couldBorrowNum gBlockSize size - haveFourGbNum size * fourGbBlockSize gBlockSize).toNat =
      size.toNat / gBlockSize.toNat - size.toNat / 4096 * (4096 / gBlockSize.toNat) ∧
    size.toNat / 4096 * (4096 / gBlockSize.toNat) ≤ size.toNat / gBlockSize.toNat := by
  have hle : size.toNat / 4096 * (4096 / gBlockSize.toNat) ≤ size.toNat / gBlockSize.toNat := by
    rcases Nat.eq_zero_or_pos gBlockSize.toNat with hzero | hpos
    · rw [hzero, Nat.div_zero, Nat.mul_zero]
      exact Nat.zero_le _
    · rw [Nat.le_div_iff_mul_le hpos, Nat.mul_assoc]
      calc size.toNat / 4096 * (4096 / gBlockSize.toNat * gBlockSize.toNat)
          ≤ size.toNat / 4096 * 4096 := Nat.mul_le_mul_left _ (Nat.div_mul_le_self ..)
        _ ≤ size.toNat := Nat.div_mul_le_self ..
  have hlt : size.toNat / gBlockSize.toNat < 2 ^ 32 :=
    Nat.lt_of_le_of_lt (Nat.div_le_self ..) size.isLt
  have hmul : (haveFourGbNum size * fourGbBlockSize gBlockSize).toNat =
      size.toNat / 4096 * (4096 / gBlockSize.toNat) := by
    rw [BitVec.toNat_mul_of_lt, toNat_haveFourGbNum, toNat_fourGbBlockSize]
    rw [toNat_haveFourGbNum, toNat_fourGbBlockSize]
    exact Nat.lt_of_le_of_lt hle hlt
  refine ⟨?_, hle⟩
  rw [BitVec.toNat_sub_of_le, hmul, toNat_couldBorrowNum]
  rw [BitVec.le_def, hmul, toNat_couldBorrowNum]
  exact hle

/-- **The pieces of a numa**, in whole pieces and blocks: where blocks divide 4 GB or nothing is cut,
they hold as many blocks as are taken. -/
theorem pieceCounts_spec {whole more : BitVec 32}
    (hblock : gBlockSize ≠ 0) (h : pieceCounts gBlockSize size need = some (whole, more))
    (hfine : gBlockSize.toNat ∣ 4096 ∨ Uncut gBlockSize size need) :
    whole.toNat * 4096 + more.toNat * gBlockSize.toNat =
        (taken gBlockSize size need).toNat * gBlockSize.toNat ∧
      more.toNat * gBlockSize.toNat ≤ 4096 ∧ (whole.toNat = 0 ∨ gBlockSize.toNat ∣ 4096) := by
  have hpos : 0 < gBlockSize.toNat :=
    Nat.pos_of_ne_zero fun hzero => hblock (BitVec.eq_of_toNat_eq hzero)
  unfold pieceCounts at h
  unfold taken
  unfold Uncut at hfine
  by_cases hle : couldBorrowNum gBlockSize size ≤ need
  · -- all that the numa has is taken
    rw [if_pos hle] at h hfine ⊢
    obtain ⟨rfl, rfl⟩ := Prod.mk.inj (Option.some.inj h)
    obtain ⟨hrest, hle'⟩ := @toNat_rest gBlockSize size
    have hcould := Nat.div_mul_le_self size.toNat gBlockSize.toNat
    have hmul := Nat.mul_le_mul_right gBlockSize.toNat hle'
    rw [hrest, toNat_haveFourGbNum, toNat_couldBorrowNum, Nat.sub_mul]
    rcases hfine with ⟨k, hk⟩ | hcut
    · have hfour : 4096 / gBlockSize.toNat * gBlockSize.toNat = 4096 :=
        Nat.div_mul_cancel ⟨k, hk⟩
      rw [Nat.mul_assoc, hfour] at hmul ⊢
      refine ⟨by omega, ?_, .inr ⟨k, hk⟩⟩
      omega
    · rw [BitVec.lt_def] at hcut
      have hnone : size.toNat / 4096 = 0 := Nat.div_eq_of_lt hcut
      have hsize : size.toNat < 4096 := hcut
      rw [hnone, Nat.zero_mul, Nat.zero_mul, Nat.zero_mul]
      exact ⟨by omega, by omega, .inl rfl⟩
  · -- the numa has more than is needed
    rw [if_neg hle] at h hfine ⊢
    by_cases hzero : fourGbBlockSize gBlockSize = 0
    · rw [if_pos hzero] at h
      cases h
    · rw [if_neg hzero] at h
      obtain ⟨rfl, rfl⟩ := Prod.mk.inj (Option.some.inj h)
      rw [BitVec.toNat_udiv, BitVec.toNat_umod, toNat_fourGbBlockSize]
      have hfour := Nat.div_mul_le_self 4096 gBlockSize.toNat
      rcases hfine with ⟨k, hk⟩ | hcut
      · have hcancel : 4096 / gBlockSize.toNat * gBlockSize.toNat = 4096 :=
          Nat.div_mul_cancel ⟨k, hk⟩
        have hkpos : 0 < 4096 / gBlockSize.toNat := by
          refine Nat.pos_of_ne_zero fun hk0 => ?_
          rw [hk0, Nat.zero_mul] at hcancel
          cases hcancel
        refine ⟨?_, ?_, .inr ⟨k, hk⟩⟩
        · calc need.toNat / (4096 / gBlockSize.toNat) * 4096 +
                need.toNat % (4096 / gBlockSize.toNat) * gBlockSize.toNat
              = (4096 / gBlockSize.toNat * (need.toNat / (4096 / gBlockSize.toNat)) +
                  need.toNat % (4096 / gBlockSize.toNat)) * gBlockSize.toNat := by
                rw [Nat.add_mul, Nat.mul_comm (4096 / gBlockSize.toNat), Nat.mul_assoc, hcancel]
            _ = need.toNat * gBlockSize.toNat := by rw [Nat.div_add_mod]
        · have hmod := Nat.mod_lt need.toNat hkpos
          have hmul := Nat.mul_le_mul_right gBlockSize.toNat (Nat.le_of_lt hmod)
          omega
      · rw [BitVec.lt_def, toNat_fourGbBlockSize] at hcut
        rw [Nat.div_eq_of_lt hcut, Nat.mod_eq_of_lt hcut, Nat.zero_mul, Nat.zero_add]
        have hmul := Nat.mul_le_mul_right gBlockSize.toNat (Nat.le_of_lt hcut)
        exact ⟨rfl, by omega, .inl rfl⟩

/-- Where a piece of 4 GB is cut, there is one. -/
theorem pieceCounts_of_not_uncut {whole more : BitVec 32}
    (h : pieceCounts gBlockSize size need = some (whole, more))
    (hcut : ¬ Uncut gBlockSize size need) : 0 < whole.toNat := by
  unfold pieceCounts at h
  unfold Uncut at hcut
  by_cases hle : couldBorrowNum gBlockSize size ≤ need
  · rw [if_pos hle] at h hcut
    obtain ⟨rfl, -⟩ := Prod.mk.inj (Option.some.inj h)
    rw [toNat_haveFourGbNum]
    exact Nat.div_pos (BitVec.not_lt.1 hcut) (by decide)
  · rw [if_neg hle] at h hcut
    by_cases hzero : fourGbBlockSize gBlockSize = 0
    · rw [if_pos hzero] at h
      cases h
    · rw [if_neg hzero] at h
      obtain ⟨rfl, -⟩ := Prod.mk.inj (Option.some.inj h)
      rw [BitVec.toNat_udiv]
      exact Nat.div_pos (BitVec.not_lt.1 hcut)
        (Nat.pos_of_ne_zero fun h0 => hzero (BitVec.eq_of_toNat_eq h0))

/-- The sizes of the pieces add up to the blocks that they hold, and each is a multiple of the block
and at most 4 GB. -/
structure GoodSizes (gBlockSize : BitVec 32) (count : Nat) (sizes : List (BitVec 64)) : Prop where
  sum : (sizes.map (·.toNat)).sum = count * (gBlockSize.toNat * 1024)
  each : ∀ size ∈ sizes,
    0 < size.toNat ∧ gBlockSize.toNat * 1024 ∣ size.toNat ∧ size.toNat ≤ fourGb.toNat

theorem toNat_piece {more : BitVec 32} (hmore : more.toNat * gBlockSize.toNat ≤ 4096) :
    (more.setWidth 64 * (gBlockSize.setWidth 64 * 1024)).toNat =
      more.toNat * (gBlockSize.toNat * 1024) := by
  have hwidth : (more.setWidth 64).toNat = more.toNat := BitVec.toNat_setWidth_of_le (by decide)
  rw [BitVec.toNat_mul_of_lt, hwidth, toNat_block]
  rw [hwidth, toNat_block, ← Nat.mul_assoc]
  exact Nat.lt_of_le_of_lt (Nat.mul_le_mul_right 1024 hmore) (by decide)

theorem goodSizes_addMemoryParams {whole more : BitVec 32}
    (hblock : gBlockSize ≠ 0) (h : pieceCounts gBlockSize size need = some (whole, more))
    (hfine : gBlockSize.toNat ∣ 4096 ∨ Uncut gBlockSize size need) :
    GoodSizes gBlockSize (taken gBlockSize size need).toNat
      (addMemoryParamsToResult gBlockSize whole more) := by
  obtain ⟨hsum, hmore, hwhole⟩ := pieceCounts_spec hblock h hfine
  have hpos : 0 < gBlockSize.toNat :=
    Nat.pos_of_ne_zero fun hzero => hblock (BitVec.eq_of_toNat_eq hzero)
  have hpiece := toNat_piece hmore
  have hfour : fourGb.toNat = 4096 * 1024 := rfl
  constructor
  · have htotal : whole.toNat * (4096 * 1024) + more.toNat * (gBlockSize.toNat * 1024) =
        (taken gBlockSize size need).toNat * (gBlockSize.toNat * 1024) := by
      rw [← Nat.mul_assoc, ← Nat.mul_assoc, ← Nat.mul_assoc, ← Nat.add_mul, hsum]
    rw [addMemoryParamsToResult, List.map_append, List.sum_append, List.map_replicate,
      List.sum_replicate_nat, hfour]
    by_cases hnone : more = 0
    · rw [if_neg (not_not_intro hnone), List.map_nil, List.sum_nil]
      have hzero : more.toNat = 0 := congrArg BitVec.toNat hnone
      rw [hzero, Nat.zero_mul] at htotal
      exact htotal
    · rw [if_pos hnone, List.map_singleton, List.sum_singleton, hpiece]
      exact htotal
  · intro piece hmem
    rcases List.mem_append.1 hmem with hmem | hmem
    · obtain ⟨hne, rfl⟩ := List.mem_replicate.1 hmem
      exact ⟨by decide, Nat.mul_dvd_mul_right (hwhole.resolve_left hne) 1024, Nat.le_refl _⟩
    · by_cases hnone : more = 0
      · rw [if_neg (not_not_intro hnone)] at hmem
        cases hmem
      · rw [if_pos hnone, List.mem_singleton] at hmem
        subst hmem
        rw [hpiece]
        refine ⟨Nat.mul_pos ?_ (Nat.mul_pos hpos (by decide)), Nat.dvd_mul_left .., ?_⟩
        · exact Nat.pos_of_ne_zero fun hzero => hnone (BitVec.eq_of_toNat_eq hzero)
        · rw [hfour, ← Nat.mul_assoc]
          exact Nat.mul_le_mul_right 1024 hmore

/-- What is cut is a piece of 4 GB. -/
theorem fourGb_mem_addMemoryParams {whole more : BitVec 32}
    (h : pieceCounts gBlockSize size need = some (whole, more))
    (hcut : ¬ Uncut gBlockSize size need) :
    fourGb ∈ addMemoryParamsToResult gBlockSize whole more :=
  List.mem_append_left _
    (List.mem_replicate.2 ⟨Nat.ne_of_gt (pieceCounts_of_not_uncut h hcut), rfl⟩)

end Counts

/-! ### What a socket has left -/

theorem toNat_of_safeUint64To32 {tmp : BitVec 64} {target : BitVec 32}
    (h : safeUint64To32 tmp = some target) : target.toNat = tmp.toNat := by
  unfold safeUint64To32 at h
  split_ifs at h with hwide
  obtain rfl := Option.some.inj h
  have hle : tmp.toNat ≤ 2 ^ 32 - 1 := BitVec.not_lt.1 hwide
  rw [BitVec.toNat_setWidth, Nat.mod_eq_of_lt (by omega)]

section Left

variable {left : Map Nat (BitVec 64)} {numa : NumaMemInfo} {gBlockSize size count : BitVec 32}

/-- A numa is not asked for more than it can lend, nor for more than its socket has left. -/
theorem le_of_couldBorrowSize (h : couldBorrowSize left numa = some size) :
    size.toNat ≤ numa.borrowableMem.toNat / 1048576 ∧
      size.toNat ≤ (curLeft left numa.socketId).toNat := by
  have hdiv : (numa.borrowableMem / 1048576).toNat = numa.borrowableMem.toNat / 1048576 := rfl
  have hsize := toNat_of_safeUint64To32 h
  rw [hsize, ← hdiv]
  split_ifs with hlt
  · exact ⟨Nat.le_of_lt hlt, Nat.le_refl _⟩
  · exact ⟨Nat.le_refl _, Nat.not_lt.1 hlt⟩

/-- Taking blocks from a socket leaves that much less of it, and the other sockets as they were. -/
theorem toNat_curLeft_takeFrom (hcount : count.toNat * gBlockSize.toNat ≤ size.toNat)
    (hsize : size.toNat ≤ (curLeft left numa.socketId).toNat) (socketId : Nat) :
    (curLeft (takeFrom left numa.socketId gBlockSize count) socketId).toNat =
      (curLeft left socketId).toNat -
        if numa.socketId = socketId then count.toNat * gBlockSize.toNat else 0 := by
  have hlt := size.isLt
  have hmul : ((count * gBlockSize).setWidth 64).toNat = count.toNat * gBlockSize.toNat := by
    rw [BitVec.toNat_setWidth_of_le (by decide), BitVec.toNat_mul_of_lt]
    exact Nat.lt_of_le_of_lt hcount hlt
  unfold takeFrom
  rw [curLeft, Map.lookup_insert_ite]
  by_cases hsocket : socketId = numa.socketId
  · subst hsocket
    rw [if_pos rfl, if_pos rfl, Option.getD_some, BitVec.toNat_sub_of_le, hmul]
    rw [BitVec.le_def, hmul]
    exact Nat.le_trans hcount hsize
  · rw [if_neg hsocket, if_neg (Ne.symm hsocket), Nat.sub_zero]
    rfl

end Left

/-! ### The pieces of a candidate -/

/-- A piece of memory: the numa that it is on, and its size in KB. -/
abbrev Piece := Place × BitVec 64

def placeOf (nodeId : String) (numa : NumaMemInfo) : Place where
  nodeId := nodeId
  socketId := numa.socketId
  numaId := numa.numaId

/-- The parameter of a piece; its socket is that of the topology. -/
def destParamOf (env : LedgerEnv) (piece : Piece) : DestMemoryBorrowParam where
  destNid := piece.1.nodeId
  destSocketId := (getSocketId env piece.1.nodeId piece.1.numaId).getD 0
  destNumaNum := 1
  destNumaId := [(piece.1.numaId : Int)]
  memSize := [piece.2]

/-- What the pieces on one numa add up to, in KB. -/
def onNuma (pieces : List Piece) (place : Place) : Nat :=
  Grouping.summed (pieces.map fun piece => (piece.1, piece.2.toNat)) place

/-- What the pieces on one socket add up to, in KB. -/
def onSocket (pieces : List Piece) (nodeId : String) (socketId : Nat) : Nat :=
  Grouping.summed
    (pieces.map fun piece => ((piece.1.nodeId, piece.1.socketId), piece.2.toNat)) (nodeId, socketId)

section Totals

variable {pieces pieces' : List Piece} {sizes : List (BitVec 64)} {place place' : Place}
  {nodeId : String} {socketId : Nat}

theorem onNuma_append : onNuma (pieces ++ pieces') place =
    onNuma pieces place + onNuma pieces' place := by
  rw [onNuma, List.map_append, Grouping.summed_append]
  rfl

theorem onSocket_append : onSocket (pieces ++ pieces') nodeId socketId =
    onSocket pieces nodeId socketId + onSocket pieces' nodeId socketId := by
  rw [onSocket, List.map_append, Grouping.summed_append]
  rfl

theorem summed_map_key {κ : Type} [DecidableEq κ] (k k' : κ) :
    Grouping.summed (sizes.map fun size => (k, size.toNat)) k' =
      if k = k' then (sizes.map (·.toNat)).sum else 0 := by
  by_cases hk : k = k'
  · rw [if_pos hk, Grouping.summed, List.map_map]
    congr 1
    exact List.map_congr_left fun size _ => if_pos hk
  · rw [if_neg hk]
    refine Grouping.summed_eq_zero fun x hx hxk => ?_
    obtain ⟨size, -, rfl⟩ := List.mem_map.1 hx
    exact absurd hxk hk

theorem onNuma_map_mk : onNuma (sizes.map (Prod.mk place)) place' =
    if place = place' then (sizes.map (·.toNat)).sum else 0 := by
  rw [onNuma, List.map_map]
  exact summed_map_key place place'

theorem onSocket_map_mk : onSocket (sizes.map (Prod.mk place)) nodeId socketId =
    if (place.nodeId, place.socketId) = (nodeId, socketId) then (sizes.map (·.toNat)).sum else 0 := by
  rw [onSocket, List.map_map]
  exact summed_map_key (place.nodeId, place.socketId) (nodeId, socketId)

theorem onNuma_eq_zero (h : ∀ piece ∈ pieces, piece.1 ≠ place) : onNuma pieces place = 0 := by
  refine Grouping.summed_eq_zero fun x hx hplace => ?_
  obtain ⟨piece, hpiece, rfl⟩ := List.mem_map.1 hx
  exact absurd hplace (h piece hpiece)

theorem onSocket_eq_zero
    (h : ∀ piece ∈ pieces, ¬ (piece.1.nodeId = nodeId ∧ piece.1.socketId = socketId)) :
    onSocket pieces nodeId socketId = 0 := by
  refine Grouping.summed_eq_zero fun x hx hkey => ?_
  obtain ⟨piece, hpiece, rfl⟩ := List.mem_map.1 hx
  obtain ⟨hnode, hsocket⟩ := Prod.mk.inj hkey
  exact absurd ⟨hnode, hsocket⟩ (h piece hpiece)

end Totals

/-! ### The loop over the numas -/

/-- What is still needed after the numas of a candidate. -/
def needAfter (gBlockSize : BitVec 32) :
    List NumaMemInfo → Map Nat (BitVec 64) → BitVec 32 → BitVec 32
  | [], _, need => need
  | numa :: numas, left, need =>
    match couldBorrowSize left numa with
    | none => need
    | some size =>
      let count := couldBorrowNum gBlockSize size
      if count ≤ need then
        needAfter gBlockSize numas (takeFrom left numa.socketId gBlockSize count) (need - count)
      else
        0

/-- No piece of 4 GB is cut from the numas that the loop comes to. -/
def UncutNumas (gBlockSize : BitVec 32) :
    List NumaMemInfo → Map Nat (BitVec 64) → BitVec 32 → Prop
  | [], _, _ => True
  | numa :: numas, left, need =>
    match couldBorrowSize left numa with
    | none => True
    | some size =>
      let count := couldBorrowNum gBlockSize size
      Uncut gBlockSize size need ∧ (count ≤ need →
        UncutNumas gBlockSize numas (takeFrom left numa.socketId gBlockSize count) (need - count))

/-- The pieces that a loop finds for the blocks between two needs, out of what it starts with. -/
structure NumaPieces (gBlockSize : BitVec 32) (nodeId : String) (numas : List NumaMemInfo)
    (left : Map Nat (BitVec 64)) (need need' : BitVec 32) (pieces : List Piece) : Prop where
  le : need'.toNat ≤ need.toNat
  sum : (pieces.map (·.2.toNat)).sum =
    (need.toNat - need'.toNat) * (gBlockSize.toNat * 1024)
  each : ∀ piece ∈ pieces, 0 < piece.2.toNat ∧ gBlockSize.toNat * 1024 ∣ piece.2.toNat ∧
    piece.2.toNat ≤ fourGb.toNat
  onNuma_le : ∀ numa ∈ numas,
    onNuma pieces (placeOf nodeId numa) ≤ numa.borrowableMem.toNat / 1048576 * 1024
  onSocket_le : ∀ socketId,
    onSocket pieces nodeId socketId ≤ (curLeft left socketId).toNat * 1024

section NumaLoop

variable {env : LedgerEnv} {gBlockSize : BitVec 32} {nodeId : String} {numas : List NumaMemInfo}
  {left : Map Nat (BitVec 64)} {need need' size : BitVec 32} {numa : NumaMemInfo}

theorem NumaPieces.nil : NumaPieces gBlockSize nodeId numas left need need [] where
  le := Nat.le_refl _
  sum := by rw [Nat.sub_self, Nat.zero_mul]; rfl
  each := nofun
  onNuma_le _ _ := Nat.zero_le _
  onSocket_le _ := Nat.zero_le _

/-- The pieces of one numa come before those of the rest. -/
theorem NumaPieces.cons {sizes : List (BitVec 64)} {pieces : List Piece} {count : BitVec 32}
    (hsizes : GoodSizes gBlockSize count.toNat sizes) (hneed : count ≤ need)
    (hcount : count.toNat * gBlockSize.toNat ≤ size.toNat)
    (hsize : couldBorrowSize left numa = some size)
    (hfresh : numa.numaId ∉ numas.map (·.numaId))
    (hplaces : ∀ piece ∈ pieces, ∃ numa ∈ numas, piece.1 = placeOf nodeId numa)
    (h : NumaPieces gBlockSize nodeId numas (takeFrom left numa.socketId gBlockSize count)
      (need - count) need' pieces) :
    NumaPieces gBlockSize nodeId (numa :: numas) left need need'
      (sizes.map (Prod.mk (placeOf nodeId numa)) ++ pieces) := by
  obtain ⟨hnuma, hleft⟩ := le_of_couldBorrowSize hsize
  have hsub : (need - count).toNat = need.toNat - count.toNat := BitVec.toNat_sub_of_le hneed
  have hle : count.toNat ≤ need.toNat := hneed
  have hle' := h.le
  have hkb : count.toNat * (gBlockSize.toNat * 1024) ≤ size.toNat * 1024 := by
    rw [← Nat.mul_assoc]
    exact Nat.mul_le_mul_right 1024 hcount
  have hother : ∀ piece ∈ pieces, piece.1 ≠ placeOf nodeId numa := by
    intro piece hpiece heq
    obtain ⟨numa', hnuma', hplace⟩ := hplaces piece hpiece
    have hid : numa'.numaId = numa.numaId := congrArg Place.numaId (hplace.symm.trans heq)
    exact hfresh (hid ▸ List.mem_map_of_mem hnuma')
  constructor
  · omega
  · have hhere : (sizes.map (Prod.mk (placeOf nodeId numa))).map (·.2.toNat) =
        sizes.map (·.toNat) := List.map_map
    rw [List.map_append, List.sum_append, hhere, hsizes.sum, h.sum, hsub, ← Nat.add_mul]
    congr 1
    omega
  · intro piece hpiece
    rcases List.mem_append.1 hpiece with hpiece | hpiece
    · obtain ⟨size', hsize', rfl⟩ := List.mem_map.1 hpiece
      exact hsizes.each size' hsize'
    · exact h.each piece hpiece
  · intro numa' hnuma'
    rw [onNuma_append, onNuma_map_mk, hsizes.sum]
    rcases List.mem_cons.1 hnuma' with rfl | hnuma'
    · rw [if_pos rfl, onNuma_eq_zero hother, Nat.add_zero]
      exact Nat.le_trans hkb (Nat.mul_le_mul_right 1024 hnuma)
    · rw [if_neg, Nat.zero_add]
      · exact h.onNuma_le numa' hnuma'
      · intro heq
        have hid : numa.numaId = numa'.numaId := congrArg Place.numaId heq
        exact hfresh (hid ▸ List.mem_map_of_mem hnuma')
  · intro socketId
    have hrest := h.onSocket_le socketId
    rw [toNat_curLeft_takeFrom hcount hleft] at hrest
    have hkey : ((placeOf nodeId numa).nodeId, (placeOf nodeId numa).socketId) =
        (nodeId, numa.socketId) := rfl
    rw [onSocket_append, onSocket_map_mk, hsizes.sum, hkey]
    by_cases hsocket : numa.socketId = socketId
    · subst hsocket
      have hbound := Nat.mul_le_mul_right 1024 (Nat.le_trans hcount hleft)
      rw [if_pos rfl, Nat.sub_mul] at hrest
      rw [if_pos rfl, ← Nat.mul_assoc]
      exact Nat.add_le_of_le_sub' hbound hrest
    · rw [if_neg hsocket, Nat.sub_zero] at hrest
      rw [if_neg fun heq => hsocket (Prod.mk.inj heq).2, Nat.zero_add]
      exact hrest

theorem destParamsOf_eq {destSocketId : Nat} (numa : NumaMemInfo) (sizes : List (BitVec 64))
    (h : getSocketId env nodeId numa.numaId = some destSocketId) :
    destParamsOf nodeId destSocketId numa.numaId sizes =
      (sizes.map (Prod.mk (placeOf nodeId numa))).map (destParamOf env) := by
  rw [destParamsOf, List.map_map]
  refine List.map_congr_left fun size _ => ?_
  simp [destParamOf, placeOf, h]

theorem askNuma_of_some {numa : NumaMemInfo} {destSocketId : Nat} {size : BitVec 32} {p : Progress}
    (hsocket : getSocketId env nodeId numa.numaId = some destSocketId)
    (hsize : couldBorrowSize left numa = some size) :
    askNuma env gBlockSize nodeId numa left p =
      enterPieces gBlockSize size nodeId destSocketId numa left p
        (pieceCounts gBlockSize size p.needBorrowNum) := by
  simp only [askNuma, hsocket, hsize]

/-- **What a loop over the numas of a candidate finds**, if it ends well. -/
theorem processNumas_of_ok (hblock : gBlockSize ≠ 0) {p p' : Progress}
    (hnodup : (numas.map (·.numaId)).Nodup)
    (h : processNumas env gBlockSize nodeId numas left p = some (.ok, p')) :
    ∃ pieces : List Piece,
      p'.destParam = p.destParam ++ pieces.map (destParamOf env) ∧
      p'.needBorrowNum = needAfter gBlockSize numas left p.needBorrowNum ∧
      (∀ piece ∈ pieces, ∃ numa ∈ numas, piece.1 = placeOf nodeId numa) ∧
      (gBlockSize.toNat ∣ 4096 ∨ UncutNumas gBlockSize numas left p.needBorrowNum →
        NumaPieces gBlockSize nodeId numas left p.needBorrowNum p'.needBorrowNum pieces) ∧
      (¬ UncutNumas gBlockSize numas left p.needBorrowNum → ∃ piece ∈ pieces, piece.2 = fourGb) := by
  induction numas generalizing left p with
  | nil =>
    cases h
    exact ⟨[], (List.append_nil _).symm, rfl, nofun, fun _ => .nil, fun hcut => absurd trivial hcut⟩
  | cons numa numas ih =>
    obtain ⟨hfresh, hnodup⟩ := List.nodup_cons.1 hnodup
    rw [processNumas] at h
    cases hsocket : getSocketId env nodeId numa.numaId with
    | none => rw [askNuma, hsocket] at h; cases h
    | some destSocketId =>
      cases hsize : couldBorrowSize left numa with
      | none => rw [askNuma, hsocket, hsize] at h; cases h
      | some size =>
        rw [askNuma_of_some hsocket hsize] at h
        cases hcounts : pieceCounts gBlockSize size p.needBorrowNum with
        | none => rw [hcounts] at h; cases h
        | some counts =>
          obtain ⟨whole, more⟩ := counts
          rw [hcounts, enterPieces, destParamsOf_eq numa _ hsocket] at h
          have hcount := @taken_mul_le gBlockSize size p.needBorrowNum
          by_cases hle : couldBorrowNum gBlockSize size ≤ p.needBorrowNum
          · -- the loop goes on
            rw [if_pos hle] at h
            obtain ⟨pieces, hdest, hneed, hplaces, hgood, hcut⟩ := ih hnodup h
            have htaken : taken gBlockSize size p.needBorrowNum = couldBorrowNum gBlockSize size :=
              if_pos hle
            have huncut : UncutNumas gBlockSize (numa :: numas) left p.needBorrowNum ↔
                Uncut gBlockSize size p.needBorrowNum ∧ UncutNumas gBlockSize numas
                  (takeFrom left numa.socketId gBlockSize (couldBorrowNum gBlockSize size))
                  (p.needBorrowNum - couldBorrowNum gBlockSize size) := by
              rw [UncutNumas, hsize]
              exact and_congr_right fun _ => forall_prop_of_true hle
            refine ⟨(addMemoryParamsToResult gBlockSize whole more).map
              (Prod.mk (placeOf nodeId numa)) ++ pieces, ?_, ?_, ?_, fun hfine => ?_, fun hnot => ?_⟩
            · rw [hdest, List.map_append, List.append_assoc]
            · rw [hneed, needAfter, hsize]
              exact (if_pos hle).symm
            · intro piece hpiece
              rcases List.mem_append.1 hpiece with hpiece | hpiece
              · obtain ⟨size', -, rfl⟩ := List.mem_map.1 hpiece
                exact ⟨numa, List.mem_cons_self, rfl⟩
              · obtain ⟨numa', hnuma', hplace⟩ := hplaces piece hpiece
                exact ⟨numa', List.mem_cons_of_mem numa hnuma', hplace⟩
            · rw [huncut] at hfine
              have hsizes := goodSizes_addMemoryParams hblock hcounts (hfine.imp_right And.left)
              rw [htaken] at hsizes hcount
              exact .cons hsizes hle hcount hsize hfresh hplaces (hgood (hfine.imp_right And.right))
            · rw [huncut, not_and_or] at hnot
              rcases hnot with hnot | hnot
              · exact ⟨(placeOf nodeId numa, fourGb), List.mem_append_left _
                  (List.mem_map_of_mem (fourGb_mem_addMemoryParams hcounts hnot)), rfl⟩
              · obtain ⟨piece, hpiece, hfour⟩ := hcut hnot
                exact ⟨piece, List.mem_append_right _ hpiece, hfour⟩
          · -- the numa has what is still needed
            rw [if_neg hle] at h
            cases h
            have htaken : taken gBlockSize size p.needBorrowNum = p.needBorrowNum := if_neg hle
            have huncut : UncutNumas gBlockSize (numa :: numas) left p.needBorrowNum ↔
                Uncut gBlockSize size p.needBorrowNum := by
              rw [UncutNumas, hsize]
              exact and_iff_left fun hle' => absurd hle' hle
            refine ⟨(addMemoryParamsToResult gBlockSize whole more).map
              (Prod.mk (placeOf nodeId numa)) ++ [], ?_, ?_, ?_, fun hfine => ?_, fun hnot => ?_⟩
            · rw [List.append_nil]
            · rw [needAfter, hsize]
              exact (if_neg hle).symm
            · intro piece hpiece
              rw [List.append_nil] at hpiece
              obtain ⟨size', -, rfl⟩ := List.mem_map.1 hpiece
              exact ⟨numa, List.mem_cons_self, rfl⟩
            · rw [huncut] at hfine
              have hsizes := goodSizes_addMemoryParams hblock hcounts hfine
              rw [htaken] at hsizes hcount
              refine .cons hsizes (BitVec.le_refl _) hcount hsize hfresh nofun ?_
              rw [BitVec.sub_self]
              exact .nil
            · rw [huncut] at hnot
              exact ⟨(placeOf nodeId numa, fourGb), List.mem_append_left _
                (List.mem_map_of_mem (fourGb_mem_addMemoryParams hcounts hnot)), rfl⟩

end NumaLoop

/-! ### The loop over the candidates -/

/-- What a socket may still lend, in KB: the blocks that it has not lent yet. -/
def socketCapacity (env : LedgerEnv) (nodeId : String) (socketId : Nat) : Nat :=
  match env.getAllNodes.lookup nodeId, env.borrowRecords nodeId with
  | some nodeInfo, some records =>
    (nodeInfo.exportTotalTimes.toNat - usedMemCount records nodeId socketId) *
      (nodeInfo.blockSize.toNat * 1024)
  | _, _ => 0

/-- No piece of 4 GB is cut from the candidates that the loop comes to. -/
def UncutNodes (env : LedgerEnv) (gBlockSize : BitVec 32) (srcNid : String) :
    List (String × NodeMemInfo) → BitVec 32 → Prop
  | [], _ => True
  | node :: nodes, need =>
    if need = 0 then
      True
    else if node.1 = srcNid then
      UncutNodes env gBlockSize srcNid nodes need
    else
      match getSocket2CurMemSizeMap env gBlockSize node.1 with
      | none => True
      | some left =>
        UncutNumas gBlockSize node.2.localnumaMemInfo left need ∧
          UncutNodes env gBlockSize srcNid nodes
            (needAfter gBlockSize node.2.localnumaMemInfo left need)

/-- A piece is on a numa of a candidate that is not the source. -/
def OnCandidate (srcNid : String) (nodes : List (String × NodeMemInfo)) (piece : Piece) : Prop :=
  ∃ node ∈ nodes, node.1 ≠ srcNid ∧
    ∃ numa ∈ node.2.localnumaMemInfo, piece.1 = placeOf node.1 numa

/-- The pieces that the loop finds for the blocks between two needs. -/
structure NodePieces (env : LedgerEnv) (gBlockSize : BitVec 32) (nodes : List (String × NodeMemInfo))
    (need need' : BitVec 32) (pieces : List Piece) : Prop where
  le : need'.toNat ≤ need.toNat
  sum : (pieces.map (·.2.toNat)).sum =
    (need.toNat - need'.toNat) * (gBlockSize.toNat * 1024)
  each : ∀ piece ∈ pieces, 0 < piece.2.toNat ∧ gBlockSize.toNat * 1024 ∣ piece.2.toNat ∧
    piece.2.toNat ≤ fourGb.toNat
  onNuma_le : ∀ node ∈ nodes, ∀ numa ∈ node.2.localnumaMemInfo,
    onNuma pieces (placeOf node.1 numa) ≤ numa.borrowableMem.toNat / 1048576 * 1024
  onSocket_le : ∀ nodeId socketId,
    onSocket pieces nodeId socketId ≤ socketCapacity env nodeId socketId

section NodeLoop

variable {env : LedgerEnv} {gBlockSize : BitVec 32} {srcNid : String}
  {node : String × NodeMemInfo} {nodes : List (String × NodeMemInfo)}
  {left : Map Nat (BitVec 64)} {need need' need'' : BitVec 32} {pieces pieces' : List Piece}

/-- A socket has no more left than the blocks that it has not lent. -/
theorem curLeft_le_socketCapacity {nodeId : String}
    (h : getSocket2CurMemSizeMap env gBlockSize nodeId = some left) (socketId : Nat) :
    (curLeft left socketId).toNat * 1024 ≤ socketCapacity env nodeId socketId := by
  unfold getSocket2CurMemSizeMap at h
  unfold socketCapacity
  cases hinfo : env.getAllNodes.lookup nodeId with
  | none => rw [hinfo] at h; cases h
  | some nodeInfo =>
    rw [hinfo] at h
    dsimp only at h
    split_ifs at h with hblock
    rw [ne_eq, Decidable.not_not] at hblock
    cases hrecords : env.borrowRecords nodeId with
    | none => rw [hrecords] at h; cases h
    | some records =>
      rw [hrecords] at h
      dsimp only at h ⊢
      split_ifs at h with hused
      obtain rfl := Option.some.inj h
      rw [curLeft, Map.lookup_ofKeys]
      split_ifs with hkey
      · have hle : usedMemCount records nodeId socketId ≤ nodeInfo.exportTotalTimes.toNat := by
          refine Nat.not_lt.1 fun hlt => hused (List.any_eq_true.2 ⟨socketId, hkey, ?_⟩)
          exact decide_eq_true hlt
        have hlt := nodeInfo.exportTotalTimes.isLt
        have htimes : (nodeInfo.exportTotalTimes.setWidth 64).toNat =
            nodeInfo.exportTotalTimes.toNat := BitVec.toNat_setWidth_of_le (by decide)
        have hcount : (BitVec.ofNat 64 (usedMemCount records nodeId socketId)).toNat =
            usedMemCount records nodeId socketId := by
          rw [BitVec.toNat_ofNat, Nat.mod_eq_of_lt (by omega)]
        have hleft : (nodeInfo.exportTotalTimes.setWidth 64 -
            BitVec.ofNat 64 (usedMemCount records nodeId socketId)).toNat =
            nodeInfo.exportTotalTimes.toNat - usedMemCount records nodeId socketId := by
          rw [BitVec.toNat_sub_of_le, htimes, hcount]
          rw [BitVec.le_def, htimes, hcount]
          exact hle
        have hwidth : (gBlockSize.setWidth 64).toNat = gBlockSize.toNat :=
          BitVec.toNat_setWidth_of_le (by decide)
        rw [Option.getD_some, BitVec.toNat_mul, hleft, hwidth, hblock, ← Nat.mul_assoc]
        exact Nat.mul_le_mul_right 1024 (Nat.mod_le ..)
      · exact Nat.zero_le _

theorem NodePieces.nil : NodePieces env gBlockSize nodes need need [] where
  le := Nat.le_refl _
  sum := by rw [Nat.sub_self, Nat.zero_mul]; rfl
  each := nofun
  onNuma_le _ _ _ _ := Nat.zero_le _
  onSocket_le _ _ := Nat.zero_le _

/-- The source is left out. -/
theorem NodePieces.skip (hsource : node.1 = srcNid)
    (hplaces : ∀ piece ∈ pieces, OnCandidate srcNid nodes piece)
    (h : NodePieces env gBlockSize nodes need need' pieces) :
    NodePieces env gBlockSize (node :: nodes) need need' pieces := by
  refine ⟨h.le, h.sum, h.each, fun node' hnode' numa hnuma => ?_, h.onSocket_le⟩
  rcases List.mem_cons.1 hnode' with rfl | hnode'
  · rw [onNuma_eq_zero]
    · exact Nat.zero_le _
    · intro piece hpiece heq
      obtain ⟨node'', -, hne, numa'', -, hplace⟩ := hplaces piece hpiece
      have hid : node''.1 = node'.1 := congrArg Place.nodeId (hplace.symm.trans heq)
      exact hne (hid.trans hsource)
  · exact h.onNuma_le node' hnode' numa hnuma

/-- The pieces of a candidate come before those of the rest, which is on other sockets and numas. -/
theorem NodePieces.cons
    (hapart : ∀ node' ∈ nodes, node.1 = node'.1 →
      ∀ x ∈ node.2.localnumaMemInfo, ∀ y ∈ node'.2.localnumaMemInfo,
        x.socketId ≠ y.socketId ∧ x.numaId ≠ y.numaId)
    (hleft : getSocket2CurMemSizeMap env gBlockSize node.1 = some left)
    (hplaces : ∀ piece ∈ pieces, ∃ numa ∈ node.2.localnumaMemInfo, piece.1 = placeOf node.1 numa)
    (hplaces' : ∀ piece ∈ pieces', OnCandidate srcNid nodes piece)
    (h : NumaPieces gBlockSize node.1 node.2.localnumaMemInfo left need need' pieces)
    (h' : NodePieces env gBlockSize nodes need' need'' pieces') :
    NodePieces env gBlockSize (node :: nodes) need need'' (pieces ++ pieces') := by
  have hle := h.le
  have hle' := h'.le
  constructor
  · omega
  · rw [List.map_append, List.sum_append, h.sum, h'.sum, ← Nat.add_mul]
    congr 1
    omega
  · intro piece hpiece
    exact (List.mem_append.1 hpiece).elim (h.each piece) (h'.each piece)
  · intro node' hnode' numa hnuma
    rw [onNuma_append]
    rcases List.mem_cons.1 hnode' with rfl | hnode'
    · rw [@onNuma_eq_zero pieces', Nat.add_zero]
      · exact h.onNuma_le numa hnuma
      · intro piece hpiece heq
        obtain ⟨node'', hnode'', -, numa'', hnuma'', hplace⟩ := hplaces' piece hpiece
        have hsame := hplace.symm.trans heq
        have hid : node''.1 = node'.1 := congrArg Place.nodeId hsame
        have hnumaId : numa''.numaId = numa.numaId := congrArg Place.numaId hsame
        exact (hapart node'' hnode'' hid.symm numa hnuma numa'' hnuma'').2 hnumaId.symm
    · rw [@onNuma_eq_zero pieces, Nat.zero_add]
      · exact h'.onNuma_le node' hnode' numa hnuma
      · intro piece hpiece heq
        obtain ⟨numa'', hnuma'', hplace⟩ := hplaces piece hpiece
        have hsame := hplace.symm.trans heq
        have hid : node.1 = node'.1 := congrArg Place.nodeId hsame
        have hnumaId : numa''.numaId = numa.numaId := congrArg Place.numaId hsame
        exact (hapart node' hnode' hid numa'' hnuma'' numa hnuma).2 hnumaId
  · intro nodeId socketId
    rw [onSocket_append]
    by_cases hsocket : node.1 = nodeId ∧
        ∃ numa ∈ node.2.localnumaMemInfo, numa.socketId = socketId
    · obtain ⟨rfl, numa, hnuma, rfl⟩ := hsocket
      rw [@onSocket_eq_zero pieces', Nat.add_zero]
      · exact Nat.le_trans (h.onSocket_le _) (curLeft_le_socketCapacity hleft _)
      · rintro piece hpiece ⟨hid, hsocketId⟩
        obtain ⟨node'', hnode'', -, numa'', hnuma'', hplace⟩ := hplaces' piece hpiece
        rw [hplace] at hid hsocketId
        exact (hapart node'' hnode'' hid.symm numa hnuma numa'' hnuma'').1 hsocketId.symm
    · rw [@onSocket_eq_zero pieces, Nat.zero_add]
      · exact h'.onSocket_le nodeId socketId
      · rintro piece hpiece ⟨hid, hsocketId⟩
        obtain ⟨numa, hnuma, hplace⟩ := hplaces piece hpiece
        rw [hplace] at hid hsocketId
        exact hsocket ⟨hid, numa, hnuma, hsocketId⟩

/-- **What the loop over the candidates finds**, if it ends well. -/
theorem processNodes_of_ok (hblock : gBlockSize ≠ 0) {p p' : Progress}
    (hapart : nodes.Pairwise fun a b => a.1 = b.1 →
      ∀ x ∈ a.2.localnumaMemInfo, ∀ y ∈ b.2.localnumaMemInfo,
        x.socketId ≠ y.socketId ∧ x.numaId ≠ y.numaId)
    (h : processNodes env gBlockSize srcNid nodes p = some (.ok, p')) :
    ∃ pieces : List Piece,
      p'.destParam = p.destParam ++ pieces.map (destParamOf env) ∧
      (∀ piece ∈ pieces, OnCandidate srcNid nodes piece) ∧
      (gBlockSize.toNat ∣ 4096 ∨ UncutNodes env gBlockSize srcNid nodes p.needBorrowNum →
        NodePieces env gBlockSize nodes p.needBorrowNum p'.needBorrowNum pieces) ∧
      (¬ UncutNodes env gBlockSize srcNid nodes p.needBorrowNum →
        ∃ piece ∈ pieces, piece.2 = fourGb) := by
  induction nodes generalizing p with
  | nil =>
    cases h
    exact ⟨[], (List.append_nil _).symm, nofun, fun _ => .nil, fun hcut => absurd trivial hcut⟩
  | cons node nodes ih =>
    obtain ⟨hnode, hapart⟩ := List.pairwise_cons.1 hapart
    have hmem : ∀ {piece : Piece}, OnCandidate srcNid nodes piece →
        OnCandidate srcNid (node :: nodes) piece :=
      fun ⟨node', hnode', hrest⟩ => ⟨node', List.mem_cons_of_mem node hnode', hrest⟩
    rw [processNodes] at h
    rw [UncutNodes]
    by_cases hneed : p.needBorrowNum = 0
    · rw [if_pos hneed] at h ⊢
      cases h
      exact ⟨[], (List.append_nil _).symm, nofun, fun _ => .nil, fun hcut => absurd trivial hcut⟩
    · rw [if_neg hneed] at h ⊢
      by_cases hsource : node.1 = srcNid
      · rw [if_pos hsource] at h ⊢
        obtain ⟨pieces, hdest, hplaces, hgood, hcut⟩ := ih hapart h
        exact ⟨pieces, hdest, fun piece hpiece => hmem (hplaces piece hpiece),
          fun hfine => (hgood hfine).skip hsource hplaces, hcut⟩
      · rw [if_neg hsource] at h ⊢
        cases hleft : getSocket2CurMemSizeMap env gBlockSize node.1 with
        | none =>
          rw [processNodeMemBorrow, hleft] at h
          cases h
        | some left =>
          rw [processNodeMemBorrow, hleft] at h
          dsimp only at h ⊢
          rcases hnumas : processNumas env gBlockSize node.1 node.2.localnumaMemInfo left p with
            _ | ⟨ret, p₁⟩
          · rw [hnumas] at h
            cases h
          · cases ret with
            | ok =>
              rw [hnumas] at h
              obtain ⟨pieces, hdest, hafter, hplaces, hgood, hcut⟩ :=
                processNumas_of_ok hblock node.2.nodup hnumas
              obtain ⟨pieces', hdest', hplaces', hgood', hcut'⟩ := ih hapart h
              rw [hafter] at hgood' hcut'
              refine ⟨pieces ++ pieces', ?_, ?_, fun hfine => ?_, fun hnot => ?_⟩
              · rw [hdest', hdest, List.map_append, List.append_assoc]
              · intro piece hpiece
                rcases List.mem_append.1 hpiece with hpiece | hpiece
                · exact ⟨node, List.mem_cons_self, hsource, hplaces piece hpiece⟩
                · exact hmem (hplaces' piece hpiece)
              · have hfirst := hgood (hfine.imp_right And.left)
                rw [hafter] at hfirst
                exact .cons hnode hleft hplaces hplaces' hfirst (hgood' (hfine.imp_right And.right))
              · rcases not_and_or.1 hnot with hnot | hnot
                · obtain ⟨piece, hpiece, hfour⟩ := hcut hnot
                  exact ⟨piece, List.mem_append_left _ hpiece, hfour⟩
                · obtain ⟨piece, hpiece, hfour⟩ := hcut' hnot
                  exact ⟨piece, List.mem_append_right _ hpiece, hfour⟩
            | _ =>
              rw [hnumas] at h
              cases h

end NodeLoop

/-! ### Covering the size -/

/-- A number of KB rounded up to blocks. -/
def roundUp (block size : Nat) : Nat :=
  (size + block - 1) / block * block

/-- The pieces cover the size: they add up to it, rounded up to blocks; each is of blocks and at most
4 GB; they are on numas of candidates other than the source, and neither a numa nor a socket gives
more than it may lend. -/
structure Covering (env : LedgerEnv) (gBlockSize : BitVec 32) (srcNid : String)
    (candidates : Candidates) (borrowSize : BitVec 64) (pieces : List Piece) : Prop where
  sum : (pieces.map (·.2.toNat)).sum = roundUp (gBlockSize.toNat * 1024) borrowSize.toNat
  each : ∀ piece ∈ pieces, 0 < piece.2.toNat ∧ gBlockSize.toNat * 1024 ∣ piece.2.toNat ∧
    piece.2.toNat ≤ fourGb.toNat
  onCandidate : ∀ piece ∈ pieces, OnCandidate srcNid candidates.nodes piece
  onNuma_le : ∀ node ∈ candidates.nodes, ∀ numa ∈ node.2.localnumaMemInfo,
    onNuma pieces (placeOf node.1 numa) * 1024 ≤ numa.borrowableMem.toNat
  onSocket_le : ∀ nodeId socketId,
    onSocket pieces nodeId socketId ≤ socketCapacity env nodeId socketId

/-- The parameters of a result are pieces that cover the size. -/
def Covers (env : LedgerEnv) (gBlockSize : BitVec 32) (srcNid : String) (candidates : Candidates)
    (borrowSize : BitVec 64) (result : MemBorrowStrategyResult) : Prop :=
  ∃ pieces, result.destParam = pieces.map (destParamOf env) ∧
    Covering env gBlockSize srcNid candidates borrowSize pieces

/-- The size is of blocks, or it can be rounded up to them in 64 bits. -/
def RoundsUp (gBlockSize : BitVec 32) (borrowSize : BitVec 64) : Prop :=
  gBlockSize.toNat * 1024 ∣ borrowSize.toNat ∨
    borrowSize.toNat + gBlockSize.toNat * 1024 - 1 < 2 ^ 64

/-- The blocks that are asked for. -/
def blocksAsked (gBlockSize : BitVec 32) (borrowSize : BitVec 64) : BitVec 32 :=
  .ofNat 32 (roundUp (gBlockSize.toNat * 1024) borrowSize.toNat / (gBlockSize.toNat * 1024))

section Align

variable {gBlockSize : BitVec 32} {borrowSize : BitVec 64}

theorem roundUp_of_dvd {block size : Nat} (hblock : 0 < block) (h : block ∣ size) :
    roundUp block size = size := by
  obtain ⟨count, rfl⟩ := h
  have hdiv : (block * count + block - 1) / block = count := by
    rw [Nat.add_sub_assoc hblock, Nat.add_comm, Nat.add_mul_div_left _ _ hblock,
      Nat.div_eq_of_lt (Nat.sub_lt hblock Nat.one_pos), Nat.zero_add]
  rw [roundUp, hdiv, Nat.mul_comm]

theorem le_roundUp {block size : Nat} (hblock : 0 < block) : size ≤ roundUp block size := by
  have hmod := Nat.mod_lt (size + block - 1) hblock
  have hdiv := Nat.div_add_mod (size + block - 1) block
  rw [roundUp, Nat.mul_comm]
  omega

theorem validateBorrowSize_iff (hblock : gBlockSize ≠ 0) :
    validateBorrowSize gBlockSize borrowSize = .ok ↔
      gBlockSize.toNat * 1024 ∣ borrowSize.toNat := by
  rw [validateBorrowSize, if_neg hblock]
  split_ifs with hmod
  · refine iff_of_false nofun fun hdvd => hmod (BitVec.eq_of_toNat_eq ?_)
    rw [BitVec.toNat_umod, toNat_block, Nat.mod_eq_zero_of_dvd hdvd]
    rfl
  · refine iff_of_true rfl (Nat.dvd_of_mod_eq_zero ?_)
    have hzero := congrArg BitVec.toNat (Decidable.not_not.1 hmod)
    rwa [BitVec.toNat_umod, toNat_block] at hzero

/-- What the code computes is the size rounded up, unless the sum has more than 64 bits. -/
theorem toNat_alignBorrowSize (hblock : gBlockSize ≠ 0) :
    (RoundsUp gBlockSize borrowSize → (alignBorrowSize gBlockSize borrowSize).toNat =
      roundUp (gBlockSize.toNat * 1024) borrowSize.toNat) ∧
    (¬ RoundsUp gBlockSize borrowSize → alignBorrowSize gBlockSize borrowSize = 0) := by
  have hpos : 0 < gBlockSize.toNat * 1024 :=
    Nat.mul_pos (Nat.pos_of_ne_zero fun hzero => hblock (BitVec.eq_of_toNat_eq hzero)) (by decide)
  have hlt : gBlockSize.toNat * 1024 < 2 ^ 64 :=
    Nat.lt_of_lt_of_le (Nat.mul_lt_mul_of_pos_right gBlockSize.isLt (by decide)) (by decide)
  have hsize := borrowSize.isLt
  unfold alignBorrowSize RoundsUp
  dsimp only
  by_cases hdvd : gBlockSize.toNat * 1024 ∣ borrowSize.toNat
  · rw [if_pos ((validateBorrowSize_iff hblock).2 hdvd)]
    exact ⟨fun _ => (roundUp_of_dvd hpos hdvd).symm, fun hnot => absurd (.inl hdvd) hnot⟩
  · rw [if_neg fun hvalid => hdvd ((validateBorrowSize_iff hblock).1 hvalid), or_iff_right hdvd]
    have hsum : (borrowSize + gBlockSize.setWidth 64 * 1024 - 1).toNat =
        (borrowSize.toNat + gBlockSize.toNat * 1024 - 1) % 2 ^ 64 := by
      have hone : (1 : BitVec 64).toNat = 1 := rfl
      rw [BitVec.toNat_sub, BitVec.toNat_add, toNat_block, hone]
      omega
    constructor
    · intro hfits
      rw [Nat.mod_eq_of_lt hfits] at hsum
      have hle := Nat.div_mul_le_self (borrowSize.toNat + gBlockSize.toNat * 1024 - 1)
        (gBlockSize.toNat * 1024)
      rw [BitVec.toNat_mul_of_lt, BitVec.toNat_udiv, hsum, toNat_block, roundUp]
      rw [BitVec.toNat_udiv, hsum, toNat_block]
      exact Nat.lt_of_le_of_lt hle hfits
    · -- the sum wraps to less than one block
      intro hwrap
      have hquot : ((borrowSize + gBlockSize.setWidth 64 * 1024 - 1) /
          (gBlockSize.setWidth 64 * 1024)) = 0 := by
        refine BitVec.eq_of_toNat_eq ?_
        rw [BitVec.toNat_udiv, hsum, toNat_block]
        exact Nat.div_eq_of_lt (by omega)
      rw [hquot]
      exact BitVec.zero_mul

end Align

section Main

variable {env : LedgerEnv} {srcParam : SrcMemoryBorrowParam} {borrowSize : BitVec 64}
  {nodeInfo : LenderInfo} {candidates : Candidates} {result : MemBorrowStrategyResult}

theorem processNodes_zero {gBlockSize : BitVec 32} {srcNid : String}
    {nodes : List (String × NodeMemInfo)} {destParam : List DestMemoryBorrowParam} :
    processNodes env gBlockSize srcNid nodes { needBorrowNum := 0, destParam } =
      some (.ok, { needBorrowNum := 0, destParam }) := by
  cases nodes with
  | nil => rfl
  | cons node nodes => rfl

/-- How a strategy succeeds. -/
theorem memBorrowStrategy_of_ok (hinfo : env.getAllNodes.lookup srcParam.srcNid = some nodeInfo)
    (hcandidates : env.candidates srcParam = .ok candidates)
    (h : memBorrowStrategy env srcParam borrowSize = some (.ok result)) :
    nodeInfo.blockSize ≠ 0 ∧ ∃ (need : BitVec 32) (p : Progress),
      need.toNat = (alignBorrowSize nodeInfo.blockSize borrowSize).toNat /
        (nodeInfo.blockSize.toNat * 1024) ∧
      processNodes env nodeInfo.blockSize srcParam.srcNid candidates.nodes
        { needBorrowNum := need, destParam := [] } = some (.ok, p) ∧
      p.needBorrowNum = 0 ∧ result.destParam = p.destParam := by
  rw [memBorrowStrategy, hinfo, hcandidates] at h
  dsimp only at h
  by_cases hblock : nodeInfo.blockSize = 0
  · rw [if_pos hblock] at h
    cases h
  · by_cases hsource : validateSrcparam env srcParam ≠ .ok
    · rw [if_neg hblock, if_pos hsource] at h
      cases h
    · rw [if_neg hblock, if_neg hsource] at h
      cases hneed : safeUint64To32 (alignBorrowSize nodeInfo.blockSize borrowSize /
          (nodeInfo.blockSize.setWidth 64 * 1024)) with
      | none =>
        rw [hneed] at h
        cases h
      | some need =>
        rw [hneed] at h
        dsimp only at h
        have htoNat := toNat_of_safeUint64To32 hneed
        rw [BitVec.toNat_udiv, toNat_block] at htoNat
        rcases hnodes : processNodes env nodeInfo.blockSize srcParam.srcNid candidates.nodes
          { needBorrowNum := need, destParam := [] } with _ | ⟨ret, p⟩
        · rw [hnodes] at h
          cases h
        · rw [hnodes] at h
          cases ret with
          | ok =>
            dsimp only at h
            by_cases hleft : 0 < p.needBorrowNum
            · rw [if_pos hleft] at h
              cases h
            · rw [if_neg hleft] at h
              have hresult := Except.ok.inj (Option.some.inj h)
              refine ⟨hblock, need, p, htoNat, hnodes, ?_, ?_⟩
              · exact BitVec.eq_of_toNat_eq (Nat.eq_zero_of_not_pos hleft)
              · rw [← hresult]
          | _ => cases h

theorem destParamOf_inj_size {piece piece' : Piece}
    (h : destParamOf env piece = destParamOf env piece') : piece.2 = piece'.2 :=
  List.head_eq_of_cons_eq (congrArg DestMemoryBorrowParam.memSize h)

theorem not_dvd_fourGb {gBlockSize : BitVec 32} (h : ¬ gBlockSize.toNat ∣ 4096) :
    ¬ gBlockSize.toNat * 1024 ∣ fourGb.toNat := by
  have hfour : fourGb.toNat = 4096 * 1024 := rfl
  rw [hfour]
  exact fun hdvd => h (Nat.dvd_of_mul_dvd_mul_right (by decide) hdvd)

end Main

/-- The one candidate of a small cluster: a node with one numa of 8 GB. -/
def candidateTwo : Candidates where
  nodes :=
    [("2", { totalBorrowableMem := 0x200000000
             localnumaMemInfo := [{ numaId := 0, socketId := 0, reservedMem := 0,
                                    borrowableMem := 0x200000000, borrowedMem := 0 }]
             nodup := List.nodup_singleton 0 })]
  apart := List.pairwise_singleton _ _

/-- A cluster of two nodes, of which the second can lend. -/
def besideTwo (blockSize : BitVec 32) : LedgerEnv where
  getAllNodes := Map.ofKeys ["1", "2"] fun _ =>
    { blockSize, exportTotalTimes := 1024, sockets := [0] }
  numaSocketMap := some (Map.ofKeys ["1", "2"] fun _ => Map.ofKeys [0] fun _ => 0)
  candidates _ := .ok candidateTwo
  borrowRecords _ := some []

def srcOne : SrcMemoryBorrowParam where
  srcNid := "1"
  srcSocketId := 0
  srcNumaId := 0
  uid := 0
  username := "vm"

/-- Pieces on the numa of the second node. -/
def piecesOnTwo (borrowSize : BitVec 64) (sizes : List (BitVec 64)) : MemBorrowStrategyResult where
  srcParam := srcOne
  borrowSize
  destParam := destParamsOf "2" 0 0 sizes

end Fragment

end UbsEngine
