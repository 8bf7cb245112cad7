import Mathlib.Data.List.Basic
import Mathlib.Data.List.Range
import Mathlib.Data.Nat.ModEq
import Mathlib.Logic.Function.Basic

/-!
# The ring buffer

The slots of an array are used in a circle: items are taken from the head, and put behind the tail
or in front of the head, as long as there are not too many. Each operation is done under a spin lock,
so that it is one step for all who use the buffer.

What the buffer holds is a list (`UbsEngine.Executor.RingBuffer.items`), and its operations are
those of a queue that is open at the front, too.
-/

namespace UbsEngine

namespace Executor

/-- The slots from the capacity on are not used. -/
structure RingBuffer (α : Type) (mCapacity : Nat) where
  mRingBuf : Nat → α
  mCount : Nat
  mHead : Nat
  mTail : Nat
  head_lt : mHead < mCapacity
  count_le : mCount ≤ mCapacity
  tail_eq : mTail = (mHead + mCount) % mCapacity

namespace RingBuffer

variable {α : Type} {mCapacity : Nat}

/-- A buffer without a slot is refused. Nothing reads what is in a slot at first. -/
def create [Inhabited α] (h : 0 < mCapacity) : RingBuffer α mCapacity where
  mRingBuf _ := default
  mCount := 0
  mHead := 0
  mTail := 0
  head_lt := h
  count_le := Nat.zero_le _
  tail_eq := (Nat.zero_mod _).symm

/-- The slot after another. -/
def after (mCapacity i : Nat) : Nat := if i ≠ mCapacity - 1 then i + 1 else 0

/-- The slot before another. -/
def before (mCapacity i : Nat) : Nat := if i = 0 then mCapacity - 1 else i - 1

theorem after_eq {i : Nat} (h : i < mCapacity) : after mCapacity i = (i + 1) % mCapacity := by
  rw [after]
  split
  next hne => exact (Nat.mod_eq_of_lt (by omega)).symm
  next hlast =>
    rw [not_not] at hlast
    rw [hlast, Nat.sub_add_cancel (by omega), Nat.mod_self]

theorem after_before {i : Nat} (h : i < mCapacity) :
    (before mCapacity i + 1) % mCapacity = i := by
  rw [before]
  split
  next hzero => rw [Nat.sub_add_cancel (by omega), Nat.mod_self, hzero]
  next hpos => rw [Nat.sub_add_cancel (by omega), Nat.mod_eq_of_lt h]

variable (r : RingBuffer α mCapacity)

def pushBack (item : α) : Option (RingBuffer α mCapacity) :=
  if h : mCapacity ≤ r.mCount then none
  else
    some
      { mRingBuf := Function.update r.mRingBuf r.mTail item
        mCount := r.mCount + 1
        mHead := r.mHead
        mTail := after mCapacity r.mTail
        head_lt := r.head_lt
        count_le := by omega
        tail_eq := by
          have hpos : 0 < mCapacity := Nat.zero_lt_of_lt r.head_lt
          rw [after_eq (r.tail_eq ▸ Nat.mod_lt _ hpos), r.tail_eq, Nat.mod_add_mod, Nat.add_assoc] }

def pushFront (item : α) : Option (RingBuffer α mCapacity) :=
  if h : mCapacity ≤ r.mCount then none
  else
    some
      { mRingBuf := Function.update r.mRingBuf (before mCapacity r.mHead) item
        mCount := r.mCount + 1
        mHead := before mCapacity r.mHead
        mTail := r.mTail
        head_lt := by
          have hlt := r.head_lt
          rw [before]
          split <;> omega
        count_le := by omega
        tail_eq := by
          rw [Nat.add_comm r.mCount, ← Nat.add_assoc, ← Nat.mod_add_mod, after_before r.head_lt,
            r.tail_eq] }

def popFront : Option (α × RingBuffer α mCapacity) :=
  if h : r.mCount = 0 then none
  else
    some (r.mRingBuf r.mHead,
      { mRingBuf := r.mRingBuf
        mCount := r.mCount - 1
        mHead := after mCapacity r.mHead
        mTail := r.mTail
        head_lt := by
          rw [after_eq r.head_lt]
          exact Nat.mod_lt _ (Nat.zero_lt_of_lt r.head_lt)
        count_le := (Nat.sub_le _ _).trans r.count_le
        tail_eq := by
          rw [r.tail_eq, after_eq r.head_lt, Nat.mod_add_mod]
          congr 1
          omega })

/-! ### What the buffer holds -/

/-- The slots in use, from the head on. -/
def items : List α := (List.range r.mCount).map fun i => r.mRingBuf ((r.mHead + i) % mCapacity)

theorem length_items : r.items.length = r.mCount := by rw [items, List.length_map, List.length_range]

theorem length_items_le : r.items.length ≤ mCapacity := r.length_items ▸ r.count_le

/-- Two slots at different distances from the head are different. -/
theorem slot_ne (head : Nat) {i j : Nat} (hij : i < j) (hj : j < mCapacity) :
    (head + i) % mCapacity ≠ (head + j) % mCapacity := by
  intro heq
  have hdist : i ≡ j [MOD mCapacity] := Nat.ModEq.add_left_cancel' head heq
  exact Nat.ne_of_lt hij (hdist.eq_of_lt_of_lt (hij.trans hj) hj)

variable {r} {r' : RingBuffer α mCapacity} {item : α}

/-- **An item is put behind the others.** -/
theorem items_pushBack (h : r.pushBack item = some r') : r'.items = r.items ++ [item] := by
  rw [pushBack] at h
  split at h
  next => cases h
  next hroom =>
    cases h
    rw [items, items, List.range_succ, List.map_append, List.map_singleton]
    refine congrArg₂ (· ++ [·]) (List.map_congr_left fun i hi => ?_) ?_
    · have hne := slot_ne r.mHead (List.mem_range.1 hi) (Nat.lt_of_not_le hroom)
      rw [← r.tail_eq] at hne
      exact Function.update_of_ne hne ..
    · have hself : Function.update r.mRingBuf r.mTail item r.mTail = item :=
        Function.update_self ..
      exact r.tail_eq ▸ hself

/-- **An item is put in front of the others.** -/
theorem items_pushFront (h : r.pushFront item = some r') : r'.items = item :: r.items := by
  rw [pushFront] at h
  split at h
  next => cases h
  next hroom =>
    cases h
    have hlt : before mCapacity r.mHead < mCapacity := by
      have := r.head_lt
      rw [before]
      split <;> omega
    have hslot (i : Nat) : (before mCapacity r.mHead + (i + 1)) % mCapacity =
        (r.mHead + i) % mCapacity := by
      rw [Nat.add_left_comm, Nat.add_comm, ← Nat.mod_add_mod, after_before r.head_lt]
    rw [items, List.range_succ_eq_map, List.map_cons, List.map_map]
    refine congrArg₂ (· :: ·) ?_ (List.map_congr_left fun i hi => ?_)
    · dsimp only
      rw [Nat.add_zero, Nat.mod_eq_of_lt hlt, Function.update_self]
    · change Function.update r.mRingBuf _ item ((before mCapacity r.mHead + (i + 1)) % _) = _
      rw [hslot]
      refine Function.update_of_ne ?_ ..
      -- the new slot is one before the head
      have hfar := slot_ne (before mCapacity r.mHead) (Nat.succ_pos i)
        (show i + 1 < mCapacity by have := List.mem_range.1 hi; omega)
      rw [Nat.add_zero, Nat.mod_eq_of_lt hlt, Nat.succ_eq_add_one, hslot] at hfar
      exact hfar.symm

/-- **The first item is taken.** -/
theorem items_popFront (h : r.popFront = some (item, r')) : r.items = item :: r'.items := by
  rw [popFront] at h
  split at h
  next => cases h
  next hne =>
    cases h
    have hrange : List.range r.mCount = 0 :: (List.range (r.mCount - 1)).map Nat.succ := by
      rw [← List.range_succ_eq_map, Nat.sub_add_cancel (Nat.pos_of_ne_zero hne)]
    rw [items, items, hrange, List.map_cons, List.map_map, Nat.add_zero,
      Nat.mod_eq_of_lt r.head_lt]
    refine congrArg (_ :: ·) (List.map_congr_left fun i _ => ?_)
    dsimp only [Function.comp_apply]
    rw [after_eq r.head_lt, Nat.mod_add_mod, Nat.succ_eq_add_one, Nat.add_assoc, Nat.add_comm 1]

/-- Only a full buffer refuses an item. -/
theorem pushBack_eq_none : r.pushBack item = none ↔ r.items.length = mCapacity := by
  have hle := r.count_le
  rw [pushBack, length_items]
  split
  next h => exact iff_of_true rfl (by omega)
  next h => exact iff_of_false (by simp) (by omega)

theorem pushFront_eq_none : r.pushFront item = none ↔ r.items.length = mCapacity := by
  have hle := r.count_le
  rw [pushFront, length_items]
  split
  next h => exact iff_of_true rfl (by omega)
  next h => exact iff_of_false (by simp) (by omega)

/-- Only an empty buffer gives nothing. -/
theorem popFront_eq_none : r.popFront = none ↔ r.items = [] := by
  rw [popFront, ← List.length_eq_zero_iff, length_items]
  split
  next h => exact iff_of_true rfl h
  next h => exact iff_of_false (by simp) h

end RingBuffer

end Executor

end UbsEngine
