import Mathlib.Data.List.Basic
import Mathlib.Data.Nat.Bitwise

/-!
# Numbers as bytes

A number of a fixed width is stored as its bytes, the least significant one first. The two
directions are `UbsEngine.Bytes.ofNat` and `UbsEngine.Bytes.toNat`; a number that fits the
width comes back (`UbsEngine.Bytes.toNat_ofNat_of_lt`), and so does a bit vector
(`UbsEngine.Bytes.toBitVec_ofBitVec`).

Offsets into a buffer are rounded up to a power of two by masking.
`UbsEngine.Bytes.alignUp_eq` says that this is what rounding up is, as long as the addition
in it does not overflow.
-/

namespace UbsEngine

namespace Bytes

/-! ### Little-endian numbers -/

/-- The `n` lowest bytes of a number. -/
def ofNat : Nat → Nat → List UInt8
  | 0, _ => []
  | n + 1, x => UInt8.ofNat (x % 256) :: ofNat n (x / 256)

/-- The number some bytes stand for. -/
def toNat : List UInt8 → Nat
  | [] => 0
  | b :: bs => b.toNat + 256 * toNat bs

@[simp] theorem length_ofNat (n x : Nat) : (ofNat n x).length = n := by
  induction n generalizing x with
  | zero => rfl
  | succ n ih => rw [ofNat, List.length_cons, ih]

/-- A number comes back up to what its bytes can hold. -/
theorem toNat_ofNat (n x : Nat) : toNat (ofNat n x) = x % 256 ^ n := by
  induction n generalizing x with
  | zero => rw [Nat.pow_zero, Nat.mod_one]; rfl
  | succ n ih =>
    have hbyte : (UInt8.ofNat (x % 256)).toNat = x % 256 := by
      rw [UInt8.toNat_ofNat']
      omega
    rw [ofNat, toNat, ih, hbyte, Nat.pow_succ, Nat.mul_comm (256 ^ n), Nat.mod_mul]

theorem toNat_ofNat_of_lt {n x : Nat} (h : x < 256 ^ n) : toNat (ofNat n x) = x := by
  rw [toNat_ofNat, Nat.mod_eq_of_lt h]

theorem toNat_lt (bs : List UInt8) : toNat bs < 256 ^ bs.length := by
  induction bs with
  | nil => exact Nat.one_pos
  | cons b bs ih =>
    have hb : b.toNat < 256 := b.toNat_lt
    rw [toNat, List.length_cons, Nat.pow_succ]
    omega

/-- The bytes of a bit vector of whole bytes. -/
def ofBitVec {n : Nat} (x : BitVec (8 * n)) : List UInt8 := ofNat n x.toNat

/-- The bit vector some bytes stand for. -/
def toBitVec (n : Nat) (bs : List UInt8) : BitVec (8 * n) := BitVec.ofNat (8 * n) (toNat bs)

@[simp] theorem length_ofBitVec {n : Nat} (x : BitVec (8 * n)) : (ofBitVec x).length = n :=
  length_ofNat n x.toNat

theorem toBitVec_ofBitVec {n : Nat} (x : BitVec (8 * n)) : toBitVec n (ofBitVec x) = x := by
  have hx : x.toNat < 256 ^ n := by
    have hlt := x.isLt
    rwa [Nat.pow_mul] at hlt
  rw [toBitVec, ofBitVec, toNat_ofNat_of_lt hx, BitVec.ofNat_toNat, BitVec.setWidth_eq]

/-! ### Rounding up by masking -/

/-- A length rounded up by the mask of an alignment, in 64 bits:
`((l) + mask) & ~mask`. -/
def alignUp (mask l : Nat) : Nat :=
  (l + mask) % 2 ^ 64 &&& (2 ^ 64 - 1 - mask)

/-- Clearing the lowest bits of a number is dividing and multiplying. -/
theorem and_clear_low {x k : Nat} (hx : x < 2 ^ 64) (hk : k ≤ 64) :
    x &&& (2 ^ 64 - 1 - (2 ^ k - 1)) = x / 2 ^ k * 2 ^ k := by
  have hmask : 2 ^ 64 - 1 - (2 ^ k - 1) = (2 ^ (64 - k) - 1) <<< k := by
    rw [Nat.shiftLeft_eq, Nat.sub_mul, Nat.one_mul, ← Nat.pow_add, Nat.sub_add_cancel hk]
    have hle : 2 ^ k ≤ 2 ^ 64 := Nat.pow_le_pow_right (by decide) hk
    have hpos : 0 < 2 ^ k := Nat.two_pow_pos k
    omega
  have hdiv : x / 2 ^ k * 2 ^ k = (x >>> k) <<< k := by
    rw [Nat.shiftLeft_eq, Nat.shiftRight_eq_div_pow]
  rw [hmask, hdiv]
  refine Nat.eq_of_testBit_eq fun i => ?_
  rw [Nat.testBit_and, Nat.testBit_shiftLeft, Nat.testBit_shiftLeft, Nat.testBit_shiftRight,
    Nat.testBit_two_pow_sub_one]
  by_cases hi : k ≤ i
  · have hadd : k + (i - k) = i := by omega
    by_cases hlt : i < 64
    · simp [hi, hadd, show i - k < 64 - k by omega]
    · have hzero : x.testBit i = false :=
        Nat.testBit_lt_two_pow (hx.trans_le (Nat.pow_le_pow_right (by decide) (by omega)))
      simp [hi, hadd, hzero]
  · simp [hi]

/-- A number is the bits of a mask and the bits that are left. -/
theorem and_add_and_not (x mask : BitVec 64) : (x &&& mask) + (x &&& ~~~mask) = x := by
  rw [BitVec.add_eq_or_of_and_eq_zero]
  · ext i hi
    rw [BitVec.getElem_or, BitVec.getElem_and, BitVec.getElem_and, BitVec.getElem_not]
    cases x[i] <;> cases mask[i] <;> rfl
  · ext i hi
    rw [BitVec.getElem_and, BitVec.getElem_and, BitVec.getElem_and, BitVec.getElem_not,
      BitVec.getElem_zero]
    cases x[i] <;> cases mask[i] <;> rfl

/-- Clearing the bits of any mask takes off no more than the mask. -/
theorem le_clear_add {x mask : Nat} (hx : x < 2 ^ 64) (hmask : mask < 2 ^ 64) :
    x ≤ (x &&& (2 ^ 64 - 1 - mask)) + mask := by
  have hsum := congrArg BitVec.toNat (and_add_and_not (BitVec.ofNat 64 x) (BitVec.ofNat 64 mask))
  rw [BitVec.toNat_add, BitVec.toNat_and, BitVec.toNat_and, BitVec.toNat_not, BitVec.toNat_ofNat,
    BitVec.toNat_ofNat, Nat.mod_eq_of_lt hx, Nat.mod_eq_of_lt hmask] at hsum
  have hle : x &&& mask ≤ mask := Nat.and_le_right
  have hmod := Nat.mod_le ((x &&& mask) + (x &&& (2 ^ 64 - 1 - mask))) (2 ^ 64)
  omega

/-- **Masking rounds up**. -/
theorem alignUp_eq {k l : Nat} (hk : k ≤ 64) (h : l + (2 ^ k - 1) < 2 ^ 64) :
    alignUp (2 ^ k - 1) l = (l + (2 ^ k - 1)) / 2 ^ k * 2 ^ k := by
  rw [alignUp, Nat.mod_eq_of_lt h, and_clear_low h hk]

end Bytes

end UbsEngine
