import Mathlib.Data.Finset.Card
import UbsEngine.Library.Exact

/-!
# The streams of the fault messages

A stream has the fields of a message one after another: numbers as they are in memory, and texts
and vectors behind their size. The writer writes whatever there is. The reader refuses a text that
is too long, and where a message says so, a vector that is too long
(`UbsEngine.FaultWire.Streamed`).
-/

namespace UbsEngine

namespace FaultWire

open Packed

/-! ### What is sent -/

inductive MpError where
  | MEM_POOLING_ERROR
  deriving DecidableEq, Repr

/-- What is sent: how it is written, how it is read, and up to which size it is read back. -/
class Streamed (α : Type) where
  write : α → List UInt8
  read : Reader MpError α
  Within : α → Prop
  exact (a : α) : Exact read (write a) a (Within a)

open Streamed

/-- A number is always read back. -/
@[reducible] def Streamed.word (α : Type) [Word α] : Streamed α where
  write := wordBytes
  read := getWord α .MEM_POOLING_ERROR
  Within _ := True
  exact a := (reads_getWord _ a).exact

instance : Word Int16 := ⟨2, Int16.toBitVec, fun x => ⟨⟨x⟩⟩, fun _ => rfl⟩

/-- A truth value is a byte. -/
instance : Word Bool where
  size := 1
  toBits b := if b then 1 else 0
  ofBits x := x ≠ 0
  ofBits_toBits b := by cases b <;> rfl

instance : Streamed UInt8 := .word UInt8

instance : Streamed UInt16 := .word UInt16

instance : Streamed UInt32 := .word UInt32

instance : Streamed UInt64 := .word UInt64

instance : Streamed Int16 := .word Int16

instance : Streamed Int32 := .word Int32

instance : Streamed Bool := .word Bool

@[simp] theorem within_uint8 (x : UInt8) : Within x ↔ True := .rfl

@[simp] theorem within_uint16 (x : UInt16) : Within x ↔ True := .rfl

@[simp] theorem within_uint32 (x : UInt32) : Within x ↔ True := .rfl

@[simp] theorem within_uint64 (x : UInt64) : Within x ↔ True := .rfl

@[simp] theorem within_int16 (x : Int16) : Within x ↔ True := .rfl

@[simp] theorem within_int32 (x : Int32) : Within x ↔ True := .rfl

@[simp] theorem within_bool (x : Bool) : Within x ↔ True := .rfl

/-! ### Vectors -/

/-- A vector: its size is a number of 64 bits. -/
def Vec (α : Type) : Type := { l : List α // l.length < 2 ^ 64 }

instance {α : Type} [DecidableEq α] : DecidableEq (Vec α) :=
  inferInstanceAs (DecidableEq { l : List α // l.length < 2 ^ 64 })

namespace Vec

variable {α : Type}

def size (v : Vec α) : Nat := v.1.length

instance : EmptyCollection (Vec α) := ⟨⟨[], Nat.two_pow_pos 64⟩⟩

instance : Inhabited (Vec α) := ⟨∅⟩

/-- The vector of a list. What a size is read for is never longer. -/
def ofList (l : List α) : Vec α := if h : l.length < 2 ^ 64 then ⟨l, h⟩ else ∅

@[simp] theorem ofList_val (v : Vec α) : ofList v.1 = v := dif_pos v.2

theorem size_ofList {l : List α} (h : l.length < 2 ^ 64) : (ofList l).size = l.length := by
  have hvec : ofList l = ⟨l, h⟩ := dif_pos h
  rw [hvec]
  rfl

end Vec

section Vectors

variable {α : Type}

/-- A vector behind its size. -/
def writeVec (f : α → List UInt8) (v : Vec α) : List UInt8 :=
  wordBytes (UInt64.ofNat v.size) ++ v.1.flatMap f

def readVec (p : Reader MpError α) : Reader MpError (Vec α) := do
  let len ← getWord UInt64 .MEM_POOLING_ERROR
  let l ← timesList p len.toNat
  pure (.ofList l)

/-- A vector whose size is checked before anything is read. -/
def readVecUpTo (bound : Nat) (p : Reader MpError α) : Reader MpError (Vec α) := do
  let len ← getWord UInt64 .MEM_POOLING_ERROR
  check (len.toNat ≤ bound) .MEM_POOLING_ERROR
  let l ← timesList p len.toNat
  pure (.ofList l)

variable {p : Reader MpError α} {f : α → List UInt8} {limit : α → Prop}

theorem toNat_size (v : Vec α) : (UInt64.ofNat v.size).toNat = v.size :=
  UInt64.toNat_ofNat_of_lt v.2

theorem exact_entries (v : Vec α) (h : ∀ a ∈ v.1, Exact p (f a) a (limit a)) :
    Exact (timesList p (UInt64.ofNat v.size).toNat >>= fun l => pure (Vec.ofList l))
      (v.1.flatMap f) v (∀ a ∈ v.1, limit a) := by
  have hread := (exact_timesList v.1 (toNat_size v).symm h).map Vec.ofList
  rwa [Vec.ofList_val] at hread

theorem exact_readVec (v : Vec α) (h : ∀ a ∈ v.1, Exact p (f a) a (limit a)) :
    Exact (readVec p) (writeVec f v) v (∀ a ∈ v.1, limit a) := by
  have hread := Exact.bind
    (q := fun len => timesList p len.toNat >>= fun l => pure (Vec.ofList l))
    (reads_getWord MpError.MEM_POOLING_ERROR (UInt64.ofNat v.size)).exact (exact_entries v h)
  exact hread.congr (and_iff_right trivial)

/-- **A checked vector survives up to the bound.** -/
theorem exact_readVecUpTo (bound : Nat) (v : Vec α)
    (h : ∀ a ∈ v.1, Exact p (f a) a (limit a)) :
    Exact (readVecUpTo bound p) (writeVec f v) v (v.size ≤ bound ∧ ∀ a ∈ v.1, limit a) := by
  have hcheck := (exact_entries v h).check (c := (UInt64.ofNat v.size).toNat ≤ bound)
    MpError.MEM_POOLING_ERROR
  have hread := Exact.bind
    (q := fun len => check (len.toNat ≤ bound) .MEM_POOLING_ERROR >>= fun _ =>
      timesList p len.toNat >>= fun l => pure (Vec.ofList l))
    (reads_getWord MpError.MEM_POOLING_ERROR (UInt64.ofNat v.size)).exact hcheck
  refine hread.congr ?_
  rw [toNat_size, true_and]

end Vectors

instance {α : Type} [Streamed α] : Streamed (Vec α) where
  write := writeVec write
  read := readVec read
  Within v := ∀ a ∈ v.1, Within a
  exact v := exact_readVec v fun a _ => Streamed.exact a

theorem within_vec {α : Type} [Streamed α] (v : Vec α) : Within v ↔ ∀ a ∈ v.1, Within a := .rfl

/-- Vectors of numbers are always read back. -/
@[simp] theorem within_vec_uint16 (v : Vec UInt16) : Within v ↔ True :=
  iff_of_true (fun _ _ => trivial) trivial

@[simp] theorem within_vec_int32 (v : Vec Int32) : Within v ↔ True :=
  iff_of_true (fun _ _ => trivial) trivial

/-! ### Texts -/

/-- 64 MB. -/
def MAX_STRING_LEN : Nat := 1024 * 1024 * 64

/-- A text, by its bytes. -/
structure string where
  bytes : Vec UInt8
  deriving DecidableEq

instance : Inhabited string := ⟨⟨∅⟩⟩

namespace string

def size (s : string) : Nat := s.bytes.size

def empty (s : string) : Bool := s.bytes.1.isEmpty

end string

instance : Streamed string where
  write s := writeVec write s.bytes
  read := do
    let bytes ← readVecUpTo MAX_STRING_LEN read
    pure ⟨bytes⟩
  Within s := s.size ≤ MAX_STRING_LEN
  exact s := by
    have hbytes := exact_readVecUpTo MAX_STRING_LEN s.bytes fun a _ => Streamed.exact a
    exact (hbytes.map string.mk).congr (and_iff_left fun _ _ => trivial)

theorem within_string (s : string) : Within s ↔ s.size ≤ MAX_STRING_LEN := .rfl

/-! ### Sets of texts -/

/-- A set of texts. -/
def StringSet : Type := { s : Finset string // s.card < 2 ^ 64 }

instance : DecidableEq StringSet := inferInstanceAs (DecidableEq { s : Finset string // s.card < 2 ^ 64 })

instance : EmptyCollection StringSet := ⟨⟨∅, Nat.two_pow_pos 64⟩⟩

/-- The order in which a set is gone through; it may be any. -/
structure SetOrder where
  run : Finset string → List string
  nodup : ∀ s, (run s).Nodup
  toFinset : ∀ s, (run s).toFinset = s

noncomputable instance : Inhabited SetOrder :=
  ⟨⟨Finset.toList, Finset.nodup_toList, Finset.toList_toFinset⟩⟩

/-- The texts of a set, in the order in which it is gone through. -/
def SetOrder.entries (o : SetOrder) (s : StringSet) : Vec string :=
  ⟨o.run s.1, by
    have hlength : (o.run s.1).length = s.1.card := by
      rw [← List.toFinset_card_of_nodup (o.nodup s.1), o.toFinset]
    rw [hlength]
    exact s.2⟩

/-- The set of the texts that have been read. -/
def StringSet.ofList (l : List string) : StringSet :=
  let s := l.foldl (fun s a => insert a s) (∅ : Finset string)
  if h : s.card < 2 ^ 64 then ⟨s, h⟩ else ∅

def writeSet (o : SetOrder) (s : StringSet) : List UInt8 := writeVec write (o.entries s)

def readSet : Reader MpError StringSet := do
  let v ← readVec read
  pure (.ofList v.1)

theorem foldl_insert (l : List string) (s : Finset string) :
    l.foldl (fun s a => insert a s) s = l.toFinset ∪ s := by
  induction l generalizing s with
  | nil => rw [List.foldl_nil, List.toFinset_nil, Finset.empty_union]
  | cons a l ih =>
    rw [List.foldl_cons, ih, List.toFinset_cons, Finset.insert_union, Finset.union_insert]

theorem ofList_entries (o : SetOrder) (s : StringSet) : StringSet.ofList (o.entries s).1 = s := by
  have hset : (o.entries s).1.foldl (fun s a => insert a s) (∅ : Finset string) = s.1 := by
    rw [foldl_insert, Finset.union_empty]
    exact o.toFinset s.1
  unfold StringSet.ofList
  dsimp only
  rw [hset]
  exact dif_pos s.2

/-- A set is read back as it was. -/
theorem exact_readSet (o : SetOrder) (s : StringSet) :
    Exact readSet (writeSet o s) s (∀ a ∈ s.1, Within a) := by
  have hset := (exact_readVec (p := read) (f := write) (o.entries s)
    fun a _ => Streamed.exact a).map fun v => StringSet.ofList v.1
  rw [ofList_entries] at hset
  refine hset.congr (forall_congr' fun a => ?_)
  have hmem : a ∈ (o.entries s).1 ↔ a ∈ s.1 := by
    rw [← List.mem_toFinset]
    exact iff_of_eq (congrArg (a ∈ ·) (o.toFinset s.1))
  rw [hmem]

end FaultWire

end UbsEngine
