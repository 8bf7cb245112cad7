import UbsEngine.Library.Bytes
import UbsEngine.Library.OrderedMap

/-!
# What can be serialized

The operators of the serializer are overloaded over the types of C++. This file names those
types: the arithmetic types with the ids they are written under
(`UbsEngine.Serde.ScalarType`), the enumerations (`UbsEngine.Serde.EnumType`), and the types
that a single `<<` or `>>` accepts (`UbsEngine.Serde.Ty`), each with its values and with the
value a fresh object has.

A program that serializes makes a sequence of such writes, and among them it may write a
whole serializer that it has filled with a sequence of its own. That is a
`UbsEngine.Serde.Shape`.
-/

namespace UbsEngine

namespace Serde

/-! ### The constants of the format -/

/-- The bits of the length in a head block. -/
def LEN_CTRL_OFFSET : Nat := 24

def LEN_CTRL_MASK : Nat := 2 ^ 24 - 1

def INIT_CAPACITY : Nat := 256

def MAX_CAPACITY : Nat := 2 ^ 24

/-- The limit on what one write adds. -/
def ONCE_LIMIT_LEN : Nat := 2 ^ 16

/-- `sizeof(serial_head)`. -/
def headSize : Nat := 4

/-- The type of the head block of an array. -/
def ARRAY_CTRL_CODE : Nat := 65

/-- The type of the head block of a nested serializer. -/
def NEST_CTRL_CODE : Nat := 66

/-- What the buffer of a serializer starts with. -/
def HEAD_CTRL_CODE : Nat := 255

/-- The supported alignments. -/
inductive ALIGN_BASE where
  | OFFSET_BASE_1 | OFFSET_BASE_2 | OFFSET_BASE_4 | OFFSET_BASE_8
  deriving DecidableEq, Repr

/-- The offset of an alignment: `static_cast<common_len>(align) - 1`. -/
def ALIGN_BASE.offset : ALIGN_BASE → Nat
  | OFFSET_BASE_1 => 0
  | OFFSET_BASE_2 => 1
  | OFFSET_BASE_4 => 3
  | OFFSET_BASE_8 => 7

def isValidAlign (align : Nat) : Bool :=
  align == 1 || align == 2 || align == 4 || align == 8

/-! ### Arithmetic types -/

/-- The arithmetic types. -/
inductive ScalarType where
  | char | bool | short | int | long | longLong | signedChar | float | double
  | unsignedChar | unsignedShort | unsignedInt | unsignedLong | unsignedLongLong
  | wchar | char16 | char32
  deriving DecidableEq, Repr

namespace ScalarType

/-- `sizeof(T)`. -/
def size : ScalarType → Nat
  | char | bool | signedChar | unsignedChar => 1
  | short | unsignedShort | char16 => 2
  | int | unsignedInt | float | wchar | char32 => 4
  | long | longLong | double | unsignedLong | unsignedLongLong => 8

/-- `GetTypeId<T>()`. -/
def typeId : ScalarType → Nat
  | char => 0
  | bool => 1
  | short => 2
  | int => 3
  | long => 4
  | longLong => 5
  | signedChar => 6
  | float => 7
  | double => 8
  | unsignedChar => 9
  | unsignedShort => 10
  | unsignedInt => 11
  | unsignedLong => 12
  | unsignedLongLong => 13
  | wchar => 14
  | char16 => 15
  | char32 => 16

/-- `GetTypePointerId<T>()`. -/
def typePointerId : ScalarType → Nat
  | short => 17
  | int => 18
  | long => 19
  | longLong => 20
  | unsignedShort => 21
  | unsignedInt => 22
  | unsignedLong => 23
  | unsignedLongLong => 24
  | char => 25
  | signedChar => 26
  | unsignedChar => 27
  | wchar => 28
  | char16 => 29
  | char32 => 30
  | bool => 31
  | float => 32
  | double => 33

/-- The id the elements of a vector are written under. A `std::vector<bool>` has operators of
its own, which use the id of `std::_Bit_reference`. -/
def vectorTypeId : ScalarType → Nat
  | bool => 35
  | t => t.typePointerId

/-- The values of an arithmetic type, as what their object holds in memory. A `bool` holds
0 or 1. -/
@[ext] structure Val (t : ScalarType) where
  /-- The bits of the object. -/
  bits : BitVec (8 * t.size)
  boolean : t = bool → bits.toNat < 2
  deriving DecidableEq

/-- The arithmetic types other than `bool`. -/
class IsNumber (t : ScalarType) : Prop where
  ne_bool : t ≠ bool

instance : IsNumber unsignedChar := ⟨by decide⟩
instance : IsNumber int := ⟨by decide⟩
instance : IsNumber unsignedInt := ⟨by decide⟩
instance : IsNumber long := ⟨by decide⟩
instance : IsNumber unsignedLong := ⟨by decide⟩

/-- The value zero. -/
def zero (t : ScalarType) : t.Val := ⟨0, fun _ => by simp⟩

instance (t : ScalarType) : Inhabited t.Val := ⟨zero t⟩

/-- The bytes of an object. -/
def toBytes {t : ScalarType} (x : t.Val) : List UInt8 := Bytes.ofBitVec x.bits

@[simp] theorem length_toBytes {t : ScalarType} (x : t.Val) : (toBytes x).length = t.size :=
  Bytes.length_ofBitVec x.bits

/-- The object some bytes are read as. A `bool` is true if its byte is not zero. -/
def ofBytes (t : ScalarType) (bs : List UInt8) : t.Val :=
  if h : t = bool → (Bytes.toBitVec t.size bs).toNat < 2 then ⟨Bytes.toBitVec t.size bs, h⟩
  else ⟨1, fun ht => by subst ht; decide⟩

theorem ofBytes_toBytes {t : ScalarType} (x : t.Val) : ofBytes t (toBytes x) = x := by
  have hx : Bytes.toBitVec t.size (toBytes x) = x.bits := Bytes.toBitVec_ofBitVec x.bits
  rw [ofBytes, dif_pos (by rw [hx]; exact x.boolean)]
  exact Val.ext hx

theorem size_pos (t : ScalarType) : 0 < t.size := by cases t <;> decide

theorem size_le (t : ScalarType) : t.size ≤ 8 := by cases t <;> decide

theorem typeId_lt (t : ScalarType) : t.typeId < 256 := by cases t <;> decide

theorem vectorTypeId_lt (t : ScalarType) : t.vectorTypeId < 256 := by cases t <;> decide

end ScalarType

/-- `GetTypePointerId<std::string>()`. -/
def stringTypeId : Nat := 34

/-! ### Enumerations -/

/-- An enumeration, by its underlying integer type. -/
structure EnumType where
  /-- The bytes of the underlying type. -/
  size : Nat
  /-- Whether the underlying type is signed. -/
  signed : Bool
  valid : size = 1 ∨ size = 2 ∨ size = 4 ∨ size = 8
  deriving DecidableEq

namespace EnumType

/-- The values of an enumeration, as values of its underlying type. -/
abbrev Val (e : EnumType) : Type := BitVec (8 * e.size)

/-- An object of an enumeration. -/
structure Object (e : EnumType) where
  value : e.Val
  deriving DecidableEq

/-- `static_cast<int>(v)`. -/
def toInt (e : EnumType) (v : e.Val) : ScalarType.int.Val :=
  ⟨if e.signed then v.signExtend 32 else v.setWidth 32, fun h => nomatch h⟩

/-- `static_cast<T>(i)` of an `int`. -/
def ofInt (e : EnumType) (i : ScalarType.int.Val) : e.Val :=
  BitVec.signExtend (8 * e.size) (i.bits : BitVec 32)

end EnumType

/-! ### What one operator accepts -/

/-- The types that a single `<<` or `>>` accepts. A `std::vector` of an arithmetic type is
written as one block (`if constexpr (std::is_convertible_v<T, base_type>)`), and is `scalars`
here; `vector` is a vector of any other type. -/
inductive Ty where
  | scalar (t : ScalarType)
  | string
  | scalars (t : ScalarType)
  | vector (t : Ty)
  | map (k v : Ty)
  | unorderedSet (t : Ty)
  deriving DecidableEq, Repr

namespace Ty

/-- The values of a type. A string is its bytes, and may contain the byte zero. -/
@[reducible] def Val : Ty → Type
  | scalar t => t.Val
  | string => List UInt8
  | scalars t => List t.Val
  | vector t => List t.Val
  | map k v => OrderedMap k.Val v.Val
  | unorderedSet t => OrderedSet t.Val

/-- The value of a fresh object. -/
def fresh : (t : Ty) → t.Val
  | scalar t => t.zero
  | string => ([] : List UInt8)
  | scalars t => ([] : List t.Val)
  | vector t => ([] : List t.Val)
  | map k v => (OrderedMap.empty : OrderedMap k.Val v.Val)
  | unorderedSet t => (OrderedSet.empty : OrderedSet t.Val)

/-- Values can be compared. -/
def decEq : (t : Ty) → DecidableEq t.Val
  | scalar t => inferInstanceAs (DecidableEq t.Val)
  | string => inferInstanceAs (DecidableEq (List UInt8))
  | scalars t => inferInstanceAs (DecidableEq (List t.Val))
  | vector t => letI := decEq t; inferInstanceAs (DecidableEq (List t.Val))
  | map k v =>
    letI := decEq k
    letI := decEq v
    inferInstanceAs (DecidableEq (OrderedMap k.Val v.Val))
  | unorderedSet t => letI := decEq t; inferInstanceAs (DecidableEq (OrderedSet t.Val))

instance (t : Ty) : DecidableEq t.Val := decEq t

end Ty

/-! ### Sequences of writes -/

/-- A **sequence of typed writes**, or of typed reads. -/
inductive Shape where
  /-- No more. -/
  | done
  /-- An object of a type. -/
  | get (t : Ty) (rest : Shape)
  /-- A value of an enumeration, by `enum_v`. -/
  | enum (e : EnumType) (rest : Shape)
  /-- A serializer of its own alignment that holds a sequence of its own. -/
  | nest (align : ALIGN_BASE) (kid : Shape) (rest : Shape)

namespace Shape

/-- What is written or read. -/
@[reducible] def Val : Shape → Type
  | done => Unit
  | get t rest => t.Val × rest.Val
  | enum e rest => e.Val × rest.Val
  | nest _ kid rest => kid.Val × rest.Val

/-- Fresh objects to read into. -/
def fresh : (sh : Shape) → sh.Val
  | done => ()
  | get t rest => (t.fresh, rest.fresh)
  | enum _ rest => (0, rest.fresh)
  | nest _ kid rest => (kid.fresh, rest.fresh)

end Shape

end Serde

end UbsEngine
