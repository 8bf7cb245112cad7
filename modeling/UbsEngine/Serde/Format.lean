import UbsEngine.Serde.Types

/-!
# The format on the wire

Everything that is written consists of *head blocks* and *payloads*. A head block is a 32-bit
number, the type in its 8 high bits and a length in its 24 low bits; a payload is as long as
the head block before it says. Each of the two is padded with zeros to the alignment of the
serializer.

The writer and the reader are coded apart from each other. What they have in common is stated
here once: the bytes of a value (`UbsEngine.Serde.Ty.bytes`) and of a sequence of writes
(`UbsEngine.Serde.Shape.bytes`), and which values fit the limits of a single write
(`UbsEngine.Serde.Ty.Admissible`, `UbsEngine.Serde.Shape.Admissible`). Nothing here is code of
the program: the writer is proved to produce these bytes, and the reader to take them apart.
-/

namespace UbsEngine

namespace Serde

/-! ### Alignment -/

/-- The number of an alignment. -/
def ALIGN_BASE.base (a : ALIGN_BASE) : Nat := a.offset + 1

theorem ALIGN_BASE.offset_le (a : ALIGN_BASE) : a.offset ≤ 7 := by cases a <;> decide

theorem ALIGN_BASE.isValidAlign_base (a : ALIGN_BASE) : isValidAlign a.base = true := by
  cases a <;> rfl

/-- **Rounding up to an alignment**: the result is the next multiple. -/
theorem alignUp_spec (a : ALIGN_BASE) {l : Nat} (hl : l < 2 ^ 63) :
    a.base ∣ Bytes.alignUp a.offset l ∧ l ≤ Bytes.alignUp a.offset l ∧
      Bytes.alignUp a.offset l ≤ l + a.offset := by
  have key : ∀ k, k ≤ 3 → 2 ^ k ∣ Bytes.alignUp (2 ^ k - 1) l ∧
      l ≤ Bytes.alignUp (2 ^ k - 1) l ∧ Bytes.alignUp (2 ^ k - 1) l ≤ l + (2 ^ k - 1) := by
    intro k hk
    have hpos : 0 < 2 ^ k := Nat.two_pow_pos k
    have hle : 2 ^ k ≤ 2 ^ 3 := Nat.pow_le_pow_right (by decide) hk
    rw [Bytes.alignUp_eq (by omega) (by omega)]
    have hmod := Nat.div_add_mod (l + (2 ^ k - 1)) (2 ^ k)
    have hlt := Nat.mod_lt (l + (2 ^ k - 1)) hpos
    rw [Nat.mul_comm] at hmod
    exact ⟨Nat.dvd_mul_left _ _, by omega, by omega⟩
  cases a with
  | OFFSET_BASE_1 => exact key 0 (by decide)
  | OFFSET_BASE_2 => exact key 1 (by decide)
  | OFFSET_BASE_4 => exact key 2 (by decide)
  | OFFSET_BASE_8 => exact key 3 (by decide)

/-- Bytes padded with zeros to a length. -/
def padTo (n : Nat) (bs : List UInt8) : List UInt8 := bs ++ List.replicate (n - bs.length) 0

theorem length_padTo {n : Nat} {bs : List UInt8} (h : bs.length ≤ n) :
    (padTo n bs).length = n := by
  rw [padTo, List.length_append, List.length_replicate]
  omega

theorem take_padTo (n : Nat) (bs : List UInt8) : (padTo n bs).take bs.length = bs :=
  List.take_left

/-! ### Head blocks and payloads -/

/-- The 32 bits of a head block: `(type << LEN_CTRL_OFFSET) | len`. -/
def headCode (type len : Nat) : Nat := type <<< LEN_CTRL_OFFSET ||| len

theorem headCode_eq {len : Nat} (type : Nat) (h : len < MAX_CAPACITY) :
    headCode type len = type * 2 ^ 24 + len := by
  have hlen : len < 2 ^ LEN_CTRL_OFFSET := h
  rw [headCode, ← Nat.shiftLeft_add_eq_or_of_lt hlen, Nat.shiftLeft_eq, LEN_CTRL_OFFSET]

/-- A head block, padded. -/
def head (a : ALIGN_BASE) (type len : Nat) : List UInt8 :=
  padTo (Bytes.alignUp a.offset headSize) (Bytes.ofNat headSize (headCode type len))

/-- A head block and its payload, both padded. -/
def block (a : ALIGN_BASE) (type : Nat) (payload : List UInt8) : List UInt8 :=
  head a type payload.length ++ padTo (Bytes.alignUp a.offset payload.length) payload

/-- The length of a padded head block. -/
def headLen (a : ALIGN_BASE) : Nat := Bytes.alignUp a.offset headSize

theorem headLen_spec (a : ALIGN_BASE) : a.base ∣ headLen a ∧ 4 ≤ headLen a ∧ headLen a ≤ 11 := by
  obtain ⟨hdvd, hle, hge⟩ := alignUp_spec a (l := headSize) (by decide)
  have hoff := a.offset_le
  exact ⟨hdvd, hle, hge.trans (Nat.add_le_add_left hoff headSize)⟩

@[simp] theorem length_head (a : ALIGN_BASE) (type len : Nat) :
    (head a type len).length = headLen a := by
  rw [head, length_padTo]
  · rfl
  · rw [Bytes.length_ofNat]
    exact (headLen_spec a).2.1

theorem length_block (a : ALIGN_BASE) (type : Nat) {payload : List UInt8}
    (h : payload.length < 2 ^ 63) :
    (block a type payload).length = headLen a + Bytes.alignUp a.offset payload.length := by
  rw [block, List.length_append, length_head, length_padTo (alignUp_spec a h).2.1]

/-! ### Values -/

/-- The bytes of a value. -/
def Ty.bytes (a : ALIGN_BASE) : (t : Ty) → t.Val → List UInt8
  | scalar t, x => block a t.typeId (ScalarType.toBytes x)
  | string, s => block a stringTypeId (s ++ [0])
  | scalars t, v =>
    head a ARRAY_CTRL_CODE v.length ++
      if v.isEmpty then [] else block a t.vectorTypeId (v.flatMap ScalarType.toBytes)
  | vector t, v => head a ARRAY_CTRL_CODE v.length ++ v.flatMap (t.bytes a)
  | map k v, m =>
    head a ARRAY_CTRL_CODE m.toList.length ++
      m.toList.flatMap fun e => k.bytes a e.1 ++ v.bytes a e.2
  | unorderedSet t, s =>
    head a ARRAY_CTRL_CODE s.toList.length ++ s.toList.flatMap (t.bytes a)

/-- The value is within the limits of a single write. -/
def Ty.Admissible (a : ALIGN_BASE) : (t : Ty) → t.Val → Prop
  | scalar _, _ => True
  | string, s => s.length + 1 < ONCE_LIMIT_LEN - a.offset
  | scalars _, v =>
    v.length < ONCE_LIMIT_LEN ∧
      (v ≠ [] → (v.flatMap ScalarType.toBytes).length < ONCE_LIMIT_LEN - a.offset)
  | vector t, v => v.length < ONCE_LIMIT_LEN ∧ ∀ x ∈ v, t.Admissible a x
  | map k v, m =>
    m.toList.length < ONCE_LIMIT_LEN ∧
      ∀ e ∈ m.toList, k.Admissible a e.1 ∧ v.Admissible a e.2
  | unorderedSet t, s =>
    s.toList.length < ONCE_LIMIT_LEN ∧ ∀ x ∈ s.toList, t.Admissible a x

theorem length_flatMap_toBytes {t : ScalarType} (v : List t.Val) :
    (v.flatMap ScalarType.toBytes).length = v.length * t.size := by
  induction v with
  | nil => rw [List.flatMap_nil, List.length_nil, List.length_nil, Nat.zero_mul]
  | cons x v ih =>
    rw [List.flatMap_cons, List.length_append, ih, ScalarType.length_toBytes, List.length_cons,
      Nat.add_mul, Nat.one_mul, Nat.add_comm]

theorem dvd_length_block (a : ALIGN_BASE) (type : Nat) {payload : List UInt8}
    (h : payload.length < 2 ^ 63) : a.base ∣ (block a type payload).length := by
  rw [length_block a type h]
  exact Nat.dvd_add (headLen_spec a).1 (alignUp_spec a h).1

theorem dvd_length_flatMap {α : Type*} {n : Nat} {f : α → List UInt8} {l : List α}
    (h : ∀ x ∈ l, n ∣ (f x).length) : n ∣ (l.flatMap f).length := by
  induction l with
  | nil => exact Nat.dvd_zero n
  | cons x l ih =>
    rw [List.flatMap_cons, List.length_append]
    exact Nat.dvd_add (h x List.mem_cons_self) (ih fun y hy => h y (List.mem_cons_of_mem x hy))

theorem length_mul_le_flatMap {α : Type*} {n : Nat} {f : α → List UInt8} {l : List α}
    (h : ∀ x ∈ l, n ≤ (f x).length) : l.length * n ≤ (l.flatMap f).length := by
  induction l with
  | nil => rw [List.length_nil, Nat.zero_mul]; exact Nat.zero_le _
  | cons x l ih =>
    have hx := h x List.mem_cons_self
    have hrest := ih fun y hy => h y (List.mem_cons_of_mem x hy)
    rw [List.flatMap_cons, List.length_append, List.length_cons, Nat.add_mul, Nat.one_mul]
    omega

/-- The bytes of a value end at a multiple of the alignment. -/
theorem Ty.dvd_length_bytes (a : ALIGN_BASE) (t : Ty) (x : t.Val) (h : t.Admissible a x) :
    a.base ∣ (t.bytes a x).length := by
  have hlim : ONCE_LIMIT_LEN < 2 ^ 63 := by decide
  have hhead : ∀ (type len : Nat) (bs : List UInt8), a.base ∣ bs.length →
      a.base ∣ (head a type len ++ bs).length := by
    intro type len bs hbs
    rw [List.length_append, length_head]
    exact Nat.dvd_add (headLen_spec a).1 hbs
  induction t with
  | scalar t =>
    refine dvd_length_block a _ ?_
    rw [ScalarType.length_toBytes]
    have := t.size_le
    omega
  | string =>
    refine dvd_length_block a _ ?_
    rw [List.length_append, List.length_singleton]
    exact (Nat.lt_of_lt_of_le h (Nat.sub_le _ _)).trans hlim
  | scalars t =>
    refine hhead _ _ _ ?_
    cases x with
    | nil => exact Nat.dvd_zero _
    | cons y v =>
      exact dvd_length_block a _
        ((Nat.lt_of_lt_of_le (h.2 (List.cons_ne_nil y v)) (Nat.sub_le _ _)).trans hlim)
  | vector t ih => exact hhead _ _ _ (dvd_length_flatMap fun y hy => ih y (h.2 y hy))
  | map k v ihk ihv =>
    refine hhead _ _ _ (dvd_length_flatMap fun e he => ?_)
    rw [List.length_append]
    exact Nat.dvd_add (ihk e.1 (h.2 e he).1) (ihv e.2 (h.2 e he).2)
  | unorderedSet t ih => exact hhead _ _ _ (dvd_length_flatMap fun y hy => ih y (h.2 y hy))

/-- The bytes of a value begin with a head block. -/
theorem Ty.headLen_le_length_bytes (a : ALIGN_BASE) (t : Ty) (x : t.Val) :
    headLen a ≤ (t.bytes a x).length := by
  cases t <;> simp only [Ty.bytes, block, List.length_append, length_head] <;> omega

/-! ### Sequences of writes -/

/-- Where the first write goes: behind three head blocks. -/
def bodyStart (a : ALIGN_BASE) : Nat := Bytes.alignUp a.offset (headSize * 3)

/-- What a buffer of a given length starts with. -/
def header (a : ALIGN_BASE) (len : Nat) : List UInt8 :=
  padTo (bodyStart a)
    (Bytes.ofNat headSize HEAD_CTRL_CODE ++ Bytes.ofNat headSize a.offset ++
      Bytes.ofNat headSize len)

/-- The buffer that holds the bytes of a sequence of writes. -/
def image (a : ALIGN_BASE) (body : List UInt8) : List UInt8 :=
  header a (bodyStart a + body.length) ++ body

/-- The bytes of a sequence of writes. An enumeration is written as an `int`. -/
def Shape.bytes (a : ALIGN_BASE) : (sh : Shape) → sh.Val → List UInt8
  | done, _ => []
  | get t rest, v => t.bytes a v.1 ++ rest.bytes a v.2
  | enum e rest, v => (Ty.scalar .int).bytes a (e.toInt v.1) ++ rest.bytes a v.2
  | nest b kid rest, v =>
    block a NEST_CTRL_CODE (image b (kid.bytes b v.1)) ++ rest.bytes a v.2

/-- Every write of a sequence is within its limits. -/
def Shape.Admissible (a : ALIGN_BASE) : (sh : Shape) → sh.Val → Prop
  | done, _ => True
  | get t rest, v => t.Admissible a v.1 ∧ rest.Admissible a v.2
  | enum _ rest, v => rest.Admissible a v.2
  | nest b kid rest, v =>
    (kid.Admissible b v.1 ∧ (image b (kid.bytes b v.1)).length < ONCE_LIMIT_LEN) ∧
      rest.Admissible a v.2

theorem bodyStart_spec (a : ALIGN_BASE) :
    a.base ∣ bodyStart a ∧ 12 ≤ bodyStart a ∧ bodyStart a ≤ 19 := by
  obtain ⟨hdvd, hle, hge⟩ := alignUp_spec a (l := headSize * 3) (by decide)
  have hoff := a.offset_le
  exact ⟨hdvd, hle, hge.trans (Nat.add_le_add_left hoff _)⟩

@[simp] theorem length_header (a : ALIGN_BASE) (len : Nat) :
    (header a len).length = bodyStart a := by
  rw [header, length_padTo]
  simp only [List.length_append, Bytes.length_ofNat]
  exact (bodyStart_spec a).2.1

@[simp] theorem length_image (a : ALIGN_BASE) (body : List UInt8) :
    (image a body).length = bodyStart a + body.length := by
  rw [image, List.length_append, length_header]

theorem Shape.dvd_length_bytes (a : ALIGN_BASE) (sh : Shape) (v : sh.Val)
    (h : sh.Admissible a v) : a.base ∣ (sh.bytes a v).length := by
  induction sh generalizing a with
  | done => exact Nat.dvd_zero _
  | get t rest ih =>
    rw [Shape.bytes, List.length_append]
    exact Nat.dvd_add (t.dvd_length_bytes a v.1 h.1) (ih a v.2 h.2)
  | enum e rest ih =>
    rw [Shape.bytes, List.length_append]
    exact Nat.dvd_add (Ty.dvd_length_bytes a (.scalar .int) (e.toInt v.1) trivial)
      (ih a v.2 h)
  | nest b kid rest _ ih =>
    rw [Shape.bytes, List.length_append]
    have hlim : ONCE_LIMIT_LEN < 2 ^ 63 := by decide
    exact Nat.dvd_add (dvd_length_block a _ (h.1.2.trans hlim)) (ih a v.2 h.2)

end Serde

end UbsEngine
