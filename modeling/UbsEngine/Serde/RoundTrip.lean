import UbsEngine.Serde.Serialization
import UbsEngine.Serde.DeSerialization

/-!
# What is written is read back

A reading program *parses* some bytes as a value if, at any place of a buffer where these bytes
stand, it hands out the value and moves the position behind them
(`UbsEngine.Serde.Parses`). Programs compose: what parses one piece and goes on to parse the
next parses both. The operators of the deserializer parse the bytes of the format
(`UbsEngine.Serde.Ty.read_bytes`), and these are what the serializer writes, so that every
value comes back.

One kind of value does not survive. An enumeration is written as an `int`, and `Check()` does
not notice if its value does not fit. `UbsEngine.Serde.Shape.read_back_iff` is therefore an
equivalence: a sequence of writes is read back as it was written exactly if every enumeration
value in it fits an `int`.
-/

namespace UbsEngine

namespace Serde

open Recorded

/-! ### Programs step by step -/

namespace UbseDeSerialization

/-- The same state with the position moved on. -/
def moved (s : UbseDeSerialization) (n : Nat) : UbseDeSerialization :=
  { s with mPos := s.mPos + n }

@[simp] theorem moved_mBuf (s : UbseDeSerialization) (n : Nat) : (s.moved n).mBuf = s.mBuf := rfl

@[simp] theorem moved_mPos (s : UbseDeSerialization) (n : Nat) :
    (s.moved n).mPos = s.mPos + n := rfl

theorem moved_moved (s : UbseDeSerialization) (m n : Nat) :
    (s.moved m).moved n = s.moved (m + n) := by
  rw [moved, moved, moved, Nat.add_assoc]

end UbseDeSerialization

open UbseDeSerialization

namespace Reader

variable {α : Type} {f : Reader α} {s s' : UbseDeSerialization} {x : α}

theorem fetch_goes (pos n : Nat) (s : UbseDeSerialization) :
    Goes (fetch pos n) s ((s.mBuf.drop pos).take n) s :=
  .state ((Goes.note _ s).bind (.pure _ s))

theorem alignTo_goes {a : ALIGN_BASE} (hs : s.mAlignOffset = a.offset) (l : Nat) :
    Goes (alignTo l) s (Bytes.alignUp a.offset l) s := by
  rw [← hs]
  exact .state ((Goes.note _ s).bind (.pure _ s))

theorem advance_goes (n : Nat) (s : UbseDeSerialization) : Goes (advance n) s () (s.moved n) :=
  .state ((Goes.note _ s).bind (.change _ s))

theorem leave_goes (before : Bool) (s : UbseDeSerialization) : Goes (leave before) s () s :=
  .state (.note _ s)

theorem remaining_goes (s : UbseDeSerialization) :
    Goes remaining s (s.mBuf.length - s.mPos) s :=
  .state ((Goes.note _ s).bind (.pure _ s))

theorem operator_goes (hf : Goes f s x s') : Goes (operator f) s x s' :=
  .state (hf.bind ((leave_goes _ s').bind (.pure x s')))

/-- There is room for what is expected. -/
theorem checkValid_goes {n : Nat} (hflag : s.mFlag = true) (hn : 0 < n)
    (hroom : s.mPos + n ≤ s.mBuf.length) : Goes (checkValid n) s true s := by
  have hvalid : ¬(n = 0 ∨ s.mPos + n > s.mBuf.length) := by omega
  refine .state ?_
  rw [hflag, if_neg (by decide)]
  refine (Goes.note _ s).bind ?_
  rw [if_neg hvalid]
  exact .pure true s

end Reader

open Reader

/-! ### Bytes at the position -/

/-- The deserializer is fine, has the alignment, and the bytes stand at its position. -/
structure At (a : ALIGN_BASE) (bs : List UInt8) (s : UbseDeSerialization) : Prop where
  align : s.mAlignOffset = a.offset
  flag : s.mFlag = true
  room : s.mPos + bs.length ≤ s.mBuf.length
  bytes : (s.mBuf.drop s.mPos).take bs.length = bs

variable {a : ALIGN_BASE} {bs cs : List UInt8} {s : UbseDeSerialization}

namespace At

theorem left (h : At a (bs ++ cs) s) : At a bs s := by
  have hroom := h.room
  rw [List.length_append] at hroom
  refine ⟨h.align, h.flag, by omega, ?_⟩
  have hbytes := congrArg (List.take bs.length) h.bytes
  rwa [List.take_take, List.take_left, List.length_append, Nat.min_eq_left (by omega)] at hbytes

theorem right (h : At a (bs ++ cs) s) : At a cs (s.moved bs.length) := by
  have hroom := h.room
  rw [List.length_append] at hroom
  refine ⟨h.align, h.flag, by rw [moved_mPos, moved_mBuf]; omega, ?_⟩
  have hbytes := congrArg (List.drop bs.length) h.bytes
  rwa [List.drop_left, List.length_append, ← List.take_drop, List.drop_drop] at hbytes

/-- The bytes of a part are fetched from their offset. -/
theorem take_drop (h : At a (bs ++ cs) s) (n : Nat) (hn : n ≤ cs.length) :
    (s.mBuf.drop (s.mPos + bs.length)).take n = cs.take n := by
  have hbytes := congrArg (List.take n) h.right.bytes
  rwa [List.take_take, Nat.min_eq_left hn] at hbytes

end At

/-- A program **parses** bytes as a value. -/
def Parses {α : Type} (a : ALIGN_BASE) (f : Reader α) (bs : List UInt8) (x : α) : Prop :=
  ∀ s, At a bs s → Goes f s x (s.moved bs.length)

namespace Parses

variable {α β : Type} {f : Reader α} {g : α → Reader β} {x : α} {y : β}

theorem pure (x : α) : Parses a (Pure.pure x) [] x := fun s _ => Goes.pure x s

theorem bind (hf : Parses a f bs x) (hg : Parses a (g x) cs y) :
    Parses a (f >>= g) (bs ++ cs) y := by
  intro s hs
  have hrest := hg _ hs.right
  rw [moved_moved, ← List.length_append] at hrest
  exact (hf s hs.left).bind hrest

/-- Handing out something computed from the value. -/
theorem map (hf : Parses a f bs x) (k : α → β) :
    Parses a (f >>= fun z => Pure.pure (k z)) bs (k x) :=
  fun s hs => (hf s hs).bind (Goes.pure (k x) _)

end Parses

/-! ### Head blocks and payloads -/

theorem toNat_headCode {type len : Nat} (htype : type < 256) (hlen : len < MAX_CAPACITY) :
    Bytes.toNat (Bytes.ofNat headSize (headCode type len)) = type * 2 ^ 24 + len := by
  have hlt : len < 2 ^ 24 := hlen
  rw [headCode_eq type hlen, Bytes.toNat_ofNat_of_lt]
  rw [headSize]
  omega

/-- The length in a head block is found if the type is the expected one. -/
theorem readLenByType_goes {type len : Nat} (htype : type < 256) (hlen : len < MAX_CAPACITY)
    (h : At a (head a type len) s) : Goes (Reader.readLenByType type) s (some len) s := by
  have hlt : len < 2 ^ 24 := hlen
  have hfetch : (s.mBuf.drop s.mPos).take headSize = Bytes.ofNat headSize (headCode type len) := by
    have htake := congrArg (List.take headSize) h.bytes
    have hmin : min headSize (headLen a) = headSize := Nat.min_eq_left (headLen_spec a).2.1
    rw [List.take_take, length_head, hmin] at htake
    rw [htake, head, padTo, List.take_left' (Bytes.length_ofNat headSize _)]
  refine Goes.state ((fetch_goes _ _ s).bind ?_)
  rw [hfetch, toNat_headCode htype hlen]
  have htypeOf : ((type * 2 ^ 24 + len) >>> LEN_CTRL_OFFSET) % 256 = type := by
    rw [LEN_CTRL_OFFSET, Nat.shiftRight_eq_div_pow]
    omega
  have hlenOf : (type * 2 ^ 24 + len) &&& LEN_CTRL_MASK = len := by
    rw [LEN_CTRL_MASK, Nat.and_two_pow_sub_one_eq_mod]
    omega
  rw [Reader.lengthOf, htypeOf, if_pos rfl, hlenOf]
  exact Goes.pure _ s

/-- An array head block is read as its length. -/
theorem arrayLenCapture_parses (a : ALIGN_BASE) {len : Nat} (hlen : len < ONCE_LIMIT_LEN) :
    Parses a Reader.arrayLenCapture (head a ARRAY_CTRL_CODE len) len := by
  intro s h
  obtain ⟨_, hpos, _⟩ := headLen_spec a
  have hroom := h.room
  rw [length_head] at hroom ⊢
  have hlim : ONCE_LIMIT_LEN < MAX_CAPACITY := by decide
  refine operator_goes ((alignTo_goes h.align _).bind
    ((checkValid_goes h.flag (n := headLen a) (by omega) hroom).bind ?_))
  refine (readLenByType_goes (by decide) (hlen.trans hlim) h).bind ?_
  exact (advance_goes _ s).bind (Goes.pure len _)

/-- The payload of a block is found behind its head block. -/
theorem get_goes {type : Nat} {payload : List UInt8} (htype : type < 256)
    (hlen : payload.length < ONCE_LIMIT_LEN) (h : At a (block a type payload) s) :
    Goes (Reader.get type) s (some (s.mPos + headLen a, payload.length))
      (s.moved (block a type payload).length) := by
  have hlim : ONCE_LIMIT_LEN < MAX_CAPACITY := by decide
  have hlim' : ONCE_LIMIT_LEN < 2 ^ 63 := by decide
  obtain ⟨_, hpos, _⟩ := headLen_spec a
  have hroom := h.room
  rw [length_block a type (hlen.trans hlim')] at hroom ⊢
  refine operator_goes ((alignTo_goes h.align _).bind
    ((checkValid_goes h.flag (n := headLen a) (by omega) (by omega)).bind ?_))
  refine (readLenByType_goes htype (hlen.trans hlim) h.left).bind ?_
  refine (advance_goes _ s).bind (Goes.state ((Goes.note _ _).bind ?_))
  have halign : (s.moved (headLen a)).mAlignOffset = a.offset := h.align
  refine (alignTo_goes halign _).bind ((advance_goes _ _).bind (Goes.state ?_))
  rw [moved_moved, moved_mPos, moved_mBuf,
    if_neg (Nat.not_lt.mpr hroom)]
  exact Goes.pure _ _

/-- What is fetched from the payload of a block. -/
theorem At.payload {type : Nat} {payload : List UInt8} (h : At a (block a type payload) s)
    {n : Nat} (hn : n ≤ payload.length) :
    (s.mBuf.drop (s.mPos + headLen a)).take n = payload.take n := by
  have htake := h.take_drop n (by rw [padTo, List.length_append]; omega)
  rwa [length_head, padTo, List.take_append_of_le_length hn] at htake

/-! ### The operators -/

theorem scalar_parses (a : ALIGN_BASE) (t : ScalarType) (x cur : t.Val) :
    Parses a (Reader.scalar t cur) ((Ty.scalar t).bytes a x) x := by
  intro s h
  have hsize : (ScalarType.toBytes x).length = t.size := ScalarType.length_toBytes x
  have hle := t.size_le
  have hpos := t.size_pos
  have hlong : (ScalarType.toBytes x).length < 2 ^ 63 := by omega
  have hroom := h.room
  rw [Ty.bytes, length_block a _ hlong, hsize] at hroom ⊢
  obtain ⟨_, hhead, _⟩ := headLen_spec a
  refine operator_goes ((alignTo_goes h.align _).bind ((alignTo_goes h.align _).bind
    ((Goes.note _ s).bind ?_)))
  refine (checkValid_goes h.flag (n := headLen a + _) (by omega) (by omega)).bind ?_
  have hhead : At a (head a t.typeId t.size) s := hsize ▸ h.left
  have hlim : t.size < MAX_CAPACITY := by rw [MAX_CAPACITY]; omega
  refine (readLenByType_goes t.typeId_lt hlim hhead).bind ?_
  rw [if_neg (fun hne => hne rfl)]
  refine (advance_goes _ s).bind (Goes.state ((fetch_goes _ _ _).bind
    ((advance_goes _ _).bind ?_)))
  rw [moved_moved, moved_mPos, moved_mBuf]
  have hbytes : (s.mBuf.drop (s.mPos + headLen a)).take t.size = ScalarType.toBytes x := by
    rw [h.payload hsize.ge, ← hsize, List.take_length]
  rw [show Bytes.alignUp a.offset headSize = headLen a from rfl, hbytes,
    ScalarType.ofBytes_toBytes]
  exact Goes.pure x _

theorem string_parses (a : ALIGN_BASE) {str : List UInt8} (cur : List UInt8)
    (hlen : str.length + 1 < ONCE_LIMIT_LEN) :
    Parses a (Reader.string cur) (Ty.string.bytes a str) str := by
  intro s h
  have hpayload : (str ++ [0]).length = str.length + 1 := by
    rw [List.length_append, List.length_singleton]
  refine (get_goes (by decide) (by omega) h).bind ?_
  rw [hpayload]
  simp only [if_neg (Nat.succ_ne_zero str.length), Nat.add_sub_cancel]
  have hbytes := h.payload (n := str.length) (by omega)
  rw [List.take_left] at hbytes
  have hfetch := fetch_goes (s.mPos + headLen a) str.length (s.moved (Ty.string.bytes a str).length)
  rwa [moved_mBuf, hbytes] at hfetch

/-- The elements of a vector are taken from where its bytes stand. -/
theorem elements_goes (t : ScalarType) (v : List t.Val) (p : Nat) (s : UbseDeSerialization)
    (h : (s.mBuf.drop p).take (v.flatMap ScalarType.toBytes).length =
      v.flatMap ScalarType.toBytes) :
    Goes (Reader.elements t v.length p) s v s := by
  induction v generalizing p with
  | nil => exact Goes.pure [] s
  | cons x v ih =>
    rw [List.flatMap_cons, List.length_append, List.take_add] at h
    obtain ⟨hx, hv⟩ := List.append_inj h (by
      have hlen := congrArg List.length h
      simp only [List.length_append, List.length_take] at hlen ⊢
      omega)
    rw [List.drop_drop, ScalarType.length_toBytes] at hv
    rw [ScalarType.length_toBytes] at hx
    refine (fetch_goes p t.size s).bind ((ih _ hv).bind ?_)
    rw [hx, ScalarType.ofBytes_toBytes]
    exact Goes.pure _ s

theorem scalars_parses (a : ALIGN_BASE) (t : ScalarType) (v cur : List t.Val)
    (h : (Ty.scalars t).Admissible a v) :
    Parses a (Reader.scalars t cur) ((Ty.scalars t).bytes a v) v := by
  have hcapture := arrayLenCapture_parses a h.1
  cases v with
  | nil => exact hcapture.bind (Parses.pure [])
  | cons x v =>
    have hlen : ((x :: v).flatMap ScalarType.toBytes).length = (x :: v).length * t.size :=
      length_flatMap_toBytes (x :: v)
    have hlim := (h.2 (List.cons_ne_nil x v)).trans_le (Nat.sub_le _ _)
    have hpos := t.size_pos
    have hcons : (x :: v).length ≠ 0 := Nat.succ_ne_zero v.length
    change Parses a _ (head a ARRAY_CTRL_CODE _ ++ block a t.vectorTypeId _) _
    refine hcapture.bind (fun s hs => ?_)
    rw [if_neg hcons]
    refine Goes.state ((get_goes t.vectorTypeId_lt hlim hs).bind ?_)
    have hne : ¬((x :: v).length * t.size = 0 ∨ (x :: v).length * t.size % t.size ≠ 0 ∨
        (x :: v).length * t.size / t.size ≠ (x :: v).length) := by
      rw [Nat.mul_mod_left, Nat.mul_div_cancel _ hpos]
      have hlenpos : 0 < (x :: v).length * t.size := Nat.mul_pos (Nat.succ_pos _) hpos
      omega
    simp only [hlen, if_neg hne]
    refine (Goes.note _ _).bind (elements_goes t (x :: v) _ _ ?_)
    rw [moved_mBuf, hs.payload (Nat.le_refl _), List.take_length]

/-- A container whose elements are read one after the other. -/
theorem mapM_parses {α : Type} {read : α → Reader α} {fresh : α} {bytes : α → List UInt8}
    (v : List α) (hread : ∀ x ∈ v, Parses a (read fresh) (bytes x) x) :
    Parses a ((List.replicate v.length fresh).mapM read) (v.flatMap bytes) v := by
  induction v with
  | nil => exact Parses.pure []
  | cons x v ih =>
    rw [List.length_cons, List.replicate_succ, List.mapM_cons, List.flatMap_cons]
    have hrest := ih fun y hy => hread y (List.mem_cons_of_mem x hy)
    exact (hread x List.mem_cons_self).bind (hrest.map (x :: ·))

theorem vector_parses {α : Type} {read : α → Reader α} {fresh : α} {bytes : α → List UInt8}
    (v : List α) (hlen : v.length < ONCE_LIMIT_LEN)
    (hread : ∀ x ∈ v, Parses a (read fresh) (bytes x) x)
    (hbytes : ∀ x ∈ v, headLen a ≤ (bytes x).length) :
    Parses a (Reader.vector read fresh [])
      (head a ARRAY_CTRL_CODE v.length ++ v.flatMap bytes) v := by
  have hcapture := arrayLenCapture_parses a hlen
  cases v with
  | nil => exact hcapture.bind (Parses.pure [])
  | cons x v =>
    have hcons : (x :: v).length ≠ 0 := Nat.succ_ne_zero v.length
    refine hcapture.bind fun s hs => ?_
    rw [if_neg hcons]
    refine (alignTo_goes hs.align _).bind ((remaining_goes s).bind ?_)
    -- every element takes a head block at least, so that they fit what remains
    have hfit : (x :: v).length * headLen a ≤ s.mBuf.length - s.mPos := by
      have hsum := length_mul_le_flatMap hbytes
      have hroom := hs.room
      omega
    obtain ⟨_, hpos, _⟩ := headLen_spec a
    have hle : (x :: v).length ≤ (s.mBuf.length - s.mPos) / headLen a :=
      (Nat.le_div_iff_mul_le (by omega)).mpr hfit
    have hne : ¬(headLen a = 0 ∨ (x :: v).length > (s.mBuf.length - s.mPos) / headLen a) := by
      omega
    rw [show Bytes.alignUp a.offset headSize = headLen a from rfl, if_neg hne]
    refine (Goes.note _ s).bind ?_
    have hresize : Reader.resize fresh (x :: v).length [] =
        List.replicate (x :: v).length fresh := rfl
    rw [hresize]
    exact mapM_parses (x :: v) hread s hs

/-- The loop of a map: filling a part of a map with the rest of its entries. -/
theorem mapLoop_parses {K V : Type} [DecidableEq K] {readKey : Reader K}
    {readVal : V → Reader V} {fresh : V} {key : K → List UInt8} {val : V → List UInt8}
    (l : List (K × V)) {m n : OrderedMap K V} (hl : n.toList = m.toList ++ l)
    (hread : ∀ e ∈ l, Parses a readKey (key e.1) e.1 ∧ Parses a (readVal fresh) (val e.2) e.2) :
    Parses a (Reader.mapLoop readKey readVal fresh l.length m)
      (l.flatMap fun e => key e.1 ++ val e.2) (n, l.length) := by
  induction l generalizing m with
  | nil =>
    rw [List.append_nil] at hl
    rw [OrderedMap.ext hl]
    exact Parses.pure (m, 0)
  | cons e l ih =>
    obtain ⟨hkey, hval⟩ := hread e List.mem_cons_self
    have hloop := ih (OrderedMap.append_put hl) fun e' he' => hread e' (List.mem_cons_of_mem e he')
    -- a new key, so that the value is read into a fresh object
    have hgetD : m.getD e.1 fresh = fresh :=
      OrderedMap.getD_of_notMem fresh (OrderedMap.notMem_of_append hl)
    intro s hs
    refine Goes.state ?_
    rw [hs.flag, if_neg (by decide)]
    rw [List.flatMap_cons, List.append_assoc] at hs ⊢
    refine Parses.bind hkey ?_ s hs
    rw [hgetD]
    exact hval.bind (hloop.map fun r => (r.1, r.2 + 1))

theorem map_parses {K V : Type} [DecidableEq K] {readKey : Reader K} {readVal : V → Reader V}
    {fresh : V} {key : K → List UInt8} {val : V → List UInt8} (m : OrderedMap K V)
    (hlen : m.toList.length < ONCE_LIMIT_LEN)
    (hread : ∀ e ∈ m.toList,
      Parses a readKey (key e.1) e.1 ∧ Parses a (readVal fresh) (val e.2) e.2) :
    Parses a (Reader.map readKey readVal fresh OrderedMap.empty)
      (head a ARRAY_CTRL_CODE m.toList.length ++ m.toList.flatMap fun e => key e.1 ++ val e.2)
      m := by
  have hloop := mapLoop_parses m.toList (m := OrderedMap.empty) (List.nil_append _).symm hread
  refine (arrayLenCapture_parses a hlen).bind fun s hs => Goes.state ?_
  exact (hloop s hs).bind ((Goes.note _ _).bind (Goes.pure m _))

/-- The loop of a set: filling a part of a set with the rest of its elements. -/
theorem setLoop_parses {α : Type} [DecidableEq α] {read : Reader α} {bytes : α → List UInt8}
    (l : List α) {s t : OrderedSet α} (hl : t.toList = s.toList ++ l)
    (hread : ∀ x ∈ l, Parses a read (bytes x) x) :
    Parses a (Reader.setLoop read l.length s) (l.flatMap bytes) t := by
  induction l generalizing s with
  | nil =>
    rw [List.append_nil] at hl
    rw [OrderedSet.ext hl]
    exact Parses.pure s
  | cons x l ih =>
    have hloop := ih (OrderedSet.append_insert hl) fun y hy => hread y (List.mem_cons_of_mem x hy)
    exact (hread x List.mem_cons_self).bind hloop

theorem unorderedSet_parses {α : Type} [DecidableEq α] {read : Reader α}
    {bytes : α → List UInt8} (t : OrderedSet α) (hlen : t.toList.length < ONCE_LIMIT_LEN)
    (hread : ∀ x ∈ t.toList, Parses a read (bytes x) x) :
    Parses a (Reader.unorderedSet read OrderedSet.empty)
      (head a ARRAY_CTRL_CODE t.toList.length ++ t.toList.flatMap bytes) t := by
  have hloop := setLoop_parses t.toList (s := OrderedSet.empty) (List.nil_append _).symm hread
  refine (arrayLenCapture_parses a hlen).bind fun s hs => ?_
  by_cases h : t.toList.length = 0
  · have hnil : t.toList = [] := List.length_eq_zero_iff.mp h
    have hempty : t = OrderedSet.empty := OrderedSet.ext hnil
    rw [if_pos h, hempty]
    exact Goes.pure _ _
  · rw [if_neg h]
    refine Goes.state ((Goes.note _ s).bind ((hloop s hs).bind ?_))
    exact (Goes.note _ _).bind (Goes.pure t _)

/-- **The operators read what was written**: reading into a fresh object parses the bytes of a
value within the limits as that value. -/
theorem Ty.read_bytes (a : ALIGN_BASE) (t : Ty) (x : t.Val) (h : t.Admissible a x) :
    Parses a (t.read t.fresh) (t.bytes a x) x := by
  induction t with
  | scalar t => exact scalar_parses a t x _
  | string => exact string_parses a _ (Nat.lt_of_lt_of_le h (Nat.sub_le _ _))
  | scalars t => exact scalars_parses a t x _ h
  | vector t ih =>
    exact vector_parses x h.1 (fun y hy => ih y (h.2 y hy)) fun y _ => t.headLen_le_length_bytes a y
  | map k v ihk ihv =>
    exact map_parses x h.1 fun e he => ⟨ihk e.1 (h.2 e he).1, ihv e.2 (h.2 e he).2⟩
  | unorderedSet t ih => exact unorderedSet_parses x h.1 fun y hy => ih y (h.2 y hy)

/-! ### Enumerations -/

/-- The value of an enumeration fits an `int`, as every value does whose underlying type is no
wider. -/
def EnumType.FitsInt (e : EnumType) (v : e.Val) : Prop :=
  e.size = 8 → -2 ^ 31 ≤ v.toInt ∧ v.toInt < 2 ^ 31

/-- Of a value of 64 bits the conversion to `int` keeps the 32 low bits. -/
theorem signExtend_toInt_eq_iff (signed : Bool) (v : BitVec 64) :
    BitVec.signExtend 64 (if signed then v.signExtend 32 else v.setWidth 32) = v ↔
      -2 ^ 31 ≤ v.toInt ∧ v.toInt < 2 ^ 31 := by
  have hlow : (if signed then v.signExtend 32 else v.setWidth 32) = v.setWidth 32 := by
    cases signed <;> simp [BitVec.signExtend_eq_setWidth_of_le]
  rw [hlow, ← BitVec.toInt_inj, BitVec.toInt_signExtend_of_le (by omega), BitVec.toInt_setWidth,
    BitVec.toInt_eq_toNat_bmod]
  have hlt := v.isLt
  simp only [Int.bmod]
  omega

/-- What arrives of an enumeration value is the value exactly if it fits an `int`. -/
theorem EnumType.ofInt_toInt_iff (e : EnumType) (v : e.Val) :
    e.ofInt (e.toInt v) = v ↔ e.FitsInt v := by
  obtain ⟨size, signed, valid⟩ := e
  have hsmall : ∀ n, n ≤ 32 → ∀ w : BitVec n,
      BitVec.signExtend n (if signed then w.signExtend 32 else w.setWidth 32) = w := by
    intro n hn w
    cases signed <;> ext i hi <;>
      simp [BitVec.getElem_signExtend, BitVec.getElem_setWidth] <;> grind
  rcases valid with rfl | rfl | rfl | rfl
  · exact iff_of_true (hsmall 8 (by decide) v) fun h => nomatch h
  · exact iff_of_true (hsmall 16 (by decide) v) fun h => nomatch h
  · exact iff_of_true (hsmall 32 (by decide) v) fun h => nomatch h
  · exact (signExtend_toInt_eq_iff signed v).trans ⟨fun h _ => h, fun h => h rfl⟩

/-- An enumeration is read as what the conversion to `int` has left of it. -/
theorem enum_parses (a : ALIGN_BASE) (e : EnumType) (v cur : e.Val) :
    Parses a (Reader.enum e cur) ((Ty.scalar .int).bytes a (e.toInt v)) (e.ofInt (e.toInt v)) := by
  intro s hs
  refine (scalar_parses a .int (e.toInt v) _ s hs).bind (Goes.state ?_)
  have hflag : (s.moved ((Ty.scalar .int).bytes a (e.toInt v)).length).mFlag = true := hs.flag
  rw [hflag, if_pos rfl]
  exact Goes.pure _ _

/-! ### Whole buffers -/

/-- The three codes at the start of a buffer. -/
theorem getCode_image (a : ALIGN_BASE) (body : List UInt8) {idx code : Nat}
    (hidx : [HEAD_CTRL_CODE, a.offset, bodyStart a + body.length][idx]? = some code)
    (hcode : code < 2 ^ 32) (s : UbseDeSerialization) :
    Goes (Reader.getCode (image a body) idx) s code s := by
  have himage : image a body = Bytes.ofNat headSize HEAD_CTRL_CODE ++
      (Bytes.ofNat headSize a.offset ++ (Bytes.ofNat headSize (bodyStart a + body.length) ++
        (List.replicate (bodyStart a - 12) 0 ++ body))) := by
    have hcodes : (Bytes.ofNat headSize HEAD_CTRL_CODE ++ Bytes.ofNat headSize a.offset ++
        Bytes.ofNat headSize (bodyStart a + body.length)).length = 12 := by
      simp only [List.length_append, Bytes.length_ofNat]
      rfl
    rw [image, header, padTo, hcodes]
    simp only [List.append_assoc]
  have htake : ((image a body).drop (idx * headSize)).take headSize = Bytes.ofNat headSize code := by
    have hlen : ∀ x, (Bytes.ofNat headSize x).length = headSize := Bytes.length_ofNat headSize
    rw [himage]
    rcases idx with _ | _ | _ | idx
    · obtain rfl := Option.some.inj hidx
      rw [Nat.zero_mul, List.drop_zero]
      exact List.take_left' (hlen _)
    · obtain rfl := Option.some.inj hidx
      rw [Nat.zero_add, Nat.one_mul, List.drop_left' (hlen _)]
      exact List.take_left' (hlen _)
    · obtain rfl := Option.some.inj hidx
      rw [Nat.zero_add, Nat.two_mul, ← List.drop_drop, List.drop_left' (hlen _), List.drop_left' (hlen _)]
      exact List.take_left' (hlen _)
    · simp at hidx
  refine (Goes.note _ s).bind ?_
  rw [htake, Bytes.toNat_ofNat_of_lt (hcode.trans_eq rfl)]
  exact Goes.pure code s

/-- A buffer that was handed out is taken. -/
theorem set_image (a : ALIGN_BASE) {body : List UInt8} (hdvd : a.base ∣ body.length)
    (hlen : (image a body).length < MAX_CAPACITY) :
    Goes (Reader.set (image a body)) .fresh ()
      { mBuf := image a body, mPos := bodyStart a, mFlag := true,
        mAlignOffset := a.offset } := by
  obtain ⟨hstart, hge, _⟩ := bodyStart_spec a
  have hoff := a.offset_le
  have hlen' : (image a body).length = bodyStart a + body.length := length_image a body
  have hmax : MAX_CAPACITY = 2 ^ 24 := rfl
  refine operator_goes (Goes.state ?_)
  have hvalid : ¬(!UbseDeSerialization.fresh.mBuf.isEmpty ∨
      (image a body).length < headSize * 3 ∨ (image a body).length ≥ MAX_CAPACITY) := by
    have hempty : (!UbseDeSerialization.fresh.mBuf.isEmpty) = false := rfl
    rw [hempty, hlen']
    rw [hlen'] at hlen
    have hthree : headSize * 3 = 12 := rfl
    simp only [Bool.false_eq_true, false_or]
    omega
  rw [if_neg hvalid]
  refine (getCode_image a body rfl (by decide) _).bind ?_
  rw [if_neg (fun h => h rfl)]
  refine (getCode_image a body rfl (by omega) _).bind ?_
  refine (Goes.change _ _).bind ((Goes.note _ _).bind ?_)
  have halign : (!isValidAlign ((a.offset + 1) % 2 ^ 32)) = false := by cases a <;> rfl
  rw [halign, if_neg Bool.false_ne_true]
  refine (getCode_image a body rfl (by omega) _).bind ?_
  have hmul : ¬(bodyStart a + body.length ≠ (image a body).length ∨
      (bodyStart a + body.length) % (a.offset + 1) ≠ 0) := by
    rw [hlen']
    have hzero := Nat.mod_eq_zero_of_dvd (Nat.dvd_add hstart hdvd)
    exact not_or.mpr ⟨fun h => h rfl, fun h => h hzero⟩
  rw [if_neg hmul]
  exact (alignTo_goes (a := a) rfl _).bind (Goes.change _ _)

/-- The bytes written into a buffer stand at the position of a deserializer over it. -/
theorem ofBuffer_image (a : ALIGN_BASE) {body : List UInt8} (hdvd : a.base ∣ body.length)
    (hlen : (image a body).length < MAX_CAPACITY) :
    At a body (.ofBuffer (image a body)) ∧
      (UbseDeSerialization.ofBuffer (image a body)).mBuf = image a body ∧
      (UbseDeSerialization.ofBuffer (image a body)).mPos = bodyStart a := by
  have hset : UbseDeSerialization.ofBuffer (image a body) = _ :=
    congrArg Prod.snd (set_image a hdvd hlen)
  rw [hset]
  refine ⟨⟨rfl, rfl, (length_image a body).ge, ?_⟩, rfl, rfl⟩
  change (List.drop (bodyStart a) (image a body)).take body.length = body
  rw [image, List.drop_left' (length_header a _), List.take_length]

/-- A deserializer that is fine and has read its buffer to the end. -/
def UbseDeSerialization.AtEnd (s : UbseDeSerialization) : Prop :=
  s.mFlag = true ∧ s.mPos = s.mBuf.length

/-- The values that arrive: of an enumeration, what the conversion to `int` has left of it. -/
def Shape.received : (sh : Shape) → sh.Val → sh.Val
  | done, _ => ()
  | get _ rest, v => (v.1, rest.received v.2)
  | enum e rest, v => (e.ofInt (e.toInt v.1), rest.received v.2)
  | nest _ kid rest, v => (kid.received v.1, rest.received v.2)

/-- A nested deserializer is opened over the payload and stands at what was written into it. -/
theorem openKid_goes (a b : ALIGN_BASE) {body : List UInt8} (hdvd : b.base ∣ body.length)
    (hlen : (image b body).length < ONCE_LIMIT_LEN)
    (hs : At a (block a NEST_CTRL_CODE (image b body)) s) :
    Goes Reader.openKid s (.ofBuffer (image b body))
      (s.moved (block a NEST_CTRL_CODE (image b body)).length) := by
  have hlim : ONCE_LIMIT_LEN < MAX_CAPACITY := by decide
  obtain ⟨hkid, _⟩ := ofBuffer_image b hdvd (hlen.trans hlim)
  refine (get_goes (by decide) hlen hs).bind ?_
  have hpayload := hs.payload (Nat.le_refl _)
  rw [List.take_length] at hpayload
  refine (fetch_goes _ _ _).bind ?_
  rw [moved_mBuf, hpayload]
  refine (Goes.note _ _).bind ?_
  rw [hkid.flag, if_pos rfl]
  exact Goes.pure _ _

/-- Reading a sequence parses its bytes, and leaves every nested deserializer at its end. -/
theorem Shape.read_bytes (a : ALIGN_BASE) (sh : Shape) (v : sh.Val) (h : sh.Admissible a v) :
    ∃ kids, (∀ kid ∈ kids, kid.AtEnd) ∧
      Parses a (sh.read sh.fresh) (sh.bytes a v) (sh.received v, kids) := by
  induction sh generalizing a with
  | done => exact ⟨[], fun kid hkid => absurd hkid List.not_mem_nil, Parses.pure _⟩
  | get t rest ih =>
    obtain ⟨kids, hkids, hrest⟩ := ih a v.2 h.2
    exact ⟨kids, hkids, (t.read_bytes a v.1 h.1).bind (hrest.map _)⟩
  | enum e rest ih =>
    obtain ⟨kids, hkids, hrest⟩ := ih a v.2 h
    exact ⟨kids, hkids, (enum_parses a e v.1 _).bind (hrest.map _)⟩
  | nest b kid rest ihk ih =>
    obtain ⟨inner, hinner, hkid⟩ := ihk b v.1 h.1.1
    obtain ⟨outer, houter, hrest⟩ := ih a v.2 h.2
    have hdvd := kid.dvd_length_bytes b v.1 h.1.1
    have hlim : ONCE_LIMIT_LEN < MAX_CAPACITY := by decide
    obtain ⟨hat, hbuf, hpos⟩ := ofBuffer_image b hdvd (h.1.2.trans hlim)
    have hrun := hkid _ hat
    rw [Goes] at hrun
    generalize hde : UbseDeSerialization.ofBuffer (image b (kid.bytes b v.1)) = de at *
    refine ⟨(de.moved (kid.bytes b v.1).length :: inner) ++ outer, ?_, ?_⟩
    · have hend : (de.moved (kid.bytes b v.1).length).AtEnd := by
        refine ⟨hat.flag, ?_⟩
        rw [moved_mPos, moved_mBuf, hpos, hbuf, length_image]
      intro k hk
      rcases List.mem_append.mp hk with hk | hk
      · rcases List.mem_cons.mp hk with rfl | hk
        · exact hend
        · exact hinner k hk
      · exact houter k hk
    · refine Parses.bind (x := de) (fun s hs => hde ▸ openKid_goes a b hdvd h.1.2 hs) ?_
      simp only [fresh, hrun]
      intro s hs
      exact (Goes.note _ s).bind ((hrest s hs).bind (Goes.pure _ _))

/-- The enumeration values of a sequence fit an `int`. -/
def Shape.EnumsFitInt : (sh : Shape) → sh.Val → Prop
  | done, _ => True
  | get _ rest, v => rest.EnumsFitInt v.2
  | enum e rest, v => e.FitsInt v.1 ∧ rest.EnumsFitInt v.2
  | nest _ kid rest, v => kid.EnumsFitInt v.1 ∧ rest.EnumsFitInt v.2

theorem Shape.received_eq_iff (sh : Shape) (v : sh.Val) :
    sh.received v = v ↔ sh.EnumsFitInt v := by
  induction sh with
  | done => exact iff_of_true rfl trivial
  | get t rest ih =>
    rw [received, Prod.ext_iff]
    exact (and_iff_right rfl).trans (ih v.2)
  | enum e rest ih =>
    rw [received, Prod.ext_iff]
    exact and_congr (e.ofInt_toInt_iff v.1) (ih v.2)
  | nest b kid rest ihk ih =>
    rw [received, Prod.ext_iff]
    exact and_congr (ihk v.1) (ih v.2)

/-- Reading into fresh objects the buffer that a sequence of writes has filled. -/
def Shape.readBack (a : ALIGN_BASE) (sh : Shape) (v : sh.Val) :
    (sh.Val × List UbseDeSerialization) × UbseDeSerialization :=
  (sh.read sh.fresh (.ofBuffer (sh.write (.new a) v).getBuffer)).1

/-- What is read back of a sequence of writes that `Check()` accepts. -/
theorem Shape.readBack_spec (a : ALIGN_BASE) (sh : Shape) (v : sh.Val)
    (h : (sh.write (.new a) v).mFlag = true) :
    (sh.readBack a v).1.1 = sh.received v ∧ (∀ kid ∈ (sh.readBack a v).1.2, kid.AtEnd) ∧
      (sh.readBack a v).2.AtEnd := by
  obtain ⟨hadm, hbuf, hlen⟩ := sh.getBuffer_write a v h
  obtain ⟨kids, hkids, hparses⟩ := sh.read_bytes a v hadm
  obtain ⟨hat, hmBuf, hmPos⟩ := ofBuffer_image a (sh.dvd_length_bytes a v hadm) hlen
  have hrun := hparses _ hat
  rw [Goes] at hrun
  rw [readBack, hbuf]
  generalize UbseDeSerialization.ofBuffer (image a (sh.bytes a v)) = de at *
  rw [hrun]
  refine ⟨rfl, hkids, hat.flag, ?_⟩
  rw [moved_mPos, moved_mBuf, hmPos, hmBuf, length_image]

/-- **The round trip**: for every sequence of writes that `Check()` accepts, reading the buffer
with the same sequence of reads into fresh objects succeeds, gives back the values and ends at
the end of the buffer, exactly if every enumeration value that was written fits an `int`. -/
theorem Shape.readBack_iff (a : ALIGN_BASE) (sh : Shape) (v : sh.Val)
    (h : (sh.write (.new a) v).mFlag = true) :
    ((sh.readBack a v).1.1 = v ∧ (∀ kid ∈ (sh.readBack a v).1.2, kid.AtEnd) ∧
      (sh.readBack a v).2.AtEnd) ↔ sh.EnumsFitInt v := by
  obtain ⟨hval, hkids, hend⟩ := sh.readBack_spec a v h
  constructor
  · rintro ⟨hback, -, -⟩
    exact (sh.received_eq_iff v).mp (hval.symm.trans hback)
  · intro hfit
    exact ⟨hval.trans ((sh.received_eq_iff v).mpr hfit), hkids, hend⟩

/-- An enumeration over `int64_t`. -/
def wideEnum : EnumType := ⟨8, true, by decide⟩

/-- A map, and a nested serializer with an enumeration value. -/
def sampleShape : Shape :=
  .get (.map .string (.vector .string)) (.nest .OFFSET_BASE_8 (.enum wideEnum .done) .done)

def sampleVal : sampleShape.Val :=
  (⟨[([65], [[66], []])], by decide⟩, ((7 : BitVec 64), ()), ())

theorem readBack_sample :
    ((sampleShape.readBack .OFFSET_BASE_4 sampleVal).1.1 = sampleVal ∧
      (∀ kid ∈ (sampleShape.readBack .OFFSET_BASE_4 sampleVal).1.2, kid.AtEnd) ∧
        (sampleShape.readBack .OFFSET_BASE_4 sampleVal).2.AtEnd) ↔
      sampleShape.EnumsFitInt sampleVal :=
  Shape.readBack_iff .OFFSET_BASE_4 sampleShape sampleVal (by decide +kernel)

/-- An enumeration value of 2³¹ arrives as -2³¹. -/
theorem not_readBack :
    ¬∀ (a : ALIGN_BASE) (sh : Shape) (v : sh.Val), (sh.write (.new a) v).mFlag = true →
      (sh.readBack a v).1.1 = v ∧ (∀ kid ∈ (sh.readBack a v).1.2, kid.AtEnd) ∧
        (sh.readBack a v).2.AtEnd := by
  intro h
  have hback := (h .OFFSET_BASE_4 (.enum wideEnum .done) ((2 ^ 31 : BitVec 64), ())
    (by decide +kernel)).1
  revert hback
  decide +kernel

end Serde

end UbsEngine
