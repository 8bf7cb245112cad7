import Mathlib.Data.Vector.Basic
import UbsEngine.Serde.RoundTrip

/-!
# Serializing by member lists

Classes are not serialized by hand. `SerializeField` and `DeSerializeField` are overloaded: there
is a pair of them for the arithmetic types, strings and enumerations, for containers of anything
that has a pair, and for every class that has registered a list of its members. The encoder and
the decoder of a container are written apart from each other, with limits of their own.

The overloads of a type are an instance of `UbsEngine.Serde.AutoSerial`. An instance also says
what the decoder makes of the bytes of a value, given the object it decodes into, and carries the
proof of it. A member that is not on the list of its class keeps what it was, so that this is not
always the value that was encoded; where it is, the type is `UbsEngine.Serde.Faithful`.
-/

namespace UbsEngine

namespace Serde

open Recorded Reader UbseDeSerialization

/-! ### Steps that may fail -/

/-- An encoder that answers whether it went well. -/
abbrev Encoder := UbseSerialization → Bool × UbseSerialization

/-- `return out.Check()` after a write. -/
def Encoder.check (f : UbseSerialization → UbseSerialization) : Encoder :=
  fun out => ((f out).mFlag, f out)

/-- `f && g`. -/
def Encoder.andThen (f g : Encoder) : Encoder :=
  fun out => if (f out).1 then g (f out).2 else (false, (f out).2)

/-- If both steps go well, so does the first. -/
theorem Encoder.andThen_good {f g : Encoder} {s : UbseSerialization}
    (h : (f.andThen g s).1 = true) : (f s).1 = true ∧ f.andThen g s = g (f s).2 := by
  by_cases hf : (f s).1 = true
  · exact ⟨hf, if_pos hf⟩
  · rw [Encoder.andThen, if_neg hf] at h
    exact absurd h Bool.false_ne_true

/-- A loop that ends at the first element that is not encoded. -/
def Encoder.all {α : Type} (f : α → Encoder) : List α → Encoder
  | [] => fun out => (true, out)
  | x :: l => (f x).andThen (all f l)

namespace Reader

variable {α β : Type}

/-- `return in.Check()` after a read. -/
def check (f : Reader α) : Reader (Bool × α) := do
  let x ← f
  let s ← state
  pure (s.mFlag, x)

/-- `f && g`, with what is left of the object if `f` fails. -/
def andThen (f : Reader (Bool × α)) (k : α → β) (g : α → Reader (Bool × β)) :
    Reader (Bool × β) := do
  let r ← f
  if r.1 then g r.2 else pure (false, k r.2)

/-- A loop over the elements of an array that ends at the first that is not decoded. -/
def all (f : α → Reader (Bool × α)) :
    (l : List α) → Reader (Bool × { l' : List α // l'.length = l.length })
  | [] => pure (true, ⟨[], rfl⟩)
  | x :: l =>
    andThen (f x) (fun y => ⟨y :: l, rfl⟩) fun y => do
      let r ← all f l
      pure (r.1, ⟨y :: r.2.1, congrArg Nat.succ r.2.2⟩)

end Reader

/-! ### What arrives -/

/-- The encoder appends bytes *if it goes well*: as many as `unit` at least, and such that the
reader does with them what `R` says. It never sets the flag again, and does not answer that it
went well after clearing it. -/
def Transfers (a : ALIGN_BASE) (f : Encoder) (unit : Nat) (R : List UInt8 → Prop) : Prop :=
  ∀ s : UbseSerialization, s.mAlignOffset = a.offset →
    (f s).2.mAlignOffset = a.offset ∧
      ((f s).1 = true → (f s).2.mFlag = s.mFlag ∧
        (s.mFlag = true → (s.mLen < MAX_CAPACITY → (f s).2.mLen < MAX_CAPACITY) ∧
          ∃ bs, (f s).2.mBuf = s.mBuf ++ bs ∧ unit ≤ bs.length ∧ a.base ∣ bs.length ∧
            (bs.length < MAX_CAPACITY → R bs)))

namespace Transfers

variable {a : ALIGN_BASE} {f g : Encoder} {m n : Nat} {P Q R : List UInt8 → Prop}

/-- A single write. -/
theorem check {k : UbseSerialization → UbseSerialization} {A : Prop} {bs : List UInt8}
    (hk : Writes a k A bs) (hlen : n ≤ bs.length) (hdvd : A → a.base ∣ bs.length)
    (hR : A → R bs) : Transfers a (Encoder.check k) n R := by
  intro s hs
  obtain ⟨hoff, hwrites⟩ := hk s hs
  refine ⟨hoff, fun hgood => ?_⟩
  obtain ⟨hflag, hA, hbuf, hlt⟩ := hwrites hgood
  exact ⟨Eq.trans hgood hflag.symm, fun _ => ⟨hlt, bs, hbuf, hlen, hdvd hA, fun _ => hR hA⟩⟩

/-- Nothing is written. -/
theorem done (hR : R []) : Transfers a (fun s => (true, s)) 0 R :=
  fun _ hs => ⟨hs, fun _ => ⟨rfl, fun _ => ⟨fun h => h, [], (List.append_nil _).symm,
    Nat.zero_le _, Nat.dvd_zero _, fun _ => hR⟩⟩⟩

/-- One step after the other. -/
theorem andThen (hf : Transfers a f m P) (hg : Transfers a g n Q)
    (hR : ∀ bs cs, (bs ++ cs).length < MAX_CAPACITY → P bs → Q cs → R (bs ++ cs)) :
    Transfers a (f.andThen g) (m + n) R := by
  intro s hs
  obtain ⟨hoff, hfirst⟩ := hf s hs
  obtain ⟨hoff', hsecond⟩ := hg (f s).2 hoff
  by_cases h : (f s).1 = true
  · have hrun : f.andThen g s = g (f s).2 := if_pos h
    obtain ⟨hflag, hgood⟩ := hfirst h
    rw [hrun]
    refine ⟨hoff', fun h' => ?_⟩
    obtain ⟨hflag', hgood'⟩ := hsecond h'
    refine ⟨hflag'.trans hflag, fun hset => ?_⟩
    obtain ⟨hlt, bs, hbuf, hm, hbs, hP⟩ := hgood hset
    obtain ⟨hlt', cs, hbuf', hn, hcs, hQ⟩ := hgood' (hflag.trans hset)
    refine ⟨fun hmax => hlt' (hlt hmax), bs ++ cs, ?_, ?_, ?_, fun hmax => ?_⟩
    · rw [hbuf', hbuf, List.append_assoc]
    · rw [List.length_append]
      exact Nat.add_le_add hm hn
    · rw [List.length_append]
      exact Nat.dvd_add hbs hcs
    · have hmax' := hmax
      rw [List.length_append] at hmax'
      exact hR bs cs hmax (hP (by omega)) (hQ (by omega))
  · have hrun : f.andThen g s = (false, (f s).2) := if_neg h
    rw [hrun]
    exact ⟨hoff, fun h' => absurd h' Bool.false_ne_true⟩

/-- A write that is checked only at the end of what follows it. -/
theorem checkedLast {k : UbseSerialization → UbseSerialization} {A : Prop} {bs : List UInt8}
    (hk : Writes a k A bs) (hlen : m ≤ bs.length) (hdvd : A → a.base ∣ bs.length)
    (hf : Transfers a f n Q)
    (hR : ∀ cs, (bs ++ cs).length < MAX_CAPACITY → A → Q cs → R (bs ++ cs)) :
    Transfers a (fun s => f.andThen (Encoder.check fun s => s) (k s)) (m + n) R := by
  intro s hs
  obtain ⟨hoff, hwrites⟩ := hk s hs
  have hid : Transfers a (Encoder.check fun s => s) 0 fun cs => cs = [] :=
    check Writes.id (Nat.zero_le _) (fun _ => Nat.dvd_zero _) fun _ => rfl
  obtain ⟨hoff', hrest⟩ := hf.andThen hid (R := Q) (fun cs ds _ hcs hds => by
    rw [hds, List.append_nil]; exact hcs) (k s) hoff
  refine ⟨hoff', fun hgood => ?_⟩
  obtain ⟨hflag', hgood'⟩ := hrest hgood
  -- the answer is the flag, so that the first write has not cleared it
  have hset : (f.andThen (Encoder.check fun s => s) (k s)).2.mFlag = true := by
    rw [(Encoder.andThen_good hgood).2]
    exact (congrArg Prod.fst (Encoder.andThen_good hgood).2).symm.trans hgood
  have hmid : (k s).mFlag = true := hflag'.symm.trans hset
  obtain ⟨hflag, hA, hbuf, hlt⟩ := hwrites hmid
  obtain ⟨hlt', cs, hbuf', hn, hcs, hQ⟩ := hgood' hmid
  refine ⟨hset.trans hflag.symm, fun _ => ⟨fun hmax => hlt' (hlt hmax), bs ++ cs, ?_, ?_, ?_,
    fun hmax => ?_⟩⟩
  · rw [hbuf', hbuf, List.append_assoc]
  · rw [List.length_append]
    omega
  · rw [List.length_append]
    exact Nat.dvd_add (hdvd hA) hcs
  · have hmax' := hmax
    rw [List.length_append] at hmax'
    exact hR cs hmax hA (hQ (by omega))

theorem mono (hf : Transfers a f m P) (hn : n ≤ m)
    (hR : ∀ bs, m ≤ bs.length → bs.length < MAX_CAPACITY → P bs → R bs) :
    Transfers a f n R := by
  intro s hs
  obtain ⟨hoff, hgood⟩ := hf s hs
  refine ⟨hoff, fun h => ?_⟩
  obtain ⟨hflag, hrest⟩ := hgood h
  refine ⟨hflag, fun hset => ?_⟩
  obtain ⟨hlt, bs, hbuf, hm, hdvd, hP⟩ := hrest hset
  exact ⟨hlt, bs, hbuf, hn.trans hm, hdvd, fun hmax => hR bs hm hmax (hP hmax)⟩

/-- A loop: what is to be done with the bytes of a list is put together from what is done with
those of its first element and of the rest. -/
theorem all {α : Type} {f : α → Encoder} {P : α → List UInt8 → Prop}
    {R : List α → List UInt8 → Prop} (l : List α) (hf : ∀ x ∈ l, Transfers a (f x) n (P x))
    (hnil : R [] [])
    (hcons : ∀ x l bs cs, P x bs → R l cs → R (x :: l) (bs ++ cs)) :
    Transfers a (Encoder.all f l) (l.length * n) (R l) := by
  induction l with
  | nil => rw [List.length_nil, Nat.zero_mul]; exact done hnil
  | cons x l ih =>
    have hrest := ih fun y hy => hf y (List.mem_cons_of_mem x hy)
    rw [List.length_cons, Nat.succ_mul, Nat.add_comm]
    exact (hf x List.mem_cons_self).andThen hrest fun bs cs _ => hcons x l bs cs

end Transfers

/-! ### Reading step by step -/

section Reading

variable {a : ALIGN_BASE} {α β : Type} {f : Reader α} {x : α} {bs cs : List UInt8}

theorem check_parses (hf : Parses a f bs x) : Parses a (Reader.check f) bs (true, x) := by
  intro s hs
  have hflag : (s.moved bs.length).mFlag = true := hs.flag
  refine (hf s hs).bind (Goes.state ?_)
  rw [hflag]
  exact Goes.pure _ _

theorem andThen_parses {f : Reader (Bool × α)} {k : α → β} {g : α → Reader (Bool × β)} {y : β}
    (hf : Parses a f bs (true, x)) (hg : Parses a (g x) cs (true, y)) :
    Parses a (Reader.andThen f k g) (bs ++ cs) (true, y) := by
  refine hf.bind ?_
  rw [if_pos rfl]
  exact hg

/-- An array is decoded element by element. -/
theorem all_parses {read : α → Reader (Bool × α)} {y : α} {l cur : List α}
    (hread : ∀ c, Parses a (read c) bs (true, y))
    (hrest : ∀ cur : List α, (h : l.length = cur.length) →
      Parses a (Reader.all read cur) cs (true, ⟨l, h⟩))
    (h : (y :: l).length = cur.length) :
    Parses a (Reader.all read cur) (bs ++ cs) (true, ⟨y :: l, h⟩) := by
  cases cur with
  | nil => exact absurd h (Nat.succ_ne_zero _)
  | cons c cur =>
    have hlast := (hrest cur (Nat.succ.inj h)).map
      fun r : Bool × { l' : List α // l'.length = cur.length } =>
        (r.1, (⟨y :: r.2.1, congrArg Nat.succ r.2.2⟩ : { l' : List α // l'.length = cur.length + 1 }))
    exact andThen_parses (hread c) hlast

end Reading

/-- The memory of an object read as `addr_len`: what is read replaces the beginning of it. -/
def Reader.addrLen (t : ScalarType) (mem : List UInt8) : Reader (List UInt8) := do
  let o ← get t.typePointerId
  match o with
  | none => pure mem
  | some (addr, len) =>
    if len % t.size ≠ 0 ∨ mem.length < len then do
      fail
      pure mem
    else do
      let bs ← fetch addr len
      pure (bs ++ mem.drop len)

theorem addrLen_parses (a : ALIGN_BASE) (t : ScalarType) {payload mem : List UInt8}
    (hlen : payload.length < ONCE_LIMIT_LEN) (hdvd : payload.length % t.size = 0)
    (hmem : mem.length = payload.length) :
    Parses a (Reader.addrLen t mem) (block a t.typePointerId payload) payload := by
  intro s hs
  have hid : t.typePointerId < 256 := by cases t <;> decide
  refine (get_goes hid hlen hs).bind ?_
  have hfit : ¬(payload.length % t.size ≠ 0 ∨ mem.length < payload.length) := by omega
  have hbytes := hs.payload (Nat.le_refl _)
  rw [List.take_length] at hbytes
  have hfetch := fetch_goes (s.mPos + headLen a) payload.length
    (s.moved (block a t.typePointerId payload).length)
  rw [moved_mBuf, hbytes] at hfetch
  simp only [if_neg hfit]
  refine hfetch.bind ?_
  rw [← hmem, List.drop_length, List.append_nil]
  exact Goes.pure _ _

/-- A block is longer than its payload by a head block. -/
theorem le_length_block (a : ALIGN_BASE) (type : Nat) (payload : List UInt8) :
    4 + payload.length ≤ (block a type payload).length := by
  have hhead := (headLen_spec a).2.1
  rw [block, List.length_append, length_head, padTo, List.length_append]
  omega

/-! ### The overloads -/

/-- **The overloads of a type**, together with what the decoder makes of the bytes of a value. -/
class AutoSerial (α : Type) where
  SerializeField : α → Encoder
  /-- Decoding into an object. -/
  DeSerializeField : α → Reader (Bool × α)
  /-- The bytes that every value takes at least, whatever the alignment. -/
  unit : Nat
  /-- What the second object becomes when the first arrives in it. -/
  arrives : α → α → α
  carries (a : ALIGN_BASE) (v : α) : Transfers a (SerializeField v) unit fun bs =>
    ∀ cur, Parses a (DeSerializeField cur) bs (true, arrives v cur)

/-- Every member of the type is on the wire. -/
class Faithful (α : Type) [AutoSerial α] : Prop where
  arrives_eq (v cur : α) : AutoSerial.arrives v cur = v

namespace AutoSerial

/-- The arithmetic types. -/
instance scalar (t : ScalarType) : AutoSerial t.Val where
  SerializeField v := .check fun out => (Ty.scalar t).write out v
  DeSerializeField cur := Reader.check (Reader.scalar t cur)
  unit := 4 + t.size
  arrives v _ := v
  carries a v := by
    refine .check (Ty.write_spec a (.scalar t) v) ?_
      (Ty.dvd_length_bytes a (.scalar t) v) fun _ cur => check_parses (scalar_parses a t v cur)
    have hlen := le_length_block a t.typeId (ScalarType.toBytes v)
    rwa [ScalarType.length_toBytes] at hlen

instance (t : ScalarType) : Faithful t.Val := ⟨fun _ _ => rfl⟩

theorem string_transfers (a : ALIGN_BASE) (v : List UInt8) :
    Transfers a (.check fun out => Ty.string.write out v) 5 fun bs =>
      ∀ cur, Parses a (Reader.check (Reader.string cur)) bs (true, v) := by
  refine .check (Ty.write_spec a .string v) ?_ (Ty.dvd_length_bytes a .string v) fun h cur =>
    check_parses (string_parses a cur (Nat.lt_of_lt_of_le h (Nat.sub_le _ _)))
  have hlen := le_length_block a stringTypeId (v ++ [0])
  rw [List.length_append, List.length_singleton] at hlen
  rw [Ty.bytes]
  omega

/-- `std::string`. -/
instance string : AutoSerial (List UInt8) where
  SerializeField v := .check fun out => Ty.string.write out v
  DeSerializeField cur := Reader.check (Reader.string cur)
  unit := 5
  arrives v _ := v
  carries := string_transfers

instance : Faithful (List UInt8) := ⟨fun _ _ => rfl⟩

/-- Enumerations. The conversion to `int` loses nothing if the underlying type is no wider. -/
@[reducible] def enum (e : EnumType) (he : e.size ≠ 8) : AutoSerial e.Object where
  SerializeField v := .check fun out => out.scalar .int (e.toInt v.value)
  DeSerializeField cur := Reader.check do
    let x ← Reader.enum e cur.value
    pure ⟨x⟩
  unit := 8
  arrives v _ := v
  carries a v := by
    refine .check (Ty.write_spec a (.scalar .int) (e.toInt v.value))
      (le_length_block a ScalarType.int.typeId (ScalarType.toBytes (e.toInt v.value)))
      (Ty.dvd_length_bytes a (.scalar .int) (e.toInt v.value)) fun _ cur => check_parses ?_
    have hparses := enum_parses a e v.value cur.value
    rw [(e.ofInt_toInt_iff v.value).mpr fun h => absurd h he] at hparses
    exact hparses.map EnumType.Object.mk

/-- Types that are copied as the bytes of their objects (`is_raw_memcopy`). -/
@[reducible] def raw {α : Type} (size : Nat) (toBytes : α → List UInt8) (ofBytes : List UInt8 → α)
    (hsize : ∀ v, (toBytes v).length = size) (hlt : size < ONCE_LIMIT_LEN - 7)
    (hback : ∀ v, ofBytes (toBytes v) = v) : AutoSerial α where
  SerializeField v := .check fun out =>
    out.add (toBytes v) ScalarType.unsignedChar.typePointerId
  DeSerializeField cur := Reader.check do
    let mem ← Reader.addrLen .unsignedChar (toBytes cur)
    pure (ofBytes mem)
  unit := 4 + size
  arrives v _ := v
  carries a v := by
    have hoff := a.offset_le
    have hlen : (toBytes v).length < ONCE_LIMIT_LEN := by rw [hsize]; omega
    have hlim : ONCE_LIMIT_LEN < 2 ^ 63 := by decide
    refine .check (UbseSerialization.add_spec a (toBytes v) _) ?_
      (fun _ => dvd_length_block a _ (hlen.trans hlim)) fun _ cur => check_parses ?_
    · have hblock := le_length_block a ScalarType.unsignedChar.typePointerId (toBytes v)
      rwa [hsize] at hblock
    · have hmem : (toBytes cur).length = (toBytes v).length := (hsize cur).trans (hsize v).symm
      have hparses := addrLen_parses a .unsignedChar hlen (Nat.mod_one _) hmem
      have hmap := hparses.map ofBytes
      rwa [hback] at hmap

/-- Types that are packed into 16 bits (`is_bitfield`). -/
@[reducible] def bitfield {α : Type} (pack : α → ScalarType.unsignedShort.Val)
    (unpack : ScalarType.unsignedShort.Val → α) (hback : ∀ v, unpack (pack v) = v) :
    AutoSerial α where
  SerializeField v := .check fun out => (Ty.scalar .unsignedShort).write out (pack v)
  DeSerializeField cur :=
    Reader.andThen (Reader.check (Reader.scalar .unsignedShort (ScalarType.zero _)))
      (fun _ => cur) fun val => pure (true, unpack val)
  unit := 6
  arrives v _ := v
  carries a v := by
    refine .check (Ty.write_spec a (.scalar .unsignedShort) (pack v))
      (le_length_block a ScalarType.unsignedShort.typeId (ScalarType.toBytes (pack v)))
      (Ty.dvd_length_bytes a (.scalar .unsignedShort) (pack v)) fun _ cur => ?_
    have hparses := andThen_parses (k := fun _ => cur)
      (g := fun val => pure (true, unpack val))
      (check_parses (scalar_parses a .unsignedShort (pack v) (ScalarType.zero _)))
      (Parses.pure (true, unpack (pack v)))
    rwa [List.append_nil, hback] at hparses

/-! ### Containers -/

/-- A list whose elements are encoded one after the other. -/
theorem transfers_all {α : Type} [AutoSerial α] [Faithful α] (a : ALIGN_BASE) (l : List α) :
    Transfers a (Encoder.all SerializeField l) (l.length * unit α) fun bs =>
      ∀ cur, (h : l.length = cur.length) →
        Parses a (Reader.all DeSerializeField cur) bs (true, ⟨l, h⟩) := by
  refine Transfers.all l (P := fun x bs => ∀ cur, Parses a (DeSerializeField cur) bs (true, x))
    (R := fun l bs => ∀ cur, (h : l.length = cur.length) →
      Parses a (Reader.all DeSerializeField cur) bs (true, ⟨l, h⟩)) ?_ ?_ ?_
  · intro x _
    refine (carries a x).mono (Nat.le_refl _) fun bs _ _ hbs cur => ?_
    rw [← Faithful.arrives_eq x cur]
    exact hbs cur
  · intro cur h
    cases cur with
    | nil => exact Parses.pure _
    | cons c cur => exact absurd h.symm (Nat.succ_ne_zero _)
  · intro x l bs cs hx hl cur h
    exact all_parses hx hl h

/-- `std::vector`. -/
instance vector {α : Type} [AutoSerial α] [Faithful α] [Inhabited α] : AutoSerial (List α) where
  SerializeField v := fun out =>
    ((Encoder.all SerializeField v).andThen (.check fun out => out)) (out.arrayLenInsert v.length)
  DeSerializeField cur := do
    let n ← arrayLenCapture
    let s ← state
    if !s.mFlag ∨ n > ONCE_LIMIT_LEN then pure (false, cur)
    else do
      let r ← Reader.all DeSerializeField (resize default n cur)
      pure (r.1, r.2.1)
  unit := 4
  arrives v _ := v
  carries a v := by
    have hhead : ∀ len, 4 ≤ (head a ARRAY_CTRL_CODE len).length := fun len => by
      rw [length_head]; exact (headLen_spec a).2.1
    refine (Transfers.checkedLast (UbseSerialization.arrayLenInsert_spec a v.length)
      (hhead v.length) (fun _ => by rw [length_head]; exact (headLen_spec a).1)
      (transfers_all a v) fun cs _ hlen hcs cur => ?_).mono (Nat.le_add_right _ _)
      fun _ _ _ h => h
    refine (arrayLenCapture_parses a hlen).bind fun s hs => Goes.state ?_
    have hgood : ¬((!s.mFlag) = true ∨ v.length > ONCE_LIMIT_LEN) := by
      rw [hs.flag]
      exact not_or.mpr ⟨Bool.false_ne_true, Nat.not_lt.mpr (Nat.le_of_lt hlen)⟩
    have hresize : v.length = (resize default v.length cur).length := by
      rw [resize, List.length_append, List.length_take, List.length_replicate]
      omega
    rw [if_neg hgood]
    exact (hcs _ hresize s hs).bind (Goes.pure _ _)

instance {α : Type} [AutoSerial α] [Faithful α] [Inhabited α] : Faithful (List α) :=
  ⟨fun _ _ => rfl⟩

/-- `T[N]`. -/
instance array {α : Type} [AutoSerial α] [Faithful α] (n : Nat) :
    AutoSerial (List.Vector α n) where
  SerializeField v := Encoder.all SerializeField v.1
  DeSerializeField cur := do
    let r ← Reader.all DeSerializeField cur.1
    pure (r.1, ⟨r.2.1, r.2.2.trans cur.2⟩)
  unit := n * unit α
  arrives v _ := v
  carries a v := by
    have hlen : n * unit α ≤ v.1.length * unit α := by rw [v.2]
    exact (transfers_all a v.1).mono hlen fun bs _ _ hbs cur =>
      (hbs cur.1 (v.2.trans cur.2.symm)).map fun r =>
        (r.1, (⟨r.2.1, r.2.2.trans cur.2⟩ : List.Vector α n))

instance {α : Type} [AutoSerial α] [Faithful α] (n : Nat) : Faithful (List.Vector α n) :=
  ⟨fun _ _ => rfl⟩

/-- `v.size()`. -/
def sizeT (n : Nat) : ScalarType.unsignedLong.Val := ⟨BitVec.ofNat 64 n, fun h => nomatch h⟩

section Map

variable {K V : Type} [DecidableEq K] [Inhabited K] [Inhabited V] [AutoSerial K] [AutoSerial V]

/-- The loop of `DeSerializeField` of a map. -/
def mapFill : Nat → OrderedMap K V → Reader (Bool × OrderedMap K V)
  | 0, m => pure (true, m)
  | n + 1, m =>
    andThen (DeSerializeField (default : K)) (fun _ => m) fun key =>
      andThen (DeSerializeField (default : V)) (fun _ => m) fun value =>
        mapFill n (m.emplace key value)

/-- The entries of a map as they arrive. -/
def arrived (e : K × V) : K × V := (e.1, arrives e.2 default)

variable [Faithful K]

/-- Filling a part of a map with the rest of its entries. -/
theorem transfers_entries (a : ALIGN_BASE) (l : List (K × V)) :
    Transfers a (Encoder.all (fun e => (SerializeField e.1).andThen (SerializeField e.2)) l)
      (l.length * (unit K + unit V)) fun bs =>
        ∀ m n : OrderedMap K V, n.toList = m.toList ++ l.map arrived →
          Parses a (mapFill l.length m) bs (true, n) := by
  refine Transfers.all l
    (P := fun e bs => ∀ (g : K → V → Reader (Bool × OrderedMap K V)) cs m n,
      Parses a (g e.1 (arrives e.2 default)) cs (true, n) →
        Parses a (andThen (DeSerializeField default) (fun _ => m) fun key =>
          andThen (DeSerializeField default) (fun _ => m) (g key)) (bs ++ cs) (true, n))
    (R := fun l bs => ∀ m n : OrderedMap K V, n.toList = m.toList ++ l.map arrived →
      Parses a (mapFill l.length m) bs (true, n)) ?_ ?_ ?_
  · intro e _
    refine (carries a e.1).andThen (carries a e.2) fun bs cs _ hbs hcs g ds m n hrest => ?_
    have hkey := hbs default
    rw [Faithful.arrives_eq] at hkey
    rw [List.append_assoc]
    exact andThen_parses hkey (andThen_parses (hcs default) hrest)
  · intro m n h
    rw [List.map_nil, List.append_nil] at h
    rw [OrderedMap.ext h]
    exact Parses.pure _
  · intro e l bs cs he hl m n h
    exact he (fun key value => mapFill l.length (m.emplace key value)) cs m n
      (hl _ n (OrderedMap.append_emplace h))

/-- The entries of a map take more room than what the two limits leave between them. -/
class Bulky (V : Type) [AutoSerial V] : Prop where
  le_unit : MAX_CAPACITY ≤ ONCE_LIMIT_LEN * unit V

/-- `std::unordered_map`. -/
instance map [Bulky V] : AutoSerial (OrderedMap K V) where
  SerializeField m := (SerializeField (sizeT m.toList.length)).andThen
    (.all (fun e => (SerializeField e.1).andThen (SerializeField e.2)) m.toList)
  DeSerializeField cur :=
    andThen (DeSerializeField (ScalarType.zero .unsignedLong)) (fun _ => cur) fun n =>
      if n.bits.toNat > ONCE_LIMIT_LEN then pure (false, cur)
      else mapFill n.bits.toNat .empty
  unit := 12
  arrives m _ := m.mapValues fun v => arrives v default
  carries a m := by
    -- the encoder has no limit on the number of entries, but the buffer has one on their bytes
    have hentries := (transfers_entries a m.toList).mono (Nat.zero_le _)
      (R := fun bs => m.toList.length ≤ ONCE_LIMIT_LEN ∧
        Parses a (mapFill m.toList.length .empty) bs (true, m.mapValues fun v => arrives v default))
      fun bs hlen hmax hbs => by
        refine ⟨?_, hbs _ _ rfl⟩
        by_contra hmany
        have hbulk := Bulky.le_unit (V := V)
        have hmul : ONCE_LIMIT_LEN * unit V ≤ m.toList.length * (unit K + unit V) :=
          Nat.mul_le_mul (Nat.le_of_lt (Nat.lt_of_not_le hmany)) (Nat.le_add_left _ _)
        omega
    refine ((carries a (sizeT m.toList.length)).andThen hentries
      fun bs cs _ hsize hcs cur => ?_).mono (Nat.le_refl 12) fun _ _ _ h => h
    have hlim : ONCE_LIMIT_LEN < 2 ^ 64 := by decide
    have hbits : (sizeT m.toList.length).bits.toNat = m.toList.length :=
      (BitVec.toNat_ofNat _ _).trans (Nat.mod_eq_of_lt (hcs.1.trans_lt hlim))
    refine andThen_parses (hsize (ScalarType.zero .unsignedLong)) ?_
    have hback : arrives (sizeT m.toList.length) (ScalarType.zero .unsignedLong) =
      sizeT m.toList.length := rfl
    rw [hback, hbits, if_neg (Nat.not_lt.mpr hcs.1)]
    exact hcs.2

end Map

/-! ### Classes -/

/-- A member of a class, or its base class. -/
structure Member (σ : Type) where
  {τ : Type}
  [serial : AutoSerial τ]
  get : σ → τ
  set : τ → σ → σ

attribute [instance] Member.serial

section Members

variable {σ : Type}

/-- `(SerializeField(out, obj.*ptrs) && ...)`. -/
def SerializeMembers : List (Member σ) → σ → Encoder
  | [], _ => fun out => (true, out)
  | m :: ms, obj => (SerializeField (m.get obj)).andThen (SerializeMembers ms obj)

/-- `(DeSerializeField(in, obj.*ptrs) && ...)`. -/
def DeSerializeMembers : List (Member σ) → σ → Reader (Bool × σ)
  | [], obj => pure (true, obj)
  | m :: ms, obj =>
    andThen (DeSerializeField (m.get obj)) (fun x => m.set x obj) fun x =>
      DeSerializeMembers ms (m.set x obj)

/-- The least number of bytes that the members take. -/
def unitMembers : List (Member σ) → Nat
  | [] => 0
  | m :: ms => unit m.τ + unitMembers ms

/-- An object after the members of another have arrived in it. -/
def arrivesMembers : List (Member σ) → σ → σ → σ
  | [], _, cur => cur
  | m :: ms, obj, cur => arrivesMembers ms obj (m.set (arrives (m.get obj) (m.get cur)) cur)

theorem transfers_members (a : ALIGN_BASE) (ms : List (Member σ)) (obj : σ) :
    Transfers a (SerializeMembers ms obj) (unitMembers ms) fun bs =>
      ∀ cur, Parses a (DeSerializeMembers ms cur) bs (true, arrivesMembers ms obj cur) := by
  induction ms with
  | nil => exact Transfers.done fun cur => Parses.pure _
  | cons m ms ih =>
    exact (carries a (m.get obj)).andThen ih fun bs cs _ hm hms cur =>
      andThen_parses (hm (m.get cur)) (hms _)

end Members

/-- A class by the list of its members, its base class in front of them (`UBSE_SERIALIZE`). -/
@[reducible] def reflect {σ : Type} (ms : List (Member σ)) : AutoSerial σ where
  SerializeField := SerializeMembers ms
  DeSerializeField := DeSerializeMembers ms
  unit := unitMembers ms
  arrives := arrivesMembers ms
  carries a obj := transfers_members a ms obj

end AutoSerial

/-! ### Messages -/

/-- A message around an object. -/
structure UbseAutoSimpo (α : Type) where
  mErrCode : ScalarType.unsignedInt.Val
  simpoMesg : α

namespace UbseAutoSimpo

variable {α : Type} [AutoSerial α]

open AutoSerial

/-- The error code, then the object. -/
def Serialize (x : UbseAutoSimpo α) : Option (List UInt8) :=
  let r := (SerializeField x.mErrCode).andThen (SerializeField x.simpoMesg) (.new .OFFSET_BASE_4)
  if r.1 then some r.2.getBuffer else none

def decode (x : UbseAutoSimpo α) : Reader (Bool × UbseAutoSimpo α) :=
  andThen (DeSerializeField x.mErrCode) (fun code => { x with mErrCode := code }) fun code => do
    let r ← DeSerializeField x.simpoMesg
    pure (r.1, { mErrCode := code, simpoMesg := r.2 })

/-- The message after a buffer has been decoded into it. -/
def Deserialize (x : UbseAutoSimpo α) (mInputRawData : List UInt8) : Bool × UbseAutoSimpo α :=
  (x.decode (.ofBuffer mInputRawData)).1.1

/-- **What is serialized is deserialized**, into whatever message it is. -/
theorem deserialize_of_serialize {x : UbseAutoSimpo α} {buf : List UInt8}
    (h : x.Serialize = some buf) (y : UbseAutoSimpo α) :
    y.Deserialize buf = (true, ⟨x.mErrCode, arrives x.simpoMesg y.simpoMesg⟩) := by
  have htransfers := (carries .OFFSET_BASE_4 x.mErrCode).andThen
    (carries .OFFSET_BASE_4 x.simpoMesg) (R := fun bs => Parses .OFFSET_BASE_4 y.decode bs
      (true, ⟨x.mErrCode, arrives x.simpoMesg y.simpoMesg⟩)) fun bs cs _ hcode hmesg =>
    andThen_parses (hcode y.mErrCode) ((hmesg y.simpoMesg).map fun r =>
      (r.1, (⟨x.mErrCode, r.2⟩ : UbseAutoSimpo α)))
  obtain ⟨hoff, hgood⟩ := htransfers (.new .OFFSET_BASE_4) rfl
  rw [Serialize] at h
  by_cases hr : ((SerializeField x.mErrCode).andThen (SerializeField x.simpoMesg)
      (.new .OFFSET_BASE_4)).1 = true
  · rw [if_pos hr] at h
    obtain ⟨hflag, hset⟩ := hgood hr
    obtain ⟨hlt, bs, hbuf, _, hdvd, hparses⟩ := hset rfl
    have himage := UbseSerialization.getBuffer_eq hoff hbuf
    have hlen : (image .OFFSET_BASE_4 bs).length < MAX_CAPACITY := by
      have hmax := hlt (by decide)
      rw [UbseSerialization.mLen, hbuf, List.length_append] at hmax
      rw [length_image, ← UbseSerialization.mLen_new]
      exact hmax
    obtain ⟨hat, -, -⟩ := ofBuffer_image .OFFSET_BASE_4 hdvd hlen
    have hbody : bs.length < MAX_CAPACITY := by
      rw [length_image] at hlen
      omega
    rw [← Option.some.inj h, himage]
    exact congrArg Prod.fst (hparses hbody _ hat)
  · rw [if_neg hr] at h
    exact absurd h (by simp)

end UbseAutoSimpo

end Serde

end UbsEngine
