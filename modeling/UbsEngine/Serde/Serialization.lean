import UbsEngine.Serde.Format

/-!
# The serializer

`UbseSerialization` appends to a buffer that grows by doubling. Its operators check a flag
first and clear it when something does not fit, so that a program may write a whole sequence
and ask `Check()` once at the end. The model keeps the bytes written so far, the capacity, the
alignment offset and the flag; what lies behind the written bytes is zero, because buffers are
allocated with `new[]()`, and this is what the padding consists of.

The last theorem, `UbsEngine.Serde.Shape.write_spec`, says what `Check()` stands for: every
write of the sequence was within its limits, and the buffer holds exactly the bytes of the
sequence.
-/

namespace UbsEngine

namespace Serde

/-- A serializer. -/
structure UbseSerialization where
  /-- The `mLen_` bytes that have been written. -/
  mBuf : List UInt8
  mAlignOffset : Nat
  mCap : Nat
  mFlag : Bool
  deriving DecidableEq, Repr

namespace UbseSerialization

/-- `GetLength()`. -/
def mLen (s : UbseSerialization) : Nat := s.mBuf.length

def alignTo (s : UbseSerialization) (l : Nat) : Nat := Bytes.alignUp s.mAlignOffset l

/-- `UbseSerialization(align)`. -/
def new (align : ALIGN_BASE) : UbseSerialization :=
  let off := align.offset
  let len := Bytes.alignUp off (headSize * 3)
  { mBuf := List.replicate len 0
    mAlignOffset := off
    mCap := max (Bytes.alignUp off INIT_CAPACITY) len
    mFlag := true }

/-- The loop of `expandCapacity`. The capacity doubles, so that 24 turns reach every capacity
that is asked for. -/
def growCapacity (need : Nat) : Nat → Nat → Nat
  | 0, cap => cap
  | fuel + 1, cap =>
    if cap < need then
      growCapacity need fuel (if cap <<< 1 ≥ MAX_CAPACITY then MAX_CAPACITY - 1 else cap <<< 1)
    else cap

def expandCapacity (s : UbseSerialization) (len : Nat) : Bool × UbseSerialization :=
  if s.mLen + len ≥ MAX_CAPACITY then (false, { s with mFlag := false })
  else (true, { s with mCap := growCapacity (s.mLen + len) 24 s.mCap })

/-- Writing at the end of the buffer and moving the end by `n`. -/
def put (s : UbseSerialization) (n : Nat) (bs : List UInt8) : UbseSerialization :=
  { s with mBuf := s.mBuf ++ padTo n bs }

/-- Writing a head block: `writeTypeAndLen` and moving the end behind it. -/
def putHead (s : UbseSerialization) (type len : Nat) : UbseSerialization :=
  s.put (s.alignTo headSize) (Bytes.ofNat headSize (headCode type len))

/-- `operator<<` of an arithmetic type. -/
def scalar (t : ScalarType) (s : UbseSerialization) (param : t.Val) : UbseSerialization :=
  if !s.mFlag then s
  else
    match s.expandCapacity (s.alignTo headSize + s.alignTo t.size) with
    | (false, s) => s
    | (true, s) => (s.putHead t.typeId t.size).put (s.alignTo t.size) (ScalarType.toBytes param)

/-- `operator<<` of an `array_len_insert`. -/
def arrayLenInsert (s : UbseSerialization) (len : Nat) : UbseSerialization :=
  if !s.mFlag then s
  else if len ≥ ONCE_LIMIT_LEN then { s with mFlag := false }
  else
    match s.expandCapacity (s.alignTo headSize) with
    | (false, s) => s
    | (true, s) => s.putHead ARRAY_CTRL_CODE len

/-- A head block and the bytes after it. This is the tail that `add` and the operator for a
nested serializer have in common. -/
def putBlock (s : UbseSerialization) (type : Nat) (bs : List UInt8) : UbseSerialization :=
  match s.expandCapacity (s.alignTo headSize + s.alignTo bs.length) with
  | (false, s) => s
  | (true, s) =>
    let s' := s.putHead type bs.length
    -- `memcpy_s` fails if the bytes do not fit what remains of the capacity
    if bs.length > s'.mCap - s'.mLen then { s' with mFlag := false }
    else s'.put (s.alignTo bs.length) bs

def add (s : UbseSerialization) (bs : List UInt8) (type : Nat) : UbseSerialization :=
  if !s.mFlag then s
  else if bs.length = 0 ∨ bs.length ≥ ONCE_LIMIT_LEN - s.mAlignOffset then
    { s with mFlag := false }
  else s.putBlock type bs

/-- The bytes `GetBuffer()` hands out: it writes three codes at the start of the buffer. -/
def getBuffer (s : UbseSerialization) : List UInt8 :=
  Bytes.ofNat headSize HEAD_CTRL_CODE ++ Bytes.ofNat headSize s.mAlignOffset ++
    Bytes.ofNat headSize s.mLen ++ s.mBuf.drop (headSize * 3)

/-- `operator<<` of another serializer. -/
def nest (s kid : UbseSerialization) : UbseSerialization :=
  if !kid.mFlag then { s with mFlag := false }
  else if kid.mLen ≥ ONCE_LIMIT_LEN then { s with mFlag := false }
  else s.putBlock NEST_CTRL_CODE kid.getBuffer

end UbseSerialization

/-- `operator<<`. -/
def Ty.write : (t : Ty) → UbseSerialization → t.Val → UbseSerialization
  | scalar t, s, x => s.scalar t x
  | string, s, str => s.add (str ++ [0]) stringTypeId
  | scalars t, s, vec =>
    let s := s.arrayLenInsert vec.length
    if vec.isEmpty then s
    else s.add (vec.flatMap ScalarType.toBytes) t.vectorTypeId
  | vector t, s, vec => vec.foldl t.write (s.arrayLenInsert vec.length)
  | map k v, s, m =>
    m.toList.foldl (fun s e => v.write (k.write s e.1) e.2) (s.arrayLenInsert m.toList.length)
  | unorderedSet t, s, set => set.toList.foldl t.write (s.arrayLenInsert set.toList.length)

/-- A sequence of writes. The serializer of a nested one is made afresh, filled, and then
written as a whole. -/
def Shape.write : (sh : Shape) → UbseSerialization → sh.Val → UbseSerialization
  | done, s, _ => s
  | get t rest, s, v => rest.write (t.write s v.1) v.2
  | enum e rest, s, v => rest.write (s.scalar .int (e.toInt v.1)) v.2
  | nest align kid rest, s, v => rest.write (s.nest (kid.write (.new align) v.1)) v.2

/-! ### What a write does -/

/-- What a step of the writer does *if the flag is set after it*: then the flag was set before
it, some condition held, and certain bytes were appended. -/
def Writes (a : ALIGN_BASE) (f : UbseSerialization → UbseSerialization) (P : Prop)
    (bs : List UInt8) : Prop :=
  ∀ s : UbseSerialization, s.mAlignOffset = a.offset →
    (f s).mAlignOffset = a.offset ∧
      ((f s).mFlag = true → s.mFlag = true ∧ P ∧ (f s).mBuf = s.mBuf ++ bs ∧
        (s.mLen < MAX_CAPACITY → (f s).mLen < MAX_CAPACITY))

variable {a : ALIGN_BASE} {f g : UbseSerialization → UbseSerialization} {P Q : Prop}
  {bs cs : List UInt8}

namespace Writes

theorem id : Writes a (fun s => s) True [] :=
  fun s hs => ⟨hs, fun h => ⟨h, trivial, (List.append_nil s.mBuf).symm, fun hlt => hlt⟩⟩

/-- Two steps one after the other append both their bytes. -/
theorem comp (hf : Writes a f P bs) (hg : Writes a g Q cs) :
    Writes a (fun s => g (f s)) (P ∧ Q) (bs ++ cs) := by
  intro s hs
  obtain ⟨hoff, hfs⟩ := hf s hs
  obtain ⟨hoff', hgs⟩ := hg (f s) hoff
  refine ⟨hoff', fun hflag => ?_⟩
  obtain ⟨hmid, hQ, hbuf', hlt'⟩ := hgs hflag
  obtain ⟨hfirst, hP, hbuf, hlt⟩ := hfs hmid
  exact ⟨hfirst, ⟨hP, hQ⟩, by rw [hbuf', hbuf, List.append_assoc], fun h => hlt' (hlt h)⟩

theorem congr (hf : Writes a f P bs) (hPQ : P → Q) (hbs : P → bs = cs) : Writes a f Q cs := by
  intro s hs
  obtain ⟨hoff, hfs⟩ := hf s hs
  refine ⟨hoff, fun hflag => ?_⟩
  obtain ⟨hfirst, hP, hbuf, hlt⟩ := hfs hflag
  exact ⟨hfirst, hPQ hP, hbs hP ▸ hbuf, hlt⟩

/-- A loop over the elements of a container. -/
theorem foldl {α : Type} {f : UbseSerialization → α → UbseSerialization} {P : α → Prop}
    {bs : α → List UInt8} (l : List α) (hf : ∀ x ∈ l, Writes a (fun s => f s x) (P x) (bs x)) :
    Writes a (fun s => l.foldl f s) (∀ x ∈ l, P x) (l.flatMap bs) := by
  induction l with
  | nil => exact id.congr (fun _ x hx => absurd hx List.not_mem_nil) fun _ => rfl
  | cons x l ih =>
    have hrest := ih fun y hy => hf y (List.mem_cons_of_mem x hy)
    exact ((hf x List.mem_cons_self).comp hrest).congr
      (fun h => List.forall_mem_cons.mpr h) fun _ => List.flatMap_cons.symm

/-- A step that returns at once if the flag is cleared. -/
theorem guard (hf : Writes a f P bs) : Writes a (fun s => if !s.mFlag then s else f s) P bs := by
  intro s hs
  cases hflag : s.mFlag with
  | false =>
    simp only [hflag, Bool.not_false, if_true]
    exact ⟨hs, fun h => absurd h Bool.false_ne_true⟩
  | true =>
    simp only [hflag, Bool.not_true, Bool.false_eq_true, if_false]
    obtain ⟨hoff, hstep⟩ := hf s hs
    exact ⟨hoff, fun h => ⟨trivial, (hstep h).2⟩⟩

/-- A step that clears the flag on a condition. What follows may count on its opposite. -/
theorem limit {c : UbseSerialization → Prop} [DecidablePred c]
    (hc : ∀ s : UbseSerialization, s.mAlignOffset = a.offset → ¬c s → Q)
    (hf : Q → Writes a f P bs) :
    Writes a (fun s => if c s then { s with mFlag := false } else f s) (Q ∧ P) bs := by
  intro s hs
  by_cases hcs : c s
  · simp only [if_pos hcs]
    exact ⟨hs, fun h => absurd h Bool.false_ne_true⟩
  · simp only [if_neg hcs]
    have hQ : Q := hc s hs hcs
    obtain ⟨hoff, hstep⟩ := hf hQ s hs
    refine ⟨hoff, fun h => ?_⟩
    obtain ⟨hflag, hP, hrest⟩ := hstep h
    exact ⟨hflag, ⟨hQ, hP⟩, hrest⟩

end Writes

namespace UbseSerialization

/-- `expandCapacity` succeeds exactly if the new length is below the limit, and it changes
neither the bytes nor the alignment. -/
theorem expandCapacity_cases (s : UbseSerialization) (len : Nat) :
    (∃ s', s.expandCapacity len = (true, s') ∧ s'.mBuf = s.mBuf ∧
      s'.mAlignOffset = s.mAlignOffset ∧ s'.mFlag = s.mFlag ∧ s.mLen + len < MAX_CAPACITY) ∨
    s.expandCapacity len = (false, { s with mFlag := false }) := by
  by_cases h : s.mLen + len ≥ MAX_CAPACITY
  · exact .inr (if_pos h)
  · exact .inl ⟨_, if_neg h, rfl, rfl, rfl, Nat.lt_of_not_le h⟩

/-- A step that makes room for the bytes it appends, and returns if there is none. -/
theorem expand_spec {n : UbseSerialization → Nat}
    (hn : ∀ s : UbseSerialization, s.mAlignOffset = a.offset → n s = bs.length)
    (hf : ∀ s : UbseSerialization, s.mAlignOffset = a.offset →
      (f s).mAlignOffset = a.offset ∧
        ((f s).mFlag = true → s.mFlag = true ∧ (f s).mBuf = s.mBuf ++ bs)) :
    Writes a (fun s =>
      match s.expandCapacity (n s) with
      | (false, s) => s
      | (true, s) => f s) True bs := by
  intro s hs
  rcases s.expandCapacity_cases (n s) with ⟨s', hexp, hbuf', hoff', hflag', hlt⟩ | hexp
  · simp only [hexp]
    obtain ⟨hoff, hstep⟩ := hf s' (hoff'.trans hs)
    refine ⟨hoff, fun h => ?_⟩
    obtain ⟨hflag, hbuf⟩ := hstep h
    rw [hbuf'] at hbuf
    refine ⟨hflag' ▸ hflag, trivial, hbuf, fun _ => ?_⟩
    rw [mLen, hbuf, List.length_append, ← hn s hs]
    exact hlt
  · simp only [hexp]
    exact ⟨hs, fun h => absurd h Bool.false_ne_true⟩

theorem putHead_spec (s : UbseSerialization) (hs : s.mAlignOffset = a.offset) (type len : Nat) :
    (s.putHead type len).mAlignOffset = a.offset ∧ (s.putHead type len).mFlag = s.mFlag ∧
      (s.putHead type len).mBuf = s.mBuf ++ head a type len := by
  refine ⟨hs, rfl, ?_⟩
  rw [putHead, put, alignTo, hs]
  rfl

/-- The head block and the bytes of an arithmetic value, or the flag is cleared. -/
theorem scalar_spec (a : ALIGN_BASE) (t : ScalarType) (x : t.Val) :
    Writes a (fun s => s.scalar t x) True ((Ty.scalar t).bytes a x) := by
  have hsize : (ScalarType.toBytes x).length < 2 ^ 63 := by
    have hle := t.size_le
    rw [ScalarType.length_toBytes]
    omega
  refine Writes.guard (expand_spec (fun s hs => ?_) fun s hs => ?_)
  · rw [Ty.bytes, length_block a _ hsize, ScalarType.length_toBytes, alignTo, alignTo, hs]
    rfl
  · obtain ⟨hoff, hflag, hbuf⟩ := putHead_spec s hs t.typeId t.size
    refine ⟨hoff, fun h => ⟨h, ?_⟩⟩
    rw [put, hbuf, alignTo, hs, Ty.bytes, block, ScalarType.length_toBytes, List.append_assoc]

/-- The head block of an array whose length is below the limit. -/
theorem arrayLenInsert_spec (a : ALIGN_BASE) (len : Nat) :
    Writes a (fun s => s.arrayLenInsert len) (len < ONCE_LIMIT_LEN)
      (head a ARRAY_CTRL_CODE len) := by
  refine (Writes.guard (Writes.limit (fun _ _ => Nat.lt_of_not_le) fun _ =>
    expand_spec (fun s hs => ?_) fun s hs => ?_)).congr (fun h => h.1) fun _ => rfl
  · rw [length_head, alignTo, hs, headLen]
  · obtain ⟨hoff, hflag, hbuf⟩ := putHead_spec s hs ARRAY_CTRL_CODE len
    exact ⟨hoff, fun h => ⟨h, hbuf⟩⟩

theorem putBlock_spec (a : ALIGN_BASE) (type : Nat) {payload : List UInt8}
    (h : payload.length < 2 ^ 63) :
    Writes a (fun s => s.putBlock type payload) True (block a type payload) := by
  refine expand_spec (fun s hs => ?_) fun s hs => ?_
  · rw [length_block a _ h, alignTo, alignTo, hs, headLen]
  · obtain ⟨hoff, hflag, hbuf⟩ := putHead_spec s hs type payload.length
    by_cases hcap : payload.length > (s.putHead type payload.length).mCap -
        (s.putHead type payload.length).mLen
    · simp only [if_pos hcap]
      exact ⟨hoff, fun h => absurd h Bool.false_ne_true⟩
    · simp only [if_neg hcap]
      refine ⟨hoff, fun h => ⟨h, ?_⟩⟩
      rw [put, hbuf, alignTo, hs, block, List.append_assoc]

theorem add_spec (a : ALIGN_BASE) (payload : List UInt8) (type : Nat) :
    Writes a (fun s => s.add payload type)
      (payload.length ≠ 0 ∧ payload.length < ONCE_LIMIT_LEN - a.offset)
      (block a type payload) := by
  have hsmall : payload.length ≠ 0 ∧ payload.length < ONCE_LIMIT_LEN - a.offset →
      payload.length < 2 ^ 63 := by
    have hlim : ONCE_LIMIT_LEN < 2 ^ 63 := by decide
    omega
  refine (Writes.guard (Writes.limit (fun s hs hc => ?_) fun h =>
    putBlock_spec a type (hsmall h))).congr (fun h => h.1) fun _ => rfl
  rw [not_or, hs] at hc
  exact ⟨hc.1, Nat.lt_of_not_le hc.2⟩

end UbseSerialization

/-- One `<<`: if the flag is set after it, the value is within its limits and its bytes have
been appended. -/
theorem Ty.write_spec (a : ALIGN_BASE) (t : Ty) (x : t.Val) :
    Writes a (fun s => t.write s x) (t.Admissible a x) (t.bytes a x) := by
  induction t with
  | scalar t => exact UbseSerialization.scalar_spec a t x
  | string =>
    have hadd := UbseSerialization.add_spec a (x ++ [0]) stringTypeId
    rw [List.length_append, List.length_singleton] at hadd
    exact hadd.congr (fun h => h.2) fun _ => rfl
  | scalars t =>
    have hhead := UbseSerialization.arrayLenInsert_spec a x.length
    cases x with
    | nil =>
      exact hhead.congr (Q := Ty.Admissible a (.scalars t) [])
        (fun h => ⟨h, fun hne => absurd rfl hne⟩) fun _ => (List.append_nil _).symm
    | cons y v =>
      have hadd := UbseSerialization.add_spec a ((y :: v).flatMap ScalarType.toBytes) t.vectorTypeId
      exact (hhead.comp hadd).congr (fun h => ⟨h.1, fun _ => h.2.2⟩) fun _ => rfl
  | vector t ih =>
    exact (UbseSerialization.arrayLenInsert_spec a x.length).comp
      (Writes.foldl x fun y _ => ih y)
  | map k v ihk ihv =>
    exact (UbseSerialization.arrayLenInsert_spec a x.toList.length).comp
      (Writes.foldl x.toList fun e _ => (ihk e.1).comp (ihv e.2))
  | unorderedSet t ih =>
    exact (UbseSerialization.arrayLenInsert_spec a x.toList.length).comp
      (Writes.foldl x.toList fun y _ => ih y)

/-! ### The buffer that is handed out -/

theorem UbseSerialization.mLen_new (a : ALIGN_BASE) : (new a).mLen = bodyStart a :=
  List.length_replicate

/-- The buffer of a serializer that was filled with some bytes. -/
theorem UbseSerialization.getBuffer_eq {s : UbseSerialization} {body : List UInt8}
    (hs : s.mAlignOffset = a.offset) (hbuf : s.mBuf = (new a).mBuf ++ body) :
    s.getBuffer = image a body := by
  have hpad : 12 ≤ bodyStart a := (bodyStart_spec a).2.1
  have hlen : s.mLen = bodyStart a + body.length := by
    rw [mLen, hbuf, List.length_append]
    exact congrArg (· + body.length) (mLen_new a)
  -- behind the three codes comes the padding of the header, then the body
  have hdrop : s.mBuf.drop (headSize * 3) =
      List.replicate (bodyStart a - 12) 0 ++ body := by
    rw [hbuf, List.drop_append_of_le_length (by rw [← mLen, mLen_new]; exact hpad)]
    exact congrArg (· ++ body) List.drop_replicate
  have hcodes : (Bytes.ofNat headSize HEAD_CTRL_CODE ++ Bytes.ofNat headSize a.offset ++
      Bytes.ofNat headSize (bodyStart a + body.length)).length = 12 := by
    simp only [List.length_append, Bytes.length_ofNat]
    rfl
  rw [getBuffer, image, header, padTo, hdrop, hs, hlen, hcodes, List.append_assoc _ _ body]

/-- A nested serializer that was filled with some bytes. -/
theorem UbseSerialization.nest_spec (a b : ALIGN_BASE) {kid : UbseSerialization}
    {body : List UInt8} (hoff : kid.mAlignOffset = b.offset)
    (hbuf : kid.mFlag = true → kid.mBuf = (new b).mBuf ++ body) :
    Writes a (fun s => s.nest kid)
      (kid.mFlag = true ∧ (image b body).length < ONCE_LIMIT_LEN)
      (block a NEST_CTRL_CODE (image b body)) := by
  have hlim : ONCE_LIMIT_LEN < 2 ^ 63 := by decide
  refine (Writes.limit (Q := kid.mFlag = true) (fun s _ hc => by simpa using hc) fun hkid => ?_)
  have himage : kid.getBuffer = image b body := getBuffer_eq hoff (hbuf hkid)
  have hlen : kid.mLen = (image b body).length := by
    rw [mLen, hbuf hkid, List.length_append, length_image]
    exact congrArg (· + body.length) (mLen_new b)
  rw [hlen, himage]
  exact (Writes.limit (fun _ _ => Nat.lt_of_not_le) fun hlt =>
    putBlock_spec a NEST_CTRL_CODE (hlt.trans hlim)).congr (fun h => h.1) fun _ => rfl

/-- **What `Check()` stands for**: if the flag is set after a sequence of writes, every one of
them was within its limits, and their bytes have been appended one after the other. -/
theorem Shape.write_spec (a : ALIGN_BASE) (sh : Shape) (v : sh.Val) :
    Writes a (fun s => sh.write s v) (sh.Admissible a v) (sh.bytes a v) := by
  induction sh generalizing a with
  | done => exact Writes.id
  | get t rest ih => exact (t.write_spec a v.1).comp (ih a v.2)
  | enum e rest ih =>
    exact ((UbseSerialization.scalar_spec a .int (e.toInt v.1)).comp (ih a v.2)).congr
      (fun h => h.2) fun _ => rfl
  | nest b kid rest ihk ih =>
    obtain ⟨hoff, hkid⟩ := ihk b v.1 (.new b) rfl
    have hnest := UbseSerialization.nest_spec a b hoff fun h => (hkid h).2.2.1
    exact (hnest.comp (ih a v.2)).congr
      (fun h => ⟨⟨(hkid h.1.1).2.1, h.1.2⟩, h.2⟩) fun _ => rfl

/-- The buffer handed out after a sequence of writes that `Check()` accepts. -/
theorem Shape.getBuffer_write (a : ALIGN_BASE) (sh : Shape) (v : sh.Val)
    (h : (sh.write (.new a) v).mFlag = true) :
    sh.Admissible a v ∧ (sh.write (.new a) v).getBuffer = image a (sh.bytes a v) ∧
      (image a (sh.bytes a v)).length < MAX_CAPACITY := by
  obtain ⟨hoff, hwrite⟩ := sh.write_spec a v (.new a) rfl
  obtain ⟨_, hadm, hbuf, hlt⟩ := hwrite h
  have hnew : (UbseSerialization.new a).mLen < MAX_CAPACITY := by
    have hle := (bodyStart_spec a).2.2
    rw [UbseSerialization.mLen_new, MAX_CAPACITY]
    omega
  have himage := UbseSerialization.getBuffer_eq hoff hbuf
  have hlen : (sh.write (.new a) v).mLen = (image a (sh.bytes a v)).length := by
    rw [UbseSerialization.mLen, hbuf, List.length_append, length_image]
    exact congrArg (· + _) (UbseSerialization.mLen_new a)
  exact ⟨hadm, himage, hlen ▸ hlt hnew⟩

end Serde

end UbsEngine
