import UbsEngine.Library.Recorded
import UbsEngine.Serde.Format

/-!
# The deserializer

`UbseDeSerialization` reads a buffer from the front. The buffer may come from a peer, so that
every operator checks what it is about to read against the end of the buffer, and clears a flag
if something does not match.

The model keeps the buffer, the position in it, the alignment offset and the flag. Next to them
it keeps a record, which the code does not have, of everything that the safety of a read is
about: the bytes that are fetched, the sums and differences that are computed in 64 bits, the
lengths that are found in matching head blocks, the turns of the container loops, and where
each operator leaves the position (`UbsEngine.Serde.Access`). What is read never depends on the
record.

A read is a program that changes the state of the deserializer and adds to this record
(`UbsEngine.Serde.Reader`).
-/

namespace UbsEngine

namespace Serde

/-- What is recorded of a read. -/
inductive Access where
  /-- `n` bytes are fetched at the offset `pos` of a buffer of `size` bytes. -/
  | fetch (pos n size : Nat)
  /-- The sum of two numbers is computed. -/
  | sum (x y : Nat)
  /-- The difference of two numbers is computed. -/
  | diff (x y : Nat)
  /-- A head block of the expected type declares a length, and `room` bytes follow it. -/
  | length (declared mAlignOffset room : Nat)
  /-- The loop of a set is to run for a declared number of elements, each of which takes at
  least `unit` of the `room` bytes that follow. -/
  | elements (declared unit room : Nat)
  /-- A container loop has run, over elements that take at least `unit` bytes each. -/
  | loop (turns unit room : Nat)
  /-- An operator returns: the flag before and after it, and the position. -/
  | move (before after : Bool) (pos size : Nat)
  deriving DecidableEq, Repr

/-- A deserializer. Without a buffer (`mBuf_ == nullptr`) the bytes are empty. -/
structure UbseDeSerialization where
  mBuf : List UInt8
  /-- `mPos_ - mBuf_`. -/
  mPos : Nat
  mFlag : Bool
  mAlignOffset : Nat
  deriving DecidableEq, Repr

/-- `UbseDeSerialization()`. -/
def UbseDeSerialization.fresh : UbseDeSerialization where
  mBuf := []
  mPos := 0
  mFlag := true
  mAlignOffset := 3

/-- A **reading program**. -/
abbrev Reader (α : Type) := Recorded UbseDeSerialization Access α

namespace Reader

open Recorded

/-- `mFlag_ = false`. -/
def fail : Reader Unit := change fun s => { s with mFlag := false }

/-- Fetching bytes of the buffer. -/
def fetch (pos n : Nat) : Reader (List UInt8) := do
  let s ← state
  note [.fetch pos n s.mBuf.length]
  pure ((s.mBuf.drop pos).take n)

def alignTo (l : Nat) : Reader Nat := do
  let s ← state
  note [.sum l s.mAlignOffset]
  pure (Bytes.alignUp s.mAlignOffset l)

/-- `mPos_ += n`. -/
def advance (n : Nat) : Reader Unit := do
  let s ← state
  note [.sum s.mPos n]
  change fun s => { s with mPos := s.mPos + n }

/-- An operator returns. -/
def leave (before : Bool) : Reader Unit := do
  let s ← state
  note [.move before s.mFlag s.mPos s.mBuf.length]

/-- The bytes from the position to the end: `mBuf_ + mLen_ - mPos_`. -/
def remaining : Reader Nat := do
  let s ← state
  note [.diff s.mBuf.length s.mPos]
  pure (s.mBuf.length - s.mPos)

/-! ### The private functions -/

def checkValid (expectLen : Nat) : Reader Bool := do
  let s ← state
  if !s.mFlag then pure false
  else do
    note [.sum s.mPos expectLen]
    if expectLen = 0 ∨ s.mPos + expectLen > s.mBuf.length then do
      fail
      pure false
    else pure true

/-- The length in a head block, if the block has the type. -/
def lengthOf (type head : Nat) : Option Nat :=
  if (head >>> LEN_CTRL_OFFSET) % 256 = type then some (head &&& LEN_CTRL_MASK) else none

def readLenByType (type : Nat) : Reader (Option Nat) := do
  let s ← state
  let bs ← fetch s.mPos headSize
  pure (lengthOf type (Bytes.toNat bs))

/-- Running the body of an operator and recording where it leaves the position. -/
def operator {α : Type} (body : Reader α) : Reader α := do
  let before ← state
  let result ← body
  leave before.mFlag
  pure result

/-- The payload after a head block of the type: its offset and its length. The position is
moved behind the payload before it is compared with the end of the buffer. -/
def get (type : Nat) : Reader (Option (Nat × Nat)) := operator do
  let expectReadLen ← alignTo headSize
  let ok ← checkValid expectReadLen
  if !ok then do
    fail
    pure none
  else do
    let o ← readLenByType type
    match o with
    | none => do
      fail
      pure none
    | some len => do
      advance expectReadLen
      let s ← state
      note [.length len s.mAlignOffset (s.mBuf.length - s.mPos)]
      let alignedLen ← alignTo len
      advance alignedLen
      let s' ← state
      if s'.mPos > s'.mBuf.length then do
        fail
        pure none
      else pure (some (s.mPos, len))

/-- `operator>>` of an `array_len_capture`. -/
def arrayLenCapture : Reader Nat := operator do
  let expectReadLen ← alignTo headSize
  let ok ← checkValid expectReadLen
  if !ok then pure 0
  else do
    let o ← readLenByType ARRAY_CTRL_CODE
    match o with
    | none => do
      fail
      pure 0
    | some len => do
      advance expectReadLen
      pure len

/-! ### The operators -/

/-- `operator>>` of an arithmetic type. -/
def scalar (t : ScalarType) (param : t.Val) : Reader t.Val := operator do
  let alignedHeadLen ← alignTo headSize
  let alignedParamLen ← alignTo t.size
  note [.sum alignedHeadLen alignedParamLen]
  let ok ← checkValid (alignedHeadLen + alignedParamLen)
  if !ok then pure param
  else do
    let o ← readLenByType t.typeId
    if o ≠ some t.size then do
      fail
      pure param
    else do
      advance alignedHeadLen
      let s ← state
      let bs ← fetch s.mPos t.size
      advance alignedParamLen
      pure (ScalarType.ofBytes t bs)

/-- `operator>>` of a string. The last byte of the payload is not part of it. -/
def string (str : List UInt8) : Reader (List UInt8) := do
  let o ← get stringTypeId
  match o with
  | none => pure str
  | some (addr, len) =>
    if len = 0 then do
      fail
      pure str
    else fetch addr (len - 1)

/-- `vec[i] = *(p + i)` for the elements of a vector. -/
def elements (t : ScalarType) : Nat → Nat → Reader (List t.Val)
  | 0, _ => pure []
  | n + 1, p => do
    let bs ← fetch p t.size
    let rest ← elements t n (p + t.size)
    pure (ScalarType.ofBytes t bs :: rest)

/-- `operator>>` of a vector of an arithmetic type. -/
def scalars (t : ScalarType) (vec : List t.Val) : Reader (List t.Val) := do
  let len ← arrayLenCapture
  if len = 0 then pure []
  else do
    let s ← state
    let o ← get t.vectorTypeId
    match o with
    | none => pure vec
    | some (addr, baseLen) =>
      if baseLen = 0 ∨ baseLen % t.size ≠ 0 ∨ baseLen / t.size ≠ len then do
        fail
        pure vec
      else do
        note [.loop len t.size (s.mBuf.length - s.mPos)]
        elements t len addr

/-- `vec.resize(n)`. -/
def resize {α : Type} (fresh : α) (n : Nat) (vec : List α) : List α :=
  vec.take n ++ List.replicate (n - vec.length) fresh

/-- `operator>>` of a vector of another type. -/
def vector {α : Type} (read : α → Reader α) (fresh : α) (vec : List α) : Reader (List α) := do
  let len ← arrayLenCapture
  if len = 0 then pure []
  else do
    let alignedHeadLen ← alignTo headSize
    let rest ← remaining
    if alignedHeadLen = 0 ∨ len > rest / alignedHeadLen then do
      fail
      pure vec
    else do
      note [.loop len alignedHeadLen rest]
      (resize fresh len vec).mapM read

/-- The loop of `operator>>` of a map, which stops when the flag is cleared; also how many
turns it took. -/
def mapLoop {K V : Type} [DecidableEq K] (readKey : Reader K) (readVal : V → Reader V)
    (fresh : V) : Nat → OrderedMap K V → Reader (OrderedMap K V × Nat)
  | 0, map => pure (map, 0)
  | n + 1, map => do
    let s ← state
    if !s.mFlag then pure (map, 0)
    else do
      let key ← readKey
      let val ← readVal (map.getD key fresh)
      let r ← mapLoop readKey readVal fresh n (map.put key val)
      pure (r.1, r.2 + 1)

/-- `operator>>` of a map. -/
def map {K V : Type} [DecidableEq K] (readKey : Reader K) (readVal : V → Reader V) (fresh : V)
    (map : OrderedMap K V) : Reader (OrderedMap K V) := do
  let len ← arrayLenCapture
  let s ← state
  let r ← mapLoop readKey readVal fresh len map
  note [.loop r.2 (Bytes.alignUp s.mAlignOffset headSize) (s.mBuf.length - s.mPos)]
  pure r.1

/-- The loop of `operator>>` of a set, which runs to its end. -/
def setLoop {α : Type} [DecidableEq α] (read : Reader α) :
    Nat → OrderedSet α → Reader (OrderedSet α)
  | 0, set => pure set
  | n + 1, set => do
    let element ← read
    setLoop read n (set.insert element)

/-- `operator>>` of a set. -/
def unorderedSet {α : Type} [DecidableEq α] (read : Reader α) (set : OrderedSet α) :
    Reader (OrderedSet α) := do
  let len ← arrayLenCapture
  if len = 0 then pure OrderedSet.empty
  else do
    let s ← state
    let unit := Bytes.alignUp s.mAlignOffset headSize
    note [.elements len unit (s.mBuf.length - s.mPos)]
    let set' ← setLoop read len set
    note [.loop len unit (s.mBuf.length - s.mPos)]
    pure set'

/-- `operator>>` of an `enum_v`. -/
def enum (e : EnumType) (v : e.Val) : Reader e.Val := do
  let i ← scalar .int (ScalarType.zero .int)
  let s ← state
  pure (if s.mFlag then e.ofInt i else v)

/-! ### Taking a buffer -/

/-- `GetCode(buf, idx)`. -/
def getCode (buf : List UInt8) (idx : Nat) : Reader Nat := do
  note [.fetch (idx * headSize) headSize buf.length]
  pure (Bytes.toNat ((buf.drop (idx * headSize)).take headSize))

/-- `Set(buf, len, bNew)`. The alignment is kept even if it is not a valid one. -/
def set (buf : List UInt8) : Reader Unit := operator do
  let s ← state
  if !s.mBuf.isEmpty ∨ buf.length < headSize * 3 ∨ buf.length ≥ MAX_CAPACITY then fail
  else do
    let code ← getCode buf 0
    if code ≠ HEAD_CTRL_CODE then fail
    else do
      let off ← getCode buf 1
      change fun s => { s with mAlignOffset := off }
      note [.sum off 1]
      if !isValidAlign ((off + 1) % 2 ^ 32) then fail
      else do
        let l ← getCode buf 2
        if l ≠ buf.length ∨ l % (off + 1) ≠ 0 then fail
        else do
          let pos ← alignTo (headSize * 3)
          change fun s => { s with mBuf := buf, mPos := pos }

end Reader

/-- `UbseDeSerialization(buf, len)`. -/
def UbseDeSerialization.ofBuffer (buf : List UInt8) : UbseDeSerialization :=
  (Reader.set buf .fresh).1.2

/-- `operator>>` of another deserializer, which is a fresh one and is handed a copy of the
payload. -/
def Reader.openKid : Reader UbseDeSerialization := do
  let o ← get NEST_CTRL_CODE
  match o with
  | none => pure .fresh
  | some (addr, len) => do
    let bs ← fetch addr len
    let kid := UbseDeSerialization.ofBuffer bs
    Recorded.note (set bs .fresh).2
    if kid.mFlag then pure kid
    else do
      fail
      pure kid

/-- `operator>>` into an object. -/
def Ty.read : (t : Ty) → t.Val → Reader t.Val
  | scalar t, x => Reader.scalar t x
  | string, x => Reader.string x
  | scalars t, x => Reader.scalars t x
  | vector t, x => Reader.vector t.read t.fresh x
  | map k v, x => Reader.map (k.read k.fresh) v.read v.fresh x
  | unorderedSet t, x => Reader.unorderedSet (t.read t.fresh) x

/-- A sequence of reads into objects. The deserializers of the nested ones are handed out as
well, as they are after their own reads; what they have recorded is added to the record. -/
def Shape.read : (sh : Shape) → sh.Val → Reader (sh.Val × List UbseDeSerialization)
  | done, _ => pure ((), [])
  | get t rest, v => do
    let x ← t.read v.1
    let r ← rest.read v.2
    pure ((x, r.1), r.2)
  | enum e rest, v => do
    let x ← Reader.enum e v.1
    let r ← rest.read v.2
    pure ((x, r.1), r.2)
  | nest _ kid rest, v => do
    let de ← Reader.openKid
    let run := kid.read v.1 de
    Recorded.note run.2
    let r ← rest.read v.2
    pure ((run.1.1.1, r.1), run.1.2 :: run.1.1.2 ++ r.2)

end Serde

end UbsEngine
