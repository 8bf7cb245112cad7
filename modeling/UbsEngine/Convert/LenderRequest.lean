import Mathlib.Algebra.Order.BigOperators.Group.List
import Mathlib.Algebra.Order.Group.Nat
import UbsEngine.Library.Packed
import UbsEngine.Mem.Objects

/-!
# Requests that name their lenders

A client that asks for memory may say who is to lend it: the message lists lenders, each with a
size, a node, a socket, a numa and a port. The request that comes out of it has a list of numas,
a list of sizes, and a total size.

In a request by file descriptor every lender of the message is in the lists. In a request for a
NUMA node a lender may leave its numa open; it is then not in the lists, but what it lends counts
for the total all the same. So the total is the sum over the message
(`UbsEngine.Convert.lenders_counted`), and not always the sum over the lists
(`UbsEngine.Convert.not_total_of_lists`).
-/

namespace UbsEngine

namespace Convert

open Packed Mem Serde

/-- The error codes of unpacking. -/
inductive UnpackError where
  | UBSE_ERROR_DESERIALIZE_FAILED
  | UBSE_ERROR_INVAL
  deriving DecidableEq

open UnpackError

/-- `UbseUnpackUtil`. -/
abbrev Unpacker (α : Type) := Reader UnpackError α

/-! ### Fields -/

/-- An object of an arithmetic type other than `bool`. -/
def unpackScalar (t : ScalarType) [h : t.IsNumber] : Unpacker t.Val := do
  let x ← word UBSE_ERROR_DESERIALIZE_FAILED t.size
  pure ⟨x, fun ht => absurd ht h.ne_bool⟩

def UnpackUint32 : Unpacker uint32_t := unpackScalar .unsignedInt

def UnpackUint64 : Unpacker uint64_t := unpackScalar .unsignedLong

/-- The value of a `uint32_t`. -/
def count (x : uint32_t) : Nat := BitVec.toNat x.bits

/-- The value of a `uint64_t`. -/
def amount (x : uint64_t) : Nat := BitVec.toNat x.bits

/-- A string after its length. -/
def UnpackString (maxLen : Nat) : Unpacker string := do
  let len ← UnpackUint32
  if maxLen < count len then throw UBSE_ERROR_DESERIALIZE_FAILED
  if count len = 0 then pure [] else take UBSE_ERROR_DESERIALIZE_FAILED (count len)

def MAX_MEM_RESOURCE_NAME_LENGTH : Nat := 48
def UBS_MEM_MAX_NAME_LENGTH : Nat := 48
def MAX_LENDER_CNT : Nat := 4
def SDK_DEFAULT_VALUE : uint32_t := num 0xFFFFFFFF
def HIGH_WATER_MARK : size_t := num 100

/-- Letters, digits and the four marks a name may have: `_`, `-`, `.` and `:`. -/
def isNameChar (c : UInt8) : Bool :=
  (48 ≤ c && c ≤ 57) || (65 ≤ c && c ≤ 90) || (97 ≤ c && c ≤ 122) ||
    c == 95 || c == 45 || c == 46 || c == 58

def CheckName (name : string) : Bool :=
  !(name.isEmpty || UBS_MEM_MAX_NAME_LENGTH ≤ name.length) && name.all isNameChar

def UnpackMemName : Unpacker string := do
  let name ← UnpackString (MAX_MEM_RESOURCE_NAME_LENGTH - 1)
  if !CheckName name then throw UBSE_ERROR_INVAL
  pure name

def UbseOwnerUnpack : Unpacker FdOwner := do
  let uid ← UnpackUint32
  let gid ← UnpackUint32
  let pid ← unpackScalar .int
  let mode ← UnpackUint32
  pure { uid, gid, pid, mode }

/-- `std::to_string`. -/
def to_string (x : uint32_t) : string := (Nat.toDigits 10 (count x)).map fun c => c.toUInt8

/-- What a message says of a lender. -/
structure Lender where
  loc : UbseNumaLocation
  lenderSize : uint64_t
  socketId : uint32_t
  portId : uint32_t
  deriving DecidableEq

def LenderInfoUnpack : Unpacker Lender := do
  let lenderSize ← UnpackUint64
  let slotId ← UnpackUint32
  let socketId ← UnpackUint32
  let numaId ← UnpackUint32
  let portId ← UnpackUint32
  pure { loc := { nodeId := to_string slotId, numaId }, lenderSize, socketId, portId }

/-- The number of lenders, which is at least one. -/
def unpackLenderCnt : Unpacker Nat := do
  let lenderCnt ← UnpackUint32
  if MAX_LENDER_CNT < count lenderCnt ∨ count lenderCnt = 0 then
    throw UBSE_ERROR_DESERIALIZE_FAILED
  pure (count lenderCnt)

/-- The sum in 64 bits, and whether it overflowed. -/
def SafeAdd (a b : uint64_t) : Bool × uint64_t :=
  (2 ^ 64 ≤ amount a + amount b, ⟨BitVec.add a.bits b.bits, fun h => nomatch h⟩)

/-- A size with what one more lender lends. -/
def addLenderSize (size lenderSize : uint64_t) : Unpacker uint64_t :=
  match SafeAdd size lenderSize with
  | (true, _) => throw UBSE_ERROR_DESERIALIZE_FAILED
  | (false, result) => pure result

/-! ### Requests by file descriptor -/

/-- The lenders of the message, each put into the request. -/
def fdLenderLoop : Nat → UbseMemFdBorrowReq → Unpacker UbseMemFdBorrowReq
  | 0, req => pure req
  | n + 1, req => do
    let lender ← LenderInfoUnpack
    let size ← addLenderSize req.size lender.lenderSize
    fdLenderLoop n
      { req with
        lenderLocs := req.lenderLocs ++ [lender.loc]
        lenderSizes := req.lenderSizes ++ [lender.lenderSize]
        size := size }

def UbseMemCreateWithLenderReqUnpack (memFdBorrowReq : UbseMemFdBorrowReq) :
    Unpacker UbseMemFdBorrowReq := do
  let name ← UnpackMemName
  let owner ← UbseOwnerUnpack
  let lenderCnt ← unpackLenderCnt
  fdLenderLoop lenderCnt
    { memFdBorrowReq with
      base := { memFdBorrowReq.base with name }
      owner := owner
      size := num 0 }

/-! ### Requests for a NUMA node -/

/-- What the loop over the lenders works on. -/
structure NumaLoop where
  memNumaBorrowReq : UbseMemNumaBorrowReq
  lenderLocs : List UbseNumaLocation := []
  lenderSizes : List uint64_t := []
  linkInfo : UbseMemLenderLinkInfo := {}

/-- A lender that says which port to use fixes the link. -/
def NumaLoop.withLink (s : NumaLoop) (lender : Lender) : NumaLoop :=
  if lender.portId = SDK_DEFAULT_VALUE then s
  else
    { s with
      linkInfo :=
        { lenderNode := lender.loc.nodeId
          lenderPort := ⟨lender.portId.bits, fun h => nomatch h⟩
          lenderSocketId := ⟨lender.socketId.bits, fun h => nomatch h⟩ }
      memNumaBorrowReq :=
        { s.memNumaBorrowReq with lowWatermark := num 0, highWatermark := HIGH_WATER_MARK } }

def NumaLoop.withSize (s : NumaLoop) (size : size_t) : NumaLoop :=
  { s with
    memNumaBorrowReq :=
      { s.memNumaBorrowReq with base := { s.memNumaBorrowReq.base with size := size } } }

/-- Whether a lender says which of its numas is to lend. -/
def Lender.namesNuma (lender : Lender) : Bool := lender.loc.numaId != SDK_DEFAULT_VALUE

/-- A lender whose numa is left open is passed over. -/
def NumaLoop.keep (s : NumaLoop) (lender : Lender) : NumaLoop :=
  if lender.namesNuma then
    { s with
      lenderLocs := s.lenderLocs ++ [lender.loc]
      lenderSizes := s.lenderSizes ++ [lender.lenderSize] }
  else s

def numaLenderLoop : Nat → NumaLoop → Unpacker NumaLoop
  | 0, s => pure s
  | n + 1, s => do
    let lender ← LenderInfoUnpack
    let s := s.withLink lender
    let size ← addLenderSize s.memNumaBorrowReq.base.size lender.lenderSize
    numaLenderLoop n ((s.withSize size).keep lender)

def UbseMemNumaCreateLenderReqUnpack (memNumaBorrowReq : UbseMemNumaBorrowReq) :
    Unpacker UbseMemNumaBorrowReq := do
  let name ← UnpackMemName
  let lenderCnt ← unpackLenderCnt
  let fd := memNumaBorrowReq.base
  let s ← numaLenderLoop lenderCnt
    { memNumaBorrowReq :=
        { memNumaBorrowReq with base := { fd with base := { fd.base with name } } } }
  let req := s.memNumaBorrowReq
  pure
    { req with
      linkInfo := s.linkInfo
      base := { req.base with lenderLocs := s.lenderLocs, lenderSizes := s.lenderSizes } }

/-! ### The messages -/

/-- The two messages that name lenders. -/
inductive LenderMessage where
  | fd
  | numa
  deriving DecidableEq

/-- The request a message is turned into. The dispatcher starts from a fresh one. -/
def LenderMessage.unpack : LenderMessage → Unpacker UbseMemFdBorrowReq
  | fd => UbseMemCreateWithLenderReqUnpack {}
  | numa => do
    let req ← UbseMemNumaCreateLenderReqUnpack {}
    pure req.base

/-- The lenders as the message lists them. -/
def LenderMessage.lenders (kind : LenderMessage) : Unpacker (List Lender) := do
  let _ ← UnpackMemName
  if kind = fd then
    let _ ← UbseOwnerUnpack
  let lenderCnt ← unpackLenderCnt
  let lenders ← times LenderInfoUnpack lenderCnt
  pure lenders.toList

/-- The lenders that the request has in its lists. -/
def LenderMessage.keeps : LenderMessage → Lender → Bool
  | fd, _ => true
  | numa, lender => lender.namesNuma

/-! ### What the loops collect -/

/-- The lists and the total of a request. -/
structure Tally where
  locs : List UbseNumaLocation
  sizes : List uint64_t
  size : uint64_t

def tallyOf (req : UbseMemFdBorrowReq) : Tally := ⟨req.lenderLocs, req.lenderSizes, req.size⟩

def NumaLoop.tally (s : NumaLoop) : Tally :=
  ⟨s.lenderLocs, s.lenderSizes, s.memNumaBorrowReq.base.size⟩

/-- What some lenders amount to. -/
def amountOf (lenders : List Lender) : Nat := (lenders.map fun l => amount l.lenderSize).sum

/-- Some more lenders are counted, and those of them that are kept are appended. -/
structure Collects (keeps : Lender → Bool) (lenders : List Lender) (t t' : Tally) : Prop where
  locs : t'.locs = t.locs ++ (lenders.filter keeps).map Lender.loc
  sizes : t'.sizes = t.sizes ++ (lenders.filter keeps).map Lender.lenderSize
  size : amount t'.size = amount t.size + amountOf lenders

variable {keeps : Lender → Bool}

theorem Collects.nil (t : Tally) : Collects keeps [] t t :=
  ⟨(List.append_nil _).symm, (List.append_nil _).symm, rfl⟩

/-- A lender before the others. -/
theorem Collects.cons {lender : Lender} {lenders : List Lender} {t t₁ t' : Tally}
    (h : Collects keeps [lender] t t₁) (h' : Collects keeps lenders t₁ t') :
    Collects keeps (lender :: lenders) t t' := by
  have hsplit : lender :: lenders = [lender] ++ lenders := rfl
  refine ⟨?_, ?_, ?_⟩
  · rw [hsplit, List.filter_append, List.map_append, h'.locs, h.locs, List.append_assoc]
  · rw [hsplit, List.filter_append, List.map_append, h'.sizes, h.sizes, List.append_assoc]
  · rw [h'.size, h.size, hsplit, amountOf, amountOf, amountOf, List.map_append, List.sum_append,
      Nat.add_assoc]

/-- A sum that is accepted is the sum of the numbers. -/
theorem addLenderSize_eq_ok {size lenderSize size' : uint64_t} {bs rest : List UInt8}
    (h : addLenderSize size lenderSize bs = .ok (size', rest)) :
    amount size' = amount size + amount lenderSize ∧ bs = rest := by
  rw [addLenderSize, SafeAdd] at h
  by_cases hover : 2 ^ 64 ≤ amount size + amount lenderSize
  · rw [decide_eq_true hover] at h
    exact nomatch h
  · rw [decide_eq_false hover] at h
    obtain ⟨rfl, rfl⟩ := pure_eq_ok.1 h
    exact ⟨Nat.mod_eq_of_lt (Nat.lt_of_not_le hover), rfl⟩

/-- The loop over the lenders of a request by file descriptor reads them one by one. -/
theorem fdLenderLoop_eq_ok {n : Nat} {req req' : UbseMemFdBorrowReq} {bs rest : List UInt8}
    (h : fdLenderLoop n req bs = .ok (req', rest)) :
    ∃ v, times LenderInfoUnpack n bs = .ok (v, rest) ∧
      Collects LenderMessage.fd.keeps v.toList (tallyOf req) (tallyOf req') := by
  induction n generalizing req bs with
  | zero =>
    obtain ⟨rfl, rfl⟩ := pure_eq_ok.1 h
    exact ⟨.nil, rfl, .nil _⟩
  | succ n ih =>
    obtain ⟨lender, mid, hlender, h⟩ := bind_eq_ok.1 h
    obtain ⟨size, mid', hsize, h⟩ := bind_eq_ok.1 h
    obtain ⟨hsum, rfl⟩ := addLenderSize_eq_ok hsize
    obtain ⟨v, hv, hcollects⟩ := ih h
    refine ⟨lender ::ᵥ v, ?_, ?_⟩
    · exact bind_eq_ok.2 ⟨lender, mid, hlender, bind_eq_ok.2 ⟨v, rest, hv, rfl⟩⟩
    · exact Collects.cons ⟨rfl, rfl, hsum⟩ hcollects

theorem size_withLink (s : NumaLoop) (lender : Lender) : (s.withLink lender).tally = s.tally := by
  rw [NumaLoop.withLink]
  split <;> rfl

/-- What a turn of the loop does to the lists and the total. -/
theorem collects_keep {s : NumaLoop} {lender : Lender} {size : uint64_t}
    (hsum : amount size = amount s.memNumaBorrowReq.base.size + amount lender.lenderSize) :
    Collects LenderMessage.numa.keeps [lender] s.tally ((s.withSize size).keep lender).tally := by
  have hfilter : [lender].filter LenderMessage.numa.keeps =
      if lender.namesNuma then [lender] else [] := List.filter_cons
  rw [NumaLoop.keep]
  split
  · rename_i hnames
    rw [if_pos hnames] at hfilter
    exact ⟨by rw [hfilter]; rfl, by rw [hfilter]; rfl, hsum⟩
  · rename_i hnames
    rw [if_neg hnames] at hfilter
    refine ⟨?_, ?_, hsum⟩
    · rw [hfilter]
      exact (List.append_nil _).symm
    · rw [hfilter]
      exact (List.append_nil _).symm

/-- The loop over the lenders of a request for a NUMA node reads them one by one. -/
theorem numaLenderLoop_eq_ok {n : Nat} {s s' : NumaLoop} {bs rest : List UInt8}
    (h : numaLenderLoop n s bs = .ok (s', rest)) :
    ∃ v, times LenderInfoUnpack n bs = .ok (v, rest) ∧
      Collects LenderMessage.numa.keeps v.toList s.tally s'.tally := by
  induction n generalizing s bs with
  | zero =>
    obtain ⟨rfl, rfl⟩ := pure_eq_ok.1 h
    exact ⟨.nil, rfl, .nil _⟩
  | succ n ih =>
    obtain ⟨lender, mid, hlender, h⟩ := bind_eq_ok.1 h
    obtain ⟨size, mid', hsize, h⟩ := bind_eq_ok.1 h
    obtain ⟨hsum, rfl⟩ := addLenderSize_eq_ok hsize
    obtain ⟨v, hv, hcollects⟩ := ih h
    refine ⟨lender ::ᵥ v, ?_, ?_⟩
    · exact bind_eq_ok.2 ⟨lender, mid, hlender, bind_eq_ok.2 ⟨v, rest, hv, rfl⟩⟩
    · have hstep := collects_keep hsum
      rw [size_withLink] at hstep
      exact hstep.cons hcollects

/-! ### Lists and totals -/

/-- What the request of a message has in its lists and as its total. -/
theorem collects_unpack {kind : LenderMessage} {buffer : List UInt8} {req : UbseMemFdBorrowReq}
    (h : kind.unpack.read buffer = .ok req) :
    ∃ lenders, kind.lenders.read buffer = .ok lenders ∧
      Collects kind.keeps lenders ⟨[], [], num 0⟩ (tallyOf req) := by
  obtain ⟨rest, h⟩ := read_eq_ok.1 h
  cases kind with
  | fd =>
    obtain ⟨name, bs₁, hname, h⟩ := bind_eq_ok.1 h
    obtain ⟨owner, bs₂, howner, h⟩ := bind_eq_ok.1 h
    obtain ⟨lenderCnt, bs₃, hcnt, h⟩ := bind_eq_ok.1 h
    obtain ⟨v, hv, hcollects⟩ := fdLenderLoop_eq_ok h
    refine ⟨v.toList, read_eq_ok.2 ⟨rest, ?_⟩, hcollects⟩
    refine bind_eq_ok.2 ⟨name, bs₁, hname, bind_eq_ok.2 ⟨owner, bs₂, howner, ?_⟩⟩
    exact bind_eq_ok.2 ⟨lenderCnt, bs₃, hcnt, bind_eq_ok.2 ⟨v, rest, hv, rfl⟩⟩
  | numa =>
    obtain ⟨numaReq, bs₁, hnuma, hreq⟩ := bind_eq_ok.1 h
    obtain ⟨hbase, hrest⟩ := pure_eq_ok.1 hreq
    obtain ⟨name, bs₂, hname, hnuma⟩ := bind_eq_ok.1 hnuma
    obtain ⟨lenderCnt, bs₃, hcnt, hnuma⟩ := bind_eq_ok.1 hnuma
    obtain ⟨s, bs₄, hloop, hnuma⟩ := bind_eq_ok.1 hnuma
    obtain ⟨hs, hbs⟩ := pure_eq_ok.1 hnuma
    obtain ⟨v, hv, hcollects⟩ := numaLenderLoop_eq_ok hloop
    subst hbase hs
    refine ⟨v.toList, read_eq_ok.2 ⟨bs₄, ?_⟩, hcollects⟩
    refine bind_eq_ok.2 ⟨name, bs₂, hname, ?_⟩
    exact bind_eq_ok.2 ⟨lenderCnt, bs₃, hcnt, bind_eq_ok.2 ⟨v, bs₄, hv, rfl⟩⟩

/-- The lenders that are kept amount to all of them just if the others lend nothing. -/
theorem amountOf_eq_filter_iff (keeps : Lender → Bool) (lenders : List Lender) :
    amountOf lenders = amountOf (lenders.filter keeps) ↔
      ∀ l ∈ lenders, keeps l = false → amount l.lenderSize = 0 := by
  induction lenders with
  | nil => exact ⟨fun _ _ h => (nomatch h), fun _ => rfl⟩
  | cons lender lenders ih =>
    have hle : amountOf (lenders.filter keeps) ≤ amountOf lenders :=
      ((List.filter_sublist).map _).sum_le_sum fun _ _ => Nat.zero_le _
    have hcons : amountOf (lender :: lenders) = amount lender.lenderSize + amountOf lenders :=
      List.sum_cons
    rw [List.forall_mem_cons, ← ih, hcons]
    cases hkeeps : keeps lender with
    | true =>
      have hcons' : amountOf (lender :: lenders.filter keeps) =
          amount lender.lenderSize + amountOf (lenders.filter keeps) := List.sum_cons
      rw [List.filter_cons_of_pos hkeeps, hcons', Nat.add_left_cancel_iff]
      exact ⟨fun h => ⟨fun ht => (nomatch ht), h⟩, fun h => h.2⟩
    | false =>
      rw [List.filter_cons_of_neg (by rw [hkeeps]; exact Bool.false_ne_true)]
      constructor
      · intro h
        exact ⟨fun _ => by omega, by omega⟩
      · rintro ⟨hzero, h⟩
        have := hzero rfl
        omega

/-- **Every lender of a message counts for the total**: the request that a message is turned
into lists, each with its size, just the lenders that say which numa is to lend (all of them in
a request by file descriptor), and its total is what all lenders of the message lend together,
without overflow. So it is what the listed ones lend just if no other one lends anything. -/
theorem lenders_counted (kind : LenderMessage) (buffer : List UInt8) (req : UbseMemFdBorrowReq)
    (h : kind.unpack.read buffer = .ok req) :
    req.lenderSizes.length = req.lenderLocs.length ∧
      ∃ lenders, kind.lenders.read buffer = .ok lenders ∧
        req.lenderLocs = (lenders.filter kind.keeps).map Lender.loc ∧
        req.lenderSizes = (lenders.filter kind.keeps).map Lender.lenderSize ∧
        amount req.size = (lenders.map fun l => amount l.lenderSize).sum ∧
        (amount req.size = (req.lenderSizes.map amount).sum ↔
          ∀ l ∈ lenders, kind.keeps l = false → amount l.lenderSize = 0) := by
  obtain ⟨lenders, hlenders, hcollects⟩ := collects_unpack h
  have hlocs : req.lenderLocs = (lenders.filter kind.keeps).map Lender.loc := hcollects.locs
  have hsizes : req.lenderSizes = (lenders.filter kind.keeps).map Lender.lenderSize :=
    hcollects.sizes
  have htotal : amount req.size = amountOf lenders := hcollects.size.trans (Nat.zero_add _)
  refine ⟨?_, lenders, hlenders, hlocs, hsizes, htotal, ?_⟩
  · rw [hlocs, hsizes, List.length_map, List.length_map]
  · rw [← amountOf_eq_filter_iff, htotal, hsizes, List.map_map]
    rfl

/-- A message for a NUMA node, of the name `a`. -/
def numaMessage (lenders : List (List UInt8)) : List UInt8 :=
  Bytes.ofNat 4 1 ++ [97] ++ Bytes.ofNat 4 lenders.length ++ lenders.flatten

/-- A lender of four megabytes on a numa of node 1, with no port. -/
def lenderBytes (numaId : Nat) : List UInt8 :=
  Bytes.ofNat 8 (4 * 1024 * 1024) ++ Bytes.ofNat 4 1 ++ Bytes.ofNat 4 0 ++ Bytes.ofNat 4 numaId ++
    Bytes.ofNat 4 0xFFFFFFFF

/-- A request of eight megabytes in which only one of two lenders is listed. -/
def halfListed : UbseMemFdBorrowReq :=
  { base := { name := [97] }
    size := num (8 * 1024 * 1024)
    lenderLocs := [{ nodeId := [49], numaId := num 2 }]
    lenderSizes := [num (4 * 1024 * 1024)] }

/-- Two lenders, of which one leaves its numa open. -/
theorem lenders_counted_halfListed :
    LenderMessage.numa.unpack.read (numaMessage [lenderBytes 2, lenderBytes 0xFFFFFFFF]) =
        .ok halfListed ∧
      halfListed.lenderSizes.length = halfListed.lenderLocs.length ∧
        ∃ lenders,
          LenderMessage.numa.lenders.read
              (numaMessage [lenderBytes 2, lenderBytes 0xFFFFFFFF]) = .ok lenders ∧
            halfListed.lenderLocs =
              (lenders.filter LenderMessage.numa.keeps).map Lender.loc ∧
            halfListed.lenderSizes =
              (lenders.filter LenderMessage.numa.keeps).map Lender.lenderSize ∧
            amount halfListed.size = (lenders.map fun l => amount l.lenderSize).sum ∧
            (amount halfListed.size = (halfListed.lenderSizes.map amount).sum ↔
              ∀ l ∈ lenders, LenderMessage.numa.keeps l = false → amount l.lenderSize = 0) := by
  have hread : LenderMessage.numa.unpack.read
      (numaMessage [lenderBytes 2, lenderBytes 0xFFFFFFFF]) = .ok halfListed := by
    decide +kernel
  exact ⟨hread, lenders_counted .numa _ halfListed hread⟩

/-- **The lists need not sum up to the total**: a single lender that leaves its numa open is in
no list, but it counts. -/
theorem not_total_of_lists :
    ¬ ∀ (kind : LenderMessage) (buffer : List UInt8) (req : UbseMemFdBorrowReq),
      kind.unpack.read buffer = .ok req →
        req.lenderSizes.length = req.lenderLocs.length ∧
          amount req.size = (req.lenderSizes.map amount).sum := by
  intro h
  have hread : LenderMessage.numa.unpack.read (numaMessage [lenderBytes 0xFFFFFFFF]) =
      .ok { base := { name := [97] }, size := num (4 * 1024 * 1024) } := by
    decide +kernel
  exact absurd (h .numa _ _ hread).2 (by decide +kernel)

end Convert

end UbsEngine
