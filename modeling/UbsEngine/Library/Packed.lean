import Mathlib.Algebra.BigOperators.Group.List.Basic
import Mathlib.Data.Vector.Basic
import UbsEngine.Library.Bytes

/-!
# Packed buffers

Fields are packed one after another into a buffer of a fixed size, and read back from its
front. A `UbsEngine.Packed.Writer` keeps what it has written and the room that is left; a
`UbsEngine.Packed.Reader` keeps the bytes that are left, and it may refuse.

The two rules that everything else is assembled from are `UbsEngine.Packed.Writes.bind` and
`UbsEngine.Packed.Reads.bind`: fields one after another write the bytes of each, and read them
back. For the converse there is `UbsEngine.Packed.bind_eq_ok`, which takes a successful reading
apart.
-/

namespace UbsEngine

namespace Packed

/-! ### Numbers of a fixed width -/

/-- A type of numbers of `size` bytes. -/
class Word (α : Type) where
  size : Nat
  toBits : α → BitVec (8 * size)
  ofBits : BitVec (8 * size) → α
  ofBits_toBits (x : α) : ofBits (toBits x) = x

instance : Word UInt8 := ⟨1, UInt8.toBitVec, UInt8.ofBitVec, fun _ => rfl⟩

instance : Word UInt16 := ⟨2, UInt16.toBitVec, UInt16.ofBitVec, fun _ => rfl⟩

instance : Word UInt32 := ⟨4, UInt32.toBitVec, UInt32.ofBitVec, fun _ => rfl⟩

instance : Word UInt64 := ⟨8, UInt64.toBitVec, UInt64.ofBitVec, fun _ => rfl⟩

instance : Word Int32 := ⟨4, Int32.toBitVec, fun x => ⟨⟨x⟩⟩, fun _ => rfl⟩

instance : Word Int64 := ⟨8, Int64.toBitVec, fun x => ⟨⟨x⟩⟩, fun _ => rfl⟩

/-- The bytes of a number. -/
def wordBytes {α : Type} [Word α] (x : α) : List UInt8 := Bytes.ofBitVec (Word.toBits x)

@[simp] theorem length_wordBytes {α : Type} [Word α] (x : α) :
    (wordBytes x).length = Word.size α :=
  Bytes.length_ofBitVec _

/-! ### Writing -/

/-- A buffer that is being filled: what is in it, and how many bytes are free. -/
structure Packer where
  written : List UInt8 := []
  remaining : Nat

/-- A writer fills a buffer, unless it gives up. -/
abbrev Writer (ε α : Type) := StateT Packer (Except ε) α

variable {ε α β : Type}

/-- Things of one size. -/
theorem length_flatMap_const {f : α → List UInt8} {c : Nat} (l : List α)
    (h : ∀ a ∈ l, (f a).length = c) : (l.flatMap f).length = l.length * c := by
  rw [List.length_flatMap, List.map_congr_left h, List.map_const', List.sum_replicate_nat]

/-- Some bytes, if there is room for them. Otherwise they are left out without notice. -/
def put (bs : List UInt8) : Writer ε Unit := fun s =>
  if s.remaining < bs.length then .ok ((), s)
  else .ok ((), { written := s.written ++ bs, remaining := s.remaining - bs.length })

/-- Some bytes, and giving up if there is no room for them. -/
def putOrElse (e : ε) (bs : List UInt8) : Writer ε Unit := fun s =>
  if s.remaining < bs.length then .error e
  else .ok ((), { written := s.written ++ bs, remaining := s.remaining - bs.length })

/-- One thing after the other. -/
def putAll (p : α → Writer ε Unit) : List α → Writer ε Unit
  | [] => pure ()
  | a :: as => do p a; putAll p as

/-- The writer writes just these bytes wherever they fit. -/
def Writes (p : Writer ε Unit) (bs : List UInt8) : Prop :=
  ∀ s : Packer, bs.length ≤ s.remaining →
    p s = .ok ((), { written := s.written ++ bs, remaining := s.remaining - bs.length })

theorem writes_put (bs : List UInt8) : Writes (put bs : Writer ε Unit) bs := fun _ h =>
  if_neg (Nat.not_lt.2 h)

theorem writes_putOrElse (e : ε) (bs : List UInt8) : Writes (putOrElse e bs) bs := fun _ h =>
  if_neg (Nat.not_lt.2 h)

theorem writes_pure : Writes (pure () : Writer ε Unit) [] := by
  intro s _
  change Except.ok ((), s) = _
  rw [List.append_nil]
  rfl

/-- Fields one after another write the bytes of each. -/
theorem Writes.bind {p q : Writer ε Unit} {bs bs' : List UInt8} (hp : Writes p bs)
    (hq : Writes q bs') : Writes (p >>= fun _ => q) (bs ++ bs') := by
  intro s h
  rw [List.length_append] at h
  change (p s >>= fun r => q r.2) = _
  rw [hp s (by omega)]
  refine (hq _ (by dsimp only; omega)).trans ?_
  rw [List.append_assoc, List.length_append, Nat.sub_add_eq]

theorem writes_putAll {p : α → Writer ε Unit} {f : α → List UInt8} (l : List α)
    (h : ∀ a ∈ l, Writes (p a) (f a)) : Writes (putAll p l) (l.flatMap f) := by
  induction l with
  | nil => exact writes_pure
  | cons a l ih =>
    rw [List.flatMap_cons]
    exact (h a List.mem_cons_self).bind (ih fun x hx => h x (List.mem_cons_of_mem a hx))

/-- An empty buffer of just the size of the bytes is full after them. -/
theorem Writes.run {p : Writer ε Unit} {bs : List UInt8} (h : Writes p bs) :
    p { remaining := bs.length } = .ok ((), { written := bs, remaining := 0 }) := by
  refine (h _ (Nat.le_refl _)).trans ?_
  rw [List.nil_append, Nat.sub_self]

/-! ### Reading -/

/-- A reader takes a value off the front of the bytes, unless it refuses them. -/
abbrev Reader (ε α : Type) := StateT (List UInt8) (Except ε) α

/-- The next `n` bytes. -/
def take (e : ε) (n : Nat) : Reader ε (List UInt8) := fun bs =>
  if bs.length < n then .error e else .ok (bs.take n, bs.drop n)

/-- A number of `n` bytes. -/
def word (e : ε) (n : Nat) : Reader ε (BitVec (8 * n)) := do
  let bs ← take e n
  pure (Bytes.toBitVec n bs)

/-- A number of a type of numbers. -/
def getWord (α : Type) [Word α] (e : ε) : Reader ε α := do
  let x ← word e (Word.size α)
  pure (Word.ofBits x)

/-- Refuses unless the condition holds. -/
def check (c : Prop) [Decidable c] (e : ε) : Reader ε Unit := fun bs =>
  if c then .ok ((), bs) else .error e

/-- A thing `n` times. -/
def times (p : Reader ε α) : (n : Nat) → Reader ε (List.Vector α n)
  | 0 => pure .nil
  | n + 1 => do
    let a ← p
    let v ← times p n
    pure (a ::ᵥ v)

/-- A list of a known length. -/
def timesList (p : Reader ε α) (n : Nat) : Reader ε (List α) := do
  let v ← times p n
  pure v.toList

/-- What a reader makes of some bytes, whatever is left of them. -/
def Reader.read (p : Reader ε α) (bs : List UInt8) : Except ε α :=
  (p bs).map Prod.fst

/-- The reader takes the value off these bytes, whatever comes after them. -/
def Reads (p : Reader ε α) (bs : List UInt8) (a : α) : Prop :=
  ∀ rest, p (bs ++ rest) = .ok (a, rest)

theorem Reads.read {p : Reader ε α} {bs : List UInt8} {a : α} (h : Reads p bs a) :
    p.read bs = .ok a := by
  have h := h []
  rw [List.append_nil] at h
  rw [Reader.read, h]
  rfl

theorem reads_pure (a : α) : Reads (pure a : Reader ε α) [] a := fun _ => rfl

/-- Fields one after another are read from the bytes of each. -/
theorem Reads.bind {p : Reader ε α} {q : α → Reader ε β} {bs bs' : List UInt8} {a : α} {b : β}
    (hp : Reads p bs a) (hq : Reads (q a) bs' b) : Reads (p >>= q) (bs ++ bs') b := by
  intro rest
  rw [List.append_assoc]
  change (p (bs ++ (bs' ++ rest)) >>= fun r => q r.1 r.2) = _
  rw [hp]
  exact hq rest

theorem Reads.map {p : Reader ε α} {bs : List UInt8} {a : α} (f : α → β) (hp : Reads p bs a) :
    Reads (p >>= fun a => pure (f a)) bs (f a) := by
  have h := hp.bind (q := fun a => pure (f a)) (reads_pure (f a))
  rwa [List.append_nil] at h

theorem reads_take (e : ε) {n : Nat} {bs : List UInt8} (h : bs.length = n) :
    Reads (take e n) bs bs := by
  intro rest
  have hlen : ¬ (bs ++ rest).length < n := by
    rw [List.length_append]
    omega
  refine (if_neg hlen).trans ?_
  rw [List.take_left' h, List.drop_left' h]

theorem reads_word (e : ε) {n : Nat} (x : BitVec (8 * n)) :
    Reads (word e n) (Bytes.ofBitVec x) x := by
  have h := (reads_take e (Bytes.length_ofBitVec x)).map (Bytes.toBitVec n)
  rwa [Bytes.toBitVec_ofBitVec] at h

theorem reads_getWord [Word α] (e : ε) (x : α) : Reads (getWord α e) (wordBytes x) x := by
  have h := (reads_word e (Word.toBits x)).map Word.ofBits
  rwa [Word.ofBits_toBits] at h

theorem reads_check {c : Prop} [Decidable c] (e : ε) (h : c) : Reads (check c e) [] () :=
  fun _ => if_pos h

theorem reads_times {p : Reader ε α} {f : α → List UInt8} (l : List α)
    (h : ∀ a ∈ l, Reads p (f a) a) : Reads (times p l.length) (l.flatMap f) ⟨l, rfl⟩ := by
  induction l with
  | nil => exact reads_pure _
  | cons a l ih =>
    rw [List.flatMap_cons]
    refine (h a List.mem_cons_self).bind ?_
    exact (ih fun x hx => h x (List.mem_cons_of_mem a hx)).map _

/-- The bytes of some things one after another. -/
def vectorBytes (f : α → List UInt8) {n : Nat} (v : List.Vector α n) : List UInt8 :=
  v.toList.flatMap f

theorem length_vectorBytes {f : α → List UInt8} {c n : Nat} (v : List.Vector α n)
    (h : ∀ a ∈ v.toList, (f a).length = c) : (vectorBytes f v).length = n * c := by
  rw [vectorBytes, length_flatMap_const _ h, v.toList_length]

theorem reads_times_vector {p : Reader ε α} {f : α → List UInt8} {n : Nat}
    (v : List.Vector α n) (h : ∀ a ∈ v.toList, Reads p (f a) a) :
    Reads (times p n) (vectorBytes f v) v := by
  obtain ⟨l, rfl⟩ := v
  exact reads_times l h

theorem reads_timesList {p : Reader ε α} {f : α → List UInt8} {n : Nat} (l : List α)
    (hn : l.length = n) (h : ∀ a ∈ l, Reads p (f a) a) :
    Reads (timesList p n) (l.flatMap f) l := by
  subst hn
  exact (reads_times l h).map _

/-! ### What was read -/

/-- A successful reading of two fields is one of each. -/
theorem bind_eq_ok {p : Reader ε α} {q : α → Reader ε β} {bs rest : List UInt8} {b : β} :
    (p >>= q) bs = .ok (b, rest) ↔
      ∃ a mid, p bs = .ok (a, mid) ∧ q a mid = .ok (b, rest) := by
  change (p bs >>= fun r => q r.1 r.2) = _ ↔ _
  constructor
  · intro h
    rcases hp : p bs with e | ⟨a, mid⟩
    · rw [hp] at h
      exact nomatch h
    · rw [hp] at h
      exact ⟨a, mid, rfl, h⟩
  · rintro ⟨a, mid, hp, hq⟩
    rw [hp]
    exact hq

theorem pure_eq_ok {bs rest : List UInt8} {a b : α} :
    (pure a : Reader ε α) bs = .ok (b, rest) ↔ a = b ∧ bs = rest := by
  change Except.ok (a, bs) = .ok (b, rest) ↔ _
  rw [Except.ok.injEq, Prod.mk.injEq]

theorem read_eq_ok {p : Reader ε α} {bs : List UInt8} {a : α} :
    p.read bs = .ok a ↔ ∃ rest, p bs = .ok (a, rest) := by
  rw [Reader.read]
  rcases p bs with e | ⟨b, rest⟩
  · exact ⟨fun h => (nomatch h), fun ⟨_, h⟩ => (nomatch h)⟩
  · constructor
    · intro h
      exact ⟨rest, congrArg (fun x => Except.ok (x, rest)) (Except.ok.inj h)⟩
    · rintro ⟨_, h⟩
      exact congrArg Except.ok (Prod.mk.inj (Except.ok.inj h)).1

theorem take_eq_ok {e : ε} {n : Nat} {bs rest a : List UInt8}
    (h : take e n bs = .ok (a, rest)) : a.length = n ∧ bs = a ++ rest := by
  rw [take] at h
  split at h
  · exact nomatch h
  · rename_i hlen
    obtain ⟨rfl, rfl⟩ := Prod.mk.inj (Except.ok.inj h)
    exact ⟨List.length_take_of_le (Nat.le_of_not_lt hlen), (List.take_append_drop n bs).symm⟩

theorem word_eq_ok {e : ε} {n : Nat} {bs rest : List UInt8} {x : BitVec (8 * n)}
    (h : word e n bs = .ok (x, rest)) : bs.length = n + rest.length := by
  obtain ⟨a, mid, ha, h⟩ := bind_eq_ok.1 h
  obtain ⟨-, rfl⟩ := pure_eq_ok.1 h
  obtain ⟨hlen, rfl⟩ := take_eq_ok ha
  rw [List.length_append, hlen]

theorem check_eq_ok {c : Prop} [Decidable c] {e : ε} {bs rest : List UInt8} {u : Unit}
    (h : check c e bs = .ok (u, rest)) : c ∧ bs = rest := by
  rw [check] at h
  split at h
  · rename_i hc
    exact ⟨hc, (Prod.mk.inj (Except.ok.inj h)).2⟩
  · exact nomatch h

/-- The values that are accepted have the property, and take as many bytes as they are packed
into. -/
def Accepts (p : Reader ε α) (P : α → Prop) (f : α → List UInt8) : Prop :=
  ∀ ⦃bs rest : List UInt8⦄ ⦃a : α⦄, p bs = .ok (a, rest) →
    P a ∧ bs.length = (f a).length + rest.length

theorem accepts_getWord [Word α] (e : ε) : Accepts (getWord α e) (fun _ => True) wordBytes := by
  intro bs rest x h
  obtain ⟨y, mid, hy, h⟩ := bind_eq_ok.1 h
  obtain ⟨-, rfl⟩ := pure_eq_ok.1 h
  rw [length_wordBytes]
  exact ⟨trivial, word_eq_ok hy⟩

theorem Accepts.times {p : Reader ε α} {P : α → Prop} {f : α → List UInt8} (hp : Accepts p P f)
    (n : Nat) :
    Accepts (times p n) (fun v => ∀ a ∈ v.toList, P a) (vectorBytes f) := by
  induction n with
  | zero =>
    intro bs rest v h
    obtain ⟨rfl, rfl⟩ := pure_eq_ok.1 h
    exact ⟨fun _ h => (nomatch h), (Nat.zero_add _).symm⟩
  | succ n ih =>
    intro bs rest v h
    obtain ⟨a, mid, ha, h⟩ := bind_eq_ok.1 h
    obtain ⟨w, mid', hw, h⟩ := bind_eq_ok.1 h
    obtain ⟨rfl, rfl⟩ := pure_eq_ok.1 h
    obtain ⟨hPa, hlen⟩ := hp ha
    obtain ⟨hPw, hlen'⟩ := ih hw
    rw [vectorBytes] at hlen'
    simp only [vectorBytes, List.Vector.toList_cons, List.flatMap_cons, List.length_append]
    refine ⟨?_, by omega⟩
    intro x hx
    rcases List.mem_cons.1 hx with rfl | hx
    · exact hPa
    · exact hPw x hx

theorem Accepts.timesList {p : Reader ε α} {P : α → Prop} {f : α → List UInt8}
    (hp : Accepts p P f) (n : Nat) :
    Accepts (timesList p n) (fun l => l.length = n ∧ ∀ a ∈ l, P a) (List.flatMap f) := by
  intro bs rest l h
  obtain ⟨v, mid, hv, h⟩ := bind_eq_ok.1 h
  obtain ⟨rfl, rfl⟩ := pure_eq_ok.1 h
  obtain ⟨hP, hlen⟩ := hp.times n hv
  exact ⟨⟨v.toList_length, hP⟩, hlen⟩

end Packed

end UbsEngine
