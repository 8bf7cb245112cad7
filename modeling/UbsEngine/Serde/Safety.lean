import UbsEngine.Serde.DeSerialization

/-!
# Reading arbitrary bytes

The bytes that are deserialized may come from anywhere. For every buffer and every sequence of
reads, the record of the reading ought to be safe (`UbsEngine.Serde.Access.Safe`): all bytes
that are fetched lie inside the buffer, nothing that is computed wraps, container loops end
after as many turns as there is room for elements, and the position stays inside the buffer.
Two places of the code are the exception (`UbsEngine.Serde.Access.Fits`): `get` moves the
position by the length it finds before it compares it with the end of the buffer, and the loop
of a set takes all the turns that were declared, even when nothing is left to read.

`UbsEngine.Serde.Shape.readBuffer_safe_iff` says that these are the only two, and that each of
them always shows. The proof goes operator by operator: from a good state
(`UbsEngine.Serde.Good`) each of them leads to a good state and records only what is safe and
fits, or it records both something that does not fit and something that is not safe.
-/

namespace UbsEngine

namespace Serde

open Recorded

/-- The entry of the record is as it should be. -/
def Access.Safe : Access → Prop
  | fetch pos n size => pos + n ≤ size
  | sum x y => x + y < 2 ^ 64
  | diff x y => y ≤ x
  | loop turns unit room => turns ≤ room / unit + 1
  | move before after pos size => (before = false → after = false) ∧ pos ≤ size
  | length .. | elements .. => True

/-- What is declared in the buffer is not larger than the buffer: a length is no longer than
what follows it, and a set has no more elements than there is room for. -/
def Access.Fits : Access → Prop
  | length declared off room => Bytes.alignUp off declared ≤ room
  | elements declared unit room => declared ≤ room / unit + 1
  | fetch .. | sum .. | diff .. | loop .. | move .. => True

/-- The deserializer is as its constructor and its operators leave it, with the position inside
the buffer. -/
structure Good (s : UbseDeSerialization) : Prop where
  size : s.mBuf.length < MAX_CAPACITY
  off : s.mAlignOffset < 2 ^ 32
  align : s.mFlag = true → ∃ a : ALIGN_BASE, s.mAlignOffset = a.offset
  pos : s.mPos ≤ s.mBuf.length

/-- The state after a part of a reading is good, and the flag and the position only went one
way. -/
structure Kept (s s' : UbseDeSerialization) : Prop where
  good : Good s'
  mBuf : s'.mBuf = s.mBuf
  mAlignOffset : s'.mAlignOffset = s.mAlignOffset
  mPos : s.mPos ≤ s'.mPos
  sticky : s.mFlag = false → s'.mFlag = false

/-- Moreover, if the flag is still set, a head block at least has been read. -/
structure Passed (s s' : UbseDeSerialization) : Prop extends Kept s s' where
  progress : s'.mFlag = true → s.mPos + Bytes.alignUp s.mAlignOffset headSize ≤ s'.mPos

/-- The record of a program is exactly as safe as it fits, and the program establishes `Q`. -/
abbrev Reads {α : Type} (f : Reader α) (s : UbseDeSerialization)
    (Q : α → UbseDeSerialization → Prop) : Prop :=
  Exact Access.Safe Access.Fits f s Q

variable {α : Type} {s s' s'' : UbseDeSerialization}

namespace Kept

theorem refl (hs : Good s) : Kept s s := ⟨hs, rfl, rfl, Nat.le_refl _, fun h => h⟩

theorem trans (h : Kept s s') (h' : Kept s' s'') : Kept s s'' where
  good := h'.good
  mBuf := h'.mBuf.trans h.mBuf
  mAlignOffset := h'.mAlignOffset.trans h.mAlignOffset
  mPos := h.mPos.trans h'.mPos
  sticky hs := h'.sticky (h.sticky hs)

theorem flag_of_flag (h : Kept s s') (hs' : s'.mFlag = true) : s.mFlag = true := by
  cases hs : s.mFlag with
  | true => rfl
  | false => exact absurd ((h.sticky hs).symm.trans hs') Bool.false_ne_true

end Kept

theorem Passed.trans (h : Passed s s') (h' : Kept s' s'') : Passed s s'' where
  toKept := h.toKept.trans h'
  progress hs'' := (h.progress (h'.flag_of_flag hs'')).trans h'.mPos

/-- Clearing the flag passes for reading. -/
theorem Good.passed_fail (hs : Good s) : Passed s { s with mFlag := false } where
  good := ⟨hs.size, hs.off, fun h => absurd h Bool.false_ne_true, hs.pos⟩
  mBuf := rfl
  mAlignOffset := rfl
  mPos := Nat.le_refl _
  sticky _ := rfl
  progress h := absurd h Bool.false_ne_true

/-- Moving on inside the buffer, by a head block at least. -/
theorem Good.passed_move (hs : Good s) {n : Nat} (hn : Bytes.alignUp s.mAlignOffset headSize ≤ n)
    (hroom : s.mPos + n ≤ s.mBuf.length) : Passed s { s with mPos := s.mPos + n } where
  good := ⟨hs.size, hs.off, hs.align, hroom⟩
  mBuf := rfl
  mAlignOffset := rfl
  mPos := Nat.le_add_right _ _
  sticky h := h
  progress _ := Nat.add_le_add_left hn _

/-! ### The private functions -/

theorem alignUp_le (mask l : Nat) : Bytes.alignUp mask l ≤ l + mask :=
  Nat.and_le_left.trans (Nat.mod_le _ _)

/-- A padded head block has four bytes at least. -/
theorem Good.head_le (hs : Good s) (hflag : s.mFlag = true) :
    headSize ≤ Bytes.alignUp s.mAlignOffset headSize := by
  obtain ⟨a, ha⟩ := hs.align hflag
  rw [ha]
  exact (headLen_spec a).2.1

theorem lengthOf_lt {type head len : Nat} (h : Reader.lengthOf type head = some len) :
    len < MAX_CAPACITY := by
  rw [Reader.lengthOf] at h
  split at h
  · rw [← Option.some.inj h, LEN_CTRL_MASK, Nat.and_two_pow_sub_one_eq_mod]
    exact Nat.mod_lt _ (by decide)
  · exact nomatch h

namespace Reader

variable {β : Type} {g : α → Reader β} {Q : β → UbseDeSerialization → Prop}

/-! Each of these is followed by the rest of a program. -/

theorem fetch_reads {pos n : Nat} {g : List UInt8 → Reader β} (h : pos + n ≤ s.mBuf.length)
    (hg : Reads (g ((s.mBuf.drop pos).take n)) s Q) : Reads (fetch pos n >>= g) s Q :=
  Exact.congr (k := note [.fetch pos n s.mBuf.length] >>= fun _ => g _) (by simp [fetch])
    (Exact.note h trivial hg)

theorem alignTo_reads {l : Nat} {g : Nat → Reader β} (h : l + s.mAlignOffset < 2 ^ 64)
    (hg : Reads (g (Bytes.alignUp s.mAlignOffset l)) s Q) : Reads (alignTo l >>= g) s Q :=
  Exact.congr (k := note [.sum l s.mAlignOffset] >>= fun _ => g _) (by simp [alignTo])
    (Exact.note h trivial hg)

theorem advance_reads {n : Nat} {g : Unit → Reader β} (h : s.mPos + n < 2 ^ 64)
    (hg : Reads (g ()) { s with mPos := s.mPos + n } Q) : Reads (advance n >>= g) s Q :=
  Exact.note (e := Access.sum s.mPos n) h trivial (Exact.change hg)

theorem remaining_reads {g : Nat → Reader β} (h : s.mPos ≤ s.mBuf.length)
    (hg : Reads (g (s.mBuf.length - s.mPos)) s Q) : Reads (remaining >>= g) s Q :=
  Exact.congr (k := note [.diff s.mBuf.length s.mPos] >>= fun _ => g _) (by simp [remaining])
    (Exact.note h trivial hg)

theorem fail_reads {g : Unit → Reader β} (hg : Reads (g ()) { s with mFlag := false } Q) :
    Reads (fail >>= g) s Q := hg

/-- `checkValid` clears the flag, or there is room for what is expected. -/
theorem checkValid_reads {n : Nat} {g : Bool → Reader β} (h : s.mFlag = true → s.mPos + n < 2 ^ 64)
    (hfail : Reads (g false) { s with mFlag := false } Q)
    (hok : s.mFlag = true → s.mPos + n ≤ s.mBuf.length → Reads (g true) s Q) :
    Reads (checkValid n >>= g) s Q := by
  cases hflag : s.mFlag with
  | false =>
    have hs : { s with mFlag := false } = s := by rw [← hflag]
    rw [hs] at hfail
    exact Exact.congr (by simp [checkValid, hflag]) hfail
  | true =>
    by_cases hn : n = 0 ∨ s.mPos + n > s.mBuf.length
    · refine Exact.congr (k := note [.sum s.mPos n] >>= fun _ => fail >>= fun _ => g false) ?_
        (Exact.note (h hflag) trivial (fail_reads hfail))
      simp [checkValid, hflag, hn, fail]
    · refine Exact.congr (k := note [.sum s.mPos n] >>= fun _ => g true) ?_
        (Exact.note (h hflag) trivial (hok hflag (by omega)))
      simp [checkValid, hflag, hn]

theorem readLenByType_reads {type : Nat} {g : Option Nat → Reader β}
    (h : s.mPos + headSize ≤ s.mBuf.length)
    (hg : Reads (g (lengthOf type (Bytes.toNat ((s.mBuf.drop s.mPos).take headSize)))) s Q) :
    Reads (readLenByType type >>= g) s Q :=
  Exact.congr (k := note [.fetch s.mPos headSize s.mBuf.length] >>= fun _ => g _)
    (by simp [readLenByType, fetch]) (Exact.note h trivial hg)

end Reader

/-- An operator records where it leaves the position, which is inside the buffer if its body
ends in a good state. -/
theorem operator_reads {f : Reader α} {Q : α → UbseDeSerialization → Prop} (hf : Reads f s Q)
    (hQ : ∀ x s', Q x s' → Good s' ∧ (s.mFlag = false → s'.mFlag = false)) :
    Reads (Reader.operator f) s Q := by
  refine Exact.state (hf.bind fun x s' h => ?_)
  obtain ⟨hgood, hsticky⟩ := hQ x s' h
  have hmove : (Access.move s.mFlag s'.mFlag s'.mPos s'.mBuf.length).Safe := ⟨hsticky, hgood.pos⟩
  exact Exact.congr (k := note [.move s.mFlag s'.mFlag s'.mPos s'.mBuf.length] >>= fun _ => pure x)
    (by simp [Reader.leave]) (Exact.note hmove trivial (Exact.pure h))

/-- The body of an operator that reads on in the same buffer. -/
theorem operator_kept {f : Reader α} {Q : α → UbseDeSerialization → Prop}
    (hf : Reads f s fun x s' => Kept s s' ∧ Q x s') :
    Reads (Reader.operator f) s fun x s' => Kept s s' ∧ Q x s' :=
  operator_reads hf fun _ _ h => ⟨h.1.good, h.1.sticky⟩

/-! ### The operators that move the position -/

/-- The length of an array: if it is not zero, the flag is set. -/
theorem arrayLenCapture_reads (hs : Good s) :
    Reads Reader.arrayLenCapture s fun len s' => Kept s s' ∧ Passed s s' ∧
      (len ≠ 0 → s'.mFlag = true) := by
  have hoff := hs.off
  have hsize := hs.size
  have hpos := hs.pos
  have hal := alignUp_le s.mAlignOffset headSize
  rw [MAX_CAPACITY] at hsize
  rw [headSize] at hal
  have hfail := hs.passed_fail
  refine operator_kept (Reader.alignTo_reads (by rw [headSize]; omega)
    (Reader.checkValid_reads (fun _ => by rw [headSize]; omega) ?_ fun hflag hroom => ?_))
  · exact Exact.pure ⟨hfail.toKept, hfail, fun h => absurd rfl h⟩
  · have hhead := hs.head_le hflag
    refine Reader.readLenByType_reads (by omega) ?_
    cases Reader.lengthOf ARRAY_CTRL_CODE (Bytes.toNat ((s.mBuf.drop s.mPos).take headSize)) with
    | none => exact Reader.fail_reads (Exact.pure ⟨hfail.toKept, hfail, fun h => absurd rfl h⟩)
    | some len =>
      have hmove := hs.passed_move (Nat.le_refl _) hroom
      exact Reader.advance_reads (by omega) (Exact.pure ⟨hmove.toKept, hmove, fun _ => hflag⟩)

theorem scalar_reads (hs : Good s) (t : ScalarType) (param : t.Val) :
    Reads (Reader.scalar t param) s fun _ s' => Kept s s' ∧ Passed s s' := by
  have hoff := hs.off
  have hsize := hs.size
  have hpos := hs.pos
  have hle := t.size_le
  have hal := alignUp_le s.mAlignOffset headSize
  have hal' := alignUp_le s.mAlignOffset t.size
  rw [MAX_CAPACITY] at hsize
  rw [headSize] at hal
  have hfail := hs.passed_fail
  refine operator_kept (Reader.alignTo_reads (by rw [headSize]; omega)
    (Reader.alignTo_reads (by omega) (Exact.note (by rw [headSize]; change _ < _; omega) trivial
      (Reader.checkValid_reads (fun _ => by rw [headSize]; omega) ?_ fun hflag hroom => ?_))))
  · exact Exact.pure ⟨hfail.toKept, hfail⟩
  · have hhead := hs.head_le hflag
    have hsizeLe : t.size ≤ Bytes.alignUp s.mAlignOffset t.size := by
      obtain ⟨a, ha⟩ := hs.align hflag
      rw [ha]
      exact (alignUp_spec a (by omega)).2.1
    refine Reader.readLenByType_reads (by omega) ?_
    by_cases ho : Reader.lengthOf t.typeId
        (Bytes.toNat ((s.mBuf.drop s.mPos).take headSize)) ≠ some t.size
    · rw [if_pos ho]
      exact Reader.fail_reads (Exact.pure ⟨hfail.toKept, hfail⟩)
    · rw [if_neg ho]
      have hmove := hs.passed_move (Nat.le_add_right _ (Bytes.alignUp s.mAlignOffset t.size)) hroom
      rw [← Nat.add_assoc] at hmove
      refine Reader.advance_reads (by omega) (Exact.state (Reader.fetch_reads ?_
        (Reader.advance_reads ?_ (Exact.pure ⟨hmove.toKept, hmove⟩))))
      · change s.mPos + _ + t.size ≤ s.mBuf.length
        omega
      · change s.mPos + _ + _ < _
        omega

/-- The step of `get` that moves the position behind the payload: if the length does not fit,
this shows when the operator returns. -/
theorem get_unfit {type len : Nat} (hflag : s.mFlag = true)
    (hpos : Bytes.alignUp s.mAlignOffset headSize ≠ 0)
    (hroom : s.mPos + Bytes.alignUp s.mAlignOffset headSize ≤ s.mBuf.length)
    (hlen : Reader.lengthOf type (Bytes.toNat ((s.mBuf.drop s.mPos).take headSize)) = some len)
    (hunfit : s.mBuf.length - (s.mPos + Bytes.alignUp s.mAlignOffset headSize) <
      Bytes.alignUp s.mAlignOffset len) (Q : Option (Nat × Nat) → UbseDeSerialization → Prop) :
    Reads (Reader.get type) s Q := by
  have hn : ¬(Bytes.alignUp s.mAlignOffset headSize = 0 ∨
      s.mPos + Bytes.alignUp s.mAlignOffset headSize > s.mBuf.length) := by omega
  have hover : s.mBuf.length < s.mPos + Bytes.alignUp s.mAlignOffset headSize +
      Bytes.alignUp s.mAlignOffset len := by omega
  refine .inr ⟨⟨.move true false (s.mPos + Bytes.alignUp s.mAlignOffset headSize +
    Bytes.alignUp s.mAlignOffset len) s.mBuf.length, ?_, fun h => ?_⟩,
    .length len s.mAlignOffset (s.mBuf.length -
      (s.mPos + Bytes.alignUp s.mAlignOffset headSize)), ?_, Nat.not_le.mpr hunfit⟩
  · simp [Reader.get, Reader.operator, Reader.alignTo, Reader.checkValid, Reader.readLenByType,
      Reader.fetch, Reader.advance, Reader.leave, Reader.fail, hflag, hn, hlen, hover]
  · exact absurd h.2 (Nat.not_le.mpr hover)
  · simp [Reader.get, Reader.operator, Reader.alignTo, Reader.checkValid, Reader.readLenByType,
      Reader.fetch, Reader.advance, Reader.leave, Reader.fail, hflag, hn, hlen, hover]

/-- The payload of a block that `get` hands out lies inside the buffer. -/
theorem get_reads (hs : Good s) (type : Nat) :
    Reads (Reader.get type) s fun o s' => Kept s s' ∧ Passed s s' ∧
      ∀ addr len, o = some (addr, len) → s.mPos ≤ addr ∧ addr + len ≤ s.mBuf.length := by
  have hoff := hs.off
  have hsize := hs.size
  have hpos := hs.pos
  have hal := alignUp_le s.mAlignOffset headSize
  rw [MAX_CAPACITY] at hsize
  rw [headSize] at hal
  have hfail := hs.passed_fail
  have hnone : ∀ addr len, (none : Option (Nat × Nat)) = some (addr, len) →
      s.mPos ≤ addr ∧ addr + len ≤ s.mBuf.length := fun _ _ h => nomatch h
  by_cases hunfit : s.mFlag = true ∧
      s.mPos + Bytes.alignUp s.mAlignOffset headSize ≤ s.mBuf.length ∧
      ∃ len, Reader.lengthOf type (Bytes.toNat ((s.mBuf.drop s.mPos).take headSize)) = some len ∧
        s.mBuf.length - (s.mPos + Bytes.alignUp s.mAlignOffset headSize) <
          Bytes.alignUp s.mAlignOffset len
  · obtain ⟨hflag, hroom, len, hlen, hlt⟩ := hunfit
    have hhead := hs.head_le hflag
    rw [headSize] at hhead
    exact get_unfit hflag (by rw [headSize]; omega) hroom hlen hlt _
  · refine operator_kept (Reader.alignTo_reads (by rw [headSize]; omega)
      (Reader.checkValid_reads (fun _ => by rw [headSize]; omega) ?_ fun hflag hroom => ?_))
    · exact Reader.fail_reads (Exact.pure ⟨hfail.toKept, hfail, hnone⟩)
    · have hhead := hs.head_le hflag
      refine Reader.readLenByType_reads (by omega) ?_
      cases ho : Reader.lengthOf type (Bytes.toNat ((s.mBuf.drop s.mPos).take headSize)) with
      | none => exact Reader.fail_reads (Exact.pure ⟨hfail.toKept, hfail, hnone⟩)
      | some len =>
        -- the length fits what follows, and the padding with it
        have hfit : Bytes.alignUp s.mAlignOffset len ≤
            s.mBuf.length - (s.mPos + Bytes.alignUp s.mAlignOffset headSize) :=
          Nat.le_of_not_lt fun hlt => hunfit ⟨hflag, hroom, len, ho, hlt⟩
        have hlt : len < 2 ^ 24 := lengthOf_lt ho
        have hlen : len ≤ Bytes.alignUp s.mAlignOffset len := by
          obtain ⟨a, ha⟩ := hs.align hflag
          rw [ha]
          exact (alignUp_spec a (by omega)).2.1
        have hend : s.mPos + Bytes.alignUp s.mAlignOffset headSize +
            Bytes.alignUp s.mAlignOffset len ≤ s.mBuf.length := by omega
        have hmove := hs.passed_move (Nat.le_add_right _ (Bytes.alignUp s.mAlignOffset len))
          (Nat.add_assoc _ _ _ ▸ hend)
        rw [← Nat.add_assoc] at hmove
        refine Reader.advance_reads (by omega) (Exact.state (Exact.note trivial hfit
          (Reader.alignTo_reads (by change len + s.mAlignOffset < _; omega)
            (Reader.advance_reads (hend.trans_lt (by omega)) (Exact.state ?_)))))
        rw [if_neg (Nat.not_lt.mpr hend)]
        refine Exact.pure ⟨hmove.toKept, hmove, fun addr len' h => ?_⟩
        obtain ⟨rfl, rfl⟩ := Prod.mk.inj (Option.some.inj h)
        exact ⟨Nat.le_add_right _ _, by change s.mPos + _ + len ≤ _; omega⟩

/-! ### Strings and vectors -/

/-- The last of several operators clears the flag. -/
theorem Passed.fail (h : Passed s s') : Passed s { s' with mFlag := false } :=
  h.trans h.good.passed_fail.toKept

theorem string_reads (hs : Good s) (str : List UInt8) :
    Reads (Reader.string str) s fun _ s' => Passed s s' := by
  refine (get_reads hs stringTypeId).bind fun o s' ⟨hkept, hpassed, ho⟩ => ?_
  cases o with
  | none => exact Exact.pure hpassed
  | some block =>
    obtain ⟨addr, len⟩ := block
    obtain ⟨_, hend⟩ := ho addr len rfl
    by_cases hlen : len = 0
    · simp only [if_pos hlen]
      exact Reader.fail_reads (Exact.pure hpassed.fail)
    · simp only [if_neg hlen]
      rw [← bind_pure (Reader.fetch addr (len - 1))]
      exact Reader.fetch_reads (by rw [hkept.mBuf]; omega) (Exact.pure hpassed)

/-- The elements of a vector are fetched from the payload. -/
theorem elements_reads (t : ScalarType) (n p : Nat) (h : p + n * t.size ≤ s.mBuf.length) :
    Reads (Reader.elements t n p) s fun _ s' => s' = s := by
  induction n generalizing p with
  | zero => exact Exact.pure rfl
  | succ n ih =>
    rw [Nat.add_mul, Nat.one_mul] at h
    refine Reader.fetch_reads (by omega) ((ih (p + t.size) (by omega)).bind fun rest s' hs' => ?_)
    exact Exact.pure hs'

theorem scalars_reads (hs : Good s) (t : ScalarType) (vec : List t.Val) :
    Reads (Reader.scalars t vec) s fun _ s' => Passed s s' := by
  refine (arrayLenCapture_reads hs).bind fun len s₁ ⟨hkept₁, hpassed₁, _⟩ => ?_
  by_cases hlen : len = 0
  · rw [if_pos hlen]
    exact Exact.pure hpassed₁
  rw [if_neg hlen]
  refine Exact.state ((get_reads hkept₁.good t.vectorTypeId).bind fun o s₂ ⟨hkept₂, _, ho⟩ => ?_)
  have hpassed₂ := hpassed₁.trans hkept₂
  cases o with
  | none => exact Exact.pure hpassed₂
  | some block =>
    obtain ⟨addr, baseLen⟩ := block
    obtain ⟨haddr, hend⟩ := ho addr baseLen rfl
    by_cases hbad : baseLen = 0 ∨ baseLen % t.size ≠ 0 ∨ baseLen / t.size ≠ len
    · simp only [if_pos hbad]
      exact Reader.fail_reads (Exact.pure hpassed₂.fail)
    · simp only [if_neg hbad]
      rw [not_or, not_or, not_ne_iff, not_ne_iff] at hbad
      obtain ⟨_, hmod, hdiv⟩ := hbad
      have hmul : len * t.size = baseLen := by
        rw [← hdiv]
        exact Nat.div_mul_cancel (Nat.dvd_of_mod_eq_zero hmod)
      have hturns : len ≤ (s₁.mBuf.length - s₁.mPos) / t.size + 1 := by
        refine Nat.le_succ_of_le ((Nat.le_div_iff_mul_le t.size_pos).mpr ?_)
        omega
      refine Exact.note hturns trivial ?_
      have hfetch : addr + len * t.size ≤ s₂.mBuf.length := by
        rw [hmul, hkept₂.mBuf]
        exact hend
      exact (elements_reads t len addr hfetch).mono fun _ s' hs' => hs' ▸ hpassed₂

/-- A program that reads an object: from any good state, it passes for reading. -/
def Sound {α : Type} (f : Reader α) : Prop :=
  ∀ s, Good s → Reads f s fun _ s' => Passed s s'

theorem vector_sound {read : α → Reader α} (hread : ∀ x, Sound (read x)) (fresh : α)
    (vec : List α) : Sound (Reader.vector read fresh vec) := by
  intro s hs
  refine (arrayLenCapture_reads hs).bind fun len s₁ ⟨hkept₁, hpassed₁, _⟩ => ?_
  by_cases hlen : len = 0
  · rw [if_pos hlen]
    exact Exact.pure hpassed₁
  rw [if_neg hlen]
  have hoff := hkept₁.good.off
  refine Reader.alignTo_reads (by rw [headSize]; omega) ?_
  refine Reader.remaining_reads hkept₁.good.pos ?_
  split
  · exact Reader.fail_reads (Exact.pure hpassed₁.fail)
  · next hbad =>
    rw [not_or] at hbad
    refine Exact.note (Nat.le_succ_of_le (Nat.le_of_not_lt hbad.2)) trivial ?_
    refine Exact.mapM (I := Passed s) (fun x _ s' hs' => ?_) hpassed₁
    exact (hread x s' hs'.good).mono fun _ _ h => hs'.trans h.toKept

/-! ### Maps and sets -/

/-- The turns of the loop of a map: all but the last one have read a head block at least. -/
def TurnsFit (s s' : UbseDeSerialization) (turns : Nat) : Prop :=
  (turns - 1) * Bytes.alignUp s.mAlignOffset headSize + s.mPos ≤ s'.mPos

theorem mapLoop_reads {K V : Type} [DecidableEq K] {readKey : Reader K} {readVal : V → Reader V}
    (hkey : Sound readKey) (hval : ∀ v, Sound (readVal v)) (fresh : V) (n : Nat)
    (map : OrderedMap K V) (hs : Good s) :
    Reads (Reader.mapLoop readKey readVal fresh n map) s fun r s' =>
      Kept s s' ∧ TurnsFit s s' r.2 ∧ (r.2 ≠ 0 → s.mFlag = true) := by
  induction n generalizing map s with
  | zero =>
    refine Exact.pure ⟨.refl hs, ?_, fun h => absurd rfl h⟩
    rw [TurnsFit, Nat.zero_sub, Nat.zero_mul, Nat.zero_add]
  | succ n ih =>
    refine Exact.state ?_
    cases hflag : s.mFlag with
    | false =>
      refine Exact.pure ⟨.refl hs, ?_, fun h => absurd rfl h⟩
      rw [TurnsFit, Nat.zero_sub, Nat.zero_mul, Nat.zero_add]
    | true =>
      refine (hkey s hs).bind fun key s₁ h₁ => ?_
      refine (hval _ s₁ h₁.good).bind fun val s₂ h₂ => ?_
      refine (ih (map.put key val) h₂.good).bind fun r s₃ ⟨h₃, hturns, hmore⟩ => ?_
      have h₀₂ : Passed s s₂ := h₁.trans h₂.toKept
      refine Exact.pure ⟨(h₀₂.trans h₃).toKept, ?_, fun _ => rfl⟩
      rw [TurnsFit, Nat.add_sub_cancel]
      rw [TurnsFit, h₀₂.mAlignOffset] at hturns
      -- one more turn was taken only if this one has left the flag set
      by_cases hzero : r.2 = 0
      · rw [hzero, Nat.zero_mul, Nat.zero_add]
        exact (h₀₂.trans h₃).mPos
      · have hprogress := h₀₂.progress (hmore hzero)
        obtain ⟨k, hk⟩ := Nat.exists_eq_succ_of_ne_zero hzero
        rw [hk, Nat.succ_sub_one] at hturns
        rw [hk, Nat.succ_mul]
        omega

theorem map_sound {K V : Type} [DecidableEq K] {readKey : Reader K} {readVal : V → Reader V}
    (hkey : Sound readKey) (hval : ∀ v, Sound (readVal v)) (fresh : V) (map : OrderedMap K V) :
    Sound (Reader.map readKey readVal fresh map) := by
  intro s hs
  refine (arrayLenCapture_reads hs).bind fun len s₁ ⟨hkept₁, hpassed₁, _⟩ => Exact.state ?_
  refine (mapLoop_reads hkey hval fresh len map hkept₁.good).bind
    fun r s₂ ⟨hkept₂, hturns, hmore⟩ => ?_
  have hloop : (Access.loop r.2 (Bytes.alignUp s₁.mAlignOffset headSize)
      (s₁.mBuf.length - s₁.mPos)).Safe := by
    change r.2 ≤ _ / _ + 1
    by_cases hzero : r.2 = 0
    · rw [hzero]
      exact Nat.zero_le _
    · have hhead := hkept₁.good.head_le (hmore hzero)
      have hend := hkept₂.good.pos
      rw [hkept₂.mBuf] at hend
      rw [TurnsFit] at hturns
      rw [headSize] at hhead
      have hdiv : r.2 - 1 ≤ (s₁.mBuf.length - s₁.mPos) / Bytes.alignUp s₁.mAlignOffset headSize :=
        (Nat.le_div_iff_mul_le (by rw [headSize]; omega)).mpr (by omega)
      omega
  exact Exact.note hloop trivial (Exact.pure (hpassed₁.trans hkept₂))

theorem setLoop_reads {α : Type} [DecidableEq α] {read : Reader α} (hread : Sound read) (n : Nat)
    (set : OrderedSet α) (hs : Good s) :
    Reads (Reader.setLoop read n set) s fun _ s' => Kept s s' := by
  induction n generalizing set s with
  | zero => exact Exact.pure (.refl hs)
  | succ n ih =>
    refine (hread s hs).bind fun x s₁ h₁ => ?_
    exact (ih (set.insert x) h₁.good).mono fun _ _ h => h₁.toKept.trans h

theorem unorderedSet_sound {α : Type} [DecidableEq α] {read : Reader α} (hread : Sound read)
    (set : OrderedSet α) : Sound (Reader.unorderedSet read set) := by
  intro s hs
  refine (arrayLenCapture_reads hs).bind fun len s₁ ⟨hkept₁, hpassed₁, _⟩ => ?_
  by_cases hlen : len = 0
  · rw [if_pos hlen]
    exact Exact.pure hpassed₁
  rw [if_neg hlen]
  refine Exact.state ?_
  by_cases hfit : len ≤ (s₁.mBuf.length - s₁.mPos) / Bytes.alignUp s₁.mAlignOffset headSize + 1
  · refine Exact.note trivial hfit ((setLoop_reads hread len set hkept₁.good).bind ?_)
    intro set' s₂ hkept₂
    exact Exact.note hfit trivial (Exact.pure (hpassed₁.trans hkept₂))
  · -- too many elements are declared, and the loop takes a turn for each of them
    refine .inr ⟨⟨.loop len (Bytes.alignUp s₁.mAlignOffset headSize)
      (s₁.mBuf.length - s₁.mPos), ?_, hfit⟩, .elements len (Bytes.alignUp s₁.mAlignOffset headSize)
      (s₁.mBuf.length - s₁.mPos), ?_, hfit⟩ <;> simp

/-! ### All types, and sequences of reads -/

/-- Every `>>` into an object, whatever the object holds. -/
theorem Ty.read_sound (t : Ty) (x : t.Val) : Sound (t.read x) := by
  induction t with
  | scalar t => exact fun s hs => (scalar_reads hs t x).mono fun _ _ h => h.2
  | string => exact fun s hs => string_reads hs x
  | scalars t => exact fun s hs => scalars_reads hs t x
  | vector t ih => exact vector_sound ih t.fresh x
  | map k v ihk ihv => exact map_sound (ihk k.fresh) ihv v.fresh x
  | unorderedSet t ih => exact unorderedSet_sound (ih t.fresh) x

theorem enum_sound (e : EnumType) (v : e.Val) : Sound (Reader.enum e v) := by
  intro s hs
  refine (scalar_reads hs .int _).bind fun i s' ⟨_, h⟩ => Exact.state (Exact.pure h)

/-- Rounding up to an alignment does not pass a multiple of it. -/
theorem alignUp_le_of_dvd (a : ALIGN_BASE) {l n : Nat} (hl : l < 2 ^ 63) (hle : l ≤ n)
    (hdvd : a.base ∣ n) : Bytes.alignUp a.offset l ≤ n := by
  obtain ⟨⟨k, hk⟩, _, hge⟩ := alignUp_spec a hl
  obtain ⟨m, hm⟩ := hdvd
  rw [hk] at hge ⊢
  rw [hm] at hle ⊢
  refine Nat.mul_le_mul_left a.base (Nat.le_of_lt_succ ?_)
  -- otherwise `l` would be rounded up by a whole base
  by_contra hlt
  have hmul : a.base * (m + 1) ≤ a.base * k := Nat.mul_le_mul_left _ (Nat.le_of_not_lt hlt)
  have hbase : a.base = a.offset + 1 := rfl
  rw [Nat.mul_add, Nat.mul_one] at hmul
  omega

theorem align_of_isValidAlign {off : Nat} (hoff : off < 2 ^ 32)
    (h : isValidAlign ((off + 1) % 2 ^ 32) = true) : ∃ a : ALIGN_BASE, off = a.offset := by
  have hcases : (off + 1) % 2 ^ 32 = 1 ∨ (off + 1) % 2 ^ 32 = 2 ∨ (off + 1) % 2 ^ 32 = 4 ∨
      (off + 1) % 2 ^ 32 = 8 := by
    simpa [isValidAlign, or_assoc] using h
  rcases hcases with h | h | h | h
  · exact ⟨.OFFSET_BASE_1, by change off = 0; omega⟩
  · exact ⟨.OFFSET_BASE_2, by change off = 1; omega⟩
  · exact ⟨.OFFSET_BASE_4, by change off = 3; omega⟩
  · exact ⟨.OFFSET_BASE_8, by change off = 7; omega⟩

theorem good_fresh : Good .fresh :=
  ⟨by decide, by decide, fun _ => ⟨.OFFSET_BASE_4, rfl⟩, Nat.le_refl 0⟩

theorem getCode_reads {β : Type} {g : Nat → Reader β} {Q : β → UbseDeSerialization → Prop}
    {buf : List UInt8} {idx : Nat} (hidx : idx < 3) (hmin : headSize * 3 ≤ buf.length)
    (hg : ∀ code, code < 2 ^ 32 → Reads (g code) s Q) : Reads (Reader.getCode buf idx >>= g) s Q := by
  rw [headSize] at hmin
  refine Exact.congr (t := s) (k := note [.fetch (idx * headSize) headSize buf.length] >>=
    fun _ => g (Bytes.toNat ((buf.drop (idx * headSize)).take headSize))) (by simp [Reader.getCode]) ?_
  refine Exact.note (by change _ + _ ≤ _; rw [headSize]; omega) trivial (hg _ ?_)
  have hfour : 256 ^ ((buf.drop (idx * headSize)).take headSize).length ≤ 256 ^ 4 :=
    Nat.pow_le_pow_right (by decide) (List.length_take_le _ _)
  exact (Bytes.toNat_lt _).trans_le hfour

/-- Taking a buffer, from a deserializer that has none. -/
theorem set_reads (buf : List UInt8) : Reads (Reader.set buf) .fresh fun _ s' => Good s' := by
  refine operator_reads (Exact.state ?_) fun _ s' hs' => ⟨hs', fun h => nomatch h⟩
  split
  · exact Exact.change_last good_fresh.passed_fail.good
  next hvalid =>
  rw [not_or, not_or] at hvalid
  obtain ⟨-, hmin, hmax⟩ := hvalid
  have hmin := Nat.le_of_not_lt hmin
  refine getCode_reads (by decide) hmin fun code _ => ?_
  split
  · exact Exact.change_last good_fresh.passed_fail.good
  refine getCode_reads (by decide) hmin fun off hoff => Exact.change (Exact.note ?_ trivial ?_)
  · change off + 1 < 2 ^ 64
    omega
  -- the alignment is kept even if the buffer is refused
  have hrefused : Good { UbseDeSerialization.fresh with mAlignOffset := off, mFlag := false } :=
    ⟨good_fresh.size, hoff, fun h => (nomatch h), Nat.le_refl 0⟩
  split
  · exact Exact.change_last hrefused
  next halign =>
  refine getCode_reads (by decide) hmin fun l _ => ?_
  split
  · exact Exact.change_last hrefused
  next hlen =>
  rw [not_or, not_ne_iff, not_ne_iff] at hlen
  obtain ⟨rfl, hmod⟩ := hlen
  have hvalid : isValidAlign ((off + 1) % 2 ^ 32) = true := by simpa using halign
  obtain ⟨a, rfl⟩ := align_of_isValidAlign hoff hvalid
  refine Reader.alignTo_reads (by change headSize * 3 + a.offset < _; rw [headSize]; omega) ?_
  refine Exact.change_last ⟨Nat.lt_of_not_le hmax, hoff, fun _ => ⟨a, rfl⟩, ?_⟩
  exact alignUp_le_of_dvd a (by decide) hmin (Nat.dvd_of_mod_eq_zero hmod)

theorem openKid_reads (hs : Good s) :
    Reads Reader.openKid s fun kid s' => Good kid ∧ Passed s s' := by
  refine (get_reads hs NEST_CTRL_CODE).bind fun o s' ⟨hkept, hpassed, ho⟩ => ?_
  cases o with
  | none => exact Exact.pure ⟨good_fresh, hpassed⟩
  | some block =>
    obtain ⟨addr, len⟩ := block
    obtain ⟨_, hend⟩ := ho addr len rfl
    refine Reader.fetch_reads (by rw [hkept.mBuf]; exact hend) ?_
    refine Exact.embed (set_reads _) fun hkid => ?_
    split
    · exact Exact.pure ⟨hkid, hpassed⟩
    · exact Reader.fail_reads (Exact.pure ⟨hkid, hpassed.fail⟩)

/-- A sequence of reads, whatever the objects hold. -/
theorem Shape.read_reads (sh : Shape) (v : sh.Val) (hs : Good s) :
    Reads (sh.read v) s fun _ s' => Good s' := by
  induction sh generalizing s with
  | done => exact Exact.pure hs
  | get t rest ih =>
    refine (t.read_sound v.1 s hs).bind fun x s₁ h₁ => ?_
    exact (ih v.2 h₁.good).bind fun r s₂ h₂ => Exact.pure h₂
  | enum e rest ih =>
    refine (enum_sound e v.1 s hs).bind fun x s₁ h₁ => ?_
    exact (ih v.2 h₁.good).bind fun r s₂ h₂ => Exact.pure h₂
  | nest b kid rest ihk ih =>
    refine (openKid_reads hs).bind fun de s₁ ⟨hde, h₁⟩ => ?_
    refine Exact.embed (ihk v.1 hde) fun _ => ?_
    exact (ih v.2 h₁.good).bind fun r s₂ h₂ => Exact.pure h₂

/-! ### A cleared flag -/

section Cleared

variable (h : s.mFlag = false)
include h

theorem set_mFlag_of_cleared : { s with mFlag := false } = s := by rw [← h]

theorem get_of_cleared (type : Nat) : Goes (Reader.get type) s none s := by
  simp [Goes, Reader.get, Reader.operator, Reader.alignTo, Reader.checkValid, Reader.leave,
    Reader.fail, h, set_mFlag_of_cleared h]

theorem arrayLenCapture_of_cleared : Goes Reader.arrayLenCapture s 0 s := by
  simp [Goes, Reader.arrayLenCapture, Reader.operator, Reader.alignTo, Reader.checkValid,
    Reader.leave, h]

theorem scalar_of_cleared (t : ScalarType) (x : t.Val) : Goes (Reader.scalar t x) s x s := by
  simp [Goes, Reader.scalar, Reader.operator, Reader.alignTo, Reader.checkValid, Reader.leave, h]

/-- With the flag cleared, no operator changes the deserializer. -/
theorem Ty.read_of_cleared (t : Ty) (x : t.Val) : ∃ y, Goes (t.read x) s y s := by
  have hcapture := arrayLenCapture_of_cleared h
  cases t with
  | scalar t => exact ⟨x, scalar_of_cleared h t x⟩
  | string => exact ⟨x, (get_of_cleared h stringTypeId).bind (.pure x s)⟩
  | scalars t => exact ⟨[], hcapture.bind (.pure [] s)⟩
  | vector t => exact ⟨[], hcapture.bind (.pure [] s)⟩
  | map k v => exact ⟨x, hcapture.bind (.state ((Goes.pure (x, 0) s).bind
      ((Goes.note _ s).bind (.pure x s))))⟩
  | unorderedSet t => exact ⟨OrderedSet.empty, hcapture.bind (.pure OrderedSet.empty s)⟩

/-- **Once `Check()` is false it stays false**, and no later read moves the position. -/
theorem Shape.read_of_cleared (sh : Shape) (v : sh.Val) : ∃ r, Goes (sh.read v) s r s := by
  induction sh with
  | done => exact ⟨_, .pure _ s⟩
  | get t rest ih =>
    obtain ⟨y, hy⟩ := t.read_of_cleared h v.1
    obtain ⟨r, hr⟩ := ih v.2
    exact ⟨_, hy.bind (hr.bind (.pure _ s))⟩
  | enum e rest ih =>
    obtain ⟨r, hr⟩ := ih v.2
    have henum : Goes (Reader.enum e v.1) s v.1 s := by
      refine (scalar_of_cleared h .int _).bind (.state ?_)
      rw [h, if_neg Bool.false_ne_true]
      exact .pure v.1 s
    exact ⟨_, henum.bind (hr.bind (.pure _ s))⟩
  | nest b kid rest _ ih =>
    obtain ⟨r, hr⟩ := ih v.2
    have hopen : Goes Reader.openKid s .fresh s :=
      (get_of_cleared h NEST_CTRL_CODE).bind (.pure _ s)
    exact ⟨_, hopen.bind ((Goes.note _ s).bind (hr.bind (.pure _ s)))⟩

end Cleared

/-! ### Whole buffers -/

/-- Reading a buffer: a deserializer takes it, and a sequence of reads follows. -/
def Shape.readBuffer (sh : Shape) (v : sh.Val) (buf : List UInt8) :
    Reader (sh.Val × List UbseDeSerialization) := do
  Reader.set buf
  sh.read v

/-- What is recorded of the reading of a buffer. -/
def Shape.accesses (sh : Shape) (v : sh.Val) (buf : List UInt8) : List Access :=
  (sh.readBuffer v buf .fresh).2

/-- **Reading arbitrary bytes**: for every buffer, every sequence of reads and every content of
the objects that are read into, the record of the reading is safe, and a cleared flag stays
cleared with the position where it is, exactly if no length that is found exceeds what follows
it and no set that is found declares more elements than there is room for. -/
theorem Shape.readBuffer_safe_iff (sh : Shape) (v : sh.Val) (buf : List UInt8) :
    ((∀ e ∈ sh.accesses v buf, e.Safe) ∧
      ∀ s : UbseDeSerialization, s.mFlag = false → (sh.read v s).1.2 = s) ↔
    ∀ e ∈ sh.accesses v buf, e.Fits := by
  have hread : Reads (sh.readBuffer v buf) .fresh fun _ s' => Good s' :=
    (set_reads buf).bind fun _ s' hs' => sh.read_reads v hs'
  refine (and_iff_left fun s hs => ?_).trans hread.iff
  obtain ⟨r, hr⟩ := sh.read_of_cleared hs v
  exact congrArg Prod.snd hr

/-- A buffer whose only content is the head block of a string of 100 bytes. -/
def longString : List UInt8 := image .OFFSET_BASE_4 (head .OFFSET_BASE_4 stringTypeId 100)

/-- The position ends 100 bytes behind the end of the buffer. -/
theorem not_readBuffer_safe :
    ¬∀ (sh : Shape) (v : sh.Val) (buf : List UInt8), (∀ e ∈ sh.accesses v buf, e.Safe) ∧
      ∀ s : UbseDeSerialization, s.mFlag = false → (sh.read v s).1.2 = s := by
  intro h
  have hsafe := (h (.get .string .done) ([], ()) longString).1
  have hmove := hsafe (.move true false 116 16) (by decide)
  exact absurd hmove.2 (by decide)

end Serde

end UbsEngine
