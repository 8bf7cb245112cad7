import UbsEngine.Log.LogBuffer
import Mathlib.Data.List.Basic
import Mathlib.Order.WellFounded

/-!
# What is logged is written

The indices that are given to the threads follow each other, although a thread whose entry is dropped
raises the index for a moment: that happens only to a full buffer. So the entries that are accepted
stand in the buffers in their order, each in its place by the time the buffers are exchanged, and the
log is written in the order of acceptance, without a gap and without a repetition
(`UbsEngine.Log.logBuffer_writes`). The same holds when the log begins with entries that waited for its
configuration (`UbsEngine.Log.logBuffer_starts`).
-/

namespace UbsEngine

namespace Log

/-! ### One buffer -/

namespace RingBuffer

variable {α : Type} {r : RingBuffer α}

theorem length_entries : r.entries.length = r.right_.toNat - r.left_.toNat := by
  rw [entries, List.length_map, List.length_range]

theorem isEmpty_iff : r.isEmpty = true ↔ r.left_ = r.right_ := beq_iff_eq

/-- The first entry is taken. -/
theorem entries_of_lt (h : r.left_.toNat < r.right_.toNat) :
    r.entries = r.buffer_ r.left_.toNat :: { r with left_ := r.left_ + 1 }.entries := by
  have hright := r.right_.isLt
  have hnext : (r.left_ + 1).toNat = r.left_.toNat + 1 := by bv_omega
  have hrange : List.range (r.right_.toNat - r.left_.toNat) =
      0 :: (List.range (r.right_.toNat - (r.left_.toNat + 1))).map Nat.succ := by
    rw [← List.range_succ_eq_map]
    congr 1
    omega
  rw [entries, entries, hrange, List.map_cons, List.map_map, hnext, Nat.add_zero]
  refine congrArg (_ :: ·) (List.map_congr_left fun i _ => ?_)
  rw [Function.comp_apply, Nat.succ_eq_add_one, Nat.add_assoc, Nat.add_comm 1]

end RingBuffer

/-! ### What holds between any two actions -/

/-- The thread is in its second loop, or at its end. -/
def LoggingThread.late : LoggingThread → Bool
  | .deciding => false
  | .looking draining => draining
  | .swapping draining => draining
  | .popping draining => draining
  | .ended => true

namespace LogBuffer

variable {α : Type}

/-- The entries that are accepted are written, stand in the buffer that is read, or have an index of
the other one. -/
structure Inv (size_ threads : Nat) (pending claimed : List α) (b : LogBuffer α) : Prop where
  accepted : b.accepted = b.written ++ (pending ++ claimed)
  entries : b.readBuffer_.entries = pending
  left_le : b.readBuffer_.left_.toNat ≤ b.readBuffer_.right_.toNat
  pending_le : pending.length ≤ size_
  left : b.writeBuffer_.left_ = 0
  right : b.writeBuffer_.right_.toNat = claimed.length + b.refused
  claimed_le : claimed.length ≤ size_
  /-- An entry is dropped only if the buffer is full. -/
  full : b.refused ≠ 0 → claimed.length = size_
  inside : b.writing.length + b.refused ≤ threads
  writing : ∀ w ∈ b.writing, claimed[w.1]? = some w.2
  places : ∀ i entry, claimed[i]? = some entry →
    (i, entry) ∈ b.writing ∨ b.writeBuffer_.buffer_ i = entry
  swapping : ∀ draining, b.thread = .swapping draining → pending = [] ∧ claimed ≠ []
  popping : ∀ draining, b.thread = .popping draining → pending ≠ []
  stopped : b.stop_ = true → b.writing = [] ∧ b.refused = 0
  told : b.threadRunning_ = false → b.stop_ = true
  late : b.thread.late = true → b.threadRunning_ = false
  ended : b.thread = .ended → pending = [] ∧ claimed = []

variable {size_ threads : Nat} {pending claimed : List α} {b b' : LogBuffer α} {entry : α}

theorem create_inv [Inhabited α] (size_ threads : Nat) :
    (create : LogBuffer α).Inv size_ threads [] [] where
  accepted := rfl
  entries := rfl
  left_le := Nat.le_refl _
  pending_le := Nat.zero_le _
  left := rfl
  right := rfl
  claimed_le := Nat.zero_le _
  full h := absurd rfl h
  inside := Nat.zero_le _
  writing _ h := absurd h List.not_mem_nil
  places _ _ h := by simp at h
  swapping _ h := by cases h
  popping _ h := by cases h
  stopped h := by cases h
  told h := by cases h
  late h := by cases h
  ended h := by cases h

/-- Nothing is accepted once the thread is in its second loop. -/
theorem Inv.stop_of_late (h : b.Inv size_ threads pending claimed) (hlate : b.thread.late = true) :
    b.stop_ = true := h.told (h.late hlate)

/-- Nothing is missing in the log when the thread has ended. -/
theorem Inv.written_of_ended (h : b.Inv size_ threads pending claimed)
    (hended : b.thread = .ended) : b.written = b.accepted := by
  rcases h.ended hended with ⟨rfl, rfl⟩
  rw [h.accepted, List.append_nil, List.append_nil]

/-- When nobody is in the middle of a call, every entry is in its place. -/
theorem Inv.writeBuffer_entries (h : b.Inv size_ threads pending claimed)
    (halone : b.writing = [] ∧ b.refused = 0) : b.writeBuffer_.entries = claimed := by
  rcases halone with ⟨hwriting, hrefused⟩
  have hright := h.right
  rw [hrefused, Nat.add_zero] at hright
  rw [RingBuffer.entries, h.left]
  refine List.ext_getElem (by simp [hright]) fun i hi hi' => ?_
  rcases h.places i claimed[i] (List.getElem?_eq_getElem hi') with hw | hplace
  · simp [hwriting] at hw
  · simpa using hplace

/-! ### The threads that log -/

/-- An entry gets the next index, unless the buffer is full or the log is stopped. -/
theorem claim_inv (hfit : size_ + threads < 2 ^ 32) (h : b.Inv size_ threads pending claimed)
    (hact : b.claim size_ threads entry = some b') :
    ∃ claimed', b'.Inv size_ threads pending claimed' := by
  unfold claim at hact
  dsimp only at hact
  have hright := h.right
  have hclaimed := h.claimed_le
  have hfull := h.full
  split_ifs at hact with hthreads hstop hroom <;> cases hact
  · exact ⟨claimed, { h with }⟩
  · -- No index is to be given back, so the next one is new.
    have hnone : b.refused = 0 := by
      by_contra hsome
      have := hfull hsome
      omega
    have hindex : b.writeBuffer_.right_.toNat = claimed.length := by omega
    refine ⟨claimed ++ [entry],
      { h with
        accepted := ?_, right := ?_, claimed_le := ?_, full := fun hsome => absurd hnone hsome
        inside := ?_, writing := ?_, places := ?_, swapping := fun d hd => ⟨(h.swapping d hd).1, by simp⟩
        stopped := fun hs => absurd hs hstop, ended := fun hended => ?_ }⟩
    · dsimp only
      rw [h.accepted, List.append_assoc, List.append_assoc]
    · rw [List.length_append, List.length_singleton]
      dsimp only
      bv_omega
    · rw [List.length_append, List.length_singleton]
      omega
    · dsimp only
      rw [List.length_cons]
      omega
    · rintro w hw
      rcases List.mem_cons.1 hw with rfl | hw
      · dsimp only
        rw [hindex, List.getElem?_append_right (Nat.le_refl _), Nat.sub_self]
        rfl
      · have hold := h.writing w hw
        rw [List.getElem?_append_left (List.getElem?_eq_some_iff.1 hold).1]
        exact hold
    · intro i entry' hi
      rcases Nat.lt_or_ge i claimed.length with hlt | hge
      · rw [List.getElem?_append_left hlt] at hi
        rcases h.places i entry' hi with hw | hplace
        · exact .inl (List.mem_cons_of_mem _ hw)
        · exact .inr hplace
      · rw [List.getElem?_append_right hge] at hi
        have hlast := (List.getElem?_eq_some_iff.1 hi).1
        rw [List.length_singleton] at hlast
        obtain rfl : i = claimed.length := by omega
        simp only [Nat.sub_self, List.getElem?_cons_zero, Option.some.injEq] at hi
        rw [hindex, hi]
        exact .inl List.mem_cons_self
    · exact absurd (h.stop_of_late (by dsimp only at hended; rw [hended]; rfl)) hstop
  · have hall : claimed.length = size_ := by
      rcases Nat.eq_zero_or_pos b.refused with hnone | hsome
      · omega
      · exact hfull (Nat.ne_of_gt hsome)
    refine ⟨claimed,
      { h with
        right := ?_, full := fun _ => hall, inside := ?_, stopped := fun hs => absurd hs hstop }⟩
    · dsimp only
      bv_omega
    · dsimp only
      omega

theorem write_inv {writeIndex : Nat} (h : b.Inv size_ threads pending claimed)
    (hact : b.write writeIndex = some b') : b'.Inv size_ threads pending claimed := by
  rcases Option.map_eq_some_iff.1 hact with ⟨w, hfind, rfl⟩
  have hw := List.mem_of_find?_eq_some hfind
  have hindex : w.1 = writeIndex := by simpa using List.find?_some hfind
  refine
    { h with
      inside := ?_, writing := fun v hv => h.writing v (List.mem_filter.1 hv).1, places := ?_
      stopped := fun hs => ⟨?_, (h.stopped hs).2⟩ }
  · exact (Nat.add_le_add_right (List.length_filter_le _ _) _).trans h.inside
  · intro i entry hi
    dsimp only
    rcases eq_or_ne i w.1 with rfl | hne
    · rw [h.writing w hw, Option.some.injEq] at hi
      exact .inr (by rw [Function.update_self, hi])
    · rw [Function.update_of_ne hne]
      refine (h.places i entry hi).imp_left fun hv => List.mem_filter.2 ⟨hv, ?_⟩
      simpa [← hindex] using hne
  · dsimp only
    rw [(h.stopped hs).1, List.filter_nil]

theorem giveBack_inv (h : b.Inv size_ threads pending claimed) (hact : b.giveBack = some b') :
    b'.Inv size_ threads pending claimed := by
  unfold giveBack at hact
  split_ifs at hact with hnone
  cases hact
  have hright := h.right
  have hinside := h.inside
  refine
    { h with
      right := ?_, full := fun _ => h.full hnone, inside := ?_
      stopped := fun hs => absurd (h.stopped hs).2 hnone }
  · dsimp only
    bv_omega
  · dsimp only
    omega

/-! ### The thread that writes the log -/

theorem checkRunning_inv (h : b.Inv size_ threads pending claimed)
    (hact : b.checkRunning = some b') : b'.Inv size_ threads pending claimed := by
  unfold checkRunning at hact
  split_ifs at hact with hdeciding hrunning <;> cases hact
  · exact
      { h with
        swapping := fun _ h => by cases h
        popping := fun _ h => by cases h
        late := fun h => by cases h
        ended := fun h => by cases h }
  · exact
      { h with
        swapping := fun _ h => by cases h
        popping := fun _ h => by cases h
        late := fun _ => by simpa using hrunning
        ended := fun h => by cases h }

/-- The thread finds an entry where there is one. -/
theorem look_inv (hsize : 0 < size_) (h : b.Inv size_ threads pending claimed)
    (hact : b.look = some b') : b'.Inv size_ threads pending claimed := by
  rcases hthread : b.thread with _ | draining | _ | _ | _ <;>
    simp only [look, hthread, Option.some.injEq, reduceCtorEq] at hact
  have hlate := h.late
  rw [hthread] at hlate
  have hlength : b.readBuffer_.entries.length = pending.length := by rw [h.entries]
  have hleft := h.left_le
  rw [RingBuffer.length_entries] at hlength
  have hright := h.right
  split_ifs at hact with hread hwrite hdraining <;> subst hact
  · refine
      { h with
        swapping := fun _ h => by cases h
        popping := fun _ _ hnil => ?_
        late := hlate
        ended := fun h => by cases h }
    rw [hnil, List.length_nil] at hlength
    rw [← Bool.not_eq_true, RingBuffer.isEmpty_iff, ← BitVec.toNat_inj] at hread
    omega
  all_goals
    rw [Bool.not_eq_false, RingBuffer.isEmpty_iff] at hread
    have hnil : pending = [] := List.length_eq_zero_iff.1 (by rw [hread] at hlength; omega)
  · refine
      { h with
        swapping := fun _ _ => ⟨hnil, fun hnone => ?_⟩
        popping := fun _ h => by cases h
        late := hlate
        ended := fun h => by cases h }
    -- An index that is to be given back does not make an empty buffer look full.
    rw [← Bool.not_eq_true, RingBuffer.isEmpty_iff, h.left, ← BitVec.toNat_inj, hright,
      hnone, List.length_nil] at hwrite
    have hfull := h.full
    rw [hnone, List.length_nil] at hfull
    have hzero : (0 : BitVec 32).toNat = 0 := rfl
    have := hfull (by omega)
    omega
  · rw [Bool.not_eq_false, RingBuffer.isEmpty_iff, h.left] at hwrite
    have hzero : (0 : BitVec 32).toNat = 0 := rfl
    rw [← hwrite, hzero] at hright
    exact
      { h with
        swapping := fun _ h => by cases h
        popping := fun _ h => by cases h
        late := fun _ => hlate hdraining
        ended := fun _ => ⟨hnil, List.length_eq_zero_iff.1 (by omega)⟩ }
  · exact
      { h with
        swapping := fun _ h => by cases h
        popping := fun _ h => by cases h
        late := fun h => by cases h
        ended := fun h => by cases h }

/-- Every entry is in its place when the buffers are exchanged. -/
theorem swap_inv (h : b.Inv size_ threads pending claimed) (hact : b.swap = some b') :
    b'.Inv size_ threads claimed [] := by
  rcases hthread : b.thread with _ | _ | draining | _ | _ <;>
    simp only [swap, hthread, reduceCtorEq] at hact
  split_ifs at hact with halone
  have ⟨hwriting, hrefused⟩ := halone
  cases hact
  rcases h.swapping draining hthread with ⟨rfl, hsome⟩
  have hlate := h.late
  rw [hthread] at hlate
  have hright := h.right
  rw [hrefused, Nat.add_zero] at hright
  refine
    { h with
      accepted := ?_, entries := ?_, left_le := Nat.zero_le _, pending_le := h.claimed_le, left := rfl
      right := hrefused.symm ▸ rfl, claimed_le := Nat.zero_le _
      full := fun hne => absurd hrefused hne
      writing := fun w hw => by simp [hwriting] at hw
      places := fun _ _ h => by simp at h
      swapping := fun _ h => by cases h
      popping := fun _ _ => hsome
      late := hlate
      ended := fun h => by cases h }
  · rw [List.append_nil]
    exact h.accepted
  · have hentries := h.writeBuffer_entries halone
    rw [RingBuffer.entries, h.left] at hentries
    exact hentries

theorem pop_inv (h : b.Inv size_ threads pending claimed) (hact : b.pop = some b') :
    ∃ pending', b'.Inv size_ threads pending' claimed := by
  rcases hthread : b.thread with _ | _ | _ | draining | _ <;>
    simp only [pop, hthread, Option.some.injEq, reduceCtorEq] at hact
  subst hact
  have hlate := h.late
  rw [hthread] at hlate
  have hlength : b.readBuffer_.entries.length = pending.length := by rw [h.entries]
  rw [RingBuffer.length_entries] at hlength
  rcases pending with _ | ⟨first, rest⟩
  · exact absurd rfl (h.popping draining hthread)
  · rw [List.length_cons] at hlength
    have hlt : b.readBuffer_.left_.toNat < b.readBuffer_.right_.toNat := by omega
    have hentries := h.entries
    rw [RingBuffer.entries_of_lt hlt, List.cons.injEq] at hentries
    have hroom := h.pending_le
    rw [List.length_cons] at hroom
    refine ⟨rest,
      { h with
        accepted := ?_, entries := hentries.2, left_le := ?_, pending_le := by omega
        swapping := fun _ h => ?_, popping := fun _ h => ?_, late := fun h => ?_
        ended := fun h => ?_ }⟩
    · dsimp only
      rw [hentries.1, h.accepted, List.append_assoc]
      rfl
    · have hright := b.readBuffer_.right_.isLt
      dsimp only
      bv_omega
    · rcases draining with _ | _ <;> cases h
    · rcases draining with _ | _ <;> cases h
    · rcases draining with _ | _
      · cases h
      · exact hlate rfl
    · rcases draining with _ | _ <;> cases h

/-! ### The end -/

theorem stop_inv (h : b.Inv size_ threads pending claimed) (hact : b.stop = some b') :
    b'.Inv size_ threads pending claimed := by
  unfold stop at hact
  split_ifs at hact with halone
  cases hact
  exact { h with stopped := fun _ => halone, told := fun _ => rfl }

theorem tellThread_inv (h : b.Inv size_ threads pending claimed) (hact : b.tellThread = some b') :
    b'.Inv size_ threads pending claimed := by
  unfold tellThread at hact
  split_ifs at hact with hstop
  cases hact
  exact { h with told := fun _ => hstop, late := fun _ => rfl }

/-! ### Runs -/

/-- **An action keeps the entries together.** -/
theorem act_inv (hsize : 0 < size_) (hfit : size_ + threads < 2 ^ 32)
    (h : b.Inv size_ threads pending claimed) {a : Action α}
    (hact : b.act size_ threads a = some b') :
    ∃ pending' claimed', b'.Inv size_ threads pending' claimed' := by
  cases a with
  | claim entry => exact ⟨_, claim_inv hfit h hact⟩
  | write writeIndex => exact ⟨_, _, write_inv h hact⟩
  | giveBack => exact ⟨_, _, giveBack_inv h hact⟩
  | checkRunning => exact ⟨_, _, checkRunning_inv h hact⟩
  | look => exact ⟨_, _, look_inv hsize h hact⟩
  | swap => exact ⟨_, _, swap_inv h hact⟩
  | pop =>
    rcases pop_inv h hact with ⟨rest, h'⟩
    exact ⟨rest, _, h'⟩
  | stop => exact ⟨_, _, stop_inv h hact⟩
  | tellThread => exact ⟨_, _, tellThread_inv h hact⟩

theorem run_inv (hsize : 0 < size_) (hfit : size_ + threads < 2 ^ 32)
    (h : b.Inv size_ threads pending claimed) (actions : List (Action α)) :
    ∃ pending' claimed',
      (actions.foldl (step size_ threads) b).Inv size_ threads pending' claimed' := by
  induction actions generalizing b pending claimed with
  | nil => exact ⟨_, _, h⟩
  | cons a actions ih =>
    rw [List.foldl_cons, step]
    rcases hact : b.act size_ threads a with _ | b'
    · exact ih h
    · rcases act_inv hsize hfit h hact with ⟨_, _, h'⟩
      exact ih h'

end LogBuffer

/-- **What is logged is written**, after any run of the threads: the log has the accepted entries in the
order of their indices, then come those in the buffer that is read and those that have an index of the
other buffer, which are in their places when nobody is in the middle of a call. An index that is too
high means that the buffer is full. When the thread has ended, nothing is missing in the log. -/
theorem logBuffer_writes {α : Type} [Inhabited α] (size_ threads : Nat) (hsize : 0 < size_)
    (hfit : size_ + threads < 2 ^ 32) (actions : List (Action α)) :
    let b : LogBuffer α := actions.foldl (LogBuffer.step size_ threads) .create
    ∃ claimed : List α, b.accepted = b.written ++ (b.readBuffer_.entries ++ claimed) ∧
      b.readBuffer_.entries.length ≤ size_ ∧ claimed.length ≤ size_ ∧
      (size_ ≤ b.writeBuffer_.right_.toNat → claimed.length = size_) ∧
      (b.writing = [] ∧ b.refused = 0 → b.writeBuffer_.entries = claimed) ∧
      (b.thread = .ended → b.written = b.accepted) := by
  intro b
  obtain ⟨pending, claimed, hinv⟩ : ∃ pending claimed, b.Inv size_ threads pending claimed :=
    LogBuffer.run_inv hsize hfit (LogBuffer.create_inv size_ threads) actions
  clear_value b
  have hclaimed := hinv.claimed_le
  have hright := hinv.right
  refine ⟨claimed, ?_, ?_, hclaimed, fun hle => ?_, hinv.writeBuffer_entries, hinv.written_of_ended⟩
  · rw [hinv.entries]
    exact hinv.accepted
  · rw [hinv.entries]
    exact hinv.pending_le
  · rcases Nat.eq_zero_or_pos b.refused with hnone | hsome
    · omega
    · exact hinv.full (Nat.ne_of_gt hsome)

/-- Two threads log, the second one to a full buffer, and the log is stopped. -/
def fullBuffer : List (Action Nat) :=
  [.claim 1, .claim 2, .giveBack, .write 0, .checkRunning, .look, .stop, .tellThread, .swap, .pop,
    .checkRunning, .look]

theorem logBuffer_writes_fullBuffer :
    let b : LogBuffer Nat := fullBuffer.foldl (LogBuffer.step 1 2) .create
    ∃ claimed : List Nat, b.accepted = b.written ++ (b.readBuffer_.entries ++ claimed) ∧
      b.readBuffer_.entries.length ≤ 1 ∧ claimed.length ≤ 1 ∧
      (1 ≤ b.writeBuffer_.right_.toNat → claimed.length = 1) ∧
      (b.writing = [] ∧ b.refused = 0 → b.writeBuffer_.entries = claimed) ∧
      (b.thread = .ended → b.written = b.accepted) :=
  logBuffer_writes 1 2 (by decide) (by decide) fullBuffer

/-! ### The thread ends -/

/-- The actions that nobody has to call for. -/
def Action.own {α : Type} : Action α → Bool
  | .claim _ => false
  | .stop => false
  | .tellThread => false
  | _ => true

/-- How far the thread is from its next entry. -/
def LoggingThread.load : LoggingThread → Nat
  | .looking false => 7
  | .swapping false => 6
  | .popping false => 5
  | .deciding => 4
  | .looking true => 3
  | .swapping true => 2
  | .popping true => 1
  | .ended => 0

namespace LogBuffer

variable {α : Type} {size_ threads : Nat} {pending claimed : List α} {b b' : LogBuffer α}

/-- The log goes on by itself. -/
def Works (size_ threads : Nat) (b b' : LogBuffer α) : Prop :=
  ∃ a : Action α, a.own = true ∧ b.act size_ threads a = some b'

/-- An entry is taken in at most four steps. -/
def load (b : LogBuffer α) : Nat :=
  4 * (b.readBuffer_.entries.length + b.writeBuffer_.entries.length) + b.thread.load

theorem look_load (hact : b.look = some b') (htold : b.threadRunning_ = false) :
    b'.load < b.load ∧ b'.threadRunning_ = false := by
  rcases hthread : b.thread with _ | draining | _ | _ | _ <;>
    simp only [look, hthread, Option.some.injEq, reduceCtorEq] at hact
  subst hact
  refine ⟨?_, htold⟩
  simp only [load, hthread]
  rcases draining with _ | _ <;> simp only [Bool.false_eq_true, ↓reduceIte] <;> split_ifs <;>
    simp only [LoggingThread.load] <;> omega

theorem swap_load (h : b.Inv size_ threads pending claimed) (hact : b.swap = some b')
    (htold : b.threadRunning_ = false) : b'.load < b.load ∧ b'.threadRunning_ = false := by
  rcases hthread : b.thread with _ | _ | draining | _ | _ <;>
    simp only [swap, hthread, reduceCtorEq] at hact
  split_ifs at hact with halone
  cases hact
  refine ⟨?_, htold⟩
  simp only [load, hthread, RingBuffer.length_entries, h.left]
  rcases draining with _ | _ <;> simp only [LoggingThread.load] <;> omega

theorem pop_load (h : b.Inv size_ threads pending claimed) (hact : b.pop = some b')
    (htold : b.threadRunning_ = false) : b'.load < b.load ∧ b'.threadRunning_ = false := by
  rcases hthread : b.thread with _ | _ | _ | draining | _ <;>
    simp only [pop, hthread, Option.some.injEq, reduceCtorEq] at hact
  subst hact
  refine ⟨?_, htold⟩
  have hlt : b.readBuffer_.left_.toNat < b.readBuffer_.right_.toNat := by
    have hpos := List.length_pos_iff.2 (h.popping draining hthread)
    rw [← h.entries, RingBuffer.length_entries] at hpos
    omega
  simp only [load, hthread, RingBuffer.entries_of_lt hlt, List.length_cons]
  rcases draining with _ | _ <;> simp only [LoggingThread.head, LoggingThread.load] <;> omega

/-- **Every step of a log that is to end leaves less to do.** -/
theorem works_load (h : b.Inv size_ threads pending claimed) (htold : b.threadRunning_ = false)
    (hworks : Works size_ threads b b') : b'.load < b.load ∧ b'.threadRunning_ = false := by
  rcases hworks with ⟨a, hown, hact⟩
  rcases h.stopped (h.told htold) with ⟨hwriting, hrefused⟩
  cases a with
  | claim entry => cases hown
  | stop => cases hown
  | tellThread => cases hown
  | write writeIndex => simp [act, write, hwriting] at hact
  | giveBack => simp [act, giveBack, hrefused] at hact
  | checkRunning =>
    dsimp only [act] at hact
    unfold checkRunning at hact
    split_ifs at hact with hdeciding hrunning
    · rw [htold] at hrunning
      cases hrunning
    · cases hact
      refine ⟨?_, htold⟩
      simp only [load, hdeciding, LoggingThread.load]
      omega
  | look => exact look_load hact htold
  | swap => exact swap_load h hact htold
  | pop => exact pop_load h hact htold

theorem acc_works (hsize : 0 < size_) (hfit : size_ + threads < 2 ^ 32)
    (h : b.Inv size_ threads pending claimed) (htold : b.threadRunning_ = false) :
    Acc (fun b' b => Works size_ threads b b') b := by
  induction hload : b.load using WellFoundedLT.induction generalizing b pending claimed with
  | ind load ih =>
    refine Acc.intro b fun b' hworks => ?_
    rcases works_load h htold hworks with ⟨hlt, htold'⟩
    rcases hworks with ⟨a, -, hact⟩
    rcases act_inv hsize hfit h hact with ⟨_, _, h'⟩
    exact ih b'.load (hload ▸ hlt) h' htold' rfl

/-- The thread can always go on, unless it has ended. -/
theorem ended_of_stuck (h : b.Inv size_ threads pending claimed) (htold : b.threadRunning_ = false)
    (hstuck : ∀ a : Action α, a.own = true → b.act size_ threads a = none) : b.thread = .ended := by
  rcases h.stopped (h.told htold) with ⟨hwriting, hrefused⟩
  have hcheck := hstuck .checkRunning rfl
  have hlook := hstuck .look rfl
  have hswap := hstuck .swap rfl
  have hpop := hstuck .pop rfl
  rcases hthread : b.thread with _ | _ | _ | _ | _
  · simp [act, checkRunning, hthread] at hcheck
  · simp [act, look, hthread] at hlook
  · simp [act, swap, hthread, hwriting, hrefused] at hswap
  · simp [act, pop, hthread] at hpop
  · rfl

end LogBuffer

/-- **The log ends complete.** After any run in which the thread has been told to end, it can only take
finitely many steps, and it only comes to rest at its end, when every accepted entry is written. -/
theorem logBuffer_ends {α : Type} [Inhabited α] (size_ threads : Nat) (hsize : 0 < size_)
    (hfit : size_ + threads < 2 ^ 32) (actions : List (Action α)) :
    let b : LogBuffer α := actions.foldl (LogBuffer.step size_ threads) .create
    b.threadRunning_ = false →
      Acc (fun b' b => LogBuffer.Works size_ threads b b') b ∧
        ((∀ a : Action α, a.own = true → b.act size_ threads a = none) →
          b.thread = .ended ∧ b.written = b.accepted) := by
  intro b htold
  obtain ⟨pending, claimed, hinv⟩ : ∃ pending claimed, b.Inv size_ threads pending claimed :=
    LogBuffer.run_inv hsize hfit (LogBuffer.create_inv size_ threads) actions
  clear_value b
  refine ⟨LogBuffer.acc_works hsize hfit hinv htold, fun hstuck => ?_⟩
  have hended := LogBuffer.ended_of_stuck hinv htold hstuck
  exact ⟨hended, hinv.written_of_ended hended⟩

theorem logBuffer_ends_fullBuffer :
    let b : LogBuffer Nat := fullBuffer.foldl (LogBuffer.step 1 2) .create
    Acc (fun b' b => LogBuffer.Works 1 2 b b') b ∧
      ((∀ a : Action Nat, a.own = true → b.act 1 2 a = none) →
        b.thread = .ended ∧ b.written = b.accepted) :=
  logBuffer_ends 1 2 (by decide) (by decide) fullBuffer rfl

/-! ### The entries of the start -/

/-- What the threads that log do. -/
def Action.logs {α : Type} : Action α → Bool
  | .claim _ => true
  | .write _ => true
  | .giveBack => true
  | _ => false

namespace LogBuffer

variable {α : Type} {size_ threads : Nat} {pending claimed : List α} {b b' : LogBuffer α}

/-- The threads that log leave the buffer that is read alone. -/
theorem act_logs {a : Action α} (hlogs : a.logs = true) (hact : b.act size_ threads a = some b') :
    b'.written = b.written ∧ b'.readBuffer_ = b.readBuffer_ := by
  cases a with
  | claim entry =>
    dsimp only [act] at hact
    unfold claim at hact
    dsimp only at hact
    split_ifs at hact <;> cases hact <;> exact ⟨rfl, rfl⟩
  | write writeIndex =>
    rcases Option.map_eq_some_iff.1 hact with ⟨_, -, rfl⟩
    exact ⟨rfl, rfl⟩
  | giveBack =>
    dsimp only [act] at hact
    unfold giveBack at hact
    split_ifs at hact
    cases hact
    exact ⟨rfl, rfl⟩
  | _ => cases hlogs

theorem run_logs {actions : List (Action α)} (hlogs : ∀ a ∈ actions, a.logs = true) :
    (actions.foldl (step size_ threads) b).written = b.written ∧
      (actions.foldl (step size_ threads) b).readBuffer_ = b.readBuffer_ := by
  induction actions generalizing b with
  | nil => exact ⟨rfl, rfl⟩
  | cons a actions ih =>
    rcases List.forall_mem_cons.1 hlogs with ⟨ha, hlogs⟩
    rw [List.foldl_cons, step]
    rcases hact : b.act size_ threads a with _ | b'
    · exact ih hlogs
    · rcases act_logs ha hact with ⟨hwritten, hread⟩
      rw [← hwritten, ← hread]
      exact ih hlogs

/-- What is accepted stays accepted. -/
theorem act_accepted {a : Action α} (hact : b.act size_ threads a = some b') :
    ∃ later, b'.accepted = b.accepted ++ later := by
  cases a with
  | claim entry =>
    dsimp only [act] at hact
    unfold claim at hact
    dsimp only at hact
    split_ifs at hact <;> cases hact
    · exact ⟨[], (List.append_nil _).symm⟩
    · exact ⟨[entry], rfl⟩
    · exact ⟨[], (List.append_nil _).symm⟩
  | write writeIndex =>
    rcases Option.map_eq_some_iff.1 hact with ⟨_, -, rfl⟩
    exact ⟨[], (List.append_nil _).symm⟩
  | _ =>
    refine ⟨[], ?_⟩
    rw [List.append_nil]
    simp only [act, giveBack, checkRunning, look, swap, pop, stop, tellThread] at hact
    split at hact <;> (try split_ifs at hact) <;> cases hact <;> rfl

theorem run_accepted (actions : List (Action α)) :
    ∃ later, (actions.foldl (step size_ threads) b).accepted = b.accepted ++ later := by
  induction actions generalizing b with
  | nil => exact ⟨[], (List.append_nil _).symm⟩
  | cons a actions ih =>
    rw [List.foldl_cons, step]
    rcases hact : b.act size_ threads a with _ | b'
    · exact ih
    · rcases act_accepted hact with ⟨first, hfirst⟩
      rcases ih (b := b') with ⟨later, hlater⟩
      refine ⟨first ++ later, ?_⟩
      rw [← List.append_assoc, ← hfirst]
      exact hlater

/-- Nobody is in the middle of a call, and the log is not stopped. -/
def Rests (b : LogBuffer α) : Prop := b.writing = [] ∧ b.refused = 0 ∧ b.stop_ = false

theorem push_of_lt (hrests : b.Rests) (entry : α) (hroom : b.writeBuffer_.right_.toNat < size_) :
    push size_ b entry =
      { b with
        writeBuffer_ :=
          { b.writeBuffer_ with
            buffer_ := Function.update b.writeBuffer_.buffer_ b.writeBuffer_.right_.toNat entry
            right_ := b.writeBuffer_.right_ + 1 }
        accepted := b.accepted ++ [entry] } := by
  rcases hrests with ⟨hwriting, hrefused, hstop⟩
  simp [push, step, act, claim, write, giveBack, hwriting, hrefused, hstop, hroom]

theorem push_of_le (hrests : b.Rests) (entry : α) (hfull : size_ ≤ b.writeBuffer_.right_.toNat) :
    push size_ b entry = { b with dropped := b.dropped ++ [entry] } := by
  rcases hrests with ⟨hwriting, hrefused, hstop⟩
  simp [push, step, act, claim, write, giveBack, hwriting, hrefused, hstop, Nat.not_lt.2 hfull]

/-- The entries are taken in their order, as long as there is room. -/
theorem foldl_push (hsize : 0 < size_) (hfit : size_ + 1 < 2 ^ 32)
    (h : b.Inv size_ 1 pending claimed) (hrests : b.Rests) (entries : List α) :
    (∃ pending' claimed', (entries.foldl (push size_) b).Inv size_ 1 pending' claimed') ∧
      (entries.foldl (push size_) b).Rests ∧
      (entries.foldl (push size_) b).accepted =
        b.accepted ++ entries.take (size_ - b.writeBuffer_.right_.toNat) := by
  induction entries generalizing b pending claimed with
  | nil => exact ⟨⟨_, _, h⟩, hrests, by simp⟩
  | cons entry entries ih =>
    obtain ⟨_, _, hinv⟩ : ∃ pending' claimed', (push size_ b entry).Inv size_ 1 pending' claimed' :=
      run_inv hsize hfit h _
    rw [List.foldl_cons]
    rcases Nat.lt_or_ge b.writeBuffer_.right_.toNat size_ with hroom | hfull
    · -- Room for this entry, and for one less of the others.
      have hpush := push_of_lt hrests entry hroom
      rw [hpush] at hinv ⊢
      rcases ih hinv hrests with ⟨hlast, hrests', haccepted⟩
      refine ⟨hlast, hrests', haccepted.trans ?_⟩
      have hnext : (b.writeBuffer_.right_ + 1).toNat = b.writeBuffer_.right_.toNat + 1 := by
        bv_omega
      have hleft : size_ - b.writeBuffer_.right_.toNat =
          size_ - (b.writeBuffer_.right_.toNat + 1) + 1 := by omega
      dsimp only
      rw [hnext, hleft, List.take_succ_cons, List.append_assoc, List.singleton_append]
    · -- The index is given back at once, so the buffer stays full.
      have hpush := push_of_le hrests entry hfull
      rw [hpush] at hinv ⊢
      rcases ih hinv hrests with ⟨hlast, hrests', haccepted⟩
      refine ⟨hlast, hrests', haccepted.trans ?_⟩
      dsimp only
      rw [Nat.sub_eq_zero_of_le hfull, List.take_zero, List.take_zero]

/-- The resized buffer begins with the first entries of the old one. -/
theorem resizeBuffer_inv [Inhabited α] (hsize : 0 < size_) (hthreads : 0 < threads)
    (hfit : size_ + threads < 2 ^ 32) {old : LogBuffer α} (hleft : old.writeBuffer_.left_ = 0) :
    (∃ pending claimed, (resizeBuffer size_ old).Inv size_ threads pending claimed) ∧
      (resizeBuffer size_ old).accepted = old.writeBuffer_.entries.take size_ := by
  have hfit' : size_ + 1 < 2 ^ 32 := by omega
  have hold : (⟨old.writeBuffer_.buffer_, 0, old.writeBuffer_.right_⟩ : RingBuffer α) =
      old.writeBuffer_ := by rw [← hleft]
  rw [resizeBuffer, hold]
  rcases foldl_push hsize hfit' (create_inv size_ 1) ⟨rfl, rfl, rfl⟩ old.writeBuffer_.entries with
    ⟨⟨pending, claimed, hinv⟩, -, haccepted⟩
  exact ⟨⟨pending, claimed, { hinv with inside := hinv.inside.trans hthreads }⟩, haccepted⟩

/-- Before the thread begins, every accepted entry is in the buffer that is written to. -/
theorem early_entries [Inhabited α] (hsize : 0 < size_) (hfit : size_ + threads < 2 ^ 32)
    {early : List (Action α)} (hearly : ∀ a ∈ early, a.logs = true) {old : LogBuffer α}
    (hold : old = early.foldl (step size_ threads) .create)
    (halone : old.writing = [] ∧ old.refused = 0) :
    old.writeBuffer_.left_ = 0 ∧ old.writeBuffer_.entries = old.accepted := by
  obtain ⟨pending, claimed, hinv⟩ : ∃ pending claimed, old.Inv size_ threads pending claimed :=
    hold ▸ run_inv hsize hfit (create_inv size_ threads) early
  obtain ⟨hwritten, hread⟩ : old.written = [] ∧ old.readBuffer_ = .create := by
    rw [hold]
    exact run_logs hearly
  have hpending : [] = pending := by
    rw [← hinv.entries, hread]
    rfl
  refine ⟨hinv.left, (hinv.writeBuffer_entries halone).trans ?_⟩
  rw [hinv.accepted, hwritten, ← hpending, List.nil_append, List.nil_append]

end LogBuffer

/-- **The entries of the start are written first.** What is logged before the log is configured is
moved to a buffer of the configured size, in its order and as far as there is room, and after any run
from there the log has these entries and the later ones in the order of acceptance. When the thread
has ended, nothing is missing. -/
theorem logBuffer_starts {α : Type} [Inhabited α] (size_ newCapacity threads : Nat)
    (hsize : 0 < size_) (hcapacity : 0 < newCapacity) (hthreads : 0 < threads)
    (hold : size_ + threads < 2 ^ 32) (hfit : newCapacity + threads < 2 ^ 32)
    (early actions : List (Action α)) (hearly : ∀ a ∈ early, a.logs = true) :
    let old : LogBuffer α := early.foldl (LogBuffer.step size_ threads) .create
    let b := actions.foldl (LogBuffer.step newCapacity threads) (old.resizeBuffer newCapacity)
    old.writing = [] ∧ old.refused = 0 →
      ∃ later claimed, b.accepted = old.accepted.take newCapacity ++ later ∧
        b.accepted = b.written ++ (b.readBuffer_.entries ++ claimed) ∧
        (b.writing = [] ∧ b.refused = 0 → b.writeBuffer_.entries = claimed) ∧
        (b.thread = .ended → b.written = old.accepted.take newCapacity ++ later) := by
  intro old b halone
  rcases LogBuffer.early_entries hsize hold hearly rfl halone with ⟨hleft, hentries⟩
  rcases LogBuffer.resizeBuffer_inv hcapacity hthreads hfit hleft with
    ⟨⟨_, _, hresized⟩, haccepted⟩
  obtain ⟨pending, claimed, hinv⟩ :
      ∃ pending claimed, b.Inv newCapacity threads pending claimed :=
    LogBuffer.run_inv hcapacity hfit hresized actions
  obtain ⟨later, hlater⟩ :
      ∃ later, b.accepted = (old.resizeBuffer newCapacity).accepted ++ later :=
    LogBuffer.run_accepted actions
  rw [haccepted, hentries] at hlater
  refine ⟨later, claimed, hlater, ?_, hinv.writeBuffer_entries, fun hended => ?_⟩
  · rw [hinv.entries]
    exact hinv.accepted
  · rw [hinv.written_of_ended hended]
    exact hlater

/-- Two entries come before the log is configured to hold one. -/
theorem logBuffer_starts_twoEntries :
    let old : LogBuffer Nat :=
      [.claim 1, .write 0, .claim 2, .write 1].foldl (LogBuffer.step 4 2) .create
    let b := [.claim 3, .giveBack, .checkRunning, .look, .swap, .pop].foldl (LogBuffer.step 1 2)
      (old.resizeBuffer 1)
    ∃ later claimed, b.accepted = old.accepted.take 1 ++ later ∧
      b.accepted = b.written ++ (b.readBuffer_.entries ++ claimed) ∧
      (b.writing = [] ∧ b.refused = 0 → b.writeBuffer_.entries = claimed) ∧
      (b.thread = .ended → b.written = old.accepted.take 1 ++ later) :=
  logBuffer_starts 4 1 2 (by decide) (by decide) (by decide) (by decide) (by decide)
    [.claim 1, .write 0, .claim 2, .write 1]
    [.claim 3, .giveBack, .checkRunning, .look, .swap, .pop] (by decide) ⟨rfl, rfl⟩

end Log

end UbsEngine
