import UbsEngine.FaultMemId.Return

/-!
# A mark outlives the debts

A mark is to stay on a remote NUMA node of a borrower until the faulty node has no debt left on it,
and as long as it is there, what the borrower has registered for each of its NUMA nodes is what this
one still has on the remote one.

But a mark is one for all debts on the remote NUMA node, and a return is of one debt. The direct
return registers nothing at all and takes the mark away, whatever else is left there; a return after
a move looks at one local NUMA node only before it takes the mark away. So all is well if the direct
way is taken for the last debt, and the other one empties a local NUMA node only with the last debt
(`UbsEngine.FaultMemId.Return.marks_outlive`).
-/

namespace UbsEngine

namespace FaultMemId

namespace Return

/-! ### What marks and sizes say -/

/-- The debts of a local NUMA node of a borrower on a remote one. -/
def isOn (nodeId : String) (localNumaId remoteNumaId : Int) (debt : UbseNumaMemoryDebtInfo) :
    Bool :=
  debt.borrowNodeId = nodeId && debt.usrInfo = localNumaId && debt.remoteNumaId = remoteNumaId

/-- What they add up to, in KB. -/
def State.debtSize (s : State) (nodeId : String) (localNumaId remoteNumaId : Int) : BitVec 64 :=
  s.ledger.sum (isOn nodeId localNumaId remoteNumaId) fun debt => debt.record.size

/-- The borrower has registered for a remote NUMA node what there is. -/
def State.Registered (s : State) (nodeId : String) (remoteNumaId : Int) : Prop :=
  ∀ localNumaId, s.sizes (nodeId, localNumaId, remoteNumaId) =
    s.debtSize nodeId localNumaId remoteNumaId >>> KB2MB

/-- **Marks and sizes are right**: the remote NUMA nodes with a debt of the faulty node are marked,
and for the marked ones the right sizes are registered. -/
structure Sound (faultNode : String) (s : State) : Prop where
  marked : ∀ debt ∈ s.ledger, debt.lentNodeId = faultNode → 0 < debt.remoteNumaId →
    debt.remoteNumaId ∈ s.faultNumaMap debt.borrowNodeId
  registered : ∀ nodeId, ∀ remoteNumaId ∈ s.faultNumaMap nodeId, s.Registered nodeId remoteNumaId

/-- Returns, one after the other and in any order, after the debts of a node have been marked. -/
def returns (faultNode : String) : System State Call where
  init s := ∃ s₀ : State, (∀ nodeId remoteNumaId, s₀.Registered nodeId remoteNumaId) ∧
    s = s₀.addFaultNumas (UbseGetNumaMemDebtInfoWithNode s₀.ledger faultNode)
  step s c t := (s.memIdFaultManage c).1 = t

/-! ### When a return keeps them -/

/-- No debt of the faulty node is on the remote NUMA node of a record but the one of the record. -/
def IsLast (faultNode : String) (ledger : Ledger) (record : BorrowRecord) : Prop :=
  ∀ debt ∈ ledger, debt.lentNodeId = faultNode → debt.borrowNodeId = record.borrowNode →
    debt.remoteNumaId = record.borrowRemoteNuma → debt.name = record.name

/-- What is borrowed in the place of a debt is neither of the faulty node nor on a marked NUMA
node. -/
structure Elsewhere (faultNode : String) (s : State) (c : Call) : Prop where
  borrowed : ∀ debt ∈ c.borrowed ++ c.execution.adjusted, debt.lentNodeId ≠ faultNode ∧
    debt.remoteNumaId ∉ s.faultNumaMap debt.borrowNodeId
  present : ∀ record numaId, s.record c = some record →
    (s.memBorrow c record.name).2 = some numaId → numaId ∉ s.faultNumaMap c.borrowInNid

/-- The record is one of a debt of the borrower. -/
structure Owned (c : Call) (record : BorrowRecord) : Prop where
  node : record.borrowNode = c.borrowInNid
  numa : toUInt16 record.borrowRemoteNuma = record.borrowRemoteNuma

/-- A direct return does what it says, and it is of the last debt; or it does nothing at all. -/
structure MeetsDirect (faultNode : String) (s : State) (c : Call) (record : BorrowRecord) :
    Prop where
  owned : Owned c record
  free : c.free.done = c.free.ok
  last : c.free.ok → IsLast faultNode s.ledger record
  failed : ¬c.free.ok → ¬c.setSmap.done

/-- A return after a move does what it says and computes with the debts of the local NUMA node
alone; if these are all returned then so are the others on the remote NUMA node; and if the memory
is not freed then the size is set back. -/
structure MeetsMoved (faultNode : String) (c : Call) (s : State) (record : BorrowRecord)
    (bindType : NumaBindType) (srcNumaId : Int) (preRemoteSize : BitVec 64) : Prop where
  owned : Owned c record
  srcNuma : record.borrowLocalNuma = srcNumaId
  answered : (collectBorrowRecordsWithFault (c.ledger 3) s.ledger c.borrowInNid).isSome
  counted : ∀ debt ∈ s.ledger, concerns c.borrowInNid debt →
    (counts (toUInt16 srcNumaId) record.borrowRemoteNuma bindType debt.record ↔
      isOn c.borrowInNid srcNumaId record.borrowRemoteNuma debt)
  setSmap : c.setSmap.done = c.setSmap.ok
  free : c.setSmap.ok → c.free.done = c.free.ok
  scaled : c.scaled (preRemoteSize - record.size) = preRemoteSize - record.size
  last : c.setSmap.ok → c.free.ok → preRemoteSize - record.size = 0 →
    IsLast faultNode s.ledger record
  failed : c.setSmap.ok → ¬c.free.ok →
    c.rollBack.done ∧ c.restored (preRemoteSize - record.size) record.size = preRemoteSize

/-- **When a return keeps marks and sizes right.** -/
def Meets (faultNode : String) (s : State) (c : Call) : Prop :=
  match s.course c with
  | .stop _ => Elsewhere faultNode s c
  | .direct record _ => MeetsDirect faultNode s c record
  | .moved s₁ record bindType srcNumaId preRemoteSize => Elsewhere faultNode s c ∧
    MeetsMoved faultNode c s₁ record bindType srcNumaId preRemoteSize

/-! ### What is borrowed in the place of a debt -/

/-- Nothing has changed for the faulty node and the marked NUMA nodes. -/
structure Away (faultNode : String) (s t : State) : Prop where
  marks : t.faultNumaMap = s.faultNumaMap
  mem : ∀ debt ∈ s.ledger, debt ∈ t.ledger
  lent : ∀ debt ∈ t.ledger, debt.lentNodeId = faultNode → debt ∈ s.ledger
  sizes : ∀ nodeId, ∀ remoteNumaId ∈ s.faultNumaMap nodeId, ∀ localNumaId,
    t.sizes (nodeId, localNumaId, remoteNumaId) = s.sizes (nodeId, localNumaId, remoteNumaId)
  debtSize : ∀ nodeId, ∀ remoteNumaId ∈ s.faultNumaMap nodeId, ∀ localNumaId,
    t.debtSize nodeId localNumaId remoteNumaId = s.debtSize nodeId localNumaId remoteNumaId

section Away

variable {faultNode : String} {s t u : State} {c : Call}

theorem Away.refl (s : State) : Away faultNode s s where
  marks := rfl
  mem _ h := h
  lent _ h _ := h
  sizes _ _ _ _ := rfl
  debtSize _ _ _ _ := rfl

theorem Away.trans (hst : Away faultNode s t) (htu : Away faultNode t u) : Away faultNode s u where
  marks := htu.marks.trans hst.marks
  mem debt h := htu.mem _ (hst.mem _ h)
  lent debt h hlent := hst.lent _ (htu.lent _ h hlent) hlent
  sizes nodeId remoteNumaId hmark localNumaId := by
    have hmark' : remoteNumaId ∈ t.faultNumaMap nodeId := hst.marks ▸ hmark
    rw [htu.sizes _ _ hmark', hst.sizes _ _ hmark]
  debtSize nodeId remoteNumaId hmark localNumaId := by
    have hmark' : remoteNumaId ∈ t.faultNumaMap nodeId := hst.marks ▸ hmark
    rw [htu.debtSize _ _ hmark', hst.debtSize _ _ hmark]

/-- New debts that are on no marked NUMA node. -/
theorem Away.addAll {l : List UbseNumaMemoryDebtInfo}
    (h : ∀ debt ∈ l, debt.lentNodeId ≠ faultNode ∧
      debt.remoteNumaId ∉ s.faultNumaMap debt.borrowNodeId) :
    Away faultNode s { s with ledger := s.ledger.addAll l } where
  marks := rfl
  mem debt hdebt := Keyed.mem_addAll_of_mem hdebt
  lent debt hdebt hlent := by
    rcases Keyed.mem_of_mem_addAll hdebt with hmem | hmem
    · exact hmem
    · exact absurd hlent (h debt hmem).1
  sizes _ _ _ _ := rfl
  debtSize nodeId remoteNumaId hmark localNumaId := by
    refine Keyed.sum_addAll_of_not fun debt hdebt => ?_
    rw [Bool.eq_false_iff, isOn, Ne, Bool.and_eq_true, Bool.and_eq_true, decide_eq_true_eq,
      decide_eq_true_eq, decide_eq_true_eq]
    rintro ⟨⟨rfl, -⟩, rfl⟩
    exact (h debt hdebt).2 hmark

theorem Away.memBorrow {name : String} (h : ∀ debt ∈ c.borrowed, debt.lentNodeId ≠ faultNode ∧
    debt.remoteNumaId ∉ s.faultNumaMap debt.borrowNodeId) :
    Away faultNode s (s.memBorrow c name).1 := by
  unfold State.memBorrow
  split
  next => exact .refl s
  next =>
    have hadd := Away.addAll h
    dsimp only
    split
    next => exact hadd
    next => exact ⟨hadd.marks, hadd.mem, hadd.lent, hadd.sizes, hadd.debtSize⟩

theorem Away.memIdExecute {srcNumaId preRemoteNumaId remoteNumaId : Int}
    (h : ∀ debt ∈ c.execution.adjusted, debt.lentNodeId ≠ faultNode ∧
      debt.remoteNumaId ∉ s.faultNumaMap debt.borrowNodeId)
    (hnuma : remoteNumaId ∉ s.faultNumaMap c.borrowInNid) :
    Away faultNode s (s.memIdExecute c srcNumaId preRemoteNumaId remoteNumaId) := by
  have hadd := Away.addAll h
  unfold State.memIdExecute
  dsimp only
  split
  next => exact hadd
  next size _ =>
    split
    next =>
      refine ⟨hadd.marks, hadd.mem, hadd.lent, ?_, hadd.debtSize⟩
      intro nodeId numaId hmark localNumaId
      -- The size that is registered is one of a NUMA node without a mark.
      refine Function.update_of_ne ?_ _ _
      rintro heq
      obtain ⟨rfl, -, rfl⟩ : nodeId = c.borrowInNid ∧ localNumaId = srcNumaId ∧
          numaId = remoteNumaId := by simpa using heq
      exact hnuma hmark
    next => exact hadd

/-- What has changed elsewhere only is as right as before. -/
theorem Sound.away (hs : Sound faultNode s) (h : Away faultNode s t) : Sound faultNode t where
  marked debt hdebt hlent hpos := h.marks ▸ hs.marked debt (h.lent debt hdebt hlent) hlent hpos
  registered nodeId remoteNumaId hmark localNumaId := by
    rw [h.marks] at hmark
    rw [h.sizes _ _ hmark, h.debtSize _ _ hmark]
    exact hs.registered _ _ hmark _

end Away

/-! ### The record of a call -/

section Record

variable {s : State} {c : Call} {record : BorrowRecord}

theorem exists_of_mem_collect {answered : Bool} {ledger : Ledger} {nodeId : String}
    {records : List BorrowRecord}
    (h : collectBorrowRecordsWithFault answered ledger nodeId = some records) :
    records = (ledger.entries.filter (concerns nodeId)).map (·.record) := by
  unfold collectBorrowRecordsWithFault at h
  dsimp only at h
  split at h
  next => cases h
  next =>
    split at h
    next => cases h
    next => exact (Option.some.inj h).symm

/-- The record of a call is one of a debt. -/
theorem exists_debt (h : s.record c = some record) : ∃ debt ∈ s.ledger, debt.record = record := by
  obtain ⟨records, hrecords, hfind⟩ := Option.bind_eq_some_iff.1 h
  have hmem := List.mem_of_find?_eq_some hfind
  rw [exists_of_mem_collect hrecords, List.mem_map] at hmem
  obtain ⟨debt, hdebt, rfl⟩ := hmem
  exact ⟨debt, (List.mem_filter.1 hdebt).1, rfl⟩

theorem Owned.key {debt : UbseNumaMemoryDebtInfo} (h : Owned c debt.record) :
    debt.key = (debt.record.name, c.borrowInNid) :=
  Prod.ext rfl h.node

/-- What a NUMA node has on a remote one, if the debts that count are those of it. -/
theorem borrowSize_eq {answered : Bool} {localNumaId srcNumaId remoteNumaId : Int}
    {bindType : NumaBindType} {records : List BorrowRecord}
    (hrecords : collectBorrowRecordsWithFault answered s.ledger c.borrowInNid = some records)
    (hcounted : ∀ debt ∈ s.ledger, concerns c.borrowInNid debt →
      (counts localNumaId remoteNumaId bindType debt.record ↔
        isOn c.borrowInNid srcNumaId remoteNumaId debt)) :
    getLocalNumaOnRemoteNumaBorrowSize answered s.ledger c.borrowInNid localNumaId remoteNumaId
      bindType = s.debtSize c.borrowInNid srcNumaId remoteNumaId := by
  have hfilter : (s.ledger.entries.filter (concerns c.borrowInNid)).filter
      (fun debt => counts localNumaId remoteNumaId bindType debt.record) =
        s.ledger.entries.filter (isOn c.borrowInNid srcNumaId remoteNumaId) := by
    rw [List.filter_filter]
    refine List.filter_congr fun debt hdebt => Bool.eq_iff_iff.2 ?_
    rw [Bool.and_eq_true]
    constructor
    · rintro ⟨hcount, hconcerns⟩
      exact (hcounted debt hdebt hconcerns).1 hcount
    · intro hon
      -- A debt of the borrower concerns it.
      have hconcerns : concerns c.borrowInNid debt = true := by
        rw [isOn, Bool.and_eq_true, Bool.and_eq_true] at hon
        rw [concerns, hon.1.1, Bool.true_or]
      exact ⟨(hcounted debt hdebt hconcerns).2 hon, hconcerns⟩
  unfold getLocalNumaOnRemoteNumaBorrowSize
  rw [hrecords]
  dsimp only
  rw [exists_of_mem_collect hrecords, List.filter_map, List.map_map, State.debtSize, Keyed.sum,
    ← hfilter]
  rfl

end Record

/-! ### What a request leaves alone -/

section Frame

variable (s : State) (answer : Answer) (key : SizeKey) (borrowSize : BitVec 64)
  (name nodeId : String)

@[simp] theorem setSmap_ledger :
    (s.setSmapRemoteNumaInfo answer key borrowSize).ledger = s.ledger := by
  unfold State.setSmapRemoteNumaInfo
  split <;> rfl

@[simp] theorem setSmap_faultNumaMap :
    (s.setSmapRemoteNumaInfo answer key borrowSize).faultNumaMap = s.faultNumaMap := by
  unfold State.setSmapRemoteNumaInfo
  split <;> rfl

@[simp] theorem setSmap_debtSize (localNumaId remoteNumaId : Int) :
    (s.setSmapRemoteNumaInfo answer key borrowSize).debtSize nodeId localNumaId remoteNumaId =
      s.debtSize nodeId localNumaId remoteNumaId := by
  rw [State.debtSize, setSmap_ledger, State.debtSize]

theorem setSmap_sizes_of_ne {key' : SizeKey} (h : key' ≠ key) :
    (s.setSmapRemoteNumaInfo answer key borrowSize).sizes key' = s.sizes key' := by
  unfold State.setSmapRemoteNumaInfo
  split
  next => exact Function.update_of_ne h _ _
  next => rfl

theorem setSmap_sizes_self (h : answer.done = true) :
    (s.setSmapRemoteNumaInfo answer key borrowSize).sizes key = borrowSize >>> KB2MB := by
  rw [State.setSmapRemoteNumaInfo, if_pos h]
  exact Function.update_self ..

theorem setSmap_of_not_done (h : answer.done = false) :
    s.setSmapRemoteNumaInfo answer key borrowSize = s := by
  rw [State.setSmapRemoteNumaInfo, h]
  rfl

@[simp] theorem memFree_sizes : (s.memFree answer name nodeId).sizes = s.sizes := by
  unfold State.memFree
  split <;> rfl

@[simp] theorem memFree_faultNumaMap :
    (s.memFree answer name nodeId).faultNumaMap = s.faultNumaMap := by
  unfold State.memFree
  split <;> rfl

theorem memFree_of_not_done (h : answer.done = false) : s.memFree answer name nodeId = s := by
  rw [State.memFree, h]
  rfl

theorem mem_of_mem_memFree {s : State} {debt : UbseNumaMemoryDebtInfo}
    (h : debt ∈ (s.memFree answer name nodeId).ledger) : debt ∈ s.ledger := by
  unfold State.memFree at h
  split at h
  next => exact (Keyed.mem_remove.1 h).1
  next => exact h

end Frame

/-! ### The debt that is returned -/

section Freed

variable {s : State} {debt : UbseNumaMemoryDebtInfo} {answer : Answer}

theorem isOn_iff {nodeId : String} {localNumaId remoteNumaId : Int} :
    isOn nodeId localNumaId remoteNumaId debt = true ↔ debt.borrowNodeId = nodeId ∧
      debt.usrInfo = localNumaId ∧ debt.remoteNumaId = remoteNumaId := by
  simp [isOn, and_assoc]

/-- The other NUMA nodes have as much as before. -/
theorem debtSize_memFree_of_ne (hdebt : debt ∈ s.ledger) {name nodeId : String}
    (hkey : debt.key = (name, nodeId)) {nodeId' : String} {localNumaId remoteNumaId : Int}
    (hne : isOn nodeId' localNumaId remoteNumaId debt = false) :
    (s.memFree answer name nodeId).debtSize nodeId' localNumaId remoteNumaId =
      s.debtSize nodeId' localNumaId remoteNumaId := by
  unfold State.memFree
  split
  next =>
    refine Keyed.sum_remove_of_not fun other hother hsame => ?_
    rwa [Keyed.eq_of_key_eq hother hdebt (hsame.trans hkey.symm)]
  next => rfl

/-- The NUMA node of the debt has less by the size of the debt. -/
theorem debtSize_memFree_of_mem (hdebt : debt ∈ s.ledger) {name nodeId : String}
    (hkey : debt.key = (name, nodeId)) (hdone : answer.done = true) {localNumaId : Int}
    {remoteNumaId : Int} (hon : isOn nodeId localNumaId remoteNumaId debt = true) :
    (s.memFree answer name nodeId).debtSize nodeId localNumaId remoteNumaId =
      s.debtSize nodeId localNumaId remoteNumaId - debt.record.size := by
  rw [State.memFree, if_pos hdone, ← hkey]
  have hsum := Keyed.sum_remove (f := fun debt => debt.record.size) hdebt hon
  exact (sub_eq_of_eq_add' hsum.symm).symm

end Freed

/-! ### What a call comes to -/

section Course

variable {faultNode : String} {s : State} {c : Call} {record : BorrowRecord}

/-- What is known of a call before anything is returned. -/
def State.Course.Follows (faultNode : String) (s : State) (c : Call) : State.Course → Prop
  | .stop t => Away faultNode s t
  | .direct record _ => s.record c = some record
  | .moved t record bindType srcNumaId preRemoteSize =>
    s.record c = some record ∧ Away faultNode s t ∧ s.srcNumaId c bindType = some srcNumaId ∧
      preRemoteSize = getLocalNumaOnRemoteNumaBorrowSize (c.ledger 3) t.ledger c.borrowInNid
        (toUInt16 srcNumaId) (toUInt16 record.borrowRemoteNuma) bindType

theorem course_cases (s : State) (c : Call) : s.course c = .stop s ∨
    ∃ record, s.record c = some record ∧ ((∃ srcNumaId, s.course c = .direct record srcNumaId) ∨
      ∃ bindType srcNumaId, s.srcNumaId c bindType = some srcNumaId ∧
        s.course c = s.moveAway c record bindType srcNumaId) := by
  unfold State.course
  split
  next => exact .inl rfl
  next record hrecord =>
    split
    next => exact .inl rfl
    next bindType _ =>
      split
      next srcNumaId infos hsrc _ =>
        split
        next => exact .inr ⟨record, hrecord, .inl ⟨srcNumaId, rfl⟩⟩
        next =>
          split
          next => exact .inl rfl
          next =>
            split
            next => exact .inl rfl
            next => exact .inr ⟨record, hrecord, .inr ⟨bindType, srcNumaId, hsrc, rfl⟩⟩
      next => exact .inl rfl

theorem moveAway_ne_direct (s : State) (c : Call) (record : BorrowRecord) (bindType : NumaBindType)
    (srcNumaId : Int) (record' : BorrowRecord) (srcNumaId' : Int) :
    s.moveAway c record bindType srcNumaId ≠ .direct record' srcNumaId' := by
  unfold State.moveAway
  dsimp only
  repeat' split
  all_goals simp

theorem follows_moveAway (helse : Elsewhere faultNode s c) (hrecord : s.record c = some record)
    {bindType : NumaBindType} {srcNumaId : Int} (hsrc : s.srcNumaId c bindType = some srcNumaId) :
    (s.moveAway c record bindType srcNumaId).Follows faultNode s c := by
  have hborrow : Away faultNode s (s.memBorrow c record.name).1 :=
    .memBorrow fun debt hdebt => helse.borrowed debt (List.mem_append_left _ hdebt)
  have hpresent := helse.present record
  unfold State.moveAway
  generalize hs₁ : s.memBorrow c record.name = reply at hborrow hpresent
  obtain ⟨s₁, numaId⟩ := reply
  cases numaId with
  | none => exact hborrow
  | some remoteNumaId =>
    have hexecute : Away faultNode s (s₁.memIdExecute c srcNumaId
        (toUInt16 record.borrowRemoteNuma) remoteNumaId) := by
      refine hborrow.trans (.memIdExecute (fun debt hdebt => ?_) ?_)
      · rw [hborrow.marks]
        exact helse.borrowed debt (List.mem_append_right _ hdebt)
      · rw [hborrow.marks]
        exact hpresent _ hrecord rfl
    dsimp only
    split
    next => exact hborrow
    next =>
      split
      next => exact hexecute
      next =>
        split
        next => exact hexecute
        next => exact ⟨hrecord, hexecute, hsrc, rfl⟩

theorem follows_course (h : Meets faultNode s c) : (s.course c).Follows faultNode s c := by
  rcases course_cases s c with hstop | ⟨record, hrecord, ⟨srcNumaId, hdirect⟩ |
    ⟨bindType, srcNumaId, hsrc, hmove⟩⟩
  · rw [hstop]
    exact .refl s
  · rw [hdirect]
    exact hrecord
  · -- A call that has borrowed and moved is not a direct return.
    have helse : Elsewhere faultNode s c := by
      unfold Meets at h
      split at h
      next => exact h
      next record' srcNumaId' hcourse =>
        rw [hmove] at hcourse
        exact absurd hcourse (moveAway_ne_direct s c record bindType srcNumaId record' srcNumaId')
      next => exact h.1
    rw [hmove]
    exact follows_moveAway helse hrecord hsrc

end Course

/-! ### The step -/

section Step

variable {faultNode : String} {s : State} {c : Call} {record : BorrowRecord}

/-- A mark may be removed when the faulty node has nothing left on the remote NUMA node, whatever
size is registered for it. -/
theorem sound_removeFaultNuma {nodeId : String} {numaId : Int}
    (hmarked : ∀ debt ∈ s.ledger, debt.lentNodeId = faultNode → 0 < debt.remoteNumaId →
      debt.remoteNumaId ∈ s.faultNumaMap debt.borrowNodeId)
    (hregistered : ∀ nodeId', ∀ numaId' ∈ s.faultNumaMap nodeId',
      ¬(nodeId' = nodeId ∧ numaId' = numaId) → s.Registered nodeId' numaId')
    (hlast : ∀ debt ∈ s.ledger, debt.lentNodeId = faultNode →
      ¬(debt.borrowNodeId = nodeId ∧ debt.remoteNumaId = numaId)) :
    Sound faultNode (s.removeFaultNuma nodeId numaId) := by
  have hmarks : ∀ nodeId' numaId',
      numaId' ∈ (s.removeFaultNuma nodeId numaId).faultNumaMap nodeId' ↔
        numaId' ∈ s.faultNumaMap nodeId' ∧ ¬(nodeId' = nodeId ∧ numaId' = numaId) := by
    intro nodeId' numaId'
    rw [State.removeFaultNuma]
    dsimp only
    rcases eq_or_ne nodeId' nodeId with rfl | hne
    · rw [Function.update_self, List.mem_filter]
      simp
    · rw [Function.update_of_ne hne]
      simp [hne]
  constructor
  · intro debt hdebt hlent hpos
    exact (hmarks _ _).2 ⟨hmarked debt hdebt hlent hpos, hlast debt hdebt hlent⟩
  · intro nodeId' numaId' hmark
    obtain ⟨hmark, hne⟩ := (hmarks _ _).1 hmark
    exact hregistered nodeId' numaId' hmark hne

/-- What is left on the remote NUMA node after the last debt. -/
theorem IsLast.not_on (hlast : IsLast faultNode s.ledger record) (howned : Owned c record)
    {answer : Answer} (hdone : answer.done = true) {debt : UbseNumaMemoryDebtInfo}
    (hdebt : debt ∈ (s.memFree answer record.name c.borrowInNid).ledger)
    (hlent : debt.lentNodeId = faultNode) :
    ¬(debt.borrowNodeId = c.borrowInNid ∧ debt.remoteNumaId = record.borrowRemoteNuma) := by
  rintro ⟨hnode, hnuma⟩
  rw [State.memFree, if_pos hdone] at hdebt
  obtain ⟨hdebt, hkey⟩ := Keyed.mem_remove.1 hdebt
  exact hkey (Prod.ext (hlast debt hdebt hlent (hnode.trans howned.node.symm) hnuma) hnode)

/-- The registered sizes of the other remote NUMA nodes stay right. -/
theorem registered_of_ne {debt : UbseNumaMemoryDebtInfo} (hdebt : debt ∈ s.ledger)
    (howned : Owned c debt.record) {setSmap free : Answer} {localNumaId : Int}
    {borrowSize : BitVec 64} {nodeId : String} {numaId : Int}
    (hne : ¬(nodeId = c.borrowInNid ∧ numaId = debt.record.borrowRemoteNuma))
    (h : s.Registered nodeId numaId) :
    ((s.setSmapRemoteNumaInfo setSmap (c.borrowInNid, localNumaId, debt.record.borrowRemoteNuma)
      borrowSize).memFree free debt.record.name c.borrowInNid).Registered nodeId numaId := by
  intro localNumaId'
  have hother : isOn nodeId localNumaId' numaId debt = false := by
    rw [Bool.eq_false_iff, Ne, isOn_iff]
    rintro ⟨rfl, -, rfl⟩
    exact hne ⟨howned.node, rfl⟩
  have hkey : (nodeId, localNumaId', numaId) ≠
      (c.borrowInNid, localNumaId, debt.record.borrowRemoteNuma) := by
    rintro heq
    simp only [Prod.mk.injEq] at heq
    exact hne ⟨heq.1, heq.2.2⟩
  rw [memFree_sizes, setSmap_sizes_of_ne _ _ _ _ hkey, debtSize_memFree_of_ne
    (by simpa using hdebt) howned.key hother, setSmap_debtSize]
  exact h localNumaId'

/-- A direct return. -/
theorem sound_direct (hs : Sound faultNode s) (hrecord : s.record c = some record)
    (srcNumaId : Int) (h : MeetsDirect faultNode s c record) :
    Sound faultNode (s.memFreeDirectlyExecuteRpc c srcNumaId
      (toUInt16 record.borrowRemoteNuma) record.name).1 := by
  obtain ⟨debt, hdebt, rfl⟩ := exists_debt hrecord
  rw [h.owned.numa, State.memFreeDirectlyExecuteRpc]
  cases hok : c.free.ok with
  | true =>
    have hdone : c.free.done = true := h.free.trans hok
    refine sound_removeFaultNuma (fun other hother hlent hpos => ?_)
      (fun nodeId numaId hmark hne => ?_) fun other hother hlent => ?_
    · rw [memFree_faultNumaMap, setSmap_faultNumaMap]
      have hmem := mem_of_mem_memFree _ _ _ hother
      rw [setSmap_ledger] at hmem
      exact hs.marked other hmem hlent hpos
    · rw [memFree_faultNumaMap, setSmap_faultNumaMap] at hmark
      exact registered_of_ne hdebt h.owned hne (hs.registered nodeId numaId hmark)
    · have hlast : IsLast faultNode (s.setSmapRemoteNumaInfo c.setSmap
          (c.borrowInNid, srcNumaId, debt.record.borrowRemoteNuma) 0).ledger debt.record := by
        rw [setSmap_ledger]
        exact h.last hok
      exact hlast.not_on h.owned hdone hother hlent
  | false =>
    -- Neither the size is registered nor the memory freed.
    have hfree : c.free.done = false := h.free.trans hok
    have hset : c.setSmap.done = false := Bool.eq_false_iff.2 (h.failed (by simp [hok]))
    rw [setSmap_of_not_done _ _ _ _ hset, memFree_of_not_done _ _ _ _ hfree]
    exact hs

/-- After a return the size of the NUMA node of the debt is right again. -/
theorem registered_returned {debt : UbseNumaMemoryDebtInfo} (hdebt : debt ∈ s.ledger)
    (howned : Owned c debt.record) {setSmap free : Answer} (hset : setSmap.done = true)
    (hfree : free.done = true)
    (h : s.Registered c.borrowInNid debt.record.borrowRemoteNuma) :
    ((s.setSmapRemoteNumaInfo setSmap
      (c.borrowInNid, debt.record.borrowLocalNuma, debt.record.borrowRemoteNuma)
      (s.debtSize c.borrowInNid debt.record.borrowLocalNuma debt.record.borrowRemoteNuma -
        debt.record.size)).memFree free debt.record.name c.borrowInNid).Registered
      c.borrowInNid debt.record.borrowRemoteNuma := by
  intro localNumaId
  rcases eq_or_ne localNumaId debt.record.borrowLocalNuma with rfl | hne
  · have hon : isOn c.borrowInNid debt.record.borrowLocalNuma debt.record.borrowRemoteNuma debt =
        true := isOn_iff.2 ⟨howned.node, rfl, rfl⟩
    rw [memFree_sizes, setSmap_sizes_self _ _ _ _ hset, debtSize_memFree_of_mem
      (by simpa using hdebt) howned.key hfree hon, setSmap_debtSize]
  · have hother : isOn c.borrowInNid localNumaId debt.record.borrowRemoteNuma debt = false := by
      rw [Bool.eq_false_iff, Ne, isOn_iff]
      rintro ⟨-, hlocal, -⟩
      exact hne hlocal.symm
    rw [memFree_sizes, setSmap_sizes_of_ne _ _ _ _ (by simp [hne]), debtSize_memFree_of_ne
      (by simpa using hdebt) howned.key hother, setSmap_debtSize]
    exact h localNumaId

/-- The size is set back when the debt stays. -/
theorem registered_rolledBack {setSmap rollBack : Answer} {nodeId : String}
    {localNumaId remoteNumaId : Int} {borrowSize : BitVec 64} (hback : rollBack.done = true)
    {nodeId' : String} {remoteNumaId' : Int} (h : s.Registered nodeId' remoteNumaId') :
    ((s.setSmapRemoteNumaInfo setSmap (nodeId, localNumaId, remoteNumaId)
      borrowSize).setSmapRemoteNumaInfo rollBack (nodeId, localNumaId, remoteNumaId)
      (s.debtSize nodeId localNumaId remoteNumaId)).Registered nodeId' remoteNumaId' := by
  intro localNumaId'
  rw [setSmap_debtSize, setSmap_debtSize]
  by_cases hkey : (nodeId', localNumaId', remoteNumaId') = (nodeId, localNumaId, remoteNumaId)
  · rw [hkey, setSmap_sizes_self _ _ _ _ hback]
    simp only [Prod.mk.injEq] at hkey
    rw [hkey.1, hkey.2.1, hkey.2.2]
  · rw [setSmap_sizes_of_ne _ _ _ _ hkey, setSmap_sizes_of_ne _ _ _ _ hkey]
    exact h localNumaId'

/-- A return after a move. -/
theorem sound_moved {bindType : NumaBindType} {srcNumaId : Int} {preRemoteSize : BitVec 64}
    (hs : Sound faultNode s) {debt : UbseNumaMemoryDebtInfo} (hdebt : debt ∈ s.ledger)
    (hsize : preRemoteSize = getLocalNumaOnRemoteNumaBorrowSize (c.ledger 3) s.ledger
      c.borrowInNid (toUInt16 srcNumaId) (toUInt16 debt.record.borrowRemoteNuma) bindType)
    (hbind : bindType = .BIND_MULTIPLE → srcNumaId = -1)
    (h : MeetsMoved faultNode c s debt.record bindType srcNumaId preRemoteSize) :
    Sound faultNode (s.setAndDeleteResource c debt.record.name srcNumaId bindType
      (toUInt16 debt.record.borrowRemoteNuma) preRemoteSize debt.record.size).1 := by
  obtain ⟨records, hrecords⟩ := Option.isSome_iff_exists.1 h.answered
  have hsrc : (if bindType = .BIND_MULTIPLE then -1 else srcNumaId) = srcNumaId := by
    split
    next hmultiple => exact (hbind hmultiple).symm
    next => rfl
  have hon : isOn c.borrowInNid srcNumaId debt.record.borrowRemoteNuma debt = true :=
    isOn_iff.2 ⟨h.owned.node, h.srcNuma, rfl⟩
  rw [h.owned.numa, borrowSize_eq hrecords h.counted] at hsize
  rw [h.owned.numa, State.setAndDeleteResource, hsrc, h.scaled]
  dsimp only
  cases hset : c.setSmap.ok with
  | false =>
    rw [setSmap_of_not_done _ _ _ _ (h.setSmap.trans hset)]
    exact hs
  | true =>
    have hsetDone : c.setSmap.done = true := h.setSmap.trans hset
    cases hok : c.free.ok with
    | true =>
      have hfree : c.free.done = true := (h.free hset).trans hok
      obtain rfl : debt.record.borrowLocalNuma = srcNumaId := h.srcNuma
      subst hsize
      have hsound : Sound faultNode ((s.setSmapRemoteNumaInfo c.setSmap
          (c.borrowInNid, debt.record.borrowLocalNuma, debt.record.borrowRemoteNuma)
          (s.debtSize c.borrowInNid debt.record.borrowLocalNuma debt.record.borrowRemoteNuma -
            debt.record.size)).memFree c.free debt.record.name c.borrowInNid) := by
        constructor
        · intro other hother hlent hpos
          have hmem := mem_of_mem_memFree _ _ _ hother
          rw [setSmap_ledger] at hmem
          rw [memFree_faultNumaMap, setSmap_faultNumaMap]
          exact hs.marked other hmem hlent hpos
        · intro nodeId numaId hmark
          rw [memFree_faultNumaMap, setSmap_faultNumaMap] at hmark
          by_cases hsame : nodeId = c.borrowInNid ∧ numaId = debt.record.borrowRemoteNuma
          · obtain ⟨rfl, rfl⟩ := hsame
            exact registered_returned hdebt h.owned hsetDone hfree (hs.registered _ _ hmark)
          · exact registered_of_ne hdebt h.owned hsame (hs.registered _ _ hmark)
      simp only [Bool.not_true, Bool.false_eq_true, if_false]
      split
      next hzero =>
        -- The NUMA node is empty, and by assumption the remote one is as well.
        refine sound_removeFaultNuma hsound.marked (fun nodeId numaId hmark _ =>
          hsound.registered nodeId numaId hmark) fun other hother hlent => ?_
        have hlast : IsLast faultNode (s.setSmapRemoteNumaInfo c.setSmap
            (c.borrowInNid, debt.record.borrowLocalNuma, debt.record.borrowRemoteNuma)
            (s.debtSize c.borrowInNid debt.record.borrowLocalNuma
              debt.record.borrowRemoteNuma - debt.record.size)).ledger debt.record := by
          rw [setSmap_ledger]
          exact h.last hset hok hzero
        exact hlast.not_on h.owned hfree hother hlent
      next => exact hsound
    | false =>
      have hfree : c.free.done = false := (h.free hset).trans hok
      obtain ⟨hback, hrestored⟩ := h.failed hset (by simp [hok])
      simp only [Bool.not_true, Bool.not_false, Bool.false_eq_true, if_false, if_true]
      rw [memFree_of_not_done _ _ _ _ hfree, hrestored, hsize]
      constructor
      · intro other hother hlent hpos
        rw [setSmap_ledger, setSmap_ledger] at hother
        rw [setSmap_faultNumaMap, setSmap_faultNumaMap]
        exact hs.marked other hother hlent hpos
      · intro nodeId numaId hmark
        rw [setSmap_faultNumaMap, setSmap_faultNumaMap] at hmark
        exact registered_rolledBack hback (hs.registered nodeId numaId hmark)

end Step

/-! ### Runs -/

section Runs

variable {faultNode : String} {s t : State} {c : Call}

theorem addFaultNuma_marks (nodeId : String) (numaId : Int) :
    numaId ∈ (s.addFaultNuma nodeId numaId).faultNumaMap nodeId ∧
      ∀ nodeId', ∀ numaId' ∈ s.faultNumaMap nodeId',
        numaId' ∈ (s.addFaultNuma nodeId numaId).faultNumaMap nodeId' := by
  unfold State.addFaultNuma
  split
  next h => exact ⟨h, fun _ _ h => h⟩
  next =>
    dsimp only
    refine ⟨by simp, fun nodeId' numaId' h => ?_⟩
    rcases eq_or_ne nodeId' nodeId with rfl | hne
    · rw [Function.update_self]
      exact List.mem_append_left _ h
    · rwa [Function.update_of_ne hne]

theorem addFaultNuma_rest (nodeId : String) (numaId : Int) :
    (s.addFaultNuma nodeId numaId).ledger = s.ledger ∧
      (s.addFaultNuma nodeId numaId).sizes = s.sizes := by
  unfold State.addFaultNuma
  split
  next => exact ⟨rfl, rfl⟩
  next => exact ⟨rfl, rfl⟩

/-- Marking the debts does nothing else. -/
theorem addFaultNumas_rest (l : List UbseNumaMemoryDebtInfo) (s : State) :
    (s.addFaultNumas l).ledger = s.ledger ∧ (s.addFaultNumas l).sizes = s.sizes := by
  unfold State.addFaultNumas
  refine List.foldlRecOn (motive := fun s' : State => s'.ledger = s.ledger ∧ s'.sizes = s.sizes)
    l _ ⟨rfl, rfl⟩ fun s' ih debt _ => ?_
  split
  next => exact ih
  next =>
    obtain ⟨hledger, hsizes⟩ := addFaultNuma_rest (s := s') debt.borrowNodeId debt.remoteNumaId
    exact ⟨hledger.trans ih.1, hsizes.trans ih.2⟩

theorem addFaultNumas_marks (l : List UbseNumaMemoryDebtInfo) (s : State) :
    (∀ nodeId, ∀ numaId ∈ s.faultNumaMap nodeId,
      numaId ∈ (s.addFaultNumas l).faultNumaMap nodeId) ∧
    ∀ debt ∈ l, 0 < debt.remoteNumaId →
      debt.remoteNumaId ∈ (s.addFaultNumas l).faultNumaMap debt.borrowNodeId := by
  induction l generalizing s with
  | nil => exact ⟨fun _ _ h => h, fun _ h => absurd h List.not_mem_nil⟩
  | cons debt l ih =>
    by_cases hpos : debt.remoteNumaId ≤ 0
    · have hstep : s.addFaultNumas (debt :: l) = s.addFaultNumas l := by
        rw [State.addFaultNumas, List.foldl_cons, if_pos hpos]
        rfl
      rw [hstep]
      refine ⟨(ih s).1, fun other hother hpos' => ?_⟩
      rcases List.mem_cons.1 hother with rfl | hother
      · omega
      · exact (ih s).2 other hother hpos'
    · have hstep : s.addFaultNumas (debt :: l) =
          (s.addFaultNuma debt.borrowNodeId debt.remoteNumaId).addFaultNumas l := by
        rw [State.addFaultNumas, List.foldl_cons, if_neg hpos]
        rfl
      obtain ⟨hkeep, hadd⟩ := ih (s.addFaultNuma debt.borrowNodeId debt.remoteNumaId)
      obtain ⟨hself, hothers⟩ := addFaultNuma_marks (s := s) debt.borrowNodeId debt.remoteNumaId
      rw [hstep]
      refine ⟨fun nodeId numaId h => hkeep _ _ (hothers _ _ h), fun other hother hpos' => ?_⟩
      rcases List.mem_cons.1 hother with rfl | hother
      · exact hkeep _ _ hself
      · exact hadd other hother hpos'

/-- Once its debts have been marked, marks and sizes are right. -/
theorem sound_init (h : (returns faultNode).init s) : Sound faultNode s := by
  obtain ⟨s₀, hregistered, rfl⟩ := h
  obtain ⟨hledger, hsizes⟩ :=
    addFaultNumas_rest (UbseGetNumaMemDebtInfoWithNode s₀.ledger faultNode) s₀
  constructor
  · intro debt hdebt hlent hpos
    rw [hledger] at hdebt
    refine (addFaultNumas_marks _ s₀).2 debt (List.mem_filter.2 ⟨hdebt, ?_⟩) hpos
    rw [concerns, decide_eq_true hlent, Bool.or_true]
  · intro nodeId remoteNumaId _ localNumaId
    rw [hsizes, State.debtSize, hledger]
    exact hregistered nodeId remoteNumaId localNumaId

/-- **What one return keeps.** -/
theorem sound_memIdFaultManage (hs : Sound faultNode s) (h : Meets faultNode s c) :
    Sound faultNode (s.memIdFaultManage c).1 := by
  have hfollows := follows_course h
  unfold Meets at h
  unfold State.memIdFaultManage
  split
  next t hcourse =>
    rw [hcourse] at hfollows
    exact hs.away hfollows
  next record srcNumaId hcourse =>
    rw [hcourse] at hfollows h
    exact sound_direct hs hfollows srcNumaId h
  next t record bindType srcNumaId preRemoteSize hcourse =>
    rw [hcourse] at hfollows h
    obtain ⟨hrecord, haway, hsrc, hsize⟩ := hfollows
    obtain ⟨debt, hdebt, rfl⟩ := exists_debt hrecord
    refine sound_moved (hs.away haway) (haway.mem debt hdebt) hsize ?_ h.2
    rintro rfl
    exact (Option.some.inj hsrc).symm

/-- The handling of the debts of a node is a run of returns. -/
theorem returnDebts_run (nodeId : String) (meets : UbseNumaMemoryDebtInfo → Nat → Call)
    (l : List UbseNumaMemoryDebtInfo) (s : State) (result : MpResult) :
    ∃ tr, (returns nodeId).Run s tr (State.returnDebts nodeId meets l (s, result)).1 := by
  suffices h : ∀ s₀ tr₀, (returns nodeId).Run s₀ tr₀ s →
      ∃ tr, (returns nodeId).Run s₀ tr (State.returnDebts nodeId meets l (s, result)).1 from
    h s [] (.nil s)
  induction l generalizing s result with
  | nil => exact fun s₀ tr₀ h => ⟨tr₀, h⟩
  | cons debt l ih =>
    intro s₀ tr₀ h
    rw [State.returnDebts]
    split
    next => exact ih s result s₀ tr₀ h
    next =>
      split
      next => exact ⟨tr₀, h⟩
      next => exact ih _ _ s₀ _ (h.snoc rfl)

/-- **`ProcessBorrowOutNodeFaultByMemId` is a run of returns** after the debts have been marked, if
the ledger answers. -/
theorem process_run (s : State) (meets : UbseNumaMemoryDebtInfo → Nat → Call) (nodeId : String) :
    ∃ tr, (returns nodeId).Run
      (s.addFaultNumas (UbseGetNumaMemDebtInfoWithNode s.ledger nodeId)) tr
      (s.processBorrowOutNodeFaultByMemId true meets nodeId).1 := by
  rw [State.processBorrowOutNodeFaultByMemId]
  exact returnDebts_run ..

end Runs

/-! ### Two debts on one remote NUMA node -/

def lent (name lentNodeId : String) (memId : Nat) (remoteNumaId : Int) :
    UbseNumaMemoryDebtInfo where
  name := name
  borrowNodeId := "borrower"
  borrowSocketIdList := [0]
  usrInfo := 0
  borrowMemId := [memId]
  lentNodeId := lentNodeId
  lentSocketIdList := [0]
  size := 2147483648
  remoteNumaId := remoteNumaId

/-- Two debts of 2 GiB each, on one remote NUMA node and for one local one. -/
def twoDebts : State where
  ledger := ⟨[lent "first" "lender" 1 4, lent "second" "lender" 2 4], by decide⟩
  faultNumaMap _ := []
  faultBidBorrowedMap := ∅
  sizes key := if key = ("borrower", 0, 4) then 4096 else 0

def marked : State :=
  twoDebts.addFaultNumas (UbseGetNumaMemDebtInfoWithNode twoDebts.ledger "lender")

theorem init_marked : (returns "lender").init marked := by
  refine ⟨twoDebts, fun nodeId remoteNumaId localNumaId => ?_, rfl⟩
  have hon : ∀ debt ∈ twoDebts.ledger, isOn nodeId localNumaId remoteNumaId debt =
      decide ((nodeId, localNumaId, remoteNumaId) = ("borrower", (0 : Int), (4 : Int))) := by
    intro debt hdebt
    rw [Bool.eq_iff_iff, isOn_iff, decide_eq_true_eq, Prod.mk.injEq, Prod.mk.injEq]
    rcases List.mem_cons.1 hdebt with rfl | hdebt
    · exact and_congr eq_comm (and_congr eq_comm eq_comm)
    · rw [List.mem_singleton.1 hdebt]
      exact and_congr eq_comm (and_congr eq_comm eq_comm)
  rw [State.debtSize, Keyed.sum_congr hon]
  by_cases h : (nodeId, localNumaId, remoteNumaId) = ("borrower", (0 : Int), (4 : Int))
  · rw [h]
    decide +kernel
  · rw [decide_eq_false h]
    exact if_neg h

/-- No machine uses the remote NUMA node. -/
def returnFirst : Call where
  borrowInNid := "borrower"
  memId := 1
  vmNumaInfo := some []

/-- The machines move first. -/
def moveFirst : Call where
  borrowInNid := "borrower"
  memId := 1
  vmNumaInfo := some [⟨0, 1⟩]
  selectPids := some [100]
  borrowed := [lent "new" "other" 3 5]
  presentNumaId := some 5
  execution := { registered := some 2048 }

def returnSecond : Call where
  borrowInNid := "borrower"
  memId := 2
  vmNumaInfo := some []

/-- What has been borrowed and registered once the machines have moved. -/
def moved : State :=
  (marked.memBorrow moveFirst "first").1.memIdExecute moveFirst 0 4 5

theorem course_moveFirst : marked.course moveFirst =
    .moved moved (lent "first" "lender" 1 4).record .BIND_SINGLE 0 4194304 := by
  rfl

theorem meets_moveFirst : Meets "lender" marked moveFirst := by
  unfold Meets
  rw [course_moveFirst]
  constructor
  · refine ⟨by decide +kernel, fun record numaId hrecord hpresent => ?_⟩
    have hnuma : numaId = 5 := by
      have hfirst : (marked.memBorrow moveFirst record.name).2 = some 5 := rfl
      exact (Option.some.inj (hfirst.symm.trans hpresent)).symm
    rw [hnuma]
    decide +kernel
  · exact
      { owned := ⟨rfl, rfl⟩
        srcNuma := rfl
        answered := rfl
        counted := show ∀ debt ∈ moved.ledger.entries, _ by decide +kernel
        setSmap := rfl
        free := fun _ => rfl
        scaled := rfl
        last := fun _ _ h => absurd h (by decide)
        failed := fun _ h => absurd rfl h }

theorem meets_returnSecond :
    Meets "lender" (marked.memIdFaultManage moveFirst).1 returnSecond := by
  have hcourse : (marked.memIdFaultManage moveFirst).1.course returnSecond =
      .direct (lent "second" "lender" 2 4).record 0 := rfl
  unfold Meets
  rw [hcourse]
  exact
    { owned := ⟨rfl, rfl⟩
      free := rfl
      last := fun _ => show ∀ debt ∈ (marked.memIdFaultManage moveFirst).1.ledger.entries, _ by
        decide +kernel
      failed := fun h => absurd rfl h }

end Return

end FaultMemId

end UbsEngine
