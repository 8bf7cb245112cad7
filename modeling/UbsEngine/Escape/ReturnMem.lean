import UbsEngine.Library.Greedy
import UbsEngine.Escape.BorrowSizes

/-!
# Which loans a numa returns

When a numa has memory to spare, `UbsEngine.Escape.returnMem` picks the loans to return: largest
first, as long as the remote memory in use and what is returned stay within the memory that is
borrowed and the budget.

A loan may come from more than one numa and so have more than one size. The table of the loans holds
the first size only, and a loan without any size is read out of range. The choice is the right one
exactly if the other sizes make no difference (`UbsEngine.Escape.returnMemSound_iff`).
-/

namespace UbsEngine

namespace Escape

open Greedy

inductive DsResult
  | ok
  | errorInval
deriving DecidableEq, Repr

/-- What `ReturnMem` leaves: its result, and the loans it picked with the sizes it counts them by. -/
structure ReturnAction where
  ret : DsResult
  selected : List (BorrowItem × Nat)
  strategyTips : List StrategyTip
deriving DecidableEq, Repr

/-- The names in the action. -/
def ReturnAction.returnMemNames (action : ReturnAction) : List String :=
  action.selected.map fun m => m.1.name

/-! ### The choice -/

/-- `GenBorrowTable`: each loan with its first size. There is no result if a loan has none, since
`requestSize[0]` is then out of range. -/
def genBorrowTable : List BorrowItem → Option (List (BorrowItem × Nat))
  | [] => some []
  | item :: rest =>
    match item.requestSize with
    | [] => none
    | memBorrowedSize :: _ => (genBorrowTable rest).map ((item, memBorrowedSize) :: ·)

/-- `std::sort` with `CmpNumaRisk`: larger sizes first. The order of equal sizes is up to the
library. -/
structure SortDescending where
  sort : List (BorrowItem × Nat) → List (BorrowItem × Nat)
  perm : ∀ table, (sort table).Perm table
  sorted : ∀ table, (sort table).Pairwise fun a b => b.2 ≤ a.2

/-- A sort that keeps the order of equal sizes. -/
def SortDescending.stable : SortDescending where
  sort table := table.mergeSort fun a b => decide (b.2 ≤ a.2)
  perm table := List.mergeSort_perm table _
  sorted table := by
    have hsorted := @List.pairwise_mergeSort _ (fun a b : BorrowItem × Nat => decide (b.2 ≤ a.2))
      (fun a b c hab hbc => decide_eq_true
        ((of_decide_eq_true hbc).trans (of_decide_eq_true hab)))
      (fun a b => by
        rw [Bool.or_eq_true, decide_eq_true_eq, decide_eq_true_eq]
        exact Nat.le_total _ _) table
    exact hsorted.imp fun h => of_decide_eq_true h

/-- Whether a sum of two numbers of 64 bits passes 64 bits. -/
def overflows (a b : Nat) : Bool := uint64Max < a + b

/-- The loop of `ReturnMem`: its result, the sum of what is returned, and the loans. -/
def returnLoop (numaRemoteUsedMemSize maxReturnSize numaMemBorrow : Nat) :
    Nat → List (BorrowItem × Nat) → DsResult × Nat × List (BorrowItem × Nat)
  | sumReturnSize, [] => (.ok, sumReturnSize, [])
  | sumReturnSize, m :: borrowTable =>
    if overflows sumReturnSize m.2 then (.errorInval, sumReturnSize, [])
    else if overflows numaRemoteUsedMemSize (sumReturnSize + m.2) ||
        overflows maxReturnSize numaMemBorrow then (.errorInval, sumReturnSize + m.2, [])
    else if maxReturnSize + numaMemBorrow < numaRemoteUsedMemSize + (sumReturnSize + m.2) then
      returnLoop numaRemoteUsedMemSize maxReturnSize numaMemBorrow sumReturnSize borrowTable
    else
      let rest := returnLoop numaRemoteUsedMemSize maxReturnSize numaMemBorrow
        (sumReturnSize + m.2) borrowTable
      (rest.1, rest.2.1, m :: rest.2.2)

/-- `ReturnMem`. -/
def returnMem (std : SortDescending) (alarmNumaInfo : AlarmNumaInfo)
    (numaMemBorrow maxReturnSize : Nat) : Option ReturnAction :=
  (genBorrowTable alarmNumaInfo.borrowItem).map fun borrowTable =>
    let loop := returnLoop (monitorNumaMemoryBorrowing alarmNumaInfo) maxReturnSize numaMemBorrow 0
      (std.sort borrowTable)
    { ret := loop.1, selected := loop.2.2,
      strategyTips :=
        if loop.1 = .ok ∧ loop.2.1 = 0 then [.retBanRetTooLargeMem] else [] }

/-! ### The table -/

/-- Every loan has a size. -/
def Sized (borrowItem : List BorrowItem) : Prop := ∀ item ∈ borrowItem, item.requestSize ≠ []

/-- The table of loans that all have a size. -/
def borrowTable (borrowItem : List BorrowItem) : List (BorrowItem × Nat) :=
  borrowItem.map fun item => (item, item.requestSize.headD 0)

theorem genBorrowTable_eq_some {borrowItem : List BorrowItem} (h : Sized borrowItem) :
    genBorrowTable borrowItem = some (borrowTable borrowItem) := by
  induction borrowItem with
  | nil => rfl
  | cons item rest ih =>
    obtain ⟨hitem, hrest⟩ := List.forall_mem_cons.1 h
    obtain ⟨size, sizes, hsizes⟩ := List.exists_cons_of_ne_nil hitem
    rw [genBorrowTable, hsizes]
    dsimp only
    rw [ih hrest, Option.map_some, borrowTable, borrowTable, List.map_cons, hsizes, List.headD_cons]

theorem genBorrowTable_eq_none {borrowItem : List BorrowItem} (h : ¬Sized borrowItem) :
    genBorrowTable borrowItem = none := by
  induction borrowItem with
  | nil => exact absurd (fun _ hmem => (nomatch hmem)) h
  | cons item rest ih =>
    unfold genBorrowTable
    split
    next => rfl
    next hsizes =>
      rw [ih fun hrest => h (List.forall_mem_cons.2 ⟨by rw [hsizes]; exact List.cons_ne_nil _ _,
        hrest⟩), Option.map_none]

/-- All the memory of a loan. -/
def totalSize (m : BorrowItem × Nat) : Nat := m.1.requestSize.sum

theorem snd_le_totalSize {borrowItem : List BorrowItem} :
    ∀ m ∈ borrowTable borrowItem, m.2 ≤ totalSize m := by
  intro m hm
  obtain ⟨item, -, rfl⟩ := List.mem_map.1 hm
  unfold totalSize
  cases item.requestSize with
  | nil => exact Nat.le_refl _
  | cons size sizes =>
    rw [List.headD_cons, List.sum_cons]
    exact Nat.le_add_right _ _

/-! ### The loop takes what fits by the first size -/

section Loop

variable {remote maxReturnSize numaMemBorrow sum : Nat} {table : List (BorrowItem × Nat)}

/-- The sums of a turn pass 64 bits. -/
def TurnOverflows (remote maxReturnSize numaMemBorrow : Nat) (table : List (BorrowItem × Nat)) :
    Prop :=
  ∃ pre m post, table = pre ++ m :: post ∧
    (uint64Max < remote + ((select Prod.snd (maxReturnSize + numaMemBorrow) remote pre).map
        Prod.snd).sum + m.2 ∨ uint64Max < maxReturnSize + numaMemBorrow)

theorem not_turnOverflows_nil (used : Nat) :
    ¬TurnOverflows used maxReturnSize numaMemBorrow [] := by
  rintro ⟨pre, m, post, hsplit, -⟩
  exact List.append_ne_nil_of_right_ne_nil _ (List.cons_ne_nil _ _) hsplit.symm

theorem turnOverflows_cons {used : Nat} {m : BorrowItem × Nat} :
    TurnOverflows used maxReturnSize numaMemBorrow (m :: table) ↔
      (uint64Max < used + m.2 ∨ uint64Max < maxReturnSize + numaMemBorrow) ∨
        TurnOverflows (if maxReturnSize + numaMemBorrow < used + m.2 then used else used + m.2)
          maxReturnSize numaMemBorrow table := by
  have hselect : ∀ pre, used + ((select Prod.snd (maxReturnSize + numaMemBorrow) used
      (m :: pre)).map Prod.snd).sum =
      (if maxReturnSize + numaMemBorrow < used + m.2 then used else used + m.2) +
        ((select Prod.snd (maxReturnSize + numaMemBorrow)
          (if maxReturnSize + numaMemBorrow < used + m.2 then used else used + m.2) pre).map
            Prod.snd).sum := by
    intro pre
    rcases Nat.lt_or_ge (maxReturnSize + numaMemBorrow) (used + m.2) with hlt | hle
    · rw [if_pos hlt, select_cons_of_lt hlt]
    · rw [if_neg (Nat.not_lt.2 hle), select_cons_of_le hle, List.map_cons, List.sum_cons,
        Nat.add_assoc]
  constructor
  · rintro ⟨pre, m', post, hsplit, hover⟩
    rcases List.cons_eq_append_iff.1 hsplit with ⟨rfl, hcons⟩ | ⟨pre', rfl, hrest⟩
    · obtain ⟨rfl, -⟩ := List.cons_eq_cons.1 hcons
      exact Or.inl hover
    · rw [hselect] at hover
      exact Or.inr ⟨pre', m', post, hrest, hover⟩
  · rintro (hover | ⟨pre, m', post, rfl, hover⟩)
    · exact ⟨[], m, table, rfl, hover⟩
    · refine ⟨m :: pre, m', post, rfl, ?_⟩
      rwa [hselect]

theorem returnLoop_cons (m : BorrowItem × Nat)
    (hturn : ¬(uint64Max < remote + sum + m.2 ∨ uint64Max < maxReturnSize + numaMemBorrow)) :
    returnLoop remote maxReturnSize numaMemBorrow sum (m :: table) =
      if maxReturnSize + numaMemBorrow < remote + sum + m.2 then
        returnLoop remote maxReturnSize numaMemBorrow sum table
      else
        let rest := returnLoop remote maxReturnSize numaMemBorrow (sum + m.2) table
        (rest.1, rest.2.1, m :: rest.2.2) := by
  have hsum : overflows sum m.2 = false := decide_eq_false (by omega)
  have hremote : overflows remote (sum + m.2) = false := decide_eq_false (by omega)
  have hroom : overflows maxReturnSize numaMemBorrow = false := decide_eq_false (by omega)
  rw [returnLoop, hsum, hremote, hroom, Nat.add_assoc]
  rfl

theorem returnLoop_cons_of_overflow (m : BorrowItem × Nat) (table : List (BorrowItem × Nat))
    (hturn : uint64Max < remote + sum + m.2 ∨ uint64Max < maxReturnSize + numaMemBorrow) :
    (returnLoop remote maxReturnSize numaMemBorrow sum (m :: table)).1 = .errorInval := by
  unfold returnLoop
  split
  · rfl
  · rw [if_pos]
    rw [Bool.or_eq_true]
    exact hturn.imp (fun h => decide_eq_true (by omega)) fun h => decide_eq_true h

/-- **The loop succeeds exactly if no turn passes 64 bits**, and then takes what fits. -/
theorem returnLoop_spec (remote maxReturnSize numaMemBorrow sum : Nat)
    (table : List (BorrowItem × Nat)) :
    ((returnLoop remote maxReturnSize numaMemBorrow sum table).1 = .ok ↔
      ¬TurnOverflows (remote + sum) maxReturnSize numaMemBorrow table) ∧
    ((returnLoop remote maxReturnSize numaMemBorrow sum table).1 = .ok →
      (returnLoop remote maxReturnSize numaMemBorrow sum table).2.2 =
        select Prod.snd (maxReturnSize + numaMemBorrow) (remote + sum) table) := by
  induction table generalizing sum with
  | nil => exact ⟨iff_of_true rfl (not_turnOverflows_nil _), fun _ => rfl⟩
  | cons m table ih =>
    by_cases hover : uint64Max < remote + sum + m.2 ∨ uint64Max < maxReturnSize + numaMemBorrow
    · have herr := returnLoop_cons_of_overflow m table hover
      rw [turnOverflows_cons, herr]
      exact ⟨iff_of_false (fun h => nomatch h) fun h => h (Or.inl hover), fun h => nomatch h⟩
    · rw [turnOverflows_cons, returnLoop_cons m hover, or_iff_right hover]
      rcases Nat.lt_or_ge (maxReturnSize + numaMemBorrow) (remote + sum + m.2) with hlt | hle
      · rw [if_pos hlt, if_pos hlt, select_cons_of_lt hlt]
        exact ih sum
      · obtain ⟨hok, hselected⟩ := ih (sum + m.2)
        rw [← Nat.add_assoc] at hok hselected
        rw [if_neg (Nat.not_lt.2 hle), if_neg (Nat.not_lt.2 hle), select_cons_of_le hle]
        exact ⟨hok, fun h => congrArg (m :: ·) (hselected h)⟩

end Loop

/-! ### What a return is to do -/

/-- The names are distinct, what is in use has room when all that is selected is gone, and each loan
that is not selected would have taken that room at its turn. -/
structure ReturnsSoundly (remote maxReturnSize numaMemBorrow : Nat)
    (turns selected : List (BorrowItem × Nat)) : Prop where
  distinct : (selected.map fun m => m.1.name).Nodup
  room : remote + (selected.map totalSize).sum ≤ maxReturnSize + numaMemBorrow
  turn : Takes totalSize (maxReturnSize + numaMemBorrow) remote turns selected

/-- What is asked of `ReturnMem`: no size is read out of range, and what a successful call selects is
sound for the remote memory that is in use. -/
def ReturnMemSound (std : SortDescending) (alarmNumaInfo : AlarmNumaInfo)
    (numaMemBorrow maxReturnSize : Nat) : Prop :=
  ∃ action, returnMem std alarmNumaInfo numaMemBorrow maxReturnSize = some action ∧
    (action.ret = .ok → ReturnsSoundly alarmNumaInfo.remoteUsedMem.sum maxReturnSize numaMemBorrow
      (std.sort (borrowTable alarmNumaInfo.borrowItem)) action.selected)

/-- No loan fits by its first size that does not fit as a whole: neither beside what is taken before
it by whole sizes. -/
def FirstSizesDecide (remote budget : Nat) (turns : List (BorrowItem × Nat)) : Prop :=
  ∀ pre m post, turns = pre ++ m :: post →
    budget < remote + ((select totalSize budget remote pre).map totalSize).sum + totalSize m →
    budget < remote + ((select totalSize budget remote pre).map Prod.snd).sum + m.2

/-- Unless a turn passes 64 bits, the sum of the remote memory did not either, if there is room for it
at all. -/
theorem select_monitor {alarmNumaInfo : AlarmNumaInfo} {numaMemBorrow maxReturnSize : Nat}
    {turns : List (BorrowItem × Nat)}
    (hover : ¬TurnOverflows (monitorNumaMemoryBorrowing alarmNumaInfo) maxReturnSize numaMemBorrow
      turns) (hroom : alarmNumaInfo.remoteUsedMem.sum ≤ maxReturnSize + numaMemBorrow) :
    select Prod.snd (maxReturnSize + numaMemBorrow) (monitorNumaMemoryBorrowing alarmNumaInfo)
        turns =
      select Prod.snd (maxReturnSize + numaMemBorrow) alarmNumaInfo.remoteUsedMem.sum turns := by
  cases turns with
  | nil => rfl
  | cons m turns =>
    rw [turnOverflows_cons, not_or, not_or] at hover
    have hbudget := hover.1.2
    unfold uint64Max at hbudget
    rw [monitorNumaMemoryBorrowing_eq, Nat.mod_eq_of_lt (by omega)]

/-- What is sound is what fits by the whole sizes. -/
theorem returnsSoundly_select_iff {remote maxReturnSize numaMemBorrow : Nat}
    {turns : List (BorrowItem × Nat)} (hle : ∀ m ∈ turns, m.2 ≤ totalSize m) :
    ReturnsSoundly remote maxReturnSize numaMemBorrow turns
        (select Prod.snd (maxReturnSize + numaMemBorrow) remote turns) ↔
      remote ≤ maxReturnSize + numaMemBorrow ∧
        FirstSizesDecide remote (maxReturnSize + numaMemBorrow) turns ∧
        ((select totalSize (maxReturnSize + numaMemBorrow) remote turns).map
          fun m => m.1.name).Nodup := by
  have hsame := @select_eq_select_iff _ Prod.snd totalSize (maxReturnSize + numaMemBorrow) remote
    remote turns hle le_rfl
  constructor
  · intro h
    obtain ⟨hremote, hselect⟩ := takes_iff_eq_select.1 ⟨h.room, h.turn⟩
    exact ⟨hremote, hsame.1 hselect, hselect ▸ h.distinct⟩
  · rintro ⟨hremote, hdecide, hnodup⟩
    have hselect := hsame.2 hdecide
    obtain ⟨hroom, hturn⟩ := takes_iff_eq_select.2 ⟨hremote, hselect⟩
    exact ⟨hselect ▸ hnodup, hroom, hturn⟩

/-- **A return is sound exactly if the first sizes decide**: every loan has a size, and, unless the
sums pass 64 bits and nothing is returned, the remote memory in use is within the budget, the names
of the loans that fit are distinct, and no loan is taken for its first size alone. -/
theorem returnMemSound_iff (std : SortDescending) (alarmNumaInfo : AlarmNumaInfo)
    (numaMemBorrow maxReturnSize : Nat) :
    ReturnMemSound std alarmNumaInfo numaMemBorrow maxReturnSize ↔
      Sized alarmNumaInfo.borrowItem ∧
      (TurnOverflows (monitorNumaMemoryBorrowing alarmNumaInfo) maxReturnSize numaMemBorrow
          (std.sort (borrowTable alarmNumaInfo.borrowItem)) ∨
        (alarmNumaInfo.remoteUsedMem.sum ≤ maxReturnSize + numaMemBorrow ∧
          FirstSizesDecide alarmNumaInfo.remoteUsedMem.sum (maxReturnSize + numaMemBorrow)
            (std.sort (borrowTable alarmNumaInfo.borrowItem)) ∧
          ((select totalSize (maxReturnSize + numaMemBorrow) alarmNumaInfo.remoteUsedMem.sum
            (std.sort (borrowTable alarmNumaInfo.borrowItem))).map fun m => m.1.name).Nodup)) := by
  by_cases hsized : Sized alarmNumaInfo.borrowItem
  swap
  · refine iff_of_false ?_ fun h => hsized h.1
    rintro ⟨action, haction, -⟩
    rw [returnMem, genBorrowTable_eq_none hsized, Option.map_none] at haction
    exact nomatch haction
  rw [and_iff_right hsized]
  unfold ReturnMemSound returnMem
  rw [genBorrowTable_eq_some hsized, Option.map_some]
  have hle : ∀ m ∈ std.sort (borrowTable alarmNumaInfo.borrowItem), m.2 ≤ totalSize m :=
    fun m hm => snd_le_totalSize m ((std.perm _).mem_iff.1 hm)
  generalize std.sort (borrowTable alarmNumaInfo.borrowItem) = turns at hle ⊢
  obtain ⟨hok, hselected⟩ := returnLoop_spec (monitorNumaMemoryBorrowing alarmNumaInfo)
    maxReturnSize numaMemBorrow 0 turns
  rw [Nat.add_zero] at hok hselected
  by_cases hover : TurnOverflows (monitorNumaMemoryBorrowing alarmNumaInfo) maxReturnSize
      numaMemBorrow turns
  · refine iff_of_true ⟨_, rfl, fun h => ?_⟩ (Or.inl hover)
    exact absurd hover (hok.1 h)
  · rw [or_iff_right hover]
    have hret := hok.2 hover
    constructor
    · rintro ⟨action, haction, hsound⟩
      obtain rfl := Option.some.inj haction
      have h := hsound hret
      dsimp only at h
      rw [hselected hret] at h
      rw [select_monitor hover ((Nat.le_add_right _ _).trans h.room)] at h
      exact (returnsSoundly_select_iff hle).1 h
    · intro h
      refine ⟨_, rfl, fun _ => ?_⟩
      dsimp only
      rw [hselected hret, select_monitor hover h.1]
      exact (returnsSoundly_select_iff hle).2 h

/-- The only loan is 1 GB from one numa and 3 GB from another, and 2 GB of it are in use. With
nothing else to spare, all 4 GB are returned. -/
theorem not_returnMemSound_twoSizes :
    ¬ReturnMemSound .stable ⟨[2 <<< 30], [⟨"a", [1 <<< 30, 3 <<< 30]⟩]⟩ (4 <<< 30) 0 := by
  rintro ⟨action, haction, hsound⟩
  have hsort : SortDescending.stable.sort [(⟨"a", [1 <<< 30, 3 <<< 30]⟩, 1 <<< 30)] =
      [(⟨"a", [1 <<< 30, 3 <<< 30]⟩, 1 <<< 30)] :=
    List.perm_singleton.1 (SortDescending.stable.perm _)
  have hreturn : returnMem .stable ⟨[2 <<< 30], [⟨"a", [1 <<< 30, 3 <<< 30]⟩]⟩ (4 <<< 30) 0 =
      some ⟨.ok, [(⟨"a", [1 <<< 30, 3 <<< 30]⟩, 1 <<< 30)], []⟩ := by
    refine congrArg some ?_
    dsimp only
    rw [hsort]
    rfl
  obtain rfl := Option.some.inj (haction.symm.trans hreturn)
  exact absurd (hsound rfl).room (by decide)

end Escape

end UbsEngine
