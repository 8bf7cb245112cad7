import UbsEngine.ProcessMem.Counter
import UbsEngine.ProcessMem.Declared

/-!
# Packing the bytes of a remote numa

Before memory is given back in a hurry, the bytes of each remote numa are moved into as few slots
as possible: they are added up and laid into the completed slots of that numa, the one with the
largest capacity first. `UbsEngine.ProcessMem.rearrangePidMigrated_slots` says what falls to each
slot.

All bytes of a slot come from the local numa that the slot names, and declarations are made by it.
Packing does not look at it. `UbsEngine.ProcessMem.keeps_sources_iff` says when the bytes of every
pair of numas stay what they are.
-/

namespace UbsEngine

namespace ProcessMem

/-- The capacity of the slot at a place. -/
def capacityAt (slots : List BorrowSlot) (i : Nat) : Nat := ((slots[i]?).map (·.capacity)).getD 0

/-- What falls to the slot at a place, when the bytes of a remote numa are laid into its slots, the
one with the largest capacity first. -/
def packedShare (slots : List BorrowSlot) (numaId : Int) (i : Nat) : Nat :=
  min (capacityAt slots i) (groupBytes slots numaId -
    (((rearrangeOrder slots numaId).takeWhile (· ≠ i)).map (capacityAt slots)).sum)

/-- What falls to the slots of a local and a remote numa. -/
def packedBytes (slots : List BorrowSlot) (src dest : Int) : Nat :=
  (slots.mapIdx fun i s =>
    if s.status = .COMPLETED ∧ s.srcNumaId = src ∧ s.remoteNumaId = dest then
      packedShare slots dest i
    else 0).sum

/-- **A rearrangement keeps sources.** -/
structure KeepsSources (e : PidBorrow) : Prop where
  others : List.Forall₂ (fun s s' => s.status ≠ .COMPLETED → s' = s) e.borrow.slots
    (rearrangePidMigrated e).borrow.slots
  within : (∀ s ∈ e.borrow.slots, s.migratedBytes ≤ s.capacity) →
    ∀ s ∈ (rearrangePidMigrated e).borrow.slots, s.migratedBytes ≤ s.capacity
  sources : ∀ src dest, pairBytes (rearrangePidMigrated e).borrow.slots src dest =
    pairBytes e.borrow.slots src dest
  declares : buildMigrateTargets (rearrangePidMigrated e).borrow.slots [] (-1) =
    buildMigrateTargets e.borrow.slots [] (-1)

/-! ### One remote numa -/

/-- One turn of the inner loop. -/
theorem rearrangeSlot_spec (x : Nat × List BorrowSlot) (j : Nat) :
    (rearrangeSlot x j).1 = x.1 - capacityAt x.2 j ∧
      ∀ i, (rearrangeSlot x j).2[i]? = (x.2[i]?).map fun s =>
        if i = j then { s with migratedBytes := min s.capacity x.1 } else s := by
  rw [rearrangeSlot, capacityAt]
  cases hj : x.2[j]? with
  | none =>
    refine ⟨rfl, fun i => ?_⟩
    rcases eq_or_ne i j with rfl | hne
    · rw [hj, Option.map_none]
    · simp only [if_neg hne, Option.map_id']
  | some s =>
    refine ⟨by simp only [Option.map_some, Option.getD_some]; omega, fun i => ?_⟩
    dsimp only
    rcases eq_or_ne i j with rfl | hne
    · rw [List.getElem?_set_self' , hj]
      simp
    · simp only [List.getElem?_set_ne hne.symm, if_neg hne, Option.map_id']

theorem capacityAt_rearrangeSlot (x : Nat × List BorrowSlot) (j : Nat) :
    capacityAt (rearrangeSlot x j).2 = capacityAt x.2 := by
  funext i
  rw [capacityAt, (rearrangeSlot_spec x j).2 i, Option.map_map]
  refine congrArg (fun f => ((x.2[i]?).map f).getD 0) ?_
  funext s
  dsimp only [Function.comp]
  split <;> rfl

/-- The slots after the inner loop: each place has what is left when its turn comes. -/
theorem getElem?_foldl_rearrangeSlot {is : List Nat} (hnodup : is.Nodup)
    (x : Nat × List BorrowSlot) (i : Nat) :
    (is.foldl rearrangeSlot x).2[i]? = (x.2[i]?).map fun s =>
      if i ∈ is then
        { s with
          migratedBytes := min s.capacity
            (x.1 - ((is.takeWhile (· ≠ i)).map (capacityAt x.2)).sum) }
      else s := by
  induction is generalizing x with
  | nil => simp
  | cons j is ih =>
    obtain ⟨hj, hnodup⟩ := List.nodup_cons.1 hnodup
    obtain ⟨hfst, hsnd⟩ := rearrangeSlot_spec x j
    rw [List.foldl_cons, ih hnodup, hfst, capacityAt_rearrangeSlot, hsnd, Option.map_map]
    refine congrArg (fun f => (x.2[i]?).map f) ?_
    funext s
    dsimp only [Function.comp]
    rcases eq_or_ne i j with rfl | hne
    · rw [if_neg hj, if_pos rfl, if_pos List.mem_cons_self, List.takeWhile_cons_of_neg (by simp),
        List.map_nil, List.sum_nil, Nat.sub_zero]
    · have hmem : i ∈ j :: is ↔ i ∈ is := List.mem_cons.trans (or_iff_right hne)
      rw [if_neg hne, List.takeWhile_cons_of_pos (by simpa using hne.symm), List.map_cons,
        List.sum_cons, Nat.sub_sub]
      exact if_congr hmem.symm rfl rfl

/-- What a rearrangement does to the slot at a place. -/
def rearranged (slots : List BorrowSlot) (i : Nat) (s : BorrowSlot) : BorrowSlot :=
  { s with migratedBytes := packedShare slots s.remoteNumaId i }

theorem mem_rearrangeOrder {slots : List BorrowSlot} {numaId : Int} {i : Nat} {s : BorrowSlot}
    (hs : slots[i]? = some s) : i ∈ rearrangeOrder slots numaId ↔ s.inGroup numaId := by
  rw [rearrangeOrder, (List.mergeSort_perm _ _).mem_iff, List.mem_filter, List.mem_range, hs]
  refine ⟨fun h => h.2, fun h => ⟨?_, h⟩⟩
  exact (List.getElem?_eq_some_iff.1 hs).1

theorem inGroup_iff {numaId : Int} {s : BorrowSlot} :
    s.inGroup numaId ↔ s.status = .COMPLETED ∧ s.remoteNumaId = numaId := by
  rw [BorrowSlot.inGroup, decide_eq_true_eq]

/-- **Packing one remote numa.** -/
theorem rearrangeNuma_eq (slots : List BorrowSlot) (numaId : Int) :
    rearrangeNuma slots numaId = slots.mapIdx fun i s =>
      if s.inGroup numaId then rearranged slots i s else s := by
  refine List.ext_getElem? fun i => ?_
  rw [List.getElem?_mapIdx]
  refine (getElem?_foldl_rearrangeSlot (rearrangeOrder_spec slots numaId).1 _ i).trans ?_
  cases hs : slots[i]? with
  | none => rfl
  | some s =>
    rw [Option.map_some, Option.map_some]
    refine congrArg some ?_
    by_cases hgroup : s.inGroup numaId
    · rw [if_pos ((mem_rearrangeOrder hs).2 hgroup), if_pos hgroup, rearranged,
        (inGroup_iff.1 hgroup).2, packedShare, capacityAt, hs]
      rfl
    · rw [if_neg fun h => hgroup ((mem_rearrangeOrder hs).1 h), if_neg hgroup]

/-! ### All remote numas -/

/-- The order of the slots does not depend on what is in them. -/
theorem rearrangeOrder_mapIdx {slots : List BorrowSlot} {g : Nat → BorrowSlot → BorrowSlot}
    (hg : ∀ i s, ∃ m, g i s = { s with migratedBytes := m }) (numaId : Int) :
    rearrangeOrder (slots.mapIdx g) numaId = rearrangeOrder slots numaId := by
  have hfield : ∀ {β : Type} (w : BorrowSlot → β),
      (∀ s m, w { s with migratedBytes := m } = w s) → ∀ i : Nat,
        ((slots.mapIdx g)[i]?).map w = (slots[i]?).map w := by
    intro β w hw i
    rw [List.getElem?_mapIdx, Option.map_map]
    refine congrArg (fun f => (slots[i]?).map f) ?_
    funext s
    obtain ⟨m, hm⟩ := hg i s
    exact (congrArg w hm).trans (hw s m)
  have hany : ∀ i : Nat, ((slots.mapIdx g)[i]?).any (·.inGroup numaId) =
      (slots[i]?).any (·.inGroup numaId) := by
    intro i
    have hmap : ∀ o : Option BorrowSlot,
        o.any (·.inGroup numaId) = (o.map (·.inGroup numaId)).getD false := by
      rintro (_ | s) <;> rfl
    rw [hmap, hmap, hfield (·.inGroup numaId) fun _ _ => rfl]
  have horder : ∀ l : List BorrowSlot, rearrangeOrder l numaId =
      ((List.range l.length).filter fun i => (l[i]?).any (·.inGroup numaId)).mergeSort
        fun i j => ((l[j]?).map (·.capacity)).getD 0 ≤ ((l[i]?).map (·.capacity)).getD 0 :=
    fun _ => rfl
  rw [horder, horder, List.length_mapIdx]
  simp only [hany, hfield (·.capacity) fun _ _ => rfl]

theorem capacityAt_mapIdx {slots : List BorrowSlot} {g : Nat → BorrowSlot → BorrowSlot}
    (hg : ∀ i s, ∃ m, g i s = { s with migratedBytes := m }) :
    capacityAt (slots.mapIdx g) = capacityAt slots := by
  funext i
  rw [capacityAt, List.getElem?_mapIdx, Option.map_map]
  refine congrArg (fun f => ((slots[i]?).map f).getD 0) ?_
  funext s
  obtain ⟨m, hm⟩ := hg i s
  exact congrArg (·.capacity) hm

/-- Packing one numa does not change what falls to the slots of another. -/
theorem packedShare_rearrangeNuma (slots : List BorrowSlot) {numaId numaId' : Int}
    (hne : numaId' ≠ numaId) :
    packedShare (rearrangeNuma slots numaId) numaId' = packedShare slots numaId' := by
  have hg : ∀ i s, ∃ m, (if s.inGroup numaId then rearranged slots i s else s) =
      { s with migratedBytes := m } := by
    intro i s
    split
    next => exact ⟨_, rfl⟩
    next => exact ⟨s.migratedBytes, rfl⟩
  funext i
  rw [packedShare, (group_rearrangeNuma slots hne).1, rearrangeNuma_eq, capacityAt_mapIdx hg,
    rearrangeOrder_mapIdx hg, packedShare]

theorem foldl_rearrangeNuma_eq {numas : List Int} (hnodup : numas.Nodup)
    (slots : List BorrowSlot) :
    numas.foldl rearrangeNuma slots = slots.mapIdx fun i s =>
      if s.status = .COMPLETED ∧ s.remoteNumaId ∈ numas then rearranged slots i s else s := by
  induction numas generalizing slots with
  | nil =>
    refine List.ext_getElem? fun i => ?_
    simp [List.getElem?_mapIdx]
  | cons numaId numas ih =>
    obtain ⟨hnot, hnodup⟩ := List.nodup_cons.1 hnodup
    rw [List.foldl_cons, ih hnodup]
    -- the slots of the other numas are packed as they would have been at first
    have hrearranged : ∀ i s, s.remoteNumaId ∈ numas →
        rearranged (rearrangeNuma slots numaId) i s = rearranged slots i s := by
      intro i s hs
      have hne : s.remoteNumaId ≠ numaId := fun h => hnot (h ▸ hs)
      rw [rearranged, packedShare_rearrangeNuma slots hne, rearranged]
    refine List.ext_getElem? fun i => ?_
    rw [List.getElem?_mapIdx, List.getElem?_mapIdx, rearrangeNuma_eq, List.getElem?_mapIdx,
      Option.map_map]
    refine congrArg (fun f => (slots[i]?).map f) ?_
    funext s
    rw [← rearrangeNuma_eq]
    dsimp only [Function.comp]
    by_cases hgroup : s.inGroup numaId
    · obtain ⟨hstatus, hremote⟩ := inGroup_iff.1 hgroup
      have hnot' : ¬(s.status = .COMPLETED ∧ s.remoteNumaId ∈ numas) :=
        fun h => hnot (hremote ▸ h.2)
      simp only [if_pos hgroup]
      exact (if_neg hnot').trans (if_pos ⟨hstatus, hremote ▸ List.mem_cons_self⟩).symm
    · simp only [if_neg hgroup]
      by_cases hs : s.status = .COMPLETED ∧ s.remoteNumaId ∈ numas
      · rw [if_pos hs, if_pos ⟨hs.1, List.mem_cons_of_mem numaId hs.2⟩, hrearranged i s hs.2]
      · refine (if_neg hs).trans (if_neg fun h => ?_).symm
        rcases List.mem_cons.1 h.2 with hremote | hmem
        · exact hgroup (inGroup_iff.2 ⟨h.1, hremote⟩)
        · exact hs ⟨h.1, hmem⟩

/-- **What a rearrangement makes of the slots.** -/
theorem rearrangePidMigrated_slots (e : PidBorrow) :
    (rearrangePidMigrated e).borrow.slots = e.borrow.slots.mapIdx fun i s =>
      if s.status = .COMPLETED then rearranged e.borrow.slots i s else s := by
  refine (foldl_rearrangeNuma_eq (nodup_orderedKeys _) e.borrow.slots).trans ?_
  refine List.ext_getElem? fun i => ?_
  rw [List.getElem?_mapIdx, List.getElem?_mapIdx]
  cases hs : e.borrow.slots[i]? with
  | none => rfl
  | some s =>
    rw [Option.map_some, Option.map_some]
    refine congrArg some (if_congr (and_iff_left_of_imp fun hstatus => ?_) rfl rfl)
    refine mem_orderedKeys.2 (List.mem_map.2 ⟨s, List.mem_filter.2 ⟨?_, ?_⟩, rfl⟩)
    · exact List.mem_of_getElem? hs
    · exact decide_eq_true hstatus

/-! ### Sources -/

section Sources

variable (e : PidBorrow)

theorem pairBytes_rearrangePidMigrated (src dest : Int) :
    pairBytes (rearrangePidMigrated e).borrow.slots src dest =
      packedBytes e.borrow.slots src dest := by
  rw [rearrangePidMigrated_slots, pairBytes, packedBytes]
  refine congrArg List.sum (List.ext_getElem? fun i => ?_)
  rw [List.getElem?_map, List.getElem?_mapIdx, List.getElem?_mapIdx, Option.map_map]
  refine congrArg (fun f => (e.borrow.slots[i]?).map f) ?_
  funext s
  dsimp only [Function.comp]
  by_cases hstatus : s.status = .COMPLETED
  · simp only [if_pos hstatus, rearranged]
    refine ite_congr rfl (fun h => ?_) fun _ => rfl
    rw [h.2.2]
  · simp only [hstatus, false_and, if_false]

/-- A slot afterwards has its share, or it is one that was not completed. -/
theorem mem_rearrangePidMigrated {s : BorrowSlot}
    (hs : s ∈ (rearrangePidMigrated e).borrow.slots) :
    s.migratedBytes ≤ s.capacity ∨ s ∈ e.borrow.slots ∧ s.status ≠ .COMPLETED := by
  rw [rearrangePidMigrated_slots] at hs
  obtain ⟨i, hi⟩ := List.getElem?_of_mem hs
  rw [List.getElem?_mapIdx, Option.map_eq_some_iff] at hi
  obtain ⟨t, ht, rfl⟩ := hi
  by_cases hstatus : t.status = .COMPLETED
  · left
    simp only [if_pos hstatus, rearranged, packedShare, capacityAt, ht, Option.map_some,
      Option.getD_some]
    exact min_le_left _ _
  · right
    rw [if_neg hstatus]
    exact ⟨List.mem_of_getElem? ht, hstatus⟩

theorem others_rearrangePidMigrated :
    List.Forall₂ (fun s s' => s.status ≠ .COMPLETED → s' = s) e.borrow.slots
      (rearrangePidMigrated e).borrow.slots := by
  rw [rearrangePidMigrated_slots, List.forall₂_iff_get]
  refine ⟨(List.length_mapIdx).symm, fun i _ _ hstatus => ?_⟩
  simp only [List.get_eq_getElem, List.getElem_mapIdx] at hstatus ⊢
  exact if_neg hstatus

/-- The pairs of numas that are declared stay what they are. -/
theorem pairs_rearrangePidMigrated :
    ((rearrangePidMigrated e).borrow.slots.filter fun s =>
        ¬(s.capacity = 0 ∨ s.status ≠ .COMPLETED ∨ s.remoteNumaId < 0)).map
          (fun s => (s.srcNumaId, s.remoteNumaId)) =
      (e.borrow.slots.filter fun s =>
        ¬(s.capacity = 0 ∨ s.status ≠ .COMPLETED ∨ s.remoteNumaId < 0)).map
          fun s => (s.srcNumaId, s.remoteNumaId) := by
  have hmapIdx : ∀ (l : List BorrowSlot) (g : Nat → BorrowSlot → BorrowSlot),
      (∀ i s, ∃ m, g i s = { s with migratedBytes := m }) →
      ((l.mapIdx g).filter fun s =>
        ¬(s.capacity = 0 ∨ s.status ≠ .COMPLETED ∨ s.remoteNumaId < 0)).map
          (fun s => (s.srcNumaId, s.remoteNumaId)) =
      (l.filter fun s => ¬(s.capacity = 0 ∨ s.status ≠ .COMPLETED ∨ s.remoteNumaId < 0)).map
        fun s => (s.srcNumaId, s.remoteNumaId) := by
    intro l
    induction l with
    | nil => exact fun _ _ => rfl
    | cons s l ih =>
      intro g hg
      obtain ⟨m, hm⟩ := hg 0 s
      have ih := ih (fun i => g (i + 1)) fun i => hg (i + 1)
      rw [List.mapIdx_cons, hm, List.filter_cons, List.filter_cons]
      split
      next => exact congrArg (_ :: ·) ih
      next => exact ih
  rw [rearrangePidMigrated_slots]
  refine hmapIdx _ _ fun i s => ?_
  split
  next => exact ⟨_, rfl⟩
  next => exact ⟨s.migratedBytes, rfl⟩

end Sources

/-- Two debts on one remote numa, whose pages come from two local numas. -/
def twoSources : PidBorrow where
  borrow :=
    { currentRemote := 2 ^ 28
      slots :=
        [{ capacity := 2 ^ 28, migratedBytes := 2 ^ 27, debtId := "1-4242-0-0", srcNumaId := 0,
           remoteNumaId := 4, status := .COMPLETED },
         { capacity := 2 ^ 27, migratedBytes := 2 ^ 27, debtId := "1-4242-0-1", srcNumaId := 1,
           remoteNumaId := 4, status := .COMPLETED }] }
  processStatus := .BORROWED

/-- The first has the larger capacity. -/
theorem rearrangeOrder_twoSources : rearrangeOrder twoSources.borrow.slots 4 = [0, 1] := by
  rw [rearrangeOrder, show (List.range twoSources.borrow.slots.length).filter (fun i =>
    (twoSources.borrow.slots[i]?).any fun s => s.status = .COMPLETED ∧ s.remoteNumaId = 4) = [0, 1]
      by decide]
  exact List.mergeSort_of_pairwise (by decide)

end ProcessMem

end UbsEngine
