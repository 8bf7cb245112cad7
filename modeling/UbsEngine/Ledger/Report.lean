import UbsEngine.Ledger.Account

/-!
# Adding up the accounts

The proofs about the second half of `UbsEngine.Ledger.ubseGetBorrowedLentInfo`. Adding up the
lending side of the accounts is adding pieces with a refusal
(`UbsEngine.Ledger.memory_accumulateLentInfo`), adding up the borrowing side is adding them all
(`UbsEngine.Ledger.memory_accumulateBorrowedInfo`), and the report lists the sums
(`UbsEngine.Ledger.lentItems_fillBorrowedLentInfoList`).
-/

namespace UbsEngine

namespace Ledger

open Mem Absorb

/-! ### Adding up -/

/-- The test on a sum and a size: the size has 32 bits and the new sum has not. -/
def refuses (sum size : Nat) : Bool := size < 2 ^ 32 ∧ 2 ^ 32 ≤ sum + size

/-- The pieces of the lending side of an account, by their keys. -/
def lentBatch (info : UbseMemoryBorrowInfo) : List (BorrowedLentKey × Nat) :=
  info.lentNuma.map fun p => ((info.lentNodeId, info.borrowNodeId, p.1), p.2)

/-- The pieces of the borrowing side of an account, by their keys. -/
def borrowedBatch (info : UbseMemoryBorrowInfo) : List (BorrowedLentKey × Nat) :=
  info.borrowNuma.map fun p => ((info.lentNodeId, info.borrowNodeId, p.1), p.2)

theorem memory_addMemory (m : AccumulatedMap) (key key' : BorrowedLentKey) (size : Nat) :
    memory (addMemory m key size) key' =
      if key' = key then (memory m key + size) % 2 ^ 64 else memory m key' := by
  rw [memory, addMemory, Map.lookup_insert_ite]
  split
  · rfl
  · rfl

/-- One account adds up like a batch of pieces, as long as the sums stay below 64 bits. -/
theorem memory_accumulateLent {lentNodeId borrowNodeId : string} (ps : List NumaSize)
    {m : AccumulatedMap} {t : BorrowedLentKey → Nat} (S : BorrowedLentKey → Prop)
    (hS : ∀ numaId, S (lentNodeId, borrowNodeId, numaId)) (ht : ∀ key, S key → memory m key = t key)
    (hsmall : ∀ key, S key →
      t key + total (ps.map fun p => ((lentNodeId, borrowNodeId, p.1), p.2)) key < 2 ^ 64) :
    ∀ key, S key → memory (accumulateLent lentNodeId borrowNodeId m ps) key =
      absorb refuses t (ps.map fun p => ((lentNodeId, borrowNodeId, p.1), p.2)) key := by
  induction ps generalizing m t with
  | nil => exact ht
  | cons p ps ih =>
    obtain ⟨numaId, size⟩ := p
    have hkey := ht _ (hS numaId)
    have hsum : t (lentNodeId, borrowNodeId, numaId) + size < 2 ^ 64 := by
      have h := hsmall _ (hS numaId)
      rw [List.map_cons, total_cons, if_pos rfl] at h
      omega
    have htest : (UINT32_MAX + 2 ^ 64 - size) % 2 ^ 64 < memory m (lentNodeId, borrowNodeId, numaId)
        ↔ refuses (t (lentNodeId, borrowNodeId, numaId)) size = true := by
      rw [hkey, refuses, decide_eq_true_eq, UINT32_MAX]
      omega
    intro key hkeyS
    rw [accumulateLent, List.map_cons, absorb]
    dsimp only
    by_cases hrefuses : refuses (t (lentNodeId, borrowNodeId, numaId)) size = true
    · rw [if_pos (htest.2 hrefuses), if_pos hrefuses, memory, Map.lookup_insert_ite]
      split
      next heq => rw [Option.getD_some, heq, hkey]
      next => exact ht key hkeyS
    · rw [if_neg (htest.not.2 hrefuses), if_neg hrefuses]
      refine ih (fun key' hkey' => ?_) (fun key' hkey' => ?_) key hkeyS
      · rw [memory_addMemory, add]
        rcases eq_or_ne key' (lentNodeId, borrowNodeId, numaId) with rfl | hne
        · rw [if_pos rfl, if_pos rfl, hkey, Nat.mod_eq_of_lt hsum]
        · rw [if_neg hne, if_neg hne.symm, ht key' hkey', Nat.add_zero]
      · have h := hsmall key' hkey'
        rw [List.map_cons, total_cons, ← Nat.add_assoc] at h
        exact h

/-- An account of other keys makes no difference. -/
theorem memory_accumulateLent_of_ne {lentNodeId borrowNodeId : string} (ps : List NumaSize)
    (m : AccumulatedMap) {key : BorrowedLentKey} (h : key.2.1 ≠ borrowNodeId) :
    memory (accumulateLent lentNodeId borrowNodeId m ps) key = memory m key := by
  have hne : ∀ numaId, key ≠ (lentNodeId, borrowNodeId, numaId) := fun numaId heq =>
    h (by rw [heq])
  induction ps generalizing m with
  | nil => rfl
  | cons p ps ih =>
    rw [accumulateLent]
    split
    · rw [memory, AList.lookup_insert_ne (hne p.1), memory]
    · rw [ih, memory_addMemory, if_neg (hne p.1)]

/-- The borrower of an account is known. -/
def isKnown (info : UbseMemoryBorrowInfo) : Bool := info.borrowNodeId ≠ []

/-- **The lending side adds up with a refusal.** Where the borrower is known, accounts without
one make no difference. -/
theorem memory_accumulateLentInfo (accounts : List UbseMemoryBorrowInfo) {m : AccumulatedMap}
    {t : BorrowedLentKey → Nat}
    (ht : ∀ key : BorrowedLentKey, key.2.1 ≠ [] → memory m key = t key)
    (hsmall : ∀ key : BorrowedLentKey, key.2.1 ≠ [] →
      t key + total ((accounts.filter isKnown).map lentBatch).flatten key < 2 ^ 64) :
    ∀ key : BorrowedLentKey, key.2.1 ≠ [] → memory (accumulateLentInfo accounts m) key =
      absorbAll refuses t ((accounts.filter isKnown).map lentBatch) key := by
  induction accounts generalizing m t with
  | nil => exact ht
  | cons info accounts ih =>
    by_cases hknown : isKnown info = true
    · rw [List.filter_cons_of_pos hknown] at hsmall ⊢
      simp only [List.map_cons, List.flatten_cons, total_append, ← Nat.add_assoc] at hsmall
      refine ih (t := absorb refuses t (lentBatch info)) ?_ fun key hkey => ?_
      · exact memory_accumulateLent info.lentNuma (·.2.1 ≠ [])
          (fun _ => of_decide_eq_true hknown) ht
          fun key hkey => lt_of_le_of_lt (Nat.le_add_right _ _) (hsmall key hkey)
      · exact lt_of_le_of_lt (Nat.add_le_add_right (absorb_le t (lentBatch info) key) _)
          (hsmall key hkey)
    · rw [List.filter_cons_of_neg hknown] at hsmall ⊢
      refine ih (fun key hkey => ?_) hsmall
      rw [memory_accumulateLent_of_ne _ _ fun heq => ?_, ht key hkey]
      exact hknown (decide_eq_true (heq ▸ hkey))

theorem memory_foldl_addMemory (ps : List (BorrowedLentKey × Nat)) {m : AccumulatedMap}
    {t : BorrowedLentKey → Nat} {S : BorrowedLentKey → Prop}
    (ht : ∀ key, S key → memory m key = t key)
    (hsmall : ∀ key, S key → t key + total ps key < 2 ^ 64) :
    ∀ key, S key → memory (ps.foldl (fun m p => addMemory m p.1 p.2) m) key =
      t key + total ps key := by
  induction ps generalizing m t with
  | nil => exact ht
  | cons p ps ih =>
    simp only [total_cons, ← Nat.add_assoc] at hsmall ⊢
    refine ih (t := add t p) (fun key hkey => ?_) hsmall
    rw [memory_addMemory, add]
    rcases eq_or_ne key p.1 with rfl | hne
    · have h := hsmall p.1 hkey
      rw [if_pos rfl] at h
      rw [if_pos rfl, if_pos rfl, ht p.1 hkey, Nat.mod_eq_of_lt (by omega)]
    · rw [if_neg hne, if_neg hne.symm, ht key hkey, Nat.add_zero]

theorem memory_foldl_of_notMem {ps : List (BorrowedLentKey × Nat)} {m : AccumulatedMap}
    {key : BorrowedLentKey} (h : ∀ p ∈ ps, p.1 ≠ key) :
    memory (ps.foldl (fun m p => addMemory m p.1 p.2) m) key = memory m key := by
  induction ps generalizing m with
  | nil => rfl
  | cons p ps ih =>
    rw [List.forall_mem_cons] at h
    rw [List.foldl_cons, ih h.2, memory_addMemory, if_neg h.1.symm]

/-- **The borrowing side adds up.** -/
theorem memory_accumulateBorrowedInfo (accounts : List UbseMemoryBorrowInfo) {m : AccumulatedMap}
    {t : BorrowedLentKey → Nat}
    (ht : ∀ key : BorrowedLentKey, key.2.1 ≠ [] → memory m key = t key)
    (hsmall : ∀ key : BorrowedLentKey, key.2.1 ≠ [] →
      t key + total ((accounts.filter isKnown).flatMap borrowedBatch) key < 2 ^ 64) :
    ∀ key : BorrowedLentKey, key.2.1 ≠ [] → memory (accumulateBorrowedInfo accounts m) key =
      t key + total ((accounts.filter isKnown).flatMap borrowedBatch) key := by
  have hbatch : ∀ (info : UbseMemoryBorrowInfo) (m : AccumulatedMap),
      info.borrowNuma.foldl (fun borrowedMap p =>
        addMemory borrowedMap (info.lentNodeId, info.borrowNodeId, p.1) p.2) m =
      (borrowedBatch info).foldl (fun m p => addMemory m p.1 p.2) m := fun info m => by
    rw [borrowedBatch, List.foldl_map]
  induction accounts generalizing m t with
  | nil => exact ht
  | cons info accounts ih =>
    rw [accumulateBorrowedInfo, List.foldl_cons, hbatch, ← accumulateBorrowedInfo]
    by_cases hknown : isKnown info = true
    · rw [List.filter_cons_of_pos hknown] at hsmall ⊢
      simp only [List.flatMap_cons, total_append, ← Nat.add_assoc] at hsmall ⊢
      refine ih (t := fun key => t key + total (borrowedBatch info) key) ?_ hsmall
      exact memory_foldl_addMemory _ ht fun key hkey =>
        lt_of_le_of_lt (Nat.le_add_right _ _) (hsmall key hkey)
    · rw [List.filter_cons_of_neg hknown] at hsmall ⊢
      refine ih (fun key hkey => ?_) hsmall
      rw [memory_foldl_of_notMem fun p hp heq => ?_, ht key hkey]
      obtain ⟨p, -, rfl⟩ := List.mem_map.1 hp
      subst heq
      exact hknown (decide_eq_true hkey)

/-! ### The report -/

/-- What a node lends, in a map of reports. -/
def lentItems (infoMap : BorrowedLentInfoMap) (node : string) : List UbseBorrowLentItem :=
  ((infoMap.lookup node).getD {}).lentItem

/-- What a node borrows, in a map of reports. -/
def borrowedItems (infoMap : BorrowedLentInfoMap) (node : string) : List UbseBorrowLentItem :=
  ((infoMap.lookup node).getD {}).borrowedItem

/-- Every report is of the node that it is kept under. -/
def Named (infoMap : BorrowedLentInfoMap) : Prop :=
  ∀ node info, infoMap.lookup node = some info → info.nodeId = node

def lentEntry (e : BorrowedLentKey × Nat) : UbseBorrowLentItem := ⟨e.1.2.1, e.1.2.2, e.2⟩

def borrowedEntry (e : BorrowedLentKey × Nat) : UbseBorrowLentItem := ⟨e.1.1, e.1.2.2, e.2⟩

theorem named_buildInfoMap {data : List (BorrowedLentKey × Nat)} {infoMap : BorrowedLentInfoMap}
    (isLending : Bool) (h : Named infoMap) : Named (buildInfoMap data infoMap isLending) := by
  induction data generalizing infoMap with
  | nil => exact h
  | cons e data ih =>
    refine ih fun node info hinfo => ?_
    rw [Map.lookup_insert_ite] at hinfo
    by_cases heq : node = if isLending then e.1.1 else e.1.2.1
    · rw [if_pos heq, Option.some.injEq] at hinfo
      rw [heq, ← hinfo]
      cases isLending <;> rfl
    · rw [if_neg heq] at hinfo
      exact h node info hinfo

theorem items_buildInfoMap_lent (data : List (BorrowedLentKey × Nat))
    (infoMap : BorrowedLentInfoMap) (node : string) :
    lentItems (buildInfoMap data infoMap true) node =
        lentItems infoMap node ++ (data.filter fun e => e.1.1 = node).map lentEntry ∧
      borrowedItems (buildInfoMap data infoMap true) node = borrowedItems infoMap node := by
  induction data generalizing infoMap with
  | nil => exact ⟨(List.append_nil _).symm, rfl⟩
  | cons e data ih =>
    have h := ih (infoMap.insert e.1.1 { (infoMap.lookup e.1.1).getD {} with
      nodeId := e.1.1
      lentItem := ((infoMap.lookup e.1.1).getD {}).lentItem ++ [lentEntry e] })
    have hbuild : buildInfoMap (e :: data) infoMap true = buildInfoMap data
        (infoMap.insert e.1.1 { (infoMap.lookup e.1.1).getD {} with
          nodeId := e.1.1
          lentItem := ((infoMap.lookup e.1.1).getD {}).lentItem ++ [lentEntry e] }) true := rfl
    rw [hbuild, h.1, h.2]
    rcases eq_or_ne e.1.1 node with rfl | hne
    · simp [lentItems, borrowedItems]
    · simp [lentItems, borrowedItems, AList.lookup_insert_ne hne.symm, hne]

theorem items_buildInfoMap_borrowed (data : List (BorrowedLentKey × Nat))
    (infoMap : BorrowedLentInfoMap) (node : string) :
    borrowedItems (buildInfoMap data infoMap false) node =
        borrowedItems infoMap node ++ (data.filter fun e => e.1.2.1 = node).map borrowedEntry ∧
      lentItems (buildInfoMap data infoMap false) node = lentItems infoMap node := by
  induction data generalizing infoMap with
  | nil => exact ⟨(List.append_nil _).symm, rfl⟩
  | cons e data ih =>
    have h := ih (infoMap.insert e.1.2.1 { (infoMap.lookup e.1.2.1).getD {} with
      nodeId := e.1.2.1
      borrowedItem := ((infoMap.lookup e.1.2.1).getD {}).borrowedItem ++ [borrowedEntry e] })
    have hbuild : buildInfoMap (e :: data) infoMap false = buildInfoMap data
        (infoMap.insert e.1.2.1 { (infoMap.lookup e.1.2.1).getD {} with
          nodeId := e.1.2.1
          borrowedItem := ((infoMap.lookup e.1.2.1).getD {}).borrowedItem ++ [borrowedEntry e] })
        false := rfl
    rw [hbuild, h.1, h.2]
    rcases eq_or_ne e.1.2.1 node with rfl | hne
    · simp [lentItems, borrowedItems]
    · simp [lentItems, borrowedItems, AList.lookup_insert_ne hne.symm, hne]

/-- What is listed of a node is what the map has of it. -/
theorem flatMap_nodes {β : Type} (o : Map.Iteration string UbseNodeBorrowLentInfo)
    {infoMap : BorrowedLentInfoMap} (hnamed : Named infoMap) (f : UbseNodeBorrowLentInfo → List β)
    (hf : f {} = []) {nodeId node : string} (hasked : nodeId = [] ∨ nodeId = node) :
    (((((o.run infoMap).filter fun e => nodeId = [] ∨ nodeId = e.1).map Prod.snd).filter
      (·.nodeId = node)).flatMap f) = f ((infoMap.lookup node).getD {}) := by
  have hfilter : ((((o.run infoMap).filter fun e => nodeId = [] ∨ nodeId = e.1).map
      Prod.snd).filter (·.nodeId = node)) =
      ((o.run infoMap).filter fun e => e.1 = node).map Prod.snd := by
    rw [List.filter_map, List.filter_filter]
    congr 1
    refine List.filter_congr fun e he => ?_
    have hname := hnamed e.1 e.2 (o.mem_run.1 he)
    rw [Function.comp_apply, hname, Bool.eq_iff_iff, Bool.and_eq_true, decide_eq_true_eq,
      decide_eq_true_eq, and_iff_left_iff_imp]
    rintro rfl
    exact hasked
  rw [hfilter, o.filter_run]
  cases infoMap.lookup node with
  | none => exact hf.symm
  | some info => simp

section Sums

variable (o : ReportOrder) (accounts : List UbseMemoryBorrowInfo) {nodeId : string}

theorem lentItems_fillBorrowedLentInfoList {e : string} (hasked : nodeId = [] ∨ nodeId = e) :
    ((fillBorrowedLentInfoList o nodeId accounts).filter (·.nodeId = e)).flatMap (·.lentItem) =
      ((o.sums.run (accumulateLentInfo accounts ∅)).filter fun x => x.1.1 = e).map lentEntry := by
  have hnamed : Named (∅ : BorrowedLentInfoMap) := fun node info h => by cases h
  rw [fillBorrowedLentInfoList]
  rw [flatMap_nodes o.nodes (named_buildInfoMap true (named_buildInfoMap false hnamed)) _ rfl
    hasked]
  refine (items_buildInfoMap_lent _ _ e).1.trans ?_
  rw [(items_buildInfoMap_borrowed _ _ e).2]
  exact List.nil_append _

theorem borrowedItems_fillBorrowedLentInfoList {i : string} (hasked : nodeId = [] ∨ nodeId = i) :
    ((fillBorrowedLentInfoList o nodeId accounts).filter (·.nodeId = i)).flatMap
        (·.borrowedItem) =
      ((o.sums.run (accumulateBorrowedInfo accounts ∅)).filter fun x => x.1.2.1 = i).map
        borrowedEntry := by
  have hnamed : Named (∅ : BorrowedLentInfoMap) := fun node info h => by cases h
  rw [fillBorrowedLentInfoList]
  rw [flatMap_nodes o.nodes (named_buildInfoMap true (named_buildInfoMap false hnamed)) _ rfl
    hasked]
  refine (items_buildInfoMap_lent _ _ i).2.trans ?_
  refine (items_buildInfoMap_borrowed _ _ i).1.trans ?_
  exact List.nil_append _

/-- What is listed under a key is the memory under it. -/
theorem lentSize_fillBorrowedLentInfoList {e : string} (hasked : nodeId = [] ∨ nodeId = e)
    (i : string) (n : Nat) :
    lentSize (fillBorrowedLentInfoList o nodeId accounts) e i n =
      memory (accumulateLentInfo accounts ∅) (e, i, n) := by
  rw [lentSize, lentItems_fillBorrowedLentInfoList o accounts hasked, List.filter_map,
    List.filter_filter, List.map_map]
  have hfilter : ((o.sums.run (accumulateLentInfo accounts ∅)).filter fun x =>
      ((fun item : UbseBorrowLentItem => decide (item.nodeId = i ∧ item.numaId = n)) ∘ lentEntry) x
        && decide (x.1.1 = e)) =
      (o.sums.run (accumulateLentInfo accounts ∅)).filter fun x => x.1 = (e, i, n) := by
    refine List.filter_congr fun x _ => ?_
    rw [Bool.eq_iff_iff, Bool.and_eq_true, Function.comp_apply, decide_eq_true_eq,
      decide_eq_true_eq, decide_eq_true_eq, lentEntry, Prod.ext_iff, Prod.ext_iff, and_comm]
  rw [hfilter, o.sums.filter_run, memory]
  cases (accumulateLentInfo accounts ∅).lookup (e, i, n) with
  | none => rfl
  | some v => simp [lentEntry]

/-- What is listed under some keys adds up to the pieces under them, where the sums are exact. -/
theorem sum_filter_run {m : AccumulatedMap} {ps : List (BorrowedLentKey × Nat)}
    {S : BorrowedLentKey → Bool} (h : ∀ key, S key → memory m key = total ps key) :
    (((o.sums.run m).filter fun x => S x.1).map Prod.snd).sum =
      ((ps.filter fun p => S p.1).map Prod.snd).sum := by
  have hsnd : ((o.sums.run m).filter fun x => S x.1).map Prod.snd =
      (((o.sums.run m).filter fun x => S x.1).map Prod.fst).map (total ps) := by
    rw [List.map_map]
    refine List.map_congr_left fun x hx => ?_
    obtain ⟨hrun, hS⟩ := List.mem_filter.1 hx
    rw [Function.comp_apply, ← h x.1 hS, memory, o.sums.mem_run.1 hrun, Option.getD_some]
  rw [hsnd]
  refine sum_total ((List.filter_sublist.map _).nodup o.sums.nodup_run) (fun key hkey => ?_)
    fun key hS hkey => ?_
  · obtain ⟨x, hx, rfl⟩ := List.mem_map.1 hkey
    exact (List.mem_filter.1 hx).2
  · rw [← h key hS, memory]
    cases hlookup : m.lookup key with
    | none => rfl
    | some v =>
      exact absurd (List.mem_map.2 ⟨(key, v), List.mem_filter.2 ⟨o.sums.mem_run.2 hlookup, hS⟩,
        rfl⟩) hkey

end Sums

end Ledger

end UbsEngine
