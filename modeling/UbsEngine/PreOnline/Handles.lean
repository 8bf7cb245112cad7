import Mathlib.Data.List.Induction
import Mathlib.Data.List.Nodup
import Mathlib.Data.List.TakeWhile
import UbsEngine.Library.Run
import UbsEngine.Mem.Objects

/-!
# The handles of pre-imported memory

A node imports memory from its neighbours ahead of time. For each table of a decoder the manager
keeps the handles of the table in a list; a handle is free, or it is pre-imported for one
destination. Which destination has a handle is found by going through the list, and so is a free
handle for a destination that has none: `UbsEngine.PreOnline.scanNeed` does both in one pass, and
takes the first free handle that it meets, whether or not the destination has one further on.

`UbsEngine.PreOnline.handles_unique_iff` says exactly which operations leave the handles as they
should be: one for each destination, each for one destination, and found.
-/

namespace UbsEngine

namespace PreOnline

open Mem

/-! ### The data -/

/-- A table of a decoder. -/
structure DecoderEntryLoc where
  ubpuId : uint32_t := num 0
  iouId : uint32_t := num 0
  marId : uint32_t := num 0
  decoderId : uint8_t := num 0
  deriving DecidableEq

structure UbseMamiMemHandleValue where
  handle : uint64_t
  hpa : uint64_t
  deriving DecidableEq

/-- Memory that the system has pre-imported. -/
structure BasicPreImportInfo where
  pa : uint64_t
  dcna : uint32_t
  deriving DecidableEq

/-- A handle. The destination is valid when the handle is pre-imported. -/
structure PreHandlerInfo where
  dcna : uint32_t
  importResult : UbseMamiMemImportResult
  isPreImport : Bool
  deriving DecidableEq

/-- The handles of each table. A table that is missing is one without handles: nothing but the log
tells them apart. -/
abbrev PreHandleMap := DecoderEntryLoc → List PreHandlerInfo

/-! ### The operations on one table -/

section Table

variable (dcna : uint32_t)

/-- A handle as it is given to a destination. -/
def claimed (value : PreHandlerInfo) : PreHandlerInfo :=
  { value with dcna := dcna, isPreImport := true }

/-- A handle as it is given back. -/
def released (value : PreHandlerInfo) : PreHandlerInfo :=
  { value with dcna := num 0, isPreImport := false }

/-- The pass of `IsNeedPreOnline`: the answer, the handle that goes with it, and the table. -/
def scanNeed : List PreHandlerInfo →
    Bool × Option UbseMamiMemImportResult × List PreHandlerInfo
  | [] => (true, none, [])
  | value :: values =>
    if value.dcna = dcna ∧ value.isPreImport then
      (false, some value.importResult, value :: values)
    else if value.dcna = num 0 ∧ !value.isPreImport then
      (true, some value.importResult, claimed dcna value :: values)
    else if value.dcna = dcna ∧ !value.isPreImport then
      (true, some value.importResult, { value with isPreImport := true } :: values)
    else
      let rest := scanNeed values
      (rest.1, rest.2.1, value :: rest.2.2)

/-- The pass of `GetOneUnPreImportHandle`. -/
def scanFree : List PreHandlerInfo → Option UbseMamiMemImportResult × List PreHandlerInfo
  | [] => (none, [])
  | value :: values =>
    if value.dcna = num 0 ∧ !value.isPreImport then
      (some value.importResult, claimed dcna value :: values)
    else
      let rest := scanFree values
      (rest.1, value :: rest.2)

/-- The pass of `RollbackPreImportHandle` for one handle. -/
def scanRelease (handle : uint64_t) : List PreHandlerInfo → List PreHandlerInfo
  | [] => []
  | value :: values =>
    if value.importResult.handle = handle then released value :: values
    else value :: scanRelease handle values

/-- `InitAllEntryBlock`, for one handle of a table. -/
def entryBlock (loc : DecoderEntryLoc) (value : UbseMamiMemHandleValue) : PreHandlerInfo where
  dcna := num 0
  importResult := { handle := value.handle, hpa := value.hpa, marId := loc.marId }
  isPreImport := false

/-- `InitDcnaByPreImportInfo`, for one handle. -/
def initDcna (preImportInfo : BasicPreImportInfo) (value : PreHandlerInfo) : PreHandlerInfo :=
  if value.importResult.hpa = preImportInfo.pa then claimed preImportInfo.dcna value else value

/-- The handles of a table after `InitPreHandle`. -/
def initTable (preImportInfos : List BasicPreImportInfo) (loc : DecoderEntryLoc)
    (values : List UbseMamiMemHandleValue) : List PreHandlerInfo :=
  preImportInfos.foldl (fun table info => table.map (initDcna info)) (values.map (entryBlock loc))

end Table

/-! ### The manager -/

inductive PreHandleOp where
  /-- The handles are those that the hardware has, unless it fails to say. -/
  | initPreHandle (allHandles : Option (DecoderEntryLoc → List UbseMamiMemHandleValue))
      (preImportInfos : List BasicPreImportInfo)
  | isNeedPreOnline (loc : DecoderEntryLoc) (dcna : uint32_t)
  | createPreHandle (loc : DecoderEntryLoc) (handleValue : UbseMamiMemImportResult)
      (dcna : uint32_t)
  | getOneUnPreImportHandle (loc : DecoderEntryLoc) (dcna : uint32_t)
  /-- `RollbackHandle`, which looks at the handles only. -/
  | rollbackHandle (loc : DecoderEntryLoc) (handles : List uint64_t)
  /-- `RollbackPreImportHandle` for a whole table. -/
  | rollbackPreImportHandles (loc : DecoderEntryLoc)
  | rollbackPreImportHandle (loc : DecoderEntryLoc) (handle : uint64_t)

/-- The answer of `IsNeedPreOnline`. -/
def isNeedPreOnline (m : PreHandleMap) (loc : DecoderEntryLoc) (dcna : uint32_t) : Bool :=
  (scanNeed dcna (m loc)).1

def preHandleStep (m : PreHandleMap) : PreHandleOp → PreHandleMap
  | .initPreHandle none _ => fun _ => []
  | .initPreHandle (some allHandles) preImportInfos =>
    fun loc => initTable preImportInfos loc (allHandles loc)
  | .isNeedPreOnline loc dcna => Function.update m loc (scanNeed dcna (m loc)).2.2
  | .createPreHandle loc handleValue dcna =>
    Function.update m loc (m loc ++ [⟨dcna, handleValue, true⟩])
  | .getOneUnPreImportHandle loc dcna => Function.update m loc (scanFree dcna (m loc)).2
  | .rollbackHandle _ _ => m
  | .rollbackPreImportHandles loc => Function.update m loc ((m loc).map released)
  | .rollbackPreImportHandle loc handle => Function.update m loc (scanRelease handle (m loc))

/-! ### What is asked of the handles -/

/-- The handles of a table that are pre-imported. -/
def owned (table : List PreHandlerInfo) : List PreHandlerInfo := table.filter (·.isPreImport)

def unowned (table : List PreHandlerInfo) : List PreHandlerInfo := table.filter (!·.isPreImport)

def dcnas (table : List PreHandlerInfo) : List uint32_t := table.map (·.dcna)

def handles (table : List PreHandlerInfo) : List uint64_t := table.map (·.importResult.handle)

/-- **The handles of a table are in order**: no destination has two of them and no handle two
destinations, and a destination is told that it needs none exactly when it has one. -/
structure Unique (table : List PreHandlerInfo) : Prop where
  onePerDcna : (dcnas (owned table)).Nodup
  oneOwner : (handles (owned table)).Nodup
  needed_iff : ∀ dcna, (scanNeed dcna table).1 = false ↔ dcna ∈ dcnas (owned table)

/-- **The handles are in order**: those of every table are, and no handle is pre-imported in two
tables. -/
structure HandlesUnique (m : PreHandleMap) : Prop where
  inTable : ∀ loc, Unique (m loc)
  acrossTables : Pairwise fun loc loc' => (handles (owned (m loc))).Disjoint
    (handles (owned (m loc')))

/-- The handle is pre-imported for some destination. -/
def Taken (m : PreHandleMap) (handle : uint64_t) : Prop := ∃ loc, handle ∈ handles (owned (m loc))

/-- The pre-imported memory at the address of a handle, the one that is named last. -/
def lastInfo (preImportInfos : List BasicPreImportInfo) (value : UbseMamiMemHandleValue) :
    Option BasicPreImportInfo :=
  (preImportInfos.filter (·.pa = value.hpa)).getLast?

/-- The handles of a table whose memory the system has pre-imported. -/
def preImported (preImportInfos : List BasicPreImportInfo)
    (values : List UbseMamiMemHandleValue) : List uint64_t :=
  (values.filter fun value => (lastInfo preImportInfos value).isSome).map (·.handle)

/-- The system has pre-imported the memory of the first handles of a table, for different
destinations each. -/
structure InitInOrder (preImportInfos : List BasicPreImportInfo)
    (values : List UbseMamiMemHandleValue) : Prop where
  first : values.Pairwise fun u v =>
    (lastInfo preImportInfos v).isSome → (lastInfo preImportInfos u).isSome
  onePerDcna : ((values.filterMap (lastInfo preImportInfos)).map (·.dcna)).Nodup
  oneOwner : (preImported preImportInfos values).Nodup

/-- **When an operation leaves the handles in order.** -/
def InOrder (m : PreHandleMap) : PreHandleOp → Prop
  | .initPreHandle none _ => True
  | .initPreHandle (some allHandles) preImportInfos =>
    (∀ loc, InitInOrder preImportInfos (allHandles loc)) ∧
      Pairwise fun loc loc' => (preImported preImportInfos (allHandles loc)).Disjoint
        (preImported preImportInfos (allHandles loc'))
  -- The handle that is taken for a destination without one is not listed twice.
  | .isNeedPreOnline loc dcna =>
    dcna ∉ dcnas (owned (m loc)) → ∀ value ∈ (unowned (m loc)).head?,
      ¬Taken m value.importResult.handle
  -- There was no free handle, and the new one is neither there nor its destination served.
  | .createPreHandle loc handleValue dcna =>
    unowned (m loc) = [] ∧ dcna ∉ dcnas (owned (m loc)) ∧ ¬Taken m handleValue.handle
  | .getOneUnPreImportHandle loc dcna =>
    ∀ value ∈ (unowned (m loc)).head?,
      dcna ∉ dcnas (owned (m loc)) ∧ ¬Taken m value.importResult.handle
  | .rollbackHandle _ _ => True
  | .rollbackPreImportHandles _ => True
  -- The handle that is given back is the last of those that are pre-imported.
  | .rollbackPreImportHandle loc handle =>
    ∀ value rest, (m loc).dropWhile (·.importResult.handle ≠ handle) = value :: rest →
      value.isPreImport → owned rest = []

/-! ### Tables with their free handles last -/

section Order

variable {table a b : List PreHandlerInfo} {dcna : uint32_t}

/-- A free handle names no destination. -/
def WellFormed (table : List PreHandlerInfo) : Prop :=
  ∀ value ∈ table, value.isPreImport = false → value.dcna = num 0

/-- No free handle comes before one that is pre-imported. -/
def FreeLast (table : List PreHandlerInfo) : Prop :=
  table.Pairwise fun u v => v.isPreImport = true → u.isPreImport = true

theorem owned_append : owned (a ++ b) = owned a ++ owned b := List.filter_append ..

theorem unowned_append : unowned (a ++ b) = unowned a ++ unowned b := List.filter_append ..

theorem owned_eq_self (h : ∀ v ∈ a, v.isPreImport = true) : owned a = a :=
  List.filter_eq_self.mpr h

theorem owned_eq_nil_iff : owned a = [] ↔ ∀ v ∈ a, v.isPreImport = false := by
  rw [owned, List.filter_eq_nil_iff]
  exact forall₂_congr fun v _ => iff_of_eq (Bool.not_eq_true _)

theorem unowned_eq_nil_iff : unowned a = [] ↔ ∀ v ∈ a, v.isPreImport = true := by
  rw [unowned, List.filter_eq_nil_iff]
  refine forall₂_congr fun v _ => ?_
  rw [Bool.not_eq_true', Bool.not_eq_false]

theorem isPreImport_of_mem_owned {v : PreHandlerInfo} (h : v ∈ owned a) : v.isPreImport = true :=
  (List.mem_filter.mp h).2

theorem isPreImport_of_mem_unowned {v : PreHandlerInfo} (h : v ∈ unowned a) :
    v.isPreImport = false := by
  simpa using (List.mem_filter.mp h).2

theorem unowned_eq_self (h : ∀ v ∈ a, v.isPreImport = false) : unowned a = a :=
  List.filter_eq_self.mpr fun v hv => by rw [h v hv]; rfl

/-- A table with its free handles last is the one part after the other. -/
theorem FreeLast.eq_append (h : FreeLast table) : table = owned table ++ unowned table := by
  induction table with
  | nil => rfl
  | cons v t ih =>
    obtain ⟨hv, ht⟩ := List.pairwise_cons.mp h
    cases hpre : v.isPreImport with
    | true =>
      rw [owned, unowned, List.filter_cons_of_pos hpre, List.filter_cons_of_neg (by simp [hpre])]
      exact congrArg (v :: ·) (ih ht)
    | false =>
      have hnone : ∀ w ∈ v :: t, w.isPreImport = false := by
        intro w hw
        rcases List.mem_cons.mp hw with rfl | hw
        · exact hpre
        · refine Bool.eq_false_iff.mpr fun hwpre => ?_
          rw [hv w hw hwpre] at hpre
          nomatch hpre
      rw [owned_eq_nil_iff.mpr hnone, unowned_eq_self hnone, List.nil_append]

theorem freeLast_append (ha : ∀ v ∈ a, v.isPreImport = true)
    (hb : ∀ v ∈ b, v.isPreImport = false) : FreeLast (a ++ b) := by
  refine List.pairwise_append.mpr ⟨?_, ?_, fun u hu _ _ _ => ha u hu⟩
  · exact List.pairwise_of_forall_mem_list fun u hu _ _ _ => ha u hu
  · refine List.pairwise_of_forall_mem_list fun _ _ v hv hpre => ?_
    rw [hb v hv] at hpre
    nomatch hpre

/-! ### The pass over a table -/

/-- A destination that has a handle finds it before a free one. -/
theorem scanNeed_of_mem (ha : ∀ v ∈ a, v.isPreImport = true) (h : dcna ∈ dcnas a) :
    (scanNeed dcna (a ++ b)).1 = false ∧ (scanNeed dcna (a ++ b)).2.2 = a ++ b := by
  induction a with
  | nil => nomatch h
  | cons v a ih =>
    have hpre := ha v List.mem_cons_self
    rw [List.cons_append, scanNeed]
    by_cases hd : v.dcna = dcna
    · rw [if_pos ⟨hd, hpre⟩]
      exact ⟨rfl, rfl⟩
    · have hrest : dcna ∈ dcnas a := (List.mem_cons.mp h).resolve_left (Ne.symm hd)
      obtain ⟨hanswer, htable⟩ := ih (fun w hw => ha w (List.mem_cons_of_mem _ hw)) hrest
      rw [if_neg fun h => hd h.1, if_neg (by simp [hpre]), if_neg fun h => hd h.1]
      exact ⟨hanswer, congrArg (v :: ·) htable⟩

/-- Handles that are pre-imported for other destinations are passed by. -/
theorem scanNeed_of_not_mem (ha : ∀ v ∈ a, v.isPreImport = true) (h : dcna ∉ dcnas a) :
    (scanNeed dcna (a ++ b)).1 = (scanNeed dcna b).1 ∧
      (scanNeed dcna (a ++ b)).2.2 = a ++ (scanNeed dcna b).2.2 := by
  induction a with
  | nil => exact ⟨rfl, rfl⟩
  | cons v a ih =>
    have hpre := ha v List.mem_cons_self
    obtain ⟨hd, hrest⟩ := not_or.mp (mt List.mem_cons.mpr h)
    obtain ⟨hanswer, htable⟩ := ih (fun w hw => ha w (List.mem_cons_of_mem _ hw)) hrest
    rw [List.cons_append, scanNeed, if_neg fun h => hd h.1.symm, if_neg (by simp [hpre]),
      if_neg fun h => hd h.1.symm]
    exact ⟨hanswer, congrArg (v :: ·) htable⟩

/-- The first free handle is given to the destination. -/
theorem scanNeed_free (hb : ∀ f ∈ b.head?, f.isPreImport = false) (hwf : WellFormed b) :
    (scanNeed dcna b).1 = true ∧
      (scanNeed dcna b).2.2 = (b.head?.map (claimed dcna)).toList ++ b.tail := by
  cases b with
  | nil => exact ⟨rfl, rfl⟩
  | cons f b =>
    have hpre := hb f rfl
    have hzero := hwf f List.mem_cons_self hpre
    rw [scanNeed, if_neg (by simp [hpre]), if_pos ⟨hzero, by rw [hpre]; rfl⟩]
    exact ⟨rfl, rfl⟩

theorem WellFormed.of_append (h : WellFormed (a ++ b)) : WellFormed a ∧ WellFormed b :=
  ⟨fun v hv => h v (List.mem_append_left _ hv), fun v hv => h v (List.mem_append_right _ hv)⟩

/-- **A table is in order** when its free handles come last, and no destination and no handle
occurs twice before. -/
theorem unique_iff (hwf : WellFormed table) :
    Unique table ↔
      FreeLast table ∧ (dcnas (owned table)).Nodup ∧ (handles (owned table)).Nodup := by
  constructor
  · rintro ⟨hdcnas, hhandles, hneeded⟩
    refine ⟨?_, hdcnas, hhandles⟩
    obtain ⟨a, b, rfl, ha, hb⟩ : ∃ a b, table = a ++ b ∧ (∀ v ∈ a, v.isPreImport = true) ∧
        ∀ f ∈ b.head?, f.isPreImport = false := by
      refine ⟨table.takeWhile (·.isPreImport), table.dropWhile (·.isPreImport),
        List.takeWhile_append_dropWhile.symm, fun v hv => List.mem_takeWhile_imp hv, ?_⟩
      intro f hf
      have hdrop := List.head?_dropWhile_not (fun v : PreHandlerInfo => v.isPreImport) table
      rw [Option.mem_def.mp hf] at hdrop
      simpa using hdrop
    refine freeLast_append ha (owned_eq_nil_iff.mp (List.eq_nil_iff_forall_not_mem.mpr ?_))
    -- What is pre-imported behind a free handle is not found, though its destination has
    -- nothing else.
    intro v hv
    rw [owned_append, owned_eq_self ha, dcnas, List.map_append] at hdcnas
    have hmem : v.dcna ∈ dcnas (owned (a ++ b)) := by
      rw [owned_append, dcnas, List.map_append]
      exact List.mem_append_right _ (List.mem_map_of_mem hv)
    have hnot : v.dcna ∉ dcnas a := fun ha =>
      (List.nodup_append.mp hdcnas).2.2 _ ha _ (List.mem_map_of_mem hv) rfl
    have hanswer := (hneeded v.dcna).mpr hmem
    rw [(scanNeed_of_not_mem ha hnot).1, (scanNeed_free hb hwf.of_append.2).1] at hanswer
    nomatch hanswer
  · rintro ⟨hlast, hdcnas, hhandles⟩
    refine ⟨hdcnas, hhandles, fun dcna => ?_⟩
    rw [hlast.eq_append] at hwf
    conv_lhs => rw [hlast.eq_append]
    have ha : ∀ v ∈ owned table, v.isPreImport = true := fun v hv => isPreImport_of_mem_owned hv
    by_cases hmem : dcna ∈ dcnas (owned table)
    · exact iff_of_true (scanNeed_of_mem ha hmem).1 hmem
    · refine iff_of_false ?_ hmem
      rw [(scanNeed_of_not_mem ha hmem).1, (scanNeed_free ?_ hwf.of_append.2).1]
      · exact Bool.true_eq_false_eq_False
      · exact fun f hf => isPreImport_of_mem_unowned (List.mem_of_mem_head? hf)

/-- The pass of `GetOneUnPreImportHandle` does the same with the first free handle, whichever
destination it is for. -/
theorem scanFree_append (ha : ∀ v ∈ a, v.isPreImport = true)
    (hb : ∀ f ∈ b.head?, f.isPreImport = false) (hwf : WellFormed b) :
    (scanFree dcna (a ++ b)).2 = a ++ ((b.head?.map (claimed dcna)).toList ++ b.tail) := by
  induction a with
  | nil =>
    cases b with
    | nil => rfl
    | cons f b =>
      have hpre := hb f rfl
      have hzero := hwf f List.mem_cons_self hpre
      rw [List.nil_append, scanFree, if_pos ⟨hzero, by rw [hpre]; rfl⟩]
      rfl
  | cons v a ih =>
    have hpre := ha v List.mem_cons_self
    rw [List.cons_append, scanFree, if_neg (by simp [hpre])]
    exact congrArg (v :: ·) (ih fun w hw => ha w (List.mem_cons_of_mem _ hw))

/-- The table after a handle was given to a destination that has none. -/
def claimFirst (dcna : uint32_t) (table : List PreHandlerInfo) : List PreHandlerInfo :=
  owned table ++ (((unowned table).head?.map (claimed dcna)).toList ++ (unowned table).tail)

/-- What `IsNeedPreOnline` does to a table whose free handles come last. -/
theorem scanNeed_of_freeLast (h : FreeLast table) (hwf : WellFormed table) :
    (scanNeed dcna table).2.2 =
      if dcna ∈ dcnas (owned table) then table else claimFirst dcna table := by
  have ha : ∀ v ∈ owned table, v.isPreImport = true := fun v hv => isPreImport_of_mem_owned hv
  rw [h.eq_append] at hwf
  conv_lhs => rw [h.eq_append]
  split
  next hmem => rw [(scanNeed_of_mem ha hmem).2, ← h.eq_append]
  next hmem =>
    rw [(scanNeed_of_not_mem ha hmem).2, (scanNeed_free ?_ hwf.of_append.2).2, claimFirst]
    exact fun f hf => isPreImport_of_mem_unowned (List.mem_of_mem_head? hf)

theorem scanFree_of_freeLast (h : FreeLast table) (hwf : WellFormed table) :
    (scanFree dcna table).2 = claimFirst dcna table := by
  rw [h.eq_append] at hwf
  conv_lhs => rw [h.eq_append]
  exact scanFree_append (fun v hv => isPreImport_of_mem_owned hv)
    (fun f hf => isPreImport_of_mem_unowned (List.mem_of_mem_head? hf)) hwf.of_append.2

theorem freeLast_claimFirst : FreeLast (claimFirst dcna table) := by
  rw [claimFirst, ← List.append_assoc]
  refine freeLast_append (fun v hv => ?_) fun v hv =>
    isPreImport_of_mem_unowned (List.mem_of_mem_tail hv)
  rcases List.mem_append.mp hv with hv | hv
  · exact isPreImport_of_mem_owned hv
  · obtain ⟨f, -, rfl⟩ := Option.map_eq_some_iff.mp (Option.mem_toList.mp hv)
    rfl

theorem owned_claimFirst :
    owned (claimFirst dcna table) =
      owned table ++ ((unowned table).head?.map (claimed dcna)).toList := by
  have hclaimed : ∀ v ∈ ((unowned table).head?.map (claimed dcna)).toList,
      v.isPreImport = true := by
    intro v hv
    obtain ⟨f, -, rfl⟩ := Option.map_eq_some_iff.mp (Option.mem_toList.mp hv)
    rfl
  have htail : ∀ v ∈ (unowned table).tail, v.isPreImport = false := fun v hv =>
    isPreImport_of_mem_unowned (List.mem_of_mem_tail hv)
  rw [claimFirst, owned_append, owned_append, owned_eq_self fun v hv => isPreImport_of_mem_owned hv,
    owned_eq_self hclaimed, owned_eq_nil_iff.mpr htail, List.append_nil]

/-- A handle that is given back is free where it is, so that nothing behind it may be
pre-imported. -/
theorem freeLast_released_iff {value : PreHandlerInfo} (h : FreeLast (a ++ value :: b)) :
    FreeLast (a ++ released value :: b) ↔ (value.isPreImport = true → owned b = []) := by
  obtain ⟨ha, hvalue, hcross⟩ := List.pairwise_append.mp h
  obtain ⟨hbehind, hb⟩ := List.pairwise_cons.mp hvalue
  constructor
  · intro hnew _
    have hreleased := (List.pairwise_cons.mp (List.pairwise_append.mp hnew).2.1).1
    exact owned_eq_nil_iff.mpr fun w hw =>
      Bool.eq_false_iff.mpr fun hpre => nomatch hreleased w hw hpre
  · intro hlast
    refine List.pairwise_append.mpr
      ⟨ha, List.pairwise_cons.mpr ⟨fun w hw hpre => ?_, hb⟩, fun u hu w hw hpre => ?_⟩
    · have howned := owned_eq_nil_iff.mp (hlast (hbehind w hw hpre)) w hw
      rw [howned] at hpre
      nomatch hpre
    · rcases List.mem_cons.mp hw with rfl | hw
      · nomatch hpre
      · exact hcross u hu w (List.mem_cons_of_mem _ hw) hpre

/-- What `RollbackPreImportHandle` does to a table. -/
theorem scanRelease_eq (handle : uint64_t) :
    scanRelease handle table =
      table.takeWhile (·.importResult.handle ≠ handle) ++
        match table.dropWhile (·.importResult.handle ≠ handle) with
        | [] => []
        | value :: rest => released value :: rest := by
  induction table with
  | nil => rfl
  | cons v t ih =>
    rw [scanRelease]
    split
    next h => simp [h]
    next h => simp [h, ih]

end Order

/-! ### Every table is well formed -/

section WellFormed

variable {table : List PreHandlerInfo}

theorem wellFormed_scanNeed (dcna : uint32_t) (h : WellFormed table) :
    WellFormed (scanNeed dcna table).2.2 := by
  induction table with
  | nil => exact h
  | cons v t ih =>
    obtain ⟨hv, ht⟩ := List.forall_mem_cons.mp h
    rw [scanNeed]
    split
    · exact h
    split
    · exact List.forall_mem_cons.mpr ⟨fun hpre => (nomatch hpre), ht⟩
    split
    · exact List.forall_mem_cons.mpr ⟨fun hpre => (nomatch hpre), ht⟩
    · exact List.forall_mem_cons.mpr ⟨hv, ih ht⟩

theorem wellFormed_scanFree (dcna : uint32_t) (h : WellFormed table) :
    WellFormed (scanFree dcna table).2 := by
  induction table with
  | nil => exact h
  | cons v t ih =>
    obtain ⟨hv, ht⟩ := List.forall_mem_cons.mp h
    rw [scanFree]
    split
    · exact List.forall_mem_cons.mpr ⟨fun hpre => (nomatch hpre), ht⟩
    · exact List.forall_mem_cons.mpr ⟨hv, ih ht⟩

theorem wellFormed_scanRelease (handle : uint64_t) (h : WellFormed table) :
    WellFormed (scanRelease handle table) := by
  induction table with
  | nil => exact h
  | cons v t ih =>
    obtain ⟨hv, ht⟩ := List.forall_mem_cons.mp h
    rw [scanRelease]
    split
    · exact List.forall_mem_cons.mpr ⟨fun _ => rfl, ht⟩
    · exact List.forall_mem_cons.mpr ⟨hv, ih ht⟩

theorem wellFormed_map_released : WellFormed (table.map released) := by
  intro v hv _
  obtain ⟨w, -, rfl⟩ := List.mem_map.mp hv
  rfl

/-- The handle of a value, with the pre-imported memory at its address. -/
def initialHandle (loc : DecoderEntryLoc) (value : UbseMamiMemHandleValue) :
    Option BasicPreImportInfo → PreHandlerInfo
  | none => entryBlock loc value
  | some preImportInfo => claimed preImportInfo.dcna (entryBlock loc value)

theorem lastInfo_snoc (infos : List BasicPreImportInfo) (info : BasicPreImportInfo)
    (value : UbseMamiMemHandleValue) :
    lastInfo (infos ++ [info]) value =
      if info.pa = value.hpa then some info else lastInfo infos value := by
  rw [lastInfo, List.filter_append]
  by_cases hpa : info.pa = value.hpa
  · simp [hpa]
  · simp [hpa, lastInfo]

theorem initDcna_initialHandle (loc : DecoderEntryLoc) (value : UbseMamiMemHandleValue)
    (info : BasicPreImportInfo) (o : Option BasicPreImportInfo) :
    initDcna info (initialHandle loc value o) =
      initialHandle loc value (if info.pa = value.hpa then some info else o) := by
  have hhpa : (initialHandle loc value o).importResult.hpa = value.hpa := by cases o <;> rfl
  rw [initDcna, hhpa]
  by_cases hpa : info.pa = value.hpa
  · rw [if_pos hpa.symm, if_pos hpa]
    cases o <;> rfl
  · rw [if_neg (Ne.symm hpa), if_neg hpa]

/-- The table that is set up, handle by handle. -/
theorem initTable_eq (infos : List BasicPreImportInfo) (loc : DecoderEntryLoc)
    (values : List UbseMamiMemHandleValue) :
    initTable infos loc values =
      values.map fun value => initialHandle loc value (lastInfo infos value) := by
  induction infos using List.reverseRecOn with
  | nil => rfl
  | append_singleton infos info ih =>
    rw [initTable] at ih ⊢
    rw [List.foldl_append, ih, List.foldl_cons, List.foldl_nil, List.map_map]
    refine List.map_congr_left fun value _ => ?_
    rw [Function.comp_apply, initDcna_initialHandle, lastInfo_snoc]

theorem isPreImport_initialHandle (loc : DecoderEntryLoc) (value : UbseMamiMemHandleValue)
    (o : Option BasicPreImportInfo) : (initialHandle loc value o).isPreImport = o.isSome := by
  cases o <;> rfl

theorem owned_initTable (infos : List BasicPreImportInfo) (loc : DecoderEntryLoc)
    (values : List UbseMamiMemHandleValue) :
    owned (initTable infos loc values) =
      (values.filter fun value => (lastInfo infos value).isSome).map fun value =>
        initialHandle loc value (lastInfo infos value) := by
  rw [initTable_eq, owned, List.filter_map]
  congr 2
  funext value
  exact isPreImport_initialHandle ..

theorem handles_owned_initTable (loc : DecoderEntryLoc) {infos : List BasicPreImportInfo}
    {values : List UbseMamiMemHandleValue} :
    handles (owned (initTable infos loc values)) = preImported infos values := by
  rw [owned_initTable, handles, List.map_map, preImported]
  refine List.map_congr_left fun value _ => ?_
  rw [Function.comp_apply]
  cases lastInfo infos value <;> rfl

theorem dcnas_owned_initTable {infos : List BasicPreImportInfo} {loc : DecoderEntryLoc}
    {values : List UbseMamiMemHandleValue} :
    dcnas (owned (initTable infos loc values)) =
      (values.filterMap (lastInfo infos)).map (·.dcna) := by
  rw [owned_initTable, dcnas, List.map_map]
  induction values with
  | nil => rfl
  | cons value values ih =>
    cases hinfo : lastInfo infos value with
    | none =>
      rw [List.filter_cons_of_neg (by simp [hinfo]), List.filterMap_cons_none hinfo, ih]
    | some info =>
      rw [List.filter_cons_of_pos (by simp [hinfo]), List.filterMap_cons_some hinfo,
        List.map_cons, List.map_cons, ih, Function.comp_apply, hinfo]
      rfl

theorem freeLast_initTable_iff {infos : List BasicPreImportInfo} {loc : DecoderEntryLoc}
    {values : List UbseMamiMemHandleValue} :
    FreeLast (initTable infos loc values) ↔
      values.Pairwise fun u v => (lastInfo infos v).isSome → (lastInfo infos u).isSome := by
  rw [initTable_eq, FreeLast, List.pairwise_map]
  simp only [isPreImport_initialHandle]

theorem wellFormed_initTable {infos : List BasicPreImportInfo} {loc : DecoderEntryLoc}
    {values : List UbseMamiMemHandleValue} : WellFormed (initTable infos loc values) := by
  rw [initTable_eq]
  intro v hv hpre
  obtain ⟨value, -, rfl⟩ := List.mem_map.mp hv
  cases hinfo : lastInfo infos value with
  | none => rfl
  | some info =>
    rw [hinfo] at hpre
    nomatch hpre

/-- **Every operation leaves every table well formed.** -/
theorem wellFormed_preHandleStep {m : PreHandleMap} (h : ∀ loc, WellFormed (m loc))
    (op : PreHandleOp) (loc : DecoderEntryLoc) : WellFormed (preHandleStep m op loc) := by
  have hupdate : ∀ loc' table, WellFormed table →
      WellFormed (Function.update m loc' table loc) := by
    intro loc' table htable
    rcases eq_or_ne loc loc' with rfl | hne
    · rwa [Function.update_self]
    · rw [Function.update_of_ne hne]
      exact h loc
  cases op with
  | initPreHandle allHandles infos =>
    cases allHandles with
    | none => exact fun _ hv => (nomatch hv)
    | some allHandles => exact wellFormed_initTable
  | isNeedPreOnline loc' dcna => exact hupdate _ _ (wellFormed_scanNeed dcna (h loc'))
  | createPreHandle loc' handleValue dcna =>
    refine hupdate _ _ fun v hv hpre => ?_
    rcases List.mem_append.mp hv with hv | hv
    · exact h loc' v hv hpre
    · rw [List.mem_singleton.mp hv] at hpre
      nomatch hpre
  | getOneUnPreImportHandle loc' dcna => exact hupdate _ _ (wellFormed_scanFree dcna (h loc'))
  | rollbackHandle loc' handles => exact h loc
  | rollbackPreImportHandles loc' => exact hupdate _ _ wellFormed_map_released
  | rollbackPreImportHandle loc' handle =>
    exact hupdate _ _ (wellFormed_scanRelease handle (h loc'))

end WellFormed

/-! ### One operation -/

section Step

variable {m : PreHandleMap} {loc : DecoderEntryLoc} {table : List PreHandlerInfo}
  {v : PreHandlerInfo}

theorem HandlesUnique.freeLast (h : HandlesUnique m) (hwf : ∀ loc, WellFormed (m loc))
    (loc : DecoderEntryLoc) : FreeLast (m loc) := ((unique_iff (hwf loc)).mp (h.inTable loc)).1

/-- Of two tables, one of which is new, the new one is the first. -/
theorem acrossTables_update_iff (h : HandlesUnique m) :
    (Pairwise fun loc₁ loc₂ => (handles (owned (Function.update m loc table loc₁))).Disjoint
        (handles (owned (Function.update m loc table loc₂)))) ↔
      ∀ loc', loc' ≠ loc →
        (handles (owned table)).Disjoint (handles (owned (m loc'))) := by
  constructor
  · intro hnew loc' hne
    have hdisj : (handles (owned (Function.update m loc table loc))).Disjoint
        (handles (owned (Function.update m loc table loc'))) := hnew hne.symm
    rwa [Function.update_self, Function.update_of_ne hne] at hdisj
  · intro hnew loc₁ loc₂ hne
    rcases eq_or_ne loc₁ loc with rfl | hne₁
    · rw [Function.update_self, Function.update_of_ne hne.symm]
      exact hnew loc₂ hne.symm
    · rw [Function.update_of_ne hne₁]
      rcases eq_or_ne loc₂ loc with rfl | hne₂
      · rw [Function.update_self]
        exact fun _ h₁ h₂ => hnew loc₁ hne₁ h₂ h₁
      · rw [Function.update_of_ne hne₂]
        exact h.acrossTables hne

/-- Replacing a table by one that is well formed. -/
theorem handlesUnique_update_iff (h : HandlesUnique m) (htable : WellFormed table) :
    HandlesUnique (Function.update m loc table) ↔
      (FreeLast table ∧ (dcnas (owned table)).Nodup ∧ (handles (owned table)).Nodup) ∧
        ∀ loc', loc' ≠ loc →
          (handles (owned table)).Disjoint (handles (owned (m loc'))) := by
  have hinTable : (∀ loc', Unique (Function.update m loc table loc')) ↔ Unique table := by
    rw [Function.forall_update_iff m fun _ table => Unique table]
    exact and_iff_left fun loc' _ => h.inTable loc'
  rw [← unique_iff htable, ← hinTable, ← acrossTables_update_iff h]
  exact ⟨fun hnew => ⟨hnew.inTable, hnew.acrossTables⟩, fun hnew => ⟨hnew.1, hnew.2⟩⟩

/-- **Handing out a handle**: it must be the last of the table that is pre-imported, and neither
the destination nor the handle may be there. -/
theorem handlesUnique_add_iff (h : HandlesUnique m) (htable : WellFormed table)
    (howned : owned table = owned (m loc) ++ [v]) :
    HandlesUnique (Function.update m loc table) ↔
      FreeLast table ∧ v.dcna ∉ dcnas (owned (m loc)) ∧ ¬Taken m v.importResult.handle := by
  have hdcnas : dcnas (owned table) = dcnas (owned (m loc)) ++ [v.dcna] := by
    rw [howned, dcnas, List.map_append]
    rfl
  have hhandles : handles (owned table) = handles (owned (m loc)) ++ [v.importResult.handle] := by
    rw [howned, handles, List.map_append]
    rfl
  rw [handlesUnique_update_iff h htable, hdcnas, hhandles]
  constructor
  · rintro ⟨⟨hlast, hnodup, hnodup'⟩, hdisj⟩
    refine ⟨hlast, fun hmem =>
      (List.nodup_append.mp hnodup).2.2 _ hmem _ (List.mem_singleton_self _) rfl, ?_⟩
    rintro ⟨loc', hmem⟩
    rcases eq_or_ne loc' loc with rfl | hne
    · exact (List.nodup_append.mp hnodup').2.2 _ hmem _ (List.mem_singleton_self _) rfl
    · exact hdisj loc' hne (List.mem_append_right _ (List.mem_singleton_self _)) hmem
  · rintro ⟨hlast, hdcna, hhandle⟩
    refine ⟨⟨hlast, ?_, ?_⟩, fun loc' hne => List.disjoint_append_left.mpr ⟨?_, ?_⟩⟩
    · exact (h.inTable loc).onePerDcna.append (List.nodup_singleton _) (by simpa using hdcna)
    · exact (h.inTable loc).oneOwner.append (List.nodup_singleton _)
        (by simpa using fun hmem => hhandle ⟨loc, hmem⟩)
    · exact h.acrossTables hne.symm
    · simpa using fun hmem => hhandle ⟨loc', hmem⟩

/-- **Giving handles back**: no free handle may come before one that is still pre-imported. -/
theorem handlesUnique_remove_iff (h : HandlesUnique m) (htable : WellFormed table)
    (howned : List.Sublist (owned table) (owned (m loc))) :
    HandlesUnique (Function.update m loc table) ↔ FreeLast table := by
  have hhandles : List.Sublist (handles (owned table)) (handles (owned (m loc))) :=
    howned.map _
  rw [handlesUnique_update_iff h htable]
  refine ⟨fun hnew => hnew.1.1, fun hlast => ⟨⟨hlast, ?_, ?_⟩, fun loc' hne => ?_⟩⟩
  · exact (h.inTable loc).onePerDcna.sublist (howned.map _)
  · exact (h.inTable loc).oneOwner.sublist hhandles
  · exact List.disjoint_of_subset_left hhandles.subset (h.acrossTables hne.symm)

/-- A destination without a handle is given the first free one. -/
theorem handlesUnique_claimFirst_iff (h : HandlesUnique m) (hwf : ∀ loc, WellFormed (m loc))
    {dcna : uint32_t} (htable : WellFormed (claimFirst dcna (m loc))) :
    HandlesUnique (Function.update m loc (claimFirst dcna (m loc))) ↔
      ∀ value ∈ (unowned (m loc)).head?,
        dcna ∉ dcnas (owned (m loc)) ∧ ¬Taken m value.importResult.handle := by
  cases hfree : (unowned (m loc)).head? with
  | none =>
    have hnil := List.head?_eq_none_iff.mp hfree
    have hsame : claimFirst dcna (m loc) = m loc := by
      conv_rhs => rw [(h.freeLast hwf loc).eq_append]
      rw [claimFirst, hnil]
      rfl
    rw [hsame, Function.update_eq_self]
    exact iff_of_true h fun _ hvalue => nomatch hvalue
  | some value =>
    have howned : owned (claimFirst dcna (m loc)) = owned (m loc) ++ [claimed dcna value] := by
      rw [owned_claimFirst, hfree]
      rfl
    rw [handlesUnique_add_iff h htable howned, and_iff_right freeLast_claimFirst]
    exact ⟨fun hnew _ hvalue => Option.some.inj hvalue ▸ hnew, fun hnew => hnew value rfl⟩

theorem handlesUnique_isNeedPreOnline_iff (h : HandlesUnique m)
    (hwf : ∀ loc, WellFormed (m loc)) (loc : DecoderEntryLoc) (dcna : uint32_t) :
    HandlesUnique (preHandleStep m (.isNeedPreOnline loc dcna)) ↔
      InOrder m (.isNeedPreOnline loc dcna) := by
  have htable := wellFormed_scanNeed dcna (hwf loc)
  rw [preHandleStep, InOrder]
  rw [scanNeed_of_freeLast (h.freeLast hwf loc) (hwf loc)] at htable ⊢
  by_cases hmem : dcna ∈ dcnas (owned (m loc))
  · rw [if_pos hmem, Function.update_eq_self]
    exact iff_of_true h fun hnot => absurd hmem hnot
  · rw [if_neg hmem] at htable ⊢
    rw [handlesUnique_claimFirst_iff h hwf htable]
    exact ⟨fun hnew _ value hvalue => (hnew value hvalue).2,
      fun hnew value hvalue => ⟨hmem, hnew hmem value hvalue⟩⟩

/-- A handle that is appended is behind the free ones. -/
theorem handlesUnique_createPreHandle_iff (h : HandlesUnique m)
    (hwf : ∀ loc, WellFormed (m loc)) (loc : DecoderEntryLoc)
    (handleValue : UbseMamiMemImportResult) (dcna : uint32_t) :
    HandlesUnique (preHandleStep m (.createPreHandle loc handleValue dcna)) ↔
      InOrder m (.createPreHandle loc handleValue dcna) := by
  have htable : WellFormed (m loc ++ [⟨dcna, handleValue, true⟩]) := by
    have hnew := wellFormed_preHandleStep hwf (.createPreHandle loc handleValue dcna) loc
    rwa [preHandleStep, Function.update_self] at hnew
  have hlast : FreeLast (m loc ++ [⟨dcna, handleValue, true⟩]) ↔ unowned (m loc) = [] := by
    rw [unowned_eq_nil_iff]
    constructor
    · exact fun hlast v hv =>
        (List.pairwise_append.mp hlast).2.2 v hv _ (List.mem_singleton_self _) rfl
    · intro hall
      have hpre : ∀ v ∈ m loc ++ [⟨dcna, handleValue, true⟩], v.isPreImport = true := by
        intro v hv
        rcases List.mem_append.mp hv with hv | hv
        · exact hall v hv
        · rw [List.mem_singleton.mp hv]
      rw [← List.append_nil (m loc ++ _)]
      exact freeLast_append hpre fun _ hv => nomatch hv
  rw [preHandleStep, handlesUnique_add_iff h htable owned_append, hlast]
  exact Iff.rfl

theorem handlesUnique_getOneUnPreImportHandle_iff (h : HandlesUnique m)
    (hwf : ∀ loc, WellFormed (m loc)) (loc : DecoderEntryLoc) (dcna : uint32_t) :
    HandlesUnique (preHandleStep m (.getOneUnPreImportHandle loc dcna)) ↔
      InOrder m (.getOneUnPreImportHandle loc dcna) := by
  have htable := wellFormed_scanFree dcna (hwf loc)
  rw [preHandleStep]
  rw [scanFree_of_freeLast (h.freeLast hwf loc) (hwf loc)] at htable ⊢
  exact handlesUnique_claimFirst_iff h hwf htable

theorem handlesUnique_rollbackPreImportHandles (h : HandlesUnique m) (loc : DecoderEntryLoc) :
    HandlesUnique (preHandleStep m (.rollbackPreImportHandles loc)) := by
  have hfree : ∀ v ∈ (m loc).map released, v.isPreImport = false := by
    intro v hv
    obtain ⟨w, -, rfl⟩ := List.mem_map.mp hv
    rfl
  rw [preHandleStep, handlesUnique_remove_iff h wellFormed_map_released]
  · exact freeLast_append (a := []) (fun _ hv => nomatch hv) hfree
  · rw [owned_eq_nil_iff.mpr hfree]
    exact List.nil_sublist _

/-- A handle that is given back is free where it is. -/
theorem handlesUnique_rollbackPreImportHandle_iff (h : HandlesUnique m)
    (hwf : ∀ loc, WellFormed (m loc)) (loc : DecoderEntryLoc) (handle : uint64_t) :
    HandlesUnique (preHandleStep m (.rollbackPreImportHandle loc handle)) ↔
      InOrder m (.rollbackPreImportHandle loc handle) := by
  have htable := wellFormed_scanRelease handle (hwf loc)
  have hlast := h.freeLast hwf loc
  have hsplit := List.takeWhile_append_dropWhile
    (p := fun v : PreHandlerInfo => v.importResult.handle ≠ handle) (l := m loc)
  rw [preHandleStep, InOrder]
  rw [scanRelease_eq] at htable ⊢
  cases hdrop : (m loc).dropWhile (fun v => v.importResult.handle ≠ handle) with
  | nil =>
    -- There is no such handle.
    rw [hdrop, List.append_nil] at hsplit
    rw [List.append_nil, hsplit, Function.update_eq_self]
    exact iff_of_true h fun _ _ hcons => nomatch hcons
  | cons value rest =>
    rw [hdrop] at hsplit htable
    have howned : List.Sublist (owned (List.takeWhile (fun v => v.importResult.handle ≠ handle)
        (m loc) ++ released value :: rest)) (owned (m loc)) := by
      conv_rhs => rw [← hsplit]
      rw [owned_append, owned_append]
      refine (List.Sublist.refl _).append ?_
      exact List.sublist_cons_of_sublist _ (List.Sublist.refl _) |>.filter _
    rw [← hsplit] at hlast
    rw [handlesUnique_remove_iff h htable howned, freeLast_released_iff hlast]
    constructor
    · rintro hnew _ _ ⟨⟩ hpre
      exact hnew hpre
    · exact fun hnew hpre => hnew value rest rfl hpre

/-- **Where the handles may start from.** -/
theorem handlesUnique_initPreHandle_iff
    (allHandles : Option (DecoderEntryLoc → List UbseMamiMemHandleValue))
    (preImportInfos : List BasicPreImportInfo) :
    HandlesUnique (preHandleStep m (.initPreHandle allHandles preImportInfos)) ↔
      InOrder m (.initPreHandle allHandles preImportInfos) := by
  cases allHandles with
  | none =>
    refine iff_of_true ⟨fun loc => ?_, fun _ _ _ _ hmem => nomatch hmem⟩ trivial
    exact ⟨List.nodup_nil, List.nodup_nil,
      fun _ => iff_of_false Bool.true_eq_false_eq_False List.not_mem_nil⟩
  | some allHandles =>
    have hinTable : ∀ loc, Unique (initTable preImportInfos loc (allHandles loc)) ↔
        InitInOrder preImportInfos (allHandles loc) := by
      intro loc
      rw [unique_iff wellFormed_initTable, freeLast_initTable_iff, dcnas_owned_initTable,
        handles_owned_initTable]
      exact ⟨fun h => ⟨h.1, h.2.1, h.2.2⟩, fun h => ⟨h.first, h.onePerDcna, h.oneOwner⟩⟩
    have hhandles : ∀ loc, handles (owned (initTable preImportInfos loc (allHandles loc))) =
        preImported preImportInfos (allHandles loc) := fun loc => handles_owned_initTable loc
    constructor
    · rintro ⟨h, hacross⟩
      refine ⟨fun loc => (hinTable loc).mp (h loc), ?_⟩
      simpa only [preHandleStep, hhandles] using hacross
    · rintro ⟨hinit, hacross⟩
      refine ⟨fun loc => (hinTable loc).mpr (hinit loc), ?_⟩
      simpa only [preHandleStep, hhandles] using hacross

/-- **From handles in order, the operations that keep them are those that are in order.** -/
theorem handlesUnique_step_iff (h : HandlesUnique m) (hwf : ∀ loc, WellFormed (m loc))
    (op : PreHandleOp) : HandlesUnique (preHandleStep m op) ↔ InOrder m op := by
  cases op with
  | initPreHandle allHandles preImportInfos =>
    exact handlesUnique_initPreHandle_iff allHandles preImportInfos
  | isNeedPreOnline loc dcna => exact handlesUnique_isNeedPreOnline_iff h hwf loc dcna
  | createPreHandle loc handleValue dcna =>
    exact handlesUnique_createPreHandle_iff h hwf loc handleValue dcna
  | getOneUnPreImportHandle loc dcna =>
    exact handlesUnique_getOneUnPreImportHandle_iff h hwf loc dcna
  | rollbackHandle loc handles => exact iff_of_true h trivial
  | rollbackPreImportHandles loc =>
    exact iff_of_true (handlesUnique_rollbackPreImportHandles h loc) trivial
  | rollbackPreImportHandle loc handle =>
    exact handlesUnique_rollbackPreImportHandle_iff h hwf loc handle

end Step

/-! ### Runs -/

/-- **Which operations leave the handles in order**: from the start on, those that do are those
that are in order. In particular a handle that is given back must be the last of its table, or
its neighbours behind it are no longer found. -/
theorem handles_unique_iff (ops : List PreHandleOp) :
    System.Keeps HandlesUnique (System.trace preHandleStep (fun _ => []) ops) ↔
      System.Guarded InOrder (System.trace preHandleStep (fun _ => []) ops) := by
  have hrun := System.run_trace (fun _ => []) preHandleStep (fun _ => []) ops
  have hwf : System.Keeps (fun m => ∀ loc, WellFormed (m loc))
      (System.trace preHandleStep (fun _ => []) ops) := by
    refine hrun.keeps_of_guarded (G := fun _ _ => True) ?_ (fun _ _ hv => nomatch hv)
      fun _ _ => trivial
    rintro m op _ hwf - rfl
    exact wellFormed_preHandleStep hwf op
  have hstart : HandlesUnique fun _ => [] :=
    (handlesUnique_initPreHandle_iff (m := fun _ => []) none []).mpr trivial
  have hexact := hrun.exact (I := fun m => (∀ loc, WellFormed (m loc)) ∧ HandlesUnique m)
    (G := InOrder) ?_ ⟨fun _ _ hv => (nomatch hv), hstart⟩
  · rw [← hexact, System.keeps_and]
    exact (and_iff_right hwf).symm
  · rintro m op _ ⟨hwf, h⟩ rfl
    exact (and_iff_right (wellFormed_preHandleStep hwf op)).trans
      (handlesUnique_step_iff h hwf op)

/-! ### A destination with two handles -/

/-- The first table of the first decoder has two handles, and the system has pre-imported the
memory of the second for the destination 5. -/
def initSecond : PreHandleOp :=
  .initPreHandle
    (some fun loc => if loc = {} then [⟨num 1, num 4096⟩, ⟨num 2, num 8192⟩] else [])
    [⟨num 8192, num 5⟩]

/-- **The destination is told that it needs a handle, and is given the first.** -/
theorem not_handles_unique :
    isNeedPreOnline (preHandleStep (fun _ => []) initSecond) {} (num 5) = true ∧
      dcnas (owned ([initSecond, .isNeedPreOnline {} (num 5)].foldl preHandleStep (fun _ => [])
        {})) = [num 5, num 5] ∧
      ¬System.Keeps HandlesUnique (System.trace preHandleStep (fun _ => [])
        [initSecond, .isNeedPreOnline {} (num 5)]) := by
  have htwo : dcnas (owned ([initSecond, .isNeedPreOnline {} (num 5)].foldl preHandleStep
      (fun _ => []) {})) = [num 5, num 5] := by decide +kernel
  refine ⟨by decide +kernel, htwo, fun h => ?_⟩
  have hnodup := ((h _ (.tail _ (.head _))).inTable {}).onePerDcna
  exact absurd (htwo ▸ hnodup) (by decide)

end PreOnline

end UbsEngine
