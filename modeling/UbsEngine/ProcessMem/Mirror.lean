import UbsEngine.Library.Grouping
import UbsEngine.Library.Run
import UbsEngine.ProcessMem.Borrow

/-!
# The ledger of migrations

Next to the slots the plugin keeps a ledger of what it has told the kernel: for each process one
row for a local and a remote numa. It is not asked for, it is a mirror. A declaration says
everything about a process, so that its rows are replaced by what was declared; a move between
remote numas takes bytes from one row and gives them to another.

The dispatch does not keep the mirror itself; each caller does, and one of them does not.
`UbsEngine.ProcessMem.ledger_mirrors` says what holds after every step of every run for the
others, and what a move does when the row that it takes from does not have as much.
-/

namespace UbsEngine

namespace ProcessMem

open Grouping

/-! ### Rows -/

/-- A local and a remote numa as 16 bits each. -/
def encodePairKey (srcNumaId destNumaId : Int) : BitVec 32 :=
  BitVec.ofInt 16 srcNumaId ++ BitVec.ofInt 16 destNumaId

/-- For each process its rows. -/
abbrev MigrateLedgerRows := Map Int (Map (BitVec 32) Nat)

/-- The rows of a process. -/
def rowsOf (rows : MigrateLedgerRows) (pid : Int) : Map (BitVec 32) Nat := (rows.lookup pid).getD ∅

/-- The total of a process. -/
def rowsTotal (rows : MigrateLedgerRows) (pid : Int) : Nat :=
  Map.total (fun _ bytes => bytes) (rowsOf rows pid)

/-- `rows_[pid][key] += bytes`. -/
def addRow (pid : Int) (key : BitVec 32) (bytes : Nat) (rows : MigrateLedgerRows) :
    MigrateLedgerRows :=
  rows.insert pid (addTo (rowsOf rows pid) key bytes)

/-- The source of a row; `0` stands for one that is not known. -/
def rowSrc (srcNumaId : Int) : Int := if 0 ≤ srcNumaId then srcNumaId else 0

/-- What groups say, entry by entry. -/
def declaredRows (groups : List MigrateOutGroup) : List (BitVec 32 × Nat) :=
  groups.flatMap fun group => (group.targets.filter fun target => target.2 ≠ 0).map fun target =>
    (encodePairKey (rowSrc group.srcNumaId) target.1, target.2)

def replacePidRows (pid : Int) (groups : List MigrateOutGroup) (rows : MigrateLedgerRows) :
    MigrateLedgerRows :=
  (declaredRows groups).foldl (fun rows row => addRow pid row.1 row.2 rows) (rows.erase pid)

/-- The source under which the row of a move is looked for: its own, or else `0`. -/
def moveSrc (inner : Map (BitVec 32) Nat) (srcNumaId oldDestNumaId : Int) : Int :=
  if inner.lookup (encodePairKey srcNumaId oldDestNumaId) = none ∧ srcNumaId ≠ 0 ∧
      (inner.lookup (encodePairKey 0 oldDestNumaId)).isSome then 0
  else srcNumaId

/-- Taking bytes from a row; one that does not have more goes. -/
def takeFrom (inner : Map (BitVec 32) Nat) (key : BitVec 32) (bytes : Nat) :
    Map (BitVec 32) Nat :=
  match inner.lookup key with
  | none => inner
  | some row => if row > bytes then inner.insert key (row - bytes) else inner.erase key

def moveRowBytes (pid srcNumaId oldDestNumaId newDestNumaId : Int) (bytes : Nat)
    (rows : MigrateLedgerRows) : MigrateLedgerRows :=
  if bytes = 0 ∨ oldDestNumaId = newDestNumaId then rows
  else
    let inner := rowsOf rows pid
    let src := moveSrc inner srcNumaId oldDestNumaId
    let rows := if pid ∈ rows then
        rows.insert pid (takeFrom inner (encodePairKey src oldDestNumaId) bytes)
      else rows
    addRow pid (encodePairKey src newDestNumaId) bytes rows

/-! ### Declarations -/

def REMOTE_NUMA_NUM : Nat := 18

/-- What is sent for a process: how many kilobytes are to be on each remote numa. -/
structure MigrateOutPayload where
  pid : Int
  /-- `-1` if the groups are not all of one source. -/
  srcNid : Int
  inner : List (Int × Nat)
  deriving DecidableEq, Repr

/-- The source that all groups have, if they have one. -/
def commonSrc : List MigrateOutGroup → Int
  | [] => -1
  | group :: groups => if groups.all fun g => g.srcNumaId = group.srcNumaId then group.srcNumaId else -1

/-- `MigrateOutToNumas`: what is sent, unless nothing is declared or too much. -/
def migrateOutPayload (pid : Int) (groups : List MigrateOutGroup) : Option MigrateOutPayload :=
  let destBytes := flattenGroupsToDestTotals groups
  if destBytes = [] ∨ REMOTE_NUMA_NUM < destBytes.length then none
  else some { pid, srcNid := commonSrc groups, inner := destBytes.map fun t => (t.1, t.2 / 1024) }

/-- The library may not be loaded. -/
def migrateOutToNumas (rmrsMigrateOut : Option (MigrateOutPayload → Int)) (pid : Int)
    (groups : List MigrateOutGroup) : Int :=
  match migrateOutPayload pid groups, rmrsMigrateOut with
  | some payload, some rmrsMigrateOut => rmrsMigrateOut payload
  | _, _ => -1

def updateMigrateLedgerMirror (pid : Int) (groups : List MigrateOutGroup)
    (rows : MigrateLedgerRows) : MigrateLedgerRows :=
  replacePidRows pid groups rows

def rmrsMigrateToNumas (rmrsMigrateOut : Option (MigrateOutPayload → Int)) (pid : Int)
    (groups : List MigrateOutGroup) (updateLedger : Bool) (rows : MigrateLedgerRows) :
    Int × MigrateLedgerRows :=
  let ret := migrateOutToNumas rmrsMigrateOut pid groups
  if ret ≠ 0 then (ret, rows)
  else (ret, if updateLedger then updateMigrateLedgerMirror pid groups rows else rows)

/-- The callers that declare, by their names. -/
inductive DeclarePath
  | commitBorrowAndMigrate
  | reuseIdleSlotCapacity
  | reconcileApplyChanges
  | correctSmapConfig
  /-- Clearing what the kernel has of a process without slots. -/
  | recoverSmapProcessConfig
  | returnDebtToLocal
  | doPidReturnOnce
  | rollbackReplacementDebt
  | rebalancePidRemote
  deriving DecidableEq, Repr

/-- A declaration and what its caller does next to it: the result of the dispatch, and the
ledger. -/
def declare (path : DeclarePath) (rmrsMigrateOut : Option (MigrateOutPayload → Int)) (pid : Int)
    (groups : List MigrateOutGroup) (rows : MigrateLedgerRows) : Int × MigrateLedgerRows :=
  match path with
  | .commitBorrowAndMigrate =>
    -- the mirror is kept after the slots have been committed
    let r := rmrsMigrateToNumas rmrsMigrateOut pid groups false rows
    if r.1 ≠ 0 then r else (r.1, updateMigrateLedgerMirror pid groups r.2)
  | .rebalancePidRemote => (migrateOutToNumas rmrsMigrateOut pid groups, rows)
  | _ => rmrsMigrateToNumas rmrsMigrateOut pid groups true rows

/-! ### Runs -/

/-- A step of the plugin that concerns the ledger. -/
inductive LedgerEvent
  /-- The plugin starts with the rows of the file. -/
  | init (rows : MigrateLedgerRows)
  | declare (path : DeclarePath) (rmrsMigrateOut : Option (MigrateOutPayload → Int)) (pid : Int)
    (groups : List MigrateOutGroup)
  /-- A debt has been moved to its replacement on another remote numa. -/
  | moved (pid srcNumaId oldRemoteNuma newRemoteNuma : Int) (migrateBytes : Nat)

def ledgerStep (rows : MigrateLedgerRows) : LedgerEvent → MigrateLedgerRows
  | .init rows => rows
  | .declare path rmrsMigrateOut pid groups =>
    (ProcessMem.declare path rmrsMigrateOut pid groups rows).2
  | .moved pid srcNumaId oldRemoteNuma newRemoteNuma migrateBytes =>
    moveRowBytes pid (rowSrc srcNumaId) oldRemoteNuma newRemoteNuma migrateBytes rows

/-- **The rows are exactly the positive entries of the groups.** -/
def Mirrors (inner : Map (BitVec 32) Nat) (groups : List MigrateOutGroup) : Prop :=
  ∀ key, inner.lookup key =
    if summed (declaredRows groups) key = 0 then none else some (summed (declaredRows groups) key)

/-- What the row has that a move takes from. -/
def movedFrom (rows : MigrateLedgerRows) (pid srcNumaId oldRemoteNuma : Int) : Nat :=
  let inner := rowsOf rows pid
  (inner.lookup (encodePairKey (moveSrc inner (rowSrc srcNumaId) oldRemoteNuma)
    oldRemoteNuma)).getD 0

/-- **What a step leaves in the ledger**: after a declaration that was accepted the rows of its
process mirror it, unless it is one of a rebalance; and a move adds what the row that it takes from
falls short of. -/
def StepMirrors (x : Transition MigrateLedgerRows LedgerEvent) : Prop :=
  match x.event with
  | .init _ => True
  | .declare path rmrsMigrateOut pid groups =>
    path ≠ .rebalancePidRemote → (declare path rmrsMigrateOut pid groups x.pre).1 = 0 →
      Mirrors (rowsOf x.post pid) groups
  | .moved pid srcNumaId oldRemoteNuma newRemoteNuma migrateBytes =>
    rowsTotal x.post pid = rowsTotal x.pre pid +
      if migrateBytes = 0 ∨ oldRemoteNuma = newRemoteNuma then 0
      else migrateBytes - movedFrom x.pre pid srcNumaId oldRemoteNuma

/-! ### The rows after a declaration -/

theorem rowsOf_insert (rows : MigrateLedgerRows) (pid pid' : Int) (inner : Map (BitVec 32) Nat) :
    rowsOf (rows.insert pid inner) pid' = if pid' = pid then inner else rowsOf rows pid' := by
  rw [rowsOf, Map.lookup_insert_ite]
  split
  next => rfl
  next => rfl

theorem rowsOf_foldl_addRow (l : List (BitVec 32 × Nat)) (pid : Int) (rows : MigrateLedgerRows) :
    rowsOf (l.foldl (fun rows row => addRow pid row.1 row.2 rows) rows) pid =
      l.foldl (fun inner row => addTo inner row.1 row.2) (rowsOf rows pid) := by
  induction l generalizing rows with
  | nil => rfl
  | cons row l ih =>
    rw [List.foldl_cons, ih, addRow, rowsOf_insert, if_pos rfl]
    rfl

theorem rowsOf_replacePidRows (pid : Int) (groups : List MigrateOutGroup)
    (rows : MigrateLedgerRows) :
    rowsOf (replacePidRows pid groups rows) pid = tally (declaredRows groups) := by
  rw [replacePidRows, rowsOf_foldl_addRow, rowsOf, Map.lookup_erase_ite, if_pos rfl]
  rfl

/-- The entries that are kept are positive. -/
theorem pos_of_mem_declaredRows {groups : List MigrateOutGroup} {row : BitVec 32 × Nat}
    (h : row ∈ declaredRows groups) : 0 < row.2 := by
  obtain ⟨group, -, hrow⟩ := List.mem_flatMap.1 h
  obtain ⟨target, htarget, rfl⟩ := List.mem_map.1 hrow
  exact Nat.pos_of_ne_zero (of_decide_eq_true (List.mem_filter.1 htarget).2)

theorem mirrors_tally (groups : List MigrateOutGroup) :
    Mirrors (tally (declaredRows groups)) groups := by
  intro key
  have hlookup := lookup_tally (declaredRows groups) key
  cases hkey : (tally (declaredRows groups)).lookup key with
  | none =>
    rw [hkey] at hlookup
    exact (if_pos hlookup.symm).symm
  | some bytes =>
    -- an entry with the key contributes something
    have hmem := (isSome_lookup_tally (declaredRows groups) key).1 (by rw [hkey]; rfl)
    obtain ⟨row, hrow, rfl⟩ := List.mem_map.1 hmem
    have hpos := (pos_of_mem_declaredRows hrow).trans_le (le_summed hrow)
    rw [hkey, Option.getD_some] at hlookup
    rw [if_neg hpos.ne', ← hlookup]

/-- **Whoever keeps the mirror keeps it after every declaration that is accepted.** -/
theorem mirrors_declare {path : DeclarePath} (hpath : path ≠ .rebalancePidRemote)
    {rmrsMigrateOut : Option (MigrateOutPayload → Int)} {pid : Int}
    {groups : List MigrateOutGroup} {rows : MigrateLedgerRows}
    (h : (declare path rmrsMigrateOut pid groups rows).1 = 0) :
    Mirrors (rowsOf (declare path rmrsMigrateOut pid groups rows).2 pid) groups := by
  have hupdated : (declare path rmrsMigrateOut pid groups rows).2 =
      replacePidRows pid groups rows := by
    by_cases hret : migrateOutToNumas rmrsMigrateOut pid groups = 0
    · cases path with
      | rebalancePidRemote => exact absurd rfl hpath
      | commitBorrowAndMigrate =>
        simp only [declare, rmrsMigrateToNumas, hret, ne_eq, not_true, if_false]
        rfl
      | _ =>
        simp only [declare, rmrsMigrateToNumas, hret, ne_eq, not_true, if_false]
        rfl
    · refine absurd h ?_
      cases path with
      | rebalancePidRemote => exact absurd rfl hpath
      | commitBorrowAndMigrate =>
        simp only [declare, rmrsMigrateToNumas, ne_eq, hret, not_false_eq_true, if_true]
      | _ => simp only [declare, rmrsMigrateToNumas, ne_eq, hret, not_false_eq_true, if_true]
  rw [hupdated, rowsOf_replacePidRows]
  exact mirrors_tally groups

/-! ### The rows after a move -/

/-- What is taken from a row is what it has, or as much as is moved. -/
theorem total_takeFrom (inner : Map (BitVec 32) Nat) (key : BitVec 32) (bytes : Nat) :
    Map.total (fun _ n => n) (takeFrom inner key bytes) + min ((inner.lookup key).getD 0) bytes =
      Map.total (fun _ n => n) inner := by
  rw [takeFrom]
  cases hkey : inner.lookup key with
  | none => exact congrArg _ (Nat.zero_min bytes)
  | some row =>
    dsimp only
    rw [Option.getD_some]
    split
    next hmore =>
      have := Map.total_insert_of_some (fun _ n => n) (row - bytes) hkey
      omega
    next hless =>
      rw [Nat.min_eq_left (Nat.le_of_not_lt hless)]
      exact Map.total_erase (fun _ n => n) hkey

/-- **A move adds what the row falls short of.** -/
theorem rowsTotal_moveRowBytes (pid srcNumaId oldDestNumaId newDestNumaId : Int) (bytes : Nat)
    (rows : MigrateLedgerRows) :
    rowsTotal (moveRowBytes pid (rowSrc srcNumaId) oldDestNumaId newDestNumaId bytes rows) pid =
      rowsTotal rows pid + if bytes = 0 ∨ oldDestNumaId = newDestNumaId then 0
        else bytes - movedFrom rows pid srcNumaId oldDestNumaId := by
  rw [moveRowBytes]
  split
  next => rfl
  next =>
    have htotal := total_takeFrom (rowsOf rows pid) (encodePairKey
      (moveSrc (rowsOf rows pid) (rowSrc srcNumaId) oldDestNumaId) oldDestNumaId) bytes
    dsimp only
    rw [rowsTotal, addRow, rowsOf_insert, if_pos rfl, total_addTo, movedFrom, rowsTotal]
    by_cases hpid : pid ∈ rows
    · rw [if_pos hpid, rowsOf_insert, if_pos rfl]
      omega
    · -- a process without rows has none to take from
      have hnone : rowsOf rows pid = ∅ := by
        rw [rowsOf, AList.lookup_eq_none.2 hpid]
        rfl
      rw [if_neg hpid, hnone]
      rfl

/-! ### Runs -/

/-- **In every run of the plugin the ledger mirrors what is declared, except by a rebalance, and a
move changes the total of its process by what the row that it takes from falls short of.** -/
theorem ledger_mirrors (rows : MigrateLedgerRows) (events : List LedgerEvent) :
    ∀ x ∈ System.trace ledgerStep rows events, StepMirrors x := by
  intro x hx
  have hpost := System.post_of_mem_trace hx
  obtain ⟨pre, event, post⟩ := x
  obtain rfl : ledgerStep pre event = post := hpost
  cases event with
  | init rows => trivial
  | declare path rmrsMigrateOut pid groups =>
    intro hpath haccepted
    exact mirrors_declare hpath haccepted
  | moved pid srcNumaId oldRemoteNuma newRemoteNuma migrateBytes =>
    exact rowsTotal_moveRowBytes pid srcNumaId oldRemoteNuma newRemoteNuma migrateBytes pre

/-- A declaration of one page, and then a move of it. -/
theorem ledger_mirrors_oneMove :
    StepMirrors
      ⟨ledgerStep ∅ (.declare .commitBorrowAndMigrate (some fun _ => 0) 7 [⟨0, [(4, 4096)]⟩]),
        .moved 7 0 4 5 4096,
        ledgerStep
          (ledgerStep ∅ (.declare .commitBorrowAndMigrate (some fun _ => 0) 7 [⟨0, [(4, 4096)]⟩]))
          (.moved 7 0 4 5 4096)⟩ :=
  ledger_mirrors ∅ [_, .moved 7 0 4 5 4096] _ (List.mem_cons_of_mem _ List.mem_cons_self)

/-- A row of one page from which two pages are moved. -/
theorem not_ledger_mirrors :
    ¬ ∀ (rows : MigrateLedgerRows) (events : List LedgerEvent),
      ∀ x ∈ System.trace ledgerStep rows events,
        match x.event with
        | .init _ => True
        | .declare path rmrsMigrateOut pid groups =>
          (declare path rmrsMigrateOut pid groups x.pre).1 = 0 →
            Mirrors (rowsOf x.post pid) groups
        | .moved pid _ _ _ _ => rowsTotal x.post pid = rowsTotal x.pre pid := by
  intro h
  have h := h ∅ [.declare .commitBorrowAndMigrate (some fun _ => 0) 7 [⟨0, [(4, 4096)]⟩],
    .moved 7 0 4 5 8192] _ (List.mem_cons_of_mem _ List.mem_cons_self)
  revert h
  decide +kernel

end ProcessMem

end UbsEngine
