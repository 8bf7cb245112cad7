import UbsEngine.ProcessMem.Borrow

/-!
# The managed processes

The cache of managed processes has an entry for each of them, with its configuration, what has
been seen of it, and what it has borrowed. Everything that is done to an entry is done under the
lock of the cache, so that a change of an entry (`UbsEngine.ProcessMem.ManagedPidCache.change`)
is a step of its own.
-/

namespace UbsEngine

namespace ProcessMem

inductive NumaBindingKind
  | NONE | BIND | INTERLEAVE | PREFER | MIXED
  deriving DecidableEq, Repr

structure NumaBindingInfo where
  kind : NumaBindingKind := .NONE
  policyNodes : List Nat := []
  deriving DecidableEq, Repr

/-- `ManagedPidEntry`. The ratio is a number without rounding. -/
structure ManagedPidEntry extends PidBorrow where
  pid : Int := 0
  parentPid : Int := 0
  isChild : Bool := false
  /-- Bit 0: the configuration of the pid, bit 1: that of a name. -/
  sources : BitVec 8 := 0
  nameConfigName : String := ""
  maxMemory : Nat := 0
  remoteRatio : Rat := 0
  vmRss : Nat := 0
  numaBinding : Option NumaBindingInfo := none
  /-- In milliseconds; `0` if there has been no migration. -/
  lastMigrateTime : Nat := 0

/-- A product with a ratio, cut to a whole number of bytes. -/
def scaled (bytes : Nat) (ratio : Rat) : Nat := (bytes * ratio).floor.toNat

/-- How much of a process is to be remote. -/
def ManagedPidEntry.targetRemote (e : ManagedPidEntry) : Nat := scaled e.vmRss e.remoteRatio

abbrev ManagedPidCache := Map Int ManagedPidEntry

namespace ManagedPidCache

variable (cache : ManagedPidCache)

/-- What a process has borrowed is changed, if there is an entry for it. -/
def change (pid : Int) (f : PidBorrow → PidBorrow) : ManagedPidCache :=
  Map.modify cache pid fun e => { e with toPidBorrow := f e.toPidBorrow }

/-- What a process has borrowed; nothing, if there is no entry for it. -/
def borrowOf (pid : Int) : PidBorrow := ((cache.lookup pid).map (·.toPidBorrow)).getD {}

theorem lookup_change (pid pid' : Int) (f : PidBorrow → PidBorrow) :
    (cache.change pid f).lookup pid' =
      if pid' = pid then
        (cache.lookup pid').map fun e => { e with toPidBorrow := f e.toPidBorrow }
      else cache.lookup pid' := by
  rw [change, Map.lookup_modify]

theorem lookup_change_ne {pid pid' : Int} (h : pid' ≠ pid) (f : PidBorrow → PidBorrow) :
    (cache.change pid f).lookup pid' = cache.lookup pid' := by
  rw [lookup_change, if_neg h]

end ManagedPidCache

end ProcessMem

end UbsEngine
