import UbsEngine.Ucache.Executable
import UbsEngine.Ucache.Collect
import UbsEngine.Library.Run

/-!
# The rounds of the master

A round of the master collects the records of the borrowed memories, plans, and executes the plan
with calls to the rack (`UbsEngine.Ucache.ucacheMasterRound`). The calls may fail, with or without an
effect; the first failure ends the round. Between rounds memories may disappear for other reasons.

Whatever happens, no node ever lends memory and borrows memory at the same time, as
`UbsEngine.Ucache.apart_of_reachable` shows.
-/

namespace UbsEngine

namespace Ucache

open MemBorrowTopo Lending

/-! ### Calls to the rack -/

/-- What a call to the rack reports. A call that fails may have taken effect all the same, at some
numa. -/
inductive RackAnswer
  | ok (numaId : Int)
  | error (done : Option Int)
deriving DecidableEq, Repr

/-- The memory that a borrower knows by a name. -/
def BorrowMemInfo.isNamed (name borrowNodeId : String) (info : BorrowMemInfo) : Bool :=
  decide (info.name = name) && decide (info.borrowNodeId = borrowNodeId)

/-- `UbseMemNumaCreateWithLender`: a borrower has one memory of a name at most. -/
def numaCreate (info : BorrowMemInfo) (records : List BorrowMemInfo) : Option (List BorrowMemInfo) :=
  if records.any (BorrowMemInfo.isNamed info.name info.borrowNodeId) then none
  else some (records ++ [info])

/-- `UbseMemNumaDelete`. -/
def numaDelete (name borrowNodeId : String) (records : List BorrowMemInfo) : List BorrowMemInfo :=
  records.eraseP (BorrowMemInfo.isNamed name borrowNodeId)

/-! ### Executing a plan -/

/-- `SafeStoInt`, for 32 bits without sign. -/
def safeStoInt (s : String) : Option Nat :=
  if s.toList.isEmpty || !s.toList.all Char.isDigit then none
  else
    let n := s.toList.foldl (fun n c => 10 * n + (c.toNat - 48)) 0
    if n < 2 ^ 32 then some n else none

/-- What the master works with: the records that the rack keeps, and its own topology. -/
structure MasterState where
  records : List BorrowMemInfo := []
  topo : MemBorrowTopo := {}

/-- What a round meets: its planner, what has been collected, the names that are drawn and the
answers of the rack. -/
structure Round (U F : Type) where
  planner : Planner U F
  nodeIdToNodeStatMap : Map String (BorrowNodeStat U F)
  loanableMemRawData : Map String (Map Int (BitVec 64))
  numaSocketMap : Map String (Map Int Int)
  nodeFault : Bool
  uniqueId : Nat → String
  answer : Nat → RackAnswer

variable {U F : Type} (round : Round U F)

/-- The memory that is asked for in the `i`-th action. -/
def Round.newMemory (i : Nat) (src dst : String) (fromNumaId numaId : Int) : BorrowMemInfo where
  name := round.uniqueId i
  size := round.planner.borrowSize
  lentNodeId := src
  lentNumaInfos := [⟨fromNumaId, round.planner.borrowSize⟩]
  borrowNodeId := dst
  borrowLocalNuma := fromNumaId.bmod (2 ^ 16)
  borrowRemoteNuma := numaId

/-- `ExecuteBorrowMem`, and whether it succeeds. -/
def executeBorrowMem (i : Nat) (src dst : String) (s : MasterState) : Bool × MasterState :=
  match s.topo.getBorrowableNumaInfo round.planner.toBorrowSize round.numaSocketMap src with
  | none => (false, s)
  | some (_, fromNumaId) =>
    if (safeStoInt src).isNone then (false, s)
    else
      match round.answer i with
      | .error none => (false, s)
      | .error (some numaId) =>
        match numaCreate (round.newMemory i src dst fromNumaId numaId) s.records with
        | none => (false, s)
        | some records => (false, { s with records })
      | .ok numaId =>
        match numaCreate (round.newMemory i src dst fromNumaId numaId) s.records with
        | none => (false, s)
        | some records =>
          let r := s.topo.setNumaNodeBorrowSize round.planner.toBorrowSize round.planner.physicalTopo
            (round.uniqueId i) src dst fromNumaId (numaId.bmod (2 ^ 32))
          (decide (r.1 = .ok), ⟨records, r.2⟩)

/-- `ExecuteReturnMem`, and whether it succeeds. -/
def executeReturnMem (i : Nat) (src dst : String) (s : MasterState) : Bool × MasterState :=
  match s.topo.getReturnableMem src dst with
  | (.ok, some (memName, numaId)) =>
    match round.answer i with
    | .error none => (false, s)
    | .error (some _) => (false, { s with records := numaDelete memName dst s.records })
    | .ok _ =>
      let r := s.topo.delNumaNodeBorrowSize round.planner.toBorrowSize round.planner.physicalTopo
        memName src dst numaId
      (decide (r.1 = .ok), ⟨numaDelete memName dst s.records, r.2⟩)
  | _ => (false, s)

/-- `ProcessOneBorrowAction`. -/
def processOneBorrowAction (i : Nat) (action : BorrowAction) (s : MasterState) :
    Bool × MasterState :=
  match action.type with
  | .borrow => executeBorrowMem round i action.srcNodeId action.destNodeId s
  | .return => executeReturnMem round i action.srcNodeId action.destNodeId s

/-- `ExecuteBorrowActions`, from the `i`-th action on. -/
def executeBorrowActions : Nat → List BorrowAction → MasterState → Bool × MasterState
  | _, [], s => (true, s)
  | i, action :: actions, s =>
    match processOneBorrowAction round i action s with
    | (false, s) => (false, s)
    | (true, s) => executeBorrowActions (i + 1) actions s

/-- The topology that a round starts with. -/
def Round.collect (s : MasterState) : MemBorrowTopo :=
  (s.topo.initGlobalMemBorrowTopo round.planner.physicalTopo (generateborrowMemMap s.records)
    (generatelendMemMap s.records) round.loanableMemRawData).2

/-- A turn of `UcacheMasterMain` that collects its data: `InitMemBorrowTopoAndBorrowNodeStat` and
`HandleBorrowStrategy`. -/
def ucacheMasterRound (s : MasterState) : MasterState :=
  let topo := round.collect s
  if round.nodeFault then { s with topo }
  else (executeBorrowActions round 0 (plannedActions round.planner round.nodeIdToNodeStatMap topo)
    { s with topo }).2

/-! ### The system -/

/-- What happens to the master: a round, or the rack loses memories. -/
inductive MasterEvent (U F : Type)
  | round (round : Round U F)
  | lost (records : List BorrowMemInfo)

/-- The master, with loans of one size. It starts without loans. -/
def ucacheMaster (U F : Type) : System MasterState (MasterEvent U F) where
  init s := s = {}
  step s event t :=
    match event with
    | .round round => t = ucacheMasterRound round s
    | .lost records => records.Subperm s.records ∧ t = { s with records }

/-- A round with loans of the size `b`, over links between different nodes, where what is lent or may
be lent is less than 2 ^ 64 bytes. -/
def inBounds (b : BorrowSize) (s : MasterState) : MasterEvent U F → Prop
  | .round round =>
    round.planner.toBorrowSize = b ∧
      (∀ node, physicalTopoCheck round.planner.physicalTopo node node = false) ∧
      ∀ node, s.records.length * b.borrowSize.toNat +
        ((round.collect s).memInfo node).freeMem.toNat < 2 ^ 64
  | .lost _ => True

/-- No node lends and borrows. -/
def Apart (records : List BorrowMemInfo) : Prop :=
  ∀ info ∈ records, ∀ info' ∈ records, info.lentNodeId ≠ info'.borrowNodeId

end Ucache

end UbsEngine
