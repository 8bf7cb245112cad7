import Mathlib.Algebra.Order.BigOperators.Group.List
import Mathlib.Algebra.Order.Group.Nat
import UbsEngine.Library.Run
import UbsEngine.Scheduler.Charge

/-!
# The counters of the exports

The scheduler decides by counters and not by accounts, so the counters have to say what the
accounts say: what a numa lends and shares is what the accounts export from it, and what a
socket has exported is their blocks. `UbsEngine.Scheduler.CountersConserved` states that in
terms of the accounts alone.

Recording a state of an object keeps it, whatever the object and whatever its state. Only one
thing breaks it: a node that is built anew has counters at zero, and the accounts that export
from it are still there. `UbsEngine.Scheduler.keeps_countersConserved_iff` says that this is
the only way, over whole runs.
-/

namespace UbsEngine

namespace Scheduler

/-! ### What the accounts export -/

namespace SchedulerAccountInfo

variable (account : SchedulerAccountInfo)

/-- The block of the account, in bytes. -/
def blockBytes : Nat := oneM * account.blockSize.toNat

theorem blockBytes_pos : 0 < account.blockBytes := by
  have h := account.blockSize_ne
  have : 0 < account.blockSize.toNat := by
    rw [Nat.pos_iff_ne_zero]
    exact fun h0 => h (UInt32.toNat_inj.1 h0)
  exact Nat.mul_pos (by decide) this

/-- What the account exports from a numa. -/
def exportedOn (nodeId : NodeId) (numaId : NumaId) : Nat :=
  (account.exportNumaLocs.map fun info =>
    if info.nodeId = nodeId ∧ info.numa = numaId then info.size else 0).sum

/-- How many blocks the account exports through a socket, each location rounded up. -/
def exportedBlocksOn (nodeId : NodeId) (socketId : SocketId) : Nat :=
  (account.exportNumaLocs.map fun info =>
    if info.nodeId = nodeId ∧ info.socket = socketId then
      (info.size + account.blockBytes - 1) / account.blockBytes else 0).sum

end SchedulerAccountInfo

namespace SchedulerAccountManager

variable (accounts : SchedulerAccountManager)

/-- A sum over all accounts. -/
def sumOver (w : SchedulerAccountInfo → Nat) : Nat :=
  Map.total (fun _ account => w account) accounts.borrowAccount +
    Map.total (fun _ account => w account) accounts.shareAccount

/-- An account that is filed. -/
def Holds (account : SchedulerAccountInfo) : Prop :=
  ∃ id, accounts.borrowAccount.lookup id = some account ∨
    accounts.shareAccount.lookup id = some account

theorem sumOver_congr {w w' : SchedulerAccountInfo → Nat}
    (h : ∀ account, accounts.Holds account → w account = w' account) :
    accounts.sumOver w = accounts.sumOver w' := by
  unfold sumOver Map.total
  congr 2
  · refine List.map_congr_left fun e he => h _ ⟨e.1, Or.inl ?_⟩
    exact Map.mem_entries_iff.1 he
  · refine List.map_congr_left fun e he => h _ ⟨e.1, Or.inr ?_⟩
    exact Map.mem_entries_iff.1 he

theorem sumOver_le {w w' : SchedulerAccountInfo → Nat} (h : ∀ account, w account ≤ w' account) :
    accounts.sumOver w ≤ accounts.sumOver w' :=
  Nat.add_le_add (Map.total_le fun _ account => h account) (Map.total_le fun _ account => h account)

theorem le_sumOver (w : SchedulerAccountInfo → Nat) {account : SchedulerAccountInfo}
    (h : accounts.Holds account) : w account ≤ accounts.sumOver w := by
  obtain ⟨id, hid | hid⟩ := h
  · exact (Map.le_total (fun _ account => w account) hid).trans (Nat.le_add_right _ _)
  · exact (Map.le_total (fun _ account => w account) hid).trans (Nat.le_add_left _ _)

theorem sumOver_eq_zero_iff {w : SchedulerAccountInfo → Nat} :
    accounts.sumOver w = 0 ↔ ∀ account, accounts.Holds account → w account = 0 := by
  rw [sumOver, Nat.add_eq_zero_iff, Map.total_eq_zero_iff, Map.total_eq_zero_iff]
  constructor
  · rintro ⟨hb, hs⟩ account ⟨id, h | h⟩
    · exact hb id account h
    · exact hs id account h
  · exact fun h => ⟨fun id account hid => h account ⟨id, Or.inl hid⟩,
      fun id account hid => h account ⟨id, Or.inr hid⟩⟩

theorem total_eq_sumOver (m : Meter) :
    accounts.total m = accounts.sumOver fun account => account.charge m := rfl

end SchedulerAccountManager

/-- **The counters are conserved**: what a numa lends is what the accounts of borrowed memory
whose export is there export from it, what it shares is the same for the accounts of shared
memory, and what a socket has exported is the blocks of both. -/
def CountersConserved (s : SchedulerImpl) : Prop :=
  (∀ nodeId numaId numa, s.nodeInfo.getNumaInfo nodeId numaId = some numa →
      numa.memLent = s.account.sumOver (fun account =>
          if account.state.HasExport ∧ account.type ≠ .shm then account.exportedOn nodeId numaId
          else 0) ∧
        numa.memShared = s.account.sumOver fun account =>
          if account.state.HasExport ∧ account.type = .shm then account.exportedOn nodeId numaId
          else 0) ∧
    ∀ nodeId socketId socket, s.nodeInfo.getSocketInfo nodeId socketId = some socket →
      socket.lentCount = s.account.sumOver fun account =>
        if account.state.HasExport then account.exportedBlocksOn nodeId socketId else 0

/-- The counters that follow the exports. -/
def OfExports (m : Meter) : Prop := ∀ socketId, m.meter ≠ .borrow socketId

/-- Rounding a size up to blocks does not overflow either. -/
def SizesFit (s : SchedulerImpl) : Prop :=
  ∀ account, s.account.Holds account → ∀ info ∈ account.exportNumaLocs,
    info.size + account.blockBytes - 1 < 2 ^ 64

/-- All sums the counters are made of are below `2 ^ 64`. -/
def SumsFit (s : SchedulerImpl) : Prop := TotalsFit OfExports s ∧ SizesFit s

/-! ### The claim in terms of the charges -/

theorem sum_map_eq_zero_iff {α : Type*} {f : α → Nat} {l : List α} :
    (l.map f).sum = 0 ↔ ∀ x ∈ l, f x = 0 := by
  simp [List.sum_eq_zero_iff_forall_eq_nat]

namespace SchedulerAccountInfo

variable (account : SchedulerAccountInfo)

/-- The import side charges no counter that follows the exports. -/
theorem importCharge_of_export {m : Meter} (hm : OfExports m) : account.importCharge m = 0 := by
  refine sum_map_eq_zero_iff.2 fun info _ => ?_
  obtain ⟨nodeId, m⟩ := m
  cases m with
  | borrow socketId => exact absurd rfl (hm socketId)
  | _ => rfl

theorem charge_of_export {m : Meter} (hm : OfExports m) :
    account.charge m = if account.state.HasExport then account.exportCharge m else 0 := by
  simp [charge, chargeIn, account.importCharge_of_export hm]

theorem blocks_eq {size : Nat} (h : size + account.blockBytes - 1 < 2 ^ 64) :
    account.blocks size = (size + account.blockBytes - 1) / account.blockBytes := by
  rw [← Nat.mod_eq_of_lt h]
  rfl

/-- A location charges no more than its size. -/
theorem charge_le {m : Meter} (hm : OfExports m) :
    account.charge m ≤
      (account.exportNumaLocs.map fun info => info.size + account.blockBytes).sum := by
  rw [account.charge_of_export hm]
  refine le_trans (b := account.exportCharge m) (by split <;> simp) ?_
  refine List.sum_le_sum fun info _ => ?_
  have hblocks : account.blocks info.size ≤ info.size + account.blockBytes :=
    (Nat.div_le_self _ _).trans ((Nat.mod_le _ _).trans (Nat.sub_le _ _))
  unfold exportLocCharge
  split <;> try split
  all_goals omega

theorem exportCharge_lent (nodeId : NodeId) (numaId : NumaId) :
    account.exportCharge ⟨nodeId, .lent numaId⟩ =
      if account.type ≠ .shm then account.exportedOn nodeId numaId else 0 := by
  unfold exportCharge exportedOn exportLocCharge
  by_cases ht : account.type = .shm
  · simp [ht]
  · simp [ht]

theorem exportCharge_shared (nodeId : NodeId) (numaId : NumaId) :
    account.exportCharge ⟨nodeId, .shared numaId⟩ =
      if account.type = .shm then account.exportedOn nodeId numaId else 0 := by
  unfold exportCharge exportedOn exportLocCharge
  by_cases ht : account.type = .shm
  · simp [ht]
  · simp [ht]

end SchedulerAccountInfo

section Charges

variable {accounts : SchedulerAccountManager}

theorem total_lent (nodeId : NodeId) (numaId : NumaId) :
    accounts.total ⟨nodeId, .lent numaId⟩ = accounts.sumOver fun account =>
      if account.state.HasExport ∧ account.type ≠ .shm then account.exportedOn nodeId numaId
      else 0 := by
  refine accounts.sumOver_congr fun account _ => ?_
  rw [account.charge_of_export fun _ => by simp, account.exportCharge_lent, ite_and]

theorem total_shared (nodeId : NodeId) (numaId : NumaId) :
    accounts.total ⟨nodeId, .shared numaId⟩ = accounts.sumOver fun account =>
      if account.state.HasExport ∧ account.type = .shm then account.exportedOn nodeId numaId
      else 0 := by
  refine accounts.sumOver_congr fun account _ => ?_
  rw [account.charge_of_export fun _ => by simp, account.exportCharge_shared, ite_and]

theorem total_lentCount {s : SchedulerImpl} (hs : SizesFit s) (nodeId : NodeId)
    (socketId : SocketId) :
    s.account.total ⟨nodeId, .lentCount socketId⟩ = s.account.sumOver fun account =>
      if account.state.HasExport then account.exportedBlocksOn nodeId socketId else 0 := by
  refine s.account.sumOver_congr fun account haccount => ?_
  have hE : account.exportCharge ⟨nodeId, .lentCount socketId⟩ =
      account.exportedBlocksOn nodeId socketId := by
    unfold SchedulerAccountInfo.exportCharge SchedulerAccountInfo.exportedBlocksOn
    congr 1
    refine List.map_congr_left fun info hinfo => ?_
    simp only [SchedulerAccountInfo.exportLocCharge]
    rw [account.blocks_eq (hs account haccount info hinfo)]
  rw [account.charge_of_export fun _ => by simp, hE]

end Charges

theorem countersConserved_iff_balanced {s : SchedulerImpl} (hs : SizesFit s) :
    CountersConserved s ↔ Balanced OfExports s := by
  constructor
  · rintro ⟨hnuma, hsocket⟩ ⟨nodeId, m⟩ hm v hv
    cases m with
    | lent numaId =>
      rw [total_lent]
      obtain ⟨node, hnode, hread⟩ := Option.bind_eq_some_iff.1 hv
      obtain ⟨numa, hfind, rfl⟩ := Option.map_eq_some_iff.1 hread
      exact (hnuma nodeId numaId numa (Option.bind_eq_some_iff.2 ⟨node, hnode, hfind⟩)).1
    | shared numaId =>
      rw [total_shared]
      obtain ⟨node, hnode, hread⟩ := Option.bind_eq_some_iff.1 hv
      obtain ⟨numa, hfind, rfl⟩ := Option.map_eq_some_iff.1 hread
      exact (hnuma nodeId numaId numa (Option.bind_eq_some_iff.2 ⟨node, hnode, hfind⟩)).2
    | lentCount socketId =>
      rw [total_lentCount hs]
      obtain ⟨node, hnode, hread⟩ := Option.bind_eq_some_iff.1 hv
      obtain ⟨socket, hfind, rfl⟩ := Option.map_eq_some_iff.1 hread
      exact hsocket nodeId socketId socket (Option.bind_eq_some_iff.2 ⟨node, hnode, hfind⟩)
    | borrow socketId => exact absurd rfl (hm socketId)
  · intro h
    refine ⟨fun nodeId numaId numa hnuma => ?_, fun nodeId socketId socket hsocket => ?_⟩
    · obtain ⟨node, hnode, hfind⟩ := Option.bind_eq_some_iff.1 hnuma
      rw [← total_lent, ← total_shared]
      exact ⟨h ⟨nodeId, .lent numaId⟩ (fun _ => by simp) _
          (Option.bind_eq_some_iff.2 ⟨node, hnode, Option.map_eq_some_iff.2 ⟨_, hfind, rfl⟩⟩),
        h ⟨nodeId, .shared numaId⟩ (fun _ => by simp) _
          (Option.bind_eq_some_iff.2 ⟨node, hnode, Option.map_eq_some_iff.2 ⟨_, hfind, rfl⟩⟩)⟩
    · obtain ⟨node, hnode, hfind⟩ := Option.bind_eq_some_iff.1 hsocket
      rw [← total_lentCount hs]
      exact h ⟨nodeId, .lentCount socketId⟩ (fun _ => by simp) _
        (Option.bind_eq_some_iff.2 ⟨node, hnode, Option.map_eq_some_iff.2 ⟨_, hfind, rfl⟩⟩)

/-! ### One event -/

/-- The event does not build a node anew while an account has something exported from a numa or
a socket that the node then has. -/
def NoBuildUnderExports (s : SchedulerImpl) : SchedulerEvent → Prop
  | .memoryObjChange _ _ _ => True
  | .nodeObjChange info _ =>
    s.nodeInfo.Builds info → ∀ account, s.account.Holds account → account.state.HasExport →
      ∀ loc ∈ account.exportNumaLocs, loc.nodeId = info.nodeId → loc.size ≠ 0 →
        loc.numa ∉ info.numaInfos ∧ loc.socket ∉ info.socketIds

/-- What an object reports or asks for keeps the counters. -/
theorem balanced_memoryObjChange {P : Meter → Prop} {s : SchedulerImpl} (h : Balanced P s)
    (hfit : TotalsFit P s) (cluster : Cluster) (choice : Choice) (obj : MemObj)
    (hfit' : TotalsFit P (s.step (.memoryObjChange cluster choice obj))) :
    Balanced P (s.step (.memoryObjChange cluster choice obj)) := by
  have hrefresh : Balanced P (refresh s cluster).1 := by
    intro m hm v hv
    rw [read_refresh] at hv
    rw [account_refresh]
    exact h m hm v hv
  have hrefreshFit : TotalsFit P (refresh s cluster).1 := by
    intro m hm
    rw [account_refresh]
    exact hfit m hm
  unfold SchedulerImpl.step memoryObjChangeHandler scheduleBorrow at hfit' ⊢
  dsimp only at hfit' ⊢
  by_cases hst : obj.state = .scheduling
  · rw [if_pos hst] at hfit' ⊢
    cases hr : refresh s cluster with
    | mk s₁ ret =>
      rw [hr] at hrefresh hrefreshFit hfit'
      cases ret with
      | error e => exact hrefresh
      | ok _ =>
        dsimp only at hfit' ⊢
        cases hp : place s₁ choice (SchedulerRequest.buildRequest obj.req s.nodeInfo)
            obj.algoResult with
        | mk algoResult ret =>
          rw [hp] at hfit'
          cases ret with
          | error e => exact hrefresh
          | ok _ => exact balanced_recordState hrefresh hrefreshFit _ hfit'
  · rw [if_neg hst] at hfit' ⊢
    exact balanced_recordState h hfit obj hfit'

/-- A report of a node keeps the accounts. -/
@[simp] theorem account_nodeObjChange (s : SchedulerImpl) (info : UbseNodeInfo)
    (deployed : List Nat) : (s.step (.nodeObjChange info deployed)).account = s.account := rfl

theorem read_nodeObjChange (s : SchedulerImpl) (info : UbseNodeInfo) (deployed : List Nat)
    (m : Meter) :
    (s.step (.nodeObjChange info deployed)).nodeInfo.read m =
      if s.nodeInfo.Builds info ∧ m.nodeId = info.nodeId then
        (SchedulerNodeInfo.create info).read m.meter
      else s.nodeInfo.read m :=
  s.nodeInfo.read_updateNodeInfo info deployed m

/-- A report of a node keeps the counters exactly when the node is not built anew, or the
accounts charge nothing to the counters of the fresh node. -/
theorem balanced_nodeObjChange_iff {P : Meter → Prop} {s : SchedulerImpl} (h : Balanced P s)
    (info : UbseNodeInfo) (deployed : List Nat) :
    Balanced P (s.step (.nodeObjChange info deployed)) ↔
      (s.nodeInfo.Builds info → ∀ m, P ⟨info.nodeId, m⟩ →
        ((SchedulerNodeInfo.create info).read m).isSome → s.account.total ⟨info.nodeId, m⟩ = 0) := by
  constructor
  · intro hbal hb m hm hsome
    obtain ⟨v, hv⟩ := Option.isSome_iff_exists.1 hsome
    have hzero := read_create_eq_zero info hv
    have := hbal ⟨info.nodeId, m⟩ hm v (by rw [read_nodeObjChange, if_pos ⟨hb, rfl⟩]; exact hv)
    rw [account_nodeObjChange] at this
    omega
  · intro hzero m hm v hv
    rw [read_nodeObjChange] at hv
    rw [account_nodeObjChange]
    split at hv
    next hb =>
      obtain ⟨nodeId, m⟩ := m
      obtain ⟨hb, rfl⟩ := hb
      rw [read_create_eq_zero info hv, hzero hb m hm (Option.isSome_iff_exists.2 ⟨v, hv⟩)]
    next => exact h m hm v hv

theorem blocks_eq_zero_iff {s : SchedulerImpl} (hs : SizesFit s) {account : SchedulerAccountInfo}
    (haccount : s.account.Holds account) {info : UbseMemDebtNumaInfo}
    (hinfo : info ∈ account.exportNumaLocs) : account.blocks info.size = 0 ↔ info.size = 0 := by
  have hpos := account.blockBytes_pos
  rw [account.blocks_eq (hs account haccount info hinfo), Nat.div_eq_zero_iff]
  omega

/-- The accounts charge nothing to a fresh node exactly when they have nothing exported from
it. -/
theorem total_eq_zero_iff {s : SchedulerImpl} (hs : SizesFit s) (info : UbseNodeInfo) :
    (∀ m, OfExports ⟨info.nodeId, m⟩ → ((SchedulerNodeInfo.create info).read m).isSome →
        s.account.total ⟨info.nodeId, m⟩ = 0) ↔
      ∀ account, s.account.Holds account → account.state.HasExport →
        ∀ loc ∈ account.exportNumaLocs, loc.nodeId = info.nodeId → loc.size ≠ 0 →
          loc.numa ∉ info.numaInfos ∧ loc.socket ∉ info.socketIds := by
  constructor
  · intro h account haccount hst loc hloc hn hsize
    -- Whatever a counter of the fresh node is charged, it is not charged by this location.
    have hcharge : ∀ m, OfExports ⟨info.nodeId, m⟩ →
        ((SchedulerNodeInfo.create info).read m).isSome →
        account.exportLocCharge ⟨info.nodeId, m⟩ loc = 0 := by
      intro m hm hsome
      have hzero := (s.account.sumOver_eq_zero_iff.1 (h m hm hsome)) account haccount
      rw [account.charge_of_export hm, if_pos hst] at hzero
      exact sum_map_eq_zero_iff.1 hzero _ hloc
    refine ⟨fun hnuma => ?_, fun hsocket => ?_⟩
    · by_cases ht : account.type = .shm
      · have := hcharge (.shared loc.numa) (fun _ => by simp)
          ((read_create_shared info loc.numa).2 hnuma)
        simp [SchedulerAccountInfo.exportLocCharge, ht, hn, hsize] at this
      · have := hcharge (.lent loc.numa) (fun _ => by simp)
          ((read_create_lent info loc.numa).2 hnuma)
        simp [SchedulerAccountInfo.exportLocCharge, ht, hn, hsize] at this
    · have := hcharge (.lentCount loc.socket) (fun _ => by simp)
        ((read_create_lentCount info loc.socket).2 hsocket)
      simp only [SchedulerAccountInfo.exportLocCharge, hn, and_self, if_true] at this
      exact hsize ((blocks_eq_zero_iff hs haccount hloc).1 this)
  · intro h m hm hsome
    refine s.account.sumOver_eq_zero_iff.2 fun account haccount => ?_
    rw [account.charge_of_export hm]
    refine ite_eq_right_iff.2 fun hst => sum_map_eq_zero_iff.2 fun loc hloc => ?_
    by_cases hn : loc.nodeId = info.nodeId
    swap
    · cases m <;> simp [SchedulerAccountInfo.exportLocCharge, hn]
    by_cases hsize : loc.size = 0
    · have hb := (blocks_eq_zero_iff hs haccount hloc).2 hsize
      rw [hsize] at hb
      cases m <;> simp [SchedulerAccountInfo.exportLocCharge, hsize, hb]
    · obtain ⟨hnuma, hsocket⟩ := h account haccount hst loc hloc hn hsize
      cases m with
      | lent numaId =>
        refine if_neg ?_
        rintro ⟨-, -, rfl⟩
        exact hnuma ((read_create_lent info _).1 hsome)
      | shared numaId =>
        refine if_neg ?_
        rintro ⟨-, -, rfl⟩
        exact hnuma ((read_create_shared info _).1 hsome)
      | lentCount socketId =>
        refine if_neg ?_
        rintro ⟨-, rfl⟩
        exact hsocket ((read_create_lentCount info _).1 hsome)
      | borrow socketId => rfl

/-- **One event, exactly**: from conserved counters, an event conserves them if and only if it
does not build a node under exports. -/
theorem countersConserved_step_iff {s : SchedulerImpl} (h : CountersConserved s) (hs : SumsFit s)
    (e : SchedulerEvent) (ht : SumsFit (s.step e)) :
    CountersConserved (s.step e) ↔ NoBuildUnderExports s e := by
  rw [countersConserved_iff_balanced hs.2] at h
  rw [countersConserved_iff_balanced ht.2]
  cases e with
  | memoryObjChange cluster choice obj =>
    exact iff_of_true (balanced_memoryObjChange h hs.1 cluster choice obj ht.1) trivial
  | nodeObjChange info deployed =>
    rw [balanced_nodeObjChange_iff h]
    exact imp_congr_right fun _ => total_eq_zero_iff hs.2 info

/-! ### Whole runs -/

/-- The caches before anything is known. -/
def SchedulerImpl.start (conf : SchedulerConf) : SchedulerImpl where
  nodeInfo := { conf }

theorem holds_start (conf : SchedulerConf) (account : SchedulerAccountInfo) :
    ¬(SchedulerImpl.start conf).account.Holds account := by
  rintro ⟨id, h | h⟩ <;> cases h

theorem sumsFit_start (conf : SchedulerConf) : SumsFit (.start conf) :=
  ⟨fun _ _ => Nat.two_pow_pos 64, fun account h => absurd h (holds_start conf account)⟩

theorem countersConserved_start (conf : SchedulerConf) : CountersConserved (.start conf) :=
  (countersConserved_iff_balanced (sumsFit_start conf).2).2 fun _ _ _ h => by cases h

/-- The scheduler, started with empty caches, as long as all sums are below `2 ^ 64`. -/
def conservation (conf : SchedulerConf) : System SchedulerImpl SchedulerEvent where
  init s := s = .start conf
  step s e t := s.step e = t ∧ SumsFit t

/-- **The counters over whole runs**: along any run from empty caches, the counters are
conserved after every event if and only if no event builds a node anew while an account has
something exported from it. -/
theorem keeps_countersConserved_iff {conf : SchedulerConf} {s : SchedulerImpl}
    {tr : List (Transition SchedulerImpl SchedulerEvent)}
    (hrun : (conservation conf).Run (.start conf) tr s) :
    System.Keeps CountersConserved tr ↔ System.Guarded NoBuildUnderExports tr := by
  have hstep : ∀ s e t, CountersConserved s ∧ SumsFit s → (conservation conf).step s e t →
      (CountersConserved t ∧ SumsFit t ↔ NoBuildUnderExports s e) := by
    rintro s e _ ⟨h, hs⟩ ⟨rfl, ht⟩
    rw [← countersConserved_step_iff h hs e ht]
    exact and_iff_left ht
  rw [← hrun.exact hstep ⟨countersConserved_start conf, sumsFit_start conf⟩, System.keeps_and]
  exact (and_iff_left (hrun.keeps_of_step (P := SumsFit)
    fun s e t (h : s.step e = t ∧ SumsFit t) => h.2)).symm

/-- Accounts that come and go leave no trace: where the same accounts are there again, so are
the values of the counters. -/
theorem CountersConserved.restore {s t : SchedulerImpl} (hs : CountersConserved s)
    (ht : CountersConserved t) (h : s.account = t.account) {nodeId : NodeId} {numaId : NumaId}
    {numa numa' : SchedulerNumaInfo} (hnuma : s.nodeInfo.getNumaInfo nodeId numaId = some numa)
    (hnuma' : t.nodeInfo.getNumaInfo nodeId numaId = some numa') :
    numa.memLent = numa'.memLent ∧ numa.memShared = numa'.memShared := by
  obtain ⟨hl, hsh⟩ := hs.1 nodeId numaId numa hnuma
  obtain ⟨hl', hsh'⟩ := ht.1 nodeId numaId numa' hnuma'
  rw [hl, hsh, hl', hsh', h]
  exact ⟨rfl, rfl⟩

/-! ### Two runs -/

/-- All sums fit when the sizes of all exports, each with a block, do. -/
theorem sumsFit_of_sizes {s : SchedulerImpl}
    (h : s.account.sumOver (fun account =>
      (account.exportNumaLocs.map fun info => info.size + account.blockBytes).sum) < 2 ^ 64) :
    SumsFit s := by
  refine ⟨fun m hm => lt_of_le_of_lt (s.account.sumOver_le fun account => ?_) h,
    fun account haccount info hinfo => ?_⟩
  · exact account.charge_le hm
  · have hsum := List.single_le_sum (fun _ _ => Nat.zero_le _) _
      (List.mem_map_of_mem (f := fun info : UbseMemDebtNumaInfo =>
        info.size + account.blockBytes) hinfo)
    have hover := s.account.le_sumOver (fun account =>
      (account.exportNumaLocs.map fun info => info.size + account.blockBytes).sum) haccount
    omega

/-- A node with one numa and one socket. -/
def lenderReport (state : UbseNodeClusterState) : UbseNodeInfo where
  nodeId := "2"
  numaInfos := (∅ : Map NumaId UbseNumaInfo).insert 0
    { socketId := 0, memTotal := 2 ^ 32, memUsed := 0, memFree := 2 ^ 32 }
  clusterState := state

/-- One block of that numa, lent to node 1 and exported. -/
def exportReport : MemObj where
  req := .fd { name := "a", requestNodeId := "1", importNodeId := "1", size := 2 ^ 27 }
  algoResult :=
    { exportNumaInfos := [exportPiece "2" 0 0 (2 ^ 27)]
      importNumaInfos := [exportPiece "1" 0 0 (2 ^ 27)] }
  state := .exportSuccess

/-- The node registers, and exports. -/
def exportEvents : List SchedulerEvent :=
  [.nodeObjChange (lenderReport .working) [],
    .memoryObjChange { nodes := [] } { best := ("2", 0), tie := fun _ => 0 } exportReport]

/-- The node is lost for a while after that. -/
def reconnectEvents : List SchedulerEvent :=
  exportEvents ++ [.nodeObjChange (lenderReport .unknown) []] ++
    [.nodeObjChange (lenderReport .working) []]

theorem run_exportEvents :
    (conservation {}).Run (.start {})
      (System.trace SchedulerImpl.step (.start {}) exportEvents)
      (exportEvents.foldl SchedulerImpl.step (.start {})) := by
  refine System.run_trace_of_step _ fun x hx => ⟨System.post_of_mem_trace hx, ?_⟩
  refine sumsFit_of_sizes ?_
  revert x
  decide

theorem run_reconnectEvents :
    (conservation {}).Run (.start {})
      (System.trace SchedulerImpl.step (.start {}) reconnectEvents)
      (reconnectEvents.foldl SchedulerImpl.step (.start {})) := by
  refine System.run_trace_of_step _ fun x hx => ⟨System.post_of_mem_trace hx, ?_⟩
  refine sumsFit_of_sizes ?_
  revert x
  decide

/-- While the node stays, its counters say what it exports. -/
theorem keeps_countersConserved_exportEvents :
    System.Keeps CountersConserved
      (System.trace SchedulerImpl.step (.start {}) exportEvents) := by
  refine (keeps_countersConserved_iff run_exportEvents).2 ?_
  simp only [exportEvents, System.Guarded, System.trace_cons, System.trace_nil, List.mem_cons,
    List.not_mem_nil, or_false, forall_eq_or_imp, forall_eq]
  exact ⟨fun _ account h => absurd h (holds_start {} account), trivial⟩

/-- A node that was lost for a while lends nothing by its counters, and a block by the
accounts. -/
theorem not_keeps_countersConserved :
    ¬∀ tr s, (conservation {}).Run (.start {}) tr s → System.Keeps CountersConserved tr := by
  intro h
  have hkeeps := h _ _ run_reconnectEvents
  rw [reconnectEvents, System.trace_snoc, System.keeps_snoc] at hkeeps
  have hlent := (hkeeps.2.1 "2" 0 _ rfl).1
  exact absurd hlent (by decide)

end Scheduler

end UbsEngine
