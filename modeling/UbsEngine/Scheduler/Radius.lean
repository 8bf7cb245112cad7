import Mathlib.Data.List.Dedup
import UbsEngine.Scheduler.Registered
import UbsEngine.Scheduler.Placement

/-!
# The radius of a borrow

The configuration bounds how many nodes a node may borrow from, and how many nodes a node may
lend to. The filters for it let a candidate pass whose pair is linked already, because a
further borrowing of a linked pair adds no lender and no borrower.

What is *linked* and what is *counted* are not the same. A pair is linked by any account; a
lender is counted by accounts that have their import side, a borrower by accounts that have
their export side. An account that has lost one side lets a candidate pass without being
counted, and the limit is exceeded (`UbsEngine.Scheduler.radiusKept_iff`); with accounts that
have both sides the limits hold (`UbsEngine.Scheduler.radiusKept_of_whole`).
-/

namespace UbsEngine

namespace Scheduler

open SchedulerRequest

/-! ### Counting distinct nodes -/

/-- Distinct elements of a list with one more. -/
theorem length_dedup_insert {α : Type*} [DecidableEq α] {l l' : List α} {a : α}
    (h : ∀ x, x ∈ l' ↔ x = a ∨ x ∈ l) :
    l'.dedup.length = if a ∈ l then l.dedup.length else l.dedup.length + 1 := by
  have hperm : l'.dedup.Perm (a :: l).dedup := by
    refine (List.perm_ext_iff_of_nodup (List.nodup_dedup _) (List.nodup_dedup _)).2 fun x => ?_
    rw [List.mem_dedup, List.mem_dedup, h, List.mem_cons]
  rw [hperm.length_eq]
  split
  next ha => rw [List.dedup_cons_of_mem ha]
  next ha => rw [List.dedup_cons_of_notMem ha, List.length_cons]

theorem length_dedup_congr {α : Type*} [DecidableEq α] {l l' : List α}
    (h : ∀ x, x ∈ l' ↔ x ∈ l) : l'.dedup.length = l.dedup.length := by
  refine List.Perm.length_eq ?_
  refine (List.perm_ext_iff_of_nodup (List.nodup_dedup _) (List.nodup_dedup _)).2 fun x => ?_
  rw [List.mem_dedup, List.mem_dedup, h]

/-! ### Lenders and borrowers that are counted -/

namespace SchedulerAccountManager

variable (accounts : SchedulerAccountManager)

/-- An account of a pair of nodes that has one of its sides. -/
def LinkedWith (side : AccountState → Prop) (importNodeId exportNodeId : NodeId) : Prop :=
  ∃ id account, accounts.borrowAccount.lookup id = some account ∧ side account.state ∧
    account.getImportNodeId = importNodeId ∧ account.getExportNodeId = exportNodeId

/-- The nodes that are counted as lenders of a node. -/
def lendersOf (importNodeId : NodeId) : List NodeId :=
  (accounts.borrows.filter fun e =>
    e.2.state.HasImport ∧ e.2.getImportNodeId = importNodeId).map (·.2.getExportNodeId)

/-- The nodes that are counted as borrowers of a node. -/
def borrowersOf (exportNodeId : NodeId) : List NodeId :=
  (accounts.borrows.filter fun e =>
    e.2.state.HasExport ∧ e.2.getExportNodeId = exportNodeId).map (·.2.getImportNodeId)

theorem countDistinctLenders_eq (n : NodeId) :
    accounts.countDistinctLenders n = (accounts.lendersOf n).dedup.length := rfl

theorem countDistinctBorrowers_eq (n : NodeId) :
    accounts.countDistinctBorrowers n = (accounts.borrowersOf n).dedup.length := rfl

variable {accounts}

theorem mem_borrows {e : SchedulerAccountID × SchedulerAccountInfo} :
    e ∈ accounts.borrows ↔ accounts.borrowAccount.lookup e.1 = some e.2 := by
  rw [borrows, List.mem_map]
  constructor
  · rintro ⟨⟨id, account⟩, hmem, rfl⟩
    exact Map.mem_entries_iff.1 hmem
  · intro h
    exact ⟨⟨e.1, e.2⟩, Map.mem_entries_iff.2 h, rfl⟩

theorem mem_lendersOf {n x : NodeId} :
    x ∈ accounts.lendersOf n ↔ accounts.LinkedWith AccountState.HasImport n x := by
  simp only [lendersOf, List.mem_map, List.mem_filter, decide_eq_true_eq]
  constructor
  · rintro ⟨e, ⟨hmem, hside, hn⟩, rfl⟩
    exact ⟨e.1, e.2, mem_borrows.1 hmem, hside, hn, rfl⟩
  · rintro ⟨id, account, hlookup, hside, hn, rfl⟩
    exact ⟨(id, account), ⟨mem_borrows.2 hlookup, hside, hn⟩, rfl⟩

theorem mem_borrowersOf {n x : NodeId} :
    x ∈ accounts.borrowersOf n ↔ accounts.LinkedWith AccountState.HasExport x n := by
  simp only [borrowersOf, List.mem_map, List.mem_filter, decide_eq_true_eq]
  constructor
  · rintro ⟨e, ⟨hmem, hside, hn⟩, rfl⟩
    exact ⟨e.1, e.2, mem_borrows.1 hmem, hside, rfl, hn⟩
  · rintro ⟨id, account, hlookup, hside, rfl, hn⟩
    exact ⟨(id, account), ⟨mem_borrows.2 hlookup, hside, hn⟩, rfl⟩

theorem hasBorrowedFrom_iff {n x : NodeId} :
    accounts.hasBorrowedFrom n x = true ↔ accounts.LinkedWith (fun _ => True) n x := by
  simp only [hasBorrowedFrom, List.any_eq_true, Bool.and_eq_true, decide_eq_true_eq]
  constructor
  · rintro ⟨e, hmem, hn, hx⟩
    exact ⟨e.1, e.2, mem_borrows.1 hmem, trivial, hn, hx⟩
  · rintro ⟨id, account, hlookup, -, hn, hx⟩
    exact ⟨(id, account), mem_borrows.2 hlookup, hn, hx⟩

/-- An account without either side is not filed. -/
def Lively (accounts : SchedulerAccountManager) : Prop :=
  ∀ id account, accounts.borrowAccount.lookup id = some account → account.state ≠ .bothNotExist

theorem Lively.updateSchedulerAccount (h : Lively accounts) (mgr : SchedulerNodeManager)
    (name : String) (algoResult : UbseMemAlgoResult) (state : UbseMemState) (type : BorrowedType) :
    Lively (accounts.updateSchedulerAccount mgr name algoResult state type).1.1 := by
  rcases accounts.updateSchedulerAccount_cases mgr name algoResult state type with heq |
    ⟨account, -, heq⟩
  · rw [heq]
    exact h
  · rw [heq]
    intro id filed hlookup
    rw [file, setTable] at hlookup
    by_cases htype : type = .shm
    · rw [if_pos htype] at hlookup
      exact h id filed hlookup
    · rw [if_neg htype, table, if_neg htype] at hlookup
      dsimp only at hlookup
      split at hlookup
      next hboth =>
        rw [Map.lookup_erase_ite] at hlookup
        split at hlookup
        · cases hlookup
        · exact h id filed hlookup
      next hboth =>
        rw [Map.lookup_insert_ite] at hlookup
        split at hlookup
        · cases hlookup
          exact hboth
        · exact h id filed hlookup

end SchedulerAccountManager

theorem account_scheduleBorrow (s : SchedulerImpl) (cluster : Cluster) (choice : Choice)
    (request : SchedulerRequest) (algoResult : UbseMemAlgoResult) :
    (scheduleBorrow s cluster choice request algoResult).1.account = s.account := by
  have hrefresh := account_refresh s cluster
  rw [scheduleBorrow]
  split
  next heq => rwa [heq] at hrefresh
  next heq => rwa [heq] at hrefresh

/-- **An account without either side is never filed.** -/
theorem lively_of_reachable {conf : SchedulerConf} {s : SchedulerImpl}
    (h : (schedulerSystem conf).Reachable s) : s.account.Lively := by
  obtain ⟨_, tr, rfl, hrun⟩ := h
  have hstep : ∀ (s : SchedulerImpl) (e : SchedulerEvent) (t : SchedulerImpl),
      s.account.Lively → True → (schedulerSystem conf).step s e t → t.account.Lively := by
    rintro s e _ hs - rfl
    cases e with
    | nodeObjChange info deployed => exact hs
    | memoryObjChange cluster choice obj =>
      rw [SchedulerImpl.step, memoryObjChangeHandler]
      split
      · have hborrow := account_scheduleBorrow s cluster choice (buildRequest obj.req s.nodeInfo)
          obj.algoResult
        split
        next heq =>
          rw [heq] at hborrow
          rw [hborrow]
          exact hs
        next s₁ r heq =>
          rw [heq] at hborrow
          dsimp only
          rw [recordState_fst, hborrow]
          exact hs.updateSchedulerAccount _ _ _ _ _
      · dsimp only
        rw [recordState_fst]
        exact hs.updateSchedulerAccount _ _ _ _ _
  exact hrun.invariant hstep (fun id account hlookup => by cases hlookup) fun _ _ => trivial

/-! ### What a successful scheduling files -/

section Schedule

variable {s s₁ : SchedulerImpl} {cluster : Cluster} {choice : Choice} {req : MemReq} {obj : MemObj}

/-- The id under which the account of an FD or NUMA request is filed. -/
def borrowId (req : MemReq) (importNodeId : NodeId) : SchedulerAccountID where
  requestName := req.name
  nodeId := importNodeId
  type := req.type

theorem requestMode_buildRequest (hreq : req.type ≠ .shm) (mgr : SchedulerNodeManager) :
    (buildRequest req mgr).requestMode = .borrow := by
  cases req with
  | shm req => exact absurd rfl hreq
  | _ => rfl

/-- What recording a state does, when it reports no error. -/
theorem updateSchedulerAccount_ok {accounts : SchedulerAccountManager} {mgr : SchedulerNodeManager}
    {name : String} {algoResult : UbseMemAlgoResult} {state : UbseMemState} {type : BorrowedType}
    (h : (accounts.updateSchedulerAccount mgr name algoResult state type).2 = .ok ()) :
    algoResult.exportNumaInfos ≠ [] ∧
      ∃ account, accounts.accountFor name algoResult type = some account ∧
        (accounts.updateSchedulerAccount mgr name algoResult state type).1.1 =
          accounts.file name algoResult type account (account.updateAccountState mgr state).1 := by
  rw [SchedulerAccountManager.updateSchedulerAccount] at h ⊢
  split at h
  · cases h
  next hexports =>
    refine ⟨hexports, ?_⟩
    split at h
    · cases h
    next himports =>
      rw [if_neg hexports, if_neg himports]
      dsimp only at h ⊢
      split at h
      · cases h
      next account heq => exact ⟨account, heq, rfl⟩

/-- What an account is made of. -/
theorem create_some {imports exports : List UbseMemDebtNumaInfo} {type : BorrowedType}
    {blockSize : UInt32} {account : SchedulerAccountInfo}
    (h : SchedulerAccountInfo.create imports exports type blockSize = some account) :
    account.importNumaLocs = imports ∧ account.exportNumaLocs = exports ∧ account.type = type := by
  rw [SchedulerAccountInfo.create] at h
  split at h
  · cases h
    exact ⟨rfl, rfl, rfl⟩
  · cases h

/-- **A new request that is placed**: its account is filed already and nothing changes, or a new
account with both sides is filed for the two nodes. -/
theorem schedule_ok (hlively : s.account.Lively) (hreq : req.type ≠ .shm)
    (h : memoryObjChangeHandler s cluster choice { req, state := .scheduling } =
      (s₁, obj, .ok ())) :
    ((s.account.borrowAccount.lookup
          (borrowId req (buildRequest req s.nodeInfo).importNodeId)).isSome ∧
        ∀ id, s₁.account.borrowAccount.lookup id = s.account.borrowAccount.lookup id) ∨
      s.account.borrowAccount.lookup
          (borrowId req (buildRequest req s.nodeInfo).importNodeId) = none ∧
        ∃ account : SchedulerAccountInfo, account.state = .importExportExist ∧
          account.getImportNodeId = (buildRequest req s.nodeInfo).importNodeId ∧
          account.getExportNodeId = choice.best.1 ∧
          ∀ id, s₁.account.borrowAccount.lookup id =
            if id = borrowId req (buildRequest req s.nodeInfo).importNodeId then some account
            else s.account.borrowAccount.lookup id := by
  set request := buildRequest req s.nodeInfo with hrequest
  rw [memoryObjChangeHandler, if_pos rfl] at h
  dsimp only at h
  rw [← hrequest] at h
  have haccount := account_scheduleBorrow s cluster choice request {}
  split at h
  next heq => cases h
  next s' r heq =>
    rw [heq] at haccount
    dsimp only at haccount
    obtain ⟨info, pieces, -, -, hlays⟩ := scheduleBorrow_lays specifiedLender_mem rfl rfl heq
    have himports := hlays.importNumaInfos_eq
    have hexports := hlays.exportNumaInfos_eq
    rw [requestMode_buildRequest hreq] at himports
    rcases hrecord : recordState s' { req, algoResult := r, state := .scheduling } with ⟨s₂, ret⟩
    rw [hrecord] at h
    cases h
    have hok : (s'.account.updateSchedulerAccount s'.nodeInfo req.name r .scheduling req.type).2 =
        .ok () := congrArg Prod.snd hrecord
    have hfile : s₂.account =
        (s'.account.updateSchedulerAccount s'.nodeInfo req.name r .scheduling req.type).1.1 :=
      (congrArg (fun x => x.1.account) hrecord).symm
    obtain ⟨hne, account, hfor, hfiled⟩ := updateSchedulerAccount_ok hok
    rw [hfiled] at hfile
    -- A result that is recorded has a piece.
    rcases pieces with _ | ⟨p, pieces⟩
    · exact absurd hexports hne
    rw [List.map_cons] at hexports himports
    have hid : SchedulerAccountManager.accountId req.name r req.type =
        borrowId req request.importNodeId := by
      rw [SchedulerAccountManager.accountId, SchedulerAccountManager.accountNodeId, himports]
      rfl
    have htable : s'.account.table req.type = s.account.borrowAccount := by
      rw [SchedulerAccountManager.table, if_neg hreq, haccount]
    rw [SchedulerAccountManager.accountFor, htable, hid] at hfor
    rw [SchedulerAccountManager.file, SchedulerAccountManager.setTable, if_neg hreq, htable, hid]
      at hfile
    rcases hlookup : s.account.borrowAccount.lookup (borrowId req request.importNodeId) with
      _ | filed
    · refine Or.inr ⟨rfl, ?_⟩
      rw [hlookup, Option.none_or] at hfor
      obtain ⟨himp, hexp, htype⟩ := create_some hfor
      have hboth : (account.updateAccountState s'.nodeInfo .scheduling).1 = .importExportExist := by
        rw [SchedulerAccountInfo.updateAccountState, SchedulerAccountManager.create_state hfor]
        dsimp only
        rw [SchedulerAccountInfo.updateByBothNotExist, htype, if_neg hreq]
      rw [hboth, if_neg (by decide)] at hfile
      refine ⟨{ account with state := .importExportExist }, rfl, ?_, ?_, fun id => ?_⟩
      · rw [SchedulerAccountInfo.getImportNodeId]
        dsimp only
        rw [himp, himports]
        rfl
      · rw [SchedulerAccountInfo.getExportNodeId]
        simp only [hexp, hexports, List.head_cons]
        rfl
      · rw [hfile]
        exact Map.lookup_insert_ite _ _ _ _
    · refine Or.inl ⟨rfl, fun id => ?_⟩
      rw [hlookup, Option.some_or, Option.some.injEq] at hfor
      subst hfor
      have hlive := hlively _ _ hlookup
      have hsame : (filed.updateAccountState s'.nodeInfo .scheduling).1 = filed.state := by
        rw [SchedulerAccountInfo.updateAccountState]
        split
        · rfl
        · rfl
        · rfl
        next hboth => exact absurd hboth hlive
      rw [hsame, if_neg hlive] at hfile
      rw [hfile]
      dsimp only
      rw [Map.lookup_insert_ite]
      split
      next heq => rw [heq, hlookup]
      next => rfl

end Schedule

/-! ### The limits -/

section Limits

/-- **The limits are kept**: neither count exceeds its radius, unless it did before. -/
structure RadiusKept (conf : SchedulerConf) (accounts accounts' : SchedulerAccountManager)
    (importNodeId exportNodeId : NodeId) : Prop where
  lenders : conf.radiusBorrow ≠ 65535 → accounts'.countDistinctLenders importNodeId ≤
    max (accounts.countDistinctLenders importNodeId) conf.radiusBorrow
  borrowers : conf.radiusLender ≠ 65535 → accounts'.countDistinctBorrowers exportNodeId ≤
    max (accounts.countDistinctBorrowers exportNodeId) conf.radiusLender

/-- **A pair at the limit is counted**: an account with the import side makes the exporter one of
the lenders that are counted, one with the export side the importer one of the borrowers. -/
structure PairCounted (conf : SchedulerConf) (accounts : SchedulerAccountManager)
    (importNodeId exportNodeId : NodeId) : Prop where
  lender : conf.radiusBorrow ≠ 65535 →
    conf.radiusBorrow ≤ accounts.countDistinctLenders importNodeId →
    accounts.LinkedWith AccountState.HasImport importNodeId exportNodeId
  borrower : conf.radiusLender ≠ 65535 →
    conf.radiusLender ≤ accounts.countDistinctBorrowers exportNodeId →
    accounts.LinkedWith AccountState.HasExport importNodeId exportNodeId

variable {accounts accounts' : SchedulerAccountManager}

theorem linkedWith_congr {side : AccountState → Prop} {n x : NodeId}
    (h : ∀ id, accounts'.borrowAccount.lookup id = accounts.borrowAccount.lookup id) :
    accounts'.LinkedWith side n x ↔ accounts.LinkedWith side n x := by
  simp only [SchedulerAccountManager.LinkedWith, h]

/-- The pairs that are linked when an account with both sides is filed anew. -/
theorem linkedWith_insert {side : AccountState → Prop} (hside : side .importExportExist)
    {id : SchedulerAccountID} {account : SchedulerAccountInfo}
    (hnone : accounts.borrowAccount.lookup id = none) (hstate : account.state = .importExportExist)
    (h : ∀ id', accounts'.borrowAccount.lookup id' =
      if id' = id then some account else accounts.borrowAccount.lookup id') {n x : NodeId} :
    accounts'.LinkedWith side n x ↔
      (n = account.getImportNodeId ∧ x = account.getExportNodeId) ∨ accounts.LinkedWith side n x := by
  constructor
  · rintro ⟨id', account', hlookup, hs, hn, hx⟩
    rw [h] at hlookup
    split at hlookup
    · cases hlookup
      exact Or.inl ⟨hn.symm, hx.symm⟩
    · exact Or.inr ⟨id', account', hlookup, hs, hn, hx⟩
  · rintro (⟨rfl, rfl⟩ | ⟨id', account', hlookup, hs, hn, hx⟩)
    · refine ⟨id, account, ?_, hstate ▸ hside, rfl, rfl⟩
      rw [h, if_pos rfl]
    · refine ⟨id', account', ?_, hs, hn, hx⟩
      rw [h, if_neg]
      · exact hlookup
      · rintro rfl
        rw [hnone] at hlookup
        cases hlookup

/-- One more element keeps a count below a limit when it was counted or there is room. -/
theorem length_dedup_le_max_iff {l l' : List NodeId} {a : NodeId} (radius : Nat)
    (h : ∀ x, x ∈ l' ↔ x = a ∨ x ∈ l) :
    l'.dedup.length ≤ max l.dedup.length radius ↔ (radius ≤ l.dedup.length → a ∈ l) := by
  rw [length_dedup_insert h]
  split
  next ha => exact iff_of_true (Nat.le_max_left _ _) fun _ => ha
  next ha =>
    constructor
    · intro hle hradius
      rw [Nat.max_eq_left hradius] at hle
      omega
    · intro hroom
      rcases Nat.lt_or_ge l.dedup.length radius with hlt | hge
      · exact Nat.le_trans hlt (Nat.le_max_right _ _)
      · exact absurd (hroom hge) ha

variable {s s₁ : SchedulerImpl} {cluster : Cluster} {choice : Choice} {req : MemReq} {obj : MemObj}

/-- **The limits, exactly**: when a new FD or NUMA request has been placed and recorded, the
radius limits hold if and only if its account was filed already, or the pair of nodes is
counted wherever a limit is reached. -/
theorem radiusKept_iff {conf : SchedulerConf} (hs : (schedulerSystem conf).Reachable s)
    (hreq : req.type = .fd ∨ req.type = .numa)
    (h : memoryObjChangeHandler s cluster choice { req, state := .scheduling } =
      (s₁, obj, .ok ())) :
    RadiusKept s.nodeInfo.conf s.account s₁.account (buildRequest req s.nodeInfo).importNodeId
        choice.best.1 ↔
      (s.account.borrowAccount.lookup
          (borrowId req (buildRequest req s.nodeInfo).importNodeId)).isSome ∨
        PairCounted s.nodeInfo.conf s.account (buildRequest req s.nodeInfo).importNodeId
          choice.best.1 := by
  have hshm : req.type ≠ .shm := by
    rcases hreq with h | h <;> rw [h] <;> decide
  rcases schedule_ok (lively_of_reachable hs) hshm h with
    ⟨hfiled, hsame⟩ | ⟨hnone, account, hstate, himport, hexport, hlookup⟩
  · -- Nothing changes.
    refine iff_of_true ⟨fun _ => ?_, fun _ => ?_⟩ (Or.inl hfiled)
    · refine (le_of_eq ?_).trans (Nat.le_max_left _ _)
      refine length_dedup_congr fun x => ?_
      exact SchedulerAccountManager.mem_lendersOf.trans
        ((linkedWith_congr hsame).trans SchedulerAccountManager.mem_lendersOf.symm)
    · refine (le_of_eq ?_).trans (Nat.le_max_left _ _)
      refine length_dedup_congr fun x => ?_
      exact SchedulerAccountManager.mem_borrowersOf.trans
        ((linkedWith_congr hsame).trans SchedulerAccountManager.mem_borrowersOf.symm)
  · have hlenders := fun x => (SchedulerAccountManager.mem_lendersOf (x := x)).trans
      (linkedWith_insert (n := (buildRequest req s.nodeInfo).importNodeId) trivial hnone hstate
        hlookup)
    have hborrowers := fun x => (SchedulerAccountManager.mem_borrowersOf (x := x)).trans
      (linkedWith_insert (x := choice.best.1) trivial hnone hstate hlookup)
    simp only [himport, hexport, true_and, and_true, ← SchedulerAccountManager.mem_lendersOf,
      ← SchedulerAccountManager.mem_borrowersOf] at hlenders hborrowers
    have hlender := length_dedup_le_max_iff s.nodeInfo.conf.radiusBorrow hlenders
    have hborrower := length_dedup_le_max_iff s.nodeInfo.conf.radiusLender hborrowers
    rw [SchedulerAccountManager.mem_lendersOf] at hlender
    rw [SchedulerAccountManager.mem_borrowersOf] at hborrower
    constructor
    · rintro ⟨hl, hb⟩
      exact Or.inr ⟨fun hne => hlender.1 (hl hne), fun hne => hborrower.1 (hb hne)⟩
    · rintro (hsome | ⟨hl, hb⟩)
      · rw [hnone] at hsome
        cases hsome
      · exact ⟨fun hne => hlender.2 (hl hne), fun hne => hborrower.2 (hb hne)⟩

/-! ### What the filters see to -/

variable {mgr : SchedulerNodeManager} {request : SchedulerRequest} {before after : List NodeInfo}
variable {n : NodeId} {socketId : SocketId}

/-- `RadiusBorrowFilter`: the pair is linked, or there is room for a lender. -/
theorem radiusBorrow_passed (socketId : SocketId) (hne : n ≠ request.importNodeId)
    (h : applyFilter mgr accounts request before .radiusBorrow = (after, .ok ()))
    (hc : (n, socketId) ∈ candidates after) (hlimit : mgr.conf.radiusBorrow ≠ 65535)
    (hfull : mgr.conf.radiusBorrow ≤ accounts.countDistinctLenders request.importNodeId) :
    accounts.LinkedWith (fun _ => True) request.importNodeId n := by
  rw [applyFilter, radiusBorrowFilter, if_neg hlimit] at h
  cases h
  obtain ⟨-, node, rfl, hp⟩ := mem_candidates_filter hc
  simp only [Bool.or_eq_true, decide_eq_true_eq, hne, false_or] at hp
  rcases hp with hlinked | hroom
  · exact SchedulerAccountManager.hasBorrowedFrom_iff.1 hlinked
  · omega

/-- `RadiusLenderFilter`: the pair is linked, or there is room for a borrower. -/
theorem radiusLender_passed (socketId : SocketId) (hne : n ≠ request.importNodeId)
    (h : applyFilter mgr accounts request before .radiusLender = (after, .ok ()))
    (hc : (n, socketId) ∈ candidates after) (hlimit : mgr.conf.radiusLender ≠ 65535)
    (hfull : mgr.conf.radiusLender ≤ accounts.countDistinctBorrowers n) :
    accounts.LinkedWith (fun _ => True) request.importNodeId n := by
  rw [applyFilter, radiusLenderFilter, if_neg hlimit] at h
  cases h
  obtain ⟨-, node, rfl, hp⟩ := mem_candidates_filter hc
  simp only [Bool.or_eq_true, decide_eq_true_eq, hne, false_or] at hp
  rcases hp with hlinked | hroom
  · exact SchedulerAccountManager.hasBorrowedFrom_iff.1 hlinked
  · omega

/-- **Where every account of the pair has both sides, what the filters let pass is counted.** -/
theorem pairCounted_of_whole (hreq : req.type = .fd ∨ req.type = .numa)
    (h : memoryObjChangeHandler s cluster choice { req, state := .scheduling } =
      (s₁, obj, .ok ()))
    (hwhole : ∀ id account, s.account.borrowAccount.lookup id = some account →
      account.getImportNodeId = (buildRequest req s.nodeInfo).importNodeId →
      account.getExportNodeId = choice.best.1 → account.state = .importExportExist) :
    PairCounted s.nodeInfo.conf s.account (buildRequest req s.nodeInfo).importNodeId
      choice.best.1 := by
  set request := buildRequest req s.nodeInfo with hrequest
  have hside : ∀ side : AccountState → Prop, side .importExportExist →
      s.account.LinkedWith (fun _ => True) request.importNodeId choice.best.1 →
      s.account.LinkedWith side request.importNodeId choice.best.1 := by
    rintro side hboth ⟨id, account, hlookup, -, himport, hexport⟩
    exact ⟨id, account, hlookup, hwhole id account hlookup himport hexport ▸ hboth, himport,
      hexport⟩
  have hfilters : .roleConflict ∈ request.filterNames ∧ .radiusBorrow ∈ request.filterNames ∧
      .radiusLender ∈ request.filterNames := by
    cases req with
    | addr req => rcases hreq with h | h <;> cases h
    | shm req => rcases hreq with h | h <;> cases h
    | fd req =>
      refine ⟨?_, ?_, ?_⟩ <;>
        exact List.mem_append_left _ (List.mem_append_left _ (by decide))
    | numa req =>
      refine ⟨?_, ?_, ?_⟩ <;>
        exact List.mem_append_left _ (List.mem_append_left _ (List.mem_append_left _ (by decide)))
  rw [memoryObjChangeHandler, if_pos rfl] at h
  dsimp only at h
  rw [← hrequest] at h
  split at h
  next heq => cases h
  next s' r heq =>
    obtain ⟨rfl, hpass, -⟩ := scheduleBorrow_ok heq
    have haccount := account_refresh s cluster
    have hconf := (sameLayout_refresh s cluster).conf
    rw [haccount] at hpass
    obtain ⟨before, after, happly, hbest⟩ := hpass _ hfilters.1
    obtain ⟨-, -, -, -, hne, -⟩ :=
      roleConflict_passed (n := choice.best.1) (s := choice.best.2) happly hbest
    constructor
    · intro hlimit hfull
      obtain ⟨before, after, happly, hbest⟩ := hpass _ hfilters.2.1
      rw [← hconf] at hlimit hfull
      exact hside _ trivial (radiusBorrow_passed choice.best.2 hne happly hbest hlimit
        hfull)
    · intro hlimit hfull
      obtain ⟨before, after, happly, hbest⟩ := hpass _ hfilters.2.2
      rw [← hconf] at hlimit hfull
      exact hside _ trivial (radiusLender_passed choice.best.2 hne happly hbest hlimit
        hfull)

end Limits

/-! ### A borrower and two lenders -/

/-- One lender for each borrower. -/
def oneLender : SchedulerConf where
  radiusBorrow := 1

/-- What a node reports that has one socket and 4 GiB, with a port to each of some nodes. -/
def hubReport (nodeId : NodeId) (slot : UInt32) (peers : List String) : UbseNodeInfo where
  nodeId := nodeId
  numaInfos := (∅ : Map NumaId UbseNumaInfo).insert 0
    { socketId := 0, memTotal := 2 ^ 32, memUsed := 0, memFree := 2 ^ 32 }
  cpuInfos := [{ slotId := slot, socketId := 0, chipId := some 1,
                 portInfos := peers.map fun peer =>
                   { portId := some 1, isUp := true, remoteSlotId := peer,
                     remoteChipId := some 1 } }]
  clusterState := .working

/-- Node 1, linked to nodes 2 and 3. -/
def hubCluster : Cluster where
  nodes := [("1", hubReport "1" 1 ["2", "3"]), ("2", hubReport "2" 2 ["1"]),
    ("3", hubReport "3" 3 ["1"])]
  deployed := [1, 2, 3]

/-- What is reported of one block that node 1 borrows from a node. -/
def blockReport (name : String) (lender : NodeId) (state : UbseMemState) : MemObj where
  req := .fd { name, requestNodeId := "1", importNodeId := "1", size := 2 ^ 27 }
  algoResult :=
    { exportNumaInfos := [exportPiece lender 0 0 (2 ^ 27)]
      importNumaInfos := [exportPiece "1" 0 0 (2 ^ 27)] }
  state := state

/-- The scores put the socket of a node first. -/
def pick (nodeId : NodeId) : Choice where
  best := (nodeId, 0)
  tie := fun _ => 0

/-- The scheduler after the three nodes have reported, and then some objects. -/
def hubState (objs : List MemObj) : SchedulerImpl :=
  ((hubCluster.nodes.map fun node => SchedulerEvent.nodeObjChange node.2 [1, 2, 3]) ++
    objs.map fun obj => SchedulerEvent.memoryObjChange { nodes := [] } (pick "2") obj).foldl
      SchedulerImpl.step (.start oneLender)

theorem reachable_hubState (objs : List MemObj) :
    (schedulerSystem oneLender).Reachable (hubState objs) :=
  ⟨_, _, rfl, System.run_trace _ _ _ _⟩

/-- A request of node 1 for one block. -/
def blockRequest : MemReq :=
  .fd { name := "c", requestNodeId := "1", importNodeId := "1", size := 2 ^ 27 }

/-- How it is placed on a node. -/
def blockPlacement (objs : List MemObj) (nodeId : NodeId) : SchedulerImpl × MemObj × UbseResult :=
  memoryObjChangeHandler (hubState objs) hubCluster (pick nodeId)
    { req := blockRequest, state := .scheduling }

theorem blockPlacement_ok {objs : List MemObj} {nodeId : NodeId}
    (h : (blockPlacement objs nodeId).2.2 = .ok ()) :
    memoryObjChangeHandler (hubState objs) hubCluster (pick nodeId)
        { req := blockRequest, state := .scheduling } =
      ((blockPlacement objs nodeId).1, (blockPlacement objs nodeId).2.1, .ok ()) :=
  Prod.ext rfl (Prod.ext rfl h)

/-- Node 1 has borrowed a block of node 2. -/
def oneBorrowing : List MemObj :=
  [blockReport "a" "2" .exportSuccess, blockReport "a" "2" .importSuccess]

/-- A second block from the one lender of node 1. -/
theorem radiusKept_sameLender :
    RadiusKept (hubState oneBorrowing).nodeInfo.conf (hubState oneBorrowing).account
      (blockPlacement oneBorrowing "2").1.account
      (buildRequest blockRequest (hubState oneBorrowing).nodeInfo).importNodeId (pick "2").best.1 := by
  have hok : (blockPlacement oneBorrowing "2").2.2 = .ok () := by decide +kernel
  have hlender : (hubState oneBorrowing).nodeInfo.conf.radiusLender = 65535 := by decide +kernel
  refine (radiusKept_iff (reachable_hubState _) (Or.inl rfl) (blockPlacement_ok hok)).2
    (Or.inr ⟨fun _ _ => ?_, fun hne => absurd hlender hne⟩)
  exact ⟨borrowId (blockReport "a" "2" .importSuccess).req "1", _, rfl, trivial, rfl, rfl⟩

/-- Node 1 borrows from node 2, and what it had from node 3 is imported no more: node 3 passes as
linked, and becomes a second lender. -/
theorem not_radiusKept :
    ¬∀ (conf : SchedulerConf) (s s₁ : SchedulerImpl) (cluster : Cluster) (choice : Choice)
      (req : MemReq) (obj : MemObj), (schedulerSystem conf).Reachable s →
      (req.type = .fd ∨ req.type = .numa) →
      memoryObjChangeHandler s cluster choice { req, state := .scheduling } = (s₁, obj, .ok ()) →
      RadiusKept s.nodeInfo.conf s.account s₁.account
        (buildRequest req s.nodeInfo).importNodeId choice.best.1 := by
  intro h
  have hok : (blockPlacement (oneBorrowing ++ [blockReport "b" "3" .exportSuccess]) "3").2.2 =
      .ok () := by decide +kernel
  have hkept := h _ _ _ _ _ _ _ (reachable_hubState _) (Or.inl rfl) (blockPlacement_ok hok)
  exact absurd (hkept.lenders (by decide +kernel)) (by decide +kernel)

end Scheduler

end UbsEngine
