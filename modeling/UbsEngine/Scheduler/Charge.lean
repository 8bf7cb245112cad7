import UbsEngine.Scheduler.Meter

/-!
# What the accounts charge

An account has a charge on every counter, which depends on which of its sides are there:
`UbsEngine.Scheduler.SchedulerAccountInfo.charge`. The total of the charges over all accounts
is what a counter ought to show, `UbsEngine.Scheduler.SchedulerAccountManager.total`.

The main result of this file is that recording a state keeps the two in step: the counters
the cache has move by exactly what the total moves by, as long as nothing overflows and the
counters were right before
(`UbsEngine.Scheduler.SchedulerAccountManager.balanced_updateSchedulerAccount`). It is proved
once, for all kinds of counters, all states an account can be in and all states an object can
report.
-/

namespace UbsEngine

namespace Scheduler

/-! ### Adding and subtracting a list -/

@[simp] theorem bump_zero (v : Nat) : bump v 0 = v := by
  unfold bump safeAdd
  split <;> simp

@[simp] theorem drop_zero (v : Nat) : drop v 0 = v := by
  simp [drop, safeSub]

theorem foldl_bump {xs : List Nat} {v : Nat} (h : v + xs.sum < 2 ^ 64) :
    xs.foldl bump v = v + xs.sum := by
  induction xs generalizing v with
  | nil => simp
  | cons x xs ih =>
    rw [List.sum_cons] at h ⊢
    rw [List.foldl_cons, bump_eq (by omega), ih (by omega)]
    omega

theorem foldl_drop {xs : List Nat} {v : Nat} (h : xs.sum ≤ v) :
    xs.foldl drop v = v - xs.sum := by
  induction xs generalizing v with
  | nil => simp
  | cons x xs ih =>
    rw [List.sum_cons] at h ⊢
    rw [List.foldl_cons, drop_eq (by omega), ih (by omega)]
    omega

/-! ### One change of one counter -/

section Change

variable (op : Nat → Nat → Nat) (mgr : SchedulerNodeManager) (n : NodeId)

/-- A change of the bytes a numa lends moves that counter and no other. -/
theorem read_modifyNuma_memLent (k : NumaId) (x : Nat) (m : Meter) :
    (mgr.modifyNuma n k fun numa => { numa with memLent := op numa.memLent x }).read m =
      (mgr.read m).map fun v => if m = ⟨n, .lent k⟩ then op v x else v := by
  rw [SchedulerNodeManager.read_modifyNuma _
    (f := fun numa => { numa with memLent := op numa.memLent x }) fun _ => rfl]
  obtain ⟨n', m⟩ := m
  simp only [Meter.mk.injEq]
  split
  next h =>
    subst h
    unfold SchedulerNodeManager.read
    rw [Option.map_bind]
    congr 1
    funext node
    rw [SchedulerNodeInfo.read_modifyNuma node
      (f := fun numa => { numa with memLent := op numa.memLent x }) fun _ => rfl]
    cases m with
    | lent k' => by_cases hk : k' = k <;> simp [SchedulerNodeInfo.read, hk, Function.comp_def]
    | shared k' => by_cases hk : k' = k <;> simp [SchedulerNodeInfo.read, hk]
    | lentCount s => simp
    | borrow s =>
      simp only [SchedulerNodeInfo.read, Function.comp_def, Option.map_bind, Option.map_map]
      congr 1
      funext k'
      by_cases hk : k' = k <;> simp [hk]
  next h => simp [h]

/-- A change of the bytes a numa shares moves that counter and no other. -/
theorem read_modifyNuma_memShared (k : NumaId) (x : Nat) (m : Meter) :
    (mgr.modifyNuma n k fun numa => { numa with memShared := op numa.memShared x }).read m =
      (mgr.read m).map fun v => if m = ⟨n, .shared k⟩ then op v x else v := by
  rw [SchedulerNodeManager.read_modifyNuma _
    (f := fun numa => { numa with memShared := op numa.memShared x }) fun _ => rfl]
  obtain ⟨n', m⟩ := m
  simp only [Meter.mk.injEq]
  split
  next h =>
    subst h
    unfold SchedulerNodeManager.read
    rw [Option.map_bind]
    congr 1
    funext node
    rw [SchedulerNodeInfo.read_modifyNuma node
      (f := fun numa => { numa with memShared := op numa.memShared x }) fun _ => rfl]
    cases m with
    | lent k' => by_cases hk : k' = k <;> simp [SchedulerNodeInfo.read, hk]
    | shared k' => by_cases hk : k' = k <;> simp [SchedulerNodeInfo.read, hk, Function.comp_def]
    | lentCount s => simp
    | borrow s =>
      simp only [SchedulerNodeInfo.read, Function.comp_def, Option.map_bind, Option.map_map]
      congr 1
      funext k'
      by_cases hk : k' = k <;> simp [hk]
  next h => simp [h]

/-- A change of the blocks a socket has exported moves that counter and no other. -/
theorem read_modifySocket_lentCount (s : SocketId) (x : Nat) (m : Meter) :
    (mgr.modifySocket n s fun socket =>
        { socket with lentCount := op socket.lentCount x }).read m =
      (mgr.read m).map fun v => if m = ⟨n, .lentCount s⟩ then op v x else v := by
  rw [SchedulerNodeManager.read_modifySocket]
  obtain ⟨n', m⟩ := m
  simp only [Meter.mk.injEq]
  split
  next h =>
    subst h
    unfold SchedulerNodeManager.read
    rw [Option.map_bind]
    congr 1
    funext node
    rw [SchedulerNodeInfo.read_modifySocket]
    cases m with
    | lent k => simp
    | shared k => simp
    | borrow s' => simp
    | lentCount s' =>
      by_cases hs : s' = s <;> simp [SchedulerNodeInfo.read, hs, Function.comp_def]
  next h => simp [h]

theorem mem_getAllNumaInfos {node : SchedulerNodeInfo} {s : SocketId} {k : NumaId}
    {numa : SchedulerNumaInfo} :
    (k, numa) ∈ node.getAllNumaInfos s ↔
      node.numaInfoMap.lookup k = some numa ∧ numa.socketId = s := by
  simp only [SchedulerNodeInfo.getAllNumaInfos, List.mem_insertionSort, List.mem_filter,
    List.mem_map, decide_eq_true_eq, Prod.mk.injEq]
  constructor
  · rintro ⟨⟨e, he, rfl, rfl⟩, hs⟩
    exact ⟨Map.mem_entries_iff.1 he, hs⟩
  · rintro ⟨hk, hs⟩
    exact ⟨⟨⟨k, numa⟩, Map.mem_entries_iff.2 hk, rfl, rfl⟩, hs⟩

/-- The first numa of a socket is a numa of that socket. -/
theorem findNuma_of_firstNuma {node : SchedulerNodeInfo} {s : SocketId} {k : NumaId}
    (h : node.firstNuma s = some k) : ∃ numa, node.findNuma k = some numa ∧ numa.socketId = s := by
  unfold SchedulerNodeInfo.firstNuma at h
  obtain ⟨socket, hsocket, hhead⟩ := Option.bind_eq_some_iff.1 h
  obtain ⟨⟨k', numa⟩, hmem, rfl⟩ := List.mem_map.1 (List.mem_of_head? hhead)
  obtain ⟨hk, hs⟩ := mem_getAllNumaInfos.1 hmem
  refine ⟨numa, ?_, hs⟩
  simp [SchedulerNodeInfo.findNuma, hk, hs, hsocket]

/-- A change of the bytes that the first numa of a socket borrows moves the counter of that
socket and no other. -/
theorem read_modifyNuma_memBorrow {node : SchedulerNodeInfo} (hnode : mgr.getNodeInfo n = some node)
    {s : SocketId} {k : NumaId} (hk : node.firstNuma s = some k) (x : Nat) (m : Meter) :
    (mgr.modifyNuma n k fun numa => { numa with memBorrow := op numa.memBorrow x }).read m =
      (mgr.read m).map fun v => if m = ⟨n, .borrow s⟩ then op v x else v := by
  rw [SchedulerNodeManager.read_modifyNuma _
    (f := fun numa => { numa with memBorrow := op numa.memBorrow x }) fun _ => rfl]
  obtain ⟨n', m⟩ := m
  simp only [Meter.mk.injEq]
  split
  next h =>
    subst h
    unfold SchedulerNodeManager.read
    rw [hnode, Option.bind_some, Option.bind_some, SchedulerNodeInfo.read_modifyNuma node
      (f := fun numa => { numa with memBorrow := op numa.memBorrow x }) fun _ => rfl]
    cases m with
    | lent k' => by_cases hk' : k' = k <;> simp [SchedulerNodeInfo.read, hk', Function.comp_def]
    | shared k' => by_cases hk' : k' = k <;> simp [SchedulerNodeInfo.read, hk', Function.comp_def]
    | lentCount s' => simp
    | borrow s' =>
      simp only [SchedulerNodeInfo.read]
      cases hk' : node.firstNuma s' with
      | none => rfl
      | some k' =>
        -- Two sockets with the same first numa are the same socket.
        have hiff : k' = k ↔ s' = s := by
          obtain ⟨numa, hnuma, hs⟩ := findNuma_of_firstNuma hk
          obtain ⟨numa', hnuma', hs'⟩ := findNuma_of_firstNuma hk'
          constructor
          · rintro rfl
            rw [hnuma] at hnuma'
            rw [← hs, ← hs', Option.some.inj hnuma']
          · rintro rfl
            exact Option.some.inj (hk'.symm.trans hk)
        by_cases hs : s' = s
        · simp [hs, hiff.2 hs, Function.comp_def]
        · simp [hs, mt hiff.1 hs, Function.comp_def]
  next h => simp [h]

end Change

/-! ### The charge of an account -/

namespace SchedulerAccountInfo

variable (account : SchedulerAccountInfo)

/-- What an export location of the account charges to a counter. -/
def exportLocCharge (m : Meter) (info : UbseMemDebtNumaInfo) : Nat :=
  match m.meter with
  | .lent k =>
    if account.type ≠ .shm ∧ info.nodeId = m.nodeId ∧ info.numa = k then info.size else 0
  | .shared k =>
    if account.type = .shm ∧ info.nodeId = m.nodeId ∧ info.numa = k then info.size else 0
  | .lentCount s =>
    if info.nodeId = m.nodeId ∧ info.socket = s then account.blocks info.size else 0
  | .borrow _ => 0

/-- What an import location of the account charges to a counter. -/
def importLocCharge (m : Meter) (info : UbseMemDebtNumaInfo) : Nat :=
  match m.meter with
  | .borrow s =>
    if account.type ≠ .shm ∧ info.nodeId = m.nodeId ∧ info.socket = s then info.size else 0
  | _ => 0

/-- What the export side of the account charges to a counter. -/
def exportCharge (m : Meter) : Nat := (account.exportNumaLocs.map (account.exportLocCharge m)).sum

/-- What the import side of the account charges to a counter. -/
def importCharge (m : Meter) : Nat := (account.importNumaLocs.map (account.importLocCharge m)).sum

/-- What the account charges to a counter when it is in a state. -/
def chargeIn (state : AccountState) (m : Meter) : Nat :=
  (if state.HasExport then account.exportCharge m else 0) +
    if state.HasImport then account.importCharge m else 0

/-- **The charge** of the account on a counter. -/
def charge (m : Meter) : Nat := account.chargeIn account.state m

@[simp] theorem chargeIn_bothNotExist (m : Meter) : account.chargeIn .bothNotExist m = 0 := rfl

@[simp] theorem chargeIn_onlyExportExist (m : Meter) :
    account.chargeIn .onlyExportExist m = account.exportCharge m := rfl

@[simp] theorem chargeIn_onlyImportExist (m : Meter) :
    account.chargeIn .onlyImportExist m = account.importCharge m := Nat.zero_add _

@[simp] theorem chargeIn_importExportExist (m : Meter) :
    account.chargeIn .importExportExist m = account.exportCharge m + account.importCharge m :=
  rfl

/-! ### What the two sides do to the counters -/

/-- A side made of locations, each of which moves a counter by its charge, moves the counter
by all of them. -/
theorem read_foldl {op : Nat → Nat → Nat} {m : Meter} {c : UbseMemDebtNumaInfo → Nat}
    {step : SchedulerNodeManager → UbseMemDebtNumaInfo → SchedulerNodeManager}
    (hstep : ∀ mgr info, (step mgr info).read m = (mgr.read m).map fun v => op v (c info))
    (locs : List UbseMemDebtNumaInfo) (mgr : SchedulerNodeManager) :
    (locs.foldl step mgr).read m = (mgr.read m).map fun v => (locs.map c).foldl op v := by
  induction locs generalizing mgr with
  | nil => simp
  | cons info locs ih =>
    rw [List.foldl_cons, ih, hstep, Option.map_map]
    rfl

theorem read_chargeExports_lent {op : Nat → Nat → Nat} (hop : ∀ v, op v 0 = v)
    (ht : account.type ≠ .shm) (mgr : SchedulerNodeManager) (m : Meter) :
    (account.chargeExports (fun x numa => { numa with memLent := op numa.memLent x })
        (fun x socket => { socket with lentCount := op socket.lentCount x }) mgr).read m =
      (mgr.read m).map fun v =>
        (account.exportNumaLocs.map (account.exportLocCharge m)).foldl op v := by
  refine read_foldl (fun mgr info => ?_) _ mgr
  unfold chargeExport
  rw [read_modifySocket_lentCount, read_modifyNuma_memLent, Option.map_map]
  congr 1
  funext v
  obtain ⟨n, m⟩ := m
  cases m <;> simp [exportLocCharge, Meter.mk.injEq, ht] <;> grind

theorem read_chargeExports_shared {op : Nat → Nat → Nat} (hop : ∀ v, op v 0 = v)
    (ht : account.type = .shm) (mgr : SchedulerNodeManager) (m : Meter) :
    (account.chargeExports (fun x numa => { numa with memShared := op numa.memShared x })
        (fun x socket => { socket with lentCount := op socket.lentCount x }) mgr).read m =
      (mgr.read m).map fun v =>
        (account.exportNumaLocs.map (account.exportLocCharge m)).foldl op v := by
  refine read_foldl (fun mgr info => ?_) _ mgr
  unfold chargeExport
  rw [read_modifySocket_lentCount, read_modifyNuma_memShared, Option.map_map]
  congr 1
  funext v
  obtain ⟨n, m⟩ := m
  cases m <;> simp [exportLocCharge, Meter.mk.injEq, ht] <;> grind

/-- A location whose counter the cache does not have charges no other. -/
theorem map_importLocCharge_of_none {op : Nat → Nat → Nat} (hop : ∀ v, op v 0 = v)
    {mgr : SchedulerNodeManager} {info : UbseMemDebtNumaInfo}
    (hnone : mgr.read ⟨info.nodeId, .borrow info.socket⟩ = none) (m : Meter) :
    (mgr.read m).map (fun v => op v (account.importLocCharge m info)) = mgr.read m := by
  by_cases hm : m = ⟨info.nodeId, .borrow info.socket⟩
  · rw [hm, hnone]; rfl
  · have hzero : account.importLocCharge m info = 0 := by
      obtain ⟨n, m⟩ := m
      cases m with
      | borrow s =>
        refine if_neg fun ⟨_, hn, hs⟩ => hm ?_
        rw [hs, hn]
      | _ => rfl
    simp [hzero, hop]

theorem read_chargeImports {op : Nat → Nat → Nat} (hop : ∀ v, op v 0 = v)
    (ht : account.type ≠ .shm) (mgr : SchedulerNodeManager) (m : Meter) :
    (account.chargeImports (fun x numa => { numa with memBorrow := op numa.memBorrow x })
        mgr).read m =
      (mgr.read m).map fun v =>
        (account.importNumaLocs.map (account.importLocCharge m)).foldl op v := by
  refine read_foldl (fun mgr info => ?_) _ mgr
  unfold chargeImport
  cases hnode : mgr.getNodeInfo info.nodeId with
  | none =>
    rw [map_importLocCharge_of_none account hop]
    · rfl
    · simp [SchedulerNodeManager.read, hnode]
  | some node =>
    cases hfirst : node.firstNuma info.socket with
    | none =>
      rw [map_importLocCharge_of_none account hop]
      · simp [hfirst]
      · simp [SchedulerNodeManager.read, SchedulerNodeInfo.read, hnode, hfirst]
    | some first =>
      simp only [Option.bind_some, hfirst]
      rw [read_modifyNuma_memBorrow op mgr info.nodeId hnode hfirst]
      congr 1
      funext v
      obtain ⟨n, m⟩ := m
      cases m <;> simp [importLocCharge, Meter.mk.injEq, ht, hop]
      grind

theorem read_addExport (mgr : SchedulerNodeManager) (m : Meter) :
    (account.addExport mgr).read m = (mgr.read m).map fun v =>
      (account.exportNumaLocs.map (account.exportLocCharge m)).foldl bump v := by
  unfold addExport
  split
  next h => exact account.read_chargeExports_shared bump_zero h mgr m
  next h => exact account.read_chargeExports_lent bump_zero h mgr m

theorem read_subExport (mgr : SchedulerNodeManager) (m : Meter) :
    (account.subExport mgr).read m = (mgr.read m).map fun v =>
      (account.exportNumaLocs.map (account.exportLocCharge m)).foldl drop v := by
  unfold subExport
  split
  next h => exact account.read_chargeExports_shared drop_zero h mgr m
  next h => exact account.read_chargeExports_lent drop_zero h mgr m

/-- Nothing is borrowed by a shared account. -/
theorem importCharge_shm (ht : account.type = .shm) (m : Meter) :
    ∀ x ∈ account.importNumaLocs.map (account.importLocCharge m), x = 0 := by
  simp only [List.mem_map, forall_exists_index, and_imp]
  rintro x info - rfl
  obtain ⟨n, m⟩ := m
  cases m <;> simp [importLocCharge, ht]

theorem foldl_of_zeros {op : Nat → Nat → Nat} (hop : ∀ v, op v 0 = v) {xs : List Nat}
    (h : ∀ x ∈ xs, x = 0) (v : Nat) : xs.foldl op v = v := by
  induction xs with
  | nil => rfl
  | cons x xs ih =>
    rw [List.foldl_cons, h x List.mem_cons_self, hop]
    exact ih fun y hy => h y (List.mem_cons_of_mem _ hy)

theorem read_addImport (mgr : SchedulerNodeManager) (m : Meter) :
    (account.addImport mgr).read m = (mgr.read m).map fun v =>
      (account.importNumaLocs.map (account.importLocCharge m)).foldl bump v := by
  unfold addImport
  split
  next h => simp [foldl_of_zeros bump_zero (account.importCharge_shm h m)]
  next h => exact account.read_chargeImports bump_zero h mgr m

theorem read_subImport (mgr : SchedulerNodeManager) (m : Meter) :
    (account.subImport mgr).read m = (mgr.read m).map fun v =>
      (account.importNumaLocs.map (account.importLocCharge m)).foldl drop v := by
  unfold subImport
  split
  next h => simp [foldl_of_zeros drop_zero (account.importCharge_shm h m)]
  next h => exact account.read_chargeImports drop_zero h mgr m

end SchedulerAccountInfo

/-! ### A change of the state of an account -/

/-- From one cache to another, a counter that includes the charge `c` moves to one that
includes `c'` in its place, unless it overflows. -/
def Moves (mgr mgr' : SchedulerNodeManager) (m : Meter) (c c' : Nat) : Prop :=
  ∃ G : Nat → Nat, mgr'.read m = (mgr.read m).map G ∧
    ∀ v, c ≤ v → v < 2 ^ 64 → v - c + c' < 2 ^ 64 → G v = v - c + c'

namespace Moves

variable {mgr mgr' mgr'' : SchedulerNodeManager} {m : Meter} {c c' c'' : Nat}

theorem refl (mgr : SchedulerNodeManager) (m : Meter) (c : Nat) : Moves mgr mgr m c c :=
  ⟨id, by simp, fun v hc _ _ => by simp only [id]; omega⟩

theorem trans (h : Moves mgr mgr' m c c') (h' : Moves mgr' mgr'' m c' c'')
    (hmid : c' ≤ c ∨ c' ≤ c'') : Moves mgr mgr'' m c c'' := by
  obtain ⟨G, hG, hGv⟩ := h
  obtain ⟨G', hG', hGv'⟩ := h'
  refine ⟨G' ∘ G, by rw [hG', hG, Option.map_map], fun v hc hv hfit => ?_⟩
  have hmidv : v - c + c' < 2 ^ 64 := by omega
  rw [Function.comp_apply, hGv v hc hv hmidv, hGv' _ (by omega) hmidv (by omega)]
  omega

end Moves

namespace SchedulerAccountInfo

variable (account : SchedulerAccountInfo) (mgr : SchedulerNodeManager) (m : Meter) (c : Nat)

theorem moves_addExport : Moves mgr (account.addExport mgr) m c (c + account.exportCharge m) := by
  refine ⟨_, account.read_addExport mgr m, fun v hc _ hfit => ?_⟩
  rw [foldl_bump (by unfold exportCharge at hfit; omega), exportCharge]
  omega

theorem moves_subExport : Moves mgr (account.subExport mgr) m (c + account.exportCharge m) c := by
  refine ⟨_, account.read_subExport mgr m, fun v hc _ _ => ?_⟩
  rw [foldl_drop (by unfold exportCharge at hc; omega), exportCharge]
  unfold exportCharge at hc
  omega

theorem moves_addImport : Moves mgr (account.addImport mgr) m c (c + account.importCharge m) := by
  refine ⟨_, account.read_addImport mgr m, fun v hc _ hfit => ?_⟩
  rw [foldl_bump (by unfold importCharge at hfit; omega), importCharge]
  omega

theorem moves_subImport : Moves mgr (account.subImport mgr) m (c + account.importCharge m) c := by
  refine ⟨_, account.read_subImport mgr m, fun v hc _ _ => ?_⟩
  rw [foldl_drop (by unfold importCharge at hc; omega), importCharge]
  unfold importCharge at hc
  omega

/-- The charge of a shared account is that of its export side. -/
theorem importCharge_eq_zero (ht : account.type = .shm) : account.importCharge m = 0 :=
  List.sum_eq_zero_iff_forall_eq_nat.2 (account.importCharge_shm ht m)

/-- **A change of state moves the counters by the change of the charge**: whatever side of
the account comes or goes, its charge does. -/
theorem moves_updateAccountState (state : UbseMemState) :
    Moves mgr (account.updateAccountState mgr state).2 m (account.charge m)
      (account.chargeIn (account.updateAccountState mgr state).1 m) := by
  have haddE := account.moves_addExport mgr m
  have hsubE := account.moves_subExport mgr m
  have haddI := account.moves_addImport mgr m
  have hsubI := account.moves_subImport mgr m
  unfold charge updateAccountState
  cases hst : account.state with
  | importExportExist =>
    simp only [chargeIn_importExportExist]
    cases state <;> simp only [updateStateByBothExist, hst, chargeIn_importExportExist,
      chargeIn_onlyImportExist, chargeIn_onlyExportExist, chargeIn_bothNotExist]
    case failed =>
      have h := hsubI (account.exportCharge m)
      refine h.trans ?_ (Or.inl (Nat.le_add_right _ _))
      simpa using account.moves_subExport (account.subImport mgr) m 0
    case exportDestroyed =>
      rw [Nat.add_comm]
      exact hsubE _
    case importDestroyed => exact hsubI _
    all_goals exact .refl _ _ _
  | onlyExportExist =>
    simp only [chargeIn_onlyExportExist]
    cases state <;> simp only [updateStateByOnlyExportExist, hst, chargeIn_importExportExist,
      chargeIn_onlyExportExist, chargeIn_bothNotExist]
    case failed => simpa using hsubE 0
    case exportDestroyed => simpa using hsubE 0
    case importSuccess => exact haddI _
    all_goals exact .refl _ _ _
  | onlyImportExist =>
    simp only [chargeIn_onlyImportExist]
    cases state <;> simp only [updateStateByOnlyImportExist, hst, chargeIn_importExportExist,
      chargeIn_onlyImportExist, chargeIn_bothNotExist]
    case failed => simpa using hsubI 0
    case importDestroyed => simpa using hsubI 0
    case exportSuccess =>
      rw [Nat.add_comm]
      exact haddE _
    all_goals exact .refl _ _ _
  | bothNotExist =>
    simp only [chargeIn_bothNotExist]
    cases state <;> simp only [updateByBothNotExist, hst, chargeIn_onlyImportExist,
      chargeIn_onlyExportExist, chargeIn_bothNotExist]
    case importSuccess => simpa using haddI 0
    case exportSuccess => simpa using haddE 0
    case scheduling =>
      have hI : Moves mgr (account.addImport mgr) m 0 (account.importCharge m) := by
        simpa using haddI 0
      have hE := account.moves_addExport (account.addImport mgr) m (account.importCharge m)
      have h := hI.trans hE (Or.inr (Nat.le_add_right _ _))
      by_cases ht : account.type = .shm
      · simpa [ht, account.importCharge_eq_zero m ht] using h
      · simpa [ht, Nat.add_comm] using h
    all_goals exact .refl _ _ _

end SchedulerAccountInfo

/-! ### All accounts -/

namespace SchedulerAccountManager

variable (accounts : SchedulerAccountManager)

/-- The charges of all accounts on a counter: **what the counter ought to show**. -/
def total (m : Meter) : Nat :=
  Map.total (fun _ account => account.charge m) accounts.borrowAccount +
    Map.total (fun _ account => account.charge m) accounts.shareAccount

/-- The account a state is recorded in: the one that is filed, or a new one. -/
def accountFor (name : String) (algoResult : UbseMemAlgoResult) (type : BorrowedType) :
    Option SchedulerAccountInfo :=
  ((accounts.table type).lookup (accountId name algoResult type)).or <|
    SchedulerAccountInfo.create algoResult.importNumaInfos algoResult.exportNumaInfos type
      algoResult.blockSize

/-- An account with its new state is filed, one with neither side is not. -/
def file (name : String) (algoResult : UbseMemAlgoResult) (type : BorrowedType)
    (account : SchedulerAccountInfo) (state : AccountState) : SchedulerAccountManager :=
  accounts.setTable type <|
    if state = .bothNotExist then (accounts.table type).erase (accountId name algoResult type)
    else (accounts.table type).insert (accountId name algoResult type) { account with state }

/-- **What recording a state can do**: nothing, or the account it is for goes through the
state and is filed again. -/
theorem updateSchedulerAccount_cases (mgr : SchedulerNodeManager) (name : String)
    (algoResult : UbseMemAlgoResult) (state : UbseMemState) (type : BorrowedType) :
    (accounts.updateSchedulerAccount mgr name algoResult state type).1 = (accounts, mgr) ∨
      ∃ account, accounts.accountFor name algoResult type = some account ∧
        (accounts.updateSchedulerAccount mgr name algoResult state type).1 =
          (accounts.file name algoResult type account (account.updateAccountState mgr state).1,
            (account.updateAccountState mgr state).2) := by
  unfold updateSchedulerAccount
  split
  · exact Or.inl rfl
  split
  · exact Or.inl rfl
  dsimp only
  split
  next => exact Or.inl rfl
  next account heq => exact Or.inr ⟨account, heq, rfl⟩

theorem create_state {imports exports : List UbseMemDebtNumaInfo} {type : BorrowedType}
    {blockSize : UInt32} {account : SchedulerAccountInfo}
    (h : SchedulerAccountInfo.create imports exports type blockSize = some account) :
    account.state = .bothNotExist := by
  unfold SchedulerAccountInfo.create at h
  split at h
  · cases h; rfl
  · cases h

theorem total_setTable (type : BorrowedType) (table : Map SchedulerAccountID SchedulerAccountInfo)
    (m : Meter) :
    (accounts.setTable type table).total m +
        Map.total (fun _ account => account.charge m) (accounts.table type) =
      Map.total (fun _ account => account.charge m) table + accounts.total m := by
  unfold total setTable SchedulerAccountManager.table
  split
  · dsimp only; omega
  · dsimp only; omega

/-- The total after an account is filed with a new state. -/
theorem total_file {name : String} {algoResult : UbseMemAlgoResult} {type : BorrowedType}
    {account : SchedulerAccountInfo} (h : accounts.accountFor name algoResult type = some account)
    (state : AccountState) (m : Meter) :
    (accounts.file name algoResult type account state).total m + account.charge m =
        accounts.total m + account.chargeIn state m ∧
      account.charge m ≤ accounts.total m := by
  have hset := accounts.total_setTable type
    (if state = .bothNotExist then
        (accounts.table type).erase (accountId name algoResult type)
      else (accounts.table type).insert (accountId name algoResult type) { account with state }) m
  have hle : Map.total (fun _ account => account.charge m) (accounts.table type) ≤
      accounts.total m := by
    unfold total SchedulerAccountManager.table
    split <;> omega
  unfold file
  unfold accountFor at h
  set table := accounts.table type
  set w := fun (_ : SchedulerAccountID) (account : SchedulerAccountInfo) => account.charge m
  cases hlookup : table.lookup (accountId name algoResult type) with
  | some filed =>
    have hfiled : filed = account := by simpa [hlookup] using h
    subst hfiled
    have hcharge : filed.charge m ≤ Map.total w table := Map.le_total w hlookup
    refine ⟨?_, hcharge.trans hle⟩
    by_cases hst : state = .bothNotExist
    · subst hst
      have := Map.total_erase w hlookup
      simp only [if_true, w, SchedulerAccountInfo.chargeIn_bothNotExist] at hset this ⊢
      omega
    · have := Map.total_insert_of_some w { filed with state } hlookup
      simp only [hst, if_false, w] at hset this ⊢
      have hnew : ({ filed with state } : SchedulerAccountInfo).charge m = filed.chargeIn state m :=
        rfl
      omega
  | none =>
    have hcreate : SchedulerAccountInfo.create algoResult.importNumaInfos
        algoResult.exportNumaInfos type algoResult.blockSize = some account := by
      simpa [hlookup] using h
    have hzero : account.charge m = 0 := by
      rw [SchedulerAccountInfo.charge, create_state hcreate]; rfl
    refine ⟨?_, by omega⟩
    by_cases hst : state = .bothNotExist
    · subst hst
      rw [if_pos rfl, Map.erase_of_lookup_none hlookup] at hset ⊢
      simp only [SchedulerAccountInfo.chargeIn_bothNotExist]
      omega
    · have := Map.total_insert_of_none w { account with state } hlookup
      simp only [hst, if_false, w] at hset this ⊢
      have hnew : ({ account with state } : SchedulerAccountInfo).charge m =
          account.chargeIn state m := rfl
      omega

end SchedulerAccountManager

/-! ### The counters and the accounts -/

/-- The counters of a kind show what the accounts charge. -/
def Balanced (P : Meter → Prop) (s : SchedulerImpl) : Prop :=
  ∀ m, P m → ∀ v, s.nodeInfo.read m = some v → v = s.account.total m

/-- No total over the counters of a kind overflows. -/
def TotalsFit (P : Meter → Prop) (s : SchedulerImpl) : Prop :=
  ∀ m, P m → s.account.total m < 2 ^ 64

theorem recordState_fst (s : SchedulerImpl) (obj : MemObj) :
    (recordState s obj).1 =
      { nodeInfo := (s.account.updateSchedulerAccount s.nodeInfo obj.req.name obj.algoResult
          obj.state obj.req.type).1.2
        account := (s.account.updateSchedulerAccount s.nodeInfo obj.req.name obj.algoResult
          obj.state obj.req.type).1.1 } := rfl

/-- **Recording a state keeps the counters and the accounts in step**. -/
theorem balanced_recordState {P : Meter → Prop} {s : SchedulerImpl} (h : Balanced P s)
    (hfit : TotalsFit P s) (obj : MemObj) (hfit' : TotalsFit P (recordState s obj).1) :
    Balanced P (recordState s obj).1 := by
  obtain heq | ⟨account, haccount, heq⟩ := s.account.updateSchedulerAccount_cases s.nodeInfo
    obj.req.name obj.algoResult obj.state obj.req.type
  · have : (recordState s obj).1 = s := by
      rw [recordState_fst, heq]
    rwa [this]
  · have hs : (recordState s obj).1 =
        { nodeInfo := (account.updateAccountState s.nodeInfo obj.state).2
          account := s.account.file obj.req.name obj.algoResult obj.req.type account
            (account.updateAccountState s.nodeInfo obj.state).1 } := by
      rw [recordState_fst, heq]
    rw [hs] at hfit' ⊢
    intro m hm v' hv'
    obtain ⟨G, hG, hGv⟩ := account.moves_updateAccountState s.nodeInfo m obj.state
    obtain ⟨htotal, hle⟩ := s.account.total_file haccount
      (account.updateAccountState s.nodeInfo obj.state).1 m
    dsimp only at hv' ⊢
    rw [hG] at hv'
    obtain ⟨v, hv, rfl⟩ := Option.map_eq_some_iff.1 hv'
    have hvtotal := h m hm v hv
    have hold := hfit m hm
    have hnew := hfit' m hm
    dsimp only at hnew
    rw [hGv v (by omega) (by omega) (by omega)]
    omega

end Scheduler

end UbsEngine
