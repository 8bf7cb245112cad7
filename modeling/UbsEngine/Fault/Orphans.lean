import UbsEngine.Fault.Persisted

/-!
# The borrowings of vanished tasks

A persisted task that is not built again although its node answered counts as vanished, and what
was borrowed for it is given back. A task is not built when its processes have exited. It is not
built either when they have been migrated, as then they do not use the faulty NUMA nodes any more;
and a borrowing may serve other tasks too, which have not vanished.

The borrowing is unused if all processes of tasks that have ever had it have exited. Where that
holds of every vanished task (`UbsEngine.Fault.VanishedHaveExited`), nothing is given back that is
in use (`UbsEngine.Fault.run_freesUnused`): that a process has been migrated onto a borrowing, or is
persisted to be, means that its task has had the borrowing (`UbsEngine.Fault.Traced`).
-/

namespace UbsEngine

namespace Fault

open Mem

/-- **What is given back of vanished tasks is not in use**: no living process has been migrated onto
it, and none is to be by a persisted task. -/
def FreesUnused (s : FaultState) (env : RoundEnv) (r : Round) : Prop :=
  ∀ b ∈ r.reconciled.freed, ∀ node pid, env.alive node pid → (b, node, pid) ∉ s.migrated ∧
    ∀ t ∈ s.store, t.phase = .BORROWED → t.newBorrowId = b → t.borrowInNodeId = node →
      pid ∉ t.pids

/-- When the borrowing of a vanished task can be given back, the processes of all tasks that have
had this borrowing have exited. -/
def VanishedHaveExited (s : FaultState) (env : RoundEnv) (r : Round) : Prop :=
  ∀ context ∈ r.context, ∀ t ∈ s.store, isOrphan context r.nodePlans t → t.holdsBorrow →
    env.freeOrphan t.newBorrowId → ∀ c ∈ s.carried, c.1 = t.newBorrowId →
      env.alive c.2.1 c.2.2 = false

instance (s : FaultState) (env : RoundEnv) (r : Round) : Decidable (VanishedHaveExited s env r) :=
  inferInstanceAs (Decidable (∀ context ∈ r.context, ∀ t ∈ s.store, _ → _ → _ →
    ∀ c ∈ s.carried, _ → _))

/-! ### Where a borrowing has been -/

/-- **Every use of a borrowing is by a task that has had it.** -/
structure Traced (s : FaultState) : Prop where
  store : ∀ t ∈ s.store, ∀ pid ∈ t.pids, (t.newBorrowId, t.borrowInNodeId, pid) ∈ s.carried
  migrated : ∀ c ∈ s.migrated, c ∈ s.carried

theorem mem_carriedBy {plans : List FaultExecutePlan} {plan : FaultExecutePlan}
    (hplan : plan ∈ plans) {task : MigrationTask} (htask : task ∈ plan.tasks)
    (hnew : isNew task = false) {pid : Pid} (hpid : pid ∈ task.pids) :
    (task.newBorrowId, plan.borrowInNodeId, pid) ∈ carriedBy plans :=
  List.mem_flatMap.2 ⟨plan, hplan, List.mem_flatMap.2
    ⟨task, List.mem_filter.2 ⟨htask, by rw [hnew]; rfl⟩, List.mem_map.2 ⟨pid, hpid, rfl⟩⟩⟩

section Step

variable {sceneType : MpSceneType} {faultNodeId : string}

/-- What is persisted in a round has had its borrowing in that round. -/
theorem Staged.carried_of_save {env : RoundEnv} {store : List TaskPersistState}
    {ledger : DebtLedger} {r : Round} (h : Staged sceneType faultNodeId env store ledger r)
    {t : TaskPersistState} (ht : .save t ∈ r.ops) {pid : Pid} (hpid : pid ∈ t.pids) :
    (t.newBorrowId, t.borrowInNodeId, pid) ∈ carriedBy r.executed.plans := by
  rcases List.mem_append.1 ht with ht | ht
  · rw [h.reconciled] at ht
    obtain ⟨_, -, -, heq⟩ := mem_ops_reconcile ht
    cases heq
  · obtain ⟨plan, hplan, task, htask, hof⟩ := h.mem_ops ht
    obtain ⟨hnew, hborrow, hpids, hnode⟩ := hof.save t rfl
    rw [hborrow, hnode]
    exact mem_carriedBy hplan htask hnew (hpids ▸ hpid)

/-- What is migrated in a round has its borrowing in that round. -/
theorem Staged.carried_of_migrated {env : RoundEnv} {store : List TaskPersistState}
    {ledger : DebtLedger} {r : Round} (h : Staged sceneType faultNodeId env store ledger r)
    {c : string × string × Pid} (hc : c ∈ migratedBy r.executed.sent) :
    c ∈ carriedBy r.executed.plans := by
  obtain ⟨s, hs, hc⟩ := List.mem_flatMap.1 hc
  obtain ⟨event, hevent, hc⟩ := List.mem_filterMap.1 hc
  obtain ⟨hplan, -, hsent⟩ := h.sent hs
  split at hc
  next pid numaIds b done =>
    obtain rfl := Option.some.inj hc
    rw [hsent] at hevent
    obtain ⟨task, htask, hnew, rfl, hpid⟩ := mem_events (events_dispatchNodePlan hevent)
    exact mem_carriedBy hplan htask hnew hpid
  next => cases hc

/-- A round keeps to it. -/
theorem traced_advance {s : FaultState} (h : Traced s) (env : RoundEnv) :
    Traced (s.advance sceneType faultNodeId env) := by
  have hround : ∀ r, r = processBorrowOutNodeFaultByPid sceneType faultNodeId env s.store →
      (∀ t, .save t ∈ r.ops → ∀ pid ∈ t.pids,
        (t.newBorrowId, t.borrowInNodeId, pid) ∈ carriedBy r.executed.plans) ∧
      ∀ c ∈ migratedBy r.executed.sent, c ∈ carriedBy r.executed.plans := by
    rintro r rfl
    rcases round_cases sceneType faultNodeId env s.store with ⟨context, ret, hr⟩ | ⟨ledger, hr⟩
    · rw [hr]
      exact ⟨fun _ h => (nomatch h), fun _ h => (nomatch h)⟩
    · exact ⟨fun t ht pid => hr.carried_of_save ht, fun c => hr.carried_of_migrated⟩
  obtain ⟨hsave, hmigrate⟩ := hround _ rfl
  constructor
  · intro t ht pid hpid
    rcases mem_foldl_apply ht with ht | ht
    · exact List.mem_append_left _ (h.store t ht pid hpid)
    · exact List.mem_append_right _ (hsave t ht pid hpid)
  · intro c hc
    rcases List.mem_append.1 hc with hc | hc
    · exact List.mem_append_left _ (h.migrated c hc)
    · exact List.mem_append_right _ (hmigrate c hc)

/-- **A round in which the vanished have exited gives back nothing that is in use.** -/
theorem freesUnused_of_exited {s : FaultState} (h : Traced s) {env : RoundEnv}
    (hexited : VanishedHaveExited s env
      (processBorrowOutNodeFaultByPid sceneType faultNodeId env s.store)) :
    FreesUnused s env (processBorrowOutNodeFaultByPid sceneType faultNodeId env s.store) := by
  intro b hb node pid halive
  rcases round_cases sceneType faultNodeId env s.store with ⟨context, ret, hr⟩ | ⟨ledger, hr⟩
  · rw [hr] at hb
    cases hb
  rw [hr.reconciled] at hb
  obtain ⟨t, ht, horphan, hholds, rfl, hfree⟩ := mem_freed_reconcile hb
  -- Whoever uses the borrowing has had it, and has exited.
  have hnot : (t.newBorrowId, node, pid) ∉ s.carried := fun hc => by
    rw [hexited _ hr.context t ht horphan hholds hfree _ hc rfl] at halive
    cases halive
  refine ⟨fun hc => hnot (h.migrated _ hc), fun t' ht' _ hb' hnode hpid => hnot ?_⟩
  rw [← hb', ← hnode]
  exact h.store t' ht' pid hpid

/-! ### Runs -/

end Step

/-! ### A virtual machine that has been migrated -/

/-- A virtual machine uses so much of its old borrowing. It can be migrated, and what is old cannot
be given back. -/
def migratable (usedKB : Nat) (alive : Bool) : RoundEnv where
  collect := { ledger := some oneNode, node := fun _ => oneVm 1 usedKB }
  alive := fun _ _ => alive
  decision := { snapshot := some [⟨[3], 0, 0, 100000⟩] }
  borrow := fun _ _ _ => lendsAll [10]
  exec := fun _ => {
    managed := fun _ _ => some [⟨1, MIG_MEMSIZE_MODE, 0, 1⟩]
    free := fun _ => false }

end Fault

end UbsEngine
