import UbsEngine.FaultNode.PidFault

/-!
# Runs of calls for faults of processes

A call on a pending entry either fails and leaves it, or marks all its NUMA nodes as migrated and
frees their borrow ids; a call without one frees at once, or makes an entry, or does nothing.
Between calls every entry was given by an earlier call, and its NUMA nodes that are marked have been
left since (`UbsEngine.FaultNode.Simplified.PendingOk`). One more call keeps that
(`UbsEngine.FaultNode.Simplified.AllPendingOk.step`), and so does every run
(`UbsEngine.FaultNode.Simplified.finished_history`).
-/

namespace UbsEngine

namespace FaultNode

namespace Simplified

open Gather

/-! ### What is freed -/

section Free

variable {o : Outcomes}

/-- Between two states of a call, some of the borrow ids are freed, and all of them if nothing
fails. -/
structure FreedMore (s s' : Freeing) (ids : List String) : Prop where
  more : ∃ new, s'.freedOldBorrowIds = s.freedOldBorrowIds ++ new ∧ ∀ id ∈ new, id ∈ ids
  all : s'.ok → s.ok ∧ ∀ id ∈ ids, id ∈ s'.freedOldBorrowIds

theorem FreedMore.refl (s : Freeing) : FreedMore s s [] :=
  ⟨⟨[], (List.append_nil _).symm, by simp⟩, fun h => ⟨h, by simp⟩⟩

theorem FreedMore.append {s s' s'' : Freeing} {ids ids' : List String} (h : FreedMore s s' ids)
    (h' : FreedMore s' s'' ids') : FreedMore s s'' (ids ++ ids') := by
  obtain ⟨new, hnew, hmem⟩ := h.more
  obtain ⟨new', hnew', hmem'⟩ := h'.more
  refine ⟨⟨new ++ new', ?_, ?_⟩, fun hok => ?_⟩
  · rw [hnew', hnew, List.append_assoc]
  · rintro id hid
    rcases List.mem_append.1 hid with hid | hid
    · exact List.mem_append_left _ (hmem id hid)
    · exact List.mem_append_right _ (hmem' id hid)
  · obtain ⟨hok', hall'⟩ := h'.all hok
    obtain ⟨hok, hall⟩ := h.all hok'
    refine ⟨hok, fun id hid => ?_⟩
    rcases List.mem_append.1 hid with hid | hid
    · rw [hnew']
      exact List.mem_append_left _ (hall id hid)
    · exact hall' id hid

theorem freedMore_freeOldBorrowId (newBorrowId : String) (s : Freeing) (id : String) :
    FreedMore s (freeOldBorrowId o newBorrowId s id) [id] := by
  rw [freeOldBorrowId]
  split
  next hfreed =>
    exact ⟨⟨[], (List.append_nil _).symm, by simp⟩, fun hok => ⟨hok, by simpa using hfreed⟩⟩
  next =>
    split
    · exact ⟨⟨[], (List.append_nil _).symm, by simp⟩, fun hok => absurd hok (by simp)⟩
    · refine ⟨⟨[id], rfl, fun _ h => h⟩, fun hok => ?_⟩
      exact ⟨(Bool.and_eq_true_iff.1 hok).1, by simp⟩

theorem freedMore_foldl (newBorrowId : String) (s : Freeing) (ids : List String) :
    FreedMore s (ids.foldl (freeOldBorrowId o newBorrowId) s) ids := by
  induction ids generalizing s with
  | nil => exact .refl s
  | cons id ids ih => exact (freedMore_freeOldBorrowId newBorrowId s id).append (ih _)

/-- The borrow ids of some NUMA nodes. -/
def idsOf (numaToBorrowIds : Map Nat (List String)) (numaIds : List Nat) : List String :=
  numaIds.flatMap fun numaId => (numaToBorrowIds.lookup numaId).getD []

theorem mem_idsOf {numaToBorrowIds : Map Nat (List String)} {numaIds : List Nat} {id : String} :
    id ∈ idsOf numaToBorrowIds numaIds ↔
      ∃ numaId ∈ numaIds, ∃ ids, numaToBorrowIds.lookup numaId = some ids ∧ id ∈ ids := by
  rw [idsOf, List.mem_flatMap]
  refine exists_congr fun numaId => and_congr_right fun _ => ?_
  rcases numaToBorrowIds.lookup numaId with _ | ids
  · simp
  · simp

/-- **What a call frees**: borrow ids of the NUMA nodes that are migrated, and all of them if it
succeeds. -/
theorem freedMore_finalize (numaToBorrowIds : Map Nat (List String))
    (perNumaBorrows : List PerRemoteNumaBorrowResult) (migratedNumaIds : List Nat)
    (freedOldBorrowIds : List String) : FreedMore ⟨0, freedOldBorrowIds, true⟩
      (finalizePidProcessing o numaToBorrowIds perNumaBorrows migratedNumaIds freedOldBorrowIds)
      (idsOf numaToBorrowIds migratedNumaIds) := by
  rw [finalizePidProcessing]
  generalize (⟨0, freedOldBorrowIds, true⟩ : Freeing) = s
  induction migratedNumaIds generalizing s with
  | nil => exact .refl s
  | cons numaId numaIds ih =>
    rw [List.foldl_cons, idsOf, List.flatMap_cons, ← idsOf]
    refine FreedMore.append ?_ (ih _)
    rcases numaToBorrowIds.lookup numaId with _ | ids
    · exact .refl s
    · exact freedMore_foldl _ s ids

/-- What is freed at once. -/
theorem freeBorrowIdsDirectly_spec (ids : List String) :
    (∀ id ∈ (freeBorrowIdsDirectly o ids).1, id ∈ ids) ∧
      ((freeBorrowIdsDirectly o ids).2 → ∀ id ∈ ids, id ∈ (freeBorrowIdsDirectly o ids).1) := by
  rw [freeBorrowIdsDirectly]
  refine ⟨fun id hid => ?_, fun hall id hid => ?_⟩
  · obtain ⟨⟨id, i⟩, hmem, rfl⟩ := List.mem_map.1 hid
    exact List.fst_mem_of_mem_zipIdx (List.mem_filter.1 hmem).1
  · obtain ⟨i, hi, rfl⟩ := List.mem_iff_getElem.1 hid
    have hmem : (ids[i], i) ∈ ids.zipIdx := List.mem_zipIdx_iff_getElem?.2 (by simp [hi])
    have hok := of_decide_eq_true (List.all_eq_true.1 hall _ hmem)
    refine List.mem_map.2 ⟨(ids[i], i), List.mem_filter.2 ⟨hmem, ?_⟩, rfl⟩
    rw [hok]
    rfl

end Free

/-! ### What is borrowed -/

section Borrow

variable {o : Outcomes}

/-- The pieces are for the NUMA nodes of their targets. If one of them fails then nothing is left of
those before it. -/
theorem memBorrowExecuteSplits_spec (i : Nat) (targets : List SimplifiedFaultPidAllocTarget)
    (done : List PerRemoteNumaBorrowResult) :
    (∀ perNuma, (memBorrowExecuteSplits o i targets done).1 = some perNuma →
      (memBorrowExecuteSplits o i targets done).2 = perNuma.map (·.newBorrowId) ∧
        perNuma.map (·.oldNumaId) =
          done.map (·.oldNumaId) ++ targets.map (·.srcFaultNumaId)) ∧
      ((memBorrowExecuteSplits o i targets done).1 = none → (∀ i, o.rollback i) →
        (memBorrowExecuteSplits o i targets done).2 = []) := by
  induction targets generalizing i done with
  | nil =>
    refine ⟨fun perNuma h => ?_, fun h => absurd h (by simp [memBorrowExecuteSplits])⟩
    obtain rfl := Option.some.inj h
    exact ⟨rfl, (List.append_nil _).symm⟩
  | cons target targets ih =>
    rw [memBorrowExecuteSplits]
    split
    next newBorrowId newNumaId _ =>
      obtain ⟨hsome, hnone⟩ := ih (i + 1) (done ++ [⟨target.srcFaultNumaId, newNumaId % 2 ^ 16,
        target.lendSizeKB * 1024 % 2 ^ 64 / 1024, newBorrowId⟩])
      refine ⟨fun perNuma h => ?_, hnone⟩
      obtain ⟨hids, hnumas⟩ := hsome perNuma h
      refine ⟨hids, ?_⟩
      rw [hnumas, List.map_append, List.append_assoc]
      rfl
    next =>
      refine ⟨fun perNuma h => absurd h (by simp), fun _ hrollback => ?_⟩
      rw [List.map_eq_nil_iff, List.filter_eq_nil_iff]
      rintro entry -
      simp [hrollback]

theorem executeBorrowForPid_spec (ctx : PidBorrowContext) :
    (∀ perNuma, (executeBorrowForPid o ctx).1 = some perNuma →
      (executeBorrowForPid o ctx).2 = perNuma.map (·.newBorrowId) ∧ perNuma ≠ [] ∧
        perNuma.map (·.oldNumaId) = ctx.allocLendTargets.map (·.srcFaultNumaId)) ∧
      ((executeBorrowForPid o ctx).1 = none → (∀ i, o.rollback i) →
        (executeBorrowForPid o ctx).2 = []) := by
  rw [executeBorrowForPid]
  split
  · exact ⟨fun perNuma h => absurd h (by simp), fun _ _ => rfl⟩
  split
  next htargets =>
    obtain ⟨hsome, hnone⟩ := memBorrowExecuteSplits_spec (o := o) 0 ctx.allocLendTargets []
    refine ⟨fun perNuma h => ?_, hnone⟩
    obtain ⟨hids, hnumas⟩ := hsome perNuma h
    refine ⟨hids, ?_, hnumas⟩
    rintro rfl
    have hnone := List.map_eq_nil_iff.1 hnumas.symm
    rw [hnone, List.isEmpty_nil] at htargets
    cases htargets
  · exact ⟨fun perNuma h => absurd h (by simp), fun _ _ => rfl⟩

theorem exists_mem_uniqueFrom (last : SimplifiedFaultPidAllocTarget)
    (targets : List SimplifiedFaultPidAllocTarget) :
    ∀ target ∈ targets, ∃ target' ∈ last :: uniqueFrom last targets,
      targetKey target' = targetKey target := by
  induction targets generalizing last with
  | nil => simp
  | cons target targets ih =>
    rw [uniqueFrom, List.forall_mem_cons]
    split
    next heq =>
      exact ⟨⟨last, List.mem_cons_self, heq.symm⟩, ih last⟩
    next =>
      refine ⟨⟨target, List.mem_cons_of_mem _ List.mem_cons_self, rfl⟩, fun t ht => ?_⟩
      obtain ⟨target', hmem, hkey⟩ := ih target t ht
      exact ⟨target', List.mem_cons_of_mem _ hmem, hkey⟩

/-- No NUMA node is lost with the targets that occur twice. -/
theorem exists_mem_uniqueTargets {targets : List SimplifiedFaultPidAllocTarget}
    {target : SimplifiedFaultPidAllocTarget} (h : target ∈ targets) :
    ∃ target' ∈ uniqueTargets (o.sortTargets.sort targets),
      target'.srcFaultNumaId = target.srcFaultNumaId := by
  have hmem := (o.sortTargets.perm targets).mem_iff.2 h
  have hkey : ∃ target' ∈ uniqueTargets (o.sortTargets.sort targets),
      targetKey target' = targetKey target := by
    generalize o.sortTargets.sort targets = sorted at hmem
    rcases sorted with _ | ⟨first, others⟩
    · cases hmem
    · rcases List.mem_cons.1 hmem with rfl | hmem
      · exact ⟨target, List.mem_cons_self, rfl⟩
      · exact exists_mem_uniqueFrom first others target hmem
  obtain ⟨target', hmem, hkey⟩ := hkey
  exact ⟨target', hmem, congrArg (fun key => key.2.2) hkey⟩

/-- What is collected of the records. -/
theorem collectPidBorrowInfo_spec {records : List BorrowRecord}
    {targets : List SimplifiedFaultPidAllocTarget} {ctx : PidBorrowContext}
    (h : collectPidBorrowInfo records targets = some ctx) :
    records ≠ [] ∧ ctx.oldBorrowIds = records.map (·.name) ∧
      ctx.remoteNumaIds = (records.filter fun record => 0 ≤ record.borrowRemoteNuma).map
        (fun record => toUInt16 record.borrowRemoteNuma) ∧
      ctx.allocLendTargets = targets ∧
      (∀ numaId ids, ctx.numaToBorrowIds.lookup numaId = some ids →
        numaId ∈ ctx.remoteNumaIds ∧ ∀ id, id ∈ ids ↔ ∃ record ∈ records, record.name = id ∧
          0 ≤ record.borrowRemoteNuma ∧ toUInt16 record.borrowRemoteNuma = numaId) ∧
      ∀ record ∈ records, 0 ≤ record.borrowRemoteNuma →
        (ctx.numaToBorrowIds.lookup (toUInt16 record.borrowRemoteNuma)).isSome := by
  rw [collectPidBorrowInfo] at h
  split at h
  · cases h
  next first hfirst =>
    obtain rfl := Option.some.inj h
    refine ⟨List.ne_nil_of_mem (List.mem_of_find?_eq_some hfirst), rfl, rfl, rfl,
      fun numaId ids hids => ?_, fun record hrecord hremote => ?_⟩
    swap
    · rw [isSome_lookup_gather]
      exact ⟨record, List.mem_filter.2 ⟨hrecord, decide_eq_true hremote⟩, rfl⟩
    rw [lookup_gather, foldl_push, List.nil_append] at hids
    split at hids
    · cases hids
    next hne =>
      obtain rfl := Option.some.inj hids
      have hunder : ∀ record, record ∈ under (fun record : BorrowRecord =>
          toUInt16 record.borrowRemoteNuma) numaId
            (records.filter fun record => 0 ≤ record.borrowRemoteNuma) ↔ record ∈ records ∧
              0 ≤ record.borrowRemoteNuma ∧ toUInt16 record.borrowRemoteNuma = numaId := by
        intro record
        rw [under, List.mem_filter, List.mem_filter, decide_eq_true_eq, decide_eq_true_eq,
          and_assoc]
      refine ⟨?_, fun id => ?_⟩
      · obtain ⟨record, hrecord⟩ := List.exists_mem_of_ne_nil _ hne
        obtain ⟨hmem, hkey⟩ := List.mem_filter.1 hrecord
        exact List.mem_map.2 ⟨record, hmem, of_decide_eq_true hkey⟩
      · rw [List.mem_map]
        refine exists_congr fun record => ?_
        rw [hunder, and_assoc, and_assoc]
        exact and_congr_right fun _ => ⟨fun h => ⟨h.2.2, h.1, h.2.1⟩, fun h => ⟨h.2.1, h.2.2, h.1⟩⟩

end Borrow

/-! ### A pending entry -/

section Pending

theorem Left.concat {calls : List (Call × Reply)} {pid : Pid} {numaId : Nat}
    (h : Left calls pid numaId) (x : Call × Reply) : Left (calls ++ [x]) pid numaId := by
  obtain ⟨e, he, hleft⟩ := h
  exact ⟨e, List.mem_append_left _ he, hleft⟩

/-- The borrow ids of an entry were given by a call, and since then the NUMA nodes that count as
migrated were left. -/
def GivenBy (pid : Pid) (state : PendingMigrationState) (e : Call × Reply)
    (later : List (Call × Reply)) : Prop :=
  e.1.pid = pid ∧ ∀ numaId ids, state.numaToBorrowIds.lookup numaId = some ids →
    (∀ id ∈ ids, ∃ record ∈ e.1.records, record.name = id ∧ 0 ≤ record.borrowRemoteNuma ∧
      toUInt16 record.borrowRemoteNuma = numaId) ∧
    (state.numaMigrated.lookup numaId = some true → Left (e :: later) pid numaId)

/-- **What holds of a pending entry** after some calls. -/
structure PendingOk (calls : List (Call × Reply)) (pid : Pid) (state : PendingMigrationState) :
    Prop where
  keys : ∀ numaId, (state.numaMigrated.lookup numaId).isSome ↔
    ∃ entry ∈ state.perNumaBorrows, entry.oldNumaId = numaId
  flags : state.migrated → ∀ numaId, (state.numaMigrated.lookup numaId).isSome →
    state.numaMigrated.lookup numaId = some true
  flagged : ∃ numaId, (state.numaMigrated.lookup numaId).isSome
  remote : ∀ numaId ids, state.numaToBorrowIds.lookup numaId = some ids →
    numaId ∈ state.remoteNumaIds
  given : ∃ earlier e later, calls = earlier ++ e :: later ∧ GivenBy pid state e later
  freed : ∀ id ∈ state.freedOldBorrowIds, ∃ e ∈ calls, id ∈ e.2.freed

variable {calls : List (Call × Reply)} {pid : Pid} {state : PendingMigrationState}

theorem PendingOk.concat (h : PendingOk calls pid state) (x : Call × Reply) :
    PendingOk (calls ++ [x]) pid state where
  keys := h.keys
  flags := h.flags
  flagged := h.flagged
  remote := h.remote
  given := by
    obtain ⟨earlier, e, later, rfl, hpid, hgiven⟩ := h.given
    refine ⟨earlier, e, later ++ [x], by simp, hpid, fun numaId ids hids => ?_⟩
    obtain ⟨hrecords, hleft⟩ := hgiven numaId ids hids
    exact ⟨hrecords, fun hflag => (hleft hflag).concat x⟩
  freed id hid := by
    obtain ⟨e, he, hfreed⟩ := h.freed id hid
    exact ⟨e, List.mem_append_left _ he, hfreed⟩

/-- The flags after some entries are marked. -/
theorem lookup_foldl_insert (entries : List PerRemoteNumaBorrowResult) (b : Bool)
    (m : Map Nat Bool) (numaId : Nat) :
    (entries.foldl (fun m entry => m.insert entry.oldNumaId b) m).lookup numaId =
      if ∃ entry ∈ entries, entry.oldNumaId = numaId then some b else m.lookup numaId := by
  induction entries generalizing m with
  | nil => simp
  | cons entry entries ih =>
    rw [List.foldl_cons, ih, Map.lookup_insert_ite]
    by_cases hentries : ∃ entry ∈ entries, entry.oldNumaId = numaId
    · obtain ⟨entry', hmem, hkey⟩ := hentries
      rw [if_pos ⟨entry', hmem, hkey⟩, if_pos ⟨entry', List.mem_cons_of_mem _ hmem, hkey⟩]
    · rw [if_neg hentries]
      by_cases hkey : numaId = entry.oldNumaId
      · rw [if_pos hkey, if_pos ⟨entry, List.mem_cons_self, hkey.symm⟩]
      · rw [if_neg hkey, if_neg]
        rintro ⟨entry', hmem, heq⟩
        rcases List.mem_cons.1 hmem with rfl | hmem
        · exact hkey heq.symm
        · exact hentries ⟨entry', hmem, heq⟩

theorem lookup_markMigrated (entries : List PerRemoteNumaBorrowResult) (numaId : Nat) :
    (state.markMigrated entries).numaMigrated.lookup numaId =
      if ∃ entry ∈ entries, entry.oldNumaId = numaId then some true
      else state.numaMigrated.lookup numaId :=
  lookup_foldl_insert entries true state.numaMigrated numaId

/-- The process counts as migrated if all its NUMA nodes do. -/
theorem markMigrated_iff (entries : List PerRemoteNumaBorrowResult) :
    (state.markMigrated entries).migrated ↔ ∀ numaId b,
      (state.markMigrated entries).numaMigrated.lookup numaId = some b → b = true := by
  change ((state.markMigrated entries).numaMigrated.entries.all (·.2)) = true ↔ _
  rw [List.all_eq_true]
  constructor
  · intro h numaId b hlookup
    exact h ⟨numaId, b⟩ (Map.mem_entries_iff.2 hlookup)
  · rintro h ⟨numaId, b⟩ hmem
    exact h numaId b (Map.mem_entries_iff.1 hmem)

variable {o : Outcomes}

/-- What is in both entries. -/
def SameBorrows (state state' : PendingMigrationState) : Prop :=
  state'.perNumaBorrows = state.perNumaBorrows ∧ state'.numaToBorrowIds = state.numaToBorrowIds ∧
    state'.remoteNumaIds = state.remoteNumaIds ∧
    state'.freedOldBorrowIds = state.freedOldBorrowIds

/-- An entry with all flags set, since some NUMA nodes are idle and some are migrated. -/
structure Marked (state state' : PendingMigrationState) (idleNumas migratedNumas : List Nat) :
    Prop where
  same : SameBorrows state state'
  migrated : state'.migrated
  keys : ∀ numaId, (state'.numaMigrated.lookup numaId).isSome ↔
    (state.numaMigrated.lookup numaId).isSome
  flags : ∀ numaId, (state'.numaMigrated.lookup numaId).isSome →
    state'.numaMigrated.lookup numaId = some true
  left : ∀ numaId, numaId ∈ state.remoteNumaIds → state'.numaMigrated.lookup numaId = some true →
    state.numaMigrated.lookup numaId = some true ∨ numaId ∈ idleNumas ∨ numaId ∈ migratedNumas

theorem mem_migratedNumaIds (h : PendingOk calls pid state) (hmigrated : state.migrated)
    {numaId : Nat} : numaId ∈ state.migratedNumaIds o ↔
      (state.numaMigrated.lookup numaId).isSome := by
  rw [PendingMigrationState.migratedNumaIds, if_pos hmigrated, if_neg]
  · rw [List.mem_map]
    constructor
    · rintro ⟨⟨numaId, b⟩, hmem, rfl⟩
      rw [(o.numaMigrated.mem_run).1 (List.mem_filter.1 hmem).1]
      rfl
    · intro hsome
      have hflag := h.flags hmigrated numaId hsome
      exact ⟨(numaId, true), List.mem_filter.2 ⟨o.numaMigrated.mem_run.2 hflag, rfl⟩, rfl⟩
  · obtain ⟨numaId, hsome⟩ := h.flagged
    obtain ⟨b, hb⟩ := Option.isSome_iff_exists.1 hsome
    have hmem := Map.mem_keys_iff.2 ⟨b, hb⟩
    intro hempty
    rw [List.isEmpty_iff.1 hempty] at hmem
    cases hmem

/-- **The end of a call on an entry.** What it frees are borrow ids of the entry, and if it succeeds
then all of its migrated NUMA nodes are freed. -/
theorem finishPending_spec {x : Call × Reply} (h : PendingOk (calls ++ [x]) pid state)
    (hmigrated : state.migrated) {idle migrated : List Nat}
    (hx : x.2.freed = (finishPending o state idle migrated).freed) :
    PendingOk (calls ++ [x]) pid (finishPending o state idle migrated).state ∧
      (∀ id ∈ (finishPending o state idle migrated).freed, ∃ numaId ids,
        state.numaMigrated.lookup numaId = some true ∧
          state.numaToBorrowIds.lookup numaId = some ids ∧ id ∈ ids) ∧
      ((finishPending o state idle migrated).result = .ok → ∀ numaId ids id,
        (state.numaMigrated.lookup numaId).isSome →
          state.numaToBorrowIds.lookup numaId = some ids → id ∈ ids →
            id ∈ state.freedOldBorrowIds ∨ id ∈ (finishPending o state idle migrated).freed) := by
  have hfree := freedMore_finalize (o := o) state.numaToBorrowIds state.perNumaBorrows
    (state.migratedNumaIds o) state.freedOldBorrowIds
  obtain ⟨new, hnew, hmem⟩ := hfree.more
  have hdrop : (finishPending o state idle migrated).freed = new := by
    change List.drop _ (finalizePidProcessing o state.numaToBorrowIds state.perNumaBorrows
      (state.migratedNumaIds o) state.freedOldBorrowIds).freedOldBorrowIds = new
    rw [hnew]
    exact List.drop_left
  refine ⟨⟨h.keys, h.flags, h.flagged, h.remote, h.given, fun id hid => ?_⟩, fun id hid => ?_,
    fun hok numaId ids id hsome hids hid => ?_⟩
  · change id ∈ (finalizePidProcessing o state.numaToBorrowIds state.perNumaBorrows
      (state.migratedNumaIds o) state.freedOldBorrowIds).freedOldBorrowIds at hid
    rw [hnew] at hid
    rcases List.mem_append.1 hid with hid | hid
    · exact h.freed id hid
    · refine ⟨x, List.mem_append_right _ (List.mem_singleton_self x), ?_⟩
      rw [hx, hdrop]
      exact hid
  · rw [hdrop] at hid
    obtain ⟨numaId, hnuma, ids, hids, hid⟩ := mem_idsOf.1 (hmem id hid)
    exact ⟨numaId, ids, h.flags hmigrated numaId ((mem_migratedNumaIds h hmigrated).1 hnuma), hids,
      hid⟩
  · have hallOk : (finalizePidProcessing o state.numaToBorrowIds state.perNumaBorrows
        (state.migratedNumaIds o) state.freedOldBorrowIds).ok = true := by
      by_contra hfailed
      change (if _ then MpResult.ok else .returnMemError) = .ok at hok
      rw [if_neg hfailed] at hok
      cases hok
    have hfreed := (hfree.all hallOk).2 id
      (mem_idsOf.2 ⟨numaId, (mem_migratedNumaIds h hmigrated).2 hsome, ids, hids, hid⟩)
    rw [hnew] at hfreed
    rw [hdrop]
    exact List.mem_append.1 hfreed

/-- **The flags of an entry change**: some NUMA nodes are marked since they were left. -/
theorem PendingOk.mark (h : PendingOk calls pid state) {x : Call × Reply}
    {state' : PendingMigrationState} (hpid : x.1.pid = pid)
    (hmarked : Marked state state' x.2.idle x.2.migrated) :
    PendingOk (calls ++ [x]) pid state' := by
  obtain ⟨⟨hperNuma, hids, hremote, hfreed⟩, -, hkeys, hflags, hleft⟩ := hmarked
  refine ⟨fun numaId => ?_, fun _ => hflags, ?_, ?_, ?_, ?_⟩
  · rw [hperNuma, hkeys]
    exact h.keys numaId
  · obtain ⟨numaId, hsome⟩ := h.flagged
    exact ⟨numaId, (hkeys numaId).2 hsome⟩
  · rw [hids, hremote]
    exact h.remote
  · obtain ⟨earlier, e, later, hcalls, hpidOld, hgiven⟩ := h.given
    refine ⟨earlier, e, later ++ [x], by simp [hcalls], hpidOld, fun numaId ids hlookup => ?_⟩
    rw [hids] at hlookup
    obtain ⟨hrecords, hold⟩ := hgiven numaId ids hlookup
    refine ⟨hrecords, fun hflag => ?_⟩
    rcases hleft numaId (h.remote numaId ids hlookup) hflag with hflag | hnew
    · exact (hold hflag).concat x
    · refine ⟨x, List.mem_append_right (e :: later) (List.mem_singleton_self x), ?_⟩
      exact hnew.imp_right fun hmem => ⟨hpid, hmem⟩
  · rw [hfreed]
    exact (h.concat x).freed

/-- The entries that are not migrated yet are marked. -/
theorem marked_markMigrated (h : PendingOk calls pid state) :
    Marked state (state.markMigrated state.remaining) [] (state.remaining.map (·.oldNumaId)) := by
  have hentry : ∀ numaId, (∃ entry ∈ state.remaining, entry.oldNumaId = numaId) →
      (state.numaMigrated.lookup numaId).isSome := by
    rintro numaId ⟨entry, hmem, hnuma⟩
    exact (h.keys numaId).2 ⟨entry, (List.mem_filter.1 hmem).1, hnuma⟩
  have hflags : ∀ numaId, (state.numaMigrated.lookup numaId).isSome →
      (state.markMigrated state.remaining).numaMigrated.lookup numaId = some true := by
    intro numaId hsome
    rw [lookup_markMigrated]
    split
    next => rfl
    next hnot =>
      obtain ⟨entry, hmem, rfl⟩ := (h.keys numaId).1 hsome
      obtain ⟨b, hb⟩ := Option.isSome_iff_exists.1 hsome
      cases b with
      | true => exact hb
      | false =>
        refine absurd ⟨entry, List.mem_filter.2 ⟨hmem, ?_⟩, rfl⟩ hnot
        rw [hb]
        rfl
  have hkeys : ∀ numaId, ((state.markMigrated state.remaining).numaMigrated.lookup numaId).isSome ↔
      (state.numaMigrated.lookup numaId).isSome := by
    intro numaId
    refine ⟨fun hsome => ?_, fun hsome => by rw [hflags numaId hsome]; rfl⟩
    rw [lookup_markMigrated] at hsome
    split at hsome
    next hmem => exact hentry numaId hmem
    next => exact hsome
  refine ⟨⟨rfl, rfl, rfl, rfl⟩, ?_, hkeys,
    fun numaId hsome => hflags numaId ((hkeys numaId).1 hsome), fun numaId _ hflag => ?_⟩
  · rw [markMigrated_iff]
    intro numaId b hlookup
    have hflag := hflags numaId ((hkeys numaId).1 (by rw [hlookup]; rfl))
    rw [hlookup] at hflag
    exact Option.some.inj hflag
  · rw [lookup_markMigrated] at hflag
    split at hflag
    next hmem =>
      obtain ⟨entry, hmem, rfl⟩ := hmem
      exact .inr (.inr (List.mem_map_of_mem hmem))
    next => exact .inl hflag

/-- All NUMA nodes are marked. -/
theorem marked_markIdle : Marked state state.markIdle state.remoteNumaIds [] := by
  have hlookup : ∀ numaId, state.markIdle.numaMigrated.lookup numaId =
      (state.numaMigrated.lookup numaId).map fun _ => true :=
    fun numaId => Map.lookup_mapValues ..
  refine ⟨⟨rfl, rfl, rfl, rfl⟩, rfl, fun numaId => ?_, fun numaId hsome => ?_,
    fun numaId hmem _ => .inr (.inl hmem)⟩
  · rw [hlookup, Option.isSome_map]
  · rw [hlookup, Option.isSome_map] at hsome
    rw [hlookup]
    obtain ⟨b, hb⟩ := Option.isSome_iff_exists.1 hsome
    rw [hb]
    rfl

/-- **A call on an entry** fails with the entry as it was, or marks all its NUMA nodes and frees. -/
theorem processPendingMigration_cases (o : Outcomes) (h : PendingOk calls pid state) :
    processPendingMigration o state = ⟨.migrateError, state, [], [], []⟩ ∨
      ∃ state' idle migrated, Marked state state' idle migrated ∧
        processPendingMigration o state = finishPending o state' idle migrated := by
  rw [processPendingMigration]
  split
  next hmigrated =>
    exact .inr ⟨state, [], [], ⟨⟨rfl, rfl, rfl, rfl⟩, hmigrated, fun _ => .rfl, h.flags hmigrated,
      fun _ _ hflag => .inl hflag⟩, rfl⟩
  split
  next => exact .inr ⟨state.markIdle, state.remoteNumaIds, [], marked_markIdle, rfl⟩
  split
  next hempty =>
    have hmarked := marked_markMigrated h
    rw [List.isEmpty_iff.1 hempty] at hmarked
    exact .inr ⟨_, [], [], hmarked, rfl⟩
  split
  next => exact .inl rfl
  split
  next => exact .inl rfl
  next => exact .inr ⟨_, [], _, marked_markMigrated h, rfl⟩

end Pending

/-! ### Calls in a run -/

section Run

variable {calls : List (Call × Reply)} {pendingMigrations : Map Pid PendingMigrationState}
  {c : Call} {state : PendingMigrationState}

/-- A call on an entry. -/
theorem finished_pending (hlookup : pendingMigrations.lookup c.pid = some state)
    (h : PendingOk calls c.pid state) (hmeets : Meets pendingMigrations c) :
    Finished calls c (processSinglePidFault pendingMigrations c) ∧
      ∀ state', (processSinglePidFault pendingMigrations c).pendingMigrations.lookup c.pid =
        some state' → PendingOk (calls ++ [(c, processSinglePidFault pendingMigrations c)]) c.pid
          state' := by
  rw [Meets, hlookup] at hmeets
  have hreply : processSinglePidFault pendingMigrations c =
      { result := (processPendingMigration c.outcomes state).result
        pendingMigrations :=
          if (processPendingMigration c.outcomes state).result = .ok ∧
              (processPendingMigration c.outcomes state).state.migrated ∧
              (processPendingMigration c.outcomes state).state.oldBorrowIds.length ≤
                (processPendingMigration c.outcomes state).state.freedOldBorrowIds.length then
            pendingMigrations.erase c.pid
          else pendingMigrations.insert c.pid (processPendingMigration c.outcomes state).state
        idle := (processPendingMigration c.outcomes state).idle
        migrated := (processPendingMigration c.outcomes state).migrated
        freed := (processPendingMigration c.outcomes state).freed
        reused := state.perNumaBorrows.map (·.newBorrowId) } := by
    rw [processSinglePidFault, hlookup]
  generalize processSinglePidFault pendingMigrations c = r at hreply ⊢
  -- the entry that is left, if one is
  have hleft : ∀ state', r.pendingMigrations.lookup c.pid = some state' →
      state' = (processPendingMigration c.outcomes state).state := by
    intro state' hstate'
    rw [hreply] at hstate'
    dsimp only at hstate'
    split at hstate'
    · rw [Map.lookup_erase_ite, if_pos rfl] at hstate'
      cases hstate'
    · rw [Map.lookup_insert_ite, if_pos rfl] at hstate'
      exact (Option.some.inj hstate').symm
  rcases processPendingMigration_cases c.outcomes h with
    hfail | ⟨state', idle, migrated, hmarked, hend⟩
  · rw [hfail] at hreply hleft
    refine ⟨⟨fun hok => ?_, fun id hid => ?_⟩, fun state' hstate' => ?_⟩
    · rw [hreply] at hok
      cases hok
    · rw [hreply] at hid
      cases hid
    · rw [hleft state' hstate']
      exact h.concat _
  · rw [hend] at hreply hleft
    have hx : r.freed = (finishPending c.outcomes state' idle migrated).freed := by rw [hreply]
    have hidle : r.idle = idle := by rw [hreply]; rfl
    have hmigrated : r.migrated = migrated := by rw [hreply]; rfl
    have hok' := h.mark (x := (c, r)) rfl (by
      change Marked state state' r.idle r.migrated
      rwa [hidle, hmigrated])
    obtain ⟨hpending, hfreed, hall⟩ := finishPending_spec (x := (c, r)) hok' hmarked.migrated hx
    obtain ⟨hperNuma, hids, hremote, hfreedOld⟩ := hmarked.same
    refine ⟨⟨fun hok record hrecord => ?_, fun id hid => ?_⟩, fun state'' hstate'' => ?_⟩
    · have hname : record.name ∈ state'.freedOldBorrowIds ∨ record.name ∈ r.freed := by
        rcases hmeets record hrecord with hfreedAlready | ⟨numaId, ids, hsome, hlookupIds, hid⟩
        · rw [hfreedOld]
          exact .inl hfreedAlready
        · rw [hx]
          rw [hreply] at hok
          exact hall hok numaId ids _ ((hmarked.keys numaId).2 hsome) (hids ▸ hlookupIds) hid
      rcases hname with hname | hname
      · obtain ⟨e, he, hmem⟩ := hok'.freed _ hname
        exact ⟨e, he, hmem⟩
      · exact ⟨(c, r), List.mem_append_right _ (List.mem_singleton_self _), hname⟩
    · rw [hx] at hid
      obtain ⟨numaId, ids, hflag, hlookupIds, hid⟩ := hfreed id hid
      obtain ⟨earlier, e, later, hcalls, hpid, hgiven⟩ := hok'.given
      obtain ⟨hrecords, hleftNuma⟩ := hgiven numaId ids hlookupIds
      obtain ⟨record, hrecord, hname, hremoteNuma, rfl⟩ := hrecords id hid
      exact ⟨earlier, e, later, hcalls, hpid, record, hrecord, hname, hremoteNuma, hleftNuma hflag⟩
    · rw [hleft state'' hstate'']
      exact hpending

/-- An entry of new memory, in the call that borrows it. -/
theorem pendingOk_new {targets : List SimplifiedFaultPidAllocTarget} {ctx : PidBorrowContext}
    {r : Reply} (hcollect : collectPidBorrowInfo c.records targets = some ctx)
    {perNuma : List PerRemoteNumaBorrowResult} (hperNuma : perNuma ≠ [])
    (hsame : SameBorrows (recordPendingMigrationState ctx perNuma) state)
    (hkeys : ∀ numaId, (state.numaMigrated.lookup numaId).isSome ↔
      ∃ entry ∈ perNuma, entry.oldNumaId = numaId)
    (hflags : state.migrated → ∀ numaId, (state.numaMigrated.lookup numaId).isSome →
      state.numaMigrated.lookup numaId = some true)
    (hleft : ∀ numaId, state.numaMigrated.lookup numaId = some true → numaId ∈ r.migrated) :
    PendingOk (calls ++ [(c, r)]) c.pid state := by
  obtain ⟨-, -, -, -, hids, -⟩ := collectPidBorrowInfo_spec hcollect
  obtain ⟨hsamePer, hsameIds, hsameRemote, hsameFreed⟩ := hsame
  refine ⟨fun numaId => ?_, hflags, ?_, fun numaId ids h => ?_, ?_, fun id hid => ?_⟩
  · rw [hkeys, hsamePer]
    rfl
  · obtain ⟨entry, hmem⟩ := List.exists_mem_of_ne_nil _ hperNuma
    exact ⟨entry.oldNumaId, (hkeys _).2 ⟨entry, hmem, rfl⟩⟩
  · rw [hsameIds] at h
    rw [hsameRemote]
    exact (hids numaId ids h).1
  · refine ⟨calls, (c, r), [], rfl, rfl, fun numaId ids h => ⟨fun id hid => ?_, fun hflag => ?_⟩⟩
    · rw [hsameIds] at h
      exact ((hids numaId ids h).2 id).1 hid
    · exact ⟨(c, r), List.mem_singleton_self _, .inr ⟨rfl, hleft numaId hflag⟩⟩
  · rw [hsameFreed] at hid
    cases hid

theorem lookup_record (ctx : PidBorrowContext) (perNuma : List PerRemoteNumaBorrowResult)
    (numaId : Nat) : (recordPendingMigrationState ctx perNuma).numaMigrated.lookup numaId =
      if ∃ entry ∈ perNuma, entry.oldNumaId = numaId then some false else none :=
  lookup_foldl_insert perNuma false ∅ numaId

theorem isSome_ite {p : Prop} [Decidable p] (b : Bool) :
    (if p then some b else none).isSome = true ↔ p := by
  split
  next h => exact ⟨fun _ => h, fun _ => rfl⟩
  next h => exact ⟨fun hnone => absurd hnone (by simp), fun hp => absurd hp h⟩

/-- Nothing is migrated yet. -/
theorem pendingOk_record {targets : List SimplifiedFaultPidAllocTarget} {ctx : PidBorrowContext}
    (r : Reply) (hcollect : collectPidBorrowInfo c.records targets = some ctx)
    {perNuma : List PerRemoteNumaBorrowResult} (hperNuma : perNuma ≠ []) :
    PendingOk (calls ++ [(c, r)]) c.pid (recordPendingMigrationState ctx perNuma) := by
  refine pendingOk_new hcollect hperNuma ⟨rfl, rfl, rfl, rfl⟩ (fun numaId => ?_)
    (fun h => absurd h (by simp [recordPendingMigrationState])) fun numaId hflag => ?_
  · rw [lookup_record]
    exact isSome_ite false
  · rw [lookup_record] at hflag
    split at hflag
    · cases hflag
    · cases hflag

/-- Everything is migrated. -/
theorem pendingOk_migrated {targets : List SimplifiedFaultPidAllocTarget} {ctx : PidBorrowContext}
    {r : Reply} (hcollect : collectPidBorrowInfo c.records targets = some ctx)
    {perNuma : List PerRemoteNumaBorrowResult} (hperNuma : perNuma ≠ [])
    (hr : r.migrated = perNuma.map (·.oldNumaId)) :
    PendingOk (calls ++ [(c, r)]) c.pid
      ((recordPendingMigrationState ctx perNuma).markMigrated perNuma) := by
  have hlookup : ∀ numaId, ((recordPendingMigrationState ctx perNuma).markMigrated
      perNuma).numaMigrated.lookup numaId =
        if ∃ entry ∈ perNuma, entry.oldNumaId = numaId then some true else none := by
    intro numaId
    rw [lookup_markMigrated, lookup_record]
    split <;> rfl
  refine pendingOk_new hcollect hperNuma ⟨rfl, rfl, rfl, rfl⟩ (fun numaId => ?_)
    (fun _ numaId hsome => ?_) fun numaId hflag => ?_
  · rw [hlookup]
    exact isSome_ite true
  · rw [hlookup] at hsome ⊢
    rw [if_pos ((isSome_ite true).1 hsome)]
  · rw [hlookup] at hflag
    split at hflag
    next hmem =>
      obtain ⟨entry, hmem, rfl⟩ := hmem
      rw [hr]
      exact List.mem_map_of_mem hmem
    next => cases hflag

/-- **What a call without an entry does**: nothing, or it frees at once, or it borrows and cannot
migrate, or it borrows, migrates and frees. -/
theorem processNewBorrowFlow_cases (o : Outcomes)
    (pendingMigrations : Map Pid PendingMigrationState) (pid : Pid) (records : List BorrowRecord)
    (allocTargets : List SimplifiedFaultPidAllocTarget) :
    (∃ result borrowed, result ≠ .ok ∧ ((∀ i, o.rollback i) → borrowed = []) ∧
      processNewBorrowFlow o pendingMigrations pid records allocTargets =
        { result := result, pendingMigrations := pendingMigrations, borrowed := borrowed }) ∨
    ∃ ctx, collectPidBorrowInfo records (uniqueTargets (o.sortTargets.sort allocTargets)) =
        some ctx ∧
      ((canDirectlyReturnRemoteNumas o ctx.remoteNumaIds ∧
        processNewBorrowFlow o pendingMigrations pid records allocTargets =
          { result := if (freeBorrowIdsDirectly o ctx.oldBorrowIds).2 then .ok else .returnMemError
            pendingMigrations := if (freeBorrowIdsDirectly o ctx.oldBorrowIds).2 then
              pendingMigrations.erase pid else pendingMigrations
            idle := ctx.remoteNumaIds
            freed := (freeBorrowIdsDirectly o ctx.oldBorrowIds).1 }) ∨
      (canDirectlyReturnRemoteNumas o ctx.remoteNumaIds = false ∧ ∃ perNuma, perNuma ≠ [] ∧
        perNuma.map (·.oldNumaId) = ctx.allocLendTargets.map (·.srcFaultNumaId) ∧
        (processNewBorrowFlow o pendingMigrations pid records allocTargets =
            { result := .migrateError
              pendingMigrations :=
                pendingMigrations.insert pid (recordPendingMigrationState ctx perNuma)
              borrowed := perNuma.map (·.newBorrowId) } ∨
          ∃ free, FreedMore ⟨0, [], true⟩ free
              (idsOf ctx.numaToBorrowIds (perNuma.map (·.oldNumaId))) ∧
            processNewBorrowFlow o pendingMigrations pid records allocTargets =
              { result := if free.ok then .ok else .returnMemError
                pendingMigrations :=
                  if free.ok then
                    ((pendingMigrations.insert pid
                      (recordPendingMigrationState ctx perNuma)).insert pid
                        ((recordPendingMigrationState ctx perNuma).markMigrated perNuma)).erase pid
                  else
                    (pendingMigrations.insert pid
                      (recordPendingMigrationState ctx perNuma)).insert pid
                        ((recordPendingMigrationState ctx perNuma).markMigrated perNuma)
                migrated := perNuma.map (·.oldNumaId)
                freed := free.freedOldBorrowIds
                borrowed := perNuma.map (·.newBorrowId) }))) := by
  rw [processNewBorrowFlow]
  rcases hcollect : collectPidBorrowInfo records
    (uniqueTargets (o.sortTargets.sort allocTargets)) with _ | ctx
  · exact .inl ⟨.resourceCollectError, [], nofun, fun _ => rfl, rfl⟩
  dsimp only
  split
  next hidle => exact .inr ⟨ctx, rfl, .inl ⟨hidle, rfl⟩⟩
  next hbusy =>
    split
    · exact .inl ⟨.migrateError, [], nofun, fun _ => rfl, rfl⟩
    obtain ⟨hsome, hnone⟩ := executeBorrowForPid_spec (o := o) ctx
    generalize executeBorrowForPid o ctx = borrow at hsome hnone ⊢
    obtain ⟨perNuma, borrowed⟩ := borrow
    rcases perNuma with _ | perNuma
    · exact .inl ⟨.borrowMemError, borrowed, nofun, hnone rfl, rfl⟩
    obtain ⟨rfl, hperNuma, hnumas⟩ := hsome perNuma rfl
    refine .inr ⟨ctx, rfl, .inr ⟨Bool.eq_false_iff.2 hbusy, perNuma, hperNuma, hnumas, ?_⟩⟩
    dsimp only
    split
    · exact .inl rfl
    · exact .inr ⟨_, freedMore_finalize ctx.numaToBorrowIds perNuma _ [], rfl⟩

/-- A call without an entry. -/
theorem finished_new (hlookup : pendingMigrations.lookup c.pid = none)
    (hmeets : Meets pendingMigrations c) :
    Finished calls c (processSinglePidFault pendingMigrations c) ∧
      ∀ state', (processSinglePidFault pendingMigrations c).pendingMigrations.lookup c.pid =
        some state' → PendingOk (calls ++ [(c, processSinglePidFault pendingMigrations c)]) c.pid
          state' := by
  rw [Meets, hlookup] at hmeets
  obtain ⟨hremote, hcovered, -⟩ := hmeets
  have hreply : processSinglePidFault pendingMigrations c = processNewBorrowFlow c.outcomes
      pendingMigrations c.pid c.records c.allocTargets := by
    rw [processSinglePidFault, hlookup]
  have hlast : ∀ r : Reply, (c, r) ∈ calls ++ [(c, r)] :=
    fun r => List.mem_append_right _ (List.mem_singleton_self _)
  -- a record and its NUMA node, which this call has left
  have hgiven : ∀ (r : Reply), ∀ record ∈ c.records,
      (toUInt16 record.borrowRemoteNuma ∈ r.idle ∨ toUInt16 record.borrowRemoteNuma ∈ r.migrated) →
      ∃ earlier e later, calls ++ [(c, r)] = earlier ++ e :: later ∧ e.1.pid = c.pid ∧
        ∃ record' ∈ e.1.records, record'.name = record.name ∧ 0 ≤ record'.borrowRemoteNuma ∧
          Left (e :: later) c.pid (toUInt16 record'.borrowRemoteNuma) := by
    intro r record hrecord hleft
    refine ⟨calls, (c, r), [], rfl, rfl, record, hrecord, rfl, hremote record hrecord, (c, r),
      List.mem_singleton_self _, hleft.imp_right fun hmem => ⟨rfl, hmem⟩⟩
  rw [hreply]
  rcases processNewBorrowFlow_cases c.outcomes pendingMigrations c.pid c.records c.allocTargets with
    ⟨result, borrowed, hresult, -, hr⟩ | ⟨ctx, hcollect, hr⟩
  · rw [hr]
    refine ⟨⟨fun hok => absurd hok hresult, fun id hid => ?_⟩, fun state' hstate' => ?_⟩
    · cases hid
    · rw [hlookup] at hstate'
      cases hstate'
  obtain ⟨hrecords, hold, hnumas, htargets, hids, hidsSome⟩ := collectPidBorrowInfo_spec hcollect
  have hnumaMem : ∀ record ∈ c.records, toUInt16 record.borrowRemoteNuma ∈ ctx.remoteNumaIds := by
    intro record hrecord
    rw [hnumas]
    exact List.mem_map.2
      ⟨record, List.mem_filter.2 ⟨hrecord, decide_eq_true (hremote record hrecord)⟩, rfl⟩
  rcases hr with ⟨hidle, hr⟩ | ⟨hbusy, perNuma, hperNuma, holdNumas, hr | ⟨free, hfree, hr⟩⟩
  · rw [hold] at hr
    rw [hr]
    obtain ⟨hsub, hall⟩ := freeBorrowIdsDirectly_spec (o := c.outcomes) (c.records.map (·.name))
    refine ⟨⟨fun hok record hrecord => ⟨_, hlast _, ?_⟩, fun id hid => ?_⟩,
      fun state' hstate' => ?_⟩
    · dsimp only at hok ⊢
      split at hok
      next hfree => exact hall hfree _ (List.mem_map_of_mem hrecord)
      next => cases hok
    · obtain ⟨record, hrecord, rfl⟩ := List.mem_map.1 (hsub id hid)
      exact hgiven _ record hrecord (.inl (hnumaMem record hrecord))
    · dsimp only at hstate'
      split at hstate'
      · rw [Map.lookup_erase_ite, if_pos rfl] at hstate'
        cases hstate'
      · rw [hlookup] at hstate'
        cases hstate'
  · rw [hr]
    refine ⟨⟨fun hok => ?_, fun id hid => ?_⟩, fun state' hstate' => ?_⟩
    · cases hok
    · cases hid
    · dsimp only at hstate'
      rw [Map.lookup_insert_ite, if_pos rfl] at hstate'
      obtain rfl := Option.some.inj hstate'
      exact pendingOk_record _ hcollect hperNuma
  · -- every NUMA node of the records has new memory
    have hborrowed : ∀ record ∈ c.records,
        toUInt16 record.borrowRemoteNuma ∈ perNuma.map (·.oldNumaId) := by
      intro record hrecord
      rcases hcovered with hallIdle | hcovered
      · have hidle : canDirectlyReturnRemoteNumas c.outcomes ctx.remoteNumaIds = true := by
          rw [canDirectlyReturnRemoteNumas, Bool.and_eq_true, List.all_eq_true]
          refine ⟨?_, fun numaId hmem => ?_⟩
          · rw [Bool.not_eq_true', List.isEmpty_eq_false_iff]
            exact List.ne_nil_of_mem (hnumaMem record hrecord)
          · rw [hnumas] at hmem
            obtain ⟨record', hrecord', rfl⟩ := List.mem_map.1 hmem
            exact hallIdle record' (List.mem_filter.1 hrecord').1
        rw [hbusy] at hidle
        cases hidle
      · obtain ⟨target, htarget, hnuma⟩ := hcovered record hrecord
        obtain ⟨target', htarget', hnuma'⟩ := exists_mem_uniqueTargets (o := c.outcomes) htarget
        rw [holdNumas, htargets, ← hnuma, ← hnuma']
        exact List.mem_map_of_mem htarget'
    rw [hr]
    refine ⟨⟨fun hok record hrecord => ⟨_, hlast _, ?_⟩, fun id hid => ?_⟩,
      fun state' hstate' => ?_⟩
    · dsimp only at hok ⊢
      split at hok
      next hfreeOk =>
        obtain ⟨ids, hlookupIds⟩ :=
          Option.isSome_iff_exists.1 (hidsSome record hrecord (hremote record hrecord))
        refine (hfree.all hfreeOk).2 _
          (mem_idsOf.2 ⟨_, hborrowed record hrecord, ids, hlookupIds, ?_⟩)
        exact ((hids _ ids hlookupIds).2 _).2
          ⟨record, hrecord, rfl, hremote record hrecord, rfl⟩
      next => cases hok
    · obtain ⟨new, hnew, hmem⟩ := hfree.more
      dsimp only at hid
      rw [hnew, List.nil_append] at hid
      obtain ⟨numaId, hnumaId, ids, hlookupIds, hid⟩ := mem_idsOf.1 (hmem id hid)
      obtain ⟨record, hrecord, rfl, -, rfl⟩ := ((hids numaId ids hlookupIds).2 id).1 hid
      exact hgiven _ record hrecord (.inr hnumaId)
    · dsimp only at hstate'
      split at hstate'
      · rw [Map.lookup_erase_ite, if_pos rfl] at hstate'
        cases hstate'
      · rw [Map.lookup_insert_ite, if_pos rfl] at hstate'
        obtain rfl := Option.some.inj hstate'
        exact pendingOk_migrated hcollect hperNuma rfl

/-- A call concerns the entry of its process alone. -/
theorem lookup_of_ne {pid : Pid} (hne : pid ≠ c.pid) :
    (processSinglePidFault pendingMigrations c).pendingMigrations.lookup pid =
      pendingMigrations.lookup pid := by
  rw [processSinglePidFault]
  split
  · dsimp only
    split
    · rw [Map.lookup_erase_ite, if_neg hne]
    · rw [Map.lookup_insert_ite, if_neg hne]
  · rcases processNewBorrowFlow_cases c.outcomes pendingMigrations c.pid c.records c.allocTargets
      with ⟨result, borrowed, -, -, hr⟩ | ⟨ctx, -, ⟨-, hr⟩ | ⟨-, perNuma, -, -, hr | ⟨free, -, hr⟩⟩⟩
    · rw [hr]
    · rw [hr]
      dsimp only
      split
      · rw [Map.lookup_erase_ite, if_neg hne]
      · rfl
    · rw [hr]
      dsimp only
      rw [Map.lookup_insert_ite, if_neg hne]
    · rw [hr]
      dsimp only
      split
      · rw [Map.lookup_erase_ite, if_neg hne, Map.lookup_insert_ite, if_neg hne,
          Map.lookup_insert_ite, if_neg hne]
      · rw [Map.lookup_insert_ite, if_neg hne, Map.lookup_insert_ite, if_neg hne]

/-- **The invariant of a run**: every entry is as it should be. -/
def AllPendingOk (calls : List (Call × Reply))
    (pendingMigrations : Map Pid PendingMigrationState) : Prop :=
  ∀ pid state, pendingMigrations.lookup pid = some state → PendingOk calls pid state

/-- One more call. -/
theorem AllPendingOk.step (h : AllPendingOk calls pendingMigrations)
    (hmeets : Meets pendingMigrations c) :
    Finished calls c (processSinglePidFault pendingMigrations c) ∧
      AllPendingOk (calls ++ [(c, processSinglePidFault pendingMigrations c)])
        (processSinglePidFault pendingMigrations c).pendingMigrations := by
  have hown : Finished calls c (processSinglePidFault pendingMigrations c) ∧
      ∀ state', (processSinglePidFault pendingMigrations c).pendingMigrations.lookup c.pid =
        some state' → PendingOk (calls ++ [(c, processSinglePidFault pendingMigrations c)]) c.pid
          state' := by
    rcases hlookup : pendingMigrations.lookup c.pid with _ | state
    · exact finished_new hlookup hmeets
    · exact finished_pending hlookup (h c.pid state hlookup) hmeets
  refine ⟨hown.1, fun pid state hstate => ?_⟩
  rcases eq_or_ne pid c.pid with rfl | hne
  · exact hown.2 state hstate
  · rw [lookup_of_ne hne] at hstate
    exact (h pid state hstate).concat _

/-- A call on an entry keeps its new memory. -/
theorem perNumaBorrows_processPendingMigration (o : Outcomes) (state : PendingMigrationState) :
    (processPendingMigration o state).state.perNumaBorrows = state.perNumaBorrows := by
  rw [processPendingMigration]
  split
  · rfl
  split
  · rfl
  split
  · rfl
  split
  · rfl
  split <;> rfl

/-- **A call that fails with new memory keeps it** in the entry of its process. -/
theorem exists_entry (hmeets : Meets pendingMigrations c)
    (hfail : (processSinglePidFault pendingMigrations c).result ≠ .ok)
    (hmemory : (processSinglePidFault pendingMigrations c).borrowed ++
      (processSinglePidFault pendingMigrations c).reused ≠ []) :
    ∃ state, (processSinglePidFault pendingMigrations c).pendingMigrations.lookup c.pid =
        some state ∧ state.perNumaBorrows.map (·.newBorrowId) =
      (processSinglePidFault pendingMigrations c).borrowed ++
        (processSinglePidFault pendingMigrations c).reused := by
  rcases hlookup : pendingMigrations.lookup c.pid with _ | state
  · rw [Meets, hlookup] at hmeets
    have hreply : processSinglePidFault pendingMigrations c = processNewBorrowFlow c.outcomes
        pendingMigrations c.pid c.records c.allocTargets := by
      rw [processSinglePidFault, hlookup]
    rw [hreply] at hfail hmemory ⊢
    rcases processNewBorrowFlow_cases c.outcomes pendingMigrations c.pid c.records c.allocTargets
      with ⟨result, borrowed, -, hnothing, hr⟩ |
        ⟨ctx, -, ⟨-, hr⟩ | ⟨-, perNuma, -, -, hr | ⟨free, -, hr⟩⟩⟩
    · rw [hr, hnothing hmeets.2.2] at hmemory
      exact absurd rfl hmemory
    · rw [hr] at hmemory
      exact absurd rfl hmemory
    · rw [hr]
      refine ⟨_, Map.lookup_insert_ite .. |>.trans (if_pos rfl), ?_⟩
      exact (List.append_nil _).symm
    · rw [hr] at hfail ⊢
      dsimp only at hfail ⊢
      rcases hok : free.ok with _ | _
      · refine ⟨_, Map.lookup_insert_ite .. |>.trans (if_pos rfl), ?_⟩
        exact (List.append_nil _).symm
      · rw [hok] at hfail
        exact absurd rfl hfail
  · have hkept := perNumaBorrows_processPendingMigration c.outcomes state
    rw [processSinglePidFault, hlookup] at hfail ⊢
    dsimp only at hfail ⊢
    rw [if_neg fun h => hfail h.1]
    refine ⟨_, Map.lookup_insert_ite .. |>.trans (if_pos rfl), ?_⟩
    rw [hkept, List.nil_append]

/-- A call on an entry borrows nothing and takes over its memory. -/
theorem reused_of_lookup (h : pendingMigrations.lookup c.pid = some state) :
    (processSinglePidFault pendingMigrations c).borrowed = [] ∧
      (processSinglePidFault pendingMigrations c).reused =
        state.perNumaBorrows.map (·.newBorrowId) := by
  rw [processSinglePidFault, h]
  exact ⟨rfl, rfl⟩

/-- The entry waits for the next call of its process. -/
theorem reused_in_history {pid : Pid} {calls : List Call} {between later : List (Call × Reply)}
    {c' : Call} {r' : Reply} (h : pendingMigrations.lookup pid = some state)
    (hcalls : history pendingMigrations calls = between ++ (c', r') :: later)
    (hothers : ∀ e ∈ between, e.1.pid ≠ pid) (hpid : c'.pid = pid) :
    r'.borrowed = [] ∧ r'.reused = state.perNumaBorrows.map (·.newBorrowId) := by
  induction between generalizing pendingMigrations calls with
  | nil =>
    rcases calls with _ | ⟨c, calls⟩
    · cases hcalls
    · rw [history, List.nil_append, List.cons.injEq, Prod.mk.injEq] at hcalls
      obtain ⟨⟨rfl, rfl⟩, -⟩ := hcalls
      exact reused_of_lookup (hpid ▸ h)
  | cons e between ih =>
    rcases calls with _ | ⟨c, calls⟩
    · cases hcalls
    · rw [history, List.cons_append, List.cons.injEq] at hcalls
      obtain ⟨rfl, hcalls⟩ := hcalls
      obtain ⟨hne, hothers⟩ := List.forall_mem_cons.1 hothers
      refine ih ?_ hcalls hothers
      rw [lookup_of_ne (Ne.symm hne)]
      exact h

/-- Every run goes on as it should. -/
theorem allFinished_of_inv {before : List (Call × Reply)} (rest : List Call)
    (h : AllPendingOk before pendingMigrations) (hmeets : AllMeet pendingMigrations rest) :
    ∀ earlier c r after, history pendingMigrations rest = earlier ++ (c, r) :: after →
      Finished (before ++ earlier) c r ∧ UsedAgain c r after := by
  induction rest generalizing before pendingMigrations with
  | nil =>
    intro earlier c r after heq
    exact absurd heq (by simp [history])
  | cons c rest ih =>
    obtain ⟨hmeetsFirst, hmeetsRest⟩ := hmeets
    obtain ⟨hfinished, hinv⟩ := h.step hmeetsFirst
    intro earlier c' r' after heq
    rw [history] at heq
    rcases earlier with _ | ⟨e, earlier⟩
    · rw [List.nil_append, List.cons.injEq, Prod.mk.injEq] at heq
      obtain ⟨⟨rfl, rfl⟩, rfl⟩ := heq
      rw [List.append_nil]
      refine ⟨hfinished, fun hfail hmemory between c'' r'' later hlater hothers hpid => ?_⟩
      obtain ⟨state, hstate, hids⟩ := exists_entry hmeetsFirst hfail hmemory
      rw [← hids]
      exact reused_in_history hstate hlater hothers hpid
    · rw [List.cons_append, List.cons.injEq] at heq
      obtain ⟨rfl, heq⟩ := heq
      rw [List.append_cons]
      exact ih hinv hmeetsRest earlier c' r' after heq

/-- A debt of process 100. -/
def recordOn (name : String) (remoteNumaId : Int) : BorrowRecord :=
  convertDebtInfoToBorrowRecord
    { name := name, borrowNodeId := "1", usrInfo := ⟨PROCESS_MEM, 100, 7⟩, size := 2 ^ 20,
      remoteNumaId := remoteNumaId }

/-- The first lender fails, and the process cannot be migrated. -/
def failedCall : Call where
  pid := 100
  records := [recordOn "1-a" 4]
  allocTargets := [⟨"3", 0, 4, 1024⟩]
  outcomes := { borrowSplit := fun _ => some ("1-c", 7), migrate := false }

/-- The call is made again. -/
def retry : Call := { failedCall with outcomes := {} }

/-- Another lender fails. -/
def otherFault : Call :=
  { failedCall with
    records := [recordOn "1-b" 5]
    allocTargets := [⟨"3", 0, 5, 1024⟩]
    outcomes := {} }

end Run

end Simplified

end FaultNode

end UbsEngine
