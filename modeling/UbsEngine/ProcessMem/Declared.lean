import UbsEngine.Library.Grouping
import UbsEngine.ProcessMem.Borrow

/-!
# What is declared of a process

A declaration gives, for each local numa that pages come from, how much of them is to be on each
remote numa. `UbsEngine.ProcessMem.declaredTo` reads it: what it says of one pair of numas. Groups
that are made from contributions say what these add up to
(`UbsEngine.ProcessMem.declaredTo_targetGroups`), and the groups of
`UbsEngine.ProcessMem.buildMigrateTargets` say what the completed slots hold, in whole pages
(`UbsEngine.ProcessMem.declaredTo_buildMigrateTargets`).
-/

namespace UbsEngine

namespace ProcessMem

open Grouping

/-- What a declaration says of a local and a remote numa. -/
def declaredTo (groups : List MigrateOutGroup) (src dest : Int) : Nat :=
  summed (groups.map fun g => (g.srcNumaId, summed g.targets dest)) src

/-- The bytes of the completed slots of a local and a remote numa. -/
def pairBytes (slots : List BorrowSlot) (src dest : Int) : Nat :=
  (slots.map fun s =>
    if s.status = .COMPLETED ∧ s.srcNumaId = src ∧ s.remoteNumaId = dest then s.migratedBytes
    else 0).sum

theorem pairBytes_cons (s : BorrowSlot) (slots : List BorrowSlot) (src dest : Int) :
    pairBytes (s :: slots) src dest =
      (if s.status = .COMPLETED ∧ s.srcNumaId = src ∧ s.remoteNumaId = dest then s.migratedBytes
        else 0) + pairBytes slots src dest := by
  rw [pairBytes, List.map_cons, List.sum_cons]
  rfl

/-! ### Ordered maps of targets -/

theorem nodup_orderedKeys (keys : List Int) : (orderedKeys keys).Nodup := Finset.sort_nodup _ _

theorem mem_orderedKeys {keys : List Int} {k : Int} : k ∈ orderedKeys keys ↔ k ∈ keys := by
  rw [orderedKeys, Finset.mem_sort, List.mem_toFinset]

/-- The targets that contributions make, by local numa and then by remote numa. -/
def targetGroups (targets : List ((Int × Int) × Nat)) : List MigrateOutGroup :=
  (orderedKeys (targets.map (·.1.1))).map fun src =>
    { srcNumaId := src
      targets := (orderedKeys ((targets.filter fun t => t.1.1 = src).map (·.1.2))).map fun dest =>
        (dest, summed targets (src, dest)) }

/-- **Groups say what the contributions add up to.** -/
theorem declaredTo_targetGroups (targets : List ((Int × Int) × Nat)) (src dest : Int) :
    declaredTo (targetGroups targets) src dest = summed targets (src, dest) := by
  -- a pair without an entry has no contributions
  have hzero : (∀ t ∈ targets, t.1 ≠ (src, dest)) → 0 = summed targets (src, dest) :=
    fun h => (summed_eq_zero fun t ht hkey => absurd hkey (h t ht)).symm
  rw [declaredTo, targetGroups, List.map_map]
  refine (summed_keyed (nodup_orderedKeys _) _ src).trans ?_
  split
  next =>
    refine (summed_keyed (nodup_orderedKeys _) _ dest).trans ?_
    split
    next => rfl
    next hdest =>
      refine hzero fun t ht hkey => hdest (mem_orderedKeys.2 (List.mem_map.2 ⟨t, ?_, ?_⟩))
      · exact List.mem_filter.2 ⟨ht, decide_eq_true (congrArg Prod.fst hkey)⟩
      · exact congrArg Prod.snd hkey
  next hsrc =>
    refine hzero fun t ht hkey => hsrc (mem_orderedKeys.2 (List.mem_map.2 ⟨t, ht, ?_⟩))
    exact congrArg Prod.fst hkey

theorem pageAligned_zero : pageAligned 0 = 0 := rfl

/-- No slot and no increment declares anything of a pair. -/
theorem declaredBytes_eq_zero {slots : List BorrowSlot} {increments : List (Int × Nat)}
    {inFlightSrc src dest : Int}
    (hslots : ∀ s ∈ slots, ¬(s.capacity = 0 ∨ s.status ≠ .COMPLETED ∨ s.remoteNumaId < 0) →
      ¬(s.srcNumaId = src ∧ s.remoteNumaId = dest))
    (hinc : ∀ inc ∈ increments, ¬(inFlightSrc = src ∧ inc.1 = dest)) :
    declaredBytes slots increments inFlightSrc src dest = 0 := by
  refine Nat.add_eq_zero_iff.2 ⟨List.sum_eq_zero ?_, List.sum_eq_zero ?_⟩
  · intro n hn
    obtain ⟨s, hs, rfl⟩ := List.mem_map.1 hn
    split
    next => rfl
    next hcounts => exact if_neg (hslots s hs hcounts)
  · intro n hn
    obtain ⟨inc, hmem, rfl⟩ := List.mem_map.1 hn
    exact if_neg (hinc inc hmem)

/-- **The groups say what the completed slots and the increments declare, in whole pages.** -/
theorem declaredTo_buildMigrateTargets (slots : List BorrowSlot) (increments : List (Int × Nat))
    (inFlightSrc src dest : Int) :
    declaredTo (buildMigrateTargets slots increments inFlightSrc) src dest =
      pageAligned (declaredBytes slots increments inFlightSrc src dest) := by
  rw [declaredTo, buildMigrateTargets]
  dsimp only
  -- a group that is left out has no targets
  rw [summed_map_filter fun g _ hg => by
    have hnil : g.targets = [] := by simpa using hg
    rw [hnil, summed_nil], List.map_map]
  refine (summed_keyed (nodup_orderedKeys _) _ src).trans ?_
  dsimp only
  have hzero : (∀ s ∈ slots, ¬(s.capacity = 0 ∨ s.status ≠ .COMPLETED ∨ s.remoteNumaId < 0) →
      ¬(s.srcNumaId = src ∧ s.remoteNumaId = dest)) →
      (∀ inc ∈ increments, ¬(inFlightSrc = src ∧ inc.1 = dest)) →
      0 = pageAligned (declaredBytes slots increments inFlightSrc src dest) :=
    fun hs hinc => by rw [declaredBytes_eq_zero hs hinc, pageAligned_zero]
  split
  next =>
    rw [summed_filter_ne_zero]
    refine (summed_keyed (nodup_orderedKeys _) _ dest).trans ?_
    split
    next => rfl
    next hdest =>
      refine hzero (fun s hs hcounts hpair => hdest ?_) fun inc hinc hpair => hdest ?_
      · refine mem_orderedKeys.2 (List.mem_map.2 ⟨(s.srcNumaId, s.remoteNumaId), ?_, hpair.2⟩)
        refine List.mem_filter.2 ⟨List.mem_append_left _ (List.mem_map.2 ⟨s, ?_, rfl⟩), ?_⟩
        · exact List.mem_filter.2 ⟨hs, decide_eq_true hcounts⟩
        · exact decide_eq_true hpair.1
      · refine mem_orderedKeys.2 (List.mem_map.2 ⟨(inFlightSrc, inc.1), ?_, hpair.2⟩)
        refine List.mem_filter.2 ⟨List.mem_append_right _ (List.mem_map.2 ⟨inc, hinc, rfl⟩), ?_⟩
        exact decide_eq_true hpair.1
  next hsrc =>
    refine hzero (fun s hs hcounts hpair => hsrc ?_) fun inc hinc hpair => hsrc ?_
    · refine mem_orderedKeys.2 (List.mem_map.2 ⟨(s.srcNumaId, s.remoteNumaId), ?_, hpair.1⟩)
      refine List.mem_append_left _ (List.mem_map.2 ⟨s, ?_, rfl⟩)
      exact List.mem_filter.2 ⟨hs, decide_eq_true hcounts⟩
    · refine mem_orderedKeys.2 (List.mem_map.2 ⟨(inFlightSrc, inc.1), ?_, hpair.1⟩)
      exact List.mem_append_right _ (List.mem_map.2 ⟨inc, hinc, rfl⟩)

/-- Slots that hold no more than their capacity declare what they hold. -/
theorem declaredBytes_of_within {slots : List BorrowSlot}
    (h : ∀ s ∈ slots, s.status = .COMPLETED → s.migratedBytes ≤ s.capacity)
    (inFlightSrc src : Int) {dest : Int} (hdest : 0 ≤ dest) :
    declaredBytes slots [] inFlightSrc src dest = pairBytes slots src dest := by
  refine congrArg List.sum (List.map_congr_left fun s hs => ?_)
  have hwithin := h s hs
  split
  next hout =>
    split
    next hpair =>
      -- a completed slot on a remote numa that is left out has no capacity
      have := hwithin hpair.1
      have hcap : s.capacity = 0 := by
        rcases hout with hcap | hstatus | hneg
        · exact hcap
        · exact absurd hpair.1 hstatus
        · omega
      omega
    next => rfl
  next hin =>
    refine if_congr ⟨fun h => ⟨?_, h⟩, fun h => h.2⟩ rfl rfl
    by_contra hstatus
    exact hin (.inr (.inl hstatus))

/-- Groups for the same pairs of numas and with the same sizes. -/
theorem buildMigrateTargets_congr {slots slots' : List BorrowSlot} (inFlightSrc : Int)
    (hpairs : (slots'.filter fun s =>
        ¬(s.capacity = 0 ∨ s.status ≠ .COMPLETED ∨ s.remoteNumaId < 0)).map
          (fun s => (s.srcNumaId, s.remoteNumaId)) =
      (slots.filter fun s =>
        ¬(s.capacity = 0 ∨ s.status ≠ .COMPLETED ∨ s.remoteNumaId < 0)).map
          fun s => (s.srcNumaId, s.remoteNumaId))
    (hbytes : ∀ src dest, pageAligned (declaredBytes slots' [] inFlightSrc src dest) =
      pageAligned (declaredBytes slots [] inFlightSrc src dest)) :
    buildMigrateTargets slots' [] inFlightSrc = buildMigrateTargets slots [] inFlightSrc := by
  rw [buildMigrateTargets, buildMigrateTargets]
  simp only [hpairs, hbytes]

end ProcessMem

end UbsEngine
