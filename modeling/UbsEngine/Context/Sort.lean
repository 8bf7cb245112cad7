import UbsEngine.Context.Modules
import UbsEngine.Library.TopoOrder
import Mathlib.Data.Finset.Card

/-!
# The order of the modules

The sort of the modules is a search in depth. It gives an order in which every module comes after
what it depends on, and it gives one exactly when there is one: when all dependencies are registered
and none is cyclic (`UbsEngine.Context.topologicalSort_exact`).
-/

namespace UbsEngine

namespace Context

open TopoOrder Relation

variable {κ : Type*} [DecidableEq κ] {creatorMap : Map κ (ModuleEntry κ)}

/-- The first module depends on the second one. -/
def Dep (creatorMap : Map κ (ModuleEntry κ)) (a b : κ) : Prop := b ∈ dependenciesOf creatorMap a

theorem Dep.mem_keys {a b : κ} (h : Dep creatorMap a b) : a ∈ creatorMap.keys := by
  rw [Dep, dependenciesOf] at h
  by_contra hnot
  rw [AList.lookup_eq_none.2 hnot] at h
  exact absurd h List.not_mem_nil

theorem isSome_lookup_iff {a : κ} : (creatorMap.lookup a).isSome ↔ a ∈ creatorMap.keys :=
  AList.lookup_isSome

/-! ### One search -/

/-- What the search keeps: what is visited is sorted, and what is being visited is not yet. -/
structure SortState.Inv (creatorMap : Map κ (ModuleEntry κ)) (s : SortState κ) : Prop where
  visited : ∀ a, a ∈ s.visited ↔ a ∈ s.sorted
  nodup : s.sorted.Nodup
  ordered : Ordered (Dep creatorMap) s.sorted
  keys : ∀ a ∈ s.sorted, a ∈ creatorMap.keys
  visiting : ∀ a ∈ s.visiting, a ∈ creatorMap.keys ∧ a ∉ s.sorted

/-- A search only adds to what is sorted. -/
structure Searched (creatorMap : Map κ (ModuleEntry κ)) (s t : SortState κ) : Prop where
  inv : t.Inv creatorMap
  visiting : t.visiting = s.visiting
  sorted : ∀ a ∈ s.sorted, a ∈ t.sorted

theorem Searched.trans {s t u : SortState κ} (h : Searched creatorMap s t)
    (h' : Searched creatorMap t u) : Searched creatorMap s u :=
  ⟨h'.inv, h'.visiting.trans h.visiting, fun a ha => h'.sorted a (h.sorted a ha)⟩

/-- A search does what is wanted, or it has a reason to fail. -/
def Outcome (creatorMap : Map κ (ModuleEntry κ)) (wanted : SortState κ → Prop) :
    Except SortError (SortState κ) → Prop
  | .ok s => wanted s
  | .error .cyclicDependency => ∃ a, TransGen (Dep creatorMap) a a
  | .error .dependencyNotRegistered => ∃ a b, Dep creatorMap a b ∧ b ∉ creatorMap.keys

theorem Outcome.bind {wanted wanted' : SortState κ → Prop} {r : Except SortError (SortState κ)}
    {f : SortState κ → Except SortError (SortState κ)} (h : Outcome creatorMap wanted r)
    (hf : ∀ s, wanted s → Outcome creatorMap wanted' (f s)) :
    Outcome creatorMap wanted' (r >>= f) := by
  rcases r with (_ | _) | s
  · exact h
  · exact h
  · exact hf s h

theorem Outcome.mono {wanted wanted' : SortState κ → Prop} {r : Except SortError (SortState κ)}
    (h : Outcome creatorMap wanted r) (hw : ∀ s, wanted s → wanted' s) :
    Outcome creatorMap wanted' r := by
  rcases r with (_ | _) | s
  · exact h
  · exact h
  · exact hw s h

/-- What is being visited leads to the module that is visited next. -/
def Leads (creatorMap : Map κ (ModuleEntry κ)) (s : SortState κ) (name : κ) : Prop :=
  ∀ v ∈ s.visiting, TransGen (Dep creatorMap) v name

/-- **One search**, by induction on how deep it may still go. There is always enough left, as the
modules that are being visited are different ones. -/
theorem topologicalSortUtil_outcome (fuel : Nat) :
    ∀ (name : κ) (s : SortState κ), s.Inv creatorMap → name ∈ creatorMap.keys →
      Leads creatorMap s name → creatorMap.keys.length < fuel + s.visiting.card →
      Outcome creatorMap (fun t => Searched creatorMap s t ∧ name ∈ t.sorted)
        (topologicalSortUtil creatorMap fuel name s) := by
  induction fuel with
  | zero =>
    intro name s hinv _ _ hfuel
    have hsub : s.visiting ⊆ creatorMap.keys.toFinset := fun a ha =>
      List.mem_toFinset.2 (hinv.visiting a ha).1
    have hcard := (Finset.card_le_card hsub).trans (List.toFinset_card_le _)
    omega
  | succ fuel ih =>
    intro name s hinv hname hleads hfuel
    rw [topologicalSortUtil]
    split_ifs with hvisiting hvisited
    · exact ⟨name, hleads name hvisiting⟩
    · exact ⟨⟨hinv, rfl, fun a ha => ha⟩, (hinv.visited name).1 hvisited⟩
    · have hnot : name ∉ s.sorted := fun h => hvisited ((hinv.visited name).2 h)
      let s₀ : SortState κ := { s with visiting := insert name s.visiting }
      have hcard : s₀.visiting.card = s.visiting.card + 1 := Finset.card_insert_of_notMem hvisiting
      have hinv₀ : s₀.Inv creatorMap :=
        ⟨hinv.visited, hinv.nodup, hinv.ordered, hinv.keys, fun a ha => by
          rcases Finset.mem_insert.1 ha with rfl | ha
          · exact ⟨hname, hnot⟩
          · exact hinv.visiting a ha⟩
      -- The loop over the dependencies, by induction on those that are left.
      have hloop : ∀ (deps : List κ), (∀ d ∈ deps, Dep creatorMap name d) →
          ∀ t, Searched creatorMap s₀ t → Outcome creatorMap
            (fun u => Searched creatorMap s₀ u ∧ (∀ a ∈ t.sorted, a ∈ u.sorted) ∧
              ∀ d ∈ deps, d ∈ u.sorted)
            (deps.foldlM (fun s dependency =>
              if (creatorMap.lookup dependency).isSome then
                topologicalSortUtil creatorMap fuel dependency s
              else .error .dependencyNotRegistered) t) := by
        intro deps
        induction deps with
        | nil => exact fun _ t ht => ⟨ht, fun a ha => ha, fun d hd => absurd hd List.not_mem_nil⟩
        | cons d deps ihdeps =>
          intro hdeps t ht
          obtain ⟨hd, hdeps⟩ := List.forall_mem_cons.1 hdeps
          rw [List.foldlM_cons]
          by_cases hreg : (creatorMap.lookup d).isSome
          · rw [if_pos hreg]
            have hleads' : Leads creatorMap t d := by
              intro v hv
              rw [ht.visiting] at hv
              rcases Finset.mem_insert.1 hv with rfl | hv
              · exact .single hd
              · exact (hleads v hv).tail hd
            have hone := ih d t ht.inv (isSome_lookup_iff.1 hreg) hleads'
              (by rw [ht.visiting, hcard]; omega)
            refine hone.bind ?_
            rintro u ⟨hu, hdu⟩
            refine (ihdeps hdeps u (ht.trans hu)).mono ?_
            rintro v ⟨hv, hkeep, hall⟩
            refine ⟨hv, fun a ha => hkeep a (hu.sorted a ha), ?_⟩
            exact List.forall_mem_cons.2 ⟨hkeep d hdu, hall⟩
          · rw [if_neg hreg]
            exact ⟨name, d, hd, fun h => hreg (isSome_lookup_iff.2 h)⟩
      refine (hloop (dependenciesOf creatorMap name) (fun d hd => hd) s₀
        ⟨hinv₀, rfl, fun a ha => ha⟩).bind ?_
      rintro t ⟨ht, -, hall⟩
      have hnot' : name ∉ t.sorted :=
        (ht.inv.visiting name (by rw [ht.visiting]; exact Finset.mem_insert_self _ _)).2
      have hsame : t.visiting.erase name = s.visiting := by
        rw [ht.visiting]
        exact Finset.erase_insert hvisiting
      refine ⟨⟨⟨fun a => ?_, ?_, ?_, fun a ha => ?_, fun a ha => ?_⟩, hsame, fun a ha => ?_⟩, ?_⟩
      · rw [Finset.mem_insert, List.mem_append, List.mem_singleton, ht.inv.visited, or_comm]
      · rw [List.nodup_append]
        refine ⟨ht.inv.nodup, List.nodup_singleton name, ?_⟩
        rintro a ha b hb rfl
        exact hnot' (List.mem_singleton.1 hb ▸ ha)
      · exact ordered_concat.2 ⟨ht.inv.ordered, hall⟩
      · rcases List.mem_append.1 ha with ha | ha
        · exact ht.inv.keys a ha
        · rw [List.mem_singleton.1 ha]
          exact hname
      · rw [Finset.mem_erase, ht.visiting] at ha
        have ha' := (Finset.mem_insert.1 ha.2).resolve_left ha.1
        refine ⟨(hinv.visiting a ha').1, fun h => ?_⟩
        rcases List.mem_append.1 h with h | h
        · exact (ht.inv.visiting a (ht.visiting ▸ ha.2)).2 h
        · exact ha.1 (List.mem_singleton.1 h)
      · exact List.mem_append_left _ (ht.sorted a ha)
      · exact List.mem_append_right _ (List.mem_singleton_self name)

/-! ### The whole sort -/

/-- **The sort**: every module once, after what it depends on, or there is a reason to fail. -/
theorem topologicalSort_outcome (creatorMap : Map κ (ModuleEntry κ)) :
    (∃ l, topologicalSort creatorMap = .ok l ∧ l.Nodup ∧ (∀ a, a ∈ l ↔ a ∈ creatorMap.keys) ∧
      Ordered (Dep creatorMap) l) ∨
    (topologicalSort creatorMap = .error .cyclicDependency ∧
      ∃ a, TransGen (Dep creatorMap) a a) ∨
    (topologicalSort creatorMap = .error .dependencyNotRegistered ∧
      ∃ a b, Dep creatorMap a b ∧ b ∉ creatorMap.keys) := by
  have hloop : ∀ (names : List κ), (∀ a ∈ names, a ∈ creatorMap.keys) →
      ∀ s : SortState κ, s.Inv creatorMap → s.visiting = ∅ → Outcome creatorMap
        (fun t => t.Inv creatorMap ∧ (∀ a ∈ s.sorted, a ∈ t.sorted) ∧ ∀ a ∈ names, a ∈ t.sorted)
        (names.foldlM (fun s name => if name ∈ s.visited then .ok s
          else topologicalSortUtil creatorMap (creatorMap.keys.length + 1) name s) s) := by
    intro names
    induction names with
    | nil => exact fun _ s hinv _ => ⟨hinv, fun a ha => ha, fun a ha => absurd ha List.not_mem_nil⟩
    | cons name names ih =>
      intro hnames s hinv hvisiting
      obtain ⟨hname, hnames⟩ := List.forall_mem_cons.1 hnames
      rw [List.foldlM_cons]
      have hone : Outcome creatorMap (fun t => Searched creatorMap s t ∧ name ∈ t.sorted)
          (if name ∈ s.visited then .ok s
            else topologicalSortUtil creatorMap (creatorMap.keys.length + 1) name s) := by
        split_ifs with hvisited
        · exact ⟨⟨hinv, rfl, fun a ha => ha⟩, (hinv.visited name).1 hvisited⟩
        · refine topologicalSortUtil_outcome _ name s hinv hname ?_ (by omega)
          rintro v hv
          rw [hvisiting] at hv
          exact absurd hv (Finset.notMem_empty v)
      refine hone.bind ?_
      rintro t ⟨ht, hmem⟩
      refine (ih hnames t ht.inv (ht.visiting.trans hvisiting)).mono ?_
      rintro u ⟨hu, hkeep, hall⟩
      exact ⟨hu, fun a ha => hkeep a (ht.sorted a ha), List.forall_mem_cons.2 ⟨hkeep name hmem, hall⟩⟩
  have hinv : SortState.Inv creatorMap {} :=
    ⟨fun a => by simp, List.nodup_nil, ordered_nil _, fun a ha => absurd ha List.not_mem_nil,
      fun a ha => absurd ha (Finset.notMem_empty a)⟩
  have hall := hloop creatorMap.keys (fun a ha => ha) {} hinv rfl
  unfold topologicalSort
  generalize (List.foldlM (fun s name => if name ∈ s.visited then .ok s
    else topologicalSortUtil creatorMap (creatorMap.keys.length + 1) name s) {} creatorMap.keys :
      Except SortError (SortState κ)) = r at hall ⊢
  rcases r with (_ | _) | t
  · exact .inr (.inl ⟨rfl, hall⟩)
  · exact .inr (.inr ⟨rfl, hall⟩)
  · obtain ⟨ht, -, hkeys⟩ := hall
    exact .inl ⟨t.sorted, rfl, ht.nodup, fun a => ⟨ht.keys a, hkeys a⟩, ht.ordered⟩

/-- A sorted list is one of all modules, once each. -/
theorem sorted_of_ok {l : List κ} (h : topologicalSort creatorMap = .ok l) :
    l.Nodup ∧ (∀ a, a ∈ l ↔ a ∈ creatorMap.keys) ∧ Ordered (Dep creatorMap) l := by
  rcases topologicalSort_outcome creatorMap with ⟨l', h', hl⟩ | ⟨h', -⟩ | ⟨h', -⟩
  · rw [h'] at h
    cases h
    exact hl
  · rw [h'] at h
    cases h
  · rw [h'] at h
    cases h

/-- **The sort is exact**: it gives an order of all modules in which each comes after what it depends
on, and it fails only if a dependency is not registered or is cyclic, and says so. -/
theorem topologicalSort_exact (creatorMap : Map κ (ModuleEntry κ)) :
    (∀ l, topologicalSort creatorMap = .ok l →
      l.Perm creatorMap.keys ∧ Ordered (Dep creatorMap) l) ∧
    ((∃ l, topologicalSort creatorMap = .ok l) ↔
      (∀ a b, Dep creatorMap a b → b ∈ creatorMap.keys) ∧
        ∀ a, ¬ TransGen (Dep creatorMap) a a) ∧
    (topologicalSort creatorMap = .error .cyclicDependency →
      ∃ a, TransGen (Dep creatorMap) a a) ∧
    (topologicalSort creatorMap = .error .dependencyNotRegistered →
      ∃ a b, Dep creatorMap a b ∧ b ∉ creatorMap.keys) := by
  refine ⟨fun l h => ?_, ⟨?_, ?_⟩, fun h => ?_, fun h => ?_⟩
  · obtain ⟨hnodup, hmem, hordered⟩ := sorted_of_ok h
    exact ⟨(List.perm_ext_iff_of_nodup hnodup creatorMap.nodupKeys).2 hmem, hordered⟩
  · rintro ⟨l, h⟩
    obtain ⟨hnodup, hmem, hordered⟩ := sorted_of_ok h
    refine ⟨fun a b hdep => (hmem b).1 (hordered.mem ((hmem a).2 hdep.mem_keys) hdep), ?_⟩
    intro a hcycle
    -- A module on a cycle depends on something, so it is registered.
    obtain ⟨b, hdep, -⟩ := TransGen.head'_iff.1 hcycle
    exact hordered.acyclic hnodup ((hmem a).2 hdep.mem_keys) hcycle
  · rintro ⟨hreg, hacyclic⟩
    rcases topologicalSort_outcome creatorMap with ⟨l, h, -⟩ | ⟨-, a, ha⟩ | ⟨-, a, b, hdep, hnot⟩
    · exact ⟨l, h⟩
    · exact absurd ha (hacyclic a)
    · exact absurd (hreg a b hdep) hnot
  · rcases topologicalSort_outcome creatorMap with ⟨l, h', -⟩ | ⟨-, ha⟩ | ⟨h', -⟩
    · rw [h'] at h
      cases h
    · exact ha
    · rw [h'] at h
      cases h
  · rcases topologicalSort_outcome creatorMap with ⟨l, h', -⟩ | ⟨h', -⟩ | ⟨-, hab⟩
    · rw [h'] at h
      cases h
    · rw [h'] at h
      cases h
    · exact hab

end Context

end UbsEngine
