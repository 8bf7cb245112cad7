import UbsEngine.Debt.Ledger

/-!
# The index of the exports

Which node holds an export is answered by an index beside the tables of the nodes, and the
index is only worth what the six operations of the ledger make of it. Their effect is
described here twice: on the tables, as seen through
`UbsEngine.Debt.UbseMemTypeDebtMap.getResource`, and on the index.

An id whose export sits in two tables is a legal state of the ledger – the id of an export
names the borrow and not the lender – and then a removal from one of the tables takes the
only index entry along. `UbsEngine.Debt.IndexConsistent` is the property one wants of the
index, `UbsEngine.Debt.RemovesLastHolder` says of an operation that it does not do this, and
`UbsEngine.Debt.keeps_indexConsistent_iff` is the exact relation between the two over whole
runs.
-/

namespace UbsEngine

namespace Debt

variable {NodeId ResId T : Type*} [DecidableEq NodeId] [DecidableEq ResId]

/-! ### The operations as events -/

/-- One call on the ledger, with its arguments. -/
inductive LedgerOp (NodeId ResId T : Type*)
  /-- `PutResource`; a null pointer is `none`. -/
  | putResource (nodeId : NodeId) (resId : ResId) (obj : Option T)
  /-- `RemoveResource`. -/
  | removeResource (nodeId : NodeId) (resId : ResId)
  /-- `UpdateResource`. -/
  | updateResource (nodeId : NodeId) (resId : ResId) (modify : Modify T)
  /-- `RemoveNodeMap`. -/
  | removeNodeMap (nodeId : NodeId)
  /-- `RemoveOtherNodeMaps`. -/
  | removeOtherNodeMaps (excludeNodeId : NodeId)
  /-- `ClearAllNodeMaps`. -/
  | clearAllNodeMaps

/-- The ledger of an export kind after a call. -/
def applyOp (L : UbseMemTypeDebtMap NodeId ResId T) :
    LedgerOp NodeId ResId T → UbseMemTypeDebtMap NodeId ResId T
  | .putResource n r obj => L.putResource true n r obj
  | .removeResource n r => (L.removeResource true n r).2
  | .updateResource n r f => (L.updateResource n r f).2
  | .removeNodeMap n => (L.removeNodeMap true n).2
  | .removeOtherNodeMaps n => L.removeOtherNodeMaps true n
  | .clearAllNodeMaps => L.clearAllNodeMaps true

/-! ### What the operations do to the tables -/

namespace UbseMemTypeDebtMap

variable (L : UbseMemTypeDebtMap NodeId ResId T)

theorem getResource_eq_bind (n : NodeId) (r : ResId) :
    L.getResource n r = (L.nodeMap.lookup n).bind fun m => m.lookup r := by
  unfold getResource
  cases L.nodeMap.lookup n <;> rfl

/-- The resource ids that some table holds: what the index is to answer for. -/
def Held (r : ResId) : Prop := ∃ n obj, L.getResource n r = some obj

@[simp] theorem getResource_empty (n : NodeId) (r : ResId) :
    (empty : UbseMemTypeDebtMap NodeId ResId T).getResource n r = none := rfl

@[simp] theorem getResource_clearAllNodeMaps (b : Bool) (n : NodeId) (r : ResId) :
    (L.clearAllNodeMaps b).getResource n r = none := rfl

theorem getResource_putResource (b : Bool) (n n' : NodeId) (r r' : ResId) (obj : T) :
    (L.putResource b n r (some obj)).getResource n' r' =
      if n' = n ∧ r' = r then some obj else L.getResource n' r' := by
  simp only [getResource_eq_bind, putResource, Map.lookup_insert_ite]
  by_cases hn : n' = n
  · subst hn
    simp only [true_and, if_true, Option.bind_some, UbseMemNodeDebtMap.put,
      Map.lookup_insert_ite, getOrCreateNodeMap]
    split
    · rfl
    · cases L.nodeMap.lookup n' <;> simp
  · simp [hn]

theorem getResource_updateResource_isSome (n n' : NodeId) (r r' : ResId) (f : Modify T) :
    ((L.updateResource n r f).2.getResource n' r').isSome = (L.getResource n' r').isSome := by
  simp only [getResource_eq_bind, updateResource]
  cases hm : L.nodeMap.lookup n with
  | none => rfl
  | some m =>
    simp only [Map.lookup_insert_ite]
    by_cases hn : n' = n
    · subst hn
      simpa [hm, UbseMemNodeDebtMap.get] using UbseMemNodeDebtMap.get_update_isSome m r r' f
    · simp [hn]

theorem getResource_updateResource (n n' : NodeId) (r r' : ResId) (f : T → Bool × T) :
    (L.updateResource n r (some f)).2.getResource n' r' =
      if n' = n ∧ r' = r then
        (L.getResource n r).map fun obj => if (f obj).1 then (f obj).2 else obj
      else L.getResource n' r' := by
  simp only [getResource_eq_bind, updateResource]
  cases hm : L.nodeMap.lookup n with
  | none =>
    dsimp only
    by_cases h : n' = n ∧ r' = r
    · rw [if_pos h, h.1, hm]
      rfl
    · rw [if_neg h]
  | some m =>
    dsimp only
    rw [Map.lookup_insert_ite]
    by_cases hn : n' = n
    · subst hn
      simp only [if_true, true_and, hm, Option.bind_some]
      exact UbseMemNodeDebtMap.get_update m r r' f
    · rw [if_neg hn, if_neg fun h => hn h.1]

theorem getResource_removeResource (b : Bool) (n n' : NodeId) (r r' : ResId) :
    (L.removeResource b n r).2.getResource n' r' =
      if n' = n ∧ r' = r then none else L.getResource n' r' := by
  simp only [getResource_eq_bind, removeResource, UbseMemNodeDebtMap.remove, decide_eq_true_eq]
  cases hm : L.nodeMap.lookup n with
  | none =>
    by_cases hn : n' = n
    · subst hn; simp [hm]
    · simp [hn]
  | some m =>
    by_cases hn : n' = n
    · subst hn
      by_cases hr : r ∈ m
      · by_cases hr' : r' = r <;> simp [hr, hr', Map.lookup_erase_ite, hm]
      · by_cases hr' : r' = r
        · subst hr'; simp [hr, hm, AList.lookup_eq_none.2 hr]
        · simp [hr, hr', hm]
    · by_cases hr : r ∈ m <;> simp [hr, hn]

theorem getResource_removeNodeMap (b : Bool) (n n' : NodeId) (r' : ResId) :
    (L.removeNodeMap b n).2.getResource n' r' =
      if n' = n then none else L.getResource n' r' := by
  simp only [getResource_eq_bind, removeNodeMap]
  cases hm : L.nodeMap.lookup n with
  | none =>
    by_cases hn : n' = n
    · subst hn; simp [hm]
    · simp [hn]
  | some m => by_cases hn : n' = n <;> simp [hn, Map.lookup_erase_ite]

/-! ### What the operations do to the index -/

theorem index_putResource (n : NodeId) (r r' : ResId) (obj : T) :
    (L.putResource true n r (some obj)).exportResIdToNodeId.lookup r' =
      if r' = r then some n else L.exportResIdToNodeId.lookup r' :=
  Map.lookup_insert_ite _ _ _ _

theorem index_updateResource (n : NodeId) (r : ResId) (f : Modify T) :
    (L.updateResource n r f).2.exportResIdToNodeId = L.exportResIdToNodeId := by
  unfold updateResource
  split <;> rfl

theorem index_removeResource (n : NodeId) (r r' : ResId) :
    (L.removeResource true n r).2.exportResIdToNodeId.lookup r' =
      if r' = r ∧ (L.getResource n r).isSome then none
      else L.exportResIdToNodeId.lookup r' := by
  simp only [getResource_eq_bind, removeResource, UbseMemNodeDebtMap.remove, decide_eq_true_eq]
  cases hm : L.nodeMap.lookup n with
  | none => simp
  | some m =>
    by_cases hr : r ∈ m
    · simp [hr, Map.lookup_erase_ite, AList.lookup_isSome]
    · simp [hr, AList.lookup_isSome]

theorem index_removeNodeMap (n : NodeId) (r' : ResId) :
    (L.removeNodeMap true n).2.exportResIdToNodeId.lookup r' =
      if (L.getResource n r').isSome then none else L.exportResIdToNodeId.lookup r' := by
  simp only [getResource_eq_bind, removeNodeMap]
  cases hm : L.nodeMap.lookup n with
  | none => simp
  | some m => simp [Map.lookup_eraseAll, AList.lookup_isSome, AList.mem_keys]

/-- One pass of removals, over any list of nodes: the tables named are gone, and so are the
index entries of whatever they held. -/
theorem removeNodeMaps_spec (x n : NodeId) (r : ResId) (ns : List NodeId) :
    let L' := ns.foldl (fun L n => if n ≠ x then (L.removeNodeMap true n).2 else L) L
    L'.getResource n r = (if n ∈ ns ∧ n ≠ x then none else L.getResource n r) ∧
      L'.exportResIdToNodeId.lookup r =
        if ∃ n ∈ ns, n ≠ x ∧ (L.getResource n r).isSome then none
        else L.exportResIdToNodeId.lookup r := by
  induction ns generalizing L with
  | nil => simp
  | cons a ns ih =>
    simp only [List.foldl_cons]
    obtain ⟨hget, hindex⟩ := ih (if a ≠ x then (L.removeNodeMap true a).2 else L)
    rw [hget, hindex]
    by_cases ha : a = x
    · subst ha
      constructor
      · by_cases hn : n = a <;> simp [hn]
      · simp
    · simp only [ne_eq, ha, not_false_eq_true, if_true, getResource_removeNodeMap,
        index_removeNodeMap, List.mem_cons]
      constructor
      · by_cases hn : n = a
        · simp [hn, ha]
        · simp [hn]
      · by_cases hLa : (L.getResource a r).isSome
        · have : ∃ n, (n = a ∨ n ∈ ns) ∧ ¬n = x ∧ (L.getResource n r).isSome :=
            ⟨a, Or.inl rfl, ha, hLa⟩
          simp [hLa, this]
        · have hiff : (∃ n ∈ ns, ¬n = x ∧ (if n = a then none else L.getResource n r).isSome) ↔
              ∃ n, (n = a ∨ n ∈ ns) ∧ ¬n = x ∧ (L.getResource n r).isSome := by
            refine exists_congr fun n => ?_
            by_cases hn : n = a
            · subst hn; simp [hLa]
            · simp [hn]
          simp [hLa, hiff]

theorem mem_keys_of_getResource {n : NodeId} {r : ResId} (h : (L.getResource n r).isSome) :
    n ∈ L.nodeMap.keys := by
  rw [getResource_eq_bind] at h
  rw [Map.mem_keys_iff]
  cases hm : L.nodeMap.lookup n with
  | none => simp [hm] at h
  | some m => exact ⟨m, rfl⟩

theorem getResource_removeOtherNodeMaps (x n : NodeId) (r : ResId) :
    (L.removeOtherNodeMaps true x).getResource n r =
      if n = x then L.getResource n r else none := by
  rw [removeOtherNodeMaps, (L.removeNodeMaps_spec x n r _).1]
  by_cases hn : n = x
  · simp [hn]
  · by_cases hmem : n ∈ L.nodeMap.keys
    · simp [hn, hmem]
    · have : L.getResource n r = none := by
        by_contra h
        exact hmem (L.mem_keys_of_getResource (Option.isSome_iff_ne_none.2 h))
      simp [hn, this]

theorem index_removeOtherNodeMaps (x : NodeId) (r : ResId) :
    (L.removeOtherNodeMaps true x).exportResIdToNodeId.lookup r =
      if ∃ n ∈ L.nodeMap.keys, n ≠ x ∧ (L.getResource n r).isSome then none
      else L.exportResIdToNodeId.lookup r :=
  (L.removeNodeMaps_spec x x r _).2

end UbseMemTypeDebtMap

open UbseMemTypeDebtMap

/-! ### Consistency -/

/-- **The index answers for the tables**: an id is found through it exactly when some table
holds it, and what is found is held by a table. -/
def IndexConsistent (L : UbseMemTypeDebtMap NodeId ResId T) : Prop :=
  ∀ r : ResId, ((L.getExportResourceByResId true r).isSome ↔
      ∃ n, (L.getResource n r).isSome) ∧
    ∀ obj, L.getExportResourceByResId true r = some obj → ∃ n, L.getResource n r = some obj

/-- The call does not take a resource id off a table while a table that stays holds the
same id. -/
def RemovesLastHolder (L : UbseMemTypeDebtMap NodeId ResId T) :
    LedgerOp NodeId ResId T → Prop
  | .removeResource n r =>
    (L.getResource n r).isSome → ∀ n', n' ≠ n → L.getResource n' r = none
  | .removeNodeMap n =>
    ∀ r, (L.getResource n r).isSome → ∀ n', n' ≠ n → L.getResource n' r = none
  | .removeOtherNodeMaps x =>
    ∀ n r, n ≠ x → (L.getResource n r).isSome → L.getResource x r = none
  | _ => True

/-- The index as the tables need it: an id that is held is indexed, at a node that holds
it. -/
def Indexed (L : UbseMemTypeDebtMap NodeId ResId T) : Prop :=
  ∀ r n, (L.getResource n r).isSome →
    ∃ n', L.exportResIdToNodeId.lookup r = some n' ∧ (L.getResource n' r).isSome

theorem getExportResourceByResId_eq_some {L : UbseMemTypeDebtMap NodeId ResId T} {r : ResId}
    {obj : T} : L.getExportResourceByResId true r = some obj ↔
      ∃ n, L.exportResIdToNodeId.lookup r = some n ∧ L.getResource n r = some obj := by
  unfold getExportResourceByResId
  cases L.exportResIdToNodeId.lookup r <;> simp

/-- Through the index one only ever finds what a table holds; so consistency is about the
ids that are held. -/
theorem indexConsistent_iff_indexed {L : UbseMemTypeDebtMap NodeId ResId T} :
    IndexConsistent L ↔ Indexed L := by
  simp only [IndexConsistent, Indexed, Option.isSome_iff_exists,
    getExportResourceByResId_eq_some]
  constructor
  · rintro h r n ⟨obj, hobj⟩
    obtain ⟨obj', n', hn', hobj'⟩ := (h r).1.2 ⟨n, obj, hobj⟩
    exact ⟨n', hn', obj', hobj'⟩
  · refine fun h r => ⟨⟨?_, ?_⟩, ?_⟩
    · rintro ⟨obj, n, -, hobj⟩
      exact ⟨n, obj, hobj⟩
    · rintro ⟨n, obj, hobj⟩
      obtain ⟨n', hn', obj', hobj'⟩ := h r n ⟨obj, hobj⟩
      exact ⟨obj', n', hn', hobj'⟩
    · rintro obj ⟨n, -, hobj⟩
      exact ⟨n, hobj⟩

/-! ### One call -/

variable {L : UbseMemTypeDebtMap NodeId ResId T}

theorem indexed_putResource (h : Indexed L) (n : NodeId) (r : ResId) (obj : Option T) :
    Indexed (L.putResource true n r obj) := by
  cases obj with
  | none => exact h
  | some obj =>
    intro r' n' hn'
    simp only [index_putResource, getResource_putResource] at hn' ⊢
    by_cases hr : r' = r
    · subst hr
      exact ⟨n, by simp, by simp⟩
    · obtain ⟨m, hm, hget⟩ := h r' n' (by simpa [hr] using hn')
      exact ⟨m, by simp [hr, hm], by simp [hr, hget]⟩

theorem indexed_updateResource (h : Indexed L) (n : NodeId) (r : ResId) (f : Modify T) :
    Indexed (L.updateResource n r f).2 := by
  intro r' n' hn'
  simp only [index_updateResource, getResource_updateResource_isSome] at hn' ⊢
  exact h r' n' hn'

theorem indexed_removeResource (h : Indexed L) (n : NodeId) (r : ResId) :
    Indexed (L.removeResource true n r).2 ↔ RemovesLastHolder L (.removeResource n r) := by
  simp only [Indexed, RemovesLastHolder, index_removeResource, getResource_removeResource]
  constructor
  · intro h' hr n' hn'
    by_contra hsome
    have hsome := Option.isSome_iff_ne_none.2 hsome
    obtain ⟨m, hm, -⟩ := h' r n' (by simpa [hn'] using hsome)
    simp [hr] at hm
  · intro hlast r' n' hn'
    have hne : ¬(n' = n ∧ r' = r) := by
      intro hc
      simp [hc] at hn'
    rw [if_neg hne] at hn'
    by_cases hr : r' = r ∧ (L.getResource n r).isSome
    · -- The removed id would still be held, by another table.
      obtain ⟨rfl, hr⟩ := hr
      have := hlast hr n' fun hn => hne ⟨hn, rfl⟩
      simp [this] at hn'
    · obtain ⟨m, hm, hget⟩ := h r' n' hn'
      refine ⟨m, by rw [if_neg hr, hm], ?_⟩
      rw [if_neg]
      · exact hget
      · rintro ⟨rfl, rfl⟩
        exact hr ⟨rfl, hget⟩

theorem indexed_removeNodeMap (h : Indexed L) (n : NodeId) :
    Indexed (L.removeNodeMap true n).2 ↔ RemovesLastHolder L (.removeNodeMap n) := by
  simp only [Indexed, RemovesLastHolder, index_removeNodeMap, getResource_removeNodeMap]
  constructor
  · intro h' r hr n' hn'
    by_contra hsome
    have hsome := Option.isSome_iff_ne_none.2 hsome
    obtain ⟨m, hm, -⟩ := h' r n' (by simpa [hn'] using hsome)
    simp [hr] at hm
  · intro hlast r n' hn'
    have hne : n' ≠ n := by
      rintro rfl
      simp at hn'
    rw [if_neg hne] at hn'
    have hr : ¬(L.getResource n r).isSome := by
      intro hr
      simp [hlast r hr n' hne] at hn'
    obtain ⟨m, hm, hget⟩ := h r n' hn'
    refine ⟨m, by rw [if_neg hr, hm], ?_⟩
    rw [if_neg]
    · exact hget
    · rintro rfl
      exact hr hget

theorem indexed_removeOtherNodeMaps (h : Indexed L) (x : NodeId) :
    Indexed (L.removeOtherNodeMaps true x) ↔ RemovesLastHolder L (.removeOtherNodeMaps x) := by
  simp only [Indexed, RemovesLastHolder, index_removeOtherNodeMaps,
    getResource_removeOtherNodeMaps]
  constructor
  · intro h' n r hn hr
    by_contra hsome
    have hsome := Option.isSome_iff_ne_none.2 hsome
    obtain ⟨m, hm, -⟩ := h' r x (by simpa using hsome)
    rw [if_pos ⟨n, L.mem_keys_of_getResource hr, hn, hr⟩] at hm
    cases hm
  · intro hlast r n' hn'
    have hx : n' = x := by
      by_contra hx
      simp [hx] at hn'
    subst hx
    rw [if_pos rfl] at hn'
    have hno : ¬∃ n ∈ L.nodeMap.keys, n ≠ n' ∧ (L.getResource n r).isSome := by
      rintro ⟨n, -, hn, hr⟩
      simp [hlast n r hn hr] at hn'
    obtain ⟨m, hm, hget⟩ := h r n' hn'
    have hmx : m = n' := by
      by_contra hmx
      exact hno ⟨m, L.mem_keys_of_getResource hget, hmx, hget⟩
    subst hmx
    exact ⟨m, by rw [if_neg hno, hm], by rw [if_pos rfl]; exact hget⟩

/-- **One call, exactly**: from a consistent ledger, a call leaves the ledger consistent if
and only if it removes no id that a remaining table still holds. -/
theorem indexConsistent_applyOp_iff (h : IndexConsistent L) (op : LedgerOp NodeId ResId T) :
    IndexConsistent (applyOp L op) ↔ RemovesLastHolder L op := by
  rw [indexConsistent_iff_indexed] at h ⊢
  cases op with
  | putResource n r obj =>
    exact iff_of_true (indexed_putResource h n r obj) trivial
  | removeResource n r => exact indexed_removeResource h n r
  | updateResource n r f => exact iff_of_true (indexed_updateResource h n r f) trivial
  | removeNodeMap n => exact indexed_removeNodeMap h n
  | removeOtherNodeMaps x => exact indexed_removeOtherNodeMaps h x
  | clearAllNodeMaps => exact iff_of_true (fun r n hn => by simp [applyOp] at hn) trivial

theorem indexConsistent_empty :
    IndexConsistent (empty : UbseMemTypeDebtMap NodeId ResId T) :=
  indexConsistent_iff_indexed.2 fun r n hn => by simp at hn

/-! ### Whole runs -/

/-- **The index over whole runs**: along any sequence of calls on a fresh ledger, the index
answers for the tables after every call if and only if no call removes a resource id that a
remaining table still holds. -/
theorem keeps_indexConsistent_iff (ops : List (LedgerOp NodeId ResId T)) :
    System.Keeps IndexConsistent (System.trace applyOp empty ops) ↔
      System.Guarded RemovesLastHolder (System.trace applyOp empty ops) :=
  (System.run_trace empty applyOp empty ops).exact
    (fun _ _ _ h hst => by rw [← hst]; exact indexConsistent_applyOp_iff h _)
    indexConsistent_empty

/-- Two nodes hold an export under the same id, and one of them returns it: the other's is
no longer found. -/
theorem not_keeps_indexConsistent :
    ¬∀ ops : List (LedgerOp String String Unit),
      System.Keeps IndexConsistent (System.trace applyOp empty ops) := by
  intro h
  have hlast := h [.putResource "node1" "res" (some ()), .putResource "node2" "res" (some ()),
    .removeResource "node1" "res"] _ (List.mem_cons_of_mem _ (List.mem_cons_of_mem _
      (List.mem_singleton.2 rfl))) "res"
  exact absurd (hlast.1.2 ⟨"node2", by decide⟩) (by decide)

end Debt

end UbsEngine
