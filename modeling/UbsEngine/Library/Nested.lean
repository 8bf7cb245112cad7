import UbsEngine.Library.Assoc

/-!
# Maps of maps, and the order in which a map is run through

An assignment to `m[k][l]` makes what is missing of the two levels, so a map of maps is read and
written like a map by pairs (`UbsEngine.Map.get₂_set₂`). A loop over a hash map meets its entries
in an order that nobody chooses; `UbsEngine.Map.Iteration` is any such order, of which no more is
known than that every entry is met once.
-/

namespace UbsEngine

namespace Map

variable {K L V : Type*}

/-! ### Two levels -/

section Nested

variable [DecidableEq K] [DecidableEq L]

/-- The value under two keys. -/
def get₂ (m : Map K (Map L V)) (k : K) (l : L) : Option V := (m.lookup k).bind fun n => n.lookup l

/-- The assignment `m[k][l] = v`. -/
def set₂ (m : Map K (Map L V)) (k : K) (l : L) (v : V) : Map K (Map L V) :=
  m.insert k (((m.lookup k).getD ∅).insert l v)

@[simp]
theorem get₂_empty (k : K) (l : L) : get₂ (∅ : Map K (Map L V)) k l = none := rfl

theorem get₂_set₂ (m : Map K (Map L V)) (k k' : K) (l l' : L) (v : V) :
    get₂ (set₂ m k l v) k' l' = if k' = k ∧ l' = l then some v else get₂ m k' l' := by
  rw [get₂, set₂, lookup_insert_ite]
  rcases eq_or_ne k' k with rfl | hk
  · rw [if_pos rfl, Option.bind_some, lookup_insert_ite]
    rcases eq_or_ne l' l with rfl | hl
    · simp
    · rw [if_neg hl, if_neg fun h => hl h.2, get₂]
      cases m.lookup k' <;> rfl
  · rw [if_neg hk, if_neg fun h => hk h.1, get₂]

/-- The value under two keys is the one under the second in what is under the first. -/
theorem get₂_of_lookup {m : Map K (Map L V)} {k : K} {n : Map L V} (h : m.lookup k = some n)
    (l : L) : get₂ m k l = n.lookup l := by
  rw [get₂, h, Option.bind_some]

end Nested

/-! ### Entries that are written one by one -/

section Written

variable [DecidableEq K] {W : Type*} {p : K × V → Bool} {g : K × V → Option W → W}

/-- A loop over entries that writes, for some of them, the value under their own key. -/
def writeEach (p : K × V → Bool) (g : K × V → Option W → W) (l : List (K × V)) (m : Map K W) :
    Map K W :=
  l.foldl (fun m e => if p e then m.insert e.1 (g e (m.lookup e.1)) else m) m

theorem lookup_writeEach_of_notMem {l : List (K × V)} {m : Map K W} {k : K}
    (h : k ∉ l.map Prod.fst) : (writeEach p g l m).lookup k = m.lookup k := by
  induction l generalizing m with
  | nil => rfl
  | cons e l ih =>
    rw [List.map_cons, List.mem_cons, not_or] at h
    have hrest := ih (m := if p e then m.insert e.1 (g e (m.lookup e.1)) else m) h.2
    refine hrest.trans ?_
    split
    · exact AList.lookup_insert_ne h.1
    · rfl

/-- What is under the key of an entry comes from that entry. -/
theorem lookup_writeEach {l : List (K × V)} (hnodup : (l.map Prod.fst).Nodup) {m : Map K W}
    {k : K} {v : V} (h : (k, v) ∈ l) :
    (writeEach p g l m).lookup k =
      if p (k, v) then some (g (k, v) (m.lookup k)) else m.lookup k := by
  induction l generalizing m with
  | nil => cases h
  | cons e l ih =>
    rw [List.map_cons, List.nodup_cons] at hnodup
    rcases List.mem_cons.1 h with rfl | hmem
    · have hrest := lookup_writeEach_of_notMem (p := p) (g := g) (l := l)
        (m := if p (k, v) then m.insert k (g (k, v) (m.lookup k)) else m) hnodup.1
      refine hrest.trans ?_
      split
      · exact AList.lookup_insert m
      · rfl
    · have hne : k ≠ e.1 := fun heq => hnodup.1 (heq ▸ List.mem_map_of_mem hmem)
      have hrest := ih hnodup.2 (m := if p e then m.insert e.1 (g e (m.lookup e.1)) else m) hmem
      have hkeep : (if p e then m.insert e.1 (g e (m.lookup e.1)) else m).lookup k =
          m.lookup k := by
        split
        · exact AList.lookup_insert_ne hne
        · rfl
      rw [hkeep] at hrest
      exact hrest

/-- A map filled from entries with different keys holds these entries. -/
theorem lookup_fill {l : List (K × V)} (hnodup : (l.map Prod.fst).Nodup) {k : K} {v : V} :
    (writeEach (fun _ => true) (fun e _ => e.2) l ∅).lookup k = some v ↔ (k, v) ∈ l := by
  constructor
  · intro h
    by_cases hmem : k ∈ l.map Prod.fst
    · obtain ⟨⟨k, v'⟩, hv', rfl⟩ := List.mem_map.1 hmem
      rw [lookup_writeEach hnodup hv', if_pos rfl, Option.some.injEq] at h
      exact h ▸ hv'
    · rw [lookup_writeEach_of_notMem hmem] at h
      cases h
  · intro h
    rw [lookup_writeEach hnodup h, if_pos rfl]

/-- What a map filled from entries holds is one of them. -/
theorem mem_of_lookup_fill {l : List (K × V)} {m : Map K V} {k : K} {v : V}
    (h : (writeEach (fun _ => true) (fun e _ => e.2) l m).lookup k = some v) :
    m.lookup k = some v ∨ (k, v) ∈ l := by
  induction l generalizing m with
  | nil => exact Or.inl h
  | cons e l ih =>
    rcases ih (m := m.insert e.1 e.2) h with h | h
    · rw [lookup_insert_ite] at h
      split at h
      next heq =>
        rw [Option.some.injEq] at h
        exact Or.inr (List.mem_cons.2 (Or.inl (Prod.ext heq h.symm)))
      next => exact Or.inl h
    · exact Or.inr (List.mem_cons_of_mem _ h)

/-- What is under a key is the last that was written under it. -/
theorem lookup_fill_eq_last (l : List (K × V)) (m : Map K V) (k : K) :
    (writeEach (fun _ => true) (fun e _ => e.2) l m).lookup k =
      ((l.filter fun e => e.1 = k).getLast?.map Prod.snd).or (m.lookup k) := by
  induction l generalizing m with
  | nil => rfl
  | cons e l ih =>
    refine (ih (m.insert e.1 e.2)).trans ?_
    rw [lookup_insert_ite, List.filter_cons]
    by_cases hk : e.1 = k
    · rw [if_pos (decide_eq_true hk), if_pos hk.symm, List.getLast?_cons]
      cases (l.filter fun e => e.1 = k).getLast? <;> rfl
    · rw [if_neg fun h : k = e.1 => hk h.symm, if_neg fun h => hk (of_decide_eq_true h)]

end Written

/-! ### Orders -/

/-- **An order in which maps are run through**: every entry is met once. -/
structure Iteration (K V : Type*) where
  run : Map K V → List (K × V)
  perm : ∀ m, (run m).Perm (m.entries.map fun e => (e.1, e.2))

namespace Iteration

/-- The order in which a map holds its entries. -/
instance : Inhabited (Iteration K V) := ⟨⟨fun m => m.entries.map fun e => (e.1, e.2), fun _ => .rfl⟩⟩

variable (o : Iteration K V) {m : Map K V}

theorem mem_run [DecidableEq K] {k : K} {v : V} : (k, v) ∈ o.run m ↔ m.lookup k = some v := by
  rw [(o.perm m).mem_iff, ← mem_entries_iff, List.mem_map]
  constructor
  · rintro ⟨⟨k', v'⟩, hmem, heq⟩
    cases heq
    exact hmem
  · exact fun hmem => ⟨⟨k, v⟩, hmem, rfl⟩

/-- No key is met twice. -/
theorem nodup_run : ((o.run m).map Prod.fst).Nodup := by
  rw [((o.perm m).map Prod.fst).nodup_iff, List.map_map]
  exact m.nodupKeys

/-- The entry of one key, if it has one. -/
theorem filter_run [DecidableEq K] (k : K) :
    ((o.run m).filter fun e => e.1 = k) = ((m.lookup k).map fun v => (k, v)).toList := by
  have hkeys : (((o.run m).filter fun e => e.1 = k).map Prod.fst).Nodup :=
    (List.filter_sublist.map _).nodup o.nodup_run
  have hmem : ∀ e, e ∈ ((o.run m).filter fun e => e.1 = k) ↔ e.1 = k ∧ m.lookup k = some e.2 := by
    rintro ⟨k', v⟩
    rw [List.mem_filter, mem_run, decide_eq_true_eq, and_comm]
    exact and_congr_right fun h => by rw [show k' = k from h]
  cases hlookup : m.lookup k with
  | none =>
    rw [Option.map_none, Option.toList_none, List.eq_nil_iff_forall_not_mem]
    intro e he
    have h := ((hmem e).1 he).2
    rw [hlookup] at h
    cases h
  | some v =>
    rw [Option.map_some, Option.toList_some]
    have hone : ∀ e ∈ ((o.run m).filter fun e => e.1 = k), e = (k, v) := by
      intro e he
      obtain ⟨hk, hv⟩ := (hmem e).1 he
      rw [hlookup, Option.some.injEq] at hv
      exact Prod.ext hk hv.symm
    have hv := (hmem (k, v)).2 ⟨rfl, hlookup⟩
    generalize ((o.run m).filter fun e => e.1 = k) = l at hkeys hone hv
    match l, hkeys, hone, hv with
    | [e], _, hone, _ => rw [hone e (List.mem_singleton_self e)]
    | e :: e' :: _, hkeys, hone, _ =>
      have h : e = e' := (hone e (by simp)).trans (hone e' (by simp)).symm
      simp [h] at hkeys

end Iteration

end Map

end UbsEngine
