import UbsEngine.Fragment.NodeMem
import UbsEngine.Library.Packing
import Mathlib.Data.List.ReduceOption

/-!
# The search for several sizes

`MultiBorrowDfs` looks for a numa for each of several sizes. It tries every numa for each size,
those on the plane of the source first, and counts the capacities down and up again on the way.
`UbsEngine.Fragment.multiBorrowDfs_spec` says what a call ends with: the first packing of the sizes
that fits the capacities it starts with, and these as they were.
-/

namespace UbsEngine

namespace Fragment

/-! ### What the search works on -/

structure Numa where
  place : Place
  freeMem : BitVec 64
  isSamePlane : Bool
  deriving DecidableEq, Repr

structure Node where
  nodeId : String
  freeMem : BitVec 64
  numaList : List Numa
  deriving DecidableEq, Repr

structure MemBorrowStrategyMultiResult where
  srcParam : SrcMemoryBorrowParam
  borrowSizes : List (BitVec 64)
  destParam : List DestMemoryBorrowParam
  byNodeFault : Bool
  deriving DecidableEq, Repr

/-- The state of the search: the parameter that its calls share, and the result that they fill. -/
structure Search where
  nodeList : List Node
  /-- What lies in the memory of the record list. -/
  recordList : List (Option Place)
  /-- The size of the record list, which may be less than the memory that it has. -/
  recordSize : Nat
  /-- The indices of the record list that were written. -/
  written : List Nat
  succeed : Bool
  result : MemBorrowStrategyMultiResult
  deriving DecidableEq, Repr

def numas (nodeList : List Node) : List Numa :=
  nodeList.flatMap (·.numaList)

def places (nodeList : List Node) : List Place :=
  (numas nodeList).map (·.place)

def numa? (nodeList : List Node) (place : Place) : Option Numa :=
  (numas nodeList).find? (·.place == place)

def Numa.adjust (place : Place) (f : BitVec 64 → BitVec 64) (numa : Numa) : Numa :=
  if numa.place = place then { numa with freeMem := f numa.freeMem } else numa

/-- The counters of a numa and of its node are changed. -/
def adjust (place : Place) (f : BitVec 64 → BitVec 64) (nodeList : List Node) : List Node :=
  nodeList.map fun node =>
    { node with
      freeMem := if node.nodeId = place.nodeId then f node.freeMem else node.freeMem
      numaList := node.numaList.map (Numa.adjust place f) }

namespace Search

def count (s : Search) (place : Place) (f : BitVec 64 → BitVec 64) : Search :=
  { s with nodeList := adjust place f s.nodeList }

def record (s : Search) (pos : Nat) (place : Place) : Search :=
  { s with recordList := s.recordList.set pos (some place), written := s.written ++ [pos] }

end Search

/-! ### The search -/

/-- The parameter of a borrow on one numa. -/
def destOf (entry : Place × BitVec 64) : DestMemoryBorrowParam where
  destNid := entry.1.nodeId
  destSocketId := entry.1.socketId
  destNumaNum := 1
  destNumaId := [entry.1.numaId]
  memSize := [entry.2]

/-- The end of the search: the first `pos` records become the result. -/
def Search.finish (need : List (BitVec 64)) (pos : Nat) (s : Search) : Search :=
  { s with
    result :=
      { s.result with
        destParam := s.result.destParam ++
          ((s.recordList.take pos).reduceOption.zip (need.take pos)).map destOf
        borrowSizes := s.result.borrowSizes ++ need.take pos }
    succeed := true }

/-- `TryAssignWithPredicate`, over the numas of the nodes in order; `dfs` is the call for the next
size. -/
def tryAssignWithPredicate (dfs : Search → Search) (size : BitVec 64) (pos : Nat)
    (pred : Numa → Bool) : List Place → Search → Search
  | [], s => s
  | place :: places, s =>
    match numa? s.nodeList place with
    | none => tryAssignWithPredicate dfs size pos pred places s
    | some numa =>
      if !pred numa then
        tryAssignWithPredicate dfs size pos pred places s
      else if numa.freeMem < size then
        tryAssignWithPredicate dfs size pos pred places s
      else
        let s := dfs ((s.count place (· - size)).record pos place)
        let s := s.count place (· + size)
        if s.succeed then s else tryAssignWithPredicate dfs size pos pred places s

/-- `MultiBorrowDfs`, with the sizes from `pos` on. -/
def multiBorrowDfs (need : List (BitVec 64)) : Nat → List (BitVec 64) → Search → Search
  | pos, [], s => if s.succeed then s else s.finish need pos
  | pos, size :: sizes, s =>
    if s.succeed then
      s
    else
      let dfs := multiBorrowDfs need (pos + 1) sizes
      let s := tryAssignWithPredicate dfs size pos (·.isSamePlane) (places s.nodeList) s
      if s.succeed then
        s
      else
        tryAssignWithPredicate dfs size pos (!·.isSamePlane) (places s.nodeList) s

/-! ### What the counters say -/

/-- The numa at a place has a property. -/
def on (nodeList : List Node) (pred : Numa → Bool) (place : Place) : Bool :=
  (numa? nodeList place).any pred

/-- The order in which the search tries the numas: those on the plane of the source come first. -/
def order (nodeList : List Node) : List Place :=
  (places nodeList).filter (on nodeList (·.isSamePlane)) ++
    (places nodeList).filter (on nodeList (!·.isSamePlane))

/-- The capacity that is left of a numa. -/
def free (nodeList : List Node) (place : Place) : Nat :=
  ((numa? nodeList place).map (·.freeMem.toNat)).getD 0

section Adjust

variable (nodeList : List Node) (place : Place) (f : BitVec 64 → BitVec 64)

@[simp] theorem place_adjust (numa : Numa) : (numa.adjust place f).place = numa.place := by
  unfold Numa.adjust
  split_ifs <;> rfl

@[simp] theorem isSamePlane_adjust (numa : Numa) :
    (numa.adjust place f).isSamePlane = numa.isSamePlane := by
  unfold Numa.adjust
  split_ifs <;> rfl

theorem numas_adjust :
    numas (adjust place f nodeList) = (numas nodeList).map (·.adjust place f) := by
  rw [numas, adjust, List.flatMap_map, numas, List.map_flatMap]

@[simp] theorem places_adjust : places (adjust place f nodeList) = places nodeList := by
  rw [places, numas_adjust, List.map_map]
  exact List.map_congr_left fun numa _ => place_adjust place f numa

theorem numa?_adjust (q : Place) :
    numa? (adjust place f nodeList) q = (numa? nodeList q).map (·.adjust place f) := by
  rw [numa?, numas_adjust, List.find?_map]
  congr 2
  funext numa
  exact congrArg (· == q) (place_adjust place f numa)

theorem on_adjust (pred : Numa → Bool)
    (hpred : ∀ numa : Numa, pred (numa.adjust place f) = pred numa) (q : Place) :
    on (adjust place f nodeList) pred q = on nodeList pred q := by
  rw [on, numa?_adjust, on, Option.any_map]
  congr 1
  funext numa
  exact hpred numa

@[simp] theorem order_adjust : order (adjust place f nodeList) = order nodeList := by
  unfold order
  rw [places_adjust]
  congr 1
  · exact List.filter_congr fun q _ =>
      on_adjust nodeList place f _ (isSamePlane_adjust place f) q
  · exact List.filter_congr fun q _ =>
      on_adjust nodeList place f _ (fun numa => congrArg not (isSamePlane_adjust place f numa)) q

theorem adjust_sub_add_numa (size : BitVec 64) (numa : Numa) :
    (numa.adjust place (· - size)).adjust place (· + size) = numa := by
  unfold Numa.adjust
  split_ifs with hplace
  · dsimp only
    rw [BitVec.sub_add_cancel]
  · rfl

/-- A size that has been counted down and up again. -/
theorem adjust_sub_add (size : BitVec 64) :
    adjust place (· + size) (adjust place (· - size) nodeList) = nodeList := by
  rw [adjust, adjust, List.map_map]
  refine List.map_id'' (fun node => ?_) nodeList
  have hnumas : (node.numaList.map (Numa.adjust place (· - size))).map
      (Numa.adjust place (· + size)) = node.numaList := by
    rw [List.map_map]
    exact List.map_id'' (adjust_sub_add_numa place size) node.numaList
  rw [Function.comp_apply]
  dsimp only
  rw [hnumas]
  split_ifs with hnode
  · rw [BitVec.sub_add_cancel]
  · rfl

end Adjust

/-- Counting down a size is taking it from the capacity of one numa. -/
theorem free_adjust {nodeList : List Node} {place : Place} {numa : Numa} {size : BitVec 64}
    (hnuma : numa? nodeList place = some numa) (hsize : ¬ numa.freeMem < size) :
    free (adjust place (· - size) nodeList) =
      Packing.without (free nodeList) place size.toNat := by
  funext q
  rw [free, numa?_adjust]
  by_cases hq : q = place
  · subst hq
    have hplace : numa.place = q := by simpa using List.find?_some hnuma
    have hsub := BitVec.toNat_sub_of_le (BitVec.not_lt.1 hsize)
    rw [Packing.without_self, free, hnuma]
    simp [Numa.adjust, hplace, hsub]
  · rw [Packing.without_of_ne _ _ hq, free]
    cases hfind : numa? nodeList q with
    | none => rfl
    | some numa' =>
      have hplace : numa'.place = q := by simpa using List.find?_some hfind
      simp [Numa.adjust, hplace, hq]

/-! ### What a call ends with -/

/-- What the result becomes when these numas are chosen for the sizes. -/
def MemBorrowStrategyMultiResult.append (result : MemBorrowStrategyMultiResult)
    (need : List (BitVec 64)) (chosen : List Place) : MemBorrowStrategyMultiResult :=
  { result with
    destParam := result.destParam ++ (chosen.zip need).map destOf
    borrowSizes := result.borrowSizes ++ need }

/-- A call at `pos` ends with the choice `o` for the sizes from there on: it puts the counters back,
leaves the records before `pos` alone, writes none that is not of a size, and fills the result if
there is a choice. -/
structure Ends (need : List (BitVec 64)) (pos : Nat) (o : Option (List Place)) (s s' : Search) :
    Prop where
  nodeList : s'.nodeList = s.nodeList
  recordSize : s'.recordSize = s.recordSize
  length : s'.recordList.length = s.recordList.length
  kept : s'.recordList.take pos = s.recordList.take pos
  written : ∃ ws, s'.written = s.written ++ ws ∧ ∀ w ∈ ws, w < need.length
  succeed : s'.succeed = o.isSome
  result : s'.result =
    (o.map fun chosen =>
      s.result.append need ((s.recordList.take pos).reduceOption ++ chosen)).getD s.result

namespace Ends

variable {need : List (BitVec 64)} {pos : Nat} {o : Option (List Place)} {s t u : Search}

theorem found {chosen : List Place} (h : Ends need pos (some chosen) s t) : t.succeed = true :=
  h.succeed

theorem refl (hs : s.succeed = false) : Ends need pos none s s where
  nodeList := rfl
  recordSize := rfl
  length := rfl
  kept := rfl
  written := ⟨[], (List.append_nil _).symm, nofun⟩
  succeed := hs
  result := rfl

/-- A call that finds nothing, and then another one. -/
theorem trans (h : Ends need pos none s t) (h' : Ends need pos o t u) : Ends need pos o s u where
  nodeList := h'.nodeList.trans h.nodeList
  recordSize := h'.recordSize.trans h.recordSize
  length := h'.length.trans h.length
  kept := h'.kept.trans h.kept
  written := by
    obtain ⟨ws, hws, hlt⟩ := h.written
    obtain ⟨ws', hws', hlt'⟩ := h'.written
    refine ⟨ws ++ ws', by rw [hws', hws, List.append_assoc], fun w hw => ?_⟩
    exact (List.mem_append.1 hw).elim (hlt w) (hlt' w)
  succeed := h'.succeed
  result := by
    have hresult : t.result = s.result := h.result
    rw [h'.result, hresult, h.kept]

/-- A numa is chosen for the size at `pos`, and the sizes after it are left to the next call. -/
theorem choose {place : Place} {size : BitVec 64} (hpos : pos < need.length)
    (hlength : s.recordList.length = need.length)
    (h : Ends need (pos + 1) o ((s.count place (· - size)).record pos place) t) :
    Ends need pos (o.map (place :: ·)) s (t.count place (· + size)) where
  nodeList := by
    have hnodes : t.nodeList = adjust place (· - size) s.nodeList := h.nodeList
    rw [Search.count, hnodes]
    exact adjust_sub_add s.nodeList place size
  recordSize := h.recordSize
  length := h.length.trans List.length_set
  kept := by
    have hkept := congrArg (List.take pos) h.kept
    rw [List.take_take, List.take_take, Nat.min_eq_left (Nat.le_succ pos)] at hkept
    refine hkept.trans ?_
    rw [Search.record, List.take_set_of_le (Nat.le_refl pos)]
    rfl
  written := by
    obtain ⟨ws, hws, hlt⟩ := h.written
    refine ⟨pos :: ws, ?_, List.forall_mem_cons.2 ⟨hpos, hlt⟩⟩
    rw [Search.count, hws, Search.record, List.append_assoc]
    rfl
  succeed := h.succeed.trans (Option.isSome_map ..).symm
  result := by
    have hresult := h.result
    have htake : ((s.count place (· - size)).record pos place).recordList.take (pos + 1) =
        s.recordList.take pos ++ [some place] := by
      have hset : pos < (s.recordList.set pos (some place)).length := by
        rw [List.length_set, hlength]
        exact hpos
      exact (List.take_succ_eq_append_getElem hset).trans
        (by rw [List.take_set_of_le (Nat.le_refl pos), List.getElem_set_self])
    rw [htake, List.reduceOption_append] at hresult
    refine hresult.trans ?_
    cases o with
    | none => rfl
    | some chosen => simp [Search.record, Search.count]

end Ends

/-! ### The search finds the first packing that fits -/

/-- The choice that the search makes once a size has gone to a place. -/
def chosenAt (nodeList : List Node) (size : BitVec 64) (sizes : List (BitVec 64)) (place : Place) :
    Option (List Place) :=
  if size.toNat ≤ free nodeList place then
    (Packing.search (order nodeList) (Packing.without (free nodeList) place size.toNat)
      (sizes.map (·.toNat))).map (place :: ·)
  else
    none

theorem free_of_numa? {nodeList : List Node} {place : Place} {numa : Numa}
    (h : numa? nodeList place = some numa) : free nodeList place = numa.freeMem.toNat := by
  rw [free, h]
  rfl

theorem chosenAt_of_lt {nodeList : List Node} {size : BitVec 64} {sizes : List (BitVec 64)}
    {place : Place} {numa : Numa} (h : numa? nodeList place = some numa)
    (hsize : numa.freeMem < size) : chosenAt nodeList size sizes place = none := by
  rw [chosenAt, free_of_numa? h]
  exact if_neg (Nat.not_le.2 hsize)

theorem chosenAt_of_not_lt {nodeList : List Node} {size : BitVec 64} {sizes : List (BitVec 64)}
    {place : Place} {numa : Numa} (h : numa? nodeList place = some numa)
    (hsize : ¬ numa.freeMem < size) :
    chosenAt nodeList size sizes place =
      (Packing.search (order nodeList) (Packing.without (free nodeList) place size.toNat)
        (sizes.map (·.toNat))).map (place :: ·) := by
  rw [chosenAt, free_of_numa? h]
  exact if_pos (BitVec.not_lt.1 hsize)

section Spec

variable {need : List (BitVec 64)} {pos : Nat} {sizes : List (BitVec 64)}

/-- One pass over the numas, if the calls for the next size do what they should. -/
theorem tryAssignWithPredicate_spec {dfs : Search → Search} (size : BitVec 64) (pred : Numa → Bool)
    (hpos : pos < need.length)
    (hdfs : ∀ t : Search, t.succeed = false → t.recordList.length = need.length →
      Ends need (pos + 1)
        (Packing.search (order t.nodeList) (free t.nodeList) (sizes.map (·.toNat))) t (dfs t))
    (ps : List Place) (s : Search) (hs : s.succeed = false)
    (hlength : s.recordList.length = need.length) :
    Ends need pos ((ps.filter (on s.nodeList pred)).findSome? (chosenAt s.nodeList size sizes)) s
      (tryAssignWithPredicate dfs size pos pred ps s) := by
  induction ps generalizing s with
  | nil => exact .refl hs
  | cons place ps ih =>
    rw [tryAssignWithPredicate]
    cases hnuma : numa? s.nodeList place with
    | none =>
      have hoff : on s.nodeList pred place = false := by rw [on, hnuma]; rfl
      rw [List.filter_cons_of_neg (by rw [hoff]; exact nofun)]
      exact ih s hs hlength
    | some numa =>
      have hon : on s.nodeList pred place = pred numa := by rw [on, hnuma]; rfl
      dsimp only
      cases hpred : pred numa with
      | false =>
        rw [List.filter_cons_of_neg (by rw [hon, hpred]; exact nofun)]
        exact ih s hs hlength
      | true =>
        simp only [Bool.not_true, Bool.false_eq_true, if_false]
        rw [List.filter_cons_of_pos (hon.trans hpred), List.findSome?_cons]
        by_cases hsize : numa.freeMem < size
        · rw [if_pos hsize, chosenAt_of_lt hnuma hsize]
          exact ih s hs hlength
        · -- the numa is tried: the next call starts with what is left of it
          have hcall := hdfs ((s.count place (· - size)).record pos place) hs
            (List.length_set.trans hlength)
          have hnodes : ((s.count place (· - size)).record pos place).nodeList =
              adjust place (· - size) s.nodeList := rfl
          rw [hnodes, order_adjust, free_adjust hnuma hsize] at hcall
          have hchoose := hcall.choose hpos hlength
          rw [← chosenAt_of_not_lt hnuma hsize] at hchoose
          rw [if_neg hsize]
          cases hrest : chosenAt s.nodeList size sizes place with
          | some chosen =>
            rw [hrest] at hchoose
            rw [if_pos hchoose.found]
            exact hchoose
          | none =>
            rw [hrest] at hchoose
            have hfailed : ¬ ((dfs ((s.count place (· - size)).record pos place)).count place
                (· + size)).succeed = true := by
              rw [hchoose.succeed]
              exact nofun
            have hnext := ih _ hchoose.succeed (hchoose.length.trans hlength)
            rw [hchoose.nodeList] at hnext
            rw [if_neg hfailed]
            exact hchoose.trans hnext

end Spec

/-- **The search ends with the first packing that fits** the capacities it starts with. -/
theorem multiBorrowDfs_spec (need : List (BitVec 64)) (pos : Nat) (sizes : List (BitVec 64))
    (hneed : need.length = pos + sizes.length) (s : Search) (hs : s.succeed = false)
    (hlength : s.recordList.length = need.length) :
    Ends need pos
      (Packing.search (order s.nodeList) (free s.nodeList) (sizes.map (·.toNat))) s
      (multiBorrowDfs need pos sizes s) := by
  induction sizes generalizing pos s with
  | nil =>
    have hpos : need.length = pos := hneed
    have hend : multiBorrowDfs need pos [] s = s.finish need pos := by
      rw [multiBorrowDfs, hs]
      exact if_neg Bool.false_ne_true
    rw [hend]
    refine ⟨rfl, rfl, rfl, rfl, ⟨[], (List.append_nil _).symm, by simp⟩, rfl, ?_⟩
    rw [← hpos]
    simp [Search.finish, Packing.search, MemBorrowStrategyMultiResult.append]
  | cons size sizes ih =>
    rw [List.length_cons] at hneed
    have hpos : pos < need.length := by omega
    have hdfs := fun t ht htl => ih (pos + 1) (by omega) t ht htl
    have hfirst := tryAssignWithPredicate_spec size (·.isSamePlane) hpos hdfs
      (places s.nodeList) s hs hlength
    rw [multiBorrowDfs, if_neg (by rw [hs]; exact Bool.false_ne_true)]
    have hsearch : Packing.search (order s.nodeList) (free s.nodeList)
        ((size :: sizes).map (·.toNat)) =
        (order s.nodeList).findSome? (chosenAt s.nodeList size sizes) := rfl
    rw [hsearch, order, List.findSome?_append]
    dsimp only
    cases hfound : ((places s.nodeList).filter (on s.nodeList (·.isSamePlane))).findSome?
        (chosenAt s.nodeList size sizes) with
    | some chosen =>
      rw [hfound] at hfirst
      rw [if_pos hfirst.found]
      exact hfirst
    | none =>
      rw [hfound] at hfirst
      have hsecond := tryAssignWithPredicate_spec size (!·.isSamePlane) hpos hdfs
        (places s.nodeList) _ hfirst.succeed (hfirst.length.trans hlength)
      rw [hfirst.nodeList] at hsecond
      rw [if_neg (by rw [hfirst.succeed]; exact Bool.false_ne_true), hfirst.nodeList]
      exact hfirst.trans hsecond

/-! ### What the search writes -/

theorem tryAssignWithPredicate_of_lt {dfs : Search → Search} {size : BitVec 64} {pos : Nat}
    {pred : Numa → Bool} {ps : List Place} {s : Search}
    (h : ∀ place ∈ ps, free s.nodeList place < size.toNat) :
    tryAssignWithPredicate dfs size pos pred ps s = s := by
  induction ps with
  | nil => rfl
  | cons place ps ih =>
    obtain ⟨hplace, hps⟩ := List.forall_mem_cons.1 h
    rw [tryAssignWithPredicate]
    cases hnuma : numa? s.nodeList place with
    | none => exact ih hps
    | some numa =>
      rw [free_of_numa? hnuma] at hplace
      dsimp only
      rw [ih hps, if_pos (show numa.freeMem < size from hplace), ite_self]

/-- A pass that writes no record has not found a numa for the size. -/
theorem free_lt_of_written_eq {need : List (BitVec 64)} {pos : Nat} {sizes : List (BitVec 64)}
    {dfs : Search → Search} (size : BitVec 64) (pred : Numa → Bool)
    (hpos : pos < need.length)
    (hdfs : ∀ t : Search, t.succeed = false → t.recordList.length = need.length →
      Ends need (pos + 1)
        (Packing.search (order t.nodeList) (free t.nodeList) (sizes.map (·.toNat))) t (dfs t))
    (ps : List Place) (s : Search) (hs : s.succeed = false)
    (hlength : s.recordList.length = need.length)
    (hwritten : (tryAssignWithPredicate dfs size pos pred ps s).written = s.written) :
    ∀ place ∈ ps, on s.nodeList pred place → free s.nodeList place < size.toNat := by
  induction ps with
  | nil => exact nofun
  | cons place ps ih =>
    rw [tryAssignWithPredicate] at hwritten
    cases hnuma : numa? s.nodeList place with
    | none =>
      rw [hnuma] at hwritten
      refine List.forall_mem_cons.2 ⟨fun hon => ?_, ih hwritten⟩
      rw [on, hnuma] at hon
      exact absurd hon nofun
    | some numa =>
      rw [hnuma] at hwritten
      dsimp only at hwritten
      cases hpred : pred numa with
      | false =>
        rw [hpred] at hwritten
        refine List.forall_mem_cons.2 ⟨fun hon => ?_, ih hwritten⟩
        rw [on, hnuma] at hon
        exact absurd (hpred.symm.trans hon) nofun
      | true =>
        rw [hpred] at hwritten
        simp only [Bool.not_true, Bool.false_eq_true, if_false] at hwritten
        by_cases hsize : numa.freeMem < size
        · rw [if_pos hsize] at hwritten
          refine List.forall_mem_cons.2 ⟨fun _ => ?_, ih hwritten⟩
          rw [free_of_numa? hnuma]
          exact hsize
        · -- the first numa that has room for the size is recorded, and the record stays
          rw [if_neg hsize] at hwritten
          have hcall := hdfs ((s.count place (· - size)).record pos place) hs
            (List.length_set.trans hlength)
          have hrecord : ((s.count place (· - size)).record pos place).written.length =
              s.written.length + 1 := List.length_append
          have htlength : ((s.count place (· - size)).record pos place).recordList.length =
              need.length := List.length_set.trans hlength
          generalize (s.count place (· - size)).record pos place = t at *
          obtain ⟨ws, hws, -⟩ := hcall.written
          have hcount := congrArg List.length hws
          have hend := congrArg List.length hwritten
          have hsame : ((dfs t).count place (· + size)).written = (dfs t).written := rfl
          rw [List.length_append] at hcount
          by_cases hsucceed : ((dfs t).count place (· + size)).succeed = true
          · rw [if_pos hsucceed, hsame] at hend
            omega
          · rw [if_neg hsucceed] at hend
            obtain ⟨ws', hws', -⟩ := (tryAssignWithPredicate_spec size pred hpos hdfs ps _
              (Bool.eq_false_iff.2 hsucceed) (hcall.length.trans htlength)).written
            rw [hws', List.length_append, hsame] at hend
            omega

theorem mem_order_iff {nodeList : List Node} {place : Place} :
    place ∈ order nodeList ↔ place ∈ places nodeList := by
  rw [order, List.mem_append, List.mem_filter, List.mem_filter, ← and_or_left, and_iff_left_iff_imp]
  intro hplace
  obtain ⟨numa, hnuma, rfl⟩ := List.mem_map.1 hplace
  have hfound : (numa? nodeList numa.place).isSome :=
    List.find?_isSome.2 ⟨numa, hnuma, beq_self_eq_true _⟩
  obtain ⟨numa', hnuma'⟩ := Option.isSome_iff_exists.1 hfound
  rw [on, on, hnuma']
  cases hplane : numa'.isSamePlane with
  | true => exact .inl hplane
  | false => exact .inr (congrArg not hplane)

/-- **The search writes no record exactly when** the first size fits no numa. -/
theorem written_multiBorrowDfs_iff {size : BitVec 64} {sizes : List (BitVec 64)} {s : Search}
    (hs : s.succeed = false) (hlength : s.recordList.length = (size :: sizes).length) :
    (multiBorrowDfs (size :: sizes) 0 (size :: sizes) s).written = s.written ↔
      ∀ place ∈ order s.nodeList, free s.nodeList place < size.toNat := by
  have hpos : 0 < (size :: sizes).length := Nat.succ_pos _
  have hdfs := fun t ht htl =>
    multiBorrowDfs_spec (size :: sizes) 1 sizes (Nat.add_comm ..) t ht htl
  rw [multiBorrowDfs, if_neg (by rw [hs]; exact nofun)]
  dsimp only
  constructor
  · intro hwritten
    have hfirst := tryAssignWithPredicate_spec size (·.isSamePlane) hpos hdfs
      (places s.nodeList) s hs hlength
    have hlt := free_lt_of_written_eq size (·.isSamePlane) hpos hdfs
      (places s.nodeList) s hs hlength
    generalize tryAssignWithPredicate (multiBorrowDfs (size :: sizes) 1 sizes) size 0
      (·.isSamePlane) (places s.nodeList) s = t at hwritten hfirst hlt
    obtain ⟨ws, hws, -⟩ := hfirst.written
    by_cases hsucceed : t.succeed = true
    · -- a choice goes to a numa that has room for the size
      rw [if_pos hsucceed] at hwritten
      have hnone : ((places s.nodeList).filter (on s.nodeList (·.isSamePlane))).findSome?
          (chosenAt s.nodeList size sizes) = none := by
        refine List.findSome?_eq_none_iff.2 fun place hplace => ?_
        obtain ⟨hplace, hon⟩ := List.mem_filter.1 hplace
        exact if_neg (Nat.not_le.2 (hlt hwritten place hplace hon))
      have hfailed := hfirst.succeed
      rw [hnone, hsucceed] at hfailed
      cases hfailed
    · rw [if_neg hsucceed, hfirst.nodeList] at hwritten
      have hsecond := tryAssignWithPredicate_spec size (!·.isSamePlane) hpos hdfs
        (places s.nodeList) t (Bool.eq_false_iff.2 hsucceed) (hfirst.length.trans hlength)
      obtain ⟨ws', hws', -⟩ := hsecond.written
      have hcount := congrArg List.length hws
      have hcount' := congrArg List.length (hws'.symm.trans hwritten)
      rw [List.length_append] at hcount hcount'
      have hfirstNone : t.written = s.written := by
        rw [hws, List.eq_nil_of_length_eq_zero (by omega : ws.length = 0), List.append_nil]
      have hlt' := free_lt_of_written_eq size (!·.isSamePlane) hpos hdfs
        (places s.nodeList) t (Bool.eq_false_iff.2 hsucceed) (hfirst.length.trans hlength)
        (hwritten.trans hfirstNone.symm)
      rw [hfirst.nodeList] at hlt'
      intro place hplace
      rcases List.mem_append.1 hplace with hplace | hplace
      · obtain ⟨hplace, hon⟩ := List.mem_filter.1 hplace
        exact hlt hfirstNone place hplace hon
      · obtain ⟨hplace, hon⟩ := List.mem_filter.1 hplace
        exact hlt' place hplace hon
  · intro h
    have hplaces : ∀ place ∈ places s.nodeList, free s.nodeList place < size.toNat :=
      fun place hplace => h place (mem_order_iff.2 hplace)
    rw [tryAssignWithPredicate_of_lt hplaces, tryAssignWithPredicate_of_lt hplaces, ite_self]

end Fragment

end UbsEngine
