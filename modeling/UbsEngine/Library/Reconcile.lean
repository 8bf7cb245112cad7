import Mathlib.Data.List.Nodup
import Mathlib.Data.List.Basic

/-!
# Two listings reconciled by a key

Two parties each hold a listing of items, and reconciling them splits the items by a key: what
is *busy* on the left is set aside with everything of its keys, and the rest is on the left
only, on the right only, or on both sides. `UbsEngine.Reconcile.SplitsBy` says what a split by a
key is, `UbsEngine.Reconcile.splitBy` computes one in three passes, each a filter by the keys of
another listing.

A split computed by a coarser key, such as a name that two items may share, need not be the
split by the key itself. `UbsEngine.Reconcile.splitsBy_splitBy_iff` says exactly when it is: when
the two sides hold the same items under every name that both of them use
(`UbsEngine.Reconcile.Agrees`).
-/

namespace UbsEngine

namespace Reconcile

variable {α N K : Type*}

/-- The parts that the items of two listings are put into. -/
structure Parts (α : Type*) where
  aside : List α
  leftOnly : List α
  rightOnly : List α
  both : List α

/-- **A split by a key**: each part holds the items that its name says, compared by the key. -/
structure SplitsBy (key : α → K) (busy : α → Bool) (left right : List α) (p : Parts α) :
    Prop where
  aside : ∀ x, x ∈ p.aside ↔ x ∈ left ∧ busy x
  leftOnly : ∀ x, x ∈ p.leftOnly ↔ x ∈ left ∧ ¬busy x ∧ ¬∃ y ∈ right, key y = key x
  rightOnly : ∀ x, x ∈ p.rightOnly ↔ x ∈ right ∧ ¬∃ y ∈ left, key y = key x
  both : ∀ x, x ∈ p.both ↔ x ∈ right ∧ ∃ y ∈ left, ¬busy y ∧ key y = key x

/-! ### The passes -/

section Passes

variable [DecidableEq N] (name : α → N)

/-- The items of `l` whose name none of `others` has. -/
def findDiff (l others : List α) : List α := l.filter fun x => name x ∉ others.map name

/-- The items of `l` whose name one of `others` has. -/
def findCommon (l others : List α) : List α := l.filter fun x => name x ∈ others.map name

theorem mem_findDiff {l others : List α} {x : α} :
    x ∈ findDiff name l others ↔ x ∈ l ∧ ∀ y ∈ others, name y ≠ name x := by
  simp [findDiff]

theorem mem_findCommon {l others : List α} {x : α} :
    x ∈ findCommon name l others ↔ x ∈ l ∧ ∃ y ∈ others, name y = name x := by
  simp [findCommon]

/-- **The split by a name**, in three passes. -/
def splitBy (busy : α → Bool) (left right : List α) : Parts α :=
  let leftFree := findDiff name left (left.filter busy)
  let rightFree := findDiff name right (left.filter busy)
  ⟨left.filter busy, findDiff name leftFree rightFree, findDiff name rightFree leftFree,
    findCommon name rightFree leftFree⟩

/-- The name of an item is free when no busy item of the left has it. -/
def Free (busy : α → Bool) (left : List α) (x : α) : Prop :=
  ∀ y ∈ left, busy y → name y ≠ name x

variable {name} {busy : α → Bool} {left right : List α} {x y : α}

omit [DecidableEq N] in
theorem Free.of_eq (h : Free name busy left x) (heq : name x = name y) :
    Free name busy left y := fun z hz hbusy hzy => h z hz hbusy (hzy.trans heq.symm)

theorem mem_free {l : List α} :
    x ∈ findDiff name l (left.filter busy) ↔ x ∈ l ∧ Free name busy left x := by
  simp only [mem_findDiff, List.mem_filter, and_imp, Free]

theorem mem_leftOnly : x ∈ (splitBy name busy left right).leftOnly ↔
    x ∈ left ∧ Free name busy left x ∧ ∀ y ∈ right, name y ≠ name x := by
  change x ∈ findDiff name (findDiff name left _) (findDiff name right _) ↔ _
  rw [mem_findDiff, mem_free, and_assoc]
  simp only [mem_free, and_imp]
  refine and_congr_right fun _ => and_congr_right fun hfree => ?_
  exact ⟨fun h y hy heq => h y hy (hfree.of_eq heq.symm) heq, fun h y hy _ => h y hy⟩

theorem mem_rightOnly : x ∈ (splitBy name busy left right).rightOnly ↔
    x ∈ right ∧ ∀ y ∈ left, name y ≠ name x := by
  change x ∈ findDiff name (findDiff name right _) (findDiff name left _) ↔ _
  rw [mem_findDiff, mem_free, and_assoc]
  simp only [mem_free, and_imp]
  refine and_congr_right fun _ => ⟨?_, fun h => ⟨fun y hy _ => h y hy, fun y hy _ => h y hy⟩⟩
  rintro ⟨hfree, h⟩ y hy heq
  exact h y hy (hfree.of_eq heq.symm) heq

theorem mem_both : x ∈ (splitBy name busy left right).both ↔
    x ∈ right ∧ Free name busy left x ∧ ∃ y ∈ left, name y = name x := by
  simp only [splitBy, mem_findCommon name, mem_free, and_assoc]
  refine and_congr_right fun _ => and_congr_right fun hfree => ?_
  exact ⟨fun ⟨y, hy, _, heq⟩ => ⟨y, hy, heq⟩,
    fun ⟨y, hy, heq⟩ => ⟨y, hy, hfree.of_eq heq.symm, heq⟩⟩

end Passes

/-! ### When a coarser key is fine enough -/

/-- **The two sides agree on the names that both use**: the left items of one name are all busy
or all free, the right has no item of a name of the left that the left does not have, and the
left has no free item of a name of the right that the right does not have. -/
structure Agrees (name : α → N) (key : α → K) (busy : α → Bool) (left right : List α) :
    Prop where
  notMixed : ∀ x ∈ left, ∀ y ∈ left, name x = name y → busy x = busy y
  rightKnown : ∀ x ∈ right, ∀ y ∈ left, name y = name x → ∃ z ∈ left, key z = key x
  leftKnown : ∀ x ∈ left, ¬busy x → ∀ y ∈ right, name y = name x → ∃ z ∈ right, key z = key x

section Coarse

variable [DecidableEq N] {name : α → N} {key : α → K} {busy : α → Bool} {left right : List α}

/-- Where the sides agree, splitting by the name is splitting by the key. -/
theorem splitsBy_of_agrees (hname : ∀ x y, key x = key y → name x = name y)
    (h : Agrees name key busy left right) :
    SplitsBy key busy left right (splitBy name busy left right) := by
  have hfree : ∀ x ∈ left, ¬busy x → Free name busy left x := by
    intro x hx hbusy y hy hyBusy heq
    rw [h.notMixed y hy x hx heq] at hyBusy
    exact hbusy hyBusy
  refine ⟨fun x => List.mem_filter, fun x => ?_, fun x => ?_, fun x => ?_⟩
  · rw [mem_leftOnly]
    constructor
    · rintro ⟨hx, hnot, hright⟩
      exact ⟨hx, fun hbusy => hnot x hx hbusy rfl,
        fun ⟨y, hy, hkey⟩ => hright y hy (hname y x hkey)⟩
    · rintro ⟨hx, hbusy, hright⟩
      exact ⟨hx, hfree x hx hbusy,
        fun y hy heq => hright (h.leftKnown x hx hbusy y hy heq)⟩
  · rw [mem_rightOnly]
    constructor
    · rintro ⟨hx, hleft⟩
      exact ⟨hx, fun ⟨y, hy, hkey⟩ => hleft y hy (hname y x hkey)⟩
    · rintro ⟨hx, hleft⟩
      exact ⟨hx, fun y hy heq => hleft (h.rightKnown x hx y hy heq)⟩
  · rw [mem_both]
    constructor
    · rintro ⟨hx, hnot, y, hy, heq⟩
      obtain ⟨z, hz, hkey⟩ := h.rightKnown x hx y hy heq
      exact ⟨hx, z, hz, fun hbusy => hnot z hz hbusy (hname z x hkey), hkey⟩
    · rintro ⟨hx, y, hy, hbusy, hkey⟩
      have heq := hname y x hkey
      exact ⟨hx, (hfree y hy hbusy).of_eq heq, y, hy, heq⟩

/-- Where splitting by the name is splitting by the key, the sides agree. -/
theorem agrees_of_splitsBy (hname : ∀ x y, key x = key y → name x = name y)
    (h : SplitsBy key busy left right (splitBy name busy left right)) :
    Agrees name key busy left right := by
  -- an item of the left that is not busy is in one of the parts, itself or its counterpart
  have hfree : ∀ x ∈ left, ¬busy x → Free name busy left x := by
    intro x hx hbusy
    by_cases hright : ∃ z ∈ right, key z = key x
    · obtain ⟨z, hz, hkey⟩ := hright
      have hmem := mem_both.1 ((h.both z).2 ⟨hz, x, hx, hbusy, hkey.symm⟩)
      exact hmem.2.1.of_eq (hname z x hkey)
    · exact (mem_leftOnly.1 ((h.leftOnly x).2 ⟨hx, hbusy, hright⟩)).2.1
  refine ⟨fun x hx y hy heq => ?_, fun x hx y hy heq => ?_, fun x hx hbusy y hy heq => ?_⟩
  · cases hxBusy : busy x <;> cases hyBusy : busy y
    · rfl
    · exact absurd heq.symm (hfree x hx (by simp [hxBusy]) y hy hyBusy)
    · exact absurd heq (hfree y hy (by simp [hyBusy]) x hx hxBusy)
    · rfl
  · by_contra hnot
    exact (mem_rightOnly.1 ((h.rightOnly x).2 ⟨hx, hnot⟩)).2 y hy heq
  · by_contra hnot
    exact (mem_leftOnly.1 ((h.leftOnly x).2 ⟨hx, hbusy, hnot⟩)).2.2 y hy heq

/-- **A coarser key splits as the key does exactly where the two sides agree** on the names that
both use. -/
theorem splitsBy_splitBy_iff (hname : ∀ x y, key x = key y → name x = name y) :
    SplitsBy key busy left right (splitBy name busy left right) ↔
      Agrees name key busy left right :=
  ⟨agrees_of_splitsBy hname, splitsBy_of_agrees hname⟩

/-- The key itself splits by the key. -/
theorem splitsBy_splitBy (hleft : (left.map name).Nodup) :
    SplitsBy name busy left right (splitBy name busy left right) := by
  refine splitsBy_of_agrees (fun _ _ h => h) ⟨fun x hx y hy heq => ?_, ?_, ?_⟩
  · rw [List.inj_on_of_nodup_map hleft hx hy heq]
  · exact fun x _ y hy heq => ⟨y, hy, heq⟩
  · exact fun x _ _ y hy heq => ⟨y, hy, heq⟩

end Coarse

end Reconcile

end UbsEngine
