import UbsEngine.Library.Run
import UbsEngine.Library.Assoc

/-!
# The debt ledger

The controller keeps, for each kind of borrow object, a ledger: one table per node from
resource ids to objects, and, for the export kinds only, an index from resource ids to the
node whose table holds the export. This file is the ledger of one kind, operation by
operation: `UbsEngine.Debt.UbseMemNodeDebtMap` is the table of one node,
`UbsEngine.Debt.UbseMemTypeDebtMap` the ledger itself.

The C++ template decides by the type of its objects whether it maintains the index; here
this is a Boolean parameter `isExportObjType` of the operations. A null pointer among the
arguments is `none`. The functions that `UpdateResource` applies under the lock get the
object and say whether the result is to be written back.

What the ledger is *for* is the two-level table `UbsEngine.Debt.UbseMemTypeDebtMap.getResource`,
and every operation is described by what it does to that table and to the index: these are
the only lemmas about the operations that the rest of the development uses.
-/

namespace UbsEngine

namespace Debt

variable {NodeId ResId T : Type*}

/-! ### The table of one node -/

/-- The table of one node: `UbseMemNodeDebtMap`. -/
abbrev UbseMemNodeDebtMap (ResId T : Type*) := Map ResId T

/-- The function given to `Update`: it edits the object and says whether to write it back.
A null `std::function` is `none`. -/
abbrev Modify (T : Type*) := Option (T → Bool × T)

namespace UbseMemNodeDebtMap

variable [DecidableEq ResId]

/-- `Put`: add or overwrite, unless the pointer is null. -/
def put (m : UbseMemNodeDebtMap ResId T) (resId : ResId) :
    Option T → UbseMemNodeDebtMap ResId T
  | none => m
  | some obj => m.insert resId obj

/-- `Get`. -/
def get (m : UbseMemNodeDebtMap ResId T) (resId : ResId) : Option T := m.lookup resId

/-- `Remove`: the answer says whether there was anything to remove. -/
def remove (m : UbseMemNodeDebtMap ResId T) (resId : ResId) :
    Bool × UbseMemNodeDebtMap ResId T :=
  (decide (resId ∈ m), m.erase resId)

/-- `Update`: edit a copy of the object and write it back if the edit agrees. -/
def update (m : UbseMemNodeDebtMap ResId T) (resId : ResId) (modify : Modify T) :
    Bool × UbseMemNodeDebtMap ResId T :=
  match m.lookup resId, modify with
  | none, _ => (false, m)
  | some _, none => (true, m)
  | some obj, some f =>
    match f obj with
    | (false, _) => (true, m)
    | (true, newObj) => (true, m.insert resId newObj)

theorem get_update (m : UbseMemNodeDebtMap ResId T) (r r' : ResId) (f : T → Bool × T) :
    get (update m r (some f)).2 r' =
      if r' = r then (get m r).map fun obj => if (f obj).1 then (f obj).2 else obj
      else get m r' := by
  unfold update get
  cases hobj : m.lookup r with
  | none =>
    dsimp only
    by_cases hr : r' = r
    · rw [if_pos hr, hr]
      exact hobj
    · rw [if_neg hr]
  | some obj =>
    dsimp only [Option.map_some]
    rcases f obj with ⟨_ | _, newObj⟩
    · dsimp only
      by_cases hr : r' = r
      · rw [if_pos hr, if_neg Bool.false_ne_true, hr]
        exact hobj
      · rw [if_neg hr]
    · rw [if_pos rfl]
      exact Map.lookup_insert_ite ..

theorem get_update_isSome (m : UbseMemNodeDebtMap ResId T) (r r' : ResId) (f : Modify T) :
    (get (update m r f).2 r').isSome = (get m r').isSome := by
  unfold update get
  split
  · rfl
  · rfl
  next obj f hobj =>
    split
    · rfl
    next newObj _ =>
      rw [Map.lookup_insert_ite]
      split
      next h => subst h; simp [hobj]
      · rfl

end UbseMemNodeDebtMap

/-! ### The ledger of one kind -/

/-- The ledger of one kind of objects: the tables of the nodes, and the index of the
exports. -/
structure UbseMemTypeDebtMap (NodeId ResId T : Type*) where
  /-- `nodeMap_`: the table of each node. -/
  nodeMap : Map NodeId (UbseMemNodeDebtMap ResId T)
  /-- `exportResIdToNodeId_`: the node that is said to hold each export. -/
  exportResIdToNodeId : Map ResId NodeId

namespace UbseMemTypeDebtMap

variable [DecidableEq NodeId] [DecidableEq ResId]

/-- The ledger as it is constructed. -/
def empty : UbseMemTypeDebtMap NodeId ResId T := ⟨∅, ∅⟩

variable (L : UbseMemTypeDebtMap NodeId ResId T)

/-- `GetOrCreateNodeMap`, and the creation of a table inside `PutResource`. -/
def getOrCreateNodeMap (nodeId : NodeId) : UbseMemNodeDebtMap ResId T :=
  (L.nodeMap.lookup nodeId).getD ∅

/-- `GetResource`. -/
def getResource (nodeId : NodeId) (resId : ResId) : Option T :=
  match L.nodeMap.lookup nodeId with
  | none => none
  | some m => m.get resId

/-- `GetExportResourceByResId`: through the index to the node, and there to the object. -/
def getExportResourceByResId (isExportObjType : Bool) (resId : ResId) : Option T :=
  if isExportObjType then
    match L.exportResIdToNodeId.lookup resId with
    | none => none
    | some nodeId => L.getResource nodeId resId
  else none

/-- `PutResource`. -/
def putResource (isExportObjType : Bool) (nodeId : NodeId) (resId : ResId) :
    Option T → UbseMemTypeDebtMap NodeId ResId T
  | none => L
  | some obj =>
    { nodeMap := L.nodeMap.insert nodeId ((L.getOrCreateNodeMap nodeId).put resId (some obj))
      exportResIdToNodeId :=
        if isExportObjType then L.exportResIdToNodeId.insert resId nodeId
        else L.exportResIdToNodeId }

/-- `UpdateResource`: the index is not concerned. -/
def updateResource (nodeId : NodeId) (resId : ResId) (modify : Modify T) :
    Bool × UbseMemTypeDebtMap NodeId ResId T :=
  match L.nodeMap.lookup nodeId with
  | none => (false, L)
  | some m =>
    ((m.update resId modify).1,
      { L with nodeMap := L.nodeMap.insert nodeId (m.update resId modify).2 })

/-- `RemoveResource`: a removal that takes something away takes the index entry with it. -/
def removeResource (isExportObjType : Bool) (nodeId : NodeId) (resId : ResId) :
    Bool × UbseMemTypeDebtMap NodeId ResId T :=
  match L.nodeMap.lookup nodeId with
  | none => (false, L)
  | some m =>
    if (m.remove resId).1 then
      (true,
        { nodeMap := L.nodeMap.insert nodeId (m.remove resId).2
          exportResIdToNodeId :=
            if isExportObjType then L.exportResIdToNodeId.erase resId
            else L.exportResIdToNodeId })
    else (false, L)

/-- `RemoveNodeMap`: the index loses every id of the node's table. -/
def removeNodeMap (isExportObjType : Bool) (nodeId : NodeId) :
    Bool × UbseMemTypeDebtMap NodeId ResId T :=
  match L.nodeMap.lookup nodeId with
  | none => (false, L)
  | some m =>
    (true,
      { nodeMap := L.nodeMap.erase nodeId
        exportResIdToNodeId :=
          if isExportObjType then Map.eraseAll L.exportResIdToNodeId m.keys
          else L.exportResIdToNodeId })

/-- `RemoveOtherNodeMaps`: one pass over the tables, removing all but one of them. -/
def removeOtherNodeMaps (isExportObjType : Bool) (excludeNodeId : NodeId) :
    UbseMemTypeDebtMap NodeId ResId T :=
  L.nodeMap.keys.foldl
    (fun L nodeId => if nodeId ≠ excludeNodeId then (L.removeNodeMap isExportObjType nodeId).2 else L)
    L

/-- `ClearAllNodeMaps`. -/
def clearAllNodeMaps (isExportObjType : Bool) : UbseMemTypeDebtMap NodeId ResId T where
  nodeMap := ∅
  exportResIdToNodeId := if isExportObjType then ∅ else L.exportResIdToNodeId

end UbseMemTypeDebtMap

end Debt

end UbsEngine
