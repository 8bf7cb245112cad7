import Mathlib.Data.List.Nodup
import Mathlib.Data.List.Perm.Subperm
import UbsEngine.Library.Run
import UbsEngine.Mem.Objects

/-!
# The replies of a pre-online task

A node that comes up has its memory pre-imported by the nodes next to it. The master keeps a task
for it, with the nodes that have not answered yet, and each reply takes its node off the list; the
last one puts the node online, if none of them said that it failed.

The list is read in two ways that do not agree. A reply is taken off by an erasure of the standard
library that is not defined when there is nothing to erase, so that a reply that is delivered again
must not meet the task any more; and a task of which a reply failed is removed only by another
reply that failed. `UbsEngine.PreOnline.replies_conclude_iff` says exactly for which orders of the
replies the task is concluded as it should be.
-/

namespace UbsEngine

namespace PreOnline

open Mem

/-! ### Tasks and replies -/

/-- What a call answers that went well. -/
def UBSE_OK : uint32_t := num 0

inductive PreOnLineState where
  | OFFLINE
  | ONLINE
  deriving DecidableEq

/-- A task of the master. Its nodes are the elements of a set. -/
@[ext]
structure PreOnLineTask where
  nodeId : String
  preOnLineNodes : List String
  expectState : PreOnLineState := .ONLINE
  nodup : preOnLineNodes.Nodup

structure PreOnLineResp where
  taskName : String
  operateNode : String
  ret : uint32_t

/-- What the master keeps: the state of each node, and the tasks by their names. -/
@[ext]
structure PreOnLine where
  nodePreOnLine : String → Option PreOnLineState := fun _ => none
  preOnLineTask : String → Option PreOnLineTask := fun _ => none

/-- `PreOnLineExec`, up to the requests that it sends. -/
def preOnLineExec (s : PreOnLine) (nodeId taskName : String) (remoteNodeIdSet : List String)
    (nodup : remoteNodeIdSet.Nodup) (isInitCluster : Bool) : PreOnLine :=
  if remoteNodeIdSet = [] then
    if isInitCluster then
      { s with nodePreOnLine := Function.update s.nodePreOnLine nodeId (some .ONLINE) }
    else s
  else
    { s with
      preOnLineTask := Function.update s.preOnLineTask taskName (some {
        nodeId := nodeId
        preOnLineNodes := remoteNodeIdSet.insert nodeId
        nodup := nodup.insert }) }

/-- The erasure of a node from the list of a task. `std::remove` gives the end of the list when the
node is not there, and an erasure at the end is not defined. -/
def PreOnLineTask.eraseNode (task : PreOnLineTask) (operateNode : String) :
    Option PreOnLineTask :=
  if operateNode ∈ task.preOnLineNodes then
    some { task with
      preOnLineNodes := task.preOnLineNodes.erase operateNode
      nodup := task.nodup.erase operateNode }
  else none

/-- `handlePreOnLineTask`. There is no outcome when its behaviour is not defined. -/
def handlePreOnLineTask (s : PreOnLine) (reply : PreOnLineResp) : Option PreOnLine :=
  match s.preOnLineTask reply.taskName with
  | none => some s
  | some task =>
    (task.eraseNode reply.operateNode).map fun task =>
      if reply.ret ≠ UBSE_OK then
        { nodePreOnLine := Function.update s.nodePreOnLine task.nodeId (some .OFFLINE)
          preOnLineTask := Function.update s.preOnLineTask reply.taskName
            (if task.preOnLineNodes = [] then none
              else some { task with expectState := .OFFLINE }) }
      else if task.preOnLineNodes = [] ∧ task.expectState = .ONLINE then
        { nodePreOnLine := Function.update s.nodePreOnLine task.nodeId (some .ONLINE)
          preOnLineTask := Function.update s.preOnLineTask reply.taskName none }
      else
        { s with preOnLineTask := Function.update s.preOnLineTask reply.taskName (some task) }

/-! ### Runs of replies -/

section Runs

variable (taskName : String) (answer : String → uint32_t)

/-- All these nodes answer that it went well. -/
def AllOk (answered : List String) : Prop := ∀ n ∈ answered, answer n = UBSE_OK

instance (answered : List String) : Decidable (AllOk answer answered) :=
  inferInstanceAs (Decidable (∀ n ∈ answered, answer n = UBSE_OK))

/-- The reply of a node to the task arrives. -/
def receive (s : Option PreOnLine) (operateNode : String) : Option PreOnLine :=
  s.bind fun s => handlePreOnLineTask s ⟨taskName, operateNode, answer operateNode⟩

/-- The master after replies that arrive in this order. -/
def afterReplies (s : PreOnLine) (order : List String) : Option PreOnLine :=
  order.foldl (receive taskName answer) (some s)

/-- The task is not there any more. -/
def isRemoved : Option PreOnLine → Bool
  | none => false
  | some s => (s.preOnLineTask taskName).isNone

/-- The outcome that the answers of the nodes have, in whichever order they arrive. -/
def concluded (s : PreOnLine) (nodeId : String) (nodes : List String) : PreOnLine where
  nodePreOnLine := Function.update s.nodePreOnLine nodeId
    (some (if AllOk answer nodes then .ONLINE else .OFFLINE))
  preOnLineTask := Function.update s.preOnLineTask taskName none

/-- **The replies conclude the task**: it is removed, by one of them; the node is online exactly
when all went well; the outcome is that of the answers, not of their order; and a reply that is
delivered again changes nothing. -/
structure Concludes (s : PreOnLine) (nodeId : String) (nodes order : List String) : Prop where
  removedOnce : (System.trace (receive taskName answer) (some s) order).countP
    (fun x => !isRemoved taskName x.pre && isRemoved taskName x.post) = 1
  online_iff : ∀ t ∈ afterReplies taskName answer s order,
    t.nodePreOnLine nodeId = some .ONLINE ↔ AllOk answer nodes
  outcome : afterReplies taskName answer s order =
    some (concluded taskName answer s nodeId nodes)
  again : ∀ before n after, order = before ++ n :: after → n ∈ before →
    afterReplies taskName answer s (before ++ [n]) = afterReplies taskName answer s before

/-- **When they do**: no reply is delivered again before all have arrived, and the last that
arrives failed, if any did. -/
structure OneByOne (nodes order : List String) : Prop where
  once : (order.take nodes.length).Nodup
  failureLast : ∀ n ∈ (order.take nodes.length).getLast?, answer n = UBSE_OK →
    AllOk answer nodes

end Runs

/-! ### A reply -/

section Reply

variable {s : PreOnLine} {task : PreOnLineTask} {taskName n : String} {ret : uint32_t}

theorem handlePreOnLineTask_of_removed (h : s.preOnLineTask taskName = none) :
    handlePreOnLineTask s ⟨taskName, n, ret⟩ = some s := by
  rw [handlePreOnLineTask, h]

/-- A node that is not on the list has nothing to erase. -/
theorem handlePreOnLineTask_of_not_mem (h : s.preOnLineTask taskName = some task)
    (hn : n ∉ task.preOnLineNodes) : handlePreOnLineTask s ⟨taskName, n, ret⟩ = none := by
  rw [handlePreOnLineTask, h]
  dsimp only
  rw [PreOnLineTask.eraseNode, if_neg hn]
  rfl

/-- The task without a node that is on its list. -/
def PreOnLineTask.without (task : PreOnLineTask) (n : String) : PreOnLineTask :=
  { task with
    preOnLineNodes := task.preOnLineNodes.erase n
    nodup := task.nodup.erase n }

theorem handlePreOnLineTask_of_failed (h : s.preOnLineTask taskName = some task)
    (hn : n ∈ task.preOnLineNodes) (hret : ret ≠ UBSE_OK) :
    handlePreOnLineTask s ⟨taskName, n, ret⟩ = some
      { nodePreOnLine := Function.update s.nodePreOnLine task.nodeId (some .OFFLINE)
        preOnLineTask := Function.update s.preOnLineTask taskName
          (if task.preOnLineNodes.erase n = [] then none
            else some { task.without n with expectState := .OFFLINE }) } := by
  rw [handlePreOnLineTask, h]
  dsimp only
  rw [PreOnLineTask.eraseNode, if_pos hn, Option.map_some, if_pos hret]
  rfl

/-- The last reply puts the node online, if no other failed. -/
theorem handlePreOnLineTask_of_last (h : s.preOnLineTask taskName = some task)
    (hn : n ∈ task.preOnLineNodes) (hret : ret = UBSE_OK)
    (hlast : task.preOnLineNodes.erase n = []) (hexpect : task.expectState = .ONLINE) :
    handlePreOnLineTask s ⟨taskName, n, ret⟩ = some
      { nodePreOnLine := Function.update s.nodePreOnLine task.nodeId (some .ONLINE)
        preOnLineTask := Function.update s.preOnLineTask taskName none } := by
  rw [handlePreOnLineTask, h]
  dsimp only
  rw [PreOnLineTask.eraseNode, if_pos hn, Option.map_some, if_neg (not_not.mpr hret),
    if_pos ⟨hlast, hexpect⟩]

/-- Any other reply that went well only takes its node off the list. -/
theorem handlePreOnLineTask_of_waiting (h : s.preOnLineTask taskName = some task)
    (hn : n ∈ task.preOnLineNodes) (hret : ret = UBSE_OK)
    (hwait : ¬(task.preOnLineNodes.erase n = [] ∧ task.expectState = .ONLINE)) :
    handlePreOnLineTask s ⟨taskName, n, ret⟩ = some
      { s with
        preOnLineTask := Function.update s.preOnLineTask taskName (some (task.without n)) } := by
  rw [handlePreOnLineTask, h]
  dsimp only
  rw [PreOnLineTask.eraseNode, if_pos hn, Option.map_some, if_neg (not_not.mpr hret),
    if_neg hwait]
  rfl

end Reply

/-! ### The task while replies arrive -/

section Arrive

variable (taskName : String) (answer : String → uint32_t) (s : PreOnLine) (nodeId : String)
  (nodes : List String)

/-- The task when these nodes have answered. -/
def answeredTask (hnodes : nodes.Nodup) (answered : List String) : PreOnLineTask where
  nodeId := nodeId
  preOnLineNodes := nodes.diff answered
  expectState := if AllOk answer answered then .ONLINE else .OFFLINE
  nodup := hnodes.diff

/-- The master when these nodes have answered, the task being left. -/
def answeredState (hnodes : nodes.Nodup) (answered : List String) : PreOnLine where
  nodePreOnLine :=
    if AllOk answer answered then s.nodePreOnLine
    else Function.update s.nodePreOnLine nodeId (some .OFFLINE)
  preOnLineTask := Function.update s.preOnLineTask taskName
    (some (answeredTask answer nodeId nodes hnodes answered))

variable {taskName answer s nodeId nodes} {hnodes : nodes.Nodup} {answered : List String}
  {n : String}

theorem allOk_snoc : AllOk answer (answered ++ [n]) ↔
    AllOk answer answered ∧ answer n = UBSE_OK := by
  simp [AllOk, or_imp, forall_and]

theorem diff_snoc : nodes.diff (answered ++ [n]) = (nodes.diff answered).erase n := by
  rw [List.diff_append, List.diff_cons, List.diff_nil]

theorem mem_answered_iff (hnodes : nodes.Nodup) :
    n ∈ nodes.diff answered ↔ n ∈ nodes ∧ n ∉ answered := hnodes.mem_sdiff_iff

theorem preOnLineTask_answeredState :
    (answeredState taskName answer s nodeId nodes hnodes answered).preOnLineTask taskName =
      some (answeredTask answer nodeId nodes hnodes answered) := Function.update_self ..

theorem answeredState_snoc_of_ok (hret : answer n = UBSE_OK) :
    answeredState taskName answer s nodeId nodes hnodes (answered ++ [n]) =
      { answeredState taskName answer s nodeId nodes hnodes answered with
        preOnLineTask := Function.update
          (answeredState taskName answer s nodeId nodes hnodes answered).preOnLineTask taskName
          (some ((answeredTask answer nodeId nodes hnodes answered).without n)) } := by
  have hall : AllOk answer (answered ++ [n]) ↔ AllOk answer answered :=
    allOk_snoc.trans (and_iff_left hret)
  have htask : answeredTask answer nodeId nodes hnodes (answered ++ [n]) =
      (answeredTask answer nodeId nodes hnodes answered).without n :=
    PreOnLineTask.ext rfl diff_snoc (if_congr hall rfl rfl)
  refine PreOnLine.ext (if_congr hall rfl rfl) ?_
  dsimp only [answeredState]
  rw [htask, Function.update_idem]

theorem answeredState_snoc_of_failed (hret : answer n ≠ UBSE_OK) :
    answeredState taskName answer s nodeId nodes hnodes (answered ++ [n]) =
      { nodePreOnLine := Function.update
          (answeredState taskName answer s nodeId nodes hnodes answered).nodePreOnLine nodeId
          (some .OFFLINE)
        preOnLineTask := Function.update
          (answeredState taskName answer s nodeId nodes hnodes answered).preOnLineTask taskName
          (some { (answeredTask answer nodeId nodes hnodes answered).without n with
            expectState := .OFFLINE }) } := by
  have hall : ¬AllOk answer (answered ++ [n]) := fun h => hret (allOk_snoc.mp h).2
  have htask : answeredTask answer nodeId nodes hnodes (answered ++ [n]) =
      { (answeredTask answer nodeId nodes hnodes answered).without n with
        expectState := .OFFLINE } :=
    PreOnLineTask.ext rfl diff_snoc (if_neg hall)
  refine PreOnLine.ext ?_ ?_
  · dsimp only [answeredState]
    rw [if_neg hall]
    split
    · rfl
    · rw [Function.update_idem]
  · dsimp only [answeredState]
    rw [htask, Function.update_idem]

/-- **A reply while others are missing** leads to the task with one more node that has
answered. -/
theorem receive_of_missing (hn : n ∈ nodes.diff answered)
    (hmissing : nodes.diff (answered ++ [n]) ≠ []) :
    receive taskName answer
        (some (answeredState taskName answer s nodeId nodes hnodes answered)) n =
      some (answeredState taskName answer s nodeId nodes hnodes (answered ++ [n])) := by
  rw [diff_snoc] at hmissing
  rw [receive, Option.bind_some]
  by_cases hret : answer n = UBSE_OK
  · rw [answeredState_snoc_of_ok hret]
    exact handlePreOnLineTask_of_waiting preOnLineTask_answeredState hn hret
      fun h => hmissing h.1
  · rw [answeredState_snoc_of_failed hret,
      handlePreOnLineTask_of_failed preOnLineTask_answeredState hn hret]
    refine congrArg some (PreOnLine.ext rfl ?_)
    exact congrArg (Function.update _ taskName) (if_neg hmissing)

/-- **The last reply, after one that failed**, leaves the task if it went well itself. -/
theorem receive_of_last_ok (hn : n ∈ nodes.diff answered) (hret : answer n = UBSE_OK)
    (hfailed : ¬AllOk answer answered) :
    receive taskName answer
        (some (answeredState taskName answer s nodeId nodes hnodes answered)) n =
      some (answeredState taskName answer s nodeId nodes hnodes (answered ++ [n])) := by
  rw [receive, Option.bind_some, answeredState_snoc_of_ok hret]
  refine handlePreOnLineTask_of_waiting preOnLineTask_answeredState hn hret fun h => ?_
  rw [answeredTask, if_neg hfailed] at h
  nomatch h.2

/-- **The last reply** concludes the task, when it failed or none did. -/
theorem receive_of_last (hn : n ∈ nodes.diff answered) (hlast : nodes.diff (answered ++ [n]) = [])
    (hall : ∀ m, m ∈ answered ++ [n] ↔ m ∈ nodes)
    (hfail : answer n = UBSE_OK → AllOk answer nodes) :
    receive taskName answer
        (some (answeredState taskName answer s nodeId nodes hnodes answered)) n =
      some (concluded taskName answer s nodeId nodes) := by
  have hnodesOk : AllOk answer nodes ↔ AllOk answer (answered ++ [n]) :=
    forall_congr' fun m => imp_congr_left (hall m).symm
  rw [diff_snoc] at hlast
  rw [receive, Option.bind_some]
  by_cases hret : answer n = UBSE_OK
  · have hok := hfail hret
    have hanswered := (allOk_snoc.mp (hnodesOk.mp hok)).1
    rw [handlePreOnLineTask_of_last preOnLineTask_answeredState hn hret hlast (if_pos hanswered)]
    refine congrArg some (PreOnLine.ext ?_ (Function.update_idem ..))
    dsimp only [answeredState, concluded, answeredTask]
    rw [if_pos hanswered, if_pos hok]
  · have hnot : ¬AllOk answer nodes := fun h => hret (allOk_snoc.mp (hnodesOk.mp h)).2
    rw [handlePreOnLineTask_of_failed preOnLineTask_answeredState hn hret]
    refine congrArg some (PreOnLine.ext ?_ ?_)
    · dsimp only [answeredState, concluded, answeredTask]
      rw [if_neg hnot]
      split
      · rfl
      · rw [Function.update_idem]
    · exact (congrArg _ (if_pos hlast)).trans (Function.update_idem ..)

/-- **A reply that is delivered again** to the task has no defined outcome. -/
theorem receive_again (hn : n ∉ nodes.diff answered) :
    receive taskName answer
        (some (answeredState taskName answer s nodeId nodes hnodes answered)) n =
      none := by
  rw [receive, Option.bind_some]
  exact handlePreOnLineTask_of_not_mem preOnLineTask_answeredState hn

end Arrive

/-! ### Orders of the replies -/

section Orders

variable {taskName : String} {answer : String → uint32_t} {s t : PreOnLine} {nodeId n : String}
  {nodes order answered : List String} {hnodes : nodes.Nodup}

theorem afterReplies_append (before after : List String) :
    afterReplies taskName answer s (before ++ after) =
      after.foldl (receive taskName answer) (afterReplies taskName answer s before) :=
  List.foldl_append

theorem afterReplies_snoc : afterReplies taskName answer s (order ++ [n]) =
    receive taskName answer (afterReplies taskName answer s order) n :=
  afterReplies_append order [n]

theorem receive_of_removed (h : t.preOnLineTask taskName = none) :
    receive taskName answer (some t) n = some t := handlePreOnLineTask_of_removed h

theorem foldl_receive_of_removed (h : t.preOnLineTask taskName = none) (after : List String) :
    after.foldl (receive taskName answer) (some t) = some t := by
  induction after with
  | nil => rfl
  | cons n after ih => rw [List.foldl_cons, receive_of_removed h, ih]

theorem foldl_receive_none (after : List String) :
    after.foldl (receive taskName answer) none = none := by
  induction after with
  | nil => rfl
  | cons n after ih => exact ih

theorem isRemoved_receive (o : Option PreOnLine) (n : String) (h : isRemoved taskName o = true) :
    isRemoved taskName (receive taskName answer o n) = true := by
  cases o with
  | none => nomatch h
  | some t => rwa [receive_of_removed (Option.isNone_iff_eq_none.mp h)]

/-- Replies of different nodes, some being missing. -/
theorem afterReplies_of_missing
    (hs : s.preOnLineTask taskName = some (answeredTask answer nodeId nodes hnodes []))
    (hnodup : answered.Nodup) (hsub : ∀ m ∈ answered, m ∈ nodes)
    (hmissing : nodes.diff answered ≠ []) :
    afterReplies taskName answer s answered =
      some (answeredState taskName answer s nodeId nodes hnodes answered) := by
  induction answered using List.reverseRecOn with
  | nil =>
    refine congrArg some (PreOnLine.ext rfl ?_)
    rw [answeredState, ← hs, Function.update_eq_self]
  | append_singleton answered n ih =>
    obtain ⟨hnodup', -, hnew⟩ := List.nodup_append.mp hnodup
    have hbefore : nodes.diff answered ≠ [] := by
      intro hnil
      rw [diff_snoc, hnil] at hmissing
      exact hmissing rfl
    rw [afterReplies_snoc, ih hnodup' (fun m hm => hsub m (List.mem_append_left _ hm)) hbefore]
    refine receive_of_missing ((mem_answered_iff hnodes).mpr ⟨?_, fun hn => ?_⟩) hmissing
    · exact hsub n (List.mem_append_right _ (List.mem_singleton_self n))
    · exact hnew n hn n (List.mem_singleton_self n) rfl

/-- As long as fewer nodes have answered than there are, one is missing. -/
theorem diff_ne_nil (hnodes : nodes.Nodup) (hlength : answered.length < nodes.length) :
    nodes.diff answered ≠ [] := by
  intro hnil
  have hsub : nodes ⊆ answered := fun m hm => by
    by_contra hnot
    have hmem := (mem_answered_iff hnodes).mpr ⟨hm, hnot⟩
    rw [hnil] at hmem
    nomatch hmem
  exact absurd (hnodes.subperm hsub).length_le (Nat.not_le.mpr hlength)

/-- **Before all nodes have answered, a defined outcome means that none has answered twice.** -/
theorem nodup_of_defined
    (hs : s.preOnLineTask taskName = some (answeredTask answer nodeId nodes hnodes []))
    (hdefined : afterReplies taskName answer s answered ≠ none)
    (hlength : answered.length ≤ nodes.length) :
    answered.Nodup ∧ ∀ m ∈ answered, m ∈ nodes := by
  induction answered using List.reverseRecOn with
  | nil => exact ⟨List.nodup_nil, fun _ hm => nomatch hm⟩
  | append_singleton answered n ih =>
    rw [List.length_append, List.length_singleton] at hlength
    rw [afterReplies_snoc] at hdefined
    obtain ⟨hnodup, hsub⟩ := ih (fun hnone => hdefined (by rw [hnone]; rfl)) (by omega)
    rw [afterReplies_of_missing hs hnodup hsub (diff_ne_nil hnodes hlength)] at hdefined
    obtain ⟨hn, hnew⟩ := (mem_answered_iff hnodes).mp
      (not_not.mp fun hnot => hdefined (receive_again hnot))
    refine ⟨hnodup.append (List.nodup_singleton n) (by simpa using hnew), fun m hm => ?_⟩
    rcases List.mem_append.mp hm with hm | hm
    · exact hsub m hm
    · rw [List.mem_singleton.mp hm]
      exact hn

/-- The first replies of an order in which every node answers, when none of them is delivered
again, are those of all nodes. -/
theorem perm_take (hnodes : nodes.Nodup) (hcomplete : ∀ m, m ∈ order ↔ m ∈ nodes)
    (honce : (order.take nodes.length).Nodup) : (order.take nodes.length).Perm nodes := by
  have hsub : order.take nodes.length ⊆ nodes := fun m hm =>
    (hcomplete m).mp (List.mem_of_mem_take hm)
  refine (honce.subperm hsub).perm_of_length_le ?_
  have hlength := (hnodes.subperm fun m hm => (hcomplete m).mpr hm).length_le
  rw [List.length_take, Nat.min_eq_left hlength]

/-- **The last reply of an order of all nodes**: the task before it, and what is left after it. -/
theorem afterReplies_of_last
    (hs : s.preOnLineTask taskName = some (answeredTask answer nodeId nodes hnodes []))
    (hperm : (answered ++ [n]).Perm nodes) :
    n ∈ nodes.diff answered ∧ nodes.diff (answered ++ [n]) = [] ∧
      afterReplies taskName answer s answered =
        some (answeredState taskName answer s nodeId nodes hnodes answered) := by
  obtain ⟨hnodup, -, hnew⟩ := List.nodup_append.mp (hperm.nodup_iff.mpr hnodes)
  have hlength : answered.length < nodes.length := by
    rw [← hperm.length_eq, List.length_append, List.length_singleton]
    exact Nat.lt_succ_self _
  refine ⟨(mem_answered_iff hnodes).mpr ⟨?_, fun hn => ?_⟩, ?_, ?_⟩
  · exact hperm.mem_iff.mp (List.mem_append_right _ (List.mem_singleton_self n))
  · exact hnew n hn n (List.mem_singleton_self n) rfl
  · refine List.eq_nil_iff_forall_not_mem.mpr fun m hm => ?_
    obtain ⟨hm, hnot⟩ := (mem_answered_iff hnodes).mp hm
    exact hnot (hperm.mem_iff.mpr hm)
  · exact afterReplies_of_missing hs hnodup
      (fun m hm => hperm.mem_iff.mp (List.mem_append_left _ hm)) (diff_ne_nil hnodes hlength)

/-- Replies of all nodes, each once and a failure last, conclude the task. -/
theorem afterReplies_of_perm
    (hs : s.preOnLineTask taskName = some (answeredTask answer nodeId nodes hnodes []))
    (hne : nodes ≠ []) (hperm : answered.Perm nodes)
    (hfail : ∀ n ∈ answered.getLast?, answer n = UBSE_OK → AllOk answer nodes) :
    afterReplies taskName answer s answered = some (concluded taskName answer s nodeId nodes) := by
  rcases List.eq_nil_or_concat answered with rfl | ⟨answered, n, rfl⟩
  · exact absurd hperm.symm.eq_nil hne
  · rw [List.concat_eq_append] at *
    obtain ⟨hn, hlast, hbefore⟩ := afterReplies_of_last hs hperm
    rw [afterReplies_snoc, hbefore]
    exact receive_of_last hn hlast (fun m => hperm.mem_iff)
      (hfail n (by rw [List.getLast?_concat]; rfl))

/-- A concluded task stays concluded, whatever is delivered again. -/
theorem afterReplies_of_concluded
    (h : afterReplies taskName answer s answered =
      some (concluded taskName answer s nodeId nodes)) (hpre : answered <+: order) :
    afterReplies taskName answer s order = some (concluded taskName answer s nodeId nodes) := by
  obtain ⟨after, rfl⟩ := hpre
  rw [afterReplies_append, h]
  exact foldl_receive_of_removed (Function.update_self ..) after

theorem concludes_of_oneByOne
    (hs : s.preOnLineTask taskName = some (answeredTask answer nodeId nodes hnodes []))
    (hne : nodes ≠ []) (hcomplete : ∀ m, m ∈ order ↔ m ∈ nodes)
    (h : OneByOne answer nodes order) : Concludes taskName answer s nodeId nodes order := by
  have hperm := perm_take hnodes hcomplete h.once
  have hfirst := afterReplies_of_perm hs hne hperm h.failureLast
  have houtcome := afterReplies_of_concluded hfirst (List.take_prefix ..)
  refine ⟨?_, ?_, houtcome, ?_⟩
  · rw [System.countP_trace_of_stable isRemoved_receive, ← afterReplies, houtcome]
    have hthere : isRemoved taskName (some s) = false := by
      rw [isRemoved, hs]
      rfl
    have hgone : isRemoved taskName (some (concluded taskName answer s nodeId nodes)) = true :=
      Option.isNone_iff_eq_none.mpr (Function.update_self ..)
    rw [hthere, hgone]
    rfl
  · intro t ht
    rw [houtcome] at ht
    obtain rfl := Option.some.inj ht
    have hstate : (concluded taskName answer s nodeId nodes).nodePreOnLine nodeId =
        some (if AllOk answer nodes then .ONLINE else .OFFLINE) := Function.update_self ..
    rw [hstate]
    by_cases hall : AllOk answer nodes
    · rw [if_pos hall]
      exact iff_of_true rfl hall
    · rw [if_neg hall]
      exact iff_of_false (fun h => nomatch h) hall
  · rintro before n after rfl hn
    -- The reply was delivered before, so that all first replies were.
    have hlength : nodes.length ≤ before.length := by
      by_contra hlt
      have hpre : before ++ [n] <+: (before ++ n :: after).take nodes.length := by
        refine List.prefix_take_iff.mpr ⟨⟨after, by simp⟩, ?_⟩
        rw [List.length_append, List.length_singleton]
        omega
      have hnodup := h.once.sublist hpre.sublist
      exact (List.nodup_append.mp hnodup).2.2 n hn n (List.mem_singleton_self n) rfl
    have hbefore : (before ++ n :: after).take nodes.length <+: before := by
      rw [List.take_append_of_le_length hlength]
      exact List.take_prefix ..
    rw [afterReplies_of_concluded hfirst hbefore,
      afterReplies_of_concluded hfirst (hbefore.trans (List.prefix_append ..))]

theorem oneByOne_of_concludes
    (hs : s.preOnLineTask taskName = some (answeredTask answer nodeId nodes hnodes []))
    (hcomplete : ∀ m, m ∈ order ↔ m ∈ nodes)
    (h : Concludes taskName answer s nodeId nodes order) : OneByOne answer nodes order := by
  have hsplit := (List.take_append_drop nodes.length order).symm
  have houtcome := h.outcome
  rw [hsplit, afterReplies_append] at houtcome
  have hdefined : afterReplies taskName answer s (order.take nodes.length) ≠ none := by
    intro hnone
    rw [hnone, foldl_receive_none] at houtcome
    nomatch houtcome
  have honce := (nodup_of_defined hs hdefined (List.length_take_le ..)).1
  refine ⟨honce, fun n hn hret => ?_⟩
  have hperm := perm_take hnodes hcomplete honce
  obtain ⟨answered, hanswered⟩ := List.getLast?_eq_some_iff.mp hn
  rw [hanswered] at hperm houtcome
  obtain ⟨hmem, hlast, hbefore⟩ := afterReplies_of_last hs hperm
  by_contra hfailed
  have hnot : ¬AllOk answer answered := fun hall =>
    hfailed fun m hm => (allOk_snoc.mpr ⟨hall, hret⟩) m (hperm.mem_iff.mpr hm)
  rw [afterReplies_snoc, hbefore, receive_of_last_ok hmem hret hnot] at houtcome
  -- The task is left without nodes, and the next reply has nothing to erase.
  cases hagain : order.drop nodes.length with
  | nil =>
    rw [hagain] at houtcome
    have htask := congrArg (·.preOnLineTask taskName) (Option.some.inj houtcome)
    dsimp only [concluded] at htask
    rw [preOnLineTask_answeredState, Function.update_self] at htask
    nomatch htask
  | cons m after =>
    rw [hagain, List.foldl_cons, receive_again (by rw [hlast]; exact List.not_mem_nil),
      foldl_receive_none] at houtcome
    nomatch houtcome

end Orders

/-! ### Every task -/

/-- **Which orders of the replies conclude a task**: for every new task and every order in which
all its nodes answer, those in which no reply is delivered again before all have arrived, and the
last that arrives failed if any did. -/
theorem replies_conclude_iff (s : PreOnLine) (nodeId taskName : String)
    {remoteNodeIdSet : List String} (hremote : remoteNodeIdSet.Nodup) (hne : remoteNodeIdSet ≠ [])
    (isInitCluster : Bool) (answer : String → uint32_t) (order : List String)
    (hcomplete : ∀ n, n ∈ order ↔ n ∈ remoteNodeIdSet.insert nodeId) :
    Concludes taskName answer
        (preOnLineExec s nodeId taskName remoteNodeIdSet hremote isInitCluster)
        nodeId (remoteNodeIdSet.insert nodeId) order ↔
      OneByOne answer (remoteNodeIdSet.insert nodeId) order := by
  have hs : (preOnLineExec s nodeId taskName remoteNodeIdSet hremote isInitCluster).preOnLineTask
      taskName = some (answeredTask answer nodeId (remoteNodeIdSet.insert nodeId)
        hremote.insert []) := by
    rw [preOnLineExec, if_neg hne]
    exact Function.update_self ..
  have hnodes : remoteNodeIdSet.insert nodeId ≠ [] :=
    List.ne_nil_of_mem List.mem_insert_self
  exact ⟨oneByOne_of_concludes hs hcomplete, concludes_of_oneByOne hs hnodes hcomplete⟩

/-- The nodes of "1" and "2" answer one after the other. -/
theorem replies_conclude_one_two :
    Concludes "1_a" (fun _ => UBSE_OK)
      (preOnLineExec {} "1" "1_a" ["2"] (List.nodup_singleton "2") true) "1" ["1", "2"]
      ["2", "1", "2"] :=
  (replies_conclude_iff {} "1" "1_a" (List.nodup_singleton "2") (List.cons_ne_nil _ _) true _ _
    fun n => by simpa [or_comm] using Or.inr).mpr
    ⟨by decide, fun _ _ _ _ _ => rfl⟩

/-! ### A task that is left behind -/

/-- The answers when one node failed, and no other. -/
def failedAt (nodeId : String) (n : String) : uint32_t := if n = nodeId then num 1 else UBSE_OK

/-- **A failure that is not the last reply leaves the task behind**, and one that is delivered
again meets it. -/
theorem not_replies_conclude :
    ((afterReplies "1_a" (failedAt "1")
        (preOnLineExec {} "1" "1_a" ["2"] (List.nodup_singleton "2") true) ["1", "2"]).map
      fun s => (s.preOnLineTask "1_a").isSome) = some true ∧
    ((afterReplies "1_a" (failedAt "1")
        (preOnLineExec {} "1" "1_a" ["2"] (List.nodup_singleton "2") true) ["2", "1"]).map
      fun s => (s.preOnLineTask "1_a").isSome) = some false ∧
    afterReplies "1_a" (fun _ => UBSE_OK)
      (preOnLineExec {} "1" "1_a" ["2"] (List.nodup_singleton "2") true) ["1", "1", "2"] = none ∧
    ¬Concludes "1_a" (failedAt "1")
      (preOnLineExec {} "1" "1_a" ["2"] (List.nodup_singleton "2") true) "1" ["1", "2"]
      ["1", "2"] := by
  have hleft : ((afterReplies "1_a" (failedAt "1")
        (preOnLineExec {} "1" "1_a" ["2"] (List.nodup_singleton "2") true) ["1", "2"]).map
      fun s => (s.preOnLineTask "1_a").isSome) = some true := by decide +kernel
  refine ⟨hleft, by decide +kernel, Option.isNone_iff_eq_none.mp (by decide +kernel), fun h => ?_⟩
  rw [h.outcome] at hleft
  exact absurd hleft (by decide +kernel)

end PreOnline

end UbsEngine
