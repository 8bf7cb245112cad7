import UbsEngine.Context.Sort

/-!
# The life of the process

Whatever fails and whenever the signal comes, the calls that the process makes on its modules are in
order (`UbsEngine.Context.main_lifecycle`): the modules are created, a part of the start takes place,
and then everything that has been created is stopped and destroyed, each step after all that it
requires (`UbsEngine.Context.Requires`).
-/

namespace UbsEngine

namespace Context

open TopoOrder

variable {κ : Type*} [DecidableEq κ]

/-! ### The calls of a life -/

/-- The start of modules that are sorted, if nothing fails. -/
def startup (sorted : Group → List κ) : List (Call κ) :=
  (sorted .base).map (Call.mk .init .base) ++ (sorted .base).map (Call.mk .start .base) ++
    ((sorted .business).map (Call.mk .init .business) ++
      (sorted .business).map (Call.mk .start .business))

/-- The end of modules that are created. -/
def shutdown (created : Group → List κ) : List (Call κ) :=
  (created .business).reverse.map (Call.mk .stop .business) ++
    (created .business).reverse.map (Call.mk .unInit .business) ++
    ((created .base).reverse.map (Call.mk .stop .base) ++
      (created .base).reverse.map (Call.mk .unInit .base))

def creation (created : Group → List κ) : List (Call κ) :=
  (created .base).map (Call.mk .create .base) ++
    (created .business).map (Call.mk .create .business)

omit [DecidableEq κ] in
theorem mem_creation {created : Group → List κ} {group : Group} {a : κ} :
    ⟨.create, group, a⟩ ∈ creation created ↔ a ∈ created group := by
  rcases group with _ | _ <;> simp [creation]

/-- What has to come before a call. -/
inductive Requires (creatorMap : Group → Map κ (ModuleEntry κ)) (created : Group → List κ) :
    Call κ → Call κ → Prop
  | create {g a b} (h : Dep (creatorMap g) a b) :
    Requires creatorMap created ⟨.create, g, a⟩ ⟨.create, g, b⟩
  /-- All modules are there before the first one is set up. -/
  | created {g g' a b} (h : b ∈ (creatorMap g').keys) :
    Requires creatorMap created ⟨.init, g, a⟩ ⟨.create, g', b⟩
  | init {g a b} (h : Dep (creatorMap g) a b) :
    Requires creatorMap created ⟨.init, g, a⟩ ⟨.init, g, b⟩
  /-- The base modules run before another one is set up. -/
  | base {a b} (h : b ∈ (creatorMap .base).keys) :
    Requires creatorMap created ⟨.init, .business, a⟩ ⟨.start, .base, b⟩
  | inited {g a b} (h : b ∈ (creatorMap g).keys) :
    Requires creatorMap created ⟨.start, g, a⟩ ⟨.init, g, b⟩
  | start {g a b} (h : Dep (creatorMap g) a b) :
    Requires creatorMap created ⟨.start, g, a⟩ ⟨.start, g, b⟩
  /-- What depends on a module is stopped before it, and is destroyed before it. -/
  | stop {g a b} (h : Dep (creatorMap g) b a) (hb : b ∈ created g) :
    Requires creatorMap created ⟨.stop, g, a⟩ ⟨.stop, g, b⟩
  | unInit {g a b} (h : Dep (creatorMap g) b a) (hb : b ∈ created g) :
    Requires creatorMap created ⟨.unInit, g, a⟩ ⟨.unInit, g, b⟩
  | stopped {g a b} (hb : b ∈ created g) :
    Requires creatorMap created ⟨.unInit, g, a⟩ ⟨.stop, g, b⟩
  /-- The base modules run until all others are destroyed. -/
  | business {a b} (hb : b ∈ created .business) :
    Requires creatorMap created ⟨.stop, .base, a⟩ ⟨.unInit, .business, b⟩

section Order

variable {creatorMap : Group → Map κ (ModuleEntry κ)} {created : Group → List κ}

theorem ordered_creation (hordered : ∀ g, Ordered (Dep (creatorMap g)) (created g)) :
    Ordered (Requires creatorMap created) (creation created) := by
  refine ordered_append.2 ⟨(hordered .base).map ?_, (hordered .business).map ?_⟩
  · rintro a - c hc
    cases hc with
    | create h => exact ⟨_, h, rfl⟩
  · rintro a - c ⟨hc, -⟩
    cases hc with
    | create h => exact ⟨_, h, rfl⟩

/-- A start that is complete is in order, if everything has been created. -/
theorem ordered_startup (hordered : ∀ g, Ordered (Dep (creatorMap g)) (created g))
    (hall : ∀ g, ∀ a ∈ (creatorMap g).keys, a ∈ created g) :
    Ordered (fun c c' => Requires creatorMap created c c' ∧ c' ∉ creation created)
      (startup created) := by
  refine ordered_append.2 ⟨ordered_append.2 ⟨(hordered .base).map ?_, (hordered .base).map ?_⟩,
    ordered_append.2 ⟨(hordered .business).map ?_, (hordered .business).map ?_⟩⟩
  · rintro a - c ⟨hc, hnot⟩
    cases hc with
    | created h => exact absurd (mem_creation.2 (hall _ _ h)) hnot
    | init h => exact ⟨_, h, rfl⟩
  · rintro a - c ⟨⟨hc, -⟩, hnot⟩
    cases hc with
    | inited h => exact absurd (List.mem_map_of_mem (hall _ _ h)) hnot
    | start h => exact ⟨_, h, rfl⟩
  · rintro a - c ⟨⟨hc, hnot⟩, hnot'⟩
    cases hc with
    | created h => exact absurd (mem_creation.2 (hall _ _ h)) hnot
    | init h => exact ⟨_, h, rfl⟩
    | base h =>
      exact absurd (List.mem_append_right _ (List.mem_map_of_mem (hall _ _ h))) hnot'
  · rintro a - c ⟨⟨⟨hc, -⟩, -⟩, hnot⟩
    cases hc with
    | inited h => exact absurd (List.mem_map_of_mem (hall _ _ h)) hnot
    | start h => exact ⟨_, h, rfl⟩

/-- The end is in order, whatever came before. -/
theorem ordered_shutdown (hordered : ∀ g, Ordered (Dep (creatorMap g)) (created g))
    (hnodup : ∀ g, (created g).Nodup) :
    Ordered (Requires creatorMap created) (shutdown created) := by
  have hreverse := fun g => (hordered g).reverse (hnodup g)
  refine ordered_append.2 ⟨ordered_append.2 ⟨(hreverse .business).map ?_,
    (hreverse .business).map ?_⟩, ordered_append.2 ⟨(hreverse .base).map ?_,
      (hreverse .base).map ?_⟩⟩
  · rintro a - c hc
    cases hc with
    | stop h hb => exact ⟨_, ⟨hb, h⟩, rfl⟩
  · rintro a - c ⟨hc, hnot⟩
    cases hc with
    | unInit h hb => exact ⟨_, ⟨hb, h⟩, rfl⟩
    | stopped hb => exact absurd (List.mem_map_of_mem (List.mem_reverse.2 hb)) hnot
  · rintro a - c ⟨hc, hnot⟩
    cases hc with
    | stop h hb => exact ⟨_, ⟨hb, h⟩, rfl⟩
    | business hb =>
      exact absurd (List.mem_append_right _ (List.mem_map_of_mem (List.mem_reverse.2 hb))) hnot
  · rintro a - c ⟨⟨hc, -⟩, hnot⟩
    cases hc with
    | unInit h hb => exact ⟨_, ⟨hb, h⟩, rfl⟩
    | stopped hb => exact absurd (List.mem_map_of_mem (List.mem_reverse.2 hb)) hnot

end Order

/-! ### Part of a start -/

/-- What a start does not touch. -/
structure SameModules (ctx ctx' : UbseContext κ) : Prop where
  baseModuleCreatorMap : ctx'.baseModuleCreatorMap = ctx.baseModuleCreatorMap
  moduleCreatorMap : ctx'.moduleCreatorMap = ctx.moduleCreatorMap
  sortedBaseModules : ctx'.sortedBaseModules = ctx.sortedBaseModules
  sortedModules : ctx'.sortedModules = ctx.sortedModules

omit [DecidableEq κ] in
theorem SameModules.refl (ctx : UbseContext κ) : SameModules ctx ctx := ⟨rfl, rfl, rfl, rfl⟩

omit [DecidableEq κ] in
theorem SameModules.trans {ctx₁ ctx₂ ctx₃ : UbseContext κ} (h : SameModules ctx₁ ctx₂)
    (h' : SameModules ctx₂ ctx₃) : SameModules ctx₁ ctx₃ :=
  ⟨h'.1.trans h.1, h'.2.trans h.2, h'.3.trans h.3, h'.4.trans h.4⟩

omit [DecidableEq κ] in
theorem SameModules.sorted {ctx ctx' : UbseContext κ} (h : SameModules ctx ctx') :
    ctx'.sorted = ctx.sorted := by
  funext g
  rcases g with _ | _
  · exact h.sortedBaseModules
  · exact h.sortedModules

/-- The signal has come before the next read of the flag. -/
def Signalled (env : Environment κ) (ctx : UbseContext κ) : Prop := env.globalStop ctx.loads = true

/-- A part of the calls that there are to make: all of them, unless one fails or the signal comes.
After the signal there are none. -/
structure Part (env : Environment κ) (ctx : UbseContext κ) (wanted : List (Call κ))
    (r : Option RunError × UbseContext κ) (done : List (Call κ)) : Prop where
  calls : r.2.calls = ctx.calls ++ done
  initial : done <+: wanted
  complete : r.1 = none → done = wanted ∨ Signalled env r.2
  signalled : Signalled env ctx → done = [] ∧ Signalled env r.2
  same : SameModules ctx r.2

section Start

variable {env : Environment κ} {ctx : UbseContext κ} {wanted wanted' done : List (Call κ)}
  {r r' : Option RunError × UbseContext κ}

omit [DecidableEq κ] in
/-- Two parts, the second one only if nothing has failed in the first one. -/
theorem Part.append (h : Part env ctx wanted r done)
    (h' : r.1 = none → ∃ done', Part env r.2 wanted' r' done')
    (hout : r.1 ≠ none → r' = r) : ∃ done, Part env ctx (wanted ++ wanted') r' done := by
  rcases hr : r.1 with _ | e
  · obtain ⟨done', h'⟩ := h' hr
    refine ⟨done ++ done', ?_, ?_, fun hnone => ?_, fun hsignal => ?_, h.same.trans h'.same⟩
    · rw [h'.calls, h.calls, List.append_assoc]
    · rcases h.complete hr with rfl | hsignal
      · exact (List.prefix_append_right_inj _).2 h'.initial
      · rw [(h'.signalled hsignal).1, List.append_nil]
        exact h.initial.trans (List.prefix_append ..)
    · rcases h.complete hr with rfl | hsignal
      · rcases h'.complete hnone with rfl | hsignal
        · exact .inl rfl
        · exact .inr hsignal
      · exact .inr (h'.signalled hsignal).2
    · obtain ⟨rfl, hsignal⟩ := h.signalled hsignal
      exact ⟨(h'.signalled hsignal).1, (h'.signalled hsignal).2⟩
  · have hne : r.1 ≠ none := by simp [hr]
    rw [hout hne]
    exact ⟨done, h.calls, h.initial.trans (List.prefix_append ..), fun hnone => absurd hnone hne,
      h.signalled, h.same⟩

omit [DecidableEq κ] in
/-- One call more, in front of a part. -/
theorem Part.cons {ctx' : UbseContext κ} {c : Call κ} (hsame : SameModules ctx ctx')
    (hcalls : ctx'.calls = ctx.calls ++ [c]) (hsignal : ¬ Signalled env ctx)
    (h : Part env ctx' wanted r done) : Part env ctx (c :: wanted) r (c :: done) where
  calls := by rw [h.calls, hcalls, List.append_assoc, List.singleton_append]
  initial := (List.prefix_cons_inj c).2 h.initial
  complete := fun hnone => (h.complete hnone).imp_left (congrArg (c :: ·))
  signalled := fun hsignal' => absurd hsignal' hsignal
  same := hsame.trans h.same

/-- The loop of one call over the modules, by induction on those that are left. -/
theorem callAll_part (kind : CallKind) (group : Group) (succeeds : κ → Bool) (error : RunError)
    (names : List κ) (ctx : UbseContext κ) :
    ∃ done, Part env ctx (names.map (Call.mk kind group))
      (UbseContext.callAll env kind group succeeds error names ctx) done := by
  induction names generalizing ctx with
  | nil =>
    exact ⟨[], (List.append_nil _).symm, List.prefix_rfl, fun _ => .inl rfl, fun h => ⟨rfl, h⟩,
      .refl ctx⟩
  | cons name names ih =>
    rw [UbseContext.callAll]
    dsimp only
    split_ifs with hstopped hok hkind
    · -- The signal has come: nothing more is called.
      obtain ⟨done, h⟩ := ih { ctx with loads := ctx.loads + 1 }
      obtain ⟨rfl, hsignal⟩ := h.signalled (env.globalStop_succ _ hstopped)
      exact ⟨[], h.calls, List.nil_prefix, fun _ => .inr hsignal, fun _ => ⟨rfl, hsignal⟩,
        ⟨h.same.1, h.same.2, h.same.3, h.same.4⟩⟩
    · obtain ⟨done, h⟩ := ih _
      refine ⟨_, Part.cons ?_ ?_ hstopped h⟩
      · exact ⟨rfl, rfl, rfl, rfl⟩
      · rfl
    · obtain ⟨done, h⟩ := ih _
      refine ⟨_, Part.cons ?_ ?_ hstopped h⟩
      · exact ⟨rfl, rfl, rfl, rfl⟩
      · rfl
    · refine ⟨[⟨kind, group, name⟩], rfl, ⟨_, rfl⟩, fun h => ?_, fun h => absurd h hstopped,
        ⟨rfl, rfl, rfl, rfl⟩⟩
      cases h

/-- **A start** makes a part of the calls that there are to make. -/
theorem initAndStartModule_part (env : Environment κ) (ctx : UbseContext κ) :
    ∃ done, Part env ctx (startup ctx.sorted) (ctx.initAndStartModule env) done := by
  have hinit : ∀ g ctx', SameModules ctx ctx' → ∃ done,
      Part env ctx' ((ctx.sorted g).map (Call.mk .init g)) (ctx'.initModule env g) done := by
    intro g ctx' hsame
    rw [← hsame.sorted]
    exact callAll_part ..
  have hstart : ∀ g ctx', SameModules ctx ctx' → ∃ done,
      Part env ctx' ((ctx.sorted g).map (Call.mk .start g)) (ctx'.startModule env g) done := by
    intro g ctx' hsame
    rw [← hsame.sorted]
    exact callAll_part ..
  unfold UbseContext.initAndStartModule
  rw [startup, List.append_assoc]
  obtain ⟨done₁, h₁⟩ := hinit .base ctx (.refl ctx)
  rcases hr₁ : ctx.initModule env .base with ⟨_ | e, ctx₁⟩
  · rw [hr₁] at h₁
    obtain ⟨done₂, h₂⟩ := hstart .base ctx₁ h₁.same
    refine h₁.append (fun _ => ?_) fun hne => absurd rfl hne
    dsimp only
    rcases hr₂ : ctx₁.startModule env .base with ⟨_ | e, ctx₂⟩
    · rw [hr₂] at h₂
      have hsame₂ := h₁.same.trans h₂.same
      obtain ⟨done₃, h₃⟩ := hinit .business ctx₂ hsame₂
      refine h₂.append (fun _ => ?_) fun hne => absurd rfl hne
      dsimp only
      rcases hr₃ : ctx₂.initModule env .business with ⟨_ | e, ctx₃⟩
      · rw [hr₃] at h₃
        exact h₃.append (fun _ => hstart .business ctx₃ (hsame₂.trans h₃.same))
          fun hne => absurd rfl hne
      · rw [hr₃] at h₃
        exact h₃.append (fun hnone => by cases hnone) fun _ => rfl
    · rw [hr₂] at h₂
      exact h₂.append (fun hnone => by cases hnone) fun _ => rfl
  · rw [hr₁] at h₁
    exact h₁.append (fun hnone => by cases hnone) fun _ => rfl

end Start

/-! ### Creating the modules -/

/-- What has been created of a table: a part of the modules in their order, all of them if there is
no error. -/
structure Made (creatorMap : Map κ (ModuleEntry κ)) (error : Option RunError) (made : List κ) :
    Prop where
  ordered : Ordered (Dep creatorMap) made
  nodup : made.Nodup
  complete : error = none → ∀ a ∈ creatorMap.keys, a ∈ made

section Create

variable {ctx : UbseContext κ}

omit [DecidableEq κ] in
theorem setSorted_sorted (ctx : UbseContext κ) (group : Group) (l : List κ) :
    (ctx.setSorted group l).sorted = Function.update ctx.sorted group l := by
  funext g
  rcases group with _ | _ <;> rcases g with _ | _ <;> rfl

/-- The loop of the creation, by induction on the modules that are left. -/
theorem createAll_made (group : Group) (names : List κ) (ctx : UbseContext κ) :
    ∃ made, made <+: names ∧
      (UbseContext.createAll group names ctx).2.creatorMap = ctx.creatorMap ∧
      (UbseContext.createAll group names ctx).2.sorted =
        Function.update ctx.sorted group (ctx.sorted group ++ made) ∧
      (UbseContext.createAll group names ctx).2.calls =
        ctx.calls ++ made.map (Call.mk .create group) ∧
      ((UbseContext.createAll group names ctx).1 = none → made = names) := by
  induction names generalizing ctx with
  | nil =>
    refine ⟨[], List.prefix_rfl, rfl, ?_, (List.append_nil _).symm, fun _ => rfl⟩
    rw [List.append_nil, Function.update_eq_self]
    rfl
  | cons name names ih =>
    rw [UbseContext.createAll]
    dsimp only
    split_ifs with hcreator
    · obtain ⟨made, hpart, hmap, hsorted, hcalls, hall⟩ := ih _
      refine ⟨name :: made, (List.prefix_cons_inj name).2 hpart, hmap.trans ?_, ?_, ?_, ?_⟩
      · funext g
        rcases group with _ | _ <;> rcases g with _ | _ <;> rfl
      · rw [hsorted]
        change Function.update (ctx.setSorted group _).sorted group
          ((ctx.setSorted group _).sorted group ++ made) = _
        rw [setSorted_sorted, Function.update_self, Function.update_idem, List.append_assoc,
          List.singleton_append]
      · rw [hcalls]
        rcases group with _ | _ <;> exact List.append_assoc ..
      · exact fun hnone => congrArg (name :: ·) (hall hnone)
    · refine ⟨[], List.nil_prefix, rfl, ?_, (List.append_nil _).symm, fun hnone => ?_⟩
      · rw [List.append_nil, Function.update_eq_self]
      · cases hnone

theorem createGroup_made {group : Group} (hempty : ctx.sorted group = []) :
    ∃ made, Made (ctx.creatorMap group) (ctx.createGroup group).1 made ∧
      (ctx.createGroup group).2.creatorMap = ctx.creatorMap ∧
      (ctx.createGroup group).2.sorted = Function.update ctx.sorted group made ∧
      (ctx.createGroup group).2.calls = ctx.calls ++ made.map (Call.mk .create group) := by
  unfold UbseContext.createGroup
  rw [if_neg (by simp [hempty])]
  rcases hsort : topologicalSort (ctx.creatorMap group) with e | l
  · refine ⟨[], ⟨ordered_nil _, List.nodup_nil, fun hnone => ?_⟩, rfl, ?_,
      (List.append_nil _).symm⟩
    · cases hnone
    · rw [← hempty, Function.update_eq_self]
  · obtain ⟨hnodup, hmem, hordered⟩ := sorted_of_ok hsort
    obtain ⟨made, hpart, hmap, hsorted, hcalls, hall⟩ := createAll_made group l ctx
    refine ⟨made, ⟨hordered.of_initial hpart, hpart.sublist.nodup hnodup, fun hnone a ha => ?_⟩,
      hmap, ?_, hcalls⟩
    · rw [hall hnone]
      exact (hmem a).2 ha
    · rw [hsorted, hempty, List.nil_append]

end Create

/-! ### The whole life -/

/-- The context of a process in which modules have registered. -/
def registered (creatorMap : Group → Map κ (ModuleEntry κ)) : UbseContext κ where
  baseModuleCreatorMap := creatorMap .base
  moduleCreatorMap := creatorMap .business

/-- What a life consists of: what was created, a part of the start, and the result. -/
structure Lived (creatorMap : Group → Map κ (ModuleEntry κ)) (env : Environment κ)
    (r : Option RunError × UbseContext κ) (done : List (Call κ)) : Prop where
  calls : r.2.calls = creation r.2.sorted ++ done
  made : ∀ g, Ordered (Dep (creatorMap g)) (r.2.sorted g) ∧ (r.2.sorted g).Nodup
  initial : done <+: startup r.2.sorted
  /-- Nothing is called before all modules are created. -/
  complete : done ≠ [] ∨ r.1 = none → ∀ g, ∀ a ∈ (creatorMap g).keys, a ∈ r.2.sorted g
  started : r.1 = none → (∀ n, env.globalStop n = false) → done = startup r.2.sorted

section Life

variable {creatorMap : Group → Map κ (ModuleEntry κ)} {env : Environment κ}

omit [DecidableEq κ] in
theorem creatorMap_registered (creatorMap : Group → Map κ (ModuleEntry κ)) :
    (registered creatorMap).creatorMap = creatorMap := by
  funext g
  rcases g with _ | _ <;> rfl

/-- What `CreateModules` leaves. -/
theorem createModules_made (creatorMap : Group → Map κ (ModuleEntry κ)) :
    (registered creatorMap).createModules.2.calls =
        creation (registered creatorMap).createModules.2.sorted ∧
      (∀ g, Ordered (Dep (creatorMap g)) ((registered creatorMap).createModules.2.sorted g) ∧
        ((registered creatorMap).createModules.2.sorted g).Nodup) ∧
      ((registered creatorMap).createModules.1 = none → ∀ g, ∀ a ∈ (creatorMap g).keys,
        a ∈ (registered creatorMap).createModules.2.sorted g) := by
  have hempty : (registered creatorMap).sorted .base = [] := rfl
  obtain ⟨made, hmade, hmap, hsorted, hcalls⟩ := createGroup_made hempty
  unfold UbseContext.createModules
  rw [creatorMap_registered] at hmap hmade
  rcases hbase : (registered creatorMap).createGroup .base with ⟨_ | e, ctx₁⟩
  · rw [hbase] at hmade hmap hsorted hcalls
    dsimp only at hmade hmap hsorted hcalls ⊢
    have hbusiness : ctx₁.sorted .business = [] := by
      rw [hsorted]
      rfl
    obtain ⟨made', hmade', -, hsorted', hcalls'⟩ := createGroup_made hbusiness
    rw [hmap] at hmade'
    rw [hsorted', hsorted]
    refine ⟨?_, fun g => ?_, fun hnone g => ?_⟩
    · rw [hcalls', hcalls]
      rfl
    · rcases g with _ | _
      · exact ⟨hmade.ordered, hmade.nodup⟩
      · exact ⟨hmade'.ordered, hmade'.nodup⟩
    · rcases g with _ | _
      · exact hmade.complete rfl
      · exact hmade'.complete hnone
  · rw [hbase] at hmade hmap hsorted hcalls
    dsimp only at hmade hmap hsorted hcalls ⊢
    rw [hsorted]
    refine ⟨?_, fun g => ?_, fun hnone => ?_⟩
    · rw [hcalls]
      exact (List.append_nil _).symm
    · rcases g with _ | _
      · exact ⟨hmade.ordered, hmade.nodup⟩
      · exact ⟨ordered_nil _, List.nodup_nil⟩
    · cases hnone

/-- Nothing is called on the modules that have been created. -/
theorem Lived.of_error {e : RunError} {ctx : UbseContext κ}
    (hcalls : ctx.calls = creation ctx.sorted)
    (hmade : ∀ g, Ordered (Dep (creatorMap g)) (ctx.sorted g) ∧ (ctx.sorted g).Nodup) :
    Lived creatorMap env (some e, ctx) [] where
  calls := hcalls.trans (List.append_nil _).symm
  made := hmade
  initial := List.nil_prefix
  complete := by
    rintro (hne | hnone)
    · exact absurd rfl hne
    · cases hnone
  started := fun hnone => by cases hnone

/-- A part of the start is called on them. -/
theorem Lived.of_part {ctx : UbseContext κ} {r r' : Option RunError × UbseContext κ}
    {done : List (Call κ)} (h : Part env ctx (startup ctx.sorted) r done)
    (hcalls : ctx.calls = creation ctx.sorted)
    (hmade : ∀ g, Ordered (Dep (creatorMap g)) (ctx.sorted g) ∧ (ctx.sorted g).Nodup)
    (hcomplete : ∀ g, ∀ a ∈ (creatorMap g).keys, a ∈ ctx.sorted g) (hresult : r'.1 = r.1)
    (hcalls' : r'.2.calls = r.2.calls) (hsorted : r'.2.sorted = r.2.sorted) :
    Lived creatorMap env r' done := by
  rw [h.same.sorted] at hsorted
  refine ⟨?_, ?_, ?_, ?_, fun hnone hnever => ?_⟩
  · rw [hcalls', h.calls, hcalls, hsorted]
  · rw [hsorted]
    exact hmade
  · rw [hsorted]
    exact h.initial
  · rw [hsorted]
    exact fun _ => hcomplete
  · rw [hsorted]
    refine (h.complete (hresult.symm.trans hnone)).resolve_right fun hsignal => ?_
    rw [Signalled, hnever] at hsignal
    cases hsignal

/-- **A run**, whatever fails and whenever the signal comes. -/
theorem run_lived (creatorMap : Group → Map κ (ModuleEntry κ)) (env : Environment κ) :
    ∃ done, Lived creatorMap env ((registered creatorMap).run env) done := by
  obtain ⟨hcalls, hmade, hcomplete⟩ := createModules_made creatorMap
  unfold UbseContext.run
  split
  next =>
    refine ⟨[], .of_error rfl fun g => ?_⟩
    rcases g with _ | _ <;> exact ⟨ordered_nil _, List.nodup_nil⟩
  next =>
    split
    next e ctx hr =>
      rw [hr] at hcalls hmade
      exact ⟨[], .of_error hcalls hmade⟩
    next ctx hr =>
      rw [hr] at hcalls hmade hcomplete
      split
      next => exact ⟨[], .of_error hcalls hmade⟩
      next =>
        split
        next => exact ⟨[], .of_error hcalls hmade⟩
        next argMap _ =>
          obtain ⟨done, hpart⟩ := initAndStartModule_part env { ctx with argMap := argMap }
          split
          next e ctx' hr' =>
            rw [hr'] at hpart
            exact ⟨done, .of_part hpart hcalls hmade (hcomplete rfl) rfl rfl rfl⟩
          next ctx' hr' =>
            rw [hr'] at hpart
            exact ⟨done, .of_part hpart hcalls hmade (hcomplete rfl) rfl rfl rfl⟩

/-- The end of the process. -/
theorem stop_calls (ctx : UbseContext κ) : ctx.stop.calls = ctx.calls ++ shutdown ctx.sorted := by
  rw [shutdown, ← List.append_assoc, ← List.append_assoc, ← List.append_assoc]
  rfl

omit [DecidableEq κ] in
/-- Steps that differ in the kind of call or in the group have no call in common. -/
theorem nodup_steps (steps : List (CallKind × Group)) (hsteps : steps.Nodup)
    (names : CallKind × Group → List κ) (hnames : ∀ p, (names p).Nodup) :
    (steps.flatMap fun p => (names p).map (Call.mk p.1 p.2)).Nodup := by
  refine List.nodup_flatMap.2 ⟨fun p _ => (hnames p).map ?_, hsteps.imp ?_⟩
  · exact fun a b hab => (Call.mk.inj hab).2.2
  · rintro p q hne c hp hq
    obtain ⟨a, -, rfl⟩ := List.mem_map.1 hp
    obtain ⟨b, -, hab⟩ := List.mem_map.1 hq
    exact hne (Prod.ext (Call.mk.inj hab).1.symm (Call.mk.inj hab).2.1.symm)

omit [DecidableEq κ] in
/-- The calls of a life in which nothing fails. -/
theorem nodup_calls {created : Group → List κ} (hnodup : ∀ g, (created g).Nodup) :
    (creation created ++ startup created ++ shutdown created).Nodup := by
  have h := nodup_steps
    [(.create, .base), (.create, .business), (.init, .base), (.start, .base), (.init, .business),
      (.start, .business), (.stop, .business), (.unInit, .business), (.stop, .base),
      (.unInit, .base)]
    (by decide)
    (fun p => if p.1 = .stop ∨ p.1 = .unInit then (created p.2).reverse else created p.2)
    fun p => by
      split_ifs
      · exact List.nodup_reverse.2 (hnodup p.2)
      · exact hnodup p.2
  simpa [creation, startup, shutdown, List.append_assoc] using h

theorem ordered_calls {created : Group → List κ} {done : List (Call κ)}
    (hmade : ∀ g, Ordered (Dep (creatorMap g)) (created g) ∧ (created g).Nodup)
    (hpart : done <+: startup created)
    (hcomplete : done ≠ [] → ∀ g, ∀ a ∈ (creatorMap g).keys, a ∈ created g) :
    Ordered (Requires creatorMap created) (creation created ++ done ++ shutdown created) := by
  have hordered := fun g => (hmade g).1
  refine ordered_append.2 ⟨ordered_append.2 ⟨ordered_creation hordered, ?_⟩, ?_⟩
  · by_cases hne : done = []
    · rw [hne]
      exact ordered_nil _
    · exact (ordered_startup hordered (hcomplete hne)).of_initial hpart
  · exact (ordered_shutdown hordered fun g => (hmade g).2).mono fun _ _ h => h.1

end Life

/-- **The life of the process**, for all modules that have registered, whatever fails and whenever
the signal comes: no call is made twice, and every call comes after all that it requires. At the
end exactly what has been created is stopped and destroyed, and if the start has succeeded without
a signal, every module was started. -/
theorem main_lifecycle (creatorMap : Group → Map κ (ModuleEntry κ)) (env : Environment κ) :
    let created := ((registered creatorMap).run env).2.sorted
    let result := (registered creatorMap).main env
    result.2.calls.Nodup ∧ Ordered (Requires creatorMap created) result.2.calls ∧
      (∃ up, result.2.calls = up ++ shutdown created ∧
        ∀ c ∈ up, c.kind ≠ .stop ∧ c.kind ≠ .unInit) ∧
      (∀ g a, ⟨.create, g, a⟩ ∈ result.2.calls ↔ a ∈ created g) ∧
      (result.1 = none → (∀ n, env.globalStop n = false) → ∀ g, ∀ a ∈ (creatorMap g).keys,
        ⟨.start, g, a⟩ ∈ result.2.calls) := by
  intro created result
  obtain ⟨done, h⟩ := run_lived creatorMap env
  have hcalls : result.2.calls = creation created ++ done ++ shutdown created := by
    rw [← h.calls]
    exact stop_calls _
  have hstart : ∀ c ∈ done, c.kind = .init ∨ c.kind = .start := by
    intro c hc
    have hmem := h.initial.subset hc
    simp only [startup, List.mem_append, List.mem_map] at hmem
    rcases hmem with (⟨a, -, rfl⟩ | ⟨a, -, rfl⟩) | ⟨a, -, rfl⟩ | ⟨a, -, rfl⟩ <;> simp
  rw [hcalls]
  refine ⟨?_, ordered_calls h.made h.initial fun hne => h.complete (.inl hne), ⟨_, rfl, ?_⟩, ?_, ?_⟩
  · refine List.Sublist.nodup ?_ (nodup_calls fun g => (h.made g).2)
    exact ((List.Sublist.refl _).append h.initial.sublist).append (List.Sublist.refl _)
  · rintro c hc
    rcases List.mem_append.1 hc with hc | hc
    · simp only [creation, List.mem_append, List.mem_map] at hc
      rcases hc with ⟨a, -, rfl⟩ | ⟨a, -, rfl⟩ <;> simp
    · rcases hstart c hc with hkind | hkind <;> simp [hkind]
  · refine fun g a => ⟨fun hmem => ?_, fun ha => ?_⟩
    · rcases List.mem_append.1 hmem with hmem | hmem
      · rcases List.mem_append.1 hmem with hmem | hmem
        · exact mem_creation.1 hmem
        · rcases hstart _ hmem with hkind | hkind <;> cases hkind
      · simp [shutdown] at hmem
    · exact List.mem_append_left _ (List.mem_append_left _ (mem_creation.2 ha))
  · rintro hnone hnever g a ha
    have hcreated : a ∈ created g := h.complete (.inr hnone) g a ha
    rw [h.started hnone hnever]
    refine List.mem_append_left _ (List.mem_append_right _ ?_)
    rcases g with _ | _ <;> simp [startup] <;> exact hcreated

end Context

end UbsEngine
