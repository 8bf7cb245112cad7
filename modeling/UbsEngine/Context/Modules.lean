import UbsEngine.Library.Assoc
import Mathlib.Data.Finset.Basic

/-!
# The modules of the process

The process consists of modules that register with what they depend on, the base modules in one table
and the others in a second one. When it starts, the modules of each table are sorted so that none
comes before what it depends on (`UbsEngine.Context.topologicalSort`), and are created, initialized
and started in this order; when it ends they are stopped and destroyed in the opposite one. A signal
may ask for the end at any time (`UbsEngine.Context.main`).

The type of a module is its name here. What a module does in a call is up to it; it only matters
whether the call succeeds (`UbsEngine.Context.Environment`).
-/

namespace UbsEngine

namespace Context

variable {κ : Type*} [DecidableEq κ]

structure ModuleEntry (κ : Type*) where
  /-- The creator makes a module and does not throw. -/
  creator : Bool := true
  dependencies : List κ

/-! ### Sorting -/

/-- The exceptions of the sort. -/
inductive SortError
  | cyclicDependency
  | dependencyNotRegistered
deriving DecidableEq, Repr

structure SortState (κ : Type*) where
  visited : Finset κ := ∅
  visiting : Finset κ := ∅
  sorted : List κ := []

/-- The dependencies of a module that is registered. -/
def dependenciesOf (creatorMap : Map κ (ModuleEntry κ)) (moduleName : κ) : List κ :=
  ((creatorMap.lookup moduleName).map ModuleEntry.dependencies).getD []

/-- A result of false is the exception that the caller makes of it. The calls are nested no deeper
than there are modules, as each has another one under way. -/
def topologicalSortUtil (creatorMap : Map κ (ModuleEntry κ)) :
    Nat → κ → SortState κ → Except SortError (SortState κ)
  | 0, _, _ => .error .cyclicDependency
  | fuel + 1, moduleName, s =>
    if moduleName ∈ s.visiting then .error .cyclicDependency
    else if moduleName ∈ s.visited then .ok s
    else
      (dependenciesOf creatorMap moduleName).foldlM (fun s dependency =>
        if (creatorMap.lookup dependency).isSome then
          topologicalSortUtil creatorMap fuel dependency s
        else .error .dependencyNotRegistered)
        { s with visiting := insert moduleName s.visiting } >>= fun s =>
      .ok
        { visited := insert moduleName s.visited
          visiting := s.visiting.erase moduleName
          sorted := s.sorted ++ [moduleName] }

def topologicalSort (creatorMap : Map κ (ModuleEntry κ)) : Except SortError (List κ) :=
  creatorMap.keys.foldlM (fun s name =>
    if name ∈ s.visited then .ok s
    else topologicalSortUtil creatorMap (creatorMap.keys.length + 1) name s) {} >>= fun s =>
  .ok s.sorted

/-! ### The context -/

inductive Group
  | base
  | business
deriving DecidableEq, Repr

/-- What is called on a module. -/
inductive CallKind
  | create
  | init
  | start
  | stop
  | unInit
deriving DecidableEq, Repr

structure Call (κ : Type*) where
  kind : CallKind
  group : Group
  name : κ
deriving DecidableEq

/-- The context, with the calls that it has made. -/
structure UbseContext (κ : Type*) where
  baseModuleCreatorMap : Map κ (ModuleEntry κ)
  moduleCreatorMap : Map κ (ModuleEntry κ)
  sortedBaseModules : List κ := []
  sortedModules : List κ := []
  moduleMap : Finset κ := ∅
  argMap : Map String String := ∅
  allModulesReady : Bool := false
  /-- How often the global stop flag has been read. -/
  loads : Nat := 0
  calls : List (Call κ) := []

/-- What the context meets: the outcomes of the calls, and when the signal comes. -/
structure Environment (κ : Type*) where
  executablePath : Bool := true
  isManager : Bool := true
  argv : List String := []
  regArgs : κ → Bool
  /-- `Initialize` and `Start` of a module. -/
  init : κ → Bool
  start : κ → Bool
  /-- What each read of the global stop flag gives. -/
  globalStop : Nat → Bool
  /-- Nothing takes the signal back. -/
  globalStop_succ : ∀ n, globalStop n = true → globalStop (n + 1) = true

inductive RunError
  | executablePath
  | moduleLoadFailed
  | parseArgsFailed
  | initFailed
  | startFailed
deriving DecidableEq, Repr

namespace UbseContext

variable (ctx : UbseContext κ) (env : Environment κ)

def creatorMap : Group → Map κ (ModuleEntry κ)
  | .base => ctx.baseModuleCreatorMap
  | .business => ctx.moduleCreatorMap

def sorted : Group → List κ
  | .base => ctx.sortedBaseModules
  | .business => ctx.sortedModules

def setSorted (group : Group) (sortedModuleVec : List κ) : UbseContext κ :=
  match group with
  | .base => { ctx with sortedBaseModules := sortedModuleVec }
  | .business => { ctx with sortedModules := sortedModuleVec }

def call (kind : CallKind) (group : Group) (name : κ) : UbseContext κ :=
  { ctx with calls := ctx.calls ++ [⟨kind, group, name⟩] }

/-! ### Starting -/

/-- The loop of `CreateModules` over the names in their order. A name that is not registered has no
creator. -/
def createAll (group : Group) : List κ → UbseContext κ → Option RunError × UbseContext κ
  | [], ctx => (none, ctx)
  | name :: names, ctx =>
    if ((ctx.creatorMap group).lookup name).any ModuleEntry.creator then
      let ctx := (ctx.setSorted group (ctx.sorted group ++ [name])).call .create group name
      createAll group names { ctx with moduleMap := insert name ctx.moduleMap }
    else (some .moduleLoadFailed, ctx)

/-- `CreateModules` for one of the tables. -/
def createGroup (group : Group) : Option RunError × UbseContext κ :=
  if !(ctx.sorted group).isEmpty then (none, ctx)
  else
    match topologicalSort (ctx.creatorMap group) with
    | .error _ => (some .moduleLoadFailed, ctx)
    | .ok sortedModuleName => createAll group sortedModuleName ctx

def createModules : Option RunError × UbseContext κ :=
  match ctx.createGroup .base with
  | (some e, ctx) => (some e, ctx)
  | (none, ctx) => ctx.createGroup .business

/-- The loop over the arguments: a name with a dash, and its value unless that has a dash, too. -/
def parserArgs : List String → Map String String → Option (Map String String)
  | [], argMap => some argMap
  | arg :: argv, argMap =>
    match arg.toList with
    | '-' :: c :: key =>
      match argv with
      | [] => some (argMap.insert (String.ofList (c :: key)) "")
      | value :: argv' =>
        if value.toList.head? = some '-' then
          parserArgs (value :: argv') (argMap.insert (String.ofList (c :: key)) "")
        else parserArgs argv' (argMap.insert (String.ofList (c :: key)) value)
    | _ => none

/-- `InitModule` and `StartModule` for one of the tables: every module, unless the process is to
end. -/
def callAll (kind : CallKind) (group : Group) (succeeds : κ → Bool) (error : RunError) :
    List κ → UbseContext κ → Option RunError × UbseContext κ
  | [], ctx => (none, ctx)
  | name :: names, ctx =>
    let stopped := env.globalStop ctx.loads
    let ctx := { ctx with loads := ctx.loads + 1 }
    if stopped then callAll kind group succeeds error names ctx
    else
      let ctx := ctx.call kind group name
      if succeeds name then
        let ctx :=
          if kind = .start then { ctx with moduleMap := insert name ctx.moduleMap } else ctx
        callAll kind group succeeds error names ctx
      else (some error, ctx)

def initModule (group : Group) : Option RunError × UbseContext κ :=
  callAll env .init group env.init .initFailed (ctx.sorted group) ctx

def startModule (group : Group) : Option RunError × UbseContext κ :=
  callAll env .start group env.start .startFailed (ctx.sorted group) ctx

def initAndStartModule : Option RunError × UbseContext κ :=
  match ctx.initModule env .base with
  | (some e, ctx) => (some e, ctx)
  | (none, ctx) =>
    match ctx.startModule env .base with
    | (some e, ctx) => (some e, ctx)
    | (none, ctx) =>
      match ctx.initModule env .business with
      | (some e, ctx) => (some e, ctx)
      | (none, ctx) => ctx.startModule env .business

def run : Option RunError × UbseContext κ :=
  if !env.executablePath then (some .executablePath, ctx)
  else
    match ctx.createModules with
    | (some e, ctx) => (some e, ctx)
    | (none, ctx) =>
      if ∃ name ∈ ctx.moduleMap, env.regArgs name = false then (some .parseArgsFailed, ctx)
      else
        match if env.isManager then parserArgs env.argv ctx.argMap else some ctx.argMap with
        | none => (some .parseArgsFailed, ctx)
        | some argMap =>
          match { ctx with argMap := argMap }.initAndStartModule env with
          | (some e, ctx) => (some e, ctx)
          | (none, ctx) => (none, { ctx with allModulesReady := true })

/-! ### Ending -/

/-- `StopModule` and `DestroyModule` for one of the tables. Whatever a module throws is caught. -/
def stopGroup (group : Group) : UbseContext κ :=
  { ctx with
    moduleMap := ctx.moduleMap.filter fun name => name ∉ ctx.sorted group
    calls := ctx.calls ++ (ctx.sorted group).reverse.map (Call.mk .stop group) }

def destroyGroup (group : Group) : UbseContext κ :=
  { ctx with
    calls := ctx.calls ++ (ctx.sorted group).reverse.map (Call.mk .unInit group) }.setSorted group []

def stop : UbseContext κ :=
  let ctx := ({ ctx with allModulesReady := false }.stopGroup .business).destroyGroup .business
  (ctx.stopGroup .base).destroyGroup .base

/-- **The life of the process**: it runs, and it ends when it has failed to start or the signal
comes. -/
def main : Option RunError × UbseContext κ :=
  ((ctx.run env).1, (ctx.run env).2.stop)

end UbseContext

end Context

end UbsEngine
