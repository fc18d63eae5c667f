import TradingStrands.Authz.Model
import TradingStrands.Foundation.Decimal
import TradingStrands.Tools.Base

/-!
Owns the tools an agent can call and the registry that binds them: each shipped
tool has a factory under its name, and binding invokes the factories of the
entries that a strategy enables. The factories bring their own limit; the one in
the configuration does not reach them.

Does not own: the stores and clients a bound tool works on.
-/

namespace TradingStrands

open TradingStrands.Foundation

/-- The strategy and organisation a tool is bound for. -/
structure ToolContext where
  strategyId : String
  orgId : OrgId
deriving DecidableEq, Repr

inductive ToolFunction
  | fetchNews
  | listRecentFilings
  | readFiling
  | fetchSocial
deriving DecidableEq, Repr

/-- The name a function is configured and accounted under. -/
def ToolFunction.toolName : ToolFunction → String
  | .fetchNews => "news"
  | .listRecentFilings => "filings"
  | .readFiling => "filings"
  | .fetchSocial => "social"

/-- A function as the agent gets it. -/
structure BoundTool where
  function : ToolFunction
  context : ToolContext
  /-- The limit each call enforces. -/
  dailyQuota : Int
deriving DecidableEq, Repr

abbrev ToolFactory : Type := ToolContext → List BoundTool

/-- Tool factories by name. -/
structure ToolRegistry where
  factories : Dict String ToolFactory := Dict.empty

namespace ToolRegistry

/-- A second registration of a name is an error. -/
def register (registry : ToolRegistry) (name : String) (factory : ToolFactory) :
    Except PyError ToolRegistry :=
  if (registry.factories.get? name).isSome = true then
    .error (.valueError [.text ("tool " ++ name ++ " already registered")])
  else .ok ⟨registry.factories.set name factory⟩

def factoryFor (registry : ToolRegistry) (name : String) : Option ToolFactory :=
  registry.factories.get? name

end ToolRegistry

/-- Invoke the factory of each entry that is enabled and known. -/
def bindToolsForStrategy (registry : ToolRegistry)
    (toolsConfig : List (String × StrategyToolConfig)) (context : ToolContext) :
    List (List BoundTool) :=
  toolsConfig.filterMap fun entry =>
    if entry.2.enabled = false then none
    else (registry.factoryFor entry.1).map fun factory => factory context

/-- What is bound comes from an enabled entry with a factory. -/
theorem mem_bindToolsForStrategy {registry : ToolRegistry}
    {toolsConfig : List (String × StrategyToolConfig)} {context : ToolContext}
    {tool : BoundTool} :
    tool ∈ (bindToolsForStrategy registry toolsConfig context).flatten ↔
      ∃ entry ∈ toolsConfig, entry.2.enabled = true ∧
        ∃ factory, registry.factoryFor entry.1 = some factory ∧ tool ∈ factory context := by
  unfold bindToolsForStrategy
  simp only [List.mem_flatten, List.mem_filterMap]
  constructor
  · rintro ⟨tools, ⟨entry, member, bound⟩, inside⟩
    split at bound
    · cases bound
    next enabled =>
      obtain ⟨factory, known, rfl⟩ := Option.map_eq_some_iff.mp bound
      exact ⟨entry, member, by simpa using enabled, factory, known, inside⟩
  · rintro ⟨entry, member, enabled, factory, known, inside⟩
    refine ⟨factory context, ⟨entry, member, ?_⟩, inside⟩
    rw [if_neg (by simpa using enabled), known]
    rfl

/-! ### The shipped tools -/

def makeNewsTool (context : ToolContext) (dailyQuota : Int) : List BoundTool :=
  [⟨.fetchNews, context, dailyQuota⟩]

/-- Two functions, to list and to read. -/
def makeFilingsTools (context : ToolContext) (dailyQuota : Int) : List BoundTool :=
  [⟨.listRecentFilings, context, dailyQuota⟩, ⟨.readFiling, context, dailyQuota⟩]

def makeSocialTool (context : ToolContext) (dailyQuota : Int) : List BoundTool :=
  [⟨.fetchSocial, context, dailyQuota⟩]

def makeNewsFactory : ToolFactory := fun context => makeNewsTool context 50

def makeFilingsFactory : ToolFactory := fun context => makeFilingsTools context 50

def makeSocialFactory : ToolFactory := fun context => makeSocialTool context 50

/-- The registry of the shipped tools. -/
def buildDefaultRegistry : Except PyError ToolRegistry := do
  let registry ← ToolRegistry.register {} "news" makeNewsFactory
  let registry ← registry.register "filings" makeFilingsFactory
  registry.register "social" makeSocialFactory

/-- The shipped tools have names of their own. -/
theorem exists_buildDefaultRegistry :
    ∃ registry, buildDefaultRegistry = .ok registry ∧ ∀ name, registry.factoryFor name =
      if name = "news" then some makeNewsFactory
      else if name = "filings" then some makeFilingsFactory
      else if name = "social" then some makeSocialFactory else none := by
  refine ⟨⟨((Dict.empty.set "news" makeNewsFactory).set "filings" makeFilingsFactory).set "social"
    makeSocialFactory⟩, ?_, fun name => ?_⟩
  · unfold buildDefaultRegistry ToolRegistry.register
    simp [Dict.get?_set, bind, Except.bind]
  · unfold ToolRegistry.factoryFor
    simp only [Dict.get?_set, Dict.get?_empty]
    by_cases social : name = "social"
    · subst social
      rfl
    · by_cases filings : name = "filings"
      · subst filings
        rfl
      · simp [social, filings]

/-- A function is bound from an enabled entry under its name, with the limit of
its factory. -/
theorem mem_bound_iff {registry : ToolRegistry} (built : buildDefaultRegistry = .ok registry)
    {toolsConfig : List (String × StrategyToolConfig)} {context : ToolContext}
    {tool : BoundTool} :
    tool ∈ (bindToolsForStrategy registry toolsConfig context).flatten ↔
      (∃ entry ∈ toolsConfig, entry.2.enabled = true ∧ entry.1 = tool.function.toolName) ∧
        tool.context = context ∧ tool.dailyQuota = 50 := by
  obtain ⟨same, default_, factories⟩ := exists_buildDefaultRegistry
  cases default_.symm.trans built
  obtain ⟨function, owner, dailyQuota⟩ := tool
  rw [mem_bindToolsForStrategy]
  constructor
  · rintro ⟨entry, member, enabled, factory, known, inside⟩
    rw [factories] at known
    have named : entry.1 = function.toolName ∧ owner = context ∧ dailyQuota = 50 := by
      split at known
      next news =>
        cases known
        obtain rfl | absurd := List.mem_singleton.mp inside
        exact ⟨news, rfl, rfl⟩
      next =>
        split at known
        next filings =>
          cases known
          rcases List.mem_pair.mp inside with same | same
          · cases same
            exact ⟨filings, rfl, rfl⟩
          · cases same
            exact ⟨filings, rfl, rfl⟩
        next =>
          split at known
          next social =>
            cases known
            obtain rfl | absurd := List.mem_singleton.mp inside
            exact ⟨social, rfl, rfl⟩
          next => cases known
    exact ⟨⟨entry, member, enabled, named.1⟩, named.2⟩
  · rintro ⟨⟨entry, member, enabled, named⟩, rfl, rfl⟩
    refine ⟨entry, member, enabled, ?_⟩
    rw [factories, named]
    cases function with
    | fetchNews => exact ⟨_, rfl, List.mem_singleton.mpr rfl⟩
    | listRecentFilings => exact ⟨_, rfl, List.mem_cons_self⟩
    | readFiling => exact ⟨_, rfl, List.mem_cons_of_mem _ List.mem_cons_self⟩
    | fetchSocial => exact ⟨_, rfl, List.mem_singleton.mpr rfl⟩

end TradingStrands
