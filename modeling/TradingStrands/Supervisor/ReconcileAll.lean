import TradingStrands.Foundation.Reading
import TradingStrands.Supervisor.Convergence

/-!
Owns the one-shot reconciler, which reads the strategy table and makes every
active row real through the supervisor's own decisions, and what it repairs
where calls to the container service raise.

The reconciler only ever asks for services to run. A service that a failed pause
or stop has left running is not among its decisions.
-/

namespace TradingStrands.StrategySupervisor

open TradingStrands.Foundation StrategyStore

/-! ### The reconciler -/

structure ReconcileAllSummary where
  total : Nat
  reconciled : Nat := 0
  errors : Nat := 0
  dryRunActions : List String := []
deriving DecidableEq, Repr

/-- A decision for each active row that has an organisation. -/
def decisionFor? (strategy : Strategy) : Option Decision :=
  if strategy.status ≠ .active then none
  else if strategy.orgId = "" then none
  else some ⟨.ensureRunning, some strategy.strategyId, some strategy.orgId⟩

def decisionsFromStore (libraries : Libraries) : TableProgram (List Decision) := do
  let strategies ← listAll libraries
  return strategies.filterMap decisionFor?

def reconcileOne (config : Config) (summary : ReconcileAllSummary) (decision : Decision) :
    EcsProgram ReconcileAllSummary :=
  tryCatch
    (do
      reconcile config decision
      return { summary with reconciled := summary.reconciled + 1 })
    fun _ => return { summary with errors := summary.errors + 1 }

def reconcileAll (config : Config) (decisions : List Decision) (dryRun : Bool) :
    EcsProgram ReconcileAllSummary :=
  let summary : ReconcileAllSummary := { total := decisions.length }
  if dryRun then return { summary with dryRunActions := decisions.map (·.action.value) }
  else decisions.foldlM (reconcileOne config) summary

/-! ### Calls that may raise -/

section Calls

variable {ecs : Ecs} {name : String}

theorem runs_setService (ecs : Ecs) (name other : String) (service : Service) :
    (ecs.setService other service).Runs name ↔
      if name = other then 1 ≤ service.desiredCount else ecs.Runs name := by
  unfold Ecs.Runs
  rw [Ecs.service?_setService]
  split <;> simp

theorem runs_finishAll (ecs : Ecs) (names : List String) (name : String) :
    (ecs.finishAll names).Runs name ↔ ecs.Runs name := by
  unfold Ecs.finishAll
  induction names generalizing ecs with
  | nil => rfl
  | cons head tail inductionHypothesis =>
      rw [List.foldl_cons, inductionHypothesis]
      unfold Ecs.finishDraining
      cases found : ecs.service? head with
      | none => rfl
      | some service =>
          dsimp only
          rw [runs_setService, Service.desiredCount_drained]
          split
          next same => simp [Ecs.Runs, same, found]
          next => rfl

/-- The service an operation leaves with a desired count, and the count. -/
def leaves? : EcsOp → Option (String × Nat)
  | .createService name _ desiredCount => some (name, desiredCount)
  | .updateService name desiredCount => some (name, desiredCount)
  | .deleteService name => some (name, 0)
  | _ => none

/-- What a call that takes effect does to the running services. -/
theorem runs_call {op : EcsOp} {answer : EcsOp.Answer op} {after : Ecs}
    (done : op.call ecs = .ok (answer, after)) (name : String) :
    after.Runs name ↔
      match leaves? op with
      | none => ecs.Runs name
      | some (target, desiredCount) => if name = target then 1 ≤ desiredCount else ecs.Runs name := by
  cases op with
  | describeServices | registerTaskDefinition =>
      simp only [EcsOp.call, Except.ok.injEq, Prod.mk.injEq] at done
      rw [← done.2]
      rfl
  | createService target taskDefinition desiredCount =>
      have created : after = ecs.setService target (.created taskDefinition desiredCount) := by
        simp only [EcsOp.call] at done
        split at done
        · exact (Prod.mk.inj (Except.ok.inj done)).2.symm
        · split at done
          · exact (Prod.mk.inj (Except.ok.inj done)).2.symm
          · split at done <;> cases done
      rw [created, runs_setService]
      rfl
  | updateService target desiredCount =>
      simp only [EcsOp.call] at done
      split at done
      · cases done
      · split at done
        next service _ active =>
          rw [← (Prod.mk.inj (Except.ok.inj done)).2, runs_setService,
            (Service.scale_eq active desiredCount).2]
          rfl
        next => cases done
  | deleteService target =>
      simp only [EcsOp.call] at done
      split at done
      · cases done
      · rw [← (Prod.mk.inj (Except.ok.inj done)).2, runs_setService]
        rfl

/-- What one call can do: it raises, with or without an effect, or it answers. -/
inductive Attempted (op : EcsOp) (live : LiveEcs) : Except EcsError (EcsOp.Answer op) → LiveEcs → Prop
  | raised {error : EcsError} {after : LiveEcs} (counted : after.failures = live.failures + 1)
      (effect : (∀ name, after.ecs.Runs name ↔ live.ecs.Runs name) ∨
        ∃ ecs answer, (∀ name, ecs.Runs name ↔ live.ecs.Runs name) ∧
          op.call ecs = .ok (answer, after.ecs)) : Attempted op live (.error error) after
  | answered {answer : EcsOp.Answer op} {after : LiveEcs} {ecs : Ecs}
      (counted : after.failures = live.failures)
      (drained : ∀ name, ecs.Runs name ↔ live.ecs.Runs name)
      (done : op.call ecs = .ok (answer, after.ecs)) : Attempted op live (.ok answer) after

theorem attempted (op : EcsOp) (live : LiveEcs) :
    Attempted op live (op.attempt live).1 (op.attempt live).2 := by
  have drained := runs_finishAll live.ecs (live.turns.head?.getD {}).drained
  unfold EcsOp.attempt
  dsimp only
  cases (live.turns.head?.getD {}).fate with
  | refused => exact .raised rfl (Or.inl drained)
  | answerLost =>
      dsimp only
      cases done : op.call (live.ecs.finishAll (live.turns.head?.getD {}).drained) with
      | error error => exact .raised rfl (Or.inl drained)
      | ok result => exact .raised rfl (Or.inr ⟨_, result.1, drained, done⟩)
  | completes =>
      dsimp only
      cases done : op.call (live.ecs.finishAll (live.turns.head?.getD {}).drained) with
      | error error => exact .raised rfl (Or.inl drained)
      | ok result => exact .answered rfl drained done

/-- A call changes whether a service runs only as the count it leaves says. -/
theorem runs_attempt (op : EcsOp) (live : LiveEcs) (name : String) :
    ((op.attempt live).2.ecs.Runs name ↔ live.ecs.Runs name) ∨
      ∃ desiredCount, leaves? op = some (name, desiredCount) ∧
        ((op.attempt live).2.ecs.Runs name ↔ 1 ≤ desiredCount) := by
  have effective : ∀ {ecs answer after}, (∀ name, ecs.Runs name ↔ live.ecs.Runs name) →
      op.call ecs = .ok (answer, after) → (after.Runs name ↔ live.ecs.Runs name) ∨
        ∃ desiredCount, leaves? op = some (name, desiredCount) ∧
          (after.Runs name ↔ 1 ≤ desiredCount) := by
    intro ecs answer after drained done
    have runs := runs_call done name
    cases leaves : leaves? op with
    | none =>
        rw [leaves] at runs
        exact Or.inl (runs.trans (drained name))
    | some left =>
        rw [leaves] at runs
        by_cases same : name = left.1
        · exact Or.inr ⟨left.2, by rw [same], runs.trans (iff_of_eq (if_pos same))⟩
        · exact Or.inl ((runs.trans (iff_of_eq (if_neg same))).trans (drained name))
  have call := attempted op live
  generalize (op.attempt live).1 = outcome, (op.attempt live).2 = after at call ⊢
  cases call with
  | raised counted effect =>
      rcases effect with kept | ⟨ecs, answer, drained, done⟩
      · exact Or.inl (kept name)
      · exact effective drained done
  | answered counted drained done => exact effective drained done

theorem failures_attempt (op : EcsOp) (live : LiveEcs) :
    live.failures ≤ (op.attempt live).2.failures ∧
      ∀ error, (op.attempt live).1 = .error error → live.failures < (op.attempt live).2.failures := by
  have call := attempted op live
  generalize (op.attempt live).1 = outcome, (op.attempt live).2 = after at call ⊢
  cases call with
  | raised counted effect => exact ⟨by omega, fun _ _ => by omega⟩
  | answered counted drained done => exact ⟨by omega, fun _ raised => by cases raised⟩

/-- An answer is one the operation gives in some state. -/
theorem answers_attempt (op : EcsOp) (live : LiveEcs) (answer : EcsOp.Answer op)
    (answered : (op.attempt live).1 = .ok answer) : ∃ ecs, (op.apply ecs).1 = answer := by
  have call := attempted op live
  rw [answered] at call
  generalize (op.attempt live).2 = after at call
  cases call with
  | @answered _ _ ecs counted drained done =>
      refine ⟨ecs, ?_⟩
      cases op with
      | describeServices | registerTaskDefinition =>
          simp only [EcsOp.call, Except.ok.injEq, Prod.mk.injEq] at done
          exact done.1
      | createService | updateService | deleteService => rfl

end Calls

/-! ### Programs whose calls may raise -/

/-- Run with calls that may raise. -/
def runLive {α : Type} (program : EcsProgram α) (live : LiveEcs) : Except EcsError α × LiveEcs :=
  program.runAttempts EcsOp.attempt live

/-- A program raises only where one of its calls has raised. -/
def Counted {α : Type} (program : EcsProgram α) : Prop :=
  ∀ live, live.failures ≤ (runLive program live).2.failures ∧
    ∀ error, (runLive program live).1 = .error error →
      live.failures < (runLive program live).2.failures

theorem counted_pure {α : Type} (value : α) : Counted (pure value) :=
  fun _ => ⟨le_refl _, fun _ raised => by cases raised⟩

theorem counted_perform (op : EcsOp) : Counted (Program.perform op) := failures_attempt op

theorem Counted.bind {α β : Type} {program : EcsProgram α} {rest : α → EcsProgram β}
    (first : Counted program) (later : ∀ value, Counted (rest value)) :
    Counted (program >>= rest) := by
  intro live
  have here := first live
  unfold runLive at here ⊢
  rw [Program.runAttempts_bind]
  generalize Program.runAttempts EcsOp.attempt program live = result at here
  obtain ⟨outcome, middle⟩ := result
  cases outcome with
  | error error => exact ⟨here.1, fun _ _ => here.2 error rfl⟩
  | ok value =>
      have after := later value middle
      unfold runLive at after
      exact ⟨le_trans here.1 after.1, fun error raised => lt_of_le_of_lt here.1 (after.2 error raised)⟩

section Reconciling

variable (config : Config) (strategyId orgId : String)

theorem counted_serviceState (name : String) : Counted (serviceState name) := by
  refine Counted.bind (counted_perform _) fun found => ?_
  cases found with
  | none => exact counted_pure _
  | some service =>
      dsimp only
      split <;> exact counted_pure _

theorem counted_ensureRunning : Counted (ensureRunning config strategyId orgId) := by
  refine Counted.bind (counted_serviceState _) fun found => ?_
  cases found with
  | none => exact Counted.bind (counted_perform _) fun _ => counted_perform _
  | some service =>
      dsimp only
      split
      · exact counted_perform _
      · exact counted_pure _

theorem counted_pause : Counted (pause strategyId) := by
  refine Counted.bind (counted_serviceState _) fun found => ?_
  cases found with
  | none => exact counted_pure _
  | some service => exact counted_perform _

theorem counted_stop : Counted (stop strategyId) := by
  refine Counted.bind (counted_serviceState _) fun found => ?_
  cases found with
  | none => exact counted_pure _
  | some service => exact Counted.bind (counted_perform _) fun _ => counted_perform _

end Reconciling

/-- The decision can be acted on. -/
def Decision.Owned (decision : Decision) : Prop :=
  decision.action = .ensureRunning → decision.orgId ≠ none

theorem counted_reconcile (config : Config) {decision : Decision} (owned : decision.Owned) :
    Counted (reconcile config decision) := by
  obtain ⟨action, strategyId, orgId⟩ := decision
  unfold reconcile
  cases action with
  | noop => exact counted_pure _
  | ensureRunning =>
      cases strategyId with
      | none => exact counted_pure _
      | some strategyId =>
          cases orgId with
          | none => exact absurd rfl (owned rfl)
          | some orgId => exact counted_ensureRunning config strategyId orgId
  | pause =>
      cases strategyId with
      | none => exact counted_pure _
      | some strategyId => exact counted_pause strategyId
  | stop =>
      cases strategyId with
      | none => exact counted_pure _
      | some strategyId => exact counted_stop strategyId

/-- An operation is on the service of the decision; it raises the desired count
if the service is to run, and lowers it to zero otherwise. -/
def Directed (decision : Decision) (op : EcsOp) : Prop :=
  ∀ name desiredCount, leaves? op = some (name, desiredCount) →
    (∃ strategyId, decision.strategyId = some strategyId ∧ name = serviceNameFor strategyId) ∧
      (1 ≤ desiredCount ↔ decision.action = .ensureRunning)

section Operations

variable {decision : Decision} {strategyId : String}

theorem directed_of_leaves {op : EcsOp} (none : leaves? op = none) : Directed decision op := by
  intro name desiredCount leaves
  cases none.symm.trans leaves

theorem directed_service {op : EcsOp} {desiredCount : Nat}
    (named : decision.strategyId = some strategyId)
    (leaves : leaves? op = some (serviceNameFor strategyId, desiredCount))
    (direction : 1 ≤ desiredCount ↔ decision.action = .ensureRunning) : Directed decision op := by
  intro name other same
  obtain ⟨rfl, rfl⟩ := Prod.mk.inj (Option.some.inj (leaves.symm.trans same))
  exact ⟨⟨strategyId, named, rfl⟩, direction⟩

theorem all_serviceState (name : String) :
    (serviceState name).All EcsOp.apply (Directed decision) := by
  refine Program.All.bind (Program.All.perform (directed_of_leaves rfl)) fun found => ?_
  cases found with
  | none => trivial
  | some service =>
      dsimp only
      split <;> trivial

theorem all_reconcile (config : Config) (decision : Decision) :
    (reconcile config decision).All EcsOp.apply (Directed decision) := by
  obtain ⟨action, _ | strategyId, orgId⟩ := decision
  · cases action <;> trivial
  cases action with
  | noop => trivial
  | ensureRunning =>
      cases orgId with
      | none => trivial
      | some orgId =>
          refine Program.All.bind (all_serviceState _) fun found => ?_
          cases found with
          | none =>
              refine Program.All.bind (Program.All.perform (directed_of_leaves rfl)) fun _ => ?_
              exact Program.All.perform (directed_service rfl rfl (by simp))
          | some service =>
              dsimp only
              split
              · exact Program.All.perform (directed_service rfl rfl (by simp))
              · trivial
  | pause =>
      refine Program.All.bind (all_serviceState _) fun found => ?_
      cases found with
      | none => trivial
      | some service => exact Program.All.perform (directed_service rfl rfl (by simp))
  | stop =>
      refine Program.All.bind (all_serviceState _) fun found => ?_
      cases found with
      | none => trivial
      | some service =>
          refine Program.All.bind (Program.All.perform (directed_service rfl rfl (by simp))) fun _ => ?_
          exact Program.All.perform (directed_service rfl rfl (by simp))

end Operations

section Steps

variable (config : Config) {decision : Decision} (live : LiveEcs) {name : String}

/-- Whatever raises, a decision does not touch the other services. -/
theorem runs_reconcile_of_ne
    (other : ∀ strategyId, decision.strategyId = some strategyId → name ≠ serviceNameFor strategyId) :
    (runLive (reconcile config decision) live).2.ecs.Runs name ↔ live.ecs.Runs name := by
  have keeps : ∀ op state, Directed decision op → (state.ecs.Runs name ↔ live.ecs.Runs name) →
      ((EcsOp.attempt op state).2.ecs.Runs name ↔ live.ecs.Runs name) := by
    intro op state directed same
    rcases runs_attempt op state name with kept | ⟨desiredCount, leaves, -⟩
    · exact kept.trans same
    · obtain ⟨⟨strategyId, named, isName⟩, -⟩ := directed _ _ leaves
      exact absurd isName (other strategyId named)
  exact (all_reconcile config decision).runAttempts_keeps answers_attempt keeps Iff.rfl

/-- Whatever raises, a decision to run leaves a running service running. -/
theorem runs_reconcile_ensureRunning (ensures : decision.action = .ensureRunning)
    (running : live.ecs.Runs name) :
    (runLive (reconcile config decision) live).2.ecs.Runs name := by
  have keeps : ∀ op state, Directed decision op → state.ecs.Runs name →
      (EcsOp.attempt op state).2.ecs.Runs name := by
    intro op state directed runs
    rcases runs_attempt op state name with kept | ⟨desiredCount, leaves, left⟩
    · exact kept.mpr runs
    · exact left.mpr ((directed _ _ leaves).2.mpr ensures)
  exact (all_reconcile config decision).runAttempts_keeps answers_attempt keeps running

/-- Whatever raises, no other decision starts a service. -/
theorem not_runs_reconcile (idles : decision.action ≠ .ensureRunning)
    (idle : ¬ live.ecs.Runs name) :
    ¬ (runLive (reconcile config decision) live).2.ecs.Runs name := by
  have keeps : ∀ op state, Directed decision op → ¬ state.ecs.Runs name →
      ¬ (EcsOp.attempt op state).2.ecs.Runs name := by
    intro op state directed stands
    rcases runs_attempt op state name with kept | ⟨desiredCount, leaves, left⟩
    · exact fun runs => stands (kept.mp runs)
    · exact fun runs => idles ((directed _ _ leaves).2.mp (left.mp runs))
  exact (all_reconcile config decision).runAttempts_keeps answers_attempt keeps idle

end Steps

section Success

variable {live after : LiveEcs} {name : String}

/-- A call that answers leaves the count it asks for. -/
theorem runs_of_answered {op : EcsOp} {answer : EcsOp.Answer op} {desiredCount : Nat}
    (done : runLive (Program.perform op) live = (.ok answer, after))
    (leaves : leaves? op = some (name, desiredCount)) :
    after.ecs.Runs name ↔ 1 ≤ desiredCount := by
  have call := attempted op live
  rw [show op.attempt live = (.ok answer, after) from done] at call
  cases call with
  | answered counted drained done =>
      have runs := runs_call done name
      rw [leaves] at runs
      exact runs.trans (iff_of_eq (if_pos rfl))

/-- The state of the service at the time of the answer. -/
theorem runs_of_serviceState {found : Option Service}
    (done : runLive (serviceState name) live = (.ok found, after)) :
    after.ecs.Runs name ↔ ∃ service, found = some service ∧ 1 ≤ service.desiredCount := by
  obtain ⟨answer, middle, described, shown⟩ := Program.runAttempts_bind_ok _ done
  have call := attempted (.describeServices name) live
  rw [show EcsOp.attempt (.describeServices name) live = (.ok answer, middle) from described] at call
  cases call with
  | @answered _ _ ecs counted drained done =>
      simp only [EcsOp.call, Except.ok.injEq, Prod.mk.injEq] at done
      obtain ⟨rfl, same⟩ := done
      cases at_ : ecs.service? name with
      | none =>
          rw [at_] at shown
          obtain ⟨nothing, rfl⟩ := Prod.mk.inj shown
          obtain rfl := Except.ok.inj nothing
          refine iff_of_false ?_ fun ⟨service, absent, _⟩ => by cases absent
          rw [← same]
          rintro ⟨service, present, -⟩
          cases at_.symm.trans present
      | some service =>
          rw [at_] at shown
          dsimp only at shown
          by_cases inactive : service.status = .inactive
          · rw [if_pos inactive] at shown
            obtain ⟨nothing, rfl⟩ := Prod.mk.inj shown
            obtain rfl := Except.ok.inj nothing
            refine iff_of_false ?_ fun ⟨service, absent, _⟩ => by cases absent
            rw [← same]
            rintro ⟨other, present, positive⟩
            obtain rfl := Option.some.inj (at_.symm.trans present)
            have idle := service.idle (by rw [inactive]; decide)
            omega
          · rw [if_neg inactive] at shown
            obtain ⟨answer, rfl⟩ := Prod.mk.inj shown
            rw [← Except.ok.inj answer, ← same]
            unfold Ecs.Runs
            rw [at_]

theorem runs_of_ensureRunning {config : Config} {strategyId orgId : String}
    (done : runLive (ensureRunning config strategyId orgId) live = (.ok (), after)) :
    after.ecs.Runs (serviceNameFor strategyId) := by
  obtain ⟨found, middle, looked, acted⟩ := Program.runAttempts_bind_ok _ done
  have runs := runs_of_serviceState looked
  cases found with
  | none =>
      obtain ⟨taskDefinition, registered, -, created⟩ := Program.runAttempts_bind_ok _ acted
      exact (runs_of_answered created rfl).mpr (le_refl 1)
  | some service =>
      by_cases low : service.desiredCount < 1
      · dsimp only at acted
        rw [if_pos low] at acted
        exact (runs_of_answered acted rfl).mpr (le_refl 1)
      · dsimp only at acted
        rw [if_neg low] at acted
        obtain ⟨-, rfl⟩ := Prod.mk.inj acted
        exact runs.mpr ⟨service, rfl, by omega⟩

theorem not_runs_of_pause {strategyId : String}
    (done : runLive (pause strategyId) live = (.ok (), after)) :
    ¬ after.ecs.Runs (serviceNameFor strategyId) := by
  obtain ⟨found, middle, looked, acted⟩ := Program.runAttempts_bind_ok _ done
  have runs := runs_of_serviceState looked
  cases found with
  | none =>
      obtain ⟨-, rfl⟩ := Prod.mk.inj acted
      exact fun running => by simpa using runs.mp running
  | some service => exact fun running => by simpa using (runs_of_answered acted rfl).mp running

theorem not_runs_of_stop {strategyId : String}
    (done : runLive (stop strategyId) live = (.ok (), after)) :
    ¬ after.ecs.Runs (serviceNameFor strategyId) := by
  obtain ⟨found, middle, looked, acted⟩ := Program.runAttempts_bind_ok _ done
  have runs := runs_of_serviceState looked
  cases found with
  | none =>
      obtain ⟨-, rfl⟩ := Prod.mk.inj acted
      exact fun running => by simpa using runs.mp running
  | some service =>
      obtain ⟨-, scaled, -, deleted⟩ := Program.runAttempts_bind_ok _ acted
      exact fun running => by simpa using (runs_of_answered deleted rfl).mp running

/-- A decision whose calls all answer is true afterwards. -/
theorem runs_iff_of_reconciled {config : Config} {decision : Decision} {strategyId : String}
    (acts : decision.action ≠ .noop) (named : decision.strategyId = some strategyId)
    (done : runLive (reconcile config decision) live = (.ok (), after)) :
    after.ecs.Runs (serviceNameFor strategyId) ↔ decision.action = .ensureRunning := by
  obtain ⟨action, _, orgId⟩ := decision
  obtain rfl : _ = some strategyId := named
  cases action with
  | noop => exact absurd rfl acts
  | ensureRunning =>
      cases orgId with
      | none => cases done
      | some orgId => exact iff_of_true (runs_of_ensureRunning done) rfl
  | pause => exact iff_of_false (not_runs_of_pause done) (by simp)
  | stop => exact iff_of_false (not_runs_of_stop done) (by simp)

end Success

/-! ### A history of batches -/

/-- The container service after a batch. -/
def liveAfter (config : Config) (records : List StreamRecord) (live : LiveEcs) : LiveEcs :=
  (runLive (run config records) live).2

def liveAfterAll (config : Config) (batches : List (List StreamRecord)) (live : LiveEcs) : LiveEcs :=
  batches.foldl (fun live records => liveAfter config records live) live

/-- Work that counts how it ended returns, and leaves what the work leaves. -/
theorem runLive_counted {α : Type} (work : EcsProgram Unit) (returned : α) (raised : α)
    (live : LiveEcs) : ∃ counted,
      runLive (tryCatch (do work; return returned) fun _ => return raised) live =
        (.ok counted, (runLive work live).2) := by
  unfold runLive
  rw [Program.runAttempts_tryCatch, Program.runAttempts_bind]
  generalize Program.runAttempts EcsOp.attempt work live = result
  obtain ⟨outcome, after⟩ := result
  cases outcome with
  | ok value => exact ⟨returned, rfl⟩
  | error error => exact ⟨raised, rfl⟩

/-- The records of a batch are processed one after the other, whatever raises. -/
theorem liveAfter_eq (config : Config) (records : List StreamRecord) (live : LiveEcs) :
    liveAfter config records live = records.foldl
      (fun live record => (runLive (reconcile config (classifyRecord record)) live).2) live := by
  have each : ∀ summary record live, ∃ counted,
      runLive (processRecord config summary record) live =
        (.ok counted, (runLive (reconcile config (classifyRecord record)) live).2) :=
    fun summary record live => runLive_counted _ _ _ live
  exact Program.runAttempts_foldlM _ each records _ live

theorem liveAfterAll_eq (config : Config) (batches : List (List StreamRecord)) (live : LiveEcs) :
    liveAfterAll config batches live = liveAfter config batches.flatten live := by
  unfold liveAfterAll
  induction batches generalizing live with
  | nil => rfl
  | cons records rest inductionHypothesis =>
      rw [List.foldl_cons, inductionHypothesis]
      simp only [liveAfter_eq, List.flatten_cons, List.foldl_append]

/-- The record asks for the strategy's service to be scaled down. -/
def ScalesDown (strategyId : String) (record : StreamRecord) : Prop :=
  (classifyRecord record).strategyId = some strategyId ∧
    ((classifyRecord record).action = .pause ∨ (classifyRecord record).action = .stop)

/-- The record asks for the strategy's service to run. -/
def ScalesUp (strategyId : String) (record : StreamRecord) : Prop :=
  (classifyRecord record).strategyId = some strategyId ∧
    (classifyRecord record).action = .ensureRunning

/-- No service is started by records that do not ask for it. -/
theorem not_runs_liveAfter (config : Config) {records : List StreamRecord} {strategyId : String}
    (idles : ∀ record ∈ records, ¬ ScalesUp strategyId record) {live : LiveEcs}
    (idle : ¬ live.ecs.Runs (serviceNameFor strategyId)) :
    ¬ (liveAfter config records live).ecs.Runs (serviceNameFor strategyId) := by
  rw [liveAfter_eq]
  induction records generalizing live with
  | nil => exact idle
  | cons record rest inductionHypothesis =>
      refine inductionHypothesis (fun later member => idles later (List.mem_cons_of_mem _ member)) ?_
      by_cases named : (classifyRecord record).strategyId = some strategyId
      · have others : (classifyRecord record).action ≠ .ensureRunning :=
          fun ensures => idles record List.mem_cons_self ⟨named, ensures⟩
        exact not_runs_reconcile config live others idle
      · rw [runs_reconcile_of_ne config live]
        · exact idle
        · intro other isOther same
          rw [serviceNameFor_inj.mp same] at named
          exact named isOther

/-- A pause or stop whose calls all answer ends the bot, until a later record
asks for it again. -/
theorem not_runs_of_scaledDown (config : Config) (live : LiveEcs) {strategyId : String}
    {earlier later : List StreamRecord} {record : StreamRecord}
    (down : ScalesDown strategyId record) (last : ∀ record ∈ later, ¬ ScalesUp strategyId record)
    (answered : (liveAfter config (earlier ++ [record]) live).failures =
      (liveAfter config earlier live).failures) :
    ¬ (liveAfter config (earlier ++ record :: later) live).ecs.Runs (serviceNameFor strategyId) := by
  have split : liveAfter config (earlier ++ record :: later) live =
      liveAfter config later (liveAfter config (earlier ++ [record]) live) := by
    simp only [liveAfter_eq, List.foldl_append, List.foldl_cons, List.foldl_nil]
  rw [split]
  refine not_runs_liveAfter config last ?_
  have one : liveAfter config (earlier ++ [record]) live =
      (runLive (reconcile config (classifyRecord record)) (liveAfter config earlier live)).2 := by
    simp only [liveAfter_eq, List.foldl_append, List.foldl_cons, List.foldl_nil]
  rw [one] at answered ⊢
  generalize liveAfter config earlier live = before at answered ⊢
  obtain ⟨named, lowers⟩ := down
  have acts : (classifyRecord record).action ≠ .noop := by rcases lowers with down | down <;> simp [down]
  have notUp : (classifyRecord record).action ≠ .ensureRunning := by
    rcases lowers with down | down <;> simp [down]
  have counted := counted_reconcile config (fun ensures => absurd ensures notUp) before
  cases outcome : (runLive (reconcile config (classifyRecord record)) before).1 with
  | error error =>
      have failed := counted.2 error outcome
      omega
  | ok value =>
      rw [runs_iff_of_reconciled acts named (Prod.ext outcome rfl)]
      exact notUp

/-! ### The repair -/

/-- There is a row of the strategy that is active and has an organisation. -/
def ActiveRow (libraries : Libraries) (table : Table) (strategyId : String) : Prop :=
  ∃ row ∈ table.scanPrefix strategyPrefix, ∃ strategy,
    Strategy.modelValidate libraries row.2 = .ok strategy ∧ strategy.strategyId = strategyId ∧
      strategy.status = .active ∧ strategy.orgId ≠ ""

/-- Exactly the strategies run whose row is active with an organisation. -/
def Repaired (libraries : Libraries) (table : Table) (ecs : Ecs) : Prop :=
  ∀ strategyId, ecs.Runs (serviceNameFor strategyId) ↔ ActiveRow libraries table strategyId

theorem decisionFor?_eq_some_iff {strategy : Strategy} {decision : Decision} :
    decisionFor? strategy = some decision ↔
      strategy.status = .active ∧ strategy.orgId ≠ "" ∧
        decision = ⟨.ensureRunning, some strategy.strategyId, some strategy.orgId⟩ := by
  unfold decisionFor?
  by_cases active : strategy.status = .active
  · by_cases unowned : strategy.orgId = ""
    · simp [active, unowned]
    · simp [active, unowned, eq_comm]
  · simp [active]

/-- What the reconciler reads from the table. -/
theorem mem_decisionsFromStore {libraries : Libraries} {table : Table} {decisions : List Decision}
    (read : (TableProgram.runAlone (decisionsFromStore libraries) table).1 = .ok decisions) :
    (∀ decision ∈ decisions, decision.action = .ensureRunning ∧ decision.orgId ≠ none) ∧
      ∀ strategyId, (∃ decision ∈ decisions, decision.strategyId = some strategyId) ↔
        ActiveRow libraries table strategyId := by
  have scanned : (TableProgram.runAlone (decisionsFromStore libraries) table).1 =
      ((table.scanPrefix strategyPrefix).mapM fun row =>
        Strategy.modelValidate libraries row.2).map (·.filterMap decisionFor?) := by
    unfold decisionsFromStore listAll
    rw [TableProgram.runAlone_bind, TableProgram.runAlone_bind, TableProgram.runAlone_scanPrefix]
    dsimp only
    rw [TableProgram.runAlone_parsed]
    cases (table.scanPrefix strategyPrefix).mapM fun row =>
      Strategy.modelValidate libraries row.2 <;> rfl
  rw [scanned] at read
  cases rows : (table.scanPrefix strategyPrefix).mapM fun row =>
      Strategy.modelValidate libraries row.2 with
  | error error =>
      rw [rows] at read
      cases read
  | ok strategies =>
      rw [rows] at read
      obtain rfl : strategies.filterMap decisionFor? = decisions := Except.ok.inj read
      simp only [List.mem_filterMap, decisionFor?_eq_some_iff]
      constructor
      · rintro decision ⟨strategy, -, -, -, rfl⟩
        exact ⟨rfl, by simp⟩
      · intro strategyId
        constructor
        · rintro ⟨_, ⟨strategy, member, active, hasOrg, rfl⟩, named⟩
          obtain ⟨row, inTable, reads⟩ := exists_of_mapM_ok rows member
          exact ⟨row, inTable, strategy, reads, Option.some.inj named, active, hasOrg⟩
        · rintro ⟨row, inTable, strategy, reads, rfl, active, hasOrg⟩
          obtain ⟨other, member, same⟩ := mapM_ok_mem rows inTable
          obtain rfl := Except.ok.inj (reads.symm.trans same)
          exact ⟨_, ⟨strategy, member, active, hasOrg, rfl⟩, rfl⟩

theorem failures_foldl (config : Config) {decisions : List Decision}
    (ensures : ∀ decision ∈ decisions, decision.action = .ensureRunning ∧ decision.orgId ≠ none)
    (live : LiveEcs) : live.failures ≤ (decisions.foldl
      (fun live decision => (runLive (reconcile config decision) live).2) live).failures := by
  induction decisions generalizing live with
  | nil => exact le_refl _
  | cons decision rest inductionHypothesis =>
      have here := counted_reconcile config (fun _ => (ensures decision List.mem_cons_self).2) live
      exact le_trans here.1 (inductionHypothesis
        (fun later member => ensures later (List.mem_cons_of_mem decision member)) _)

/-- The services after a repair in which no call raises: those the decisions name
run beside those that ran before. -/
theorem runs_reconcileAll (config : Config) {decisions : List Decision}
    (ensures : ∀ decision ∈ decisions, decision.action = .ensureRunning ∧ decision.orgId ≠ none)
    (live : LiveEcs)
    (answered : (runLive (reconcileAll config decisions false) live).2.failures = live.failures)
    (strategyId : String) :
    (runLive (reconcileAll config decisions false) live).2.ecs.Runs (serviceNameFor strategyId) ↔
      (∃ decision ∈ decisions, decision.strategyId = some strategyId) ∨
        live.ecs.Runs (serviceNameFor strategyId) := by
  have each : ∀ summary decision live, ∃ counted,
      runLive (reconcileOne config summary decision) live =
        (.ok counted, (runLive (reconcile config decision) live).2) :=
    fun summary decision live => runLive_counted _ _ _ live
  have loop : (runLive (reconcileAll config decisions false) live).2 =
      decisions.foldl (fun live decision => (runLive (reconcile config decision) live).2) live :=
    Program.runAttempts_foldlM _ each decisions _ live
  rw [loop] at answered ⊢
  clear loop each
  induction decisions generalizing live with
  | nil => simp
  | cons decision rest inductionHypothesis =>
      rw [List.foldl_cons] at answered ⊢
      obtain ⟨action, hasOrg⟩ := ensures decision List.mem_cons_self
      have here := counted_reconcile config (fun _ => hasOrg) live
      have ensuresRest := fun later member => ensures later (List.mem_cons_of_mem decision member)
      have further := failures_foldl config ensuresRest (runLive (reconcile config decision) live).2
      have later := inductionHypothesis ensuresRest (runLive (reconcile config decision) live).2
        (by omega)
      refine later.trans ?_
      rw [List.exists_mem_cons_iff, or_right_comm, or_comm]
      refine or_congr_left ?_
      cases outcome : (runLive (reconcile config decision) live).1 with
      | error error =>
          have failed := here.2 error outcome
          omega
      | ok value =>
          by_cases named : decision.strategyId = some strategyId
          · rw [runs_iff_of_reconciled (by simp [action]) named (Prod.ext outcome rfl)]
            simp [named, action]
          · rw [runs_reconcile_of_ne config live fun other isOther same =>
              named (isOther.trans (congrArg some (serviceNameFor_inj.mp same).symm))]
            simp [named]

/-- After any history of batches in which any call may raise, and a repair in
which none does, a bot runs exactly if its row is active with an organisation or
it ran before the repair. A bot whose last pause or stop went through runs
exactly if its row says so. -/
theorem repairs_or_leaves (config : Config) {libraries : Libraries} {table : Table}
    {decisions : List Decision}
    (read : (TableProgram.runAlone (decisionsFromStore libraries) table).1 = .ok decisions)
    (batches : List (List StreamRecord)) (live : LiveEcs)
    (answered : (runLive (reconcileAll config decisions false)
      (liveAfterAll config batches live)).2.failures = (liveAfterAll config batches live).failures) :
    let before := liveAfterAll config batches live
    let after := (runLive (reconcileAll config decisions false) before).2
    (∀ strategyId, after.ecs.Runs (serviceNameFor strategyId) ↔
      ActiveRow libraries table strategyId ∨ before.ecs.Runs (serviceNameFor strategyId)) ∧
    ∀ strategyId earlier record later, batches.flatten = earlier ++ record :: later →
      ScalesDown strategyId record → (∀ record ∈ later, ¬ ScalesUp strategyId record) →
      (liveAfter config (earlier ++ [record]) live).failures =
        (liveAfter config earlier live).failures →
      (after.ecs.Runs (serviceNameFor strategyId) ↔ ActiveRow libraries table strategyId) := by
  obtain ⟨ensures, named⟩ := mem_decisionsFromStore read
  have runs : ∀ strategyId, (runLive (reconcileAll config decisions false)
      (liveAfterAll config batches live)).2.ecs.Runs (serviceNameFor strategyId) ↔
        ActiveRow libraries table strategyId ∨
          (liveAfterAll config batches live).ecs.Runs (serviceNameFor strategyId) := by
    intro strategyId
    rw [runs_reconcileAll config ensures _ answered, named]
  refine ⟨runs, fun strategyId earlier record later cut down last went => ?_⟩
  have idle := not_runs_of_scaledDown config live down last went
  rw [← cut, ← liveAfterAll_eq] at idle
  rw [runs strategyId]
  exact or_iff_left idle

/-! A bot is created, and the call that pauses it is refused. -/

def botConfig : Config := { baseTaskDefinitionFamily := "bot", containerImage := "ts" }

def pausedTable : Table := Foundation.run RowChange.apply Dict.empty (pausedAndStopped.take 2)

def pauseRefused : LiveEcs :=
  liveAfterAll botConfig [stream Dict.empty (pausedAndStopped.take 2)]
    { turns := [{}, {}, {}, {}, { fate := .refused }] }

theorem repairs_or_leaves_pauseRefused :
    (runLive (reconcileAll botConfig [] false) pauseRefused).2.ecs.Runs (serviceNameFor "s1") ↔
      ActiveRow plainLibraries pausedTable "s1" ∨ pauseRefused.ecs.Runs (serviceNameFor "s1") :=
  (repairs_or_leaves botConfig (by decide +kernel)
    [stream Dict.empty (pausedAndStopped.take 2)]
    { turns := [{}, {}, {}, {}, { fate := .refused }] } (by decide +kernel)).1 "s1"

/-- The row is paused, no call of the repair raises, and the bot runs on. -/
theorem not_repaired_pauseRefused :
    RowIs pausedTable "s1" .paused ∧
      (TableProgram.runAlone (decisionsFromStore plainLibraries) pausedTable).1 = .ok [] ∧
      (runLive (reconcileAll botConfig [] false) pauseRefused).2.failures = pauseRefused.failures ∧
      ¬ Repaired plainLibraries pausedTable
        (runLive (reconcileAll botConfig [] false) pauseRefused).2.ecs := by
  have read : (TableProgram.runAlone (decisionsFromStore plainLibraries) pausedTable).1 =
      .ok [] := by decide +kernel
  have running : (runLive (reconcileAll botConfig [] false) pauseRefused).2.ecs.Runs
      (serviceNameFor "s1") := by decide +kernel
  refine ⟨⟨_, rfl, rfl⟩, read, by decide +kernel, fun repaired => ?_⟩
  have active := (repaired "s1").mp running
  rw [← (mem_decisionsFromStore read).2] at active
  simp at active

end TradingStrands.StrategySupervisor
