import TradingStrands.Foundation.Redelivery
import TradingStrands.Foundation.Runs
import TradingStrands.StrategiesStore.Store
import TradingStrands.Supervisor.StrategySupervisor

/-!
Proves that the services converge to the strategy rows. The supervisor sees the
table only through the differences in its change stream, and batches of the
stream come at least once. A service depends on nothing but the last decision
about its strategy, which redelivery does not change, and the last decision
follows the row.

The container service is the one in which every call takes effect at once and
none fails.
-/

namespace TradingStrands.StrategySupervisor

open TradingStrands.Foundation StrategyStore

/-! ### The change stream of the strategy rows -/

inductive RowChange
  | put (strategy : Strategy)
  | remove (strategyId : String)

namespace RowChange

def pk : RowChange → String
  | .put strategy => strategyPk strategy.strategyId
  | .remove strategyId => strategyPk strategyId

def apply (table : Table) : RowChange → Table
  | .put strategy => table.putItem (strategyPk strategy.strategyId) strategy.modelDump
  | .remove strategyId => table.deleteItem (strategyPk strategyId)

/-- A row that is written carries an organisation. -/
def Owned : RowChange → Prop
  | .put strategy => strategy.orgId ≠ ""
  | .remove _ => True

instance : DecidablePred Owned := fun change => by
  cases change <;> unfold Owned <;> infer_instance

end RowChange

def imageOf (pk : String) (item : Item) : Item := ("pk", .text pk) :: item

/-- The record of a row before and after a change; a row that stays the same
leaves none. -/
def recordOf (pk : String) : Option Item → Option Item → Option StreamRecord
  | none, none => none
  | none, some new => some { eventName := .insert, newImage := imageOf pk new }
  | some old, none => some { eventName := .remove, oldImage := imageOf pk old }
  | some old, some new =>
      if old = new then none
      else some { eventName := .modify, newImage := imageOf pk new, oldImage := imageOf pk old }

def recordOfChange (table : Table) (change : RowChange) : List StreamRecord :=
  (recordOf change.pk (table.getItem change.pk) ((change.apply table).getItem change.pk)).toList

/-- The records of a history of changes, in order. -/
def stream (table : Table) : List RowChange → List StreamRecord
  | [] => []
  | change :: rest => recordOfChange table change ++ stream (change.apply table) rest

theorem stream_concat (table : Table) (history : List RowChange) (change : RowChange) :
    stream table (history ++ [change]) =
      stream table history ++
        recordOfChange (Foundation.run RowChange.apply table history) change := by
  induction history generalizing table with
  | nil =>
      show recordOfChange table change ++ [] = recordOfChange table change
      exact List.append_nil _
  | cons head tail inductionHypothesis =>
      rw [List.cons_append, stream, stream, inductionHypothesis, List.append_assoc]
      rfl

/-- Whether the row of a strategy is there with a status. -/
def RowIs (table : Table) (strategyId : String) (status : StrategyStatus) : Prop :=
  ∃ item, table.getItem (strategyPk strategyId) = some item ∧
    item.attr? "status" = some (.text status.value)

/-! ### Decisions -/

theorem removeLead_strategyPk (strategyId : String) :
    removeLead (strategyPk strategyId) "STRATEGY#" = strategyId := by
  have begins : beginsWith (strategyPk strategyId) "STRATEGY#" = true := strategyPk_begins strategyId
  unfold removeLead
  rw [if_pos begins, ← String.toList_inj, String.toList_ofList]
  show (strategyPk strategyId).toList.drop 9 = strategyId.toList
  simp [strategyPk]

/-- The image of a strategy's row. -/
def rowImage (strategy : Strategy) : Item :=
  imageOf (strategyPk strategy.strategyId) strategy.modelDump

/-- What the supervisor is asked for by a status that is new. -/
def Action.ofStatus : StrategyStatus → Action
  | .active => .ensureRunning
  | .paused => .pause
  | .stopped => .stop

section Rows

variable {strategy old : Strategy}

theorem pk_rowImage : beginsWith (unwrap (rowImage strategy) "pk") "STRATEGY#" = true :=
  strategyPk_begins strategy.strategyId

theorem strategyId_rowImage :
    (if unwrap (rowImage strategy) "strategy_id" = "" then
      removeLead (unwrap (rowImage strategy) "pk") "STRATEGY#"
    else unwrap (rowImage strategy) "strategy_id") = strategy.strategyId := by
  show (if strategy.strategyId = "" then removeLead (strategyPk strategy.strategyId) "STRATEGY#"
    else strategy.strategyId) = strategy.strategyId
  rw [removeLead_strategyPk, ite_self]

theorem orgId_rowImage (owned : strategy.orgId ≠ "") :
    (if unwrap (rowImage strategy) "org_id" = "" then none
      else some (unwrap (rowImage strategy) "org_id")) = some strategy.orgId :=
  if_neg owned

theorem status_rowImage : unwrap (rowImage strategy) "status" = strategy.status.value := rfl

theorem rowImage_ne_nil : rowImage strategy ≠ [] := List.cons_ne_nil _ _

theorem classifyRecord_insert (owned : strategy.orgId ≠ "") :
    classifyRecord { eventName := .insert, newImage := rowImage strategy } =
      ⟨if strategy.status = .active then .ensureRunning else .noop, some strategy.strategyId,
        some strategy.orgId⟩ := by
  unfold classifyRecord
  simp only [rowImage_ne_nil, if_false, pk_rowImage, strategyId_rowImage, orgId_rowImage owned,
    status_rowImage]
  cases strategy.status <;> rfl

theorem classifyRecord_modify (owned : strategy.orgId ≠ "") :
    classifyRecord
        { eventName := .modify, newImage := rowImage strategy, oldImage := rowImage old } =
      ⟨if old.status = strategy.status then .noop else .ofStatus strategy.status,
        some strategy.strategyId, some strategy.orgId⟩ := by
  unfold classifyRecord
  simp only [rowImage_ne_nil, if_false, pk_rowImage, strategyId_rowImage, orgId_rowImage owned,
    status_rowImage]
  cases old.status <;> cases strategy.status <;> rfl

theorem classifyRecord_remove (owned : strategy.orgId ≠ "") :
    classifyRecord { eventName := .remove, oldImage := rowImage strategy } =
      ⟨.stop, some strategy.strategyId, some strategy.orgId⟩ := by
  unfold classifyRecord
  simp only [if_true, pk_rowImage, strategyId_rowImage, orgId_rowImage owned]
  rfl

end Rows

/-! ### Making one decision true -/

/-- The container service once a decision has been made true. -/
def settle (config : Config) (ecs : Ecs) (decision : Decision) : Ecs :=
  (Program.run EcsOp.apply (reconcile config decision) ecs).2

/-- A batch makes its decisions true one after the other; an exception on one
does not touch the others. -/
theorem run_batch (config : Config) (records : List StreamRecord) (ecs : Ecs) :
    (Program.run EcsOp.apply (run config records) ecs).2 =
      (records.map classifyRecord).foldl (settle config) ecs := by
  have each : ∀ summary record ecs, ∃ counted,
      Program.run EcsOp.apply (processRecord config summary record) ecs =
        (.ok counted, settle config ecs (classifyRecord record)) := by
    intro summary record ecs
    unfold processRecord settle
    rw [Program.run_tryCatch, Program.run_bind]
    obtain ⟨outcome, after⟩ :=
      Program.run EcsOp.apply (reconcile config (classifyRecord record)) ecs
    cases outcome with
    | ok value => exact ⟨_, rfl⟩
    | error error => exact ⟨_, rfl⟩
  unfold run
  rw [Program.run_foldlM _ each, List.foldl_map]

/-- What making a decision true does to the desired count of its service. -/
def Action.effect : Action → Option Nat → Option Nat
  | .noop, desired => desired
  | .ensureRunning, none => some 1
  | .ensureRunning, some desired => if desired < 1 then some 1 else some desired
  | .pause, desired => desired.map fun _ => 0
  | .stop, _ => none

/-- No service drains or is gone. -/
def AllActive (ecs : Ecs) : Prop :=
  ∀ name service, ecs.service? name = some service → service.status = .active

def desired? (ecs : Ecs) (name : String) : Option Nat :=
  (ecs.service? name).map (·.desiredCount)

theorem AllActive.setService {ecs : Ecs} (active : AllActive ecs) (name : String)
    {service : Service} (isActive : service.status = .active) :
    AllActive (ecs.setService name service) := by
  intro other found at_
  rw [Ecs.service?_setService] at at_
  split at at_
  · rw [← Option.some.inj at_]
    exact isActive
  · exact active other found at_

theorem desired?_setService (ecs : Ecs) (name other : String) (service : Service) :
    desired? (ecs.setService name service) other =
      if other = name then some service.desiredCount else desired? ecs other := by
  unfold desired?
  rw [Ecs.service?_setService]
  split <;> rfl

theorem AllActive.removeService {ecs : Ecs} (active : AllActive ecs) (name : String) :
    AllActive (ecs.removeService name) := by
  intro other found at_
  rw [Ecs.service?_removeService] at at_
  split at at_
  · cases at_
  · exact active other found at_

theorem desired?_removeService (ecs : Ecs) (name other : String) :
    desired? (ecs.removeService name) other =
      if other = name then none else desired? ecs other := by
  unfold desired?
  rw [Ecs.service?_removeService]
  split <;> rfl

theorem run_serviceState {ecs : Ecs} (active : AllActive ecs) (name : String) :
    Program.run EcsOp.apply (serviceState name) ecs = (.ok (ecs.service? name), ecs) := by
  unfold serviceState
  rw [Program.run_bind]
  have described : Program.run EcsOp.apply (EcsProgram.describeServices name) ecs =
      (.ok (ecs.service? name), ecs) := rfl
  rw [described]
  dsimp only
  cases found : ecs.service? name with
  | none => rfl
  | some service =>
      have isActive := active name service found
      simp [isActive]

/-- The state after an action on the service of one strategy. -/
def Effected (action : Action) (strategyId : String) (before after : Ecs) : Prop :=
  AllActive after ∧ ∀ name, desired? after name =
    if name = serviceNameFor strategyId then action.effect (desired? before name)
    else desired? before name

theorem Effected.same {ecs : Ecs} (active : AllActive ecs) {action : Action} {strategyId : String}
    (fixed : action.effect (desired? ecs (serviceNameFor strategyId)) =
      desired? ecs (serviceNameFor strategyId)) : Effected action strategyId ecs ecs := by
  refine ⟨active, fun name => ?_⟩
  split
  next same => rw [same, fixed]
  next => rfl

theorem Effected.setService {ecs : Ecs} (active : AllActive ecs) {action : Action}
    {strategyId : String} {service : Service} (isActive : service.status = .active)
    (effect : action.effect (desired? ecs (serviceNameFor strategyId)) =
      some service.desiredCount) :
    Effected action strategyId ecs (ecs.setService (serviceNameFor strategyId) service) := by
  refine ⟨active.setService _ isActive, fun name => ?_⟩
  rw [desired?_setService]
  split
  next same => rw [same, effect]
  next => rfl

theorem apply_updateService {ecs : Ecs} {name : String} {service : Service}
    (found : ecs.service? name = some service) (desiredCount : Nat) :
    (EcsOp.updateService name desiredCount).apply ecs =
      ((), ecs.setService name (service.scale desiredCount)) := by
  simp only [EcsOp.apply]
  rw [found]

section Settling

variable {ecs : Ecs} (active : AllActive ecs) (strategyId : String)
include active

theorem effected_ensureRunning (config : Config) (orgId : String) :
    Effected .ensureRunning strategyId ecs
      (Program.run EcsOp.apply (ensureRunning config strategyId orgId) ecs).2 := by
  unfold ensureRunning
  rw [Program.run_bind, run_serviceState active]
  dsimp only
  cases found : ecs.service? (serviceNameFor strategyId) with
  | none =>
      have absent : desired? ecs (serviceNameFor strategyId) = none := by rw [desired?, found]; rfl
      have registered : ∀ taskDefinitions, AllActive { ecs with taskDefinitions } := fun _ => active
      exact Effected.setService (registered _) rfl (congrArg (Action.effect .ensureRunning) absent)
  | some service =>
      have present : desired? ecs (serviceNameFor strategyId) = some service.desiredCount := by
        rw [desired?, found]
        rfl
      by_cases low : service.desiredCount < 1
      · have raised : Action.effect .ensureRunning (some service.desiredCount) = some 1 := if_pos low
        dsimp only
        rw [if_pos low, EcsProgram.updateService, Program.run_perform, apply_updateService found]
        obtain ⟨isActive, count⟩ := Service.scale_eq (active _ service found) 1
        exact Effected.setService active isActive (by rw [present, raised, count])
      · have kept : Action.effect .ensureRunning (some service.desiredCount) =
            some service.desiredCount := if_neg low
        dsimp only
        rw [if_neg low]
        exact Effected.same active (by rw [present, kept])

theorem effected_pause :
    Effected .pause strategyId ecs (Program.run EcsOp.apply (pause strategyId) ecs).2 := by
  unfold pause
  rw [Program.run_bind, run_serviceState active]
  dsimp only
  cases found : ecs.service? (serviceNameFor strategyId) with
  | none => exact Effected.same active (by rw [desired?, found]; rfl)
  | some service =>
      dsimp only
      rw [EcsProgram.updateService, Program.run_perform, apply_updateService found]
      obtain ⟨isActive, count⟩ := Service.scale_eq (active _ service found) 0
      exact Effected.setService active isActive (by rw [desired?, found, count]; rfl)

theorem effected_stop :
    Effected .stop strategyId ecs (Program.run EcsOp.apply (stop strategyId) ecs).2 := by
  unfold stop
  rw [Program.run_bind, run_serviceState active]
  dsimp only
  cases found : ecs.service? (serviceNameFor strategyId) with
  | none => exact Effected.same active (by rw [desired?, found]; rfl)
  | some service =>
      have scaled : AllActive
          (ecs.setService (serviceNameFor strategyId) (service.scale 0)) :=
        active.setService _ (Service.scale_eq (active _ service found) 0).1
      dsimp only
      rw [EcsProgram.updateService, Program.run_bind, Program.run_perform,
        apply_updateService found]
      refine ⟨scaled.removeService _, fun name => ?_⟩
      show desired? (Ecs.removeService _ _) name = _
      rw [desired?_removeService, desired?_setService]
      by_cases same : name = serviceNameFor strategyId
      · rw [if_pos same, if_pos same]
        rfl
      · rw [if_neg same, if_neg same, if_neg same]

theorem effected_settle (config : Config) {decision : Decision}
    (named : decision.strategyId = some strategyId)
    (owned : decision.action = .ensureRunning → decision.orgId ≠ none) :
    Effected decision.action strategyId ecs (settle config ecs decision) := by
  obtain ⟨action, _, orgId⟩ := decision
  obtain rfl : _ = some strategyId := named
  unfold settle
  cases action with
  | noop => exact Effected.same active rfl
  | ensureRunning =>
      cases orgId with
      | none => exact absurd rfl (owned rfl)
      | some orgId => exact effected_ensureRunning active strategyId config orgId
  | pause => exact effected_pause active strategyId
  | stop => exact effected_stop active strategyId

end Settling

/-! ### Many decisions -/

/-- The action a record asks for on the service of a strategy, if it asks for any. -/
def requested (strategyId : String) (record : StreamRecord) : Option Action :=
  let decision := classifyRecord record
  if decision.strategyId = some strategyId ∧ decision.action ≠ .noop then some decision.action
  else none

/-- The record can be acted on. -/
def Actionable (record : StreamRecord) : Prop :=
  let decision := classifyRecord record
  (decision.strategyId = none → decision.action = .noop) ∧
    (decision.action = .ensureRunning → decision.orgId ≠ none)

/-- What a desired count says about the last action on a service. -/
def Reflects (desired : Option Nat) (last : Option Action) : Prop :=
  ((∃ count, desired = some count ∧ 1 ≤ count) ↔ last = some .ensureRunning) ∧
    (last = none ∨ last = some .stop → desired = none)

theorem Reflects.effect {desired : Option Nat} {last : Option Action} (action : Action)
    (reflects : Reflects desired last) :
    Reflects (action.effect desired) ((if action = .noop then none else some action).or last) := by
  cases action with
  | noop => exact reflects
  | ensureRunning =>
      refine ⟨iff_of_true ?_ rfl, fun other => by simp at other⟩
      cases desired with
      | none => exact ⟨1, rfl, le_refl 1⟩
      | some count =>
          by_cases low : count < 1
          · exact ⟨1, if_pos low, le_refl 1⟩
          · exact ⟨count, if_neg low, by omega⟩
  | pause =>
      refine ⟨iff_of_false ?_ (by simp), fun other => by simp at other⟩
      cases desired <;> simp [Action.effect]
  | stop =>
      refine ⟨iff_of_false ?_ (by simp), fun _ => rfl⟩
      simp [Action.effect]

/-- A service shows the last action asked for on it. -/
theorem reflects_of_settled (config : Config) {records : List StreamRecord}
    (actionable : ∀ record ∈ records, Actionable record) :
    AllActive ((records.map classifyRecord).foldl (settle config) {}) ∧
      ∀ strategyId, Reflects
        (desired? ((records.map classifyRecord).foldl (settle config) {}) (serviceNameFor strategyId))
        (lastOf (requested strategyId) records) := by
  induction records using List.reverseRecOn with
  | nil =>
      refine ⟨fun name service found => ?_, fun strategyId => ?_⟩
      · cases found
      · exact ⟨iff_of_false (by simp [desired?, Ecs.service?]) (by simp), fun _ => rfl⟩
  | append_singleton records record inductionHypothesis =>
      obtain ⟨active, reflects⟩ := inductionHypothesis fun earlier member =>
        actionable earlier (List.mem_append_left _ member)
      obtain ⟨named, owned⟩ := actionable record (by simp)
      rw [List.map_append, List.foldl_append, List.map_singleton, List.foldl_cons, List.foldl_nil]
      generalize (records.map classifyRecord).foldl (settle config) {} = ecs at active reflects ⊢
      cases target : (classifyRecord record).strategyId with
      | none =>
          have idle : settle config ecs (classifyRecord record) = ecs := by
            unfold settle reconcile
            rw [named target]
            rfl
          rw [idle]
          refine ⟨active, fun strategyId => ?_⟩
          rw [lastOf_concat, requested, if_neg (by simp [target])]
          exact reflects strategyId
      | some target' =>
          obtain ⟨activeAfter, effect⟩ := effected_settle active target' config target owned
          refine ⟨activeAfter, fun strategyId => ?_⟩
          rw [effect, lastOf_concat, requested]
          simp only [target, Option.some.injEq, serviceNameFor_inj]
          by_cases same : strategyId = target'
          · subst same
            have applied := (reflects strategyId).effect (classifyRecord record).action
            by_cases idle : (classifyRecord record).action = .noop
            · simpa [idle] using applied
            · simpa [idle] using applied
          · rw [if_neg same, if_neg fun both => same both.1.symm]
            exact reflects strategyId

/-! ### The last action follows the row -/

/-- What the status of a row says about the last action asked for. -/
def Agrees (last : Option Action) : StrategyStatus → Prop
  | .active => last = some .ensureRunning
  | .paused => last ≠ some .ensureRunning
  | .stopped => last = none ∨ last = some .stop

/-- The row of a strategy, and the last action asked for on its service. -/
inductive Tracked (strategyId : String) (last : Option Action) : Option Item → Prop
  | absent (quiet : last = none ∨ last = some .stop) : Tracked strategyId last none
  | present {strategy : Strategy} (named : strategy.strategyId = strategyId)
      (owned : strategy.orgId ≠ "") (agrees : Agrees last strategy.status) :
      Tracked strategyId last (some strategy.modelDump)

theorem value_inj {left right : StrategyStatus} (same : left.value = right.value) :
    left = right := by
  cases left <;> cases right <;> first | rfl | simp [StrategyStatus.value] at same

/-- A record of a change to another strategy asks for nothing here. -/
theorem requested_of_ne {record : StreamRecord} {strategyId other : String}
    (named : (classifyRecord record).strategyId = some other) (different : strategyId ≠ other) :
    requested strategyId record = none :=
  if_neg fun both => different (Option.some.inj (named.symm.trans both.1)).symm

theorem requested_self {record : StreamRecord} {strategyId : String} {orgId : Option String}
    {action : Action} (classified : classifyRecord record = ⟨action, some strategyId, orgId⟩) :
    requested strategyId record = if action = .noop then none else some action := by
  unfold requested
  simp only [classified, true_and]
  by_cases idle : action = .noop <;> simp [idle]

/-- The decision on a change: it is about the changed strategy, can be acted on,
and leaves the row tracked. -/
structure Decided (strategyId : String) (last : Option Action) (row : Option Item)
    (records : List StreamRecord) : Prop where
  named : ∀ record ∈ records, (classifyRecord record).strategyId = some strategyId
  owned : ∀ record ∈ records, (classifyRecord record).orgId ≠ none
  tracked : Tracked strategyId ((lastOf (requested strategyId) records).or last) row

theorem Decided.quiet {strategyId : String} {last : Option Action} {row : Option Item}
    (tracked : Tracked strategyId last row) : Decided strategyId last row [] :=
  ⟨by simp, by simp, tracked⟩

theorem Decided.single {strategyId : String} {last : Option Action} {row : Option Item}
    {record : StreamRecord} {action : Action} {orgId : String}
    (classified : classifyRecord record = ⟨action, some strategyId, some orgId⟩)
    (tracked : Tracked strategyId ((if action = .noop then none else some action).or last) row) :
    Decided strategyId last row [record] := by
  refine ⟨by simp [classified], by simp [classified], ?_⟩
  have one : lastOf (requested strategyId) [record] = requested strategyId record := by
    rw [← List.nil_append [record], lastOf_concat]
    simp
  rw [one, requested_self classified]
  exact tracked

theorem decided_put {strategy : Strategy} (owned : strategy.orgId ≠ "") {table : Table}
    {last : Option Action}
    (tracked : Tracked strategy.strategyId last (table.getItem (strategyPk strategy.strategyId))) :
    Decided strategy.strategyId last (some strategy.modelDump)
      (recordOfChange table (.put strategy)) := by
  have written : (RowChange.apply table (.put strategy)).getItem
      (strategyPk strategy.strategyId) = some strategy.modelDump :=
    Table.getItem_putItem_self _ _ _
  unfold recordOfChange
  simp only [RowChange.pk, written]
  generalize table.getItem (strategyPk strategy.strategyId) = row at tracked
  cases tracked with
  | absent quiet =>
      refine Decided.single (classifyRecord_insert owned) (.present rfl owned ?_)
      cases status : strategy.status with
      | active => rfl
      | paused => rcases quiet with quiet | quiet <;> simp [Agrees, quiet]
      | stopped => exact quiet
  | @present old named oldOwned agrees =>
      by_cases same : old.modelDump = strategy.modelDump
      · have kept : recordOf (strategyPk strategy.strategyId) (some old.modelDump)
            (some strategy.modelDump) = none := if_pos same
        rw [kept, ← same]
        exact Decided.quiet (.present named oldOwned agrees)
      · have changed : recordOf (strategyPk strategy.strategyId) (some old.modelDump)
            (some strategy.modelDump) = some
              { eventName := .modify, newImage := rowImage strategy, oldImage := rowImage old } := by
          refine (if_neg same).trans ?_
          unfold rowImage
          rw [named]
        rw [changed]
        refine Decided.single (classifyRecord_modify owned) (.present rfl owned ?_)
        by_cases steady : old.status = strategy.status
        · rw [if_pos steady, ← steady]
          exact agrees
        · rw [if_neg steady]
          cases strategy.status with
          | active => rfl
          | paused => simp [Agrees, Action.ofStatus]
          | stopped => exact Or.inr rfl

theorem decided_remove {strategyId : String} {table : Table} {last : Option Action}
    (tracked : Tracked strategyId last (table.getItem (strategyPk strategyId))) :
    Decided strategyId last none (recordOfChange table (.remove strategyId)) := by
  have removed : (RowChange.apply table (.remove strategyId)).getItem (strategyPk strategyId) =
      none := Table.getItem_deleteItem_self _ _
  unfold recordOfChange
  simp only [RowChange.pk, removed]
  generalize table.getItem (strategyPk strategyId) = row at tracked
  cases tracked with
  | absent quiet => exact Decided.quiet (.absent quiet)
  | @present old named oldOwned agrees =>
      subst named
      exact Decided.single (classifyRecord_remove oldOwned) (.absent (Or.inr rfl))

def RowChange.strategyId : RowChange → String
  | .put strategy => strategy.strategyId
  | .remove strategyId => strategyId

theorem getItem_apply_of_ne (table : Table) {change : RowChange} {strategyId : String}
    (different : strategyId ≠ change.strategyId) :
    (change.apply table).getItem (strategyPk strategyId) =
      table.getItem (strategyPk strategyId) := by
  have apart : strategyPk strategyId ≠ strategyPk change.strategyId :=
    fun same => different (strategyPk_inj.mp same)
  cases change with
  | put strategy => exact Table.getItem_putItem_of_ne table _ apart
  | remove removed => exact Table.getItem_deleteItem_of_ne table apart

theorem decided_change {change : RowChange} (owned : change.Owned) {table : Table}
    {last : Option Action}
    (tracked : Tracked change.strategyId last (table.getItem (strategyPk change.strategyId))) :
    Decided change.strategyId last ((change.apply table).getItem (strategyPk change.strategyId))
      (recordOfChange table change) := by
  cases change with
  | put strategy =>
      show Decided strategy.strategyId last
        ((table.putItem _ _).getItem (strategyPk strategy.strategyId)) _
      rw [Table.getItem_putItem_self]
      exact decided_put owned tracked
  | remove strategyId =>
      show Decided strategyId last
        ((table.deleteItem _).getItem (strategyPk strategyId)) _
      rw [Table.getItem_deleteItem_self]
      exact decided_remove tracked

/-- Along every history the last action asked for on a service follows the row,
and every record can be acted on. -/
theorem tracked_stream {history : List RowChange} (owned : ∀ change ∈ history, change.Owned) :
    (∀ strategyId, Tracked strategyId (lastOf (requested strategyId) (stream Dict.empty history))
      ((Foundation.run RowChange.apply Dict.empty history).getItem (strategyPk strategyId))) ∧
      ∀ record ∈ stream Dict.empty history, Actionable record := by
  induction history using List.reverseRecOn with
  | nil => exact ⟨fun _ => .absent (Or.inl rfl), by simp [stream]⟩
  | append_singleton history change inductionHypothesis =>
      obtain ⟨tracked, actionable⟩ := inductionHypothesis fun earlier member =>
        owned earlier (List.mem_append_left _ member)
      have decided := decided_change (owned change (by simp)) (tracked change.strategyId)
      rw [stream_concat, run_append]
      constructor
      · intro strategyId
        rw [lastOf_append]
        by_cases same : strategyId = change.strategyId
        · rw [same]
          exact decided.tracked
        · have silent : lastOf (requested strategyId) (recordOfChange
              (Foundation.run RowChange.apply Dict.empty history) change) = none := by
            unfold lastOf
            rw [List.filterMap_eq_nil_iff.mpr fun record member =>
              requested_of_ne (decided.named record member) same]
            rfl
          rw [silent, Option.none_or]
          refine Eq.subst (Eq.symm ?_) (tracked strategyId)
          exact getItem_apply_of_ne _ same
      · intro record member
        rcases List.mem_append.mp member with earlier | new
        · exact actionable record earlier
        · refine ⟨fun absent => ?_, fun _ => decided.owned record new⟩
          cases absent.symm.trans (decided.named record new)

/-! ### Convergence -/

/-- The container service after the batches, from one without services. -/
def afterBatches (config : Config) (batches : List (List StreamRecord)) : Ecs :=
  batches.foldl (fun ecs records => (Program.run EcsOp.apply (run config records) ecs).2) {}

theorem afterBatches_eq (config : Config) (batches : List (List StreamRecord)) :
    afterBatches config batches =
      (batches.flatten.map classifyRecord).foldl (settle config) {} := by
  unfold afterBatches
  generalize ({} : Ecs) = ecs
  induction batches generalizing ecs with
  | nil => rfl
  | cons records rest inductionHypothesis =>
      rw [List.foldl_cons, inductionHypothesis, run_batch, List.flatten_cons, List.map_append,
        List.foldl_append]

/-- The services match the rows: exactly the active strategies run, and stopped
and removed ones have no service. -/
structure Converged (table : Table) (ecs : Ecs) : Prop where
  runs_iff : ∀ strategyId, ecs.Runs (serviceNameFor strategyId) ↔ RowIs table strategyId .active
  stopped : ∀ strategyId, RowIs table strategyId .stopped →
    ecs.service? (serviceNameFor strategyId) = none
  removed : ∀ strategyId, table.getItem (strategyPk strategyId) = none →
    ecs.service? (serviceNameFor strategyId) = none

theorem rowIs_of_present {table : Table} {strategyId : String} {strategy : Strategy}
    (present : table.getItem (strategyPk strategyId) = some strategy.modelDump)
    (status : StrategyStatus) : RowIs table strategyId status ↔ strategy.status = status := by
  have stored : strategy.modelDump.attr? "status" = some (.text strategy.status.value) := rfl
  constructor
  · rintro ⟨item, found, isStatus⟩
    obtain rfl := Option.some.inj (present.symm.trans found)
    exact value_inj (Attr.text.inj (Option.some.inj (stored.symm.trans isStatus)))
  · rintro rfl
    exact ⟨_, present, stored⟩

/-- After any history of changes to strategy rows, delivered in order and at
least once in batches of any size, the services match the rows. -/
theorem converged_of_delivers (config : Config) {history : List RowChange}
    (owned : ∀ change ∈ history, change.Owned) {deliveries : List (Delivery StreamRecord)}
    (delivers : Delivers deliveries (stream Dict.empty history)) :
    Converged (Foundation.run RowChange.apply Dict.empty history)
      (afterBatches config (batches deliveries)) := by
  obtain ⟨tracked, actionable⟩ := tracked_stream owned
  have redelivered : ∀ record ∈ (batches deliveries).flatten, Actionable record :=
    fun record member => actionable record (mem_of_mem_batches delivers member)
  have reflects := (reflects_of_settled config redelivered).2
  rw [← afterBatches_eq] at reflects
  simp only [lastOf_batches _ delivers] at reflects
  generalize afterBatches config (batches deliveries) = ecs at reflects
  have runs_iff : ∀ strategyId, ecs.Runs (serviceNameFor strategyId) ↔
      ∃ count, desired? ecs (serviceNameFor strategyId) = some count ∧ 1 ≤ count := by
    intro strategyId
    unfold Ecs.Runs desired?
    cases ecs.service? (serviceNameFor strategyId) <;> simp
  have gone : ∀ strategyId, desired? ecs (serviceNameFor strategyId) = none →
      ecs.service? (serviceNameFor strategyId) = none :=
    fun strategyId none => Option.map_eq_none_iff.mp none
  refine ⟨fun strategyId => ?_, fun strategyId isStopped => ?_, fun strategyId isRemoved => ?_⟩
  · rw [runs_iff, (reflects strategyId).1]
    have row := tracked strategyId
    generalize found : Table.getItem _ (strategyPk strategyId) = stored at row
    cases row with
    | absent quiet =>
        refine iff_of_false ?_ fun ⟨item, present, _⟩ => by cases found.symm.trans present
        rcases quiet with quiet | quiet <;> simp [quiet]
    | @present strategy named hasOrg agrees =>
        rw [rowIs_of_present found]
        generalize lastOf (requested strategyId) (stream Dict.empty history) = last at agrees
        cases status : strategy.status with
        | active => simpa [status, Agrees] using agrees
        | paused => simpa [status, Agrees] using agrees
        | stopped =>
            rw [status] at agrees
            rcases agrees with agrees | agrees <;> simp [agrees]
  · have row := tracked strategyId
    generalize found : Table.getItem _ (strategyPk strategyId) = stored at row
    cases row with
    | absent quiet => exact gone strategyId ((reflects strategyId).2 quiet)
    | @present strategy named hasOrg agrees =>
        rw [rowIs_of_present found] at isStopped
        rw [isStopped] at agrees
        exact gone strategyId ((reflects strategyId).2 agrees)
  · have row := tracked strategyId
    rw [isRemoved] at row
    cases row with
    | absent quiet => exact gone strategyId ((reflects strategyId).2 quiet)

/-- A strategy that is created running, paused and stopped. -/
def pausedAndStopped : List RowChange :=
  let momentum : Strategy :=
    { strategyId := "s1", orgId := "acme", authorUserId := "u1", name := "momentum", markdown := ""
      createdAt := 1, updatedAt := 1 }
  [.put momentum, .put { momentum with status := .paused, updatedAt := 2 },
    .put { momentum with status := .stopped, updatedAt := 3 }]

/-- Its first record comes three times, the other two in one batch. -/
theorem converged_of_delivers_replayed :
    Converged (Foundation.run RowChange.apply Dict.empty pausedAndStopped)
      (afterBatches { baseTaskDefinitionFamily := "bot", containerImage := "ts" }
        (batches [{ items := (stream Dict.empty pausedAndStopped).take 1, replays := 2 },
          { items := (stream Dict.empty pausedAndStopped).drop 1 }])) :=
  converged_of_delivers _ (by decide) (by
    simp only [Delivers, List.flatMap_cons, List.flatMap_nil, List.append_nil,
      List.take_append_drop])

end TradingStrands.StrategySupervisor
