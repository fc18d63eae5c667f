import TradingStrands.Coordinator.Calls
import TradingStrands.Foundation.Runs

/-!
Owns the multi-layer halt gate along any sequence of halt writes and calls. The
abstract side is the history alone: the last system write and the last write of
each organisation. The table refines it, and the gate of a call reads nothing
else.

Does not own: the kill switches of the risk manager.
-/

namespace TradingStrands

open TradingStrands.Foundation

variable {β : Type}

/-- One operation of a history. -/
inductive HaltOp (β : Type)
  | setOrgHalt (stamp : HaltStore.Stamp) (orgId : OrgId) (halted : Bool) (reason : String)
  | setSystemHalt (stamp : HaltStore.Stamp) (halted : Bool) (reason : String)
  | perform (call : Call β)

namespace HaltOp

def apply (system : System β) : HaltOp β → System β
  | setOrgHalt stamp orgId halted reason =>
      { system with table := HaltStore.setOrgHalt system.table stamp orgId halted reason }
  | setSystemHalt stamp halted reason =>
      { system with table := HaltStore.setSystemHalt system.table stamp halted reason }
  | perform call => system.perform call

/-! ### What the history says -/

/-- The last system write of a history; not halted if there was none. -/
def lastSystemHalt (history : List (HaltOp β)) : Bool :=
  history.foldl (fun flag op => match op with
    | setSystemHalt _ halted _ => halted
    | _ => flag) false

/-- The last write for an organisation; not halted if there was none. -/
def lastOrgHalt (orgId : OrgId) (history : List (HaltOp β)) : Bool :=
  history.foldl (fun flag op => match op with
    | setOrgHalt _ written halted _ => if written = orgId then halted else flag
    | _ => flag) false

/-- Neither layer halts the organisation. -/
def Open (orgId : OrgId) (history : List (HaltOp β)) : Prop :=
  lastSystemHalt history = false ∧ lastOrgHalt orgId history = false

theorem lastSystemHalt_append (history : List (HaltOp β)) (op : HaltOp β) :
    lastSystemHalt (history ++ [op]) = match op with
      | setSystemHalt _ halted _ => halted
      | _ => lastSystemHalt history := by
  unfold lastSystemHalt
  rw [List.foldl_append]
  rfl

theorem lastOrgHalt_append (orgId : OrgId) (history : List (HaltOp β)) (op : HaltOp β) :
    lastOrgHalt orgId (history ++ [op]) = match op with
      | setOrgHalt _ written halted _ => if written = orgId then halted else lastOrgHalt orgId history
      | _ => lastOrgHalt orgId history := by
  unfold lastOrgHalt
  rw [List.foldl_append]
  rfl

/-! ### The table refines the history -/

theorem getSystemState_perform (system : System β) (call : Call β) :
    HaltStore.getSystemState (system.perform call).table =
      HaltStore.getSystemState system.table := by
  unfold HaltStore.getSystemState System.perform
  rw [getItem_execute]
  · exact HaltStore.systemHaltPk_ne_of_get (LedgerStore.snapshotPk_get _) (by decide)
  · exact HaltStore.systemHaltPk_ne_of_get (LedgerStore.eventPk_get _ _ _) (by decide)

theorem getOrgState_perform (system : System β) (call : Call β) (orgId : OrgId) :
    HaltStore.getOrgState (system.perform call).table orgId =
      HaltStore.getOrgState system.table orgId := by
  unfold HaltStore.getOrgState System.perform
  rw [getItem_execute]
  · exact HaltStore.orgHaltPk_ne_of_get (LedgerStore.snapshotPk_get _) (by decide) orgId
  · exact HaltStore.orgHaltPk_ne_of_get (LedgerStore.eventPk_get _ _ _) (by decide) orgId

/-- The flags in the table are the last writes of the history. -/
structure Refines (history : List (HaltOp β)) (system : System β) : Prop where
  configured : system.coordinator.haltStore = true
  systemFlag : HaltStore.isSystemHalted system.table = lastSystemHalt history
  orgFlag : ∀ orgId, HaltStore.isOrgHalted system.table orgId = lastOrgHalt orgId history

/-- Each operation moves table and history together. -/
theorem Refines.apply {history : List (HaltOp β)} {system : System β}
    (refines : Refines history system) (op : HaltOp β) :
    Refines (history ++ [op]) (HaltOp.apply system op) := by
  cases op with
  | setOrgHalt stamp orgId halted reason =>
      refine ⟨refines.configured, ?_, fun other => ?_⟩
      · rw [lastSystemHalt_append, ← refines.systemFlag]
        exact congrArg HaltStore.HaltState.halted
          (HaltStore.getSystemState_setOrgHalt system.table stamp orgId halted reason)
      · rw [lastOrgHalt_append]
        by_cases same : orgId = other
        · subst same
          simp only [if_true]
          exact HaltStore.isOrgHalted_setOrgHalt_self system.table stamp orgId halted reason
        · simp only [if_neg same]
          rw [← refines.orgFlag]
          exact congrArg HaltStore.HaltState.halted
            (HaltStore.getOrgState_setOrgHalt_of_ne system.table stamp halted reason (Ne.symm same))
  | setSystemHalt stamp halted reason =>
      refine ⟨refines.configured, ?_, fun other => ?_⟩
      · rw [lastSystemHalt_append]
        exact HaltStore.isSystemHalted_setSystemHalt system.table stamp halted reason
      · rw [lastOrgHalt_append, ← refines.orgFlag]
        exact congrArg HaltStore.HaltState.halted
          (HaltStore.getOrgState_setSystemHalt system.table stamp other halted reason)
  | perform call =>
      refine ⟨?_, ?_, fun other => ?_⟩
      · exact (haltStore_execute system call.env call.intent).trans refines.configured
      · rw [lastSystemHalt_append, ← refines.systemFlag]
        exact congrArg HaltStore.HaltState.halted (getSystemState_perform system call)
      · rw [lastOrgHalt_append, ← refines.orgFlag]
        exact congrArg HaltStore.HaltState.halted (getOrgState_perform system call other)

/-- The table refines the history along every run. -/
theorem refines_run {start : System β} (configured : start.coordinator.haltStore = true)
    (clear : ∀ orgId, HaltStore.isEffectiveHalted start.table orgId = false)
    (history : List (HaltOp β)) : Refines history (run HaltOp.apply start history) := by
  induction history using List.reverseRecOn with
  | nil =>
      have split (orgId : OrgId) := Bool.or_eq_false_iff.mp (clear orgId)
      exact ⟨configured, (split "").1, fun orgId => (split orgId).2⟩
  | append_singleton history op inductionHypothesis =>
      rw [run_append]
      exact inductionHypothesis.apply op

/-! ### The gate of a call -/

/-- With succeeding reads the gate passes exactly the open organisations. -/
theorem Refines.haltGate_iff {history : List (HaltOp β)} {system : System β}
    (refines : Refines history system) (intent : TradeIntent) :
    haltGate system {} intent = .ok none ↔ Open intent.orgId history := by
  unfold haltGate HaltStore.isEffectiveHalted Open
  rw [refines.systemFlag, refines.orgFlag, ← Bool.or_eq_false_iff]
  cases lastSystemHalt history || lastOrgHalt intent.orgId history with
  | true => simp [refines.configured]
  | false => simp

/-- A halted organisation is rejected with a reason. -/
theorem Refines.haltGate_rejects {history : List (HaltOp β)} {system : System β}
    (refines : Refines history system) {intent : TradeIntent}
    (halted : ¬ Open intent.orgId history) :
    ∃ reason, haltGate system {} intent =
      .ok (some
        { intent, riskDecision := some (RiskManager.reject intent ("halted: " ++ reason)) }) := by
  unfold Open at halted
  rw [← Bool.or_eq_false_iff, Bool.not_eq_false] at halted
  unfold haltGate HaltStore.isEffectiveHalted
  rw [refines.systemFlag, refines.orgFlag, halted, refines.configured]
  exact ⟨_, rfl⟩

/-- The gate depends on the flags of the intent's organisation only. -/
theorem haltGate_setOrgHalt_of_ne (system : System β) (reads : HaltReads) (intent : TradeIntent)
    (stamp : HaltStore.Stamp) {orgId : OrgId} (halted : Bool) (reason : String)
    (different : intent.orgId ≠ orgId) :
    haltGate (HaltOp.apply system (.setOrgHalt stamp orgId halted reason)) reads intent =
      haltGate system reads intent := by
  unfold haltGate HaltOp.apply HaltStore.isEffectiveHalted HaltStore.getEffectiveReason
    HaltStore.isSystemHalted HaltStore.isOrgHalted
  simp only [HaltStore.getSystemState_setOrgHalt,
    HaltStore.getOrgState_setOrgHalt_of_ne system.table stamp halted reason different]

end HaltOp

/-! ### A call over another table -/

private theorem executeBegin_table {system : System β} {table : Table} {reads : HaltReads}
    {intent : TradeIntent} (factory : Except String β)
    (same : haltGate { system with table := table } reads intent = haltGate system reads intent) :
    executeBegin { system with table := table } intent reads factory =
      ({ (executeBegin system intent reads factory).1 with table := table },
        (executeBegin system intent reads factory).2) := by
  unfold executeBegin
  rw [same]
  have ledgers : ({ system with table := table } : System β).ledger? intent.botId =
      system.ledger? intent.botId := rfl
  rw [ledgers]
  cases system.ledger? intent.botId with
  | none => rfl
  | some ledger =>
      by_cases idle : intent.action = .hold ∨ intent.action = .noop
      · simp only [if_pos idle]
      · simp only [if_neg idle]
        rcases haltGate system reads intent with error | (- | rejected)
        · rfl
        · rcases system.coordinator.brokerFor intent.orgId factory with ⟨coordinator, error | broker⟩
          · cases error <;> rfl
          · rfl
        · rfl

private theorem bookFill_table (system : System β) (table : Table) (botId : BotId)
    (ledger : Ledger) (fill : Fill) (write : LedgerStore.WriteEnv) :
    (bookFill { system with table := table } botId ledger fill write).2 =
      (bookFill system botId ledger fill write).2 := by
  unfold bookFill
  cases system.coordinator.ledgerStore with
  | none => rfl
  | some store => exact store.recordAndPersist_table table system.table botId ledger fill write

private theorem executeAnswered_table (system : System β) (table : Table) (intent : TradeIntent)
    (decision : RiskDecision) (answer : Except PyError OrderResult)
    (write : LedgerStore.WriteEnv) :
    (executeAnswered { system with table := table } intent decision answer write).2 =
        (executeAnswered system intent decision answer write).2 ∧
      (executeAnswered { system with table := table } intent decision answer write).1.coordinator =
        (executeAnswered system intent decision answer write).1.coordinator := by
  unfold executeAnswered recordFill
  have ledgers : ({ system with table := table } : System β).ledger? intent.botId =
      system.ledger? intent.botId := rfl
  cases answer with
  | error error => exact ⟨rfl, rfl⟩
  | ok result =>
      by_cases nothing : result.filledQuantity ≤ 0
      · simp only [if_pos nothing, and_self]
      · simp only [if_neg nothing, ledgers]
        cases system.ledger? intent.botId with
        | none => exact ⟨rfl, rfl⟩
        | some ledger =>
            simp only [bookFill_table, coordinator_bookFill, true_and]
            rfl

/-- A call over another table takes the same course if its halt gate does. -/
theorem execute_table {system : System β} {table : Table} {env : CallEnv β} {intent : TradeIntent}
    (same : haltGate { system with table := table } env.reads intent =
      haltGate system env.reads intent) :
    (execute { system with table := table } env intent).2 = (execute system env intent).2 ∧
      (execute { system with table := table } env intent).1.coordinator =
        (execute system env intent).1.coordinator := by
  unfold execute
  rw [executeBegin_table env.factory same]
  rcases executeBegin system intent env.reads env.factory with ⟨after, error | result | ⟨broker, symbols⟩⟩
  · exact ⟨rfl, rfl⟩
  · exact ⟨rfl, rfl⟩
  · have ledgers : ({ after with table := table } : System β).ledger? intent.botId =
        after.ledger? intent.botId := rfl
    simp only [ledgers]
    cases after.ledger? intent.botId with
    | none => exact ⟨rfl, rfl⟩
    | some ledger =>
        simp only
        cases executePriced after.coordinator.riskManager intent ledger
            (getMarketPrices (env.quote broker) symbols) with
        | raised error => exact ⟨rfl, rfl⟩
        | rejected result => exact ⟨rfl, rfl⟩
        | submitting order decision =>
            obtain ⟨outcome, coordinator⟩ := executeAnswered_table after table intent decision
              (env.submit broker order) env.write
            simp only [outcome, coordinator, and_self]

/-! ### Every history -/

namespace HaltOp

/-- What the gate guarantees after a history, for any next call whose halt reads
succeed. -/
structure Guards (history : List (HaltOp β)) (system : System β) : Prop where
  /-- An order is submitted only if neither layer halts its organisation. -/
  submitted : ∀ call : Call β, call.env.reads = {} →
    (execute system call.env call.intent).2.submitted ≠ none → Open call.intent.orgId history
  /-- The gate rejects no intent of an open organisation. -/
  passes : ∀ intent : TradeIntent, Open intent.orgId history → haltGate system {} intent = .ok none
  /-- A trade of a halted organisation is rejected and changes nothing. -/
  rejects : ∀ call : Call β, call.env.reads = {} → ¬ Open call.intent.orgId history →
    call.intent.action ≠ .hold ∧ call.intent.action ≠ .noop →
      (∃ ledger, system.ledger? call.intent.botId = some ledger) →
        ∃ reason, execute system call.env call.intent =
          (system, ⟨.ok
            { intent := call.intent
              riskDecision := some (RiskManager.reject call.intent ("halted: " ++ reason)) }, none⟩)
  /-- A halt write for another organisation changes neither the outcome of a
  call nor the ledgers and brokers it leaves behind. -/
  isolated : ∀ (call : Call β) (stamp : HaltStore.Stamp) (orgId : OrgId) (halted : Bool)
    (reason : String), call.intent.orgId ≠ orgId →
      (execute (HaltOp.apply system (.setOrgHalt stamp orgId halted reason)) call.env call.intent).2 =
          (execute system call.env call.intent).2 ∧
        (execute (HaltOp.apply system (.setOrgHalt stamp orgId halted reason)) call.env
            call.intent).1.coordinator =
          (execute system call.env call.intent).1.coordinator
  /-- An organisation's unhalt leaves the system halt alone. -/
  orgUnhalt : ∀ (stamp : HaltStore.Stamp) (orgId : OrgId) (reason : String),
    HaltStore.isSystemHalted (HaltOp.apply system (.setOrgHalt stamp orgId false reason)).table =
      HaltStore.isSystemHalted system.table
  /-- A system unhalt leaves every organisation's halt alone. -/
  systemUnhalt : ∀ (stamp : HaltStore.Stamp) (orgId : OrgId) (reason : String),
    HaltStore.isOrgHalted (HaltOp.apply system (.setSystemHalt stamp false reason)).table orgId =
      HaltStore.isOrgHalted system.table orgId

theorem Refines.guards {history : List (HaltOp β)} {system : System β}
    (refines : Refines history system) : Guards history system where
  submitted := by
    intro call reads submitted
    obtain ⟨⟨broker, order⟩, same⟩ := Option.ne_none_iff_exists'.mp submitted
    obtain ⟨-, ledger, prices, submits⟩ := submitted_iff.mp same
    have gate := submits.gate
    rw [reads] at gate
    exact (refines.haltGate_iff call.intent).mp gate
  passes := fun intent => (refines.haltGate_iff intent).mpr
  rejects := by
    intro call reads halted trades ⟨ledger, registered⟩
    obtain ⟨reason, gate⟩ := refines.haltGate_rejects halted
    have notIdle : ¬ (call.intent.action = .hold ∨ call.intent.action = .noop) := by
      simp [trades]
    refine ⟨reason, ?_⟩
    unfold execute executeBegin
    rw [reads]
    simp only [registered, if_neg notIdle, gate]
  isolated := fun call stamp _ halted reason different =>
    execute_table (haltGate_setOrgHalt_of_ne system call.env.reads call.intent stamp halted reason
      different)
  orgUnhalt := fun stamp orgId reason => congrArg HaltStore.HaltState.halted
    (HaltStore.getSystemState_setOrgHalt system.table stamp orgId false reason)
  systemUnhalt := fun stamp orgId reason => congrArg HaltStore.HaltState.halted
    (HaltStore.getOrgState_setSystemHalt system.table stamp orgId false reason)

/-- After every history of halt writes and calls, over any organisations, the
flags are the last writes and the gate enforces them. -/
theorem haltGate_guards {start : System β} (configured : start.coordinator.haltStore = true)
    (clear : ∀ orgId, HaltStore.isEffectiveHalted start.table orgId = false)
    (history : List (HaltOp β)) :
    Refines history (run HaltOp.apply start history) ∧
      Guards history (run HaltOp.apply start history) :=
  ⟨refines_run configured clear history, (refines_run configured clear history).guards⟩

/-- A system halt and an organisation's unhalt after it. -/
theorem haltGate_guards_unhalt :
    let start : System Unit := { coordinator := { haltStore := true } }
    let history : List (HaltOp Unit) :=
      [.setSystemHalt {} true "", .setOrgHalt {} "org" false ""]
    Refines history (run HaltOp.apply start history) ∧
      Guards history (run HaltOp.apply start history) :=
  haltGate_guards rfl (fun _ => rfl) _

end HaltOp

end TradingStrands
