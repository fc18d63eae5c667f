import TradingStrands.App.Strategies
import TradingStrands.Desk.Liquidation

/-!
Owns the agreement between the ledgers in memory and the ledger store along
interleavings whose table writes succeed. A trade books its fill through the
store; a liquidation books past it, so the agreement survives exactly as long
as no liquidation fill is booked and the store can take the fills of the trades
(`Persists`).
-/

namespace TradingStrands

open TradingStrands.Foundation LedgerStore

variable {β : Type}

/-- The store agrees with a ledger: a row for every fill of its history and,
once there is one, a snapshot that loads as the ledger. -/
structure Stored (table : Table) (botId : BotId) (ledger : Ledger) : Prop where
  rows : (eventRows table botId).length = ledger.orderHistory.length
  snapshot : ledger.orderHistory ≠ [] → loadSnapshot table botId = .ok (some ledger)

/-- The store agrees with every ledger. -/
def System.Durable (system : System β) : Prop :=
  ∀ botId ledger, system.ledger? botId = some ledger → Stored system.table botId ledger

/-- A restart now would lose no fill. -/
def System.Restarts (system : System β) : Prop :=
  ∀ botId ledger, system.ledger? botId = some ledger → ledger.orderHistory ≠ [] →
    ∀ capital, registerStrategy system.table botId capital = .ok ledger

theorem System.Durable.restarts {system : System β} (durable : system.Durable) :
    system.Restarts := by
  intro botId ledger registered filled capital
  unfold registerStrategy
  rw [(durable botId ledger registered).snapshot filled]

theorem System.Durable.congr {before after : System β} (durable : before.Durable)
    (table : after.table = before.table)
    (ledgers : ∀ botId, after.ledger? botId = before.ledger? botId) : after.Durable := by
  intro botId ledger registered
  rw [ledgers] at registered
  rw [table]
  exact durable botId ledger registered

/-! ### Booking through the store -/

/-- The mark after booking the fill reloads as it is. -/
def Ledger.MarkReloads (ledger : Ledger) (fill : Fill) : Prop :=
  max ledger.highWaterMark (ledger.equity + ledger.gain fill) = 0 → ledger.startingCapital = 0

/-- Where the capital is not negative and the mark never below it, every mark reloads. -/
theorem Ledger.markReloads_of_nonneg {ledger : Ledger} (fill : Fill)
    (capital : 0 ≤ ledger.startingCapital) (mark : ledger.startingCapital ≤ ledger.highWaterMark) :
    ledger.MarkReloads fill := by
  intro zero
  have below : ledger.highWaterMark ≤ 0 := (le_max_left _ _).trans zero.le
  exact le_antisymm (mark.trans below) capital

/-- The store can take the fill: the ledger covers it, its event key is not
taken, and the mark reloads. -/
structure Storable (table : Table) (botId : BotId) (ledger : Ledger) (fill : Fill)
    (write : WriteEnv) : Prop where
  covered : ledger.Covers fill
  fresh : table.getItem (eventPk botId write.eventAt write.suffix) = none
  mark : ledger.MarkReloads fill

instance (ledger : Ledger) (fill : Fill) : Decidable (ledger.MarkReloads fill) :=
  inferInstanceAs (Decidable (_ → _))

instance (table : Table) (botId : BotId) (ledger : Ledger) (fill : Fill) (write : WriteEnv) :
    Decidable (Storable table botId ledger fill write) :=
  decidable_of_iff (ledger.Covers fill ∧
      table.getItem (eventPk botId write.eventAt write.suffix) = none ∧ ledger.MarkReloads fill)
    ⟨fun ⟨covered, fresh, mark⟩ => ⟨covered, fresh, mark⟩,
      fun ⟨covered, fresh, mark⟩ => ⟨covered, fresh, mark⟩⟩

theorem reloads_recordFill_iff {ledger : Ledger} {fill : Fill}
    (booked : (ledger.recordFill fill).2 = .ok ()) :
    (ledger.recordFill fill).1.Reloads ↔ ledger.MarkReloads fill := by
  obtain ⟨capital, mark⟩ := Ledger.marks_recordFill booked
  unfold Ledger.Reloads Ledger.MarkReloads
  rw [capital, mark]

/-- A fill the store can take is stored with its ledger, and no other is. -/
theorem stored_recordAndPersist_iff {store : LedgerStore} {table : Table} {botId : BotId}
    {ledger : Ledger} {fill : Fill} {write : WriteEnv} (sound : ledger.Sound)
    (positive : 0 < fill.quantity) (succeeds : write.Succeeds)
    (stored : Stored table botId ledger) :
    Stored (store.recordAndPersist table botId ledger fill write).2.1 botId
        (ledger.recordFill fill).1 ↔
      Storable table botId ledger fill write := by
  have history : (ledger.recordFill fill).1.orderHistory.length = ledger.orderHistory.length + 1 := by
    rw [Ledger.orderHistory_recordFill, List.length_append, List.length_singleton]
  by_cases covered : ledger.Covers fill
  · have booked := (Ledger.recordFill_books sound positive covered).1
    rw [recordAndPersist_booked succeeds booked]
    by_cases fresh : table.getItem (eventPk botId write.eventAt write.suffix) = none
    · have filled : (ledger.recordFill fill).1.orderHistory ≠ [] := by
        rw [Ledger.orderHistory_recordFill]
        simp
      have loads := loadSnapshot_saveSnapshot_self
        (store.appendEvent table botId fill write.eventAt write.suffix) botId
        (ledger.recordFill fill).1 write.savedAt
      constructor
      · rintro ⟨-, snapshot⟩
        have same := (loads.symm.trans (snapshot filled))
        rw [Except.ok.injEq, Option.some.injEq, Ledger.modelValidate_eq_iff,
          reloads_recordFill_iff booked] at same
        exact ⟨covered, fresh, same⟩
      · rintro ⟨-, -, mark⟩
        refine ⟨?_, fun _ => ?_⟩
        · rw [eventRows_saveSnapshot, eventRows_appendEvent_fresh _ _ _ _ _ _ fresh,
            List.length_append, stored.rows, history]
          rfl
        · rw [loads, (Ledger.modelValidate_eq_iff _).mpr ((reloads_recordFill_iff booked).mpr mark)]
    · refine iff_of_false ?_ fun storable => fresh storable.fresh
      rintro ⟨rows, -⟩
      rw [eventRows_saveSnapshot, length_eventRows_appendEvent_present _ _ _ _ _ _ fresh,
        stored.rows, history] at rows
      omega
  · refine iff_of_false ?_ fun storable => covered storable.covered
    rintro ⟨rows, -⟩
    obtain ⟨⟨error, raised⟩, -⟩ := Ledger.recordFill_uncovered covered
    rw [recordAndPersist_raised raised, stored.rows, history] at rows
    omega

/-- What is stored of one bot does not depend on the fills of another. -/
theorem Stored.recordAndPersist_of_ne {store : LedgerStore} {table : Table} {botId other : BotId}
    {ledger otherLedger : Ledger} {fill : Fill} {write : WriteEnv} (succeeds : write.Succeeds)
    (free : FreeOf '#' botId) (otherFree : FreeOf '#' other) (different : other ≠ botId)
    (stored : Stored table other otherLedger) :
    Stored (store.recordAndPersist table botId ledger fill write).2.1 other otherLedger := by
  rcases outcome : (ledger.recordFill fill).2 with error | ⟨⟩
  · rw [recordAndPersist_raised outcome]
    exact stored
  · rw [recordAndPersist_booked succeeds outcome]
    refine ⟨?_, fun filled => ?_⟩
    · rw [eventRows_saveSnapshot, eventRows_appendEvent_of_ne _ _ _ _ _ free otherFree different]
      exact stored.rows
    · rw [loadSnapshot_saveSnapshot_of_ne _ _ _ different, loadSnapshot_appendEvent]
      exact stored.snapshot filled

/-- No bot's id has the separator of the key families in it. -/
def System.PlainIds (system : System β) : Prop :=
  ∀ botId ledger, system.ledger? botId = some ledger → FreeOf '#' botId

/-- Booking through the store keeps the agreement exactly for fills it can take. -/
theorem durable_bookFill_iff {system : System β} {store : LedgerStore}
    (configured : system.coordinator.ledgerStore = some store) (plain : system.PlainIds)
    {botId : BotId} {ledger : Ledger} (registered : system.ledger? botId = some ledger)
    (sound : ledger.Sound) {fill : Fill} (positive : 0 < fill.quantity) {write : WriteEnv}
    (succeeds : write.Succeeds) (durable : system.Durable) :
    (bookFill system botId ledger fill write).1.Durable ↔
      Storable system.table botId ledger fill write := by
  have table : (bookFill system botId ledger fill write).1.table =
      (store.recordAndPersist system.table botId ledger fill write).2.1 := by
    simp only [bookFill, configured]
  rw [← stored_recordAndPersist_iff sound positive succeeds (durable botId ledger registered)]
  constructor
  · intro after
    rw [← table]
    refine after botId _ ?_
    rw [ledger?_bookFill, if_pos rfl]
  · intro stored other otherLedger found
    rw [ledger?_bookFill] at found
    rw [table]
    by_cases same : other = botId
    · rw [if_pos same, Option.some.injEq] at found
      rw [same, ← found]
      exact stored
    · rw [if_neg same] at found
      exact (durable other otherLedger found).recordAndPersist_of_ne succeeds
        (plain botId ledger registered) (plain other otherLedger found) same

/-- A liquidation fill is in no row of the store, so booking one ends the agreement. -/
theorem not_durable_recordLiquidation {system : System β} (durable : system.Durable)
    {sale : Selling} {result : OrderResult} (positive : 0 < result.filledQuantity)
    (registered : ∃ ledger, system.ledger? sale.botId = some ledger) :
    ¬ (recordLiquidation system sale result).1.Durable := by
  intro after
  obtain ⟨ledger, found⟩ := registered
  rcases recordLiquidation_cases system sale result with ⟨-, absent⟩ | ⟨other, -, found', same⟩
  · rw [absent positive] at found
    exact absurd found (by simp)
  · rw [same] at after
    have rows := (after sale.botId _ ((system.ledger?_setLedger _ _ _).trans (if_pos rfl))).rows
    have before := (durable sale.botId other found').rows
    rw [Ledger.orderHistory_recordFill, List.length_append, List.length_singleton] at rows
    have unchanged : (system.setLedger sale.botId (other.recordFill (sale.fill result)).1).table =
        system.table := rfl
    rw [unchanged] at rows
    omega

/-! ### Steps and runs -/

namespace Desk

/-- The writes of a trade that ends succeed. -/
def WritesSucceed (desk : Desk β) : DeskEvent β → Prop
  | .answered id =>
      match desk.tasks.get? id with
      | some (.submitting call _ _ _) => call.env.write.Succeeds
      | _ => True
  | _ => True

instance (desk : Desk β) (event : DeskEvent β) : Decidable (desk.WritesSucceed event) := by
  cases event <;> simp only [WritesSucceed] <;> repeat' split
  all_goals infer_instance

/-- A fill that a trade reports is one the store can take, and no order of a
kill switch reports one. -/
def Persists (desk : Desk β) : DeskEvent β → Prop
  | .answered id =>
      match desk.tasks.get? id with
      | some (.submitting call broker order _) =>
          match call.env.submit broker order, desk.system.ledger? call.intent.botId with
          | .ok result, some ledger =>
              0 < result.filledQuantity → Storable desk.system.table call.intent.botId ledger
                (fillOf call.intent result) call.env.write
          | _, _ => True
      | _ => True
  | .liquidated id answer =>
      match desk.tasks.get? id, answer with
      | some (.selling _ _ _), .ok result => ¬ 0 < result.filledQuantity
      | _, _ => True
  | _ => True

instance (desk : Desk β) (event : DeskEvent β) : Decidable (desk.Persists event) := by
  cases event <;> simp only [Persists] <;> repeat' split
  all_goals infer_instance

/-- The order of a trade is answered. -/
theorem durable_answered_iff {desk : Desk β} {store : LedgerStore} (inv : desk.Inv)
    (configured : desk.system.coordinator.ledgerStore = some store)
    (plain : desk.system.PlainIds) (durable : desk.system.Durable) {call : Call β} {broker : β}
    {order : OrderRequest} {decision : RiskDecision} (succeeds : call.env.write.Succeeds) :
    (executeAnswered desk.system call.intent decision (call.env.submit broker order)
        call.env.write).1.Durable ↔
      match call.env.submit broker order, desk.system.ledger? call.intent.botId with
      | .ok result, some ledger =>
          0 < result.filledQuantity → Storable desk.system.table call.intent.botId ledger
            (fillOf call.intent result) call.env.write
      | _, _ => True := by
  unfold executeAnswered recordFill
  cases call.env.submit broker order with
  | error error => exact iff_of_true durable trivial
  | ok result =>
      dsimp only
      by_cases nothing : result.filledQuantity ≤ 0
      · rw [if_pos nothing]
        refine iff_of_true durable ?_
        cases desk.system.ledger? call.intent.botId with
        | none => trivial
        | some ledger => exact fun positive => absurd nothing (not_le.mpr positive)
      · rw [if_neg nothing]
        have positive := not_le.mp nothing
        cases registered : desk.system.ledger? call.intent.botId with
        | none => exact iff_of_true durable trivial
        | some ledger =>
            have fill : 0 < (fillOf call.intent result).quantity := positive
            dsimp only
            rw [durable_bookFill_iff configured plain registered (inv.sound _ _ registered) fill
              succeeds durable]
            exact ⟨fun storable _ => storable, fun storable => storable positive⟩

/-- Going on to the next sale books nothing. -/
theorem durable_proceed_iff (desk : Desk β) (id : Nat) (call : KillCall) (watch : Watch)
    (next : Option Selling) :
    (desk.proceed id call watch next).system.Durable ↔ desk.system.Durable := by
  rcases desk.proceed_cases id call watch next with
    ⟨-, same⟩ | ⟨error, same⟩ | ⟨sale, -, same⟩
  · rw [same]
    exact ⟨fun durable => durable.congr rfl fun _ => rfl,
      fun durable => durable.congr rfl fun _ => rfl⟩
  · rw [same]
    exact Iff.rfl
  · rw [same]
    exact Iff.rfl

/-- The order of a kill switch is answered. -/
theorem durable_liquidated_iff {desk : Desk β} (inv : desk.Inv) (durable : desk.system.Durable)
    (id : Nat) (answer : Except PyError OrderResult) :
    (desk.step (.liquidated id answer)).system.Durable ↔ desk.Persists (.liquidated id answer) := by
  rcases desk.step_liquidated id answer with
    ⟨same, idle⟩ | ⟨call, sale, watch, waiting, ⟨error, rfl, same⟩ | ⟨result, rfl, booking⟩⟩
  · rw [same]
    refine iff_of_true durable ?_
    simp only [Persists]
    split
    next call sale watch result waiting => exact absurd waiting (idle call sale watch)
    next => trivial
  · rw [same]
    exact iff_of_true durable (by simp only [Persists, waiting])
  · have after : (desk.step (.liquidated id (.ok result))).system.Durable ↔
        (recordLiquidation desk.system sale result).1.Durable := by
      rcases booking with ⟨error, -, same⟩ | ⟨-, same⟩
      · rw [same]
        exact Iff.rfl
      · rw [same]
        exact durable_proceed_iff _ id call _ _
    have sells : Sells desk.system call watch (some sale) := inv.tasks id _ waiting
    rw [after]
    simp only [Persists, waiting]
    by_cases positive : 0 < result.filledQuantity
    · exact iff_of_false
        (not_durable_recordLiquidation durable positive (sells.registered sale rfl))
        fun nothing => nothing positive
    · unfold recordLiquidation
      rw [if_neg positive]
      exact iff_of_true durable positive

/-- A step keeps the agreement exactly when its fills go through the store. -/
theorem durable_step_iff {desk : Desk β} {store : LedgerStore} {event : DeskEvent β}
    (inv : desk.Inv) (configured : desk.system.coordinator.ledgerStore = some store)
    (plain : desk.system.PlainIds) (durable : desk.system.Durable)
    (writes : desk.WritesSucceed event) :
    (desk.step event).system.Durable ↔ desk.Persists event := by
  cases event with
  | execute id call =>
      refine iff_of_true ?_ trivial
      rcases desk.step_execute id call with same | ⟨cache, begun, same, -⟩
      · rw [same]
        exact durable
      · rw [same]
        exact durable.congr rfl fun _ => rfl
  | quoted id =>
      refine iff_of_true ?_ trivial
      rcases desk.step_quoted id with
        same | ⟨outcome, same⟩ | ⟨_, _, _, _, _, -, same, -⟩ <;> rw [same] <;> exact durable
  | answered id =>
      cases waiting : desk.tasks.get? id with
      | none => simpa only [step, Persists, waiting, iff_true] using durable
      | some task =>
          cases task with
          | submitting call broker order decision =>
              have succeeds : call.env.write.Succeeds := by
                simpa only [WritesSucceed, waiting] using writes
              simp only [step, Persists, waiting, system_setTask, system_book]
              exact durable_answered_iff inv configured plain durable succeeds
          | quoting | finished | selling | returned | raised =>
              simpa only [step, Persists, waiting, iff_true] using durable
  | kill id call =>
      refine iff_of_true ?_ trivial
      rcases desk.step_kill id call with same | ⟨-, same⟩ | same
      · rw [same]
        exact durable
      · rw [same]
        exact durable.congr rfl fun _ => rfl
      · rw [same]
        exact (durable_proceed_iff desk id call _ _).mpr durable
  | liquidated id answer =>
      exact durable_liquidated_iff inv durable id answer

/-- In a process with a ledger store and succeeding writes, under every
interleaving of trades and kill-switch calls: the store agrees with every ledger
at every point, and so a restart there loses no fill, exactly when no
liquidation fill is booked and every fill a trade reports is one the store can
take. -/
theorem durable_iff_persists {start : Desk β} {store : LedgerStore} {events : List (DeskEvent β)}
    (configured : start.system.coordinator.ledgerStore = some store)
    (plain : start.system.PlainIds) (sound : start.system.Sound) (idle : start.tasks = Dict.empty)
    (durable : start.system.Durable) (writes : EachStep step WritesSucceed start events) :
    Always step (fun desk => desk.system.Durable ∧ desk.system.Restarts) start events ↔
      EachStep step Persists start events := by
  have kept : ∀ (desk : Desk β) (event : DeskEvent β),
      (desk.Inv ∧ desk.system.coordinator.ledgerStore = some store ∧ desk.system.PlainIds) →
        desk.WritesSucceed event → (desk.step event).Inv ∧
          (desk.step event).system.coordinator.ledgerStore = some store ∧
          (desk.step event).system.PlainIds := by
    rintro desk event ⟨inv, configured, plain⟩ -
    have keeps := desk.step_keeps event
    refine ⟨inv.step event, keeps.ledgerStore.trans configured, fun botId ledger found => ?_⟩
    have before : (desk.system.ledger? botId).isSome = true := by
      rw [← keeps.bots, found, Option.isSome_some]
    obtain ⟨other, registered⟩ := Option.isSome_iff_exists.mp before
    exact plain botId other registered
  have agrees : Always step (fun desk => desk.system.Durable) start events ↔
      EachStep step Persists start events :=
    always_iff_eachStep_of_kept step kept
      (fun desk event side durable writes => durable_step_iff side.1 side.2.1 side.2.2 durable writes)
      ⟨Inv.initial sound idle, configured, plain⟩ durable writes
  rw [← agrees]
  constructor
  · exact fun always => always.mono step fun _ both => both.1
  · exact fun always => always.mono step fun _ durable => ⟨durable, durable.restarts⟩

/-- One bot without fills, a ledger store over an empty table, and a platform broker. -/
def oneTrader : Desk Unit :=
  { system :=
      { coordinator :=
          { ledgers := Dict.empty.set "bot" (Ledger.ofCapital 1000)
            defaultBroker := some ()
            ledgerStore := some {} } } }

/-- One of the bot's buys, from its beginning to its end. -/
def oneBuy : List (DeskEvent Unit) := [.execute 0 buyOther, .quoted 0, .answered 0]

theorem ledger?_oneTrader {botId : BotId} {ledger : Ledger}
    (found : oneTrader.system.ledger? botId = some ledger) :
    botId = "bot" ∧ ledger = Ledger.ofCapital 1000 := by
  unfold oneTrader System.ledger? at found
  rcases Dict.set_or_get?_of_get?_set found with set | before
  · exact set
  · exact absurd before (by simp)

/-- A trade, and a kill switch that only halts. -/
theorem durable_iff_persists_one_buy :
    Always step (fun desk => desk.system.Durable ∧ desk.system.Restarts) oneTrader
      (oneBuy ++ [.kill 1 { verb := .haltAndStop }]) := by
  refine (durable_iff_persists rfl ?_ ?_ rfl ?_ ?_).mpr ?_
  · intro botId ledger found
    obtain ⟨rfl, -⟩ := ledger?_oneTrader found
    decide
  · intro botId ledger found
    obtain ⟨-, rfl⟩ := ledger?_oneTrader found
    exact Ledger.sound_ofCapital 1000
  · intro botId ledger found
    obtain ⟨rfl, rfl⟩ := ledger?_oneTrader found
    exact ⟨by decide +kernel, fun filled => absurd (by decide +kernel) filled⟩
  · decide +kernel
  · decide +kernel

/-- A liquidation sells the share and only the memory knows. -/
theorem not_durable_liquidation :
    ¬ Always step (fun desk => desk.system.Durable ∧ desk.system.Restarts) oneTrader
      (oneBuy ++ [.kill 1 liquidation, .liquidated 1 (.ok filledOne)]) := by
  intro always
  obtain ⟨durable, -⟩ := always.final
  have history : ((run step oneTrader (oneBuy ++ [.kill 1 liquidation,
      .liquidated 1 (.ok filledOne)])).system.ledger? "bot").map
        (fun ledger => ledger.orderHistory.length) = some 2 := by
    decide +kernel
  have rows : (eventRows (run step oneTrader (oneBuy ++ [.kill 1 liquidation,
      .liquidated 1 (.ok filledOne)])).system.table "bot").length = 1 := by
    decide +kernel
  obtain ⟨ledger, registered, length⟩ := Option.map_eq_some_iff.mp history
  have agrees := (durable "bot" ledger registered).rows
  omega

end Desk

end TradingStrands
