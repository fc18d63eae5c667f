import TradingStrands.Coordinator.Calls
import TradingStrands.Foundation.Runs
import TradingStrands.Risk.KillSwitch

/-!
Owns the interleaving of trades and kill-switch calls on one system. A call gives
up control while it waits for quotes or for a broker, and any other call may run
until then: the state is the shared system and, by id, where each call stands.

A sale waiting for its answer holds references into a ledger that others may
change, so every booking is followed by all waiting sales (`Desk.book`).
-/

namespace TradingStrands

open TradingStrands.Foundation

variable {β : Type}

namespace System

def findPosition (system : System β) (botId : BotId) (symbol : Symbol) : Option Position :=
  (system.ledger? botId).bind fun ledger => ledger.findPosition symbol

/-- What a bot's ledger holds of a symbol. -/
def held (system : System β) (botId : BotId) (symbol : Symbol) : Decimal :=
  match system.ledger? botId with
  | none => 0
  | some ledger => ledger.heldQuantity symbol

/-- The holdings that are larger in the second system. -/
def grownHoldings (before after : System β) : List (BotId × Symbol) :=
  after.coordinator.ledgers.entries.flatMap fun entry =>
    (entry.2.openPositions.filter fun position =>
      before.held entry.1 position.symbol < position.quantity).map fun position =>
        (entry.1, position.symbol)

end System

/-! ### What a booking does to a waiting sale -/

/-- An object that was removed from its ledger keeps its last value. -/
def PosRef.follow (before after : System β) (botId : BotId) : PosRef → PosRef
  | .live symbol =>
      match before.findPosition botId symbol, after.findPosition botId symbol with
      | some position, none => .detached position
      | _, _ => .live symbol
  | .detached position => .detached position

def Selling.follow (before after : System β) (sale : Selling) : Selling :=
  { sale with rest := sale.rest.map (PosRef.follow before after sale.botId) }

/-- What has happened since a kill-switch call began. -/
structure Watch where
  /-- Holdings that some fill made larger. -/
  grown : List (BotId × Symbol) := []
  /-- All orders of the call so far were filled in full. -/
  full : Bool := true

def Watch.note (before after : System β) (watch : Watch) : Watch :=
  { watch with grown := watch.grown ++ before.grownHoldings after }

/-! ### Calls under way -/

/-- Where a call stands. -/
inductive Task (β : Type)
  | quoting (call : Call β) (broker : β) (symbols : List Symbol)
  | submitting (call : Call β) (broker : β) (order : OrderRequest) (decision : RiskDecision)
  | finished (outcome : Except PyError ExecutionResult)
  | selling (call : KillCall) (sale : Selling) (watch : Watch)
  /-- With the ledgers at that moment. -/
  | returned (call : KillCall) (watch : Watch) (ledgers : Dict BotId Ledger)
  | raised (call : KillCall) (error : PyError)

/-- Where a trade stands after its first part. -/
def Begun.task (call : Call β) : Begun β → Task β
  | .raised error => .finished (.error error)
  | .returned result => .finished (.ok result)
  | .quoting broker symbols => .quoting call broker symbols

/-- Where it stands after the prices. -/
def Priced.task (call : Call β) (broker : β) : Priced → Task β
  | .raised error => .finished (.error error)
  | .rejected result => .finished (.ok result)
  | .submitting order decision => .submitting call broker order decision

def Task.follow (before after : System β) : Task β → Task β
  | .selling call sale watch =>
      .selling call (sale.follow before after) (watch.note before after)
  | task => task

structure Desk (β : Type) where
  system : System β
  tasks : Dict Nat (Task β) := Dict.empty

inductive DeskEvent (β : Type)
  /-- A trade begins. -/
  | execute (id : Nat) (call : Call β)
  /-- Its quotes are in. -/
  | quoted (id : Nat)
  /-- The broker has answered its order. -/
  | answered (id : Nat)
  /-- A kill-switch call begins. -/
  | kill (id : Nat) (call : KillCall)
  /-- The broker has answered its order. -/
  | liquidated (id : Nat) (answer : Except PyError OrderResult)

/-- Book the fill a liquidation order reports, past the ledger store. -/
def recordLiquidation (system : System β) (sale : Selling) (result : OrderResult) :
    System β × Except PyError Unit :=
  if 0 < result.filledQuantity then
    match system.ledger? sale.botId with
    | none => (system, .ok ())
    | some ledger =>
        (system.setLedger sale.botId (ledger.recordFill (sale.fill result)).1,
          (ledger.recordFill (sale.fill result)).2)
  else (system, .ok ())

/-- The answer changes nothing, or the positive fill it reports is put to the
ledger. -/
theorem recordLiquidation_cases (system : System β) (sale : Selling) (result : OrderResult) :
    recordLiquidation system sale result = (system, .ok ()) ∧
        (0 < result.filledQuantity → system.ledger? sale.botId = none) ∨
      ∃ ledger, 0 < result.filledQuantity ∧ system.ledger? sale.botId = some ledger ∧
        recordLiquidation system sale result =
          (system.setLedger sale.botId (ledger.recordFill (sale.fill result)).1,
            (ledger.recordFill (sale.fill result)).2) := by
  unfold recordLiquidation
  by_cases positive : 0 < result.filledQuantity
  · rw [if_pos positive]
    cases found : system.ledger? sale.botId with
    | none => exact Or.inl ⟨rfl, fun _ => rfl⟩
    | some ledger => exact Or.inr ⟨ledger, positive, rfl, rfl⟩
  · rw [if_neg positive]
    exact Or.inl ⟨rfl, fun filled => absurd filled positive⟩

/-- A booking changes the value of at most a ledger, and keeps ledgers sound. -/
structure System.Booked (before after : System β) : Prop where
  coordinator : ∃ ledgers, after.coordinator = { before.coordinator with ledgers }
  bots : ∀ botId, (after.ledger? botId).isSome = (before.ledger? botId).isSome
  sound : before.Sound → after.Sound

namespace System.Booked

theorem refl (system : System β) : Booked system system :=
  ⟨⟨system.coordinator.ledgers, rfl⟩, fun _ => rfl, id⟩

/-- Recording a positive fill is a booking. -/
theorem of_recordFill {before after : System β} {botId : BotId} {ledger : Ledger} {fill : Fill}
    (registered : before.ledger? botId = some ledger) (positive : 0 < fill.quantity)
    (same : after.coordinator = (before.setLedger botId (ledger.recordFill fill).1).coordinator) :
    Booked before after := by
  have ledgers : ∀ other, after.ledger? other =
      if other = botId then some (ledger.recordFill fill).1 else before.ledger? other := by
    intro other
    rw [← before.ledger?_setLedger botId other]
    unfold System.ledger?
    rw [same]
  refine ⟨⟨_, same⟩, fun other => ?_, fun sound => ?_⟩
  · rw [ledgers]
    by_cases here : other = botId
    · simp [here, registered]
    · rw [if_neg here]
  · exact sound.of_ledger ((sound botId ledger registered).recordFill positive) ledgers

theorem executeAnswered (system : System β) (intent : TradeIntent) (decision : RiskDecision)
    (answer : Except PyError OrderResult) (write : LedgerStore.WriteEnv) :
    Booked system (executeAnswered system intent decision answer write).1 := by
  rcases executeAnswered_cases system intent decision answer write with
    same | ⟨result, ledger, -, positive, registered, same⟩
  · rw [same]
    exact refl system
  · have fill : 0 < (fillOf intent result).quantity := positive
    rw [same]
    exact of_recordFill registered fill (coordinator_bookFill system intent.botId ledger _ write)

theorem recordLiquidation (system : System β) (sale : Selling) (result : OrderResult) :
    Booked system (recordLiquidation system sale result).1 := by
  rcases recordLiquidation_cases system sale result with
    ⟨same, -⟩ | ⟨ledger, positive, registered, same⟩
  · rw [same]
    exact refl system
  · have fill : 0 < (sale.fill result).quantity := positive
    rw [same]
    exact of_recordFill registered fill rfl

theorem ledger?_of_before {before after : System β} (booked : Booked before after)
    {botId : BotId} (registered : ∃ ledger, before.ledger? botId = some ledger) :
    ∃ ledger, after.ledger? botId = some ledger := by
  rw [← Option.isSome_iff_exists] at registered ⊢
  rw [booked.bots, registered]

end System.Booked

/-- The same bots and the same ledger store. -/
structure System.Keeps (before after : System β) : Prop where
  bots : ∀ botId, (after.ledger? botId).isSome = (before.ledger? botId).isSome
  ledgerStore : after.coordinator.ledgerStore = before.coordinator.ledgerStore

theorem System.Keeps.refl (system : System β) : system.Keeps system := ⟨fun _ => rfl, rfl⟩

theorem System.Keeps.trans {before middle after : System β} (first : before.Keeps middle)
    (second : middle.Keeps after) : before.Keeps after :=
  ⟨fun botId => (second.bots botId).trans (first.bots botId),
    second.ledgerStore.trans first.ledgerStore⟩

theorem System.Booked.keeps {before after : System β} (booked : before.Booked after) :
    before.Keeps after := by
  obtain ⟨ledgers, same⟩ := booked.coordinator
  exact ⟨booked.bots, by rw [same]⟩

namespace Desk

def setTask (desk : Desk β) (id : Nat) (task : Task β) : Desk β :=
  { desk with tasks := desk.tasks.set id task }

/-- The system after a booking, seen by every waiting sale. -/
def book (desk : Desk β) (after : System β) : Desk β :=
  { system := after, tasks := desk.tasks.mapValues (Task.follow desk.system after) }

/-- Then halt. -/
def halt (desk : Desk β) (id : Nat) (call : KillCall) (watch : Watch) : Desk β :=
  { desk with
    system := desk.system.setRiskManager
      (desk.system.coordinator.riskManager.haltTarget call.botId) }.setTask id
        (.returned call watch desk.system.coordinator.ledgers)

/-- Submit the next sale to the default broker, or halt if there is none left. -/
def proceed (desk : Desk β) (id : Nat) (call : KillCall) (watch : Watch) (next : Option Selling) :
    Desk β :=
  match next with
  | none => desk.halt id call watch
  | some sale =>
      match desk.system.coordinator.defaultBroker with
      | none =>
          desk.setTask id (.raised call
            (.runtimeError "kill switch requires coordinator.default_broker; none configured"))
      | some _ => desk.setTask id (.selling call sale watch)

def step (desk : Desk β) : DeskEvent β → Desk β
  | .execute id call =>
      match desk.tasks.get? id with
      | some _ => desk
      | none =>
          let begun := executeBegin desk.system call.intent call.env.reads call.env.factory
          { desk with system := begun.1 }.setTask id (begun.2.task call)
  | .quoted id =>
      match desk.tasks.get? id with
      | some (.quoting call broker symbols) =>
          match desk.system.ledger? call.intent.botId with
          | none => desk.setTask id (.finished (.error (.keyError call.intent.botId)))
          | some ledger =>
              desk.setTask id
                ((executePriced desk.system.coordinator.riskManager call.intent ledger
                  (getMarketPrices (call.env.quote broker) symbols)).task call broker)
      | _ => desk
  | .answered id =>
      match desk.tasks.get? id with
      | some (.submitting call broker order decision) =>
          let finished := executeAnswered desk.system call.intent decision
            (call.env.submit broker order) call.env.write
          (desk.book finished.1).setTask id (.finished finished.2)
      | _ => desk
  | .kill id call =>
      match desk.tasks.get? id with
      | some _ => desk
      | none =>
          match call.verb with
          | .haltAndStop => desk.halt id call {}
          | .haltAndLiquidate | .haltAndSellGains =>
              desk.proceed id call {}
                (call.nextLedger desk.system (getTargetLedgers desk.system call.botId))
  | .liquidated id answer =>
      match desk.tasks.get? id with
      | some (.selling call sale watch) =>
          match answer with
          | .error error => desk.setTask id (.raised call error)
          | .ok result =>
              let recorded := recordLiquidation desk.system sale result
              match recorded.2 with
              | .error error => (desk.book recorded.1).setTask id (.raised call error)
              | .ok () =>
                  let left := sale.follow desk.system recorded.1
                  let seen := watch.note desk.system recorded.1
                  (desk.book recorded.1).proceed id call
                    { seen with full := watch.full && result.filledQuantity = sale.order.quantity }
                    (call.resume recorded.1 sale.botId left.rest sale.later)
      | _ => desk

/-! ### What a step does -/

@[simp] theorem system_setTask (desk : Desk β) (id : Nat) (task : Task β) :
    (desk.setTask id task).system = desk.system := rfl

@[simp] theorem system_book (desk : Desk β) (after : System β) :
    (desk.book after).system = after := rfl

theorem task_setTask {desk : Desk β} {id other : Nat} {task found : Task β}
    (lookup : (desk.setTask id task).tasks.get? other = some found) :
    found = task ∨ desk.tasks.get? other = some found := by
  unfold setTask at lookup
  exact (Dict.set_or_get?_of_get?_set lookup).imp_left And.right

theorem task_book {desk : Desk β} {after : System β} {id : Nat} {found : Task β}
    (lookup : (desk.book after).tasks.get? id = some found) :
    ∃ task, desk.tasks.get? id = some task ∧ found = task.follow desk.system after := by
  unfold book at lookup
  rw [Dict.get?_mapValues, Option.map_eq_some_iff] at lookup
  obtain ⟨task, before, same⟩ := lookup
  exact ⟨task, before, same.symm⟩

/-- A trade that begins changes at most the broker cache. -/
theorem step_execute (desk : Desk β) (id : Nat) (call : Call β) :
    desk.step (.execute id call) = desk ∨
      ∃ cache begun, desk.step (.execute id call) =
          { desk with system := desk.system.setCache cache }.setTask id (Begun.task call begun) ∧
        ∀ broker symbols, begun = .quoting broker symbols →
          call.intent.action ≠ .hold ∧ call.intent.action ≠ .noop := by
  simp only [step]
  cases desk.tasks.get? id with
  | some task => exact Or.inl rfl
  | none =>
      obtain ⟨cache, same⟩ := executeBegin_system desk.system call.env call.intent
      refine Or.inr ⟨cache, _, by rw [same], ?_⟩
      intro broker symbols quoting
      obtain ⟨ledger, reaches, -⟩ := executeBegin_quoting (Prod.ext rfl quoting)
      exact reaches.trades

/-- Quotes that come in end the trade, or the risk gate approves it. -/
theorem step_quoted (desk : Desk β) (id : Nat) :
    desk.step (.quoted id) = desk ∨
      (∃ outcome, desk.step (.quoted id) = desk.setTask id (.finished outcome)) ∨
      ∃ call broker symbols order decision,
        desk.tasks.get? id = some (.quoting call broker symbols) ∧
        desk.step (.quoted id) = desk.setTask id (.submitting call broker order decision) ∧
        ∃ ledger prices, (desk.system.coordinator.riskManager.evaluate call.intent ledger
          prices).approved = true := by
  simp only [step]
  rcases desk.tasks.get? id with - | (⟨call, broker, symbols⟩ | - | - | - | - | -)
  case some.quoting =>
    refine Or.inr ?_
    dsimp only
    cases desk.system.ledger? call.intent.botId with
    | none => exact Or.inl ⟨_, rfl⟩
    | some ledger =>
        dsimp only
        cases priced : executePriced desk.system.coordinator.riskManager call.intent ledger
            (getMarketPrices (call.env.quote broker) symbols) with
        | raised error => exact Or.inl ⟨_, rfl⟩
        | rejected result => exact Or.inl ⟨_, rfl⟩
        | submitting order decision =>
            obtain ⟨prices, approved⟩ := executePriced_submitting priced
            exact Or.inr ⟨call, broker, symbols, order, decision, rfl, rfl, ledger, prices, approved⟩
  all_goals exact Or.inl rfl

/-- A trade ends with its broker's answer. -/
theorem step_answered (desk : Desk β) (id : Nat) :
    desk.step (.answered id) = desk ∨
      ∃ call broker order decision,
        desk.tasks.get? id = some (.submitting call broker order decision) ∧
        ∃ outcome, desk.step (.answered id) =
          (desk.book (executeAnswered desk.system call.intent decision
            (call.env.submit broker order) call.env.write).1).setTask id (.finished outcome) := by
  simp only [step]
  rcases desk.tasks.get? id with - | (- | ⟨call, broker, order, decision⟩ | - | - | - | -)
  · exact Or.inl rfl
  · exact Or.inl rfl
  · exact Or.inr ⟨call, broker, order, decision, rfl, _, rfl⟩
  all_goals exact Or.inl rfl

/-- A call without a sale to make halts; otherwise it waits for one or raises. -/
theorem proceed_cases (desk : Desk β) (id : Nat) (call : KillCall) (watch : Watch)
    (next : Option Selling) :
    (next = none ∧ desk.proceed id call watch next = desk.halt id call watch) ∨
      (∃ error, desk.proceed id call watch next = desk.setTask id (.raised call error)) ∨
      ∃ sale, next = some sale ∧
        desk.proceed id call watch next = desk.setTask id (.selling call sale watch) := by
  unfold proceed
  cases next with
  | none => exact Or.inl ⟨rfl, rfl⟩
  | some sale =>
      cases desk.system.coordinator.defaultBroker with
      | none => exact Or.inr (Or.inl ⟨_, rfl⟩)
      | some broker => exact Or.inr (Or.inr ⟨sale, rfl, rfl⟩)

/-- A kill-switch call halts at once, or first looks for a position to sell. -/
theorem step_kill (desk : Desk β) (id : Nat) (call : KillCall) :
    desk.step (.kill id call) = desk ∨
      (call.verb = .haltAndStop ∧ desk.step (.kill id call) = desk.halt id call {}) ∨
      desk.step (.kill id call) = desk.proceed id call {}
        (call.nextLedger desk.system (getTargetLedgers desk.system call.botId)) := by
  simp only [step]
  cases desk.tasks.get? id with
  | some task => exact Or.inl rfl
  | none =>
      cases verb : call.verb with
      | haltAndStop => exact Or.inr (Or.inl ⟨rfl, rfl⟩)
      | haltAndLiquidate => exact Or.inr (Or.inr rfl)
      | haltAndSellGains => exact Or.inr (Or.inr rfl)

/-- The answer to a sale: the call raises, or it books and goes on. -/
theorem step_liquidated (desk : Desk β) (id : Nat) (answer : Except PyError OrderResult) :
    (desk.step (.liquidated id answer) = desk ∧
        ∀ call sale watch, desk.tasks.get? id ≠ some (.selling call sale watch)) ∨
      ∃ call sale watch, desk.tasks.get? id = some (.selling call sale watch) ∧
        ((∃ error, answer = .error error ∧
            desk.step (.liquidated id answer) = desk.setTask id (.raised call error)) ∨
          ∃ result, answer = .ok result ∧
            let recorded := recordLiquidation desk.system sale result
            ((∃ error, recorded.2 = .error error ∧ desk.step (.liquidated id answer) =
                (desk.book recorded.1).setTask id (.raised call error)) ∨
              (recorded.2 = .ok () ∧ desk.step (.liquidated id answer) =
                (desk.book recorded.1).proceed id call
                  { watch.note desk.system recorded.1 with
                    full := watch.full && result.filledQuantity = sale.order.quantity }
                  (call.resume recorded.1 sale.botId (sale.follow desk.system recorded.1).rest
                    sale.later)))) := by
  simp only [step]
  rcases desk.tasks.get? id with - | (- | - | - | ⟨call, sale, watch⟩ | - | -)
  case some.selling =>
    refine Or.inr ⟨call, sale, watch, rfl, ?_⟩
    cases answer with
    | error error => exact Or.inl ⟨error, rfl, rfl⟩
    | ok result =>
        refine Or.inr ⟨result, rfl, ?_⟩
        dsimp only
        rcases outcome : (recordLiquidation desk.system sale result).2 with error | ⟨⟩
        · exact Or.inl ⟨error, rfl, rfl⟩
        · exact Or.inr ⟨rfl, rfl⟩
  all_goals exact Or.inl ⟨rfl, by simp⟩

theorem proceed_keeps (desk : Desk β) (id : Nat) (call : KillCall) (watch : Watch)
    (next : Option Selling) : desk.system.Keeps (desk.proceed id call watch next).system := by
  rcases desk.proceed_cases id call watch next with
    ⟨-, same⟩ | ⟨error, same⟩ | ⟨sale, -, same⟩
  · rw [same]
    exact ⟨fun _ => rfl, rfl⟩
  · rw [same]
    exact System.Keeps.refl desk.system
  · rw [same]
    exact System.Keeps.refl desk.system

/-- No step adds or removes a bot or the ledger store. -/
theorem step_keeps (desk : Desk β) (event : DeskEvent β) :
    desk.system.Keeps (desk.step event).system := by
  have unchanged := System.Keeps.refl desk.system
  cases event with
  | execute id call =>
      rcases desk.step_execute id call with same | ⟨cache, begun, same, -⟩
      · rw [same]
        exact unchanged
      · rw [same]
        exact ⟨fun _ => rfl, rfl⟩
  | quoted id =>
      rcases desk.step_quoted id with same | ⟨outcome, same⟩ | ⟨_, _, _, _, _, -, same, -⟩ <;>
        rw [same] <;> exact unchanged
  | answered id =>
      rcases desk.step_answered id with same | ⟨call, broker, order, decision, -, outcome, same⟩
      · rw [same]
        exact unchanged
      · rw [same]
        exact (System.Booked.executeAnswered _ _ _ _ _).keeps
  | kill id call =>
      rcases desk.step_kill id call with same | ⟨-, same⟩ | same
      · rw [same]
        exact unchanged
      · rw [same]
        exact ⟨fun _ => rfl, rfl⟩
      · rw [same]
        exact desk.proceed_keeps id call _ _
  | liquidated id answer =>
      rcases desk.step_liquidated id answer with
        ⟨same, -⟩ | ⟨call, sale, watch, -, ⟨error, -, same⟩ | ⟨result, -, booking⟩⟩
      · rw [same]
        exact unchanged
      · rw [same]
        exact unchanged
      · have booked := (System.Booked.recordLiquidation desk.system sale result).keeps
        rcases booking with ⟨error, -, same⟩ | ⟨-, same⟩
        · rw [same]
          exact booked
        · rw [same]
          exact booked.trans
            (proceed_keeps (desk.book (recordLiquidation desk.system sale result).1) id call _ _)

/-- A trade that nothing interrupts is the coordinator's call. -/
theorem run_uninterrupted (desk : Desk β) {id : Nat} (fresh : desk.tasks.get? id = none)
    (call : Call β) :
    (run step desk [.execute id call, .quoted id, .answered id]).system =
        desk.system.perform call ∧
      (run step desk [.execute id call, .quoted id, .answered id]).tasks.get? id =
        some (.finished (execute desk.system call.env call.intent).2.outcome) := by
  simp only [run_cons, run_nil]
  have begins : desk.step (.execute id call) =
      { desk with
        system := (executeBegin desk.system call.intent call.env.reads call.env.factory).1 }.setTask
          id ((executeBegin desk.system call.intent call.env.reads call.env.factory).2.task call) := by
    simp only [step, fresh]
  rw [begins]
  unfold System.perform execute
  rcases executeBegin desk.system call.intent call.env.reads call.env.factory with
    ⟨after, error | result | ⟨broker, symbols⟩⟩
  · simp [Begun.task, step, setTask]
  · simp [Begun.task, step, setTask]
  · cases registered : after.ledger? call.intent.botId with
    | none => simp [Begun.task, step, setTask, registered]
    | some ledger =>
        cases priced : executePriced after.coordinator.riskManager call.intent ledger
            (getMarketPrices (call.env.quote broker) symbols) with
        | raised error => simp [Begun.task, Priced.task, step, setTask, registered, priced]
        | rejected result => simp [Begun.task, Priced.task, step, setTask, registered, priced]
        | submitting order decision =>
            simp [Begun.task, Priced.task, step, setTask, registered, priced, book]

end Desk

end TradingStrands
