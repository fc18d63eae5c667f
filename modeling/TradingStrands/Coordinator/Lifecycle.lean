import TradingStrands.Coordinator.Calls
import TradingStrands.Foundation.Runs
import Mathlib.Tactic.Linarith
import Mathlib.Tactic.Ring

/-!
Owns the life of an order at the broker. The result of a submission is a
snapshot of an order that may go on filling; the coordinator books the snapshot
and never asks again. So what the ledgers hold in total is what the brokers
executed less what was `missed`: every later fill, and every reported sell that
its ledger did not cover.

Does not own: which broker answers are possible beyond pending, partial and
full fills, and brokers that refuse an order.
-/

namespace TradingStrands

open TradingStrands.Foundation

variable {β : Type}

/-- An accepted order as the broker sees it. -/
structure BrokerOrder where
  symbol : Symbol
  side : Side
  quantity : Decimal
  filled : Decimal
  working : Bool
deriving DecidableEq, Repr

namespace BrokerOrder

/-- The order right after the broker answered its submission. -/
def ofResult (order : OrderRequest) (result : OrderResult) : BrokerOrder :=
  { symbol := order.symbol, side := order.side, quantity := order.quantity,
    filled := result.filledQuantity, working := result.filledQuantity < order.quantity }

def signed (order : BrokerOrder) (amount : Decimal) : Symbol × Decimal :=
  (order.symbol, match order.side with
    | .buy => amount
    | .sell => -amount)

/-- What the broker has executed for the order. -/
def posting (order : BrokerOrder) : Symbol × Decimal := order.signed order.filled

/-- A working order can fill by at most what remains of it. -/
def Accepts (order : BrokerOrder) (amount : Decimal) : Prop :=
  order.working = true ∧ 0 ≤ amount ∧ order.filled + amount ≤ order.quantity

instance (order : BrokerOrder) (amount : Decimal) : Decidable (order.Accepts amount) := by
  unfold Accepts
  infer_instance

/-- The order after it filled by `amount`; `ends` closes it with the rest unfilled. -/
def fillMore (order : BrokerOrder) (amount : Decimal) (ends : Bool) : BrokerOrder :=
  { order with
    filled := order.filled + amount
    working := !ends && decide (order.filled + amount < order.quantity) }

end BrokerOrder

/-- Fill the order at `index` further: the orders, and what was executed. -/
def lateFill (amount : Decimal) (ends : Bool) :
    List BrokerOrder → Nat → List BrokerOrder × List (Symbol × Decimal)
  | [], _ => ([], [])
  | order :: rest, 0 =>
      if order.Accepts amount then
        (order.fillMore amount ends :: rest, [order.signed amount])
      else (order :: rest, [])
  | order :: rest, index + 1 =>
      let later := lateFill amount ends rest index
      (order :: later.1, later.2)

/-- The answers of the broker: it refuses the order, or accepts a positive order
and reports it pending, partially filled or filled. -/
def ValidAnswer (order : OrderRequest) : Except PyError OrderResult → Prop
  | .error _ => True
  | .ok result =>
      0 < order.quantity ∧
        match result.status with
        | .pending => result.filledQuantity = 0
        | .partiallyFilled =>
            0 < result.filledQuantity ∧ result.filledQuantity < order.quantity
        | .filled => result.filledQuantity = order.quantity
        | .rejected | .cancelled => False

/-- The system, the orders at the brokers, and the executions that no ledger
booked. -/
structure Market (β : Type) where
  system : System β
  orders : List BrokerOrder := []
  missed : List (Symbol × Decimal) := []

inductive MarketEvent (β : Type)
  | execute (call : Call β)
  | progress (index : Nat) (amount : Decimal) (ends : Bool)

namespace Market

/-- The order a call placed at its broker. -/
def placed (system : System β) (call : Call β) : List BrokerOrder :=
  match (execute system call.env call.intent).2.submitted with
  | none => []
  | some (broker, order) =>
      match call.env.submit broker order with
      | .error _ => []
      | .ok result => [BrokerOrder.ofResult order result]

/-- The reported fill of a call, if its ledger does not cover it. -/
def uncovered (system : System β) (call : Call β) : List (Symbol × Decimal) :=
  match (execute system call.env call.intent).2.submitted, system.ledger? call.intent.botId with
  | some (broker, _), some ledger =>
      match reportedFill call.env call.intent broker with
      | none => []
      | some fill => if ledger.Covers fill then [] else [fill.posting]
  | _, _ => []

def step (market : Market β) : MarketEvent β → Market β
  | .execute call =>
      { system := market.system.perform call
        orders := market.orders ++ placed market.system call
        missed := market.missed ++ uncovered market.system call }
  | .progress index amount ends =>
      let later := lateFill amount ends market.orders index
      { market with orders := later.1, missed := market.missed ++ later.2 }

/-- What all ledgers together hold of a symbol. -/
def totalNet (market : Market β) (symbol : Symbol) : Decimal :=
  market.system.coordinator.ledgers.sumBy fun ledger => ledger.netQuantity symbol

/-- What the brokers executed of a symbol. -/
def executedNet (market : Market β) (symbol : Symbol) : Decimal :=
  balance (market.orders.map BrokerOrder.posting) symbol

/-- No order is still working. -/
def Quiet (market : Market β) : Prop := ∀ order ∈ market.orders, order.working = false

/-- Where no order is working, ledgers and brokers agree. -/
def Agrees (market : Market β) : Prop :=
  market.Quiet → ∀ symbol, market.totalNet symbol = market.executedNet symbol

/-- Where no order is working, the late fills and the uncovered sells cancel out. -/
def NothingMissed (market : Market β) : Prop :=
  market.Quiet → ∀ symbol, balance market.missed symbol = 0

/-- A submitted order gets a possible answer. -/
def Answered (market : Market β) : MarketEvent β → Prop
  | .execute call => ∀ broker order,
      (execute market.system call.env call.intent).2.submitted = some (broker, order) →
        ValidAnswer order (call.env.submit broker order)
  | .progress _ _ _ => True

/-- The ledgers hold what the brokers executed less what was missed. -/
structure Balanced (market : Market β) : Prop where
  sound : market.system.Sound
  total : ∀ symbol, market.totalNet symbol + balance market.missed symbol =
    market.executedNet symbol

end Market

/-! ### Late fills -/

theorem BrokerOrder.contribution_fillMore (order : BrokerOrder) (amount : Decimal) (ends : Bool)
    (symbol : Symbol) :
    contribution (order.fillMore amount ends).posting symbol =
      contribution order.posting symbol + contribution (order.signed amount) symbol := by
  unfold posting signed fillMore
  cases order.side with
  | buy => exact contribution_add _ _ _ _
  | sell =>
      rw [neg_add]
      exact contribution_add _ _ _ _

/-- A late fill moves what the brokers executed by exactly itself. -/
theorem balance_lateFill (amount : Decimal) (ends : Bool) (orders : List BrokerOrder) (index : Nat)
    (symbol : Symbol) :
    balance ((lateFill amount ends orders index).1.map BrokerOrder.posting) symbol =
      balance (orders.map BrokerOrder.posting) symbol +
        balance (lateFill amount ends orders index).2 symbol := by
  induction orders generalizing index with
  | nil => rw [lateFill, balance_nil, add_zero]
  | cons order rest inductionHypothesis =>
      cases index with
      | zero =>
          by_cases accepts : order.Accepts amount
          · simp only [lateFill, if_pos accepts, List.map_cons, balance_cons,
              order.contribution_fillMore, balance_nil]
            ring
          · simp only [lateFill, if_neg accepts, List.map_cons, balance_nil, add_zero]
      | succ index =>
          simp only [lateFill, List.map_cons, balance_cons, inductionHypothesis index]
          ring

/-- A late fill of nothing moves nothing. -/
theorem balance_lateFill_nothing (ends : Bool) (orders : List BrokerOrder) (index : Nat)
    (symbol : Symbol) : balance (lateFill 0 ends orders index).2 symbol = 0 := by
  induction orders generalizing index with
  | nil => rfl
  | cons order rest inductionHypothesis =>
      cases index with
      | zero =>
          unfold lateFill BrokerOrder.signed
          split
          · rw [balance_singleton]
            cases order.side <;> simp
          · rfl
      | succ index => exact inductionHypothesis index

/-- The broker's order and the reported fill are the same posting. -/
theorem posting_ofResult (intent : TradeIntent) (result : OrderResult) :
    (BrokerOrder.ofResult (intentToOrder intent) result).posting = (fillOf intent result).posting := by
  unfold BrokerOrder.posting BrokerOrder.signed BrokerOrder.ofResult Fill.posting
    Fill.signedQuantity intentToOrder fillOf
  cases intentToSide intent.action <;> rfl

/-- An accepted order is reported with nothing filled or with a positive part. -/
theorem ValidAnswer.nonneg {order : OrderRequest} {result : OrderResult}
    (valid : ValidAnswer order (.ok result)) : 0 ≤ result.filledQuantity := by
  obtain ⟨positive, reported⟩ := valid
  cases status : result.status with
  | pending =>
      simp only [status] at reported
      exact reported.ge
  | partiallyFilled =>
      simp only [status] at reported
      exact reported.1.le
  | filled =>
      simp only [status] at reported
      exact reported ▸ positive.le
  | rejected => simp [status] at reported
  | cancelled => simp [status] at reported

namespace Market

/-! ### One event -/

/-- Replacing one bot's ledger moves the total by the difference. -/
private theorem sumBy_set_ledger {system : System β} {botId : BotId} {ledger : Ledger}
    (found : system.ledger? botId = some ledger) (booked : Ledger) (symbol : Symbol) :
    ((system.coordinator.ledgers.set botId booked).sumBy fun ledger => ledger.netQuantity symbol) +
        ledger.netQuantity symbol =
      (system.coordinator.ledgers.sumBy fun ledger => ledger.netQuantity symbol) +
        booked.netQuantity symbol :=
  Dict.sumBy_set (fun ledger : Ledger => ledger.netQuantity symbol) booked found

theorem totalNet_execute (market : Market β) (call : Call β) (symbol : Symbol) :
    (market.step (.execute call)).totalNet symbol =
      (execute market.system call.env call.intent).1.coordinator.ledgers.sumBy
        fun ledger => ledger.netQuantity symbol := rfl

/-- A submitted and accepted order: what it adds to the ledgers and to the
missed executions together is what the broker executed. -/
private theorem total_of_accepted {market : Market β} {call : Call β} {broker : β}
    {ledger : Ledger} {prices : PriceMap} {result : OrderResult} (balanced : market.Balanced)
    (submits : Submits market.system call.env call.intent broker ledger prices)
    (accepted : call.env.submit broker (intentToOrder call.intent) = .ok result)
    (nonneg : 0 ≤ result.filledQuantity) (symbol : Symbol) :
    (market.step (.execute call)).totalNet symbol + balance (uncovered market.system call) symbol =
      market.totalNet symbol + contribution (fillOf call.intent result).posting symbol := by
  have submitted := submitted_iff.mpr ⟨rfl, ledger, prices, submits⟩
  have ledgers := ledgers_execute_of_submits submits
  rw [totalNet_execute]
  unfold totalNet uncovered
  simp only [submitted, submits.registered]
  by_cases nothing : result.filledQuantity ≤ 0
  · have reported : reportedFill call.env call.intent broker = none := by
      unfold reportedFill
      rw [accepted]
      exact if_pos nothing
    have zero : contribution (fillOf call.intent result).posting symbol = 0 := by
      have none : (fillOf call.intent result).quantity = 0 := le_antisymm nothing nonneg
      unfold Fill.posting Fill.signedQuantity
      rw [none, neg_zero]
      cases (fillOf call.intent result).side <;> exact contribution_zero _ _
    rw [ledgers, reported, zero]
    rfl
  · have reported : reportedFill call.env call.intent broker =
        some (fillOf call.intent result) := by
      unfold reportedFill
      rw [accepted]
      exact if_neg nothing
    have moved := sumBy_set_ledger submits.registered
      (ledger.recordFill (fillOf call.intent result)).1 symbol
    rw [ledgers, reported]
    by_cases covers : ledger.Covers (fillOf call.intent result)
    · have books := (Ledger.recordFill_books (balanced.sound _ _ submits.registered)
        (not_le.mp nothing) covers).2.net symbol
      simp only [if_pos covers, balance_nil]
      linarith
    · have kept : (ledger.recordFill (fillOf call.intent result)).1.netQuantity symbol =
          ledger.netQuantity symbol := by
        rw [(Ledger.recordFill_uncovered covers).2, Ledger.netQuantity_appendHistory]
      simp only [if_neg covers, balance_singleton]
      linarith

/-- Every call books the reported fill of its order, or misses it. -/
theorem Balanced.execute {market : Market β} {call : Call β} (balanced : market.Balanced)
    (answered : market.Answered (.execute call)) :
    (market.step (.execute call)).Balanced := by
  refine ⟨balanced.sound.perform call, fun symbol => ?_⟩
  have before := balanced.total symbol
  have missed : (market.step (.execute call)).missed =
      market.missed ++ uncovered market.system call := rfl
  have executed : (market.step (.execute call)).executedNet symbol =
      market.executedNet symbol +
        balance ((placed market.system call).map BrokerOrder.posting) symbol := by
    unfold executedNet step
    rw [List.map_append, balance_append]
  rw [missed, executed, balance_append]
  rcases execute_cases market.system call.env call.intent with
    ⟨nothing, cache, same⟩ | ⟨broker, ledger, prices, submits⟩
  · have unchanged : (market.step (.execute call)).totalNet symbol = market.totalNet symbol := by
      rw [totalNet_execute, same]
      rfl
    unfold placed uncovered
    rw [nothing, unchanged]
    simp only [List.map_nil, balance_nil, add_zero]
    exact before
  · have submitted := submitted_iff.mpr ⟨rfl, ledger, prices, submits⟩
    have valid := answered broker _ submitted
    cases answer : call.env.submit broker (intentToOrder call.intent) with
    | error error =>
        have reported : reportedFill call.env call.intent broker = none := by
          unfold reportedFill
          rw [answer]
        have unchanged : (market.step (.execute call)).totalNet symbol = market.totalNet symbol := by
          rw [totalNet_execute, ledgers_execute_of_submits submits, reported]
          rfl
        unfold placed uncovered
        simp only [submitted, answer, submits.registered, reported, List.map_nil, balance_nil,
          add_zero, unchanged]
        exact before
    | ok result =>
        rw [answer] at valid
        have accepted := total_of_accepted balanced submits answer valid.nonneg symbol
        unfold placed
        simp only [submitted, answer, List.map_singleton, balance_singleton, posting_ofResult]
        linarith

/-- What fills late is missed. -/
theorem Balanced.progress {market : Market β} (balanced : market.Balanced) (index : Nat)
    (amount : Decimal) (ends : Bool) : (market.step (.progress index amount ends)).Balanced := by
  refine ⟨balanced.sound, fun symbol => ?_⟩
  have before := balanced.total symbol
  have executed : (market.step (.progress index amount ends)).executedNet symbol =
      market.executedNet symbol +
        balance (lateFill amount ends market.orders index).2 symbol :=
    balance_lateFill amount ends market.orders index symbol
  have missed : (market.step (.progress index amount ends)).missed =
      market.missed ++ (lateFill amount ends market.orders index).2 := rfl
  have unchanged : (market.step (.progress index amount ends)).totalNet symbol =
      market.totalNet symbol := rfl
  rw [missed, executed, unchanged, balance_append]
  linarith

/-- In a balanced market, agreement says that nothing was missed. -/
theorem Balanced.agrees_iff {market : Market β} (balanced : market.Balanced) :
    market.Agrees ↔ market.NothingMissed := by
  unfold Agrees NothingMissed
  refine forall_congr' fun _ => forall_congr' fun symbol => ?_
  have total := balanced.total symbol
  constructor
  · intro same
    linarith
  · intro zero
    linarith

/-! ### Runs -/

/-- The books balance along every run. -/
theorem balanced_run {start : Market β} {events : List (MarketEvent β)}
    (balanced : start.Balanced) (answered : EachStep step Answered start events) :
    Always step Balanced start events := by
  have keeps : ∀ (market : Market β) (event : MarketEvent β), market.Balanced →
      market.Answered event → (market.step event).Balanced := by
    intro market event balanced answered
    cases event with
    | execute call => exact balanced.execute answered
    | progress index amount ends => exact balanced.progress index amount ends
  exact always_of_eachStep step keeps balanced answered

/-- Nothing fills after its submission, and every reported sell is covered. -/
def Complete (market : Market β) : MarketEvent β → Prop
  | .execute call => uncovered market.system call = []
  | .progress _ amount _ => amount = 0

/-- A run in which nothing fills late and every reported sell is covered loses
no fill. -/
theorem agrees_of_complete {start : Market β} {events : List (MarketEvent β)}
    (balanced : start.Balanced) (nothing : ∀ symbol, balance start.missed symbol = 0)
    (answered : EachStep step Answered start events)
    (complete : EachStep step Complete start events) : Always step Agrees start events := by
  have keeps : ∀ (market : Market β) (event : MarketEvent β),
      (∀ symbol, balance market.missed symbol = 0) → market.Complete event →
        ∀ symbol, balance (market.step event).missed symbol = 0 := by
    intro market event zero complete symbol
    cases event with
    | execute call =>
        have missed : (market.step (.execute call)).missed =
            market.missed ++ uncovered market.system call := rfl
        rw [missed, balance_append, zero, complete, balance_nil, add_zero]
    | progress index amount ends =>
        obtain rfl : amount = 0 := complete
        have missed : (market.step (.progress index 0 ends)).missed =
            market.missed ++ (lateFill 0 ends market.orders index).2 := rfl
        rw [missed, balance_append, zero, balance_lateFill_nothing, add_zero]
  have zero := always_of_eachStep step keeps nothing complete
  have always := balanced_run balanced answered
  rw [always_iff_cut] at zero always ⊢
  exact fun before after cut =>
    (always before after cut).agrees_iff.mpr fun _ => zero before after cut

theorem balanced_single (botId : BotId) (capital : Decimal) :
    ({ system := System.single botId capital } : Market Unit).Balanced := by
  refine ⟨System.sound_single botId capital, fun symbol => ?_⟩
  have fresh : ({ system := System.single botId capital } : Market Unit).totalNet symbol = 0 := by
    refine Dict.sumBy_eq_zero _ fun other ledger found => ?_
    obtain ⟨-, rfl⟩ := System.ledger?_single found
    exact Ledger.netQuantity_ofCapital capital symbol
  rw [fresh, zero_add]
  rfl

/-- A broker that accepts every order and has not filled anything yet. -/
def pendingEnv (price : Decimal) : CallEnv Unit :=
  { CallEnv.steady price with
    submit := fun _ _ => .ok { orderId := "order", status := .pending } }

end Market

end TradingStrands
