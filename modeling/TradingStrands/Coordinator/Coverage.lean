import TradingStrands.Coordinator.Calls
import TradingStrands.Foundation.Runs
import TradingStrands.Risk.BuyGate

/-!
Owns the agreement of ledgers with broker positions along runs of `execute`
under a broker that fills every order in full. Neither the risk gate nor the
order normalisation looks at the sign of a quantity or at what is held; the
ledger does, but only once the broker has executed. So a run keeps ledgers and
broker together exactly when its intents are `Coverable` by themselves.

Does not own: partial or late fills.
-/

namespace TradingStrands

open TradingStrands.Foundation

variable {β : Type}

def OrderRequest.signedQuantity (order : OrderRequest) : Decimal :=
  match order.side with
  | .buy => order.quantity
  | .sell => -order.quantity

/-- A system and what the brokers have executed so far for each bot. -/
structure Floor (β : Type) where
  system : System β
  executed : List ((BotId × Symbol) × Decimal) := []

namespace Floor

/-- The floor after a call: an order that reached a broker was executed. -/
def perform (floor : Floor β) (call : Call β) : Floor β :=
  { system := floor.system.perform call
    executed :=
      match (execute floor.system call.env call.intent).2.submitted with
      | none => floor.executed
      | some (_, order) =>
          floor.executed ++ [((call.intent.botId, order.symbol), order.signedQuantity)] }

/-- Every ledger is sound and holds what the brokers executed for its bot. -/
structure Agrees (floor : Floor β) : Prop where
  sound : ∀ botId ledger, floor.system.ledger? botId = some ledger → ledger.Sound
  held : ∀ botId ledger, floor.system.ledger? botId = some ledger →
    ∀ symbol, ledger.netQuantity symbol = balance floor.executed (botId, symbol)

/-- If the call submits an order, the order is positive, a sell is covered at
submission, and recording what the broker reports does not raise. -/
structure Booked (floor : Floor β) (call : Call β) : Prop where
  positive : ∀ broker order,
    (execute floor.system call.env call.intent).2.submitted = some (broker, order) →
      0 < order.quantity
  covered : ∀ broker order ledger,
    (execute floor.system call.env call.intent).2.submitted = some (broker, order) →
      floor.system.ledger? call.intent.botId = some ledger → order.side = .sell →
        order.quantity ≤ ledger.heldQuantity order.symbol
  recorded : ∀ broker order ledger fill,
    (execute floor.system call.env call.intent).2.submitted = some (broker, order) →
      floor.system.ledger? call.intent.botId = some ledger →
        reportedFill call.env call.intent broker = some fill →
          (ledger.recordFill fill).2 = .ok ()

/-- What the intent itself has to satisfy when it reaches the risk gate: a buy
is positive unless some limit rejects it, and a sell or close, which no limit
looks at, is positive and at most what is held unless the kill switch is on. -/
def Coverable (floor : Floor β) (call : Call β) : Prop :=
  ∀ broker ledger prices, ReachesGate floor.system call.env call.intent broker ledger prices →
    (call.intent.action = .buy →
        floor.system.coordinator.riskManager.Stops call.intent ledger prices ∨
          0 < call.intent.quantity) ∧
      (call.intent.action = .sell ∨ call.intent.action = .close →
        floor.system.coordinator.riskManager.Halts call.intent ∨
          (0 < call.intent.quantity ∧
            call.intent.quantity ≤ ledger.heldQuantity call.intent.symbol))

end Floor

/-- The broker fills the order of the call in full at a positive price. -/
def Call.FilledInFull (call : Call β) : Prop :=
  ∀ broker, ∃ result, call.env.submit broker (intentToOrder call.intent) = .ok result ∧
    result.filledQuantity = call.intent.quantity ∧ 0 < result.filledPrice

/-! ### One call -/

/-- A submitted order of a coverable call is positive and covered. -/
private theorem covered_of_submits {floor : Floor β} {call : Call β} {broker : β}
    {ledger : Ledger} {prices : PriceMap} (coverable : floor.Coverable call)
    (submits : Submits floor.system call.env call.intent broker ledger prices) :
    0 < call.intent.quantity ∧
      (intentToSide call.intent.action = .sell →
        call.intent.quantity ≤ ledger.heldQuantity call.intent.symbol) := by
  obtain ⟨buys, sells⟩ := coverable broker ledger prices submits.toReachesGate
  have approved := submits.approved
  cases action : call.intent.action with
  | buy =>
      rw [RiskManager.approved_iff_not_stops action] at approved
      exact ⟨(buys action).resolve_left approved, by simp [intentToSide]⟩
  | sell =>
      rw [RiskManager.evaluate_reduce_approved (Or.inl action)] at approved
      have covered := (sells (Or.inl action)).resolve_left approved
      exact ⟨covered.1, fun _ => covered.2⟩
  | close =>
      rw [RiskManager.evaluate_reduce_approved (Or.inr action)] at approved
      have covered := (sells (Or.inr action)).resolve_left approved
      exact ⟨covered.1, fun _ => covered.2⟩
  | hold => exact absurd action submits.trades.1
  | noop => exact absurd action submits.trades.2

/-- The broker reports the whole order of a coverable call, and the ledger
books the report. -/
private theorem books_of_submits {floor : Floor β} {call : Call β} {broker : β}
    {ledger : Ledger} {prices : PriceMap} (full : call.FilledInFull)
    (coverable : floor.Coverable call) (sound : ledger.Sound)
    (submits : Submits floor.system call.env call.intent broker ledger prices) :
    ∃ fill, reportedFill call.env call.intent broker = some fill ∧
      fill.posting = (call.intent.symbol, (intentToOrder call.intent).signedQuantity) ∧
        (ledger.recordFill fill).2 = .ok () ∧ ledger.Books fill.posting (ledger.recordFill fill).1 := by
  obtain ⟨positive, covered⟩ := covered_of_submits coverable submits
  obtain ⟨result, answered, quantity, -⟩ := full broker
  have reported : reportedFill call.env call.intent broker =
      some (fillOf call.intent result) := by
    unfold reportedFill
    rw [answered]
    exact if_neg (by rw [quantity]; exact not_le.mpr positive)
  have fillQuantity : (fillOf call.intent result).quantity = call.intent.quantity := quantity
  have covers : ledger.Covers (fillOf call.intent result) := by
    unfold Ledger.Covers
    rw [fillQuantity]
    exact covered
  refine ⟨_, reported, ?_, Ledger.recordFill_books sound (fillQuantity ▸ positive) covers⟩
  unfold Fill.posting Fill.signedQuantity
  rw [fillQuantity]
  rfl

namespace Floor

/-- A coverable call keeps ledgers and broker in agreement. -/
theorem Agrees.perform {floor : Floor β} {call : Call β} (agrees : floor.Agrees)
    (full : call.FilledInFull) (coverable : floor.Coverable call) :
    (floor.perform call).Agrees := by
  rcases execute_cases floor.system call.env call.intent with
    ⟨nothing, cache, same⟩ | ⟨broker, ledger, prices, submits⟩
  · unfold Floor.perform System.perform
    rw [nothing, same]
    exact ⟨agrees.sound, agrees.held⟩
  · obtain ⟨fill, reported, posting, -, books⟩ :=
      books_of_submits full coverable (agrees.sound _ _ submits.registered) submits
    have submitted := submitted_iff.mpr ⟨rfl, ledger, prices, submits⟩
    have ledgers : ∀ botId after, (floor.perform call).system.ledger? botId = some after →
        (botId = call.intent.botId ∧ after = (ledger.recordFill fill).1) ∨
          (botId ≠ call.intent.botId ∧ floor.system.ledger? botId = some after) := by
      intro botId after found
      change (execute floor.system call.env call.intent).1.ledger? botId = some after at found
      rw [ledger?_execute_of_submits submits, reported] at found
      by_cases same : botId = call.intent.botId
      · rw [if_pos same, Option.some.injEq] at found
        exact Or.inl ⟨same, found.symm⟩
      · rw [if_neg same] at found
        exact Or.inr ⟨same, found⟩
    constructor
    · intro botId after found
      rcases ledgers botId after found with ⟨-, rfl⟩ | ⟨-, before⟩
      · exact books.sound
      · exact agrees.sound botId after before
    · intro botId after found symbol
      unfold Floor.perform
      rw [submitted]
      dsimp only
      rw [balance_append, balance_singleton]
      rcases ledgers botId after found with ⟨rfl, rfl⟩ | ⟨other, before⟩
      · rw [books.net, agrees.held _ _ submits.registered, posting]
        simp [contribution, intentToOrder]
      · have untouched : (call.intent.botId, (intentToOrder call.intent).symbol) ≠
            (botId, symbol) := fun same => other (Prod.mk.inj same).1.symm
        rw [agrees.held botId after before, contribution, if_neg untouched, add_zero]

/-- A coverable call is booked. -/
theorem Agrees.booked {floor : Floor β} {call : Call β} (agrees : floor.Agrees)
    (full : call.FilledInFull) (coverable : floor.Coverable call) : floor.Booked call := by
  constructor
  · intro broker order submitted
    obtain ⟨rfl, ledger, prices, submits⟩ := submitted_iff.mp submitted
    exact (covered_of_submits coverable submits).1
  · intro broker order ledger submitted registered
    obtain ⟨rfl, other, prices, submits⟩ := submitted_iff.mp submitted
    obtain rfl : other = ledger := Option.some.inj (submits.registered.symm.trans registered)
    exact (covered_of_submits coverable submits).2
  · intro broker order ledger fill submitted registered reported
    obtain ⟨rfl, other, prices, submits⟩ := submitted_iff.mp submitted
    obtain rfl : other = ledger := Option.some.inj (submits.registered.symm.trans registered)
    obtain ⟨same, reported', -, recorded, -⟩ :=
      books_of_submits full coverable (agrees.sound _ _ registered) submits
    obtain rfl : same = fill := Option.some.inj (reported'.symm.trans reported)
    exact recorded

/-- Whatever else holds, a booked call was coverable. -/
theorem Booked.coverable {floor : Floor β} {call : Call β} (booked : floor.Booked call) :
    floor.Coverable call := by
  intro broker ledger prices reaches
  have submitted (approved : (floor.system.coordinator.riskManager.evaluate call.intent ledger
      prices).approved = true) := submitted_iff.mpr ⟨rfl, ledger, prices, ⟨reaches, approved⟩⟩
  constructor
  · intro buys
    by_cases stops : floor.system.coordinator.riskManager.Stops call.intent ledger prices
    · exact Or.inl stops
    · have order := submitted ((RiskManager.approved_iff_not_stops buys).mpr stops)
      exact Or.inr (booked.positive broker (intentToOrder call.intent) order)
  · intro reduces
    by_cases halts : floor.system.coordinator.riskManager.Halts call.intent
    · exact Or.inl halts
    · have order := submitted ((RiskManager.evaluate_reduce_approved reduces).mpr halts)
      have sell : (intentToOrder call.intent).side = .sell := intentToSide_of_reduces reduces
      have positive : 0 < call.intent.quantity := booked.positive broker (intentToOrder call.intent) order
      have covered : call.intent.quantity ≤ ledger.heldQuantity call.intent.symbol :=
        booked.covered broker (intentToOrder call.intent) ledger order reaches.registered sell
      exact Or.inr ⟨positive, covered⟩

/-! ### Runs -/

theorem agrees_single (botId : BotId) (capital : Decimal) :
    ({ system := System.single botId capital } : Floor Unit).Agrees := by
  constructor
  · intro other ledger found
    obtain ⟨-, rfl⟩ := System.ledger?_single found
    exact Ledger.sound_ofCapital capital
  · intro other ledger found symbol
    obtain ⟨-, rfl⟩ := System.ledger?_single found
    exact Ledger.netQuantity_ofCapital capital symbol

theorem filledInFull_steady {price : Decimal} (positive : 0 < price) (intent : TradeIntent) :
    (⟨CallEnv.steady price, intent⟩ : Call Unit).FilledInFull :=
  fun _ => ⟨_, rfl, rfl, positive⟩

end Floor

end TradingStrands
