import TradingStrands.Coordinator.Calls

/-!
Owns whether a position can be reduced. The risk gate lets every sell through,
but `execute` prices the intent's symbol and every symbol the bot holds before
it asks the gate, and one quote that raises ends the call. A missing price does
not: the gate values such a position at its cost basis. So a sell is submitted
exactly when every one of these quotes is answered.
-/

namespace TradingStrands

open TradingStrands.Foundation

variable {β : Type}

/-- A sell of at most what is held, with no halt in the way and a broker for
the organisation. -/
structure Reducible (system : System β) (call : Call β) (ledger : Ledger) (broker : β) : Prop where
  registered : system.ledger? call.intent.botId = some ledger
  sells : call.intent.action = .sell
  held : call.intent.quantity ≤ ledger.heldQuantity call.intent.symbol
  running : ¬ system.coordinator.riskManager.Halts call.intent
  unhalted : system.coordinator.haltStore = true →
    HaltStore.isEffectiveHalted system.table call.intent.orgId = false
  resolved : (system.coordinator.brokerFor call.intent.orgId call.env.factory).2 = .ok broker

namespace System

/-- The sell reaches the broker. -/
def Reduces (system : System β) (call : Call β) : Prop :=
  ∀ ledger broker, Reducible system call ledger broker →
    (execute system call.env call.intent).2.submitted = some (broker, intentToOrder call.intent)

/-- The broker answers the quotes of the sold symbol and of every symbol held,
with or without a price. -/
def Quotable (system : System β) (call : Call β) : Prop :=
  ∀ ledger broker, Reducible system call ledger broker →
    ∀ symbol, (symbol = call.intent.symbol ∨
        ∃ position ∈ ledger.openPositions, position.symbol = symbol) →
      ∃ price, call.env.quote broker symbol = .ok price

end System

theorem Reducible.reachesBroker {system : System β} {call : Call β} {ledger : Ledger} {broker : β}
    (reducible : Reducible system call ledger broker) :
    ReachesBroker system call.env call.intent ledger := by
  have trades : call.intent.action ≠ .hold ∧ call.intent.action ≠ .noop := by
    simp [reducible.sells]
  refine ⟨reducible.registered, trades, ?_⟩
  unfold haltGate
  rw [if_neg]
  rintro ⟨configured, -, halted⟩
  rw [reducible.unhalted configured] at halted
  cases halted

theorem mem_quotedSymbols_iff {intent : TradeIntent} {ledger : Ledger} {symbol : Symbol} :
    symbol ∈ quotedSymbols intent ledger ↔
      symbol = intent.symbol ∨ ∃ position ∈ ledger.openPositions, position.symbol = symbol := by
  unfold quotedSymbols
  rw [List.mem_dedup, List.mem_cons, List.mem_map]

/-- One sell: it is submitted exactly when every quote is answered. -/
theorem Reducible.submitted_iff {system : System β} {call : Call β} {ledger : Ledger} {broker : β}
    (reducible : Reducible system call ledger broker) :
    (execute system call.env call.intent).2.submitted =
        some (broker, intentToOrder call.intent) ↔
      ∀ symbol ∈ quotedSymbols call.intent ledger,
        ∃ price, call.env.quote broker symbol = .ok price := by
  rw [TradingStrands.submitted_iff, ← getMarketPrices_ok_iff]
  constructor
  · rintro ⟨-, other, prices, submits⟩
    obtain rfl : other = ledger :=
      Option.some.inj (submits.registered.symm.trans reducible.registered)
    exact ⟨prices, submits.priced⟩
  · rintro ⟨prices, priced⟩
    have approved : (system.coordinator.riskManager.evaluate call.intent ledger prices).approved =
        true :=
      (RiskManager.evaluate_reduce_approved (Or.inl reducible.sells)).mpr reducible.running
    exact ⟨rfl, ledger, prices,
      ⟨⟨reducible.reachesBroker, reducible.resolved, priced⟩, approved⟩⟩

namespace System

/-- A sell within what is held is submitted exactly when no quote of the sold
symbol or of a held one raises. -/
theorem reduces_iff_quotable (system : System β) (call : Call β) :
    system.Reduces call ↔ system.Quotable call := by
  unfold Reduces Quotable
  refine forall_congr' fun ledger => forall_congr' fun broker => forall_congr' fun reducible => ?_
  rw [reducible.submitted_iff]
  simp only [mem_quotedSymbols_iff]

/-- One share of each of two symbols is held; the quote of one raises, and the
other cannot be sold. -/
theorem not_reduces_unquoted :
    let bought := (Ledger.ofCapital 1000).recordFill ⟨"AAPL", .buy, 1, 100, {}⟩
    let both := bought.1.recordFill ⟨"XSP", .buy, 1, 100, {}⟩
    let system := (System.single "bot" 1000).setLedger "bot" both.1
    let env : CallEnv Unit :=
      { CallEnv.steady 100 with
        quote := fun _ symbol =>
          if symbol = "XSP" then .error (.external "symbol not supported") else .ok (some 100) }
    ¬ system.Reduces ⟨env, ⟨"bot", "org", "AAPL", .sell, 1, ""⟩⟩ := by
  intro bought both system env reduces
  have reducible : Reducible system ⟨env, ⟨"bot", "org", "AAPL", .sell, 1, ""⟩⟩ both.1 () :=
    ⟨by decide +kernel, rfl, by decide +kernel, by decide +kernel, by decide +kernel,
      by decide +kernel⟩
  exact absurd (reduces both.1 () reducible) (by decide +kernel)

end System

end TradingStrands
