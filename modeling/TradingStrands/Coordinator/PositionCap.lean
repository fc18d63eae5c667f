import TradingStrands.Coordinator.Calls
import TradingStrands.Foundation.Runs
import TradingStrands.Risk.BuyGate

/-!
Owns the size of a single position along runs of `execute` under a broker that
fills every order in full at the price it quotes. The position check compares
the value of the intent alone with the limit, so what is already held escapes
it, and a buy keeps its position within the limit exactly when what is held
before, together with the intent, is within it.
-/

namespace TradingStrands

open TradingStrands.Foundation

variable {β : Type}

/-- Where the broker quotes the symbol of the intent, it fills the order in
full at that price and without fees. -/
def Call.FilledAtQuote (call : Call β) : Prop :=
  ∀ broker price, call.env.quote broker call.intent.symbol = .ok (some price) →
    ∃ result, call.env.submit broker (intentToOrder call.intent) = .ok result ∧
      result.filledQuantity = call.intent.quantity ∧ result.filledPrice = price ∧
        result.fees = {}

namespace System

/-- An approved buy leaves a position within the limit: what is held after the
fill, at the quoted price, against the equity the check used. -/
def CapHolds (system : System β) (call : Call β) : Prop :=
  ∀ broker order price before after,
    (execute system call.env call.intent).2.submitted = some (broker, order) →
      call.intent.action = .buy → call.env.quote broker call.intent.symbol = .ok (some price) →
        system.ledger? call.intent.botId = some before →
          (system.perform call).ledger? call.intent.botId = some after →
            after.heldQuantity call.intent.symbol * price ≤
              system.coordinator.riskManager.config.maxPositionPct * before.equity

/-- Before the buy, what is held together with the intent is within the limit,
unless a check rejects the intent. -/
def WithinCap (system : System β) (call : Call β) : Prop :=
  ∀ broker ledger prices price,
    ReachesGate system call.env call.intent broker ledger prices →
      call.intent.action = .buy → prices call.intent.symbol = some price →
        system.coordinator.riskManager.Stops call.intent ledger prices ∨
          (ledger.heldQuantity call.intent.symbol + max call.intent.quantity 0) * price ≤
            system.coordinator.riskManager.config.maxPositionPct * ledger.equity

/-- A buy filled in full adds its quantity to what is held; a quantity that is
not positive is not recorded. -/
theorem heldQuantity_of_submits {system : System β} {call : Call β} {broker : β}
    {ledger after : Ledger} {prices : PriceMap} {price : Decimal} (sound : ledger.Sound)
    (filled : call.FilledAtQuote) (buys : call.intent.action = .buy)
    (submits : Submits system call.env call.intent broker ledger prices)
    (priced : prices call.intent.symbol = some price)
    (found : (system.perform call).ledger? call.intent.botId = some after) :
    after.heldQuantity call.intent.symbol =
      ledger.heldQuantity call.intent.symbol + max call.intent.quantity 0 := by
  have quoted := submits.quote_eq
  rw [priced] at quoted
  obtain ⟨result, answered, quantity, -, -⟩ := filled broker price quoted
  unfold System.perform at found
  rw [ledger?_execute_of_submits submits, if_pos rfl, Option.some.injEq] at found
  by_cases positive : 0 < call.intent.quantity
  · have reported : reportedFill call.env call.intent broker =
        some (fillOf call.intent result) := by
      unfold reportedFill
      rw [answered]
      exact if_neg (by rw [quantity]; exact not_le.mpr positive)
    have buy : (fillOf call.intent result).side = .buy := by
      unfold fillOf intentToSide
      rw [buys]
    have moved : (fillOf call.intent result).quantity = call.intent.quantity := quantity
    have books := (Ledger.recordFill_books sound (moved ▸ positive)
      fun sell => absurd (buy.symm.trans sell) (by decide)).2
    rw [reported] at found
    subst found
    rw [books.sound.heldQuantity_eq, books.net, sound.heldQuantity_eq, max_eq_left positive.le]
    unfold Fill.posting Fill.signedQuantity contribution
    rw [buy, moved]
    exact congrArg _ (if_pos rfl)
  · have reported : reportedFill call.env call.intent broker = none := by
      unfold reportedFill
      rw [answered]
      exact if_pos (by rw [quantity]; exact not_lt.mp positive)
    rw [reported] at found
    rw [← found, max_eq_right (not_lt.mp positive), add_zero]

/-- One call: the cap holds after it exactly when there was room before it. -/
theorem capHolds_iff {system : System β} {call : Call β} (sound : system.Sound)
    (filled : call.FilledAtQuote) : system.CapHolds call ↔ system.WithinCap call := by
  constructor
  · intro holds broker ledger prices price reaches buys priced
    by_cases stops : system.coordinator.riskManager.Stops call.intent ledger prices
    · exact Or.inl stops
    · right
      have submits : Submits system call.env call.intent broker ledger prices :=
        ⟨reaches, (RiskManager.approved_iff_not_stops buys).mpr stops⟩
      obtain ⟨after, found⟩ : ∃ after, (system.perform call).ledger? call.intent.botId =
          some after := by
        unfold System.perform
        rw [ledger?_execute_of_submits submits, if_pos rfl]
        exact ⟨_, rfl⟩
      have quoted : call.env.quote broker call.intent.symbol = .ok (some price) :=
        priced ▸ reaches.quote_eq
      rw [← heldQuantity_of_submits (sound _ _ reaches.registered) filled buys submits priced found]
      exact holds broker _ price ledger after (submitted_iff.mpr ⟨rfl, ledger, prices, submits⟩)
        buys quoted reaches.registered found
  · intro within broker order price before after submitted buys quoted registered found
    obtain ⟨-, ledger, prices, submits⟩ := submitted_iff.mp submitted
    obtain rfl : ledger = before := Option.some.inj (submits.registered.symm.trans registered)
    have priced : prices call.intent.symbol = some price :=
      Except.ok.inj (submits.quote_eq.symm.trans quoted)
    have passes := (RiskManager.approved_iff_not_stops buys).mp submits.approved
    rw [heldQuantity_of_submits (sound _ _ registered) filled buys submits priced found]
    exact (within broker ledger prices price submits.toReachesGate buys priced).resolve_left passes

theorem filledAtQuote_steady (price : Decimal) (intent : TradeIntent) :
    (⟨CallEnv.steady price, intent⟩ : Call Unit).FilledAtQuote := by
  intro broker quoted same
  exact ⟨_, rfl, rfl, Option.some.inj (Except.ok.inj same), rfl⟩

end System

end TradingStrands
