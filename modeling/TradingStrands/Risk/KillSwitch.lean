import TradingStrands.Coordinator.Coordinator

/-!
Owns the kill-switch verbs: whom a call halts, which ledgers it sells from, and
which position it sells next. A call walks its target ledgers; on reaching one
it takes a snapshot of the list of open positions, whose entries are references
to the position objects. An object is mutated while it is in the ledger and
keeps its last value once it was removed (`PosRef`).

Does not own: what happens between two orders.
-/

namespace TradingStrands

open TradingStrands.Foundation

variable {β : Type}

inductive KillSwitchVerb
  | haltAndStop
  | haltAndLiquidate
  | haltAndSellGains
deriving DecidableEq, Repr

/-- `if bot_id:`; an empty id counts as none. -/
def targetBot : Option BotId → Option BotId
  | none => none
  | some botId => if botId = "" then none else some botId

/-- The halt at the end of every verb. -/
def RiskManager.haltTarget (manager : RiskManager) (botId : Option BotId) : RiskManager :=
  match targetBot botId with
  | some bot => manager.haltBot bot
  | none => manager.haltDesk

/-- A kill switch with this target stops the bot. -/
def Targets (botId : Option BotId) (bot : BotId) : Prop :=
  targetBot botId = none ∨ targetBot botId = some bot

instance (botId : Option BotId) (bot : BotId) : Decidable (Targets botId bot) := by
  unfold Targets
  infer_instance

/-- The target is halted. -/
def RiskManager.HaltsTarget (manager : RiskManager) (botId : Option BotId) : Prop :=
  match targetBot botId with
  | some bot => bot ∈ manager.haltedBots
  | none => manager.deskHalted = true

instance (manager : RiskManager) (botId : Option BotId) :
    Decidable (manager.HaltsTarget botId) := by
  unfold RiskManager.HaltsTarget
  cases targetBot botId <;> infer_instance

namespace RiskManager

theorem haltsTarget_haltTarget (manager : RiskManager) (botId : Option BotId) :
    (manager.haltTarget botId).HaltsTarget botId := by
  unfold haltTarget HaltsTarget
  cases targetBot botId with
  | none => rfl
  | some bot => exact Finset.mem_insert_self bot manager.haltedBots

/-- No halt undoes another. -/
theorem HaltsTarget.haltTarget {manager : RiskManager} {botId : Option BotId}
    (halted : manager.HaltsTarget botId) (other : Option BotId) :
    (manager.haltTarget other).HaltsTarget botId := by
  unfold HaltsTarget at halted ⊢
  unfold RiskManager.haltTarget
  cases target : targetBot botId with
  | none =>
      rw [target] at halted
      cases targetBot other with
      | none => rfl
      | some bot => exact halted
  | some bot =>
      rw [target] at halted
      cases targetBot other with
      | none => exact halted
      | some another => exact Finset.mem_insert_of_mem halted

/-- A halted target stops the intents of every bot it covers. -/
theorem HaltsTarget.halts {manager : RiskManager} {botId : Option BotId}
    (halted : manager.HaltsTarget botId) {intent : TradeIntent}
    (targets : Targets botId intent.botId) : manager.Halts intent := by
  unfold HaltsTarget at halted
  unfold Halts
  rcases targets with desk | bot
  · rw [desk] at halted
    exact Or.inl halted
  · rw [bot] at halted
    exact Or.inr halted

end RiskManager

/-- The bots whose ledgers a call sells from. -/
def getTargetLedgers (system : System β) (botId : Option BotId) : List BotId :=
  match targetBot botId with
  | some bot => if (system.ledger? bot).isSome then [bot] else []
  | none => system.coordinator.ledgers.keys

/-- One call of the kill switch. -/
structure KillCall where
  verb : KillSwitchVerb
  botId : Option BotId := none
  marketPrices : PriceMap := fun _ => none

/-- Whether the call sells this position: only a winner, when it sells gains. -/
def KillCall.sells (call : KillCall) (position : Position) : Bool :=
  match call.verb with
  | .haltAndSellGains =>
      match call.marketPrices position.symbol with
      | none => false
      | some currentPrice => position.burdenedCostBasis < currentPrice
  | .haltAndStop | .haltAndLiquidate => true

/-- A reference to a position object: still in its ledger, or removed. -/
inductive PosRef
  | live (symbol : Symbol)
  | detached (position : Position)
deriving DecidableEq, Repr

/-- The object a reference points to. -/
def PosRef.position? (ref : PosRef) (ledger : Ledger) : Option Position :=
  match ref with
  | .live symbol => ledger.findPosition symbol
  | .detached position => some position

/-- `list(ledger.open_positions)`. -/
def Ledger.snapshot (ledger : Ledger) : List PosRef :=
  ledger.openPositions.map fun position => .live position.symbol

/-- The next position of a snapshot that the call sells, and what is left. -/
def KillCall.nextInLedger (call : KillCall) (ledger : Ledger) :
    List PosRef → Option (Position × List PosRef)
  | [] => none
  | ref :: rest =>
      match ref.position? ledger with
      | none => call.nextInLedger ledger rest
      | some position =>
          if call.sells position then some (position, rest) else call.nextInLedger ledger rest

/-- An order of a call on its way to the broker, and what the call has left. -/
structure Selling where
  botId : BotId
  symbol : Symbol
  quantity : Decimal
  rest : List PosRef
  later : List BotId
deriving DecidableEq

def Selling.ofPosition (botId : BotId) (next : Position × List PosRef) (later : List BotId) :
    Selling :=
  { botId, symbol := next.1.symbol, quantity := next.1.quantity, rest := next.2, later }

/-- The order a call submits. -/
def Selling.order (selling : Selling) : OrderRequest :=
  { symbol := selling.symbol, side := .sell, quantity := selling.quantity, orderType := .market }

/-- The fill the answer to it reports. -/
def Selling.fill (selling : Selling) (result : OrderResult) : Fill :=
  { symbol := selling.symbol, side := .sell, quantity := result.filledQuantity,
    price := result.filledPrice, fees := result.fees }

/-- The first sale in a list of ledgers. -/
def KillCall.nextLedger (call : KillCall) (system : System β) : List BotId → Option Selling
  | [] => none
  | botId :: later =>
      match (system.ledger? botId).bind fun ledger => call.nextInLedger ledger ledger.snapshot with
      | some next => some (.ofPosition botId next later)
      | none => call.nextLedger system later

/-- The next sale after one in the ledger of `botId`. -/
def KillCall.resume (call : KillCall) (system : System β) (botId : BotId) (rest : List PosRef)
    (later : List BotId) : Option Selling :=
  match (system.ledger? botId).bind fun ledger => call.nextInLedger ledger rest with
  | some next => some (.ofPosition botId next later)
  | none => call.nextLedger system later

end TradingStrands
