import TradingStrands.AgentMemory.Store
import TradingStrands.Coordinator.Types
import TradingStrands.Foundation.NumericText
import TradingStrands.Foundation.Recent
import TradingStrands.Heartbeat.Store
import TradingStrands.MarketDataStore.Store
import TradingStrands.Strategies.Prompt

/-!
Owns a strategy bot. In a tick it beats, shows its model a prompt, and turns the
answer into an intent, nothing or an exception. It keeps its last decisions for the
next prompt and notes each one in its memory; what the stores raise on the way is
dropped.

`BotTick` says what the calls of a tick answer, clocks included. The record of the
tokens that the call used is left out.
-/

namespace TradingStrands.Strategies

open TradingStrands.Foundation

/-- The structured answer of the model. -/
structure BotDecision where
  action : String
  symbol : Symbol
  quantity : String
  rationale : String
deriving DecidableEq, Repr

/-- The action of a word; a word that is none stands down. -/
def mapAction (actionStr : String) : IntentAction :=
  let word := actionStr.toLower
  if word = "buy" then .buy
  else if word = "sell" then .sell
  else if word = "close" then .close
  else if word = "hold" then .hold
  else .noop

structure StrategyBot where
  botId : BotId
  orgId : OrgId
  strategyPrompt : String := ""
  systemPrompt : String := ""
  memoryStore : Option AgentMemoryStore := none
  beats : Bool := false
  snapshots : Bool := false
  calendar : ContextSource := {}
  ta : ContextSource := {}
deriving DecidableEq, Repr

/-- What a bot remembers between ticks. -/
structure BotState where
  recentDecisions : List String := []
  lastDecisionAt : Int := 0
  /-- When its model failed, as far as it was not pruned. -/
  errorTs : List Int := []
  tickCounter : Nat := 0
deriving DecidableEq, Repr

/-- What the stores that bots write to hold. -/
structure BotStores where
  heartbeats : HeartbeatStore.HeartbeatTable := Dict.empty
  prompts : PromptSnapshotTable := Dict.empty
  memory : Bucket := Dict.empty

/-- What happens around a bot in a tick. -/
structure BotTick where
  prices : Dict Symbol Decimal := Dict.empty
  ledger : Ledger
  print : Printing
  characters : Characters := .ascii
  /-- The clock when old errors are pruned, and when the beat is written. -/
  prunedAt : Int
  beatAt : Int
  beatFate : PutFate := .stored
  calendar : Except PyError String := .ok ""
  ta : Except PyError String := .ok ""
  renderedAt : Int
  promptFate : PutFate := .stored
  /-- What calling the model comes to; the answer may lack its structured part. -/
  answer : Except PyError (Option BotDecision)
  answeredAt : Int
  /-- The clock of the memory's line, and of the file it goes to. -/
  notedAt : Int
  filedAt : Int
  memoryFaults : ReadFaults := fun _ => none
  memoryFate : PutFate := .stored

namespace StrategyBot

def maxHistory : Nat := 5

def rationalePreviewChars : Nat := 300

def errorWindowSeconds : Int := 3600

/-! ### Texts -/

def preview (rationale : String) : String :=
  if rationalePreviewChars < rationale.length then
    String.ofList (rationale.toList.take rationalePreviewChars) ++ "…"
  else rationale

/-- What the next prompts say of a decision. -/
def recentLine (decision : BotDecision) : String :=
  decision.action ++ " " ++ decision.symbol ++ " x" ++ decision.quantity ++ ": " ++
    preview decision.rationale

/-- The hour of a moment as the memory's pointers have it. -/
def hourlyBucket (moment : Moment) : String :=
  String.ofList (paddedInt 4 moment.year ++ paddedDigits 2 moment.month ++
    paddedDigits 2 moment.day ++ paddedDigits 2 moment.hour)

def clockText (moment : Moment) : String :=
  String.ofList (paddedDigits 2 moment.hour) ++ ":" ++
    String.ofList (paddedDigits 2 moment.minute) ++ ":" ++
    String.ofList (paddedDigits 2 moment.second) ++ "Z"

/-- `[MARKETDATA#<symbol>#<yyyymmddhh>]`. -/
def marketdataRef (symbol : Symbol) (moment : Moment) : String :=
  "[MARKETDATA#" ++ symbol ++ "#" ++ hourlyBucket moment ++ "]"

def formatMemoryLine (print : Printing) (decision : BotDecision) (prices : Dict Symbol Decimal)
    (ledger : Ledger) (nowGmtime : Moment) : String :=
  let priceRef :=
    match prices.get? decision.symbol with
    | some price => print.decimal price
    | none => "?"
  "- " ++ clockText nowGmtime ++ " " ++ print.upper decision.action ++ " " ++ decision.symbol ++
    " x" ++ decision.quantity ++ " @ ~" ++ priceRef ++ " " ++
    marketdataRef decision.symbol nowGmtime ++ " (equity $" ++ print.decimal ledger.equity ++
    "). " ++ decision.rationale

/-- The pointer of a line names the row that the market data store keeps the ticks of
that moment in. -/
theorem marketdataRef_eq (symbol : Symbol) (timestamp : Int) :
    marketdataRef symbol (gmtime timestamp) =
      "[" ++ MarketDataStore.hourPk symbol (hourBucket timestamp) ++ "]" := by
  have mark : "[MARKETDATA#" = "[" ++ "MARKETDATA" ++ "#" := by decide
  unfold marketdataRef MarketDataStore.hourPk
  rw [mark]
  simp only [String.append_assoc]
  rfl

/-! ### A tick -/

variable (bot : StrategyBot) (tick : BotTick)

def agentName : AgentName := ⟨⟨"strategy", by decide⟩, bot.botId⟩

/-- Errors of the last hour before the beat. -/
def prune (state : BotState) : BotState :=
  if bot.beats = true then
    { state with errorTs := since (tick.prunedAt - errorWindowSeconds) state.errorTs }
  else state

/-- The beat of a state. -/
def beatOf (state : BotState) : HeartbeatStore.Beat :=
  { agent := bot.agentName
    status := "healthy"
    currentActivity := "reasoning"
    lastDecisionAt := some state.lastDecisionAt
    errorsLastHour := state.errorTs.length }

def writeBeat (state : BotState) (table : HeartbeatStore.HeartbeatTable) : HeartbeatStore.HeartbeatTable :=
  if bot.beats = true then
    (HeartbeatStore.beat table (bot.beatOf state) tick.beatAt tick.beatFate).2
  else table

def promptOf (state : BotState) : DecisionPrompt :=
  let recent := formatRecent state.recentDecisions
  { strategyPrompt := bot.strategyPrompt
    marketData := formatMarketData tick.print tick.prices
    calendarContext := buildCalendarContext bot.calendar tick.calendar
    taContext := buildTaContext bot.ta tick.ta
    portfolioState := formatPortfolio tick.print tick.ledger
    recentDecisions := if recent = "" then "No recent decisions." else recent }

/-- The snapshot that is written of a prompt. -/
def snapshotOf (userPrompt : Option DecisionPrompt) (tickCounter : Nat) (renderedAt : Int) :
    PromptSnapshot :=
  { botId := bot.botId
    orgId := bot.orgId
    systemPrompt := bot.systemPrompt
    userPrompt
    tick := tickCounter
    renderedAt }

def writePrompt (snapshot : PromptSnapshot) (fate : PutFate) (table : PromptSnapshotTable) :
    PromptSnapshotTable :=
  if bot.snapshots = true then (PromptSnapshotStore.write table snapshot fate).2 else table

/-- `_append_memory_line`. -/
def appendMemoryLine (decision : BotDecision) (bucket : Bucket) : Bucket :=
  match bot.memoryStore with
  | none => bucket
  | some store =>
      (store.appendToToday tick.memoryFaults bucket tick.memoryFate tick.filedAt
        (formatMemoryLine tick.print decision tick.prices tick.ledger (gmtime tick.notedAt))).2

/-- The quantity of a decision: the field of an intent takes finite decimals only. -/
def quantityOf (characters : Characters) (text : String) : Except PyError Decimal :=
  match decimal characters text with
  | .error error => .error error
  | .ok (.finite value) => .ok value
  | .ok _ => .error (.valueError [.text "Input should be a finite number"])

/-- What a decision sends to the coordinator. -/
def intentOf (decision : BotDecision) : Except PyError (Option TradeIntent) :=
  let action := mapAction decision.action
  if action = .hold ∨ action = .noop then .ok none
  else
    match quantityOf tick.characters decision.quantity with
    | .error error => .error error
    | .ok quantity =>
        .ok (some
          { botId := bot.botId
            orgId := bot.orgId
            symbol := decision.symbol
            action
            quantity
            rationale := decision.rationale })

/-- What a tick leaves behind. -/
structure Decided where
  outcome : Except PyError (Option TradeIntent)
  state : BotState
  stores : BotStores

def decide (state : BotState) (stores : BotStores) : Decided :=
  let pruned := bot.prune tick state
  let prompt := bot.promptOf tick pruned
  let shown := { pruned with tickCounter := pruned.tickCounter + 1 }
  let stores :=
    { stores with
      heartbeats := bot.writeBeat tick pruned stores.heartbeats
      prompts := bot.writePrompt (bot.snapshotOf (some prompt) shown.tickCounter tick.renderedAt)
        tick.promptFate stores.prompts }
  match tick.answer with
  | .error _ => ⟨.ok none, { shown with errorTs := shown.errorTs ++ [tick.answeredAt] }, stores⟩
  | .ok answer =>
      let answered := { shown with lastDecisionAt := tick.answeredAt }
      match answer with
      | none => ⟨.ok none, answered, stores⟩
      | some decision =>
          ⟨bot.intentOf tick decision,
            { answered with
              recentDecisions := remember maxHistory answered.recentDecisions
                (recentLine decision) },
            { stores with memory := bot.appendMemoryLine tick decision stores.memory }⟩

end StrategyBot

end TradingStrands.Strategies
