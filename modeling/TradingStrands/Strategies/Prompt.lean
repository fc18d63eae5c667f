import TradingStrands.Foundation.Dict
import TradingStrands.Foundation.PutFate
import TradingStrands.Ledger.Models

/-!
Owns what a bot's model is shown: the parts of the prompt of a tick, and the store
that keeps the last prompt of each bot. Sections that come from a store say why when
there is nothing to say.

The fixed texts around the parts are left out.
-/

namespace TradingStrands.Strategies

open TradingStrands.Foundation

/-- How values are written into a text. -/
structure Printing where
  decimal : Decimal → String
  /-- In percent, with two places. -/
  percent : Decimal → String
  upper : String → String

def formatMarketData (print : Printing) (prices : Dict Symbol Decimal) : String :=
  if prices.entries = [] then "No market data available."
  else
    "\n".intercalate
      ((prices.entries.mergeSort fun left right => left.1 ≤ right.1).map fun entry =>
        "  " ++ entry.1 ++ ": $" ++ print.decimal entry.2)

def formatPosition (print : Printing) (position : Position) : String :=
  "  " ++ position.symbol ++ ": " ++ print.decimal position.quantity ++ " shares @ $" ++
    print.decimal position.burdenedCostBasis ++ " cost basis"

def formatPortfolio (print : Printing) (ledger : Ledger) : String :=
  "\n".intercalate
    (["Starting capital: $" ++ print.decimal ledger.startingCapital,
      "Equity: $" ++ print.decimal ledger.equity,
      "Realized PnL: $" ++ print.decimal ledger.realizedPnl,
      "High water mark: $" ++ print.decimal ledger.highWaterMark,
      "Drawdown: " ++ print.percent ledger.drawdownPct] ++
    if ledger.openPositions = [] then ["No open positions."]
    else "Open positions:" :: ledger.openPositions.map (formatPosition print))

/-- A store that a section of the prompt is read from. -/
structure ContextSource where
  wired : Bool := false
  enabled : Bool := false
deriving DecidableEq, Repr

/-- A section, given what reading and summarising its store comes to. -/
def contextSection (notWired disabled failed : String) (source : ContextSource)
    (summary : Except PyError String) : String :=
  if source.wired = false then notWired
  else if source.enabled = false then disabled
  else
    match summary with
    | .ok text => text
    | .error _ => failed

def buildTaContext : ContextSource → Except PyError String → String :=
  contextSection "(no TA wired)" "(TA disabled for this strategy)" "TA read failed."

def buildCalendarContext : ContextSource → Except PyError String → String :=
  contextSection "(no calendar wired)" "(calendar disabled for this strategy)"
    "Calendar read failed."

/-- The earlier decisions, numbered. -/
def formatRecent (recent : List String) : String :=
  "\n".intercalate (recent.mapIdx fun index decision =>
    "  " ++ toString (index + 1) ++ ". " ++ decision)

/-- The parts of the prompt of a tick. -/
structure DecisionPrompt where
  strategyPrompt : String
  marketData : String
  calendarContext : String
  taContext : String
  portfolioState : String
  recentDecisions : String
deriving DecidableEq, Repr

/-! ### The store of the last prompts -/

structure PromptSnapshot where
  botId : BotId
  orgId : OrgId
  systemPrompt : String
  /-- Nothing before the first tick. -/
  userPrompt : Option DecisionPrompt
  tick : Nat
  renderedAt : Int
deriving DecidableEq, Repr

abbrev PromptSnapshotTable : Type := Dict String PromptSnapshot

namespace PromptSnapshotStore

def promptPk (botId : BotId) : String := "PROMPTSNAPSHOT#" ++ botId

def writePrompt (snapshot : PromptSnapshot) (table : PromptSnapshotTable) : PromptSnapshotTable :=
  table.set (promptPk snapshot.botId) snapshot

/-- A write, which may raise. -/
def write (table : PromptSnapshotTable) (snapshot : PromptSnapshot) (fate : PutFate) :
    Except PyError Unit × PromptSnapshotTable :=
  fate.put (writePrompt snapshot) table

def get (table : PromptSnapshotTable) (botId : BotId) : Option PromptSnapshot :=
  table.get? (promptPk botId)

theorem promptPk_eq_iff {left right : BotId} : promptPk left = promptPk right ↔ left = right := by
  unfold promptPk
  rw [String.append_right_inj]

/-- A write replaces the snapshot of its bot, if it is kept. -/
theorem get_write (table : PromptSnapshotTable) (snapshot : PromptSnapshot) (fate : PutFate)
    (botId : BotId) :
    get (write table snapshot fate).2 botId =
      if snapshot.botId = botId ∧ fate.keeps = true then some snapshot else get table botId := by
  unfold get write
  rw [PutFate.snd_put]
  by_cases kept : fate.keeps = true
  · rw [if_pos kept, writePrompt, Dict.get?_set]
    by_cases own : botId = snapshot.botId
    · rw [if_pos (promptPk_eq_iff.mpr own), if_pos ⟨own.symm, kept⟩]
    · rw [if_neg (promptPk_eq_iff.not.mpr own), if_neg fun both => own both.1.symm]
  · rw [if_neg kept, if_neg fun both => kept both.2]

end PromptSnapshotStore

end TradingStrands.Strategies
