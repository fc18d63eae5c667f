import TradingStrands.Foundation.PutFate
import TradingStrands.Foundation.Reading
import TradingStrands.MarketDataStore.Range
import TradingStrands.StrategiesStore.Watched
import TradingStrands.TaSnapshot.Macd
import TradingStrands.TaSnapshot.Rsi
import TradingStrands.TaSnapshot.Store

/-!
Owns the computer of snapshots. For each watched symbol it gathers the closes of
the hour of the clock and of the four before it, computes the indicators and
writes a snapshot. A symbol that fails is counted and passed over.

`SymbolCalls` says what the calls made for a symbol answer, clocks included.
Closes that are no finite numbers are not values of the model.
-/

namespace TradingStrands.TaComputer

open TradingStrands.Foundation TASnapshotStore MarketDataStore

/-- What the close of a bar reads as. -/
inductive CloseRead
  | missing
  | malformed
  | close (value : Decimal)
deriving DecidableEq, Repr

def CloseRead.value? : CloseRead → Option Decimal
  | .close value => some value
  | _ => none

/-- The closes of an hour's bars, in the order of their minutes; one that cannot be
read is left out. -/
def closesFromHourMap (hourMap : List (String × CloseRead)) : List Decimal :=
  (oldestFirst Prod.fst hourMap).filterMap fun entry => entry.2.value?

def barLookbackHours : Nat := 4

/-- `range(_BAR_LOOKBACK_HOURS, -1, -1)`. -/
def lookbackOffsets : List Nat := (List.range (barLookbackHours + 1)).reverse

def gatherRecentCloses (getHour : String → String → Except PyError (List (String × CloseRead)))
    (symbol : String) (now : ℚ) : Except PyError (List Decimal) := do
  let hours ← lookbackOffsets.mapM fun offset : Nat =>
    getHour symbol (hourBucket ⌊now - (offset : ℚ) * 3600⌋)
  return hours.flatMap closesFromHourMap

/-- What the calls made for a symbol answer. -/
structure SymbolCalls where
  getHour : String → String → Except PyError (List (String × CloseRead))
  /-- The clock when the closes are gathered. -/
  gatheredAt : ℚ
  /-- The clock when the snapshot is made. -/
  computedAt : Int
  putSnapshot : PutFate

section Running

variable (sqrt : Decimal → Decimal)

/-- Whether a snapshot was written. -/
def runComputeForSymbol (symbol : String) (calls : SymbolCalls) (table : TASnapshotTable) :
    Except PyError Bool × TASnapshotTable :=
  match gatherRecentCloses calls.getHour symbol calls.gatheredAt with
  | .error error => (.error error, table)
  | .ok closes =>
      if closes = [] then (.ok false, table)
      else
        match TaSnapshot.computeSnapshot sqrt closes with
        | .error error => (.error error, table)
        | .ok indicators =>
            let snap : TASnapshot := { indicators with symbol, computedAt := calls.computedAt }
            match calls.putSnapshot.put (putSnapshot · snap) table with
            | (.error error, table) => (.error error, table)
            | (.ok (), table) => (.ok true, table)

structure RunSummary where
  totalSymbols : Nat
  written : Nat := 0
  skipped : Nat := 0
  errors : Nat := 0
deriving DecidableEq, Repr

def RunSummary.count (summary : RunSummary) : Except PyError Bool → RunSummary
  | .ok true => { summary with written := summary.written + 1 }
  | .ok false => { summary with skipped := summary.skipped + 1 }
  | .error _ => { summary with errors := summary.errors + 1 }

/-- The symbols in turn. -/
def runSymbols (calls : String → SymbolCalls) :
    List String → RunSummary → TASnapshotTable → RunSummary × TASnapshotTable
  | [], summary, table => (summary, table)
  | symbol :: rest, summary, table =>
      let (outcome, table) := runComputeForSymbol sqrt symbol (calls symbol) table
      runSymbols calls rest (summary.count outcome) table

variable (upper : String → String)

/-- One run of the computer. Only the listing of the strategies can make it raise. -/
def runAll (strategies : Except PyError (List Strategy)) (calls : String → SymbolCalls)
    (table : TASnapshotTable) : Except PyError RunSummary × TASnapshotTable :=
  match strategies with
  | .error error => (.error error, table)
  | .ok strategies =>
      let symbols := collectWatchedSymbols upper strategies
      let (summary, table) :=
        runSymbols sqrt calls (inOrder symbols) { totalSymbols := symbols.card } table
      (.ok summary, table)

end Running

end TradingStrands.TaComputer
