import Mathlib.Data.Finset.Sort
import Mathlib.Data.String.Basic
import TradingStrands.StrategiesStore.Store

/-!
Owns which symbols are watched: those of the active strategies, in upper case.
The snapshot computer, the market data subscriber and the filings watcher each
collect them, in the same way, and take them in order.

`upper` is the language's.
-/

namespace TradingStrands

open TradingStrands.Foundation

/-- The symbols of the active strategies, with blanks left out. -/
def watchedSymbols (upper : String → String) (strategies : List Strategy) : Finset String :=
  ((strategies.filter fun strategy => strategy.status = .active).flatMap fun strategy =>
    (strategy.symbols.filter fun symbol => symbol ≠ "").map upper).toFinset

/-- `sorted(symbols)`. -/
def inOrder (symbols : Finset String) : List String := symbols.sort (· ≤ ·)

theorem mem_inOrder {symbols : Finset String} {symbol : String} :
    symbol ∈ inOrder symbols ↔ symbol ∈ symbols :=
  Finset.mem_sort _

theorem nodup_inOrder (symbols : Finset String) : (inOrder symbols).Nodup :=
  Finset.sort_nodup _ _

theorem mem_watchedSymbols {upper : String → String} {strategies : List Strategy}
    {symbol : String} :
    symbol ∈ watchedSymbols upper strategies ↔
      ∃ strategy ∈ strategies, strategy.status = .active ∧
        ∃ named ∈ strategy.symbols, named ≠ "" ∧ upper named = symbol := by
  unfold watchedSymbols
  simp only [List.mem_toFinset, List.mem_flatMap, List.mem_filter, List.mem_map,
    decide_eq_true_eq, and_assoc]

namespace TaComputer

def collectWatchedSymbols : (String → String) → List Strategy → Finset String := watchedSymbols

end TaComputer

end TradingStrands
