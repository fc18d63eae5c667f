import TradingStrands.Foundation.Calendar
import TradingStrands.Foundation.Dict
import TradingStrands.Foundation.Padded
import TradingStrands.Foundation.Rounding
import Mathlib.Order.Bounds.Basic

/-!
Owns the market data store: ticks are buffered by symbol and minute, and a
minute is written as one bar into the row of its hour when a tick of another
minute of the symbol arrives or the store is flushed. A bar that is written
takes the place of the minute's earlier bar.

A row holds the values its attributes encode. The clock of a call is read once.
-/

namespace TradingStrands

open TradingStrands.Foundation

/-- A single observation. -/
structure MarketBar where
  timestamp : Int
  symbol : String
  price : Decimal
  volume : Decimal := 0
deriving DecidableEq, Repr

/-- The `YYYYMMDDHH` key of a moment. -/
def hourBucket (timestamp : Int) : String :=
  let moment := gmtime timestamp
  String.ofList (paddedInt 4 moment.year ++ paddedDigits 2 moment.month ++
    paddedDigits 2 moment.day ++ paddedDigits 2 moment.hour)

/-- The `MM` key of a moment. -/
def minuteKey (timestamp : Int) : String :=
  String.ofList (paddedDigits 2 (gmtime timestamp).minute)

/-- The bar of a minute as it is stored. -/
structure StoredBar where
  openPrice : Decimal
  high : Decimal
  low : Decimal
  closePrice : Decimal
  volume : Decimal
  samples : Nat
  firstTs : Int
  lastTs : Int
deriving DecidableEq, Repr

/-- The row of a symbol and an hour. -/
structure HourRow where
  symbol : String
  bucket : String
  ttl : Int
  minuteBars : Dict String StoredBar := Dict.empty
  lastUpdated : Int
deriving DecidableEq

structure BufferKey where
  symbol : String
  bucket : String
  minute : String
deriving DecidableEq, Repr

structure MarketDataStore where
  table : Dict String HourRow := Dict.empty
  retentionDays : Int := 90
  buffer : Dict BufferKey (List MarketBar) := Dict.empty

namespace MarketDataStore

def hourPk (symbol bucket : String) : String := "MARKETDATA" ++ "#" ++ symbol ++ "#" ++ bucket

/-- One minute's observations as a bar. -/
def aggregate (first : MarketBar) (rest : List MarketBar) : StoredBar :=
  { openPrice := first.price
    high := (rest.map (·.price)).foldl max first.price
    low := (rest.map (·.price)).foldl min first.price
    closePrice := (rest.getLastD first).price
    volume := ((first :: rest).map (·.volume)).foldl DecimalContext.default.add 0
    samples := (first :: rest).length
    firstTs := first.timestamp
    lastTs := (rest.getLastD first).timestamp }

/-- The bar says what the ticks of a minute came to, in the order they were
recorded. -/
structure IsBarOf (bar : StoredBar) (ticks : List MarketBar) : Prop where
  openPrice : (ticks.head?.map (·.price)) = some bar.openPrice
  high : IsGreatest {price | ∃ tick ∈ ticks, tick.price = price} bar.high
  low : IsLeast {price | ∃ tick ∈ ticks, tick.price = price} bar.low
  closePrice : (ticks.getLast?.map (·.price)) = some bar.closePrice
  volume : bar.volume = (ticks.map (·.volume)).sum
  samples : bar.samples = ticks.length

theorem isGreatest_foldl_max (first : Decimal) (rest : List Decimal) :
    IsGreatest {price | price ∈ first :: rest} (rest.foldl max first) :=
  List.max?_eq_some_iff.mp List.max?_cons'

theorem isLeast_foldl_min (first : Decimal) (rest : List Decimal) :
    IsLeast {price | price ∈ first :: rest} (rest.foldl min first) :=
  List.min?_eq_some_iff.mp List.min?_cons'

/-- The volumes, added up in the decimal context, come to their sum. -/
def VolumeKept (ticks : List MarketBar) : Prop :=
  (ticks.map (·.volume)).foldl DecimalContext.default.add 0 = (ticks.map (·.volume)).sum

/-- Ticks without a volume, as the subscriber records them, lose none. -/
theorem volumeKept_of_zero {ticks : List MarketBar} (none : ∀ tick ∈ ticks, tick.volume = 0) :
    VolumeKept ticks := by
  have still : DecimalContext.default.add 0 0 = 0 := by
    unfold DecimalContext.add
    rw [add_zero, DecimalContext.round_zero]
  unfold VolumeKept
  induction ticks with
  | nil => rfl
  | cons tick rest inductionHypothesis =>
      rw [List.map_cons, List.foldl_cons, List.sum_cons, none tick List.mem_cons_self, still,
        zero_add]
      exact inductionHypothesis fun later member => none later (List.mem_cons_of_mem tick member)

/-- Every minute is written as what its observations came to, if no volume is
rounded away. -/
theorem isBarOf_aggregate {first : MarketBar} {rest : List MarketBar}
    (kept : VolumeKept (first :: rest)) : IsBarOf (aggregate first rest) (first :: rest) := by
  have prices : {price | ∃ tick ∈ first :: rest, tick.price = price} =
      {price | price ∈ first.price :: rest.map (·.price)} := by
    ext price
    rw [← List.map_cons (f := fun tick : MarketBar => tick.price)]
    exact List.mem_map.symm
  constructor
  case openPrice => rfl
  case high =>
    rw [prices]
    exact isGreatest_foldl_max first.price (rest.map (·.price))
  case low =>
    rw [prices]
    exact isLeast_foldl_min first.price (rest.map (·.price))
  case closePrice =>
    show _ = some (rest.getLastD first).price
    rw [List.getLast?_cons, List.getLastD_eq_getLast?, Option.map_some]
  case volume => exact kept
  case samples => rfl

/-- Set a minute of a row, which is made if it is not there. -/
def writeBar (store : MarketDataStore) (key : BufferKey) (bar : StoredBar) (now : Int) :
    MarketDataStore :=
  let pk := hourPk key.symbol key.bucket
  let row := (store.table.get? pk).getD
    { symbol := key.symbol, bucket := key.bucket, ttl := now + store.retentionDays * 86400
      lastUpdated := now }
  let row := { row with minuteBars := row.minuteBars.set key.minute bar, lastUpdated := now }
  { store with table := store.table.set pk row }

def flushOne (now : Int) (store : MarketDataStore) (key : BufferKey) : MarketDataStore :=
  let observations := store.buffer.get? key
  let store := { store with buffer := store.buffer.erase key }
  match observations with
  | some (first :: rest) => store.writeBar key (aggregate first rest) now
  | _ => store

/-- Write the minutes of the symbol that are not the current one. -/
def flushCompletedMinutes (now : Int) (store : MarketDataStore) (current : BufferKey) :
    MarketDataStore :=
  let completed := store.buffer.keys.filter fun key =>
    key.symbol = current.symbol ∧ ¬ (key.bucket = current.bucket ∧ key.minute = current.minute)
  completed.foldl (flushOne now) store

def keyOf (bar : MarketBar) : BufferKey :=
  ⟨bar.symbol, hourBucket bar.timestamp, minuteKey bar.timestamp⟩

def recordTick (now : Int) (store : MarketDataStore) (bar : MarketBar) : MarketDataStore :=
  let key := keyOf bar
  let observations := (store.buffer.get? key).getD [] ++ [bar]
  flushCompletedMinutes now { store with buffer := store.buffer.set key observations } key

def flush (now : Int) (store : MarketDataStore) : MarketDataStore :=
  store.buffer.keys.foldl (flushOne now) store

/-- The minute bars of a symbol and an hour. -/
def getHour (store : MarketDataStore) (symbol bucket : String) : Dict String StoredBar :=
  match store.table.get? (hourPk symbol bucket) with
  | none => Dict.empty
  | some row => row.minuteBars

/-- A call of the store and the clock it reads. -/
inductive Call
  | recordTick (bar : MarketBar) (now : Int)
  | flush (now : Int)

def step (store : MarketDataStore) : Call → MarketDataStore
  | .recordTick bar now => store.recordTick now bar
  | .flush now => store.flush now

end MarketDataStore

end TradingStrands
