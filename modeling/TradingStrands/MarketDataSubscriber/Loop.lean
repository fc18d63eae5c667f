import TradingStrands.Heartbeat.Store
import TradingStrands.MarketDataStore.Range
import TradingStrands.StrategiesStore.Watched

/-!
Owns the subscriber's loop. A cycle beats, refreshes the watched symbols if that is
due, polls a quote for each of them in order and flushes the store; what any of
these raises is swallowed. A quote that cannot be had is counted; a price that
cannot be read, and a tick that cannot be recorded, end the poll.

`Cycle` says what the calls of a cycle answer, clocks included. A price that is no
finite number is not a value of the model.
-/

namespace TradingStrands.MarketDataSubscriber

open TradingStrands.Foundation MarketDataStore HeartbeatStore

/-- What asking the broker for a quote comes to. -/
inductive QuoteAnswer
  | raises (error : PyError)
  /-- The quote has no price. -/
  | missing
  | price (value : Decimal)
  /-- Looking the price up or reading it as a decimal raises. -/
  | unreadable (error : PyError)

/-- What the calls made for a symbol in a poll answer. -/
structure SymbolPoll where
  quote : QuoteAnswer
  /-- The moment of the tick. -/
  timestamp : Int
  /-- The clock that the store reads. -/
  storeClock : Int
  faults : Faults

structure PollSummary where
  fetched : Nat := 0
  errorSymbols : List String := []
deriving DecidableEq, Repr

def PollSummary.errors (summary : PollSummary) : Nat := summary.errorSymbols.length

/-- A call whose caller goes on whatever it raises. -/
def attemptStore (store : MarketDataStore) (call : Attempt) : MarketDataStore :=
  (store.attempt call).store

/-- The call that records a price. -/
def SymbolPoll.record (poll : SymbolPoll) (symbol : String) (price : Decimal) : Attempt :=
  .recordTick { timestamp := poll.timestamp, symbol, price } poll.storeClock poll.faults

/-- The symbols in turn. -/
def pollSymbols (polls : String → SymbolPoll) :
    List String → PollSummary → MarketDataStore → Except PyError PollSummary × MarketDataStore
  | [], summary, store => (.ok summary, store)
  | symbol :: rest, summary, store =>
      match (polls symbol).quote with
      | .raises _ | .missing =>
          pollSymbols polls rest
            { summary with errorSymbols := summary.errorSymbols ++ [symbol] } store
      | .unreadable error => (.error error, store)
      | .price price =>
          let after := store.attempt ((polls symbol).record symbol price)
          match after.outcome with
          | .error error => (.error error, after.store)
          | .ok () =>
              pollSymbols polls rest { summary with fetched := summary.fetched + 1 } after.store

def pollOnce (polls : String → SymbolPoll) (symbols : Finset String) (store : MarketDataStore) :
    Except PyError PollSummary × MarketDataStore :=
  if symbols = ∅ then (.ok {}, store) else pollSymbols polls (inOrder symbols) {} store

/-- What the calls of a cycle answer. -/
structure Cycle where
  /-- The clock of the beat and what becomes of it, if there is a heartbeat store. -/
  beat : Option (Int × PutFate)
  monotonic : ℚ
  strategies : Except PyError (List Strategy)
  polls : String → SymbolPoll
  flushClock : Int
  flushFaults : Faults

structure Subscriber where
  symbols : Finset String := ∅
  lastRefresh : ℚ := 0
  store : MarketDataStore := {}
  heartbeats : HeartbeatTable := Dict.empty

section Running

variable (upper : String → String) (agentId : String) (refreshInterval : ℚ)

def agent : AgentName := ⟨⟨"subscriber", by decide⟩, agentId⟩

def beatCycle (subscriber : Subscriber) (cycle : Cycle) : Subscriber :=
  match cycle.beat with
  | none => subscriber
  | some (now, fate) =>
      { subscriber with
        heartbeats := (beat subscriber.heartbeats { agent := agent agentId } now fate).2 }

/-- Whether a cycle refreshes the symbols. -/
def Due (subscriber : Subscriber) (cycle : Cycle) : Prop :=
  refreshInterval ≤ cycle.monotonic - subscriber.lastRefresh

instance (subscriber : Subscriber) (cycle : Cycle) :
    Decidable (Due refreshInterval subscriber cycle) :=
  inferInstanceAs (Decidable (_ ≤ _))

/-- A listing that fails leaves the symbols as they are, and is not tried again
before the interval has passed. -/
def refresh (subscriber : Subscriber) (cycle : Cycle) : Subscriber :=
  if Due refreshInterval subscriber cycle then
    { subscriber with
      symbols := match cycle.strategies with
        | .error _ => subscriber.symbols
        | .ok strategies => watchedSymbols upper strategies
      lastRefresh := cycle.monotonic }
  else subscriber

/-- One turn of `run_forever`. -/
def cycleStep (subscriber : Subscriber) (cycle : Cycle) : Subscriber :=
  let subscriber := refresh upper refreshInterval (beatCycle agentId subscriber cycle) cycle
  let (_, store) := pollOnce cycle.polls subscriber.symbols subscriber.store
  { subscriber with store := attemptStore store (.flush cycle.flushClock cycle.flushFaults) }

/-! ### The calls of a cycle -/

/-- The calls that record ticks in a poll. -/
def recordsOf (polls : String → SymbolPoll) : List String → MarketDataStore → List Attempt
  | [], _ => []
  | symbol :: rest, store =>
      match (polls symbol).quote with
      | .raises _ | .missing => recordsOf polls rest store
      | .unreadable _ => []
      | .price price =>
          let call := (polls symbol).record symbol price
          let after := store.attempt call
          match after.outcome with
          | .error _ => [call]
          | .ok () => call :: recordsOf polls rest after.store

/-- A poll makes its calls one after the other. -/
theorem snd_pollSymbols (polls : String → SymbolPoll) (symbols : List String)
    (summary : PollSummary) (store : MarketDataStore) :
    (pollSymbols polls symbols summary store).2 =
      run attemptStore store (recordsOf polls symbols store) := by
  induction symbols generalizing summary store with
  | nil => rfl
  | cons symbol rest inductionHypothesis =>
      unfold pollSymbols recordsOf
      cases quote : (polls symbol).quote with
      | raises error => exact inductionHypothesis _ _
      | missing => exact inductionHypothesis _ _
      | unreadable error => rfl
      | price price =>
          dsimp only
          cases outcome : (store.attempt ((polls symbol).record symbol price)).outcome with
          | error error => rfl
          | ok done => exact inductionHypothesis _ _

/-- All calls that a cycle makes to the store. -/
def callsOf (subscriber : Subscriber) (cycle : Cycle) : List Attempt :=
  recordsOf cycle.polls
    (inOrder (refresh upper refreshInterval (beatCycle agentId subscriber cycle) cycle).symbols)
    subscriber.store ++ [.flush cycle.flushClock cycle.flushFaults]

theorem store_refresh (subscriber : Subscriber) (cycle : Cycle) :
    (refresh upper refreshInterval (beatCycle agentId subscriber cycle) cycle).store =
      subscriber.store := by
  unfold refresh beatCycle
  split <;> split <;> rfl

theorem inOrder_empty : inOrder ∅ = [] := Finset.sort_empty _

theorem store_cycleStep (subscriber : Subscriber) (cycle : Cycle) :
    (cycleStep upper agentId refreshInterval subscriber cycle).store =
      run attemptStore subscriber.store
        (callsOf upper agentId refreshInterval subscriber cycle) := by
  have polled : ∀ symbols : Finset String,
      (pollOnce cycle.polls symbols subscriber.store).2 =
        run attemptStore subscriber.store
          (recordsOf cycle.polls (inOrder symbols) subscriber.store) := by
    intro symbols
    unfold pollOnce
    by_cases empty : symbols = ∅
    · rw [if_pos empty, empty, inOrder_empty]
      rfl
    · rw [if_neg empty, snd_pollSymbols]
  unfold cycleStep callsOf
  dsimp only
  rw [run_concat, store_refresh, polled]

/-- The calls of all cycles, one cycle after the other. -/
def callsOfRun : Subscriber → List Cycle → List Attempt :=
  outputs (cycleStep upper agentId refreshInterval) (callsOf upper agentId refreshInterval)

theorem store_run (subscriber : Subscriber) (cycles : List Cycle) :
    (run (cycleStep upper agentId refreshInterval) subscriber cycles).store =
      run attemptStore subscriber.store
        (callsOfRun upper agentId refreshInterval subscriber cycles) :=
  run_view_outputs (cycleStep upper agentId refreshInterval) Subscriber.store
    (fun subscriber cycle _ => store_cycleStep upper agentId refreshInterval subscriber cycle)
    subscriber

end Running

end TradingStrands.MarketDataSubscriber
