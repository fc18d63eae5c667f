import TradingStrands.EdgarWatcher.Submissions
import TradingStrands.Foundation.PutFate
import TradingStrands.FilingsStore.Store
import TradingStrands.AuditorAgent.Runner

/-!
Owns the ingestion of a ticker's filings: each filing that is not in the index
is fetched, its body is stored, and then its row is written. A run over several
tickers takes them one after the other.

A call can fail at any filing. `FilingCalls` says what the four calls made for
one of them answer.

Does not own: which symbols are watched, and how their companies are found.
-/

namespace TradingStrands.EdgarWatcher

open TradingStrands.Foundation FilingsIndexStore

/-- What the calls made for a filing answer. -/
structure FilingCalls where
  /-- The error of the lookup in the index, if it raises. -/
  indexGet : Option PyError
  filingBody : Except PyError String
  bodyPut : PutFate
  indexPut : PutFate
  indexedAt : Int
  putAt : Int

/-- A filing and the calls made for it. -/
structure Turn where
  filing : Filing
  calls : FilingCalls

/-- The two stores, and what has been asked of the client. -/
structure WatchState where
  index : Table
  bodies : Dict String String
  /-- Company, accession and document of each body that was asked for. -/
  asked : List (String × String × String) := []

/-- `body[:500].strip()`. -/
def summaryOf (body : String) : String := AuditorAgent.strip (String.ofList (body.toList.take 500))

/-- Forms watched unless others are named. -/
def defaultFormTypes : List String := ["8-K", "4"]

/-- `_MAX_PER_TICKER`. -/
def maxPerTicker : Nat := 20

section Watching

variable (builtins : Builtins) (str : JsonValue → String) (ticker cik : String)

def Turn.bodyKey (turn : Turn) : String :=
  buildBodyKey builtins ticker turn.filing.formType turn.filing.accession

/-- The row of a filing whose body has been stored. -/
def Turn.row (turn : Turn) (body : String) : FilingIndex :=
  { ticker := builtins.upper ticker, accession := turn.filing.accession
    formType := turn.filing.formType, filingDate := turn.filing.filingDate
    summary := summaryOf body, bodyS3Key := turn.bodyKey builtins ticker
    indexedAt := turn.calls.indexedAt }

def Turn.ask (turn : Turn) (state : WatchState) : WatchState :=
  { state with
    asked := state.asked ++ [(cik, turn.filing.accession, turn.filing.primaryDocument)] }

def Turn.storeBody (turn : Turn) (body : String) (state : WatchState) : WatchState :=
  { state with bodies := state.bodies.set (turn.bodyKey builtins ticker) body }

def Turn.storeRow (turn : Turn) (body : String) (state : WatchState) : WatchState :=
  { state with index := put builtins (turn.row builtins ticker body) turn.calls.putAt state.index }

/-- Look a filing up. -/
def Turn.lookup (turn : Turn) (state : WatchState) : Except PyError (Option FilingIndex) :=
  match turn.calls.indexGet with
  | some error => .error error
  | none => get builtins ticker turn.filing.accession state.index

/-- One filing: whether it landed. The lookup and the write of the row are not
guarded. -/
def processFiling (turn : Turn) (state : WatchState) : Except PyError Bool × WatchState :=
  match turn.lookup builtins ticker state with
  | .error error => (.error error, state)
  | .ok (some _) => (.ok false, state)
  | .ok none =>
      let state := turn.ask cik state
      match turn.calls.filingBody with
      | .error _ => (.ok false, state)
      | .ok body =>
          match turn.calls.bodyPut.put (turn.storeBody builtins ticker body) state with
          | (.error _, state) => (.ok false, state)
          | (.ok _, state) =>
              match turn.calls.indexPut.put (turn.storeRow builtins ticker body) state with
              | (.error error, state) => (.error error, state)
              | (.ok _, state) => (.ok true, state)

def processFilings : List Turn → Nat → WatchState → Except PyError Nat × WatchState
  | [], landed, state => (.ok landed, state)
  | turn :: rest, landed, state =>
      match processFiling builtins ticker cik turn state with
      | (.error error, state) => (.error error, state)
      | (.ok here, state) => processFilings rest (landed + here.toNat) state

/-- The filings of a feed with the calls made for each. -/
def turnsOf (filings : List Filing) (calls : Nat → FilingCalls) : List Turn :=
  filings.mapIdx fun index filing => { filing, calls := calls index }

/-- The filings that are read of a payload. -/
def watchedFilings (formTypes : Option (List String)) (raw : JsonValue) :
    Except PyError (List Filing) :=
  let formTypes := if formTypes.getD [] = [] then defaultFormTypes else formTypes.getD []
  parseSubmissionsJson str builtins.upper ticker (some formTypes) maxPerTicker raw

/-- Pull the new filings of a ticker; answers how many landed. -/
def processTicker (submissions : Except PyError JsonValue) (formTypes : Option (List String))
    (calls : Nat → FilingCalls) (state : WatchState) : Except PyError Nat × WatchState :=
  match submissions with
  | .error _ => (.ok 0, state)
  | .ok raw =>
      match watchedFilings builtins str ticker formTypes raw with
      | .error error => (.error error, state)
      | .ok filings => processFilings builtins ticker cik (turnsOf filings calls) 0 state

end Watching

/-! ### A run over the tickers -/

/-- What the client and the stores answer in a run, ticker by ticker. -/
structure Feed where
  submissions : String → Except PyError JsonValue
  calls : String → Nat → FilingCalls

structure RunReport where
  unknownTickers : List String := []
  landed : Nat := 0

/-- The tickers in turn. A ticker without a company is noted. -/
def runTickers (builtins : Builtins) (str : JsonValue → String) (tickerToCik : Dict String String)
    (feed : Feed) : List String → RunReport → WatchState → Except PyError RunReport × WatchState
  | [], report, state => (.ok report, state)
  | ticker :: rest, report, state =>
      match tickerToCik.get? ticker with
      | none =>
          runTickers builtins str tickerToCik feed rest
            { report with unknownTickers := report.unknownTickers ++ [ticker] } state
      | some cik =>
          match processTicker builtins str ticker cik (feed.submissions ticker) none
              (feed.calls ticker) state with
          | (.error error, state) => (.error error, state)
          | (.ok landed, state) =>
              runTickers builtins str tickerToCik feed rest
                { report with landed := report.landed + landed } state

end TradingStrands.EdgarWatcher
