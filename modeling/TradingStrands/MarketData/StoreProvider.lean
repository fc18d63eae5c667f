import TradingStrands.Foundation.Numeral
import TradingStrands.Foundation.Reading
import TradingStrands.Ledger.Models
import TradingStrands.MarketDataStore.Range

/-!
Owns the price provider that reads the market data store first and falls back to
the broker. The store's answers, the broker's quotes and the clock at each read
are inputs; a stored bar is what its attributes read as.

The reader looks at the hour of the clock, and at the hour before it only if the
first has no bars. Over a table that the store wrote, the bar it finds is the
newest of the symbol, because bars are filed under the hour of their last tick.

The batch agrees with the single reads on every symbol exactly when no failure
reaches it: the store read and the quote's own price are not guarded.
-/

namespace TradingStrands

open TradingStrands.Foundation

/-- What the attributes of a stored bar read as. -/
structure BarRead where
  lastTs : Except PyError Int
  /-- The closing price, unless its text is empty. -/
  close : Option (Except PyError Numeral)

/-- The last tick of a bar that has a readable one. -/
def BarRead.moment (bar : BarRead) : Int := bar.lastTs.toOption.getD 0

/-- The price of a quote. -/
inductive QuotedPrice
  | decimal (value : Numeral)
  | missing
  /-- No decimal; what the decimal of its text is. -/
  | other (read : Except PyError Numeral)

/-- The price as a decimal; the text of a missing one is no numeral. -/
def QuotedPrice.toDecimal : QuotedPrice → Except PyError Numeral
  | .decimal value => .ok value
  | .missing => .error .invalidOperation
  | .other read => read

/-- A quote, by what looking up its price gives: it may be no mapping. -/
structure Quote where
  price : Except PyError QuotedPrice

structure StoreBackedMarketDataProvider where
  getHour : Symbol → String → Except PyError (List BarRead)
  getQuote : Symbol → Except PyError Quote
  /-- The clock when the symbol is read. -/
  now : Symbol → ℚ
  staleness : ℚ := 120

namespace StoreBackedMarketDataProvider

open MarketDataStore

/-- The bars of the hour, or of the hour before it if it has none. -/
def hourBars (provider : StoreBackedMarketDataProvider) (symbol : Symbol) :
    Except PyError (List BarRead) := do
  let bars ← provider.getHour symbol (hourBucket ⌊provider.now symbol⌋)
  if bars.isEmpty = true then
    provider.getHour symbol (hourBucket ⌊provider.now symbol - 3600⌋)
  else pure bars

/-- Find the bar with the newest last tick, from the best so far. -/
def newestBar : List BarRead → Int × Option BarRead → Except PyError (Int × Option BarRead)
  | [], best => .ok best
  | bar :: rest, best => do
      let ts ← bar.lastTs
      newestBar rest (if ts > best.1 then (ts, some bar) else best)

/-- The most recent price from the store, if it is not too old. -/
def readFreshFromStore (provider : StoreBackedMarketDataProvider) (symbol : Symbol) :
    Except PyError (Option Numeral) := do
  let bars ← provider.hourBars symbol
  let (bestTs, bestBar) ← newestBar bars (0, none)
  match bestBar with
  | none => pure none
  | some bar =>
      if provider.now symbol - bestTs > provider.staleness then pure none
      else
        match bar.close with
        | none => pure none
        | some close => return some (← close)

/-- The broker's price for a symbol. -/
def brokerPrice (provider : StoreBackedMarketDataProvider) (symbol : Symbol) :
    Except PyError Numeral := do
  let quote ← provider.getQuote symbol
  let price ← quote.price
  price.toDecimal

def getPrice (provider : StoreBackedMarketDataProvider) (symbol : Symbol) :
    Except PyError Numeral := do
  match ← provider.readFreshFromStore symbol with
  | some cached => pure cached
  | none => provider.brokerPrice symbol

/-- The errors that the conversion of a price is guarded against. -/
def unparseable : PyError → Bool
  | .invalidOperation => true
  | .valueError _ => true
  | _ => false

/-- Take what the store has, and collect the symbols it misses. -/
def storePass (provider : StoreBackedMarketDataProvider) :
    List Symbol → Dict Symbol Numeral × List Symbol →
      Except PyError (Dict Symbol Numeral × List Symbol)
  | [], passed => .ok passed
  | symbol :: rest, (prices, misses) => do
      match ← provider.readFreshFromStore symbol with
      | some cached => storePass provider rest (prices.set symbol cached, misses)
      | none => storePass provider rest (prices, misses ++ [symbol])

/-- Ask the broker for each missed symbol. -/
def brokerPass (provider : StoreBackedMarketDataProvider) :
    List Symbol → Dict Symbol Numeral → Except PyError (Dict Symbol Numeral)
  | [], prices => .ok prices
  | symbol :: rest, prices =>
      match provider.getQuote symbol with
      | .error _ => brokerPass provider rest prices
      | .ok quote => do
          match ← quote.price with
          | .missing => brokerPass provider rest prices
          | price =>
              match price.toDecimal with
              | .ok value => brokerPass provider rest (prices.set symbol value)
              | .error error =>
                  if unparseable error = true then brokerPass provider rest prices
                  else .error error

def getPrices (provider : StoreBackedMarketDataProvider) (symbols : List Symbol) :
    Except PyError (Dict Symbol Numeral) := do
  let (prices, misses) ← provider.storePass symbols (Dict.empty, [])
  provider.brokerPass misses prices

/-! ### The newest bar -/

/-- Every bar of a list says when its last tick was. -/
def Readable (bars : List BarRead) : Prop := ∀ bar ∈ bars, ∃ ts, bar.lastTs = .ok ts

/-- The later of the best bar so far and one more, the first if neither is later. -/
def laterBar (best : Option BarRead) (bar : BarRead) : Option BarRead :=
  if bar.moment > (best.map BarRead.moment).getD 0 then some bar else best

/-- The first bar with the greatest last tick, of those after 1970 began. -/
def newest? (bars : List BarRead) : Option BarRead := bars.foldl laterBar none

theorem moment_of_ok {bar : BarRead} {ts : Int} (read : bar.lastTs = .ok ts) : bar.moment = ts := by
  unfold BarRead.moment
  rw [read]
  rfl

/-- The loop ends with the best bar and its last tick. -/
theorem newestBar_of_readable {bars : List BarRead} (readable : Readable bars)
    (best : Option BarRead) :
    newestBar bars ((best.map BarRead.moment).getD 0, best) =
      .ok (((bars.foldl laterBar best).map BarRead.moment).getD 0, bars.foldl laterBar best) := by
  induction bars generalizing best with
  | nil => rfl
  | cons bar rest inductionHypothesis =>
      obtain ⟨ts, read⟩ := readable bar List.mem_cons_self
      have restReadable : Readable rest := fun other member =>
        readable other (List.mem_cons_of_mem bar member)
      have step : (if ts > (best.map BarRead.moment).getD 0 then (ts, some bar)
            else ((best.map BarRead.moment).getD 0, best)) =
          (((laterBar best bar).map BarRead.moment).getD 0, laterBar best bar) := by
        unfold laterBar
        rw [← moment_of_ok read]
        split <;> rfl
      unfold newestBar
      rw [read]
      show newestBar rest (if ts > _ then _ else _) = _
      rw [step]
      exact inductionHypothesis restReadable (laterBar best bar)

/-- A bar that does not say when its last tick was ends the loop. -/
theorem newestBar_of_not_readable {bars : List BarRead} (unreadable : ¬ Readable bars)
    (best : Int × Option BarRead) : ∃ error, newestBar bars best = .error error := by
  induction bars generalizing best with
  | nil => exact absurd (fun bar member => by cases member) unreadable
  | cons bar rest inductionHypothesis =>
      unfold newestBar
      cases read : bar.lastTs with
      | error error => exact ⟨error, rfl⟩
      | ok ts =>
          refine inductionHypothesis (fun restReadable => unreadable fun other member => ?_) _
          rcases List.mem_cons.mp member with rfl | later
          · exact ⟨ts, read⟩
          · exact restReadable other later

theorem newest?_concat (bars : List BarRead) (bar : BarRead) :
    newest? (bars ++ [bar]) = laterBar (newest? bars) bar := by
  unfold newest?
  rw [List.foldl_append]
  rfl

/-- The newest bar is one of the bars, and none is later; where there is none, no
bar is after 1970 began. -/
theorem newest?_spec (bars : List BarRead) :
    (∀ bar, newest? bars = some bar → bar ∈ bars ∧ 0 < bar.moment) ∧
      ∀ other ∈ bars, other.moment ≤ ((newest? bars).map BarRead.moment).getD 0 := by
  induction bars using List.reverseRecOn with
  | nil => exact ⟨nofun, by simp⟩
  | append_singleton bars last inductionHypothesis =>
      obtain ⟨own, bound⟩ := inductionHypothesis
      have nonneg : 0 ≤ ((newest? bars).map BarRead.moment).getD 0 := by
        cases best : newest? bars with
        | none => exact le_rfl
        | some bar => exact (own bar best).2.le
      rw [newest?_concat]
      unfold laterBar
      split
      next later =>
        refine ⟨fun bar same => ?_, fun other member => ?_⟩
        · obtain rfl := Option.some.inj same
          exact ⟨by simp, by omega⟩
        · show other.moment ≤ last.moment
          rcases List.mem_append.mp member with earlier | here
          · have := bound other earlier
            omega
          · rw [List.mem_singleton.mp here]
      next notLater =>
        refine ⟨fun bar same => ?_, fun other member => ?_⟩
        · obtain ⟨member, positive⟩ := own bar same
          exact ⟨List.mem_append_left _ member, positive⟩
        · rcases List.mem_append.mp member with earlier | here
          · exact bound other earlier
          · rw [List.mem_singleton.mp here]
            omega

theorem exists_newest {bars : List BarRead} {bar : BarRead} (member : bar ∈ bars)
    (positive : 0 < bar.moment) : ∃ newest, newest? bars = some newest := by
  have atMost := (newest?_spec bars).2 bar member
  cases best : newest? bars with
  | some newest => exact ⟨newest, rfl⟩
  | none =>
      rw [best] at atMost
      have none : bar.moment ≤ 0 := atMost
      omega

/-- What the newest bar of a list has for a price, if it is fresh. -/
def freshClose (provider : StoreBackedMarketDataProvider) (symbol : Symbol)
    (bars : List BarRead) : Option (Except PyError Numeral) :=
  ((newest? bars).filter fun bar => provider.now symbol - bar.moment ≤ provider.staleness).bind
    BarRead.close

/-- Reading the store gives the fresh price of the newest bar. -/
theorem readFreshFromStore_of_readable {provider : StoreBackedMarketDataProvider} {symbol : Symbol}
    {bars : List BarRead} (hour : provider.hourBars symbol = .ok bars) (readable : Readable bars) :
    provider.readFreshFromStore symbol =
      match provider.freshClose symbol bars with
      | none => .ok none
      | some close => close.map some := by
  have best : newestBar bars (0, none) =
      .ok (((newest? bars).map BarRead.moment).getD 0, newest? bars) :=
    newestBar_of_readable readable none
  unfold readFreshFromStore freshClose
  rw [hour]
  show (newestBar bars (0, none) >>= _) = _
  rw [best]
  cases newest? bars with
  | none => rfl
  | some bar =>
      show (if provider.now symbol - bar.moment > provider.staleness then _ else _) = _
      by_cases fresh : provider.now symbol - bar.moment ≤ provider.staleness
      · rw [if_neg (not_lt.mpr fresh), Option.filter_some, if_pos (decide_eq_true fresh)]
        rw [Option.bind_some]
        cases bar.close with
        | none => rfl
        | some close => cases close <;> rfl
      · rw [if_pos (not_le.mp fresh), Option.filter_some,
          if_neg fun holds => fresh (of_decide_eq_true holds)]
        rfl

/-! ### Reads of a table that the store wrote -/

/-- How a bar that the store wrote reads. -/
def barRead (bar : StoredBar) : BarRead :=
  { lastTs := .ok bar.lastTs, close := some (.ok (.finite bar.closePrice)) }

/-- The provider over a store, at one moment. -/
def ofStore (store : MarketDataStore) (getQuote : Symbol → Except PyError Quote)
    (now staleness : ℚ) : StoreBackedMarketDataProvider where
  getHour := fun symbol bucket => .ok ((store.getHour symbol bucket).values.map barRead)
  getQuote
  now := fun _ => now
  staleness

/-- The newest of some bars, as they read, is one of them. -/
theorem newest?_map_barRead {bars : List StoredBar} {read : BarRead}
    (newest : newest? (bars.map barRead) = some read) :
    ∃ bar ∈ bars, read = barRead bar ∧ ∀ other ∈ bars, other.lastTs ≤ bar.lastTs := by
  obtain ⟨own, greatest⟩ := newest?_spec (bars.map barRead)
  rw [newest] at greatest
  obtain ⟨bar, inBars, rfl⟩ := List.mem_map.mp (own read newest).1
  exact ⟨bar, inBars, rfl, fun other member => greatest _ (List.mem_map_of_mem member)⟩

/-- The store gives the close of the newest bar of the hour that is looked at, if
that is not too old. -/
theorem readFreshFromStore_ofStore_iff {store : MarketDataStore}
    {getQuote : Symbol → Except PyError Quote} {now staleness : ℚ} {symbol : Symbol}
    {bars : List StoredBar} {price : Numeral}
    (hour : (ofStore store getQuote now staleness).hourBars symbol = .ok (bars.map barRead)) :
    (ofStore store getQuote now staleness).readFreshFromStore symbol = .ok (some price) ↔
      ∃ bar ∈ bars, newest? (bars.map barRead) = some (barRead bar) ∧
        now - bar.lastTs ≤ staleness ∧ price = .finite bar.closePrice := by
  have readable : Readable (bars.map barRead) := by
    intro read member
    obtain ⟨bar, -, rfl⟩ := List.mem_map.mp member
    exact ⟨bar.lastTs, rfl⟩
  have closes : ∀ bar, newest? (bars.map barRead) = some (barRead bar) →
      (ofStore store getQuote now staleness).freshClose symbol (bars.map barRead) =
        if now - bar.lastTs ≤ staleness then some (.ok (.finite bar.closePrice)) else none := by
    intro bar newest
    unfold freshClose
    rw [newest]
    show ((some (barRead bar)).filter fun _ => decide (now - bar.lastTs ≤ staleness)).bind _ = _
    by_cases fresh : now - bar.lastTs ≤ staleness
    · rw [if_pos fresh, decide_eq_true fresh]
      rfl
    · rw [if_neg fresh, decide_eq_false fresh]
      rfl
  rw [readFreshFromStore_of_readable hour readable]
  constructor
  · intro returned
    cases newest : newest? (bars.map barRead) with
    | none =>
        unfold freshClose at returned
        rw [newest] at returned
        cases returned
    | some read =>
        obtain ⟨bar, inBars, rfl, -⟩ := newest?_map_barRead newest
        rw [closes bar newest] at returned
        by_cases fresh : now - bar.lastTs ≤ staleness
        · rw [if_pos fresh] at returned
          exact ⟨bar, inBars, rfl, fresh, (Option.some.inj (Except.ok.inj returned)).symm⟩
        · rw [if_neg fresh] at returned
          cases returned
  · rintro ⟨bar, -, newest, fresh, rfl⟩
    rw [closes bar newest, if_pos fresh]
    rfl

/-- The hour that is looked at has the newest of the stored bars, if it has any
bar, and it has one at least as late as each bar that is under an hour old. -/
theorem hourBars_ofStore {store : MarketDataStore} (filed : Filed store.table) {symbol : Symbol}
    (getQuote : Symbol → Except PyError Quote) {now : ℚ} (staleness : ℚ)
    (past : ∀ bar ∈ storedBars store.table symbol, bar.lastTs ≤ now) :
    ∃ bars : List StoredBar, (ofStore store getQuote now staleness).hourBars symbol =
        .ok (bars.map barRead) ∧
      (∀ bar ∈ bars, bar ∈ storedBars store.table symbol ∧
        ∀ other ∈ storedBars store.table symbol, other ∈ bars ∨ other.lastTs < bar.lastTs) ∧
      ∀ bar ∈ storedBars store.table symbol, now - bar.lastTs < 3600 →
        ∃ later ∈ bars, bar.lastTs ≤ later.lastTs := by
  have floor : ∀ bar ∈ storedBars store.table symbol, bar.lastTs ≤ ⌊now⌋ := fun bar stored =>
    Int.le_floor.mpr (past bar stored)
  have hours : (ofStore store getQuote now staleness).hourBars symbol =
      if ((store.getHour symbol (hourBucket ⌊now⌋)).values.map barRead).isEmpty = true then
        .ok ((store.getHour symbol (hourBucket ⌊now - 3600⌋)).values.map barRead)
      else .ok ((store.getHour symbol (hourBucket ⌊now⌋)).values.map barRead) := rfl
  by_cases empty : (store.getHour symbol (hourBucket ⌊now⌋)).values = []
  · have previous : ⌊now - 3600⌋ = ⌊now⌋ - 3600 := Int.floor_sub_ofNat now 3600
    have earlier : ∀ bar ∈ storedBars store.table symbol,
        bar.lastTs / 3600 ≤ ⌊now - 3600⌋ / 3600 := by
      intro bar stored
      have atMost := floor bar stored
      have different : bar.lastTs / 3600 ≠ ⌊now⌋ / 3600 := fun hour =>
        List.not_mem_nil (empty ▸ filed.mem_hour_iff.mpr ⟨stored, hour⟩)
      omega
    refine ⟨(store.getHour symbol (hourBucket ⌊now - 3600⌋)).values, ?_,
      fun bar member => ⟨(filed.mem_hour_iff.mp member).1, fun other stored =>
        filed.mem_hour_or_older earlier member stored⟩, fun bar stored fresh => ?_⟩
    · rw [hours, empty]
      rfl
    · have recent : ((⌊now⌋ - 3600 : Int) : ℚ) < bar.lastTs := by
        have below := Int.floor_le now
        push_cast
        linarith
      have late := Int.cast_lt.mp recent
      have notLater := earlier bar stored
      exact ⟨bar, filed.mem_hour_iff.mpr ⟨stored, by omega⟩, le_rfl⟩
  · obtain ⟨first, here⟩ := List.exists_mem_of_ne_nil _ empty
    have last : ∀ bar ∈ storedBars store.table symbol, bar.lastTs / 3600 ≤ ⌊now⌋ / 3600 := by
      intro bar stored
      have atMost := floor bar stored
      omega
    refine ⟨(store.getHour symbol (hourBucket ⌊now⌋)).values, ?_,
      fun bar member => ⟨(filed.mem_hour_iff.mp member).1, fun other stored =>
        filed.mem_hour_or_older last member stored⟩, fun bar stored _ => ?_⟩
    · rw [hours, if_neg]
      rwa [List.isEmpty_iff, List.map_eq_nil_iff]
    · rcases filed.mem_hour_or_older last here stored with member | older
      · exact ⟨bar, member, le_rfl⟩
      · exact ⟨first, here, older.le⟩

/-- Whoever wrote the table, with no bar in the future and a threshold under an
hour: a price that the store gives is the close of the newest bar of the symbol,
which is not too old; and if a bar after 1970 began is not too old, there is one. -/
theorem readFreshFromStore_newest {ι : Type} [DecidableEq ι] (events : List (Feed.Event ι))
    (retentionDays : Int) (buffer : Dict BufferKey (List MarketBar))
    (getQuote : Symbol → Except PyError Quote) (symbol : Symbol) (now staleness : ℚ)
    (past : ∀ bar ∈ storedBars (Feed.tableAfter events) symbol, bar.lastTs ≤ now)
    (short : staleness < 3600) :
    let store : MarketDataStore := { table := Feed.tableAfter events, retentionDays, buffer }
    (∀ price, (ofStore store getQuote now staleness).readFreshFromStore symbol = .ok (some price) →
        ∃ bar ∈ storedBars store.table symbol, price = .finite bar.closePrice ∧
          (∀ other ∈ storedBars store.table symbol, other.lastTs ≤ bar.lastTs) ∧
          now - bar.lastTs ≤ staleness) ∧
      ((∃ bar ∈ storedBars store.table symbol, 0 < bar.lastTs ∧ now - bar.lastTs ≤ staleness) →
        ∃ price, (ofStore store getQuote now staleness).readFreshFromStore symbol =
          .ok (some price)) := by
  intro store
  have filed : Filed store.table := Feed.filed_tableAfter events
  obtain ⟨bars, hour, inHour, covers⟩ := hourBars_ofStore filed getQuote staleness past
  constructor
  · intro price returned
    obtain ⟨bar, inBars, newest, fresh, rfl⟩ := (readFreshFromStore_ofStore_iff hour).mp returned
    obtain ⟨stored, others⟩ := inHour bar inBars
    obtain ⟨best, -, same, greatest⟩ := newest?_map_barRead newest
    have lastTs : bar.lastTs = best.lastTs := congrArg BarRead.moment same
    refine ⟨bar, stored, rfl, fun other otherStored => ?_, fresh⟩
    rcases others other otherStored with here | older
    · exact (greatest other here).trans lastTs.ge
    · exact older.le
  · rintro ⟨bar, stored, positive, fresh⟩
    obtain ⟨later, member, le⟩ := covers bar stored (by linarith)
    have laterRead : barRead later ∈ bars.map barRead := List.mem_map_of_mem member
    obtain ⟨read, newest⟩ := exists_newest laterRead (positive.trans_le le)
    obtain ⟨best, inBars, rfl, greatest⟩ := newest?_map_barRead newest
    have atLeast : (bar.lastTs : ℚ) ≤ best.lastTs :=
      Int.cast_le.mpr (le.trans (greatest later member))
    exact ⟨_, (readFreshFromStore_ofStore_iff hour).mpr
      ⟨best, inBars, newest, by linarith, rfl⟩⟩

/-- A table with one bar, of one tick. -/
def oneTick (timestamp : Int) : List (Feed.Event Unit) :=
  [.call () 90 (.recordTick { timestamp, symbol := "SPY", price := 500 } timestamp fun _ => none),
    .call () 90 (.flush timestamp fun _ => none)]

/-- Half a minute past midnight the newest bar is in the last hour of the day before. -/
theorem readFreshFromStore_newest_midnight :
    ∃ price, (ofStore { table := Feed.tableAfter (oneTick 1777247970), retentionDays := 90 }
      (fun _ => .error (.external "")) 1777248030 120).readFreshFromStore "SPY" =
        .ok (some price) :=
  (readFreshFromStore_newest (oneTick 1777247970) 90 Dict.empty (fun _ => .error (.external ""))
    "SPY" 1777248030 120 (by decide +kernel) (by norm_num)).2 (by decide +kernel)

/-- A bar whose last tick is the start of 1970 is never the best one. -/
theorem not_readFreshFromStore_epoch :
    (∀ bar ∈ storedBars (Feed.tableAfter (oneTick 0)) "SPY", bar.lastTs ≤ (60 : ℚ)) ∧
      (∃ bar ∈ storedBars (Feed.tableAfter (oneTick 0)) "SPY", 60 - bar.lastTs ≤ (120 : ℚ)) ∧
      (ofStore { table := Feed.tableAfter (oneTick 0), retentionDays := 90 }
        (fun _ => .error (.external "")) 60 120).readFreshFromStore "SPY" = .ok none := by
  decide +kernel

/-! ### Batches -/

/-- The price that the store gives, if it gives one. -/
def cached (provider : StoreBackedMarketDataProvider) (symbol : Symbol) : Option Numeral :=
  (provider.readFreshFromStore symbol).toOption.join

/-- The symbols that the store has no price for. -/
def missed (provider : StoreBackedMarketDataProvider) (symbols : List Symbol) : List Symbol :=
  symbols.filter fun symbol => (provider.cached symbol).isNone

/-- The price that the broker gives, if it gives one. -/
def quoted (provider : StoreBackedMarketDataProvider) (symbol : Symbol) : Option Numeral :=
  (provider.brokerPrice symbol).toOption

theorem mem_missed_iff {provider : StoreBackedMarketDataProvider} {symbols : List Symbol}
    {symbol : Symbol} :
    symbol ∈ provider.missed symbols ↔ symbol ∈ symbols ∧ provider.cached symbol = none := by
  unfold missed
  rw [List.mem_filter, Option.isNone_iff_eq_none]

/-- The broker had no quote, or it is a mapping whose price is a decimal or one
of those that the batch skips. -/
def QuoteGuarded : Except PyError Quote → Prop
  | .error _ => True
  | .ok quote => ∃ price, quote.price = .ok price ∧
      ∀ error, price.toDecimal = .error error → unparseable error = true

/-- No failure of the symbol reaches the batch: the store answers, its bars say
when their last ticks were, a fresh price is a decimal, and where there is none
the broker's quote is guarded. -/
def Guarded (provider : StoreBackedMarketDataProvider) (symbol : Symbol) : Prop :=
  ∃ bars, provider.hourBars symbol = .ok bars ∧ Readable bars ∧
    match provider.freshClose symbol bars with
    | none => QuoteGuarded (provider.getQuote symbol)
    | some close => ∃ price, close = .ok price

theorem readable_of_readFreshFromStore {provider : StoreBackedMarketDataProvider}
    {symbol : Symbol} {read : Option Numeral}
    (done : provider.readFreshFromStore symbol = .ok read) :
    ∃ bars, provider.hourBars symbol = .ok bars ∧ Readable bars := by
  unfold readFreshFromStore at done
  obtain ⟨bars, hour, later⟩ := bind_ok_iff.mp done
  refine ⟨bars, hour, ?_⟩
  by_contra unreadable
  obtain ⟨error, failed⟩ := newestBar_of_not_readable unreadable (0, none)
  rw [failed] at later
  cases later

/-- A symbol is guarded exactly if its store read succeeds and, where that gives
nothing, its quote is guarded. -/
theorem guarded_iff {provider : StoreBackedMarketDataProvider} {symbol : Symbol} :
    provider.Guarded symbol ↔
      (∃ read, provider.readFreshFromStore symbol = .ok read) ∧
        (provider.cached symbol = none → QuoteGuarded (provider.getQuote symbol)) := by
  unfold Guarded cached
  constructor
  · rintro ⟨bars, hour, readable, rest⟩
    rw [readFreshFromStore_of_readable hour readable]
    cases fresh : provider.freshClose symbol bars with
    | none =>
        rw [fresh] at rest
        exact ⟨⟨none, rfl⟩, fun _ => rest⟩
    | some close =>
        rw [fresh] at rest
        obtain ⟨price, rfl⟩ := rest
        exact ⟨⟨some price, rfl⟩, nofun⟩
  · rintro ⟨⟨read, done⟩, quote⟩
    obtain ⟨bars, hour, readable⟩ := readable_of_readFreshFromStore done
    refine ⟨bars, hour, readable, ?_⟩
    rw [readFreshFromStore_of_readable hour readable] at done quote
    cases fresh : provider.freshClose symbol bars with
    | none =>
        rw [fresh] at quote
        exact quote rfl
    | some close =>
        rw [fresh] at done
        cases close with
        | error error => cases done
        | ok price => exact ⟨price, rfl⟩

/-- The first loop ends exactly if every store read succeeds. -/
theorem storePass_ok_iff {provider : StoreBackedMarketDataProvider} {symbols misses : List Symbol}
    {prices : Dict Symbol Numeral} {passed : Dict Symbol Numeral × List Symbol} :
    provider.storePass symbols (prices, misses) = .ok passed ↔
      (∀ symbol ∈ symbols, ∃ read, provider.readFreshFromStore symbol = .ok read) ∧
        passed = (prices.setFound provider.cached symbols, misses ++ provider.missed symbols) := by
  unfold missed
  induction symbols generalizing prices misses with
  | nil =>
      rw [List.filter_nil, List.append_nil]
      constructor
      · intro done
        exact ⟨by simp, (Except.ok.inj done).symm⟩
      · rintro ⟨-, rfl⟩
        rfl
  | cons symbol rest inductionHypothesis =>
      unfold storePass
      rw [List.forall_mem_cons, Dict.setFound_cons, List.filter_cons]
      cases read : provider.readFreshFromStore symbol with
      | error error => exact ⟨nofun, fun all => absurd all.1.1 nofun⟩
      | ok answer =>
          have found : provider.cached symbol = answer := by
            unfold cached
            rw [read]
            rfl
          rw [found]
          cases answer with
          | none =>
              refine inductionHypothesis.trans ?_
              rw [List.append_assoc]
              exact and_congr_left fun _ => (and_iff_right ⟨none, rfl⟩).symm
          | some price =>
              refine inductionHypothesis.trans ?_
              exact and_congr_left fun _ => (and_iff_right ⟨some price, rfl⟩).symm

/-- A guarded quote gives the batch its price, or is skipped. -/
theorem brokerPass_cons_of_guarded {provider : StoreBackedMarketDataProvider} {symbol : Symbol}
    (guarded : QuoteGuarded (provider.getQuote symbol)) (rest : List Symbol)
    (prices : Dict Symbol Numeral) :
    provider.brokerPass (symbol :: rest) prices =
      provider.brokerPass rest ((provider.quoted symbol).elim prices (prices.set symbol)) := by
  rw [brokerPass]
  unfold quoted brokerPrice
  cases answer : provider.getQuote symbol with
  | error error => rfl
  | ok quote =>
      rw [answer] at guarded
      obtain ⟨price, read, caught⟩ := guarded
      obtain ⟨_⟩ := quote
      obtain rfl : _ = Except.ok price := read
      cases price with
      | decimal value => rfl
      | missing => rfl
      | other read =>
          cases read with
          | ok value => rfl
          | error error => exact if_pos (caught error rfl)

/-- A quote that is not guarded ends the batch. -/
theorem brokerPass_cons_of_not_guarded {provider : StoreBackedMarketDataProvider}
    {symbol : Symbol} (unguarded : ¬ QuoteGuarded (provider.getQuote symbol))
    (rest : List Symbol) (prices : Dict Symbol Numeral) :
    ∃ error, provider.brokerPass (symbol :: rest) prices = .error error := by
  rw [brokerPass]
  cases answer : provider.getQuote symbol with
  | error error =>
      rw [answer] at unguarded
      exact absurd trivial unguarded
  | ok quote =>
      rw [answer] at unguarded
      obtain ⟨price⟩ := quote
      cases price with
      | error error => exact ⟨error, rfl⟩
      | ok price =>
          have uncaught : ∃ error, price.toDecimal = .error error ∧ unparseable error ≠ true := by
            by_contra none
            push Not at none
            exact unguarded ⟨price, rfl, none⟩
          obtain ⟨error, failed, raised⟩ := uncaught
          cases price with
          | decimal value => cases failed
          | missing => exact absurd (Except.error.inj failed ▸ rfl) raised
          | other read =>
              obtain rfl : read = .error error := failed
              exact ⟨error, if_neg raised⟩

/-- The second loop ends exactly if every quote is guarded. -/
theorem brokerPass_ok_iff {provider : StoreBackedMarketDataProvider} {misses : List Symbol}
    {prices passed : Dict Symbol Numeral} :
    provider.brokerPass misses prices = .ok passed ↔
      (∀ symbol ∈ misses, QuoteGuarded (provider.getQuote symbol)) ∧
        passed = prices.setFound provider.quoted misses := by
  induction misses generalizing prices with
  | nil =>
      constructor
      · intro done
        exact ⟨by simp, (Except.ok.inj done).symm⟩
      · rintro ⟨-, rfl⟩
        rfl
  | cons symbol rest inductionHypothesis =>
      rw [List.forall_mem_cons, Dict.setFound_cons]
      by_cases guarded : QuoteGuarded (provider.getQuote symbol)
      · rw [brokerPass_cons_of_guarded guarded, inductionHypothesis, and_iff_right guarded]
      · obtain ⟨error, failed⟩ := brokerPass_cons_of_not_guarded guarded rest prices
        rw [failed]
        exact ⟨nofun, fun all => absurd all.1.1 guarded⟩

/-- A batch ends exactly if every symbol is guarded, with what the store has and
what the broker has for the rest. -/
theorem getPrices_ok_iff {provider : StoreBackedMarketDataProvider} {symbols : List Symbol}
    {prices : Dict Symbol Numeral} :
    provider.getPrices symbols = .ok prices ↔
      (∀ symbol ∈ symbols, provider.Guarded symbol) ∧
        prices = (Dict.empty.setFound provider.cached symbols).setFound provider.quoted
          (provider.missed symbols) := by
  constructor
  · intro done
    obtain ⟨⟨stored, misses⟩, first, second⟩ := bind_ok_iff.mp done
    obtain ⟨reads, passed⟩ := storePass_ok_iff.mp first
    obtain ⟨rfl, rfl⟩ := Prod.mk.inj passed
    obtain ⟨quotes, asked⟩ := brokerPass_ok_iff.mp second
    refine ⟨fun symbol requested => guarded_iff.mpr ⟨reads symbol requested, fun none => ?_⟩, asked⟩
    exact quotes symbol (mem_missed_iff.mpr ⟨requested, none⟩)
  · rintro ⟨guarded, rfl⟩
    have first : provider.storePass symbols (Dict.empty, []) =
        .ok (Dict.empty.setFound provider.cached symbols, provider.missed symbols) :=
      storePass_ok_iff.mpr
        ⟨fun symbol requested => (guarded_iff.mp (guarded symbol requested)).1, rfl⟩
    refine bind_ok_iff.mpr ⟨_, first, brokerPass_ok_iff.mpr ⟨fun symbol miss => ?_, rfl⟩⟩
    obtain ⟨requested, none⟩ := mem_missed_iff.mp miss
    exact (guarded_iff.mp (guarded symbol requested)).2 none

/-- Where the store read succeeds, the single read returns the store's price or,
where there is none, the broker's. -/
theorem getPrice_ok_iff {provider : StoreBackedMarketDataProvider} {symbol : Symbol}
    {read : Option Numeral} (done : provider.readFreshFromStore symbol = .ok read)
    {price : Numeral} :
    provider.getPrice symbol = .ok price ↔
      (provider.cached symbol).or (provider.quoted symbol) = some price := by
  unfold cached quoted getPrice
  rw [done]
  cases read with
  | some value =>
      exact ⟨fun same => congrArg some (Except.ok.inj same),
        fun same => congrArg Except.ok (Option.some.inj same)⟩
  | none =>
      show provider.brokerPrice symbol = _ ↔ (provider.brokerPrice symbol).toOption = _
      exact toOption_eq_some_iff.symm

/-- A batch that ends has the symbols whose single reads return, with their prices. -/
theorem get?_getPrices {provider : StoreBackedMarketDataProvider} {symbols : List Symbol}
    {prices : Dict Symbol Numeral} (done : provider.getPrices symbols = .ok prices)
    {symbol : Symbol} {price : Numeral} :
    prices.get? symbol = some price ↔
      symbol ∈ symbols ∧ provider.getPrice symbol = .ok price := by
  obtain ⟨guarded, rfl⟩ := getPrices_ok_iff.mp done
  rw [Dict.get?_setFound, Dict.get?_setFound, Dict.get?_empty, Option.or_none]
  by_cases requested : symbol ∈ symbols
  · obtain ⟨⟨read, found⟩, -⟩ := guarded_iff.mp (guarded symbol requested)
    rw [if_pos requested, and_iff_right requested, getPrice_ok_iff found]
    cases cache : provider.cached symbol with
    | none => rw [if_pos (mem_missed_iff.mpr ⟨requested, cache⟩), Option.or_none, Option.none_or]
    | some value =>
        rw [if_neg fun miss => by rw [(mem_missed_iff.mp miss).2] at cache; cases cache]
        rfl
  · rw [if_neg requested, if_neg fun miss => requested (mem_missed_iff.mp miss).1]
    exact ⟨nofun, fun both => absurd both.1 requested⟩

/-- A batch returns, and has each requested symbol whose single read returns with
that price and no other symbol, exactly if every requested symbol is guarded. -/
theorem getPrices_agrees_iff_guarded (provider : StoreBackedMarketDataProvider)
    (symbols : List Symbol) :
    (∃ prices, provider.getPrices symbols = .ok prices ∧
        ∀ symbol price, prices.get? symbol = some price ↔
          symbol ∈ symbols ∧ provider.getPrice symbol = .ok price) ↔
      ∀ symbol ∈ symbols, provider.Guarded symbol := by
  constructor
  · rintro ⟨prices, done, -⟩
    exact (getPrices_ok_iff.mp done).1
  · intro guarded
    have done := getPrices_ok_iff.mpr ⟨guarded, rfl⟩
    exact ⟨_, done, fun symbol price => get?_getPrices done⟩

/-- A provider whose store read raises for one symbol and has no bars for others. -/
def throttled : StoreBackedMarketDataProvider where
  getHour := fun symbol _ => if symbol = "AAPL" then .error (.external "throttled") else .ok []
  getQuote := fun _ => .ok ⟨.ok (.decimal (.finite 100))⟩
  now := fun _ => 1777213985

/-- The read that raises takes the whole batch with it. -/
theorem not_getPrices_agrees_throttled :
    throttled.getPrice "MSFT" = .ok (.finite 100) ∧
      ¬ ∃ prices, throttled.getPrices ["MSFT", "AAPL"] = .ok prices ∧
        ∀ symbol price, prices.get? symbol = some price ↔
          symbol ∈ ["MSFT", "AAPL"] ∧ throttled.getPrice symbol = .ok price := by
  refine ⟨by decide +kernel, ?_⟩
  rintro ⟨prices, done, -⟩
  have raised : throttled.getPrices ["MSFT", "AAPL"] = .error (.external "throttled") := by
    rfl
  rw [raised] at done
  cases done

end StoreBackedMarketDataProvider

end TradingStrands
