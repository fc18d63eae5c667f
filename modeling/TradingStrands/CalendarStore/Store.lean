import TradingStrands.Ddb.Table
import TradingStrands.Foundation.Reading

/-!
Owns the calendar rows, one for each date: its macro events, and for each symbol
its earnings events. A day is written whole, and a row that was written reads as
the day.

The earnings are stored as a JSON text, which is the mapping it encodes. Does not
own: the summary of a day for the prompt.
-/

namespace TradingStrands

open TradingStrands.Foundation

/-- A macro release or scheduled event. -/
structure EconomicEvent where
  timeUtc : String
  title : String
  importance : String
  country : String
deriving DecidableEq, Repr

/-- An earnings release of a symbol. -/
structure EarningsEvent where
  timeOfDay : String
  epsEstimate : Option String
  revenueEstimate : Option String
deriving DecidableEq, Repr

structure CalendarDay where
  date : String
  economic : List EconomicEvent
  earnings : Dict String (List EarningsEvent)
deriving DecidableEq

/-! ### Fields of a model -/

/-- A required text field. -/
def requiredText (fields : Item) (name : String) : Except PyError String :=
  match fields.attr? name with
  | some (.text value) => .ok value
  | _ => .error (.valueError [.text name])

/-- A text field with a default. -/
def defaultedText (fields : Item) (name default_ : String) : Except PyError String :=
  match fields.attr? name with
  | none => .ok default_
  | some (.text value) => .ok value
  | some _ => .error (.valueError [.text name])

/-- A text field that may be null or missing. -/
def nullableText (fields : Item) (name : String) : Except PyError (Option String) :=
  match fields.attr? name with
  | none => .ok none
  | some .null => .ok none
  | some (.text value) => .ok (some value)
  | some _ => .error (.valueError [.text name])

def nullableAttr : Option String → Attr
  | none => .null
  | some value => .text value

namespace EconomicEvent

def modelDump (event : EconomicEvent) : Attr :=
  .map [("time_utc", .text event.timeUtc), ("title", .text event.title),
    ("importance", .text event.importance), ("country", .text event.country)]

def modelValidate : Attr → Except PyError EconomicEvent
  | .map fields => do
      let timeUtc ← requiredText fields "time_utc"
      let title ← requiredText fields "title"
      let importance ← defaultedText fields "importance" "medium"
      let country ← defaultedText fields "country" "US"
      return { timeUtc, title, importance, country }
  | _ => .error (.valueError [.text "EconomicEvent"])

theorem modelValidate_modelDump (event : EconomicEvent) :
    modelValidate event.modelDump = .ok event := rfl

end EconomicEvent

namespace EarningsEvent

def modelDump (event : EarningsEvent) : Attr :=
  .map [("time_of_day", .text event.timeOfDay), ("eps_estimate", nullableAttr event.epsEstimate),
    ("revenue_estimate", nullableAttr event.revenueEstimate)]

def modelValidate : Attr → Except PyError EarningsEvent
  | .map fields => do
      let timeOfDay ← requiredText fields "time_of_day"
      let epsEstimate ← nullableText fields "eps_estimate"
      let revenueEstimate ← nullableText fields "revenue_estimate"
      return { timeOfDay, epsEstimate, revenueEstimate }
  | _ => .error (.valueError [.text "EarningsEvent"])

theorem modelValidate_modelDump (event : EarningsEvent) :
    modelValidate event.modelDump = .ok event := by
  obtain ⟨timeOfDay, epsEstimate, revenueEstimate⟩ := event
  cases epsEstimate <;> cases revenueEstimate <;> rfl

end EarningsEvent

/-- What a `for` loop takes from a value. -/
def Attr.iterate : Attr → Except PyError (List Attr)
  | .list items => .ok items
  | .text value => .ok (value.toList.map fun char => .text (String.singleton char))
  | .map fields => .ok (fields.map fun field => .text field.1)
  | _ => .error (.typeError "object is not iterable")

/-- What it takes from `value or []`. -/
def Attr.iterateOrNone (value : Attr) : Except PyError (List Attr) :=
  if value.truthy = true then value.iterate else .ok []

theorem Attr.iterateOrNone_list (items : List Attr) :
    (Attr.list items).iterateOrNone = .ok items := by
  cases items with
  | nil => rfl
  | cons item rest => rfl

namespace CalendarStore

/-- `_CALENDAR_TTL_SECONDS` -/
def calendarTtlSeconds : Int := 30 * 24 * 3600

def pkPrefix : String := "CALENDAR#"

def pk (date : String) : String := pkPrefix ++ date

def dumpEarnings (earnings : Dict String (List EarningsEvent)) : Attr :=
  .map (earnings.entries.map fun entry => (entry.1, .list (entry.2.map EarningsEvent.modelDump)))

def item (day : CalendarDay) (now : Int) : Item :=
  [("date", .text day.date), ("economic", .list (day.economic.map EconomicEvent.modelDump)),
    ("earnings_json", dumpEarnings day.earnings), ("updated_at", .number now),
    ("ttl", .number (now + calendarTtlSeconds))]

def putDay (day : CalendarDay) (now : Int) (table : Table) : Table :=
  table.putItem (pk day.date) (item day now)

def readEconomic (item : Item) : Except PyError (List EconomicEvent) := do
  let entries ← ((item.attr? "economic").getD (.list [])).iterateOrNone
  entries.mapM EconomicEvent.modelValidate

/-- The events of one symbol. -/
def readSymbol (entry : String × Attr) : Except PyError (String × List EarningsEvent) := do
  let entries ← entry.2.iterate
  let events ← entries.mapM EarningsEvent.modelValidate
  return (entry.1, events)

/-- The mapping the JSON text encodes, `{}` if there is none. -/
def readEarnings (item : Item) : Except PyError (Dict String (List EarningsEvent)) :=
  let raw := (item.attr? "earnings_json").getD .null
  if raw.truthy = true then
    match raw with
    | .map fields => do
        let symbols ← fields.mapM readSymbol
        return Dict.empty.setAll symbols
    | _ => .error (.attributeError "items")
  else .ok Dict.empty

def ofItem (item : Item) : Except PyError CalendarDay := do
  let economic ← readEconomic item
  let earnings ← readEarnings item
  match item.attr? "date" with
  | none => .error (.keyError "date")
  | some date => return { date := date.toText, economic, earnings }

def getDay (date : String) (table : Table) : Except PyError (Option CalendarDay) :=
  match table.getItem (pk date) with
  | none => .ok none
  | some item => (ofItem item).map some

theorem readEconomic_item (day : CalendarDay) (now : Int) :
    readEconomic (item day now) = .ok day.economic := by
  show ((Attr.list (day.economic.map EconomicEvent.modelDump)).iterateOrNone >>= fun entries =>
    entries.mapM EconomicEvent.modelValidate) = .ok day.economic
  rw [Attr.iterateOrNone_list]
  exact mapM_map_ok EconomicEvent.modelValidate_modelDump day.economic

theorem readSymbol_dump (entry : String × List EarningsEvent) :
    readSymbol (entry.1, .list (entry.2.map EarningsEvent.modelDump)) = .ok entry := by
  show ((entry.2.map EarningsEvent.modelDump).mapM EarningsEvent.modelValidate >>= fun events =>
    Except.ok (entry.1, events)) = .ok entry
  rw [mapM_map_ok EarningsEvent.modelValidate_modelDump]
  rfl

theorem readEarnings_item (day : CalendarDay) (now : Int) :
    readEarnings (item day now) = .ok day.earnings := by
  have reads : (day.earnings.entries.map fun entry =>
      (entry.1, Attr.list (entry.2.map EarningsEvent.modelDump))).mapM readSymbol =
        .ok day.earnings.entries := mapM_map_ok readSymbol_dump day.earnings.entries
  have rebuilt := Dict.empty_setAll_entries day.earnings
  show (if (dumpEarnings day.earnings).truthy = true then
    (day.earnings.entries.map fun entry =>
      (entry.1, Attr.list (entry.2.map EarningsEvent.modelDump))).mapM readSymbol >>=
        fun symbols => Except.ok (Dict.empty.setAll symbols)
    else Except.ok Dict.empty) = .ok day.earnings
  rw [reads]
  by_cases none_ : day.earnings.entries = []
  · -- an empty mapping is read as `{}`
    have empty : day.earnings = Dict.empty := Dict.ext none_
    rw [empty]
    rfl
  · have truthy : (dumpEarnings day.earnings).truthy = true := by
      show decide ((day.earnings.entries.map fun entry =>
        (entry.1, Attr.list (entry.2.map EarningsEvent.modelDump))) ≠ []) = true
      rw [decide_eq_true_iff]
      exact fun empty => none_ (List.map_eq_nil_iff.mp empty)
    rw [if_pos truthy]
    exact congrArg Except.ok rebuilt

/-- A day that was written reads as it is. -/
theorem getDay_putDay (day : CalendarDay) (now : Int) (table : Table) :
    getDay day.date (putDay day now table) = .ok (some day) := by
  unfold getDay putDay
  rw [Table.getItem_putItem_self]
  show (readEconomic (item day now) >>= fun economic => readEarnings (item day now) >>=
    fun earnings => Except.ok ({ date := day.date, economic, earnings } : CalendarDay)).map some = _
  rw [readEconomic_item, readEarnings_item]
  rfl

theorem pk_injective {date other : String} : pk date = pk other ↔ date = other := by
  unfold pk
  rw [String.append_right_inj]

/-- A write for one date leaves the others. -/
theorem getDay_putDay_of_ne (day : CalendarDay) (now : Int) (table : Table) {date : String}
    (different : date ≠ day.date) : getDay date (putDay day now table) = getDay date table := by
  have apart : pk date ≠ pk day.date := fun same => different (pk_injective.mp same)
  unfold getDay putDay
  rw [Table.getItem_putItem_of_ne _ _ apart]

end CalendarStore

end TradingStrands
