import TradingStrands.CalendarStore.Store
import TradingStrands.EdgarWatcher.Submissions

/-!
Owns one run of the calendar fetcher for a date: two calls, of which one may
fail, the translation of what they return, and the day that is stored. Where both
calls fail, or a payload does not translate, the run raises and stores nothing.

`str`, `upper` and `lower` are the language's. Does not own: the client that
makes the calls, and the date and the key a scheduled run takes.
-/

namespace TradingStrands

open TradingStrands.Foundation

/-- What a `for` loop takes from a value. -/
def JsonValue.iterate : JsonValue → Except PyError (List JsonValue)
  | .list items => .ok items
  | .text value => .ok (value.toList.map fun char => .text (String.singleton char))
  | .map fields => .ok (fields.map fun field => .text field.1)
  | _ => .error (.typeError "object is not iterable")

namespace CalendarFetcher

/-- Functions of the language. -/
structure Texts where
  /-- `str(value)` -/
  str : JsonValue → String
  /-- `str(error)` -/
  errorText : PyError → String
  upper : String → String
  lower : String → String

/-- `_HOUR_CODE_TO_LABEL` -/
def hourCodeToLabel (code : String) : Option String :=
  if code = "bmo" then some "before_market"
  else if code = "amc" then some "after_market"
  else none

/-- `_IMPACT_TO_IMPORTANCE` -/
def impactToImportance (impact : String) : Option String :=
  if impact = "high" ∨ impact = "3" then some "high"
  else if impact = "medium" ∨ impact = "2" then some "medium"
  else if impact = "low" ∨ impact = "1" then some "low"
  else none

/-- The hour of an event, which has to be a text. -/
def translateHourCode (code : JsonValue) : Except PyError String :=
  if code.truthy = false then .ok "unknown"
  else
    match code with
    | .text code => .ok ((hourCodeToLabel code).getD code)
    | .list _ => .error (.typeError "unhashable type: 'list'")
    | .map _ => .error (.typeError "unhashable type: 'dict'")
    | _ => .error (.valueError [.text "time_of_day"])

section Translation

variable (texts : Texts) (date : String)

def translateImpact (impact : JsonValue) : String :=
  match impact with
  | .null => "medium"
  | impact => (impactToImportance (texts.lower (texts.str impact))).getD "medium"

/-- An estimate as text. -/
def translateEstimate (estimate : JsonValue) : Option String :=
  match estimate with
  | .null => none
  | estimate => some (texts.str estimate)

def earningsEvent (item : JsonValue) : Except PyError EarningsEvent := do
  let hour ← item.getD "hour" .null
  let timeOfDay ← translateHourCode hour
  let epsEstimate ← item.getD "epsEstimate" .null
  let revenueEstimate ← item.getD "revenueEstimate" .null
  return {
    timeOfDay, epsEstimate := translateEstimate texts epsEstimate
    revenueEstimate := translateEstimate texts revenueEstimate }

def translateEarnings : List JsonValue → Dict String (List EarningsEvent) →
    Except PyError (Dict String (List EarningsEvent))
  | [], out => .ok out
  | item :: rest, out => do
      let itemDate ← item.getD "date" .null
      if texts.str itemDate ≠ date then translateEarnings rest out
      else
        let symbol ← item.getD "symbol" (.text "")
        let symbol := texts.upper (texts.str symbol)
        if symbol = "" then translateEarnings rest out
        else
          let event ← earningsEvent texts item
          translateEarnings rest (out.set symbol ((out.get? symbol).getD [] ++ [event]))

/-- The part after the first blank, up to the next one. -/
def timePart (rawTime : String) : String :=
  if ' ' ∈ rawTime.toList then
    String.ofList (((rawTime.toList.dropWhile fun char => char ≠ ' ').drop 1).takeWhile
      fun char => char ≠ ' ')
  else "00:00:00"

def hhmm (rawTime : String) : String :=
  if 5 ≤ (timePart rawTime).length then String.ofList ((timePart rawTime).toList.take 5)
  else "00:00"

def translateEconomic : List JsonValue → List EconomicEvent → Except PyError (List EconomicEvent)
  | [], out => .ok out
  | item :: rest, out => do
      let rawTime ← item.getD "time" (.text "")
      if beginsWith (texts.str rawTime) date = false then translateEconomic rest out
      else
        let title ← item.getD "event" (.text "")
        let impact ← item.getD "impact" .null
        let country ← item.getD "country" (.text "US")
        let event : EconomicEvent := {
          timeUtc := hhmm (texts.str rawTime), title := texts.str title
          importance := translateImpact texts impact, country := texts.str country }
        translateEconomic rest (out ++ [event])

/-- The items of a payload: none, unless it is a mapping. -/
def payloadItems (payload : JsonValue) (name : String) : Except PyError (List JsonValue) :=
  match payload with
  | .map fields =>
      ((JsonValue.map fields).getD name .null).bind fun items =>
        if items.truthy = true then items.iterate else .ok []
  | _ => .ok []

def economicOf (payload : JsonValue) : Except PyError (List EconomicEvent) := do
  let items ← payloadItems payload "economicCalendar"
  translateEconomic texts date items []

def earningsOf (payload : JsonValue) : Except PyError (Dict String (List EarningsEvent)) := do
  let items ← payloadItems payload "earningsCalendar"
  translateEarnings texts date items Dict.empty

def buildCalendarDay (earningsPayload economicPayload : JsonValue) :
    Except PyError CalendarDay := do
  let economic ← economicOf texts date economicPayload
  let earnings ← earningsOf texts date earningsPayload
  return { date, economic, earnings }

/-- What becomes of the two calls of a run, and when it stores. -/
structure Fetch where
  earnings : Except PyError JsonValue
  economic : Except PyError JsonValue
  now : Int

/-- The payload of a call, `{}` where it failed. -/
def payloadOf : Except PyError JsonValue → JsonValue
  | .ok payload => payload
  | .error _ => .map []

def fetchAndStoreDay (fetch : Fetch) (table : Table) : Except PyError Unit × Table :=
  match fetch.earnings, fetch.economic with
  | .error earningsError, .error economicError =>
      (.error (.runtimeError ("calendar fetch failed for " ++ date ++ ": earnings=" ++
        texts.errorText earningsError ++ " economic=" ++ texts.errorText economicError)), table)
  | earnings, economic =>
      match buildCalendarDay texts date (payloadOf earnings) (payloadOf economic) with
      | .error error => (.error error, table)
      | .ok day => (.ok (), CalendarStore.putDay day fetch.now table)

end Translation

end CalendarFetcher

end TradingStrands
