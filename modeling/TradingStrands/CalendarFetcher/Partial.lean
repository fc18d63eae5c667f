import TradingStrands.CalendarFetcher.Fetcher
import TradingStrands.Foundation.Runs

/-!
Owns what is left of a date over many runs of the fetcher, beside what should be:
the events of the latest run in which an endpoint succeeded. A run in which one
endpoint fails replaces the row of the date, and what an earlier run stored for
that endpoint is gone.

An endpoint succeeds if its call returns and the payload translates.
-/

namespace TradingStrands.CalendarFetcher

open TradingStrands.Foundation

/-- How an endpoint does in a run. -/
inductive Answer (α : Type)
  | failed
  | malformed
  | read (events : α)

namespace Answer

variable {α : Type}

def ofCall (call : Except PyError JsonValue) (translate : JsonValue → Except PyError α) :
    Answer α :=
  match call with
  | .error _ => .failed
  | .ok payload =>
      match translate payload with
      | .error _ => .malformed
      | .ok events => .read events

/-- The events of an endpoint that succeeded, others if it did not. -/
def eventsOr (answer : Answer α) (others : α) : α :=
  match answer with
  | .failed => others
  | .malformed => others
  | .read events => events

end Answer

/-- The events of the latest success of each endpoint; none before the first. -/
structure Latest where
  economic : List EconomicEvent
  earnings : Dict String (List EarningsEvent)

def Latest.none : Latest := ⟨[], Dict.empty⟩

structure CalendarState where
  table : Table
  latest : Latest

section Runs

variable (texts : Texts) (date : String)

def economicAnswer (fetch : Fetch) : Answer (List EconomicEvent) :=
  Answer.ofCall fetch.economic (economicOf texts date)

def earningsAnswer (fetch : Fetch) : Answer (Dict String (List EarningsEvent)) :=
  Answer.ofCall fetch.earnings (earningsOf texts date)

/-- One run, and what should be stored after it. -/
def step (state : CalendarState) (fetch : Fetch) : CalendarState where
  table := (fetchAndStoreDay texts date fetch state.table).2
  latest := {
    economic := (economicAnswer texts date fetch).eventsOr state.latest.economic
    earnings := (earningsAnswer texts date fetch).eventsOr state.latest.earnings }

/-- What is stored for the date is what should be; no row stands for no events. -/
def UpToDate (state : CalendarState) : Prop :=
  ∃ day, CalendarStore.getDay date state.table = .ok day ∧
    (day.map fun day => day.economic).getD [] = state.latest.economic ∧
      (day.map fun day => day.earnings).getD Dict.empty = state.latest.earnings

/-- Whether a run loses nothing: an endpoint that fails beside one that succeeds
has no events to lose, and one that succeeds beside a malformed payload, with
which the run stores nothing, has nothing new. -/
def LosesNothing (latest : Latest) (economic : Answer (List EconomicEvent))
    (earnings : Answer (Dict String (List EarningsEvent))) : Prop :=
  match economic, earnings with
  | .failed, .read _ => latest.economic = []
  | .read _, .failed => latest.earnings = Dict.empty
  | .malformed, .read events => events = latest.earnings
  | .read events, .malformed => events = latest.economic
  | _, _ => True

/-- The events a run stores, if it does. -/
def storedEvents (economic : Answer (List EconomicEvent))
    (earnings : Answer (Dict String (List EarningsEvent))) :
    Option (List EconomicEvent × Dict String (List EarningsEvent)) :=
  match economic, earnings with
  | .failed, .failed => none
  | .malformed, _ => none
  | _, .malformed => none
  | economic, earnings => some (economic.eventsOr [], earnings.eventsOr Dict.empty)

/-- A run stores the events of the endpoints that succeed, and none for one that
fails. -/
theorem snd_fetchAndStoreDay (fetch : Fetch) (table : Table) :
    (fetchAndStoreDay texts date fetch table).2 =
      match storedEvents (economicAnswer texts date fetch) (earningsAnswer texts date fetch) with
      | none => table
      | some events => CalendarStore.putDay ⟨date, events.1, events.2⟩ fetch.now table := by
  obtain ⟨earnings, economic, now⟩ := fetch
  unfold economicAnswer earningsAnswer fetchAndStoreDay buildCalendarDay
  cases earnings with
  | error earningsError =>
      cases economic with
      | error economicError => rfl
      | ok economicPayload =>
          dsimp only [payloadOf, Answer.ofCall]
          cases economicOf texts date economicPayload with
          | error error => rfl
          | ok economicEvents => rfl
  | ok earningsPayload =>
      cases economic with
      | error economicError =>
          dsimp only [payloadOf, Answer.ofCall]
          cases earningsOf texts date earningsPayload with
          | error error => rfl
          | ok earningsEvents => rfl
      | ok economicPayload =>
          dsimp only [payloadOf, Answer.ofCall]
          cases economicOf texts date economicPayload with
          | error error => rfl
          | ok economicEvents =>
              cases earningsOf texts date earningsPayload with
              | error error => rfl
              | ok earningsEvents => rfl

variable {texts date}

/-- What a run stores, or leaves, is what should be stored after it exactly if it
loses nothing. -/
theorem losesNothing_iff (latest : Latest) (economic : Answer (List EconomicEvent))
    (earnings : Answer (Dict String (List EarningsEvent))) :
    LosesNothing latest economic earnings ↔
      ((storedEvents economic earnings).map Prod.fst).getD latest.economic =
          economic.eventsOr latest.economic ∧
        ((storedEvents economic earnings).map Prod.snd).getD latest.earnings =
          earnings.eventsOr latest.earnings := by
  cases economic with
  | failed =>
      cases earnings with
      | failed => exact iff_of_true trivial ⟨rfl, rfl⟩
      | malformed => exact iff_of_true trivial ⟨rfl, rfl⟩
      | read events => exact ⟨fun empty => ⟨Eq.symm empty, rfl⟩, fun kept => Eq.symm kept.1⟩
  | malformed =>
      cases earnings with
      | failed => exact iff_of_true trivial ⟨rfl, rfl⟩
      | malformed => exact iff_of_true trivial ⟨rfl, rfl⟩
      | read events => exact ⟨fun same => ⟨rfl, Eq.symm same⟩, fun kept => Eq.symm kept.2⟩
  | read events =>
      cases earnings with
      | failed => exact ⟨fun empty => ⟨rfl, Eq.symm empty⟩, fun kept => Eq.symm kept.2⟩
      | malformed => exact ⟨fun same => ⟨Eq.symm same, rfl⟩, fun kept => Eq.symm kept.1⟩
      | read others => exact iff_of_true trivial ⟨rfl, rfl⟩

/-- A state with a known day is up to date if the day has the latest events. -/
theorem upToDate_iff_of_getDay {state : CalendarState} {day : Option CalendarDay}
    (read : CalendarStore.getDay date state.table = .ok day) :
    UpToDate date state ↔ (day.map fun day => day.economic).getD [] = state.latest.economic ∧
      (day.map fun day => day.earnings).getD Dict.empty = state.latest.earnings := by
  constructor
  · intro upToDate
    obtain ⟨other, readOther, latest⟩ := upToDate
    rw [Except.ok.inj (read.symm.trans readOther)]
    exact latest
  · intro latest
    exact ⟨day, read, latest⟩

/-- From what is up to date, a run leads to what is up to date exactly if it
loses nothing. -/
theorem upToDate_step_iff {state : CalendarState} (upToDate : UpToDate date state)
    (fetch : Fetch) :
    UpToDate date (step texts date state fetch) ↔
      LosesNothing state.latest (economicAnswer texts date fetch)
        (earningsAnswer texts date fetch) := by
  obtain ⟨day, read, economicStored, earningsStored⟩ := upToDate
  have after := snd_fetchAndStoreDay texts date fetch state.table
  rw [losesNothing_iff]
  cases stores : storedEvents (economicAnswer texts date fetch)
      (earningsAnswer texts date fetch) with
  | none =>
      rw [stores] at after
      have kept : CalendarStore.getDay date (step texts date state fetch).table = .ok day := by
        show CalendarStore.getDay date (fetchAndStoreDay texts date fetch state.table).2 = _
        rw [after]
        exact read
      rw [upToDate_iff_of_getDay kept, economicStored, earningsStored]
      rfl
  | some events =>
      rw [stores] at after
      have written : CalendarStore.getDay date (step texts date state fetch).table =
          .ok (some ⟨date, events.1, events.2⟩) := by
        show CalendarStore.getDay date (fetchAndStoreDay texts date fetch state.table).2 = _
        rw [after]
        exact CalendarStore.getDay_putDay ⟨date, events.1, events.2⟩ fetch.now state.table
      rw [upToDate_iff_of_getDay written]
      rfl

/-- Over any runs for a date without a row, what is stored is always what the
endpoints last gave, exactly if no run loses anything. -/
theorem always_upToDate_iff {table : Table}
    (absent : table.getItem (CalendarStore.pk date) = none) (fetches : List Fetch) :
    Always (step texts date) (UpToDate date) ⟨table, Latest.none⟩ fetches ↔
      EachStep (step texts date) (fun state fetch => LosesNothing state.latest
        (economicAnswer texts date fetch) (earningsAnswer texts date fetch))
          ⟨table, Latest.none⟩ fetches := by
  have initial : UpToDate date ⟨table, Latest.none⟩ := by
    refine ⟨none, ?_, rfl, rfl⟩
    unfold CalendarStore.getDay
    rw [absent]
  exact always_iff_eachStep _ (fun state fetch upToDate _ => upToDate_step_iff upToDate fetch)
    initial (eachStep_true _ _ _)

end Runs

/-! ### A release that is lost -/

/-- The functions of the language on plain texts. -/
def plainTexts : Texts where
  str
    | .text value => value
    | _ => "None"
  errorText _ := "HTTP Error 503"
  upper := String.toUpper
  lower := String.toLower

/-- One release on the date. -/
def releaseDay : JsonValue :=
  .map [("economicCalendar", .list [.map [("time", .text "2026-04-27 14:00:00"),
    ("event", .text "CPI"), ("impact", .null)]])]

theorem always_upToDate_iff_fetched :
    Always (step plainTexts "2026-04-27") (UpToDate "2026-04-27") ⟨Dict.empty, Latest.none⟩
        [⟨.ok (.map []), .ok releaseDay, 0⟩] ↔
      EachStep (step plainTexts "2026-04-27") (fun state fetch => LosesNothing state.latest
        (economicAnswer plainTexts "2026-04-27" fetch)
          (earningsAnswer plainTexts "2026-04-27" fetch))
          ⟨Dict.empty, Latest.none⟩ [⟨.ok (.map []), .ok releaseDay, 0⟩] :=
  always_upToDate_iff rfl _

/-- The second run gets no economic calendar and stores that there is none. -/
theorem not_always_upToDate_failed :
    ¬ Always (step plainTexts "2026-04-27") (UpToDate "2026-04-27") ⟨Dict.empty, Latest.none⟩
      [⟨.ok (.map []), .ok releaseDay, 0⟩, ⟨.ok (.map []), .error (.external "503"), 3600⟩] := by
  intro always
  have before := Always.start _ always.2
  have after := (upToDate_step_iff before _).mp (Always.start _ always.2.2)
  have lost : ([⟨"14:00", "CPI", "medium", "US"⟩] : List EconomicEvent) = [] := after
  cases lost

end TradingStrands.CalendarFetcher
