import TradingStrands.Foundation.Runs
import TradingStrands.MarketData.Provider
import TradingStrands.Orchestrator.Context
import TradingStrands.Orchestrator.Engine

/-!
Owns a whole tick with its per-bot loop: the price fetch, the turns of the
registered bots in order, what a raising predicate does to the loop, and the
end-of-tick work. Where a tick gives up control, the others act on the system
by an arbitrary function, so every interleaving is among the runs.

What a tick reads from outside (the fetched prices, the bots' decisions, the
answers of the coordinator's services, broker positions) is an input. Market
data recording, what-if tracking, events and telemetry are not modelled; they
raise nothing and change nothing that is modelled here.
-/

namespace TradingStrands

open TradingStrands.Foundation
open TradingStrands.Tta

variable {β : Type}

/-- A registered bot. Without a predicate it is woken on every tick. -/
structure BotRegistration where
  symbols : List Symbol
  tta : Option Json := none

/-- What a bot decides in its turn, and what happens around it. -/
structure BotEnv (β : Type) where
  /-- The callback: an intent, none, or an exception. -/
  callback : Dict Symbol Decimal → Ledger → Except PyError (Option TradeIntent)
  call : CallEnv β
  /-- What others do while the callback decides. -/
  whileDeciding : System β → System β := id
  /-- What others do while the coordinator works on the intent. -/
  whileExecuting : System β → System β := id

namespace BotEnv

/-- The intent that goes to the coordinator: a callback that raises, answers
nothing, holds or does nothing sends none. -/
def intent? (env : BotEnv β) (prices : Dict Symbol Decimal) (ledger : Ledger) :
    Option TradeIntent :=
  match env.callback prices ledger with
  | .error _ => none
  | .ok none => none
  | .ok (some intent) =>
      if intent.action = .hold ∨ intent.action = .noop then none else some intent

/-- The system after the woken bot has decided and traded. Exceptions of the
coordinator are logged and dropped. -/
def act (env : BotEnv β) (prices : Dict Symbol Decimal) (ledger : Ledger) (system : System β) :
    System β :=
  match env.intent? prices ledger with
  | none => env.whileDeciding system
  | some intent =>
      env.whileExecuting ((env.whileDeciding system).perform { env := env.call, intent })

end BotEnv

/-- The record of a turn in which a bot's predicate was evaluated. -/
structure Turn where
  botId : BotId
  tta : Option Json
  context : Context
  /-- Whether the callback was called. -/
  woken : Bool
  /-- The intent that went to the coordinator. -/
  routed : Option TradeIntent

/-- Whether a bot is woken: without a predicate always. -/
def wakes (tta : Option Json) (ctx : Context) (prevCtx : Option Context) :
    Except PredicateError Bool :=
  match tta with
  | none => .ok true
  | some pred => evaluate ctx prevCtx pred

/-- The per-bot loop under way. -/
structure Waking (β : Type) where
  system : System β
  turns : List Turn := []
  /-- The exception that left the loop. -/
  fault : Option PredicateError := none

/-- What the turns of one tick share. -/
structure WakeEnv (β : Type) where
  prices : Dict Symbol Decimal
  prevCtx : Option Context
  bot : BotId → BotEnv β

namespace Waking

/-- The record of a bot's turn with its ledger. -/
def turnOf (env : WakeEnv β) (bot : BotId × BotRegistration) (ledger : Ledger) (woken : Bool) :
    Turn :=
  { botId := bot.1
    tta := bot.2.tta
    context := buildContext env.prices (some ledger)
    woken
    routed := if woken = true then (env.bot bot.1).intent? env.prices ledger else none }

@[simp] theorem context_turnOf (env : WakeEnv β) (bot : BotId × BotRegistration) (ledger : Ledger)
    (woken : Bool) :
    (turnOf env bot ledger woken).context = buildContext env.prices (some ledger) := rfl

/-- The turn of one bot. The predicate is evaluated outside any handler. -/
def takeTurn (env : WakeEnv β) (waking : Waking β) (bot : BotId × BotRegistration) : Waking β :=
  match waking.fault with
  | some _ => waking
  | none =>
      match waking.system.ledger? bot.1 with
      | none => waking
      | some ledger =>
          match wakes bot.2.tta (buildContext env.prices (some ledger)) env.prevCtx with
          | .error error => { waking with fault := some error }
          | .ok false => { waking with turns := waking.turns ++ [turnOf env bot ledger false] }
          | .ok true =>
              { system := (env.bot bot.1).act env.prices ledger waking.system
                turns := waking.turns ++ [turnOf env bot ledger true] }

/-- The bot has its turn: no exception has left the loop, and it has a ledger. -/
structure Reaches (waking : Waking β) (bot : BotId × BotRegistration) (ledger : Ledger) : Prop where
  unbroken : waking.fault = none
  registered : waking.system.ledger? bot.1 = some ledger

/-- Whether the predicate of a bot with this ledger fires. -/
def fires (env : WakeEnv β) (bot : BotId × BotRegistration) (ledger : Ledger) :
    Except PredicateError Bool :=
  wakes bot.2.tta (buildContext env.prices (some ledger)) env.prevCtx

theorem takeTurn_of_error {env : WakeEnv β} {waking : Waking β} {bot : BotId × BotRegistration}
    {ledger : Ledger} {error : PredicateError} (reaches : waking.Reaches bot ledger)
    (raises : fires env bot ledger = .error error) :
    waking.takeTurn env bot = { waking with fault := some error } := by
  unfold fires at raises
  simp only [takeTurn, reaches.unbroken, reaches.registered, raises]

theorem takeTurn_of_ok {env : WakeEnv β} {waking : Waking β} {bot : BotId × BotRegistration}
    {ledger : Ledger} {woken : Bool} (reaches : waking.Reaches bot ledger)
    (answers : fires env bot ledger = .ok woken) :
    waking.takeTurn env bot =
      { system :=
          if woken = true then (env.bot bot.1).act env.prices ledger waking.system
          else waking.system
        turns := waking.turns ++ [turnOf env bot ledger woken] } := by
  unfold fires at answers
  cases woken with
  | false =>
      simp only [takeTurn, reaches.unbroken, reaches.registered, answers, Bool.false_eq_true,
        if_false]
  | true => simp only [takeTurn, reaches.unbroken, reaches.registered, answers, if_true]

/-- A bot without a turn changes nothing. -/
theorem takeTurn_of_unreached {env : WakeEnv β} {waking : Waking β}
    {bot : BotId × BotRegistration} (unreached : ∀ ledger, ¬ waking.Reaches bot ledger) :
    waking.takeTurn env bot = waking := by
  unfold takeTurn
  cases fault : waking.fault with
  | some error => rfl
  | none =>
      cases registered : waking.system.ledger? bot.1 with
      | none => rfl
      | some ledger => exact absurd ⟨fault, registered⟩ (unreached ledger)

/-- A turn adds at most its own record. -/
theorem turns_takeTurn (env : WakeEnv β) (waking : Waking β) (bot : BotId × BotRegistration) :
    (waking.takeTurn env bot).turns = waking.turns ∨
      ∃ ledger woken, (waking.takeTurn env bot).turns =
        waking.turns ++ [turnOf env bot ledger woken] := by
  by_cases reached : ∃ ledger, waking.Reaches bot ledger
  · obtain ⟨ledger, reaches⟩ := reached
    cases answers : fires env bot ledger with
    | error error =>
        left
        rw [takeTurn_of_error reaches answers]
    | ok woken =>
        right
        exact ⟨ledger, woken, by rw [takeTurn_of_ok reaches answers]⟩
  · left
    rw [takeTurn_of_unreached (not_exists.mp reached)]

/-- Every record of a run was there before or is the record of one of the bots. -/
theorem turnOf_of_mem_run {env : WakeEnv β} {waking : Waking β}
    {bots : List (BotId × BotRegistration)} {turn : Turn}
    (member : turn ∈ (run (takeTurn env) waking bots).turns) :
    turn ∈ waking.turns ∨ ∃ bot ∈ bots, ∃ ledger woken, turn = turnOf env bot ledger woken := by
  induction bots generalizing waking with
  | nil => exact Or.inl member
  | cons bot rest inductionHypothesis =>
      rcases inductionHypothesis member with earlier | ⟨other, otherMember, ledger, woken, same⟩
      · rcases turns_takeTurn env waking bot with kept | ⟨ledger, woken, added⟩
        · exact Or.inl (kept ▸ earlier)
        · rw [added] at earlier
          rcases List.mem_append.mp earlier with old | new
          · exact Or.inl old
          · exact Or.inr ⟨bot, by simp, ledger, woken, List.mem_singleton.mp new⟩
      · exact Or.inr ⟨other, List.mem_cons_of_mem bot otherMember, ledger, woken, same⟩

end Waking

/-- What one tick reads from outside. -/
structure TickEnv (β : Type) where
  haltReadFails : Bool := false
  /-- The market data provider, asked for the watched symbols. -/
  fetch : List Symbol → Except PyError (Dict Symbol Decimal)
  bot : BotId → BotEnv β
  brokerPositions : Except PyError (List BrokerPosition) := .ok []
  whileFetching : System β → System β := id
  whileReconciling : System β → System β := id

/-- The orchestrator with its registrations and the context of its last
completed tick. -/
structure TickLoop (β : Type) where
  engine : Orchestrator β
  bots : Dict BotId BotRegistration := Dict.empty
  /-- The watched symbols. -/
  symbols : List Symbol := []
  prevCtx : Option Context := none
  /-- The exception that ended `run`. -/
  failed : Option PredicateError := none
  /-- The published snapshots, by tick and prices. -/
  snapshots : List (Int × Dict Symbol Decimal) := []
  /-- History: the turns of the last tick, none if it fetched no prices. -/
  turns : List Turn := []
  /-- History: the price at which each symbol was last fetched. -/
  observed : Symbol → Option Decimal := fun _ => none

namespace TickLoop

/-- A loop that has not run yet. -/
def start (engine : Orchestrator β) : TickLoop β := { engine }

/-- Publish a state snapshot, if a publisher is configured. -/
def publishSnapshot (loop : TickLoop β) (prices : Dict Symbol Decimal) : TickLoop β :=
  { loop with
    snapshots :=
      if loop.engine.publisher = true then loop.snapshots ++ [(loop.engine.tick, prices)]
      else loop.snapshots }

/-- On to the next tick. -/
def nextTick (loop : TickLoop β) : TickLoop β :=
  { loop with engine := { loop.engine with tick := loop.engine.tick + 1 } }

def wakeEnv (loop : TickLoop β) (env : TickEnv β) (prices : Dict Symbol Decimal) : WakeEnv β :=
  { prices, prevCtx := loop.prevCtx, bot := env.bot }

/-- The engine when the bots take their turns. -/
def polled (loop : TickLoop β) (env : TickEnv β) : Orchestrator β :=
  let checked := loop.engine.checkRemoteHalt env.haltReadFails
  { checked with system := env.whileFetching checked.system }

/-- The per-bot loop before the first turn. -/
def waking (loop : TickLoop β) (env : TickEnv β) : Waking β :=
  { system := (loop.polled env).system }

/-- The per-bot loop after the turns of `bots`. -/
def wake (loop : TickLoop β) (env : TickEnv β) (prices : Dict Symbol Decimal)
    (bots : List (BotId × BotRegistration)) : Waking β :=
  run (Waking.takeTurn (loop.wakeEnv env prices)) (loop.waking env) bots

/-- The last observations once `prices` are fetched. -/
def observe (loop : TickLoop β) (prices : Dict Symbol Decimal) : Symbol → Option Decimal :=
  fun symbol => (prices.get? symbol).or (loop.observed symbol)

/-- The tick ends without prices. -/
def skipTick (loop : TickLoop β) (engine : Orchestrator β) : TickLoop β :=
  ({ loop with engine, turns := [] }.publishSnapshot Dict.empty).nextTick

/-- The exception of a predicate leaves the tick and ends `run`. -/
def failTick (loop : TickLoop β) (engine : Orchestrator β) (prices : Dict Symbol Decimal)
    (turns : List Turn) (error : PredicateError) : TickLoop β :=
  { loop with engine, turns, observed := loop.observe prices, failed := some error }

/-- The end-of-tick work: reconciliation, saving the context without a ledger,
and the snapshot. -/
def closeTick (loop : TickLoop β) (engine : Orchestrator β) (prices : Dict Symbol Decimal)
    (turns : List Turn) : TickLoop β :=
  ({ loop with engine, turns, observed := loop.observe prices,
               prevCtx := some (buildContext prices none) }.publishSnapshot prices).nextTick

/-- The engine once the periodic reconciliation has had its chance. -/
def reconciled (loop : TickLoop β) (env : TickEnv β) (prices : Dict Symbol Decimal) :
    Orchestrator β :=
  let woken := (loop.wake env prices loop.bots.entries).system
  { loop.polled env with system := env.whileReconciling woken }.maybeReconcile env.brokerPositions

/-- Execute a single tick. After `run` has ended there are none. -/
def tick (loop : TickLoop β) (env : TickEnv β) : TickLoop β :=
  match loop.failed with
  | some _ => loop
  | none =>
      if loop.bots.entries = [] then
        loop.skipTick (loop.engine.checkRemoteHalt env.haltReadFails)
      else
        match env.fetch loop.symbols with
        | .error _ => loop.skipTick (loop.polled env)
        | .ok prices =>
            let woken := loop.wake env prices loop.bots.entries
            match woken.fault with
            | some error =>
                loop.failTick { loop.polled env with system := woken.system } prices woken.turns
                  error
            | none => loop.closeTick (loop.reconciled env prices) prices woken.turns

/-- Register a bot with its watched symbols and predicate. -/
def registerBot (loop : TickLoop β) (botId : BotId) (registration : BotRegistration) :
    TickLoop β :=
  { loop with
    engine := loop.engine.step (.registerBot botId)
    bots := loop.bots.set botId registration
    symbols := loop.symbols ∪ registration.symbols }

/-- Remove a bot and recalculate watched symbols. -/
def unregisterBot (loop : TickLoop β) (botId : BotId) : TickLoop β :=
  let bots := loop.bots.erase botId
  { loop with
    engine := loop.engine.step (.unregisterBot botId)
    bots
    symbols := bots.values.foldl (fun symbols registration => symbols ∪ registration.symbols) [] }

end TickLoop

/-- What can happen to the loop between and including its ticks. -/
inductive LoopEvent (β : Type)
  | tick (env : TickEnv β)
  | registerBot (botId : BotId) (registration : BotRegistration)
  | unregisterBot (botId : BotId)
  /-- Others act between two ticks. -/
  | meanwhile (act : System β → System β)

namespace TickLoop

def step (loop : TickLoop β) : LoopEvent β → TickLoop β
  | .tick env => loop.tick env
  | .registerBot botId registration => loop.registerBot botId registration
  | .unregisterBot botId => loop.unregisterBot botId
  | .meanwhile act =>
      { loop with engine := { loop.engine with system := act loop.engine.system } }

/-! ### The outcomes of a tick -/

/-- The tick takes place and fetches these prices for some bots. -/
structure Fetches (loop : TickLoop β) (env : TickEnv β) (prices : Dict Symbol Decimal) : Prop where
  running : loop.failed = none
  watched : loop.bots.entries ≠ []
  fetched : env.fetch loop.symbols = .ok prices

/-- All turns were taken without an exception. -/
def Completes (loop : TickLoop β) (env : TickEnv β) (prices : Dict Symbol Decimal) : Prop :=
  (loop.wake env prices loop.bots.entries).fault = none

variable {loop : TickLoop β} {env : TickEnv β} {prices : Dict Symbol Decimal}

theorem Fetches.unique {other : Dict Symbol Decimal} (fetches : loop.Fetches env prices)
    (fetchesOther : loop.Fetches env other) : prices = other := by
  have same := fetches.fetched.symm.trans fetchesOther.fetched
  exact Except.ok.inj same

/-- A tick that fetched prices and ran through. -/
theorem tick_of_completes (fetches : loop.Fetches env prices)
    (completes : loop.Completes env prices) :
    loop.tick env = loop.closeTick (loop.reconciled env prices) prices
      (loop.wake env prices loop.bots.entries).turns := by
  unfold Completes at completes
  simp only [tick, fetches.running, if_neg fetches.watched, fetches.fetched, completes]

/-- A tick that a predicate's exception ended. -/
theorem tick_of_fault (fetches : loop.Fetches env prices) {error : PredicateError}
    (fault : (loop.wake env prices loop.bots.entries).fault = some error) :
    loop.tick env =
      loop.failTick
        { loop.polled env with system := (loop.wake env prices loop.bots.entries).system } prices
        (loop.wake env prices loop.bots.entries).turns error := by
  simp only [tick, fetches.running, if_neg fetches.watched, fetches.fetched, fault]

/-- A tick with prices completes exactly if `run` goes on after it. -/
theorem completes_iff (fetches : loop.Fetches env prices) :
    loop.Completes env prices ↔ (loop.tick env).failed = none := by
  unfold Completes
  constructor
  · intro completes
    rw [tick_of_completes fetches completes]
    exact fetches.running
  · intro running
    cases fault : (loop.wake env prices loop.bots.entries).fault with
    | none => rfl
    | some error =>
        rw [tick_of_fault fetches fault] at running
        cases running

/-- Every tick has one of four outcomes: there is none after `run` has ended,
it is skipped for want of bots or prices, an exception ends it, or it closes. -/
theorem tick_cases {motive : TickLoop β → Prop} (loop : TickLoop β) (env : TickEnv β)
    (ended : loop.failed ≠ none → motive loop)
    (skipped : ∀ engine, loop.failed = none →
      engine = loop.engine.checkRemoteHalt env.haltReadFails ∨ engine = loop.polled env →
      motive (loop.skipTick engine))
    (faulted : ∀ prices error, loop.Fetches env prices →
      (loop.wake env prices loop.bots.entries).fault = some error →
      motive (loop.failTick
        { loop.polled env with system := (loop.wake env prices loop.bots.entries).system } prices
        (loop.wake env prices loop.bots.entries).turns error))
    (closed : ∀ prices, loop.Fetches env prices → loop.Completes env prices →
      motive (loop.closeTick (loop.reconciled env prices) prices
        (loop.wake env prices loop.bots.entries).turns)) :
    motive (loop.tick env) := by
  cases failed : loop.failed with
  | some error =>
      have none : loop.tick env = loop := by simp only [tick, failed]
      rw [none]
      exact ended (by simp [failed])
  | none =>
      by_cases idle : loop.bots.entries = []
      · have skips : loop.tick env =
            loop.skipTick (loop.engine.checkRemoteHalt env.haltReadFails) := by
          simp only [tick, failed, if_pos idle]
        rw [skips]
        exact skipped _ failed (Or.inl rfl)
      · cases fetched : env.fetch loop.symbols with
        | error error =>
            have skips : loop.tick env = loop.skipTick (loop.polled env) := by
              simp only [tick, failed, if_neg idle, fetched]
            rw [skips]
            exact skipped _ failed (Or.inr rfl)
        | ok prices =>
            have fetches : loop.Fetches env prices := ⟨failed, idle, fetched⟩
            cases fault : (loop.wake env prices loop.bots.entries).fault with
            | some error =>
                rw [tick_of_fault fetches fault]
                exact faulted prices error fetches fault
            | none =>
                rw [tick_of_completes fetches fault]
                exact closed prices fetches fault

/-! ### What the outcomes leave alone -/

section Frame

variable (loop prices) (engine : Orchestrator β) (turns : List Turn)

@[simp] theorem failed_closeTick : (loop.closeTick engine prices turns).failed = loop.failed := rfl

@[simp] theorem prevCtx_closeTick :
    (loop.closeTick engine prices turns).prevCtx = some (buildContext prices none) := rfl

@[simp] theorem turns_closeTick : (loop.closeTick engine prices turns).turns = turns := rfl

end Frame

/-- A tick registers no bot and removes none. -/
@[simp] theorem bots_tick (loop : TickLoop β) (env : TickEnv β) :
    (loop.tick env).bots = loop.bots := by
  refine tick_cases (motive := fun after => after.bots = loop.bots) loop env ?_ ?_ ?_ ?_
  · intro _
    rfl
  · intro engine _ _
    rfl
  · intro prices error _ _
    rfl
  · intro prices _ _
    rfl

end TickLoop

end TradingStrands
