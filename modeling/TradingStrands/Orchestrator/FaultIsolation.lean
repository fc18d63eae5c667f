import TradingStrands.Orchestrator.TickLoop

/-!
Owns the isolation of one bot's faults from the others and from the tick loop.
A callback that raises and a coordinator call that raises end the turn of their
own bot only. A predicate that raises ends the turn, the tick and the loop, so a
tick is isolated exactly if every predicate it evaluates answers
(`isolated_iff_predicatesEvaluate`), which well-formed predicates always do
(`isolated_of_wellFormed`).
-/

namespace TradingStrands

open TradingStrands.Foundation
open TradingStrands.Tta

variable {β : Type}

/-- A bot is woken exactly if it has no predicate or the predicate is true. -/
theorem wakes_eq_true_iff {tta : Option Json} {ctx : Context} {prevCtx : Option Context} :
    wakes tta ctx prevCtx = .ok true ↔
      tta = none ∨ ∃ pred, tta = some pred ∧ evaluate ctx prevCtx pred = .ok true := by
  cases tta with
  | none => simp [wakes]
  | some pred => simp [wakes]

/-! ### A turn in isolation -/

section Turn

variable (env : WakeEnv β) (bot : BotId × BotRegistration) (ledger : Ledger)

/-- The bot has no predicate, or its predicate is true on its own context. -/
def Woken : Prop :=
  bot.2.tta = none ∨ ∃ pred, bot.2.tta = some pred ∧
    evaluate (buildContext env.prices (some ledger)) env.prevCtx pred = .ok true

/-- The bot's callback answers with an intent that is to be traded. -/
def Intends (intent : TradeIntent) : Prop :=
  (env.bot bot.1).callback env.prices ledger = .ok (some intent) ∧
    intent.action ≠ .hold ∧ intent.action ≠ .noop

/-- What a bot's turn does to the system when nothing comes of the other bots'
faults: a bot that is woken decides, and its intent goes to the coordinator. A
predicate that raises wakes nobody. -/
inductive Served (system : System β) : System β → Prop
  | noLedger (absent : system.ledger? bot.1 = none) : Served system system
  | asleep {ledger : Ledger} (registered : system.ledger? bot.1 = some ledger)
      (notWoken : ¬ Woken env bot ledger) : Served system system
  | silent {ledger : Ledger} (registered : system.ledger? bot.1 = some ledger)
      (woken : Woken env bot ledger) (nothing : ∀ intent, ¬ Intends env bot ledger intent) :
      Served system ((env.bot bot.1).whileDeciding system)
  | routed {ledger : Ledger} {intent : TradeIntent}
      (registered : system.ledger? bot.1 = some ledger) (woken : Woken env bot ledger)
      (intends : Intends env bot ledger intent) :
      Served system ((env.bot bot.1).whileExecuting
        (((env.bot bot.1).whileDeciding system).perform { env := (env.bot bot.1).call, intent }))

/-- Every bot of the list has its turn, one after the other. -/
inductive ServedInTurn : List (BotId × BotRegistration) → System β → System β → Prop
  | nil (system : System β) : ServedInTurn [] system system
  | cons {bot : BotId × BotRegistration} {rest : List (BotId × BotRegistration)}
      {system middle final : System β} (first : Served env bot system middle)
      (later : ServedInTurn rest middle final) : ServedInTurn (bot :: rest) system final

variable {env bot ledger}

theorem fires_eq_true_iff : Waking.fires env bot ledger = .ok true ↔ Woken env bot ledger :=
  wakes_eq_true_iff

/-- The intent a turn sends is the one the callback intends. -/
theorem intent?_eq_some_iff {intent : TradeIntent} :
    (env.bot bot.1).intent? env.prices ledger = some intent ↔ Intends env bot ledger intent := by
  unfold BotEnv.intent? Intends
  cases answers : (env.bot bot.1).callback env.prices ledger with
  | error error => simp
  | ok answer =>
      cases answer with
      | none => simp
      | some decided =>
          dsimp only
          split_ifs with idle
          · refine iff_of_false nofun ?_
            rintro ⟨same, notHold, notNoop⟩
            cases same
            exact idle.elim notHold notNoop
          · rw [not_or] at idle
            constructor
            · intro same
              cases same
              exact ⟨rfl, idle⟩
            · rintro ⟨same, -⟩
              cases same
              rfl

end Turn

namespace Waking

/-- If the bot has its turn, its predicate answers. -/
def Evaluates (env : WakeEnv β) (waking : Waking β) (bot : BotId × BotRegistration) : Prop :=
  ∀ ledger, waking.Reaches bot ledger → ∃ woken, fires env bot ledger = .ok woken

/-- Only a predicate that raises ends the loop. -/
theorem fault_takeTurn_iff (env : WakeEnv β) (waking : Waking β) (bot : BotId × BotRegistration) :
    (waking.takeTurn env bot).fault = none ↔ waking.fault = none ∧ waking.Evaluates env bot := by
  by_cases reached : ∃ ledger, waking.Reaches bot ledger
  · obtain ⟨ledger, reaches⟩ := reached
    have only : ∀ other, waking.Reaches bot other → other = ledger := by
      intro other otherReaches
      have same := otherReaches.registered.symm.trans reaches.registered
      exact Option.some.inj same
    cases answers : fires env bot ledger with
    | error error =>
        rw [takeTurn_of_error reaches answers]
        refine iff_of_false (by simp) ?_
        rintro ⟨-, evaluates⟩
        obtain ⟨woken, fires⟩ := evaluates ledger reaches
        rw [answers] at fires
        cases fires
    | ok woken =>
        rw [takeTurn_of_ok reaches answers]
        refine iff_of_true rfl ⟨reaches.unbroken, ?_⟩
        intro other otherReaches
        rw [only other otherReaches]
        exact ⟨woken, answers⟩
  · rw [takeTurn_of_unreached (not_exists.mp reached)]
    constructor
    · intro unbroken
      exact ⟨unbroken, fun ledger reaches => absurd ⟨ledger, reaches⟩ reached⟩
    · exact And.left

/-- A turn whose predicate answers serves the bot. -/
theorem served_takeTurn {env : WakeEnv β} {waking : Waking β} {bot : BotId × BotRegistration}
    (unbroken : waking.fault = none) (evaluates : waking.Evaluates env bot) :
    Served env bot waking.system (waking.takeTurn env bot).system := by
  cases registered : waking.system.ledger? bot.1 with
  | none =>
      rw [takeTurn_of_unreached fun ledger reaches =>
        Option.some_ne_none ledger (reaches.registered.symm.trans registered)]
      exact .noLedger registered
  | some ledger =>
      obtain ⟨woken, answers⟩ := evaluates ledger ⟨unbroken, registered⟩
      rw [takeTurn_of_ok ⟨unbroken, registered⟩ answers]
      cases woken with
      | false =>
          refine .asleep registered fun isWoken => ?_
          cases answers.symm.trans (fires_eq_true_iff.mpr isWoken)
      | true =>
          have isWoken := fires_eq_true_iff.mp answers
          dsimp only
          rw [if_pos rfl]
          unfold BotEnv.act
          cases sends : (env.bot bot.1).intent? env.prices ledger with
          | none =>
              refine .silent registered isWoken fun intent intends => ?_
              cases sends.symm.trans (intent?_eq_some_iff.mpr intends)
          | some intent => exact .routed registered isWoken (intent?_eq_some_iff.mp sends)

/-- The loop runs through exactly if every predicate it evaluates answers. -/
theorem fault_run_iff (env : WakeEnv β) (waking : Waking β)
    (bots : List (BotId × BotRegistration)) :
    (run (takeTurn env) waking bots).fault = none ↔
      waking.fault = none ∧ EachStep (takeTurn env) (Evaluates env) waking bots := by
  induction bots generalizing waking with
  | nil => simp [EachStep]
  | cons bot rest inductionHypothesis =>
      rw [run_cons, inductionHypothesis, fault_takeTurn_iff, EachStep, and_assoc]

/-- A loop that runs through serves every bot in turn. -/
theorem servedInTurn_run {env : WakeEnv β} {waking : Waking β}
    {bots : List (BotId × BotRegistration)}
    (unbroken : (run (takeTurn env) waking bots).fault = none) :
    ServedInTurn env bots waking.system (run (takeTurn env) waking bots).system := by
  induction bots generalizing waking with
  | nil => exact .nil waking.system
  | cons bot rest inductionHypothesis =>
      rw [run_cons] at unbroken ⊢
      obtain ⟨before, evaluates⟩ := (fault_takeTurn_iff env waking bot).mp
        ((fault_run_iff env _ rest).mp unbroken).1
      exact .cons (served_takeTurn before evaluates) (inductionHypothesis unbroken)

end Waking

namespace TickLoop

/-- The engine once the turns have left the system as `final` and the periodic
reconciliation has had its chance. -/
def afterTurns (loop : TickLoop β) (env : TickEnv β) (final : System β) : Orchestrator β :=
  { loop.polled env with system := env.whileReconciling final }.maybeReconcile env.brokerPositions

/-- A tick in which no bot suffers from another. -/
structure IsolatedTick (loop : TickLoop β) (env : TickEnv β) (prices : Dict Symbol Decimal) :
    Prop where
  /-- Every bot has its turn, and the system goes from them to the reconciliation
  and the next tick. -/
  served : ∃ final, ServedInTurn (loop.wakeEnv env prices) loop.bots.entries
      (loop.polled env).system final ∧
    (loop.tick env).engine =
      { loop.afterTurns env final with tick := (loop.afterTurns env final).tick + 1 }
  /-- `run` goes on to the next tick. -/
  goesOn : (loop.tick env).failed = none
  saved : (loop.tick env).prevCtx = some (buildContext prices none)
  published : loop.engine.publisher = true →
    (loop.tick env).snapshots = loop.snapshots ++ [(loop.engine.tick, prices)]

/-- Every tick that fetches prices is isolated. -/
def Isolated (loop : TickLoop β) : LoopEvent β → Prop
  | .tick env => ∀ prices, loop.Fetches env prices → loop.IsolatedTick env prices
  | _ => True

/-- In every tick that fetches prices, each predicate whose turn comes answers on
its bot's own context. -/
def PredicatesEvaluate (loop : TickLoop β) : LoopEvent β → Prop
  | .tick env => ∀ prices, loop.Fetches env prices →
      EachStep (Waking.takeTurn (loop.wakeEnv env prices))
        (Waking.Evaluates (loop.wakeEnv env prices)) (loop.waking env) loop.bots.entries
  | _ => True

variable {loop : TickLoop β} {env : TickEnv β} {prices : Dict Symbol Decimal}

/-- The tick completes exactly if every predicate whose turn comes answers. -/
theorem completes_iff_evaluates :
    loop.Completes env prices ↔
      EachStep (Waking.takeTurn (loop.wakeEnv env prices))
        (Waking.Evaluates (loop.wakeEnv env prices)) (loop.waking env) loop.bots.entries := by
  unfold Completes wake
  rw [Waking.fault_run_iff]
  exact and_iff_right rfl

/-- A tick's work on the halt and the positions touches neither the publisher nor
the number of the tick. -/
theorem afterTurns_frame (loop : TickLoop β) (env : TickEnv β) (final : System β) :
    (loop.afterTurns env final).publisher = loop.engine.publisher ∧
      (loop.afterTurns env final).tick = loop.engine.tick := by
  unfold afterTurns
  obtain ⟨manager, cyclesFailed, lastTick, automatic, same⟩ := Orchestrator.maybeReconcile_frame
    { loop.polled env with system := env.whileReconciling final } env.brokerPositions
  obtain ⟨checkedManager, checked⟩ := loop.engine.checkRemoteHalt_cases env.haltReadFails
  rw [same]
  unfold polled
  rw [checked]
  exact ⟨rfl, rfl⟩

/-- A tick with prices is isolated exactly if it completes. -/
theorem isolatedTick_iff (fetches : loop.Fetches env prices) :
    loop.IsolatedTick env prices ↔ loop.Completes env prices := by
  constructor
  · intro isolated
    exact (completes_iff fetches).mpr isolated.goesOn
  · intro completes
    have closes := tick_of_completes fetches completes
    obtain ⟨publisher, number⟩ :=
      loop.afterTurns_frame env (loop.wake env prices loop.bots.entries).system
    constructor
    case served =>
      refine ⟨_, Waking.servedInTurn_run completes, ?_⟩
      rw [closes]
      rfl
    case goesOn =>
      rw [closes, failed_closeTick]
      exact fetches.running
    case saved => rw [closes, prevCtx_closeTick]
    case published =>
      intro configured
      rw [closes, ← number]
      exact if_pos (publisher.trans configured)

theorem isolated_step_iff (loop : TickLoop β) (event : LoopEvent β) :
    loop.Isolated event ↔ loop.PredicatesEvaluate event := by
  cases event with
  | registerBot botId registration => exact Iff.rfl
  | unregisterBot botId => exact Iff.rfl
  | meanwhile act => exact Iff.rfl
  | tick env =>
      refine forall_congr' fun prices => forall_congr' fun fetches => ?_
      rw [isolatedTick_iff fetches, completes_iff_evaluates]

/-- Over every run, the bots are isolated from each other's faults exactly as
long as no predicate raises. -/
theorem isolated_iff_predicatesEvaluate (loop : TickLoop β) (events : List (LoopEvent β)) :
    EachStep step Isolated loop events ↔ EachStep step PredicatesEvaluate loop events := by
  rw [eachStep_iff_cut, eachStep_iff_cut]
  constructor
  · intro isolated before event after cut
    exact (isolated_step_iff _ event).mp (isolated before event after cut)
  · intro evaluates before event after cut
    exact (isolated_step_iff _ event).mpr (evaluates before event after cut)

/-- A desk with the ledgers of two bots. -/
def twoLedgers : Orchestrator Unit :=
  { system := (System.single "draft" 10000).setLedger "turtle" (Ledger.ofCapital 10000) }

/-- A tick at one price in which no bot trades. -/
def quietTick : TickEnv Unit :=
  { fetch := fun symbols => .ok (MarketDataProvider.getPrices (fun _ => .ok 100) symbols)
    bot := fun _ => { callback := fun _ _ => .ok none, call := CallEnv.steady 100 } }

/-- Two bots, the first of them with an empty predicate. -/
def drafted : TickLoop Unit :=
  run step (start twoLedgers)
    [.registerBot "draft" { symbols := ["AAPL"], tta := some (.object []) },
      .registerBot "turtle" { symbols := ["AAPL"] }]

/-- The empty predicate ends `run` in its first tick. -/
theorem not_isolated_emptyPredicate :
    ¬ EachStep step Isolated (start twoLedgers)
        [.registerBot "draft" { symbols := ["AAPL"], tta := some (.object []) },
          .registerBot "turtle" { symbols := ["AAPL"] }, .tick quietTick] := by
  rintro ⟨-, -, atTick, -⟩
  have isolates : drafted.Isolated (.tick quietTick) := atTick
  have watched : drafted.bots.entries ≠ [] := List.ne_nil_of_length_pos (by decide +kernel)
  have goesOn := (isolates _ ⟨rfl, watched, rfl⟩).goesOn
  have ended : (drafted.tick quietTick).failed.isNone = false := by decide +kernel
  rw [goesOn] at ended
  cases ended

end TickLoop

/-! ### Well-formed predicates -/

/-- The predicate of the bot, if it has one, expresses a condition. -/
def BotRegistration.WellFormed (registration : BotRegistration) : Prop :=
  ∀ tta, registration.tta = some tta → ∃ condition : Condition, tta = condition.toJson

namespace TickLoop

/-- Every registered bot is well-formed. -/
def WellFormed (loop : TickLoop β) : Prop :=
  ∀ bot ∈ loop.bots.entries, bot.2.WellFormed

/-- What is registered is well-formed. -/
def RegistersWellFormed : LoopEvent β → Prop
  | .registerBot _ registration => registration.WellFormed
  | _ => True

theorem WellFormed.step {loop : TickLoop β} (wellFormed : loop.WellFormed) {event : LoopEvent β}
    (registers : RegistersWellFormed event) : (loop.step event).WellFormed := by
  cases event with
  | tick env =>
      intro bot member
      have same : (loop.step (.tick env)).bots = loop.bots := bots_tick loop env
      rw [same] at member
      exact wellFormed bot member
  | registerBot botId registration =>
      intro bot member
      have stored := Dict.get?_of_mem_entries member
      change (loop.bots.set botId registration).get? bot.1 = some bot.2 at stored
      rcases Dict.set_or_get?_of_get?_set stored with ⟨-, own⟩ | before
      · rw [own]
        exact registers
      · exact wellFormed bot (Dict.mem_entries_of_get? before)
  | unregisterBot botId =>
      intro bot member
      exact wellFormed bot (List.mem_of_mem_filter member)
  | meanwhile act => exact wellFormed

/-- A well-formed predicate answers in every context. -/
theorem predicatesEvaluate_of_wellFormed {loop : TickLoop β} (wellFormed : loop.WellFormed)
    (event : LoopEvent β) : loop.PredicatesEvaluate event := by
  cases event with
  | registerBot botId registration => trivial
  | unregisterBot botId => trivial
  | meanwhile act => trivial
  | tick env =>
      intro prices _
      rw [eachStep_iff_cut]
      intro before bot after cut ledger _
      have member : bot ∈ loop.bots.entries := by simp [cut]
      unfold Waking.fires wakes
      cases tta : bot.2.tta with
      | none => exact ⟨true, rfl⟩
      | some pred =>
          obtain ⟨condition, rfl⟩ := wellFormed bot member pred tta
          exact condition.evaluate_toJson_ok _ _

/-- If only well-formed predicates are registered, every tick is isolated. -/
theorem isolated_of_wellFormed {loop : TickLoop β} (wellFormed : loop.WellFormed)
    {events : List (LoopEvent β)} (registers : ∀ event ∈ events, RegistersWellFormed event) :
    EachStep step Isolated loop events := by
  have keeps : ∀ (state : TickLoop β) event, state.WellFormed → RegistersWellFormed event →
      (state.step event).WellFormed := fun _ _ holds good => holds.step good
  have delivers : ∀ (state : TickLoop β) event, state.WellFormed → RegistersWellFormed event →
      state.Isolated event := by
    intro state event holds _
    rw [isolated_step_iff]
    exact predicatesEvaluate_of_wellFormed holds event
  exact eachStep_of_eachStep step keeps delivers wellFormed
    (eachStep_of_forall step loop registers)

end TickLoop

end TradingStrands
