import TradingStrands.Orchestrator.TickLoop
import Mathlib.Data.Finset.Dedup

/-!
Owns the connection of the whole tick to the events of the engine: a tick that
nobody disturbs is a schedule of engine events, in which the coordinator calls
are exactly the intents that the recorded turns routed, in their order. So what
holds along every run of engine events holds along the ticks of the loop.
-/

namespace TradingStrands

open TradingStrands.Foundation
open TradingStrands.Tta

variable {β : Type}

/-- Nobody else acts during the tick. -/
structure TickEnv.Undisturbed (env : TickEnv β) : Prop where
  fetching : env.whileFetching = id
  deciding : ∀ botId, (env.bot botId).whileDeciding = id
  executing : ∀ botId, (env.bot botId).whileExecuting = id
  reconciling : env.whileReconciling = id

/-- The coordinator calls of the recorded turns. -/
def callsOf (bot : BotId → BotEnv β) (turns : List Turn) : List (Call β) :=
  turns.filterMap fun turn =>
    turn.routed.map fun intent => { env := (bot turn.botId).call, intent }

theorem callsOf_append (bot : BotId → BotEnv β) (left right : List Turn) :
    callsOf bot (left ++ right) = callsOf bot left ++ callsOf bot right :=
  List.filterMap_append

namespace Waking

/-- A turn performs exactly the call it records. -/
theorem takeTurn_calls {env : WakeEnv β} (deciding : ∀ botId, (env.bot botId).whileDeciding = id)
    (executing : ∀ botId, (env.bot botId).whileExecuting = id) (waking : Waking β)
    (bot : BotId × BotRegistration) :
    ∃ added, (waking.takeTurn env bot).turns = waking.turns ++ added ∧
      (waking.takeTurn env bot).system =
        run System.perform waking.system (callsOf env.bot added) := by
  by_cases reached : ∃ ledger, waking.Reaches bot ledger
  · obtain ⟨ledger, reaches⟩ := reached
    cases answers : fires env bot ledger with
    | error error =>
        rw [takeTurn_of_error reaches answers]
        exact ⟨[], (List.append_nil _).symm, rfl⟩
    | ok woken =>
        rw [takeTurn_of_ok reaches answers]
        refine ⟨[turnOf env bot ledger woken], rfl, ?_⟩
        cases woken with
        | false => rfl
        | true =>
            show (env.bot bot.1).act env.prices ledger waking.system = _
            unfold BotEnv.act callsOf turnOf
            rw [deciding, executing]
            cases (env.bot bot.1).intent? env.prices ledger <;> rfl
  · rw [takeTurn_of_unreached (not_exists.mp reached)]
    exact ⟨[], (List.append_nil _).symm, rfl⟩

/-- The turns of a tick perform exactly the calls they record. -/
theorem run_calls (env : WakeEnv β) (deciding : ∀ botId, (env.bot botId).whileDeciding = id)
    (executing : ∀ botId, (env.bot botId).whileExecuting = id) (waking : Waking β)
    (bots : List (BotId × BotRegistration)) :
    ∃ added, (run (takeTurn env) waking bots).turns = waking.turns ++ added ∧
      (run (takeTurn env) waking bots).system =
        run System.perform waking.system (callsOf env.bot added) := by
  induction bots generalizing waking with
  | nil => exact ⟨[], (List.append_nil _).symm, rfl⟩
  | cons bot rest inductionHypothesis =>
      obtain ⟨first, turns, system⟩ := takeTurn_calls deciding executing waking bot
      obtain ⟨later, allTurns, allSystem⟩ := inductionHypothesis (waking.takeTurn env bot)
      refine ⟨first ++ later, ?_, ?_⟩
      · rw [run_cons, allTurns, turns, List.append_assoc]
      · rw [run_cons, allSystem, system, callsOf_append, run_append]

end Waking

namespace Orchestrator

/-- The calls of a wake phase change the system only. -/
theorem run_execute (orchestrator : Orchestrator β) (calls : List (Call β)) :
    run step orchestrator (calls.map .execute) =
      { orchestrator with system := run System.perform orchestrator.system calls } := by
  induction calls generalizing orchestrator with
  | nil => rfl
  | cons call rest inductionHypothesis =>
      rw [List.map_cons, run_cons, inductionHypothesis]
      rfl

/-- Reconciliation takes no part in the phases. -/
theorem maybeReconcile_phase (orchestrator : Orchestrator β) (phase : TickPhase)
    (brokerPositions : Except PyError (List BrokerPosition)) :
    { orchestrator with phase }.maybeReconcile brokerPositions =
      { orchestrator.maybeReconcile brokerPositions with phase } := by
  obtain ⟨system, publisher, reconciler, cyclesFailed, lastTick, interval, bots, tick, -,
    automatic⟩ := orchestrator
  unfold maybeReconcile
  cases reconciler with
  | none => rfl
  | some reconciler =>
      dsimp only
      by_cases early : tick - lastTick < interval
      · simp only [if_pos early]
      · simp only [if_neg early]
        cases brokerPositions with
        | error error => rfl
        | ok positions =>
            dsimp only
            split_ifs <;> rfl

end Orchestrator

namespace TickLoop

/-- The engine is between two ticks and knows the registered bots. -/
structure Synced (loop : TickLoop β) : Prop where
  idle : loop.engine.phase = .idle
  bots : ∀ botId, botId ∈ loop.engine.bots ↔ botId ∈ loop.bots.keys

/-- The engine events of a tick. -/
def schedule (loop : TickLoop β) (env : TickEnv β) : List (TickEvent β) :=
  if loop.bots.entries = [] then [.beginTick env.haltReadFails]
  else
    match env.fetch loop.symbols with
    | .error _ => [.beginTick env.haltReadFails, .pricesFetched false]
    | .ok prices =>
        .beginTick env.haltReadFails :: .pricesFetched true ::
          ((callsOf env.bot (loop.wake env prices loop.bots.entries).turns).map .execute ++
            [.endTick env.brokerPositions])

variable {loop : TickLoop β} {env : TickEnv β}

/-- The poll that opens a tick leaves the engine ready to fetch. -/
private theorem beginTick_of_bots (synced : loop.Synced) (watched : loop.bots.entries ≠ [])
    (undisturbed : env.Undisturbed) :
    loop.engine.step (.beginTick env.haltReadFails) =
      { loop.polled env with phase := .fetching } := by
  have known : loop.engine.bots ≠ ∅ := by
    obtain ⟨bot, rest, entries⟩ := List.exists_cons_of_ne_nil watched
    have member : bot.1 ∈ loop.engine.bots := (synced.bots bot.1).mpr (by
      unfold Dict.keys
      rw [entries]
      simp)
    exact Finset.ne_empty_of_mem member
  obtain ⟨manager, same⟩ := loop.engine.checkRemoteHalt_cases env.haltReadFails
  unfold polled
  simp only [Orchestrator.step, if_pos synced.idle, undisturbed.fetching, same]
  exact if_neg known

/-- The poll does not change the phase. -/
private theorem phase_polled (synced : loop.Synced) : (loop.polled env).phase = .idle := by
  obtain ⟨manager, same⟩ := loop.engine.checkRemoteHalt_cases env.haltReadFails
  unfold polled
  rw [same]
  exact synced.idle

/-- The recorded turns make up the calls of the wake phase. -/
private theorem system_wake {prices : Dict Symbol Decimal} (undisturbed : env.Undisturbed)
    (bots : List (BotId × BotRegistration)) :
    (loop.wake env prices bots).system =
      run System.perform (loop.polled env).system
        (callsOf env.bot (loop.wake env prices bots).turns) := by
  obtain ⟨added, turns, system⟩ := Waking.run_calls (loop.wakeEnv env prices)
    undisturbed.deciding undisturbed.executing (loop.waking env) bots
  have all : (loop.wake env prices bots).turns = added := turns
  rw [all]
  exact system

/-- Fetching without prices takes the engine to the next tick. -/
private theorem pricesFetched_of_polled (idle : (loop.polled env).phase = .idle) :
    Orchestrator.step { loop.polled env with phase := .fetching } (.pricesFetched false) =
      { loop.polled env with tick := (loop.polled env).tick + 1 } := by
  simp only [Orchestrator.step, if_true, Bool.false_eq_true, if_false]
  rw [← idle]

/-- The reconciliation that closes a wake phase. -/
private theorem endTick_of_waking {woken : Orchestrator β} (idle : woken.phase = .idle)
    (brokerPositions : Except PyError (List BrokerPosition)) :
    Orchestrator.step { woken with phase := .waking } (.endTick brokerPositions) =
      { woken.maybeReconcile brokerPositions with
        tick := (woken.maybeReconcile brokerPositions).tick + 1 } := by
  obtain ⟨manager, cyclesFailed, lastTick, automatic, frame⟩ :=
    woken.maybeReconcile_frame brokerPositions
  simp only [Orchestrator.step, if_true, Orchestrator.maybeReconcile_phase]
  rw [frame, ← idle]
  rfl

/-- Without bots a tick only polls. -/
private theorem engine_tick_of_unwatched (synced : loop.Synced) (running : loop.failed = none)
    (unwatched : loop.bots.entries = []) :
    (loop.tick env).engine = run Orchestrator.step loop.engine (loop.schedule env) := by
  have unknown : loop.engine.bots = ∅ := by
    rw [Finset.eq_empty_iff_forall_notMem]
    intro botId member
    rw [synced.bots, Dict.keys, unwatched] at member
    cases member
  obtain ⟨manager, same⟩ := loop.engine.checkRemoteHalt_cases env.haltReadFails
  simp only [tick, running, schedule, if_pos unwatched, run_cons, run_nil, Orchestrator.step,
    if_pos synced.idle, same]
  exact (if_pos unknown).symm

/-- A completed tick polls, fetches, calls and reconciles. -/
private theorem engine_tick_of_completes {prices : Dict Symbol Decimal} (synced : loop.Synced)
    (undisturbed : env.Undisturbed) (fetches : loop.Fetches env prices)
    (completes : loop.Completes env prices) :
    (loop.tick env).engine = run Orchestrator.step loop.engine (loop.schedule env) := by
  have opened := beginTick_of_bots synced fetches.watched undisturbed
  have idle : (loop.polled env).phase = .idle := phase_polled synced
  have awake : Orchestrator.step { loop.polled env with phase := .fetching }
      (.pricesFetched true) = { loop.polled env with phase := .waking } := by
    simp only [Orchestrator.step, if_true]
  have wokenIdle : { loop.polled env with
      system := (loop.wake env prices loop.bots.entries).system }.phase = .idle := idle
  have closes := endTick_of_waking wokenIdle env.brokerPositions
  simp only [schedule, if_neg fetches.watched, fetches.fetched]
  rw [tick_of_completes fetches completes, run_cons, run_cons, run_append, opened, awake,
    Orchestrator.run_execute, ← system_wake undisturbed, run_cons, run_nil]
  refine Eq.trans ?_ closes.symm
  unfold closeTick nextTick publishSnapshot reconciled
  rw [undisturbed.reconciling]
  rfl

/-- An undisturbed tick after which `run` goes on is its schedule. -/
theorem engine_tick (synced : loop.Synced) (undisturbed : env.Undisturbed)
    (goesOn : (loop.tick env).failed = none) :
    (loop.tick env).engine = run Orchestrator.step loop.engine (loop.schedule env) := by
  cases failed : loop.failed with
  | some error =>
      simp [tick, failed] at goesOn
  | none =>
      by_cases unwatched : loop.bots.entries = []
      · exact engine_tick_of_unwatched synced failed unwatched
      · cases fetched : env.fetch loop.symbols with
        | error error =>
            have opened := beginTick_of_bots synced unwatched undisturbed
            simp only [tick, failed, schedule, if_neg unwatched, fetched, run_cons, run_nil, opened]
            exact (pricesFetched_of_polled (phase_polled synced)).symm
        | ok prices =>
            have fetches : loop.Fetches env prices := ⟨failed, unwatched, fetched⟩
            exact engine_tick_of_completes synced undisturbed fetches
              ((completes_iff fetches).mpr goesOn)

/-! ### Runs -/

/-- Nobody acts on the system but the loop. -/
def Undisturbed : LoopEvent β → Prop
  | .tick env => env.Undisturbed
  | .meanwhile _ => False
  | _ => True

/-- The engine events of a loop event. -/
def scheduleOf (loop : TickLoop β) : LoopEvent β → List (TickEvent β)
  | .tick env => loop.schedule env
  | .registerBot botId _ => [.registerBot botId]
  | .unregisterBot botId => [.unregisterBot botId]
  | .meanwhile _ => []

/-- An event after which `run` goes on acts on the engine as its schedule. -/
theorem engine_step (synced : loop.Synced) {event : LoopEvent β} (undisturbed : Undisturbed event)
    (goesOn : (loop.step event).failed = none) :
    (loop.step event).engine = run Orchestrator.step loop.engine (loop.scheduleOf event) := by
  cases event with
  | tick env => exact engine_tick synced undisturbed goesOn
  | registerBot botId registration => rfl
  | unregisterBot botId => rfl
  | meanwhile act => exact absurd undisturbed id

/-- A tick leaves the engine's phase and its bots as they were. -/
private theorem frame_tick (loop : TickLoop β) (env : TickEnv β) :
    (loop.tick env).engine.phase = loop.engine.phase ∧
      (loop.tick env).engine.bots = loop.engine.bots := by
  obtain ⟨manager, checked⟩ := loop.engine.checkRemoteHalt_cases env.haltReadFails
  refine tick_cases (motive := fun after => after.engine.phase = loop.engine.phase ∧
    after.engine.bots = loop.engine.bots) loop env ?ended ?skipped ?faulted ?closed
  case ended =>
    intro _
    exact ⟨rfl, rfl⟩
  case skipped =>
    intro engine _ kind
    rcases kind with rfl | rfl
    · rw [checked]
      exact ⟨rfl, rfl⟩
    · unfold polled
      rw [checked]
      exact ⟨rfl, rfl⟩
  case faulted =>
    intro prices error _ _
    unfold polled
    rw [checked]
    exact ⟨rfl, rfl⟩
  case closed =>
    intro prices _ _
    unfold reconciled
    dsimp only
    obtain ⟨after, cyclesFailed, lastTick, automatic, same⟩ := Orchestrator.maybeReconcile_frame
      { loop.polled env with
        system := env.whileReconciling (loop.wake env prices loop.bots.entries).system }
      env.brokerPositions
    rw [same]
    unfold polled
    rw [checked]
    exact ⟨rfl, rfl⟩

theorem Synced.step (synced : loop.Synced) {event : LoopEvent β}
    (undisturbed : Undisturbed event) : (loop.step event).Synced := by
  cases event with
  | tick env =>
      obtain ⟨phase, bots⟩ := frame_tick loop env
      refine ⟨phase.trans synced.idle, fun botId => ?_⟩
      show botId ∈ (loop.tick env).engine.bots ↔ botId ∈ (loop.tick env).bots.keys
      rw [bots, bots_tick]
      exact synced.bots botId
  | registerBot botId registration =>
      refine ⟨synced.idle, fun other => ?_⟩
      show other ∈ insert botId loop.engine.bots ↔ other ∈ (loop.bots.set botId registration).keys
      rw [Finset.mem_insert, synced.bots, Dict.mem_keys_iff, Dict.mem_keys_iff, Dict.get?_set]
      by_cases own : other = botId
      · simp [own]
      · simp [own]
  | unregisterBot botId =>
      refine ⟨synced.idle, fun other => ?_⟩
      show other ∈ loop.engine.bots.erase botId ↔ other ∈ (loop.bots.erase botId).keys
      rw [Finset.mem_erase, synced.bots, Dict.mem_keys_iff, Dict.mem_keys_iff]
      by_cases own : other = botId
      · simp [own]
      · simp [own, Dict.get?_erase_of_ne]
  | meanwhile act => exact absurd undisturbed id

/-- Once an exception has ended `run`, it stays ended. -/
theorem failed_step (loop : TickLoop β) (event : LoopEvent β)
    (goesOn : (loop.step event).failed = none) : loop.failed = none := by
  cases event with
  | tick env =>
      change (loop.tick env).failed = none at goesOn
      cases failed : loop.failed with
      | none => rfl
      | some error =>
          simp only [tick, failed] at goesOn
          cases goesOn
  | registerBot botId registration => exact goesOn
  | unregisterBot botId => exact goesOn
  | meanwhile act => exact goesOn

theorem failed_run (loop : TickLoop β) (events : List (LoopEvent β))
    (goesOn : (run step loop events).failed = none) : loop.failed = none := by
  induction events generalizing loop with
  | nil => exact goesOn
  | cons event rest inductionHypothesis =>
      exact failed_step loop event (inductionHypothesis (loop.step event) goesOn)

/-- The engine events of a run. -/
def schedules (loop : TickLoop β) : List (LoopEvent β) → List (TickEvent β)
  | [] => []
  | event :: rest => loop.scheduleOf event ++ (loop.step event).schedules rest

/-- An undisturbed run of the loop that goes on is the run of its engine events. -/
theorem engine_run (synced : loop.Synced) {events : List (LoopEvent β)}
    (undisturbed : ∀ event ∈ events, Undisturbed event)
    (goesOn : (run step loop events).failed = none) :
    (run step loop events).engine = run Orchestrator.step loop.engine (loop.schedules events) := by
  induction events generalizing loop with
  | nil => rfl
  | cons event rest inductionHypothesis =>
      have first := undisturbed event (by simp)
      have acts := engine_step synced first (failed_run _ rest goesOn)
      have later := inductionHypothesis (synced.step first)
        (fun other member => undisturbed other (by simp [member])) goesOn
      rw [run_cons, later, schedules, run_append, acts]

end TickLoop

end TradingStrands
