import TradingStrands.MemoryCompactor.Appends
import TradingStrands.Strategies.Bot

/-!
Owns what a fleet of bots holds after any sequence of their ticks, in which models
and stores may fail at any point. What a bot remembers, the prompt and the beat it
last left, and the notes in its memory are those of its own ticks; the last five of
its decisions and the failures of the last hour are all there.
-/

namespace TradingStrands.Strategies

open TradingStrands.Foundation
open AgentMemoryStore (Plain grown)
open MemoryCompactor (MemoryEvent textAt)

/-- The bots that run, each under its id and with a memory of its own, if any. -/
structure Roster where
  bots : Dict BotId StrategyBot
  keyed : ∀ botId bot, bots.get? botId = some bot → bot.botId = botId
  remembered : ∀ botId bot store, bots.get? botId = some bot → bot.memoryStore = some store →
    store = { orgId := bot.orgId, agentType := "strategy", agentId := botId }

/-- What the bots remember and what their stores hold. -/
structure Fleet where
  states : Dict BotId BotState := Dict.empty
  stores : BotStores := {}

namespace Fleet

def stateOf (fleet : Fleet) (botId : BotId) : BotState := (fleet.states.get? botId).getD {}

/-- A tick of a bot. -/
def step (roster : Roster) (fleet : Fleet) (event : BotId × BotTick) : Fleet :=
  match roster.bots.get? event.1 with
  | none => fleet
  | some bot =>
      let decided := bot.decide event.2 (fleet.stateOf event.1) fleet.stores
      { states := fleet.states.set event.1 decided.state, stores := decided.stores }

end Fleet

/-- The ticks of a bot. -/
def ticksOf (botId : BotId) (events : List (BotId × BotTick)) : List BotTick :=
  (events.filter fun event => event.1 = botId).map Prod.snd

/-! ### What a bot has seen -/

namespace BotTick

def decision? (tick : BotTick) : Option BotDecision :=
  match tick.answer with
  | .ok answer => answer
  | .error _ => none

/-- When the model failed, if it did. -/
def failure? (tick : BotTick) : Option Int :=
  match tick.answer with
  | .ok _ => none
  | .error _ => some tick.answeredAt

/-- When the model answered, if it did. -/
def answered? (tick : BotTick) : Option Int :=
  match tick.answer with
  | .ok _ => some tick.answeredAt
  | .error _ => none

end BotTick

namespace StrategyBot

variable (bot : StrategyBot)

/-- The state after a tick does not depend on what the stores hold. -/
def nextState (state : BotState) (tick : BotTick) : BotState := (bot.decide tick state {}).state

theorem state_decide (tick : BotTick) (state : BotState) (stores : BotStores) :
    (bot.decide tick state stores).state = bot.nextState state tick := by
  unfold nextState decide
  cases tick.answer with
  | error error => rfl
  | ok answer => cases answer <;> rfl

theorem prune_eq (tick : BotTick) (state : BotState) :
    bot.prune tick state = { state with errorTs := (bot.prune tick state).errorTs } := by
  unfold prune
  split <;> rfl

/-- Whether or not the model answers, the tick counts and old errors are pruned. -/
theorem nextState_cases (state : BotState) (tick : BotTick) :
    bot.nextState state tick =
      { recentDecisions := (tick.decision?.map recentLine).toList.foldl (remember maxHistory)
          state.recentDecisions
        lastDecisionAt := tick.answered?.getD state.lastDecisionAt
        errorTs := (bot.prune tick state).errorTs ++ tick.failure?.toList
        tickCounter := state.tickCounter + 1 } := by
  unfold nextState decide BotTick.decision? BotTick.failure? BotTick.answered?
  rw [prune_eq]
  cases tick.answer with
  | error error => rfl
  | ok answer => cases answer <;> simp

/-- A tick as far as the window of errors goes. -/
def windowEvents (tick : BotTick) : List WindowEvent :=
  (if bot.beats = true then [.prune (tick.prunedAt - errorWindowSeconds)] else []) ++
    tick.failure?.toList.map .add

theorem errorTs_nextState (state : BotState) (tick : BotTick) :
    (bot.nextState state tick).errorTs =
      run WindowEvent.step state.errorTs (bot.windowEvents tick) := by
  rw [nextState_cases]
  unfold prune windowEvents
  cases tick.failure? with
  | none => split <;> simp [WindowEvent.step]
  | some time => split <;> simp [WindowEvent.step]

/-- What a bot remembers is what it saw in its ticks. -/
structure Remembers (ticks : List BotTick) (state : BotState) : Prop where
  recent : state.recentDecisions =
    ((ticks.filterMap BotTick.decision?).map recentLine).rtake maxHistory
  lastDecision : state.lastDecisionAt = (ticks.filterMap BotTick.answered?).getLast?.getD 0
  errors : state.errorTs = run WindowEvent.step [] (ticks.flatMap bot.windowEvents)
  counter : state.tickCounter = ticks.length

variable {bot : StrategyBot}

theorem Remembers.step {ticks : List BotTick} {state : BotState}
    (remembers : bot.Remembers ticks state) (tick : BotTick) :
    bot.Remembers (ticks ++ [tick]) (bot.nextState state tick) where
  recent := by
    rw [nextState_cases, List.filterMap_append, List.map_append]
    dsimp only
    rw [remembers.recent]
    cases decision : tick.decision? with
    | none => simp [decision]
    | some decided =>
        rw [List.filterMap_cons_some decision]
        exact (remember_eq _ _ _).trans (rtake_rtake_append _ _ _)
  lastDecision := by
    rw [nextState_cases, List.filterMap_append]
    dsimp only
    rw [remembers.lastDecision]
    cases answered : tick.answered? with
    | none => simp [answered]
    | some time => simp [answered]
  errors := by
    rw [errorTs_nextState, remembers.errors, ← run_append, List.flatMap_append,
      List.flatMap_singleton]
  counter := by
    rw [nextState_cases, List.length_append, List.length_singleton]
    exact congrArg (· + 1) remembers.counter

theorem remembers_run (bot : StrategyBot) (ticks : List BotTick) :
    bot.Remembers ticks (run bot.nextState {} ticks) := by
  induction ticks using List.reverseRecOn with
  | nil => exact ⟨rfl, rfl, rfl, rfl⟩
  | append_singleton earlier tick inductionHypothesis =>
      rw [run_concat]
      exact inductionHypothesis.step tick

theorem added_windowEvents (ticks : List BotTick) :
    (ticks.flatMap bot.windowEvents).filterMap WindowEvent.added? =
      ticks.filterMap BotTick.failure? := by
  induction ticks with
  | nil => rfl
  | cons tick rest inductionHypothesis =>
      rw [List.flatMap_cons, List.filterMap_append, inductionHypothesis]
      unfold windowEvents
      cases failure : tick.failure? with
      | none =>
          rw [List.filterMap_cons_none failure]
          split <;> rfl
      | some time =>
          rw [List.filterMap_cons_some failure]
          split <;> rfl

/-- A clock that does not go back loses no error of the last hour. -/
theorem Remembers.errorsLastHour {ticks : List BotTick} {state : BotState}
    (remembers : bot.Remembers ticks state) (beats : bot.beats = true) {next : BotTick}
    (forward : ∀ tick ∈ ticks, tick.prunedAt ≤ next.prunedAt) :
    (bot.beatOf (bot.prune next state)).errorsLastHour =
      (since (next.prunedAt - errorWindowSeconds) (ticks.filterMap BotTick.failure?)).length := by
  have growing : ∀ event ∈ ticks.flatMap bot.windowEvents,
      event.CutsBy (next.prunedAt - errorWindowSeconds) := by
    intro event member
    obtain ⟨tick, seen, made⟩ := List.mem_flatMap.mp member
    unfold windowEvents at made
    rw [if_pos beats] at made
    rcases List.mem_append.mp made with prunes | fails
    · rw [List.mem_singleton.mp prunes]
      exact Int.sub_le_sub_right (forward tick seen) _
    · obtain ⟨time, -, rfl⟩ := List.mem_map.mp fails
      exact trivial
  have window := since_run growing []
  rw [List.nil_append, added_windowEvents, ← remembers.errors] at window
  unfold beatOf prune
  rw [if_pos beats, ← window]

end StrategyBot

/-! ### Fleets -/

namespace Fleet

variable {roster : Roster}

/-- Each bot goes on from its own state. -/
theorem stateOf_step (fleet : Fleet) (event : BotId × BotTick) {botId : BotId} {bot : StrategyBot}
    (registered : roster.bots.get? botId = some bot) :
    (step roster fleet event).stateOf botId =
      if event.1 = botId then bot.nextState (fleet.stateOf botId) event.2
      else fleet.stateOf botId := by
  unfold step
  by_cases own : event.1 = botId
  · rw [if_pos own, own, registered]
    unfold stateOf
    rw [Dict.get?_set_self, Option.getD_some, StrategyBot.state_decide]
  · rw [if_neg own]
    cases roster.bots.get? event.1 with
    | none => rfl
    | some other =>
        unfold stateOf
        rw [Dict.get?_set_of_ne _ _ (Ne.symm own)]

theorem stateOf_run (fleet : Fleet) (events : List (BotId × BotTick)) {botId : BotId}
    {bot : StrategyBot} (registered : roster.bots.get? botId = some bot) :
    (run (step roster) fleet events).stateOf botId =
      run bot.nextState (fleet.stateOf botId) (ticksOf botId events) := by
  induction events generalizing fleet with
  | nil => rfl
  | cons event rest inductionHypothesis =>
      rw [run_cons, inductionHypothesis, stateOf_step fleet event registered]
      unfold ticksOf
      by_cases own : event.1 = botId
      · rw [if_pos own, List.filter_cons_of_pos (by simpa using own), List.map_cons, run_cons]
      · rw [if_neg own, List.filter_cons_of_neg (by simpa using own)]

end Fleet

/-! ### What a bot is told and tells -/

theorem formatRecent_eq_empty_iff {recent : List String} :
    formatRecent recent = "" ↔ recent = [] := by
  constructor
  · intro empty
    cases recent with
    | nil => rfl
    | cons decision rest =>
        unfold formatRecent at empty
        simp only [List.mapIdx_cons, String.append_assoc, String.intercalate_cons_append,
          String.append_eq_empty_iff] at empty
        exact absurd empty.1 (by decide)
  · rintro rfl
    rfl

/-- Whatever the other bots, the models and the stores do, the next prompt of a bot shows
the last five of its decisions, and its next beat says when its model last answered and,
if the clock does not go back, how often it failed in the hour before. -/
theorem fleet_tells {roster : Roster} {botId : BotId} {bot : StrategyBot}
    (registered : roster.bots.get? botId = some bot) (stores : BotStores)
    (events : List (BotId × BotTick)) (next : BotTick) :
    let ticks := ticksOf botId events
    let state := bot.prune next ((run (Fleet.step roster) { stores } events).stateOf botId)
    let shown := ((ticks.filterMap BotTick.decision?).map StrategyBot.recentLine).rtake 5
    (bot.promptOf next state).recentDecisions =
        (if shown = [] then "No recent decisions." else formatRecent shown) ∧
      state.tickCounter = ticks.length ∧
      (bot.beatOf state).lastDecisionAt =
        some ((ticks.filterMap BotTick.answered?).getLast?.getD 0) ∧
      (bot.beats = true → (∀ tick ∈ ticks, tick.prunedAt ≤ next.prunedAt) →
        (bot.beatOf state).errorsLastHour =
          ((ticks.filterMap BotTick.failure?).filter (next.prunedAt - 3600 < ·)).length) := by
  intro ticks state shown
  have remembers : bot.Remembers ticks
      ((run (Fleet.step roster) { stores } events).stateOf botId) := by
    rw [Fleet.stateOf_run { stores } events registered]
    exact bot.remembers_run ticks
  have pruned : state = { (run (Fleet.step roster) { stores } events).stateOf botId with
      errorTs := state.errorTs } := bot.prune_eq next _
  refine ⟨?_, ?_, ?_, fun beats forward => remembers.errorsLastHour beats forward⟩
  · have recent : state.recentDecisions = shown := by
      rw [pruned]
      exact remembers.recent
    show (if formatRecent state.recentDecisions = "" then _ else _) = _
    rw [recent]
    simp only [formatRecent_eq_empty_iff]
  · rw [pruned]
    exact remembers.counter
  · show some state.lastDecisionAt = _
    rw [pruned]
    exact congrArg some remembers.lastDecision

/-! ### What the stores show of a bot -/

namespace StrategyBot

variable (bot : StrategyBot)

/-- The line that a tick notes. -/
def noted? (tick : BotTick) : Option String :=
  tick.decision?.map fun decision =>
    formatMemoryLine tick.print decision tick.prices tick.ledger (gmtime tick.notedAt)

/-- The append of a tick to the bot's memory. -/
def note? (tick : BotTick) : Option MemoryEvent :=
  bot.memoryStore.bind fun store =>
    (noted? tick).map fun line =>
      .appendToToday store tick.filedAt line tick.memoryFaults tick.memoryFate

theorem stores_decide (tick : BotTick) (state : BotState) (stores : BotStores) :
    (bot.decide tick state stores).stores =
      { heartbeats := bot.writeBeat tick (bot.prune tick state) stores.heartbeats
        prompts := bot.writePrompt
          (bot.snapshotOf (some (bot.promptOf tick (bot.prune tick state)))
            (state.tickCounter + 1) tick.renderedAt) tick.promptFate stores.prompts
        memory := (bot.note? tick).toList.foldl MemoryCompactor.step stores.memory } := by
  have counter : (bot.prune tick state).tickCounter = state.tickCounter := by
    rw [prune_eq]
  unfold decide note? noted? BotTick.decision? appendMemoryLine
  rw [← counter]
  cases tick.answer with
  | error error => cases bot.memoryStore <;> rfl
  | ok answer => cases answer <;> cases bot.memoryStore <;> rfl

end StrategyBot

namespace Fleet

variable {roster : Roster}

theorem stores_step (fleet : Fleet) (event : BotId × BotTick) {bot : StrategyBot}
    (registered : roster.bots.get? event.1 = some bot) :
    (step roster fleet event).stores =
      (bot.decide event.2 (fleet.stateOf event.1) fleet.stores).stores := by
  unfold step
  rw [registered]

/-- The snapshot of a bot is written by its own ticks only. -/
theorem prompt_step (fleet : Fleet) (event : BotId × BotTick) {botId : BotId} {bot : StrategyBot}
    (registered : roster.bots.get? botId = some bot) :
    PromptSnapshotStore.get (step roster fleet event).stores.prompts botId =
      if (event.1 = botId ∧ bot.snapshots = true) ∧ event.2.promptFate.keeps = true then
        some (bot.snapshotOf
          (some (bot.promptOf event.2 (bot.prune event.2 (fleet.stateOf botId))))
          ((fleet.stateOf botId).tickCounter + 1) event.2.renderedAt)
      else PromptSnapshotStore.get fleet.stores.prompts botId := by
  cases found : roster.bots.get? event.1 with
  | none =>
      have other : event.1 ≠ botId := by
        rintro rfl
        exact absurd (found.symm.trans registered) (by simp)
      unfold step
      rw [found, if_neg fun all => other all.1.1]
  | some own =>
      rw [stores_step fleet event found, StrategyBot.stores_decide]
      unfold StrategyBot.writePrompt
      by_cases writes : own.snapshots = true
      · rw [if_pos writes, PromptSnapshotStore.get_write]
        have name : own.botId = event.1 := roster.keyed _ _ found
        by_cases same : event.1 = botId
        · rw [same] at found name
          obtain rfl := Option.some.inj (found.symm.trans registered)
          simp [StrategyBot.snapshotOf, name, same, writes]
        · simp [StrategyBot.snapshotOf, name, same]
      · rw [if_neg writes, if_neg]
        rintro ⟨⟨rfl, shows⟩, -⟩
        obtain rfl := Option.some.inj (found.symm.trans registered)
        exact writes shows

/-- So is its beat. -/
theorem beat_step (fleet : Fleet) (event : BotId × BotTick) {botId : BotId} {bot : StrategyBot}
    (registered : roster.bots.get? botId = some bot) :
    (step roster fleet event).stores.heartbeats.get? (HeartbeatStore.heartbeatPk bot.agentName) =
      if (event.1 = botId ∧ bot.beats = true) ∧ event.2.beatFate.keeps = true then
        some ⟨(bot.beatOf (bot.prune event.2 (fleet.stateOf botId))).row event.2.beatAt,
          event.2.beatAt + HeartbeatStore.beatTtlSeconds⟩
      else fleet.stores.heartbeats.get? (HeartbeatStore.heartbeatPk bot.agentName) := by
  cases found : roster.bots.get? event.1 with
  | none =>
      have other : event.1 ≠ botId := by
        rintro rfl
        exact absurd (found.symm.trans registered) (by simp)
      unfold step
      rw [found, if_neg fun all => other all.1.1]
  | some own =>
      rw [stores_step fleet event found, StrategyBot.stores_decide]
      unfold StrategyBot.writeBeat HeartbeatStore.beat
      by_cases writes : own.beats = true
      · rw [if_pos writes, PutFate.snd_put]
        by_cases same : event.1 = botId
        · rw [same] at found
          obtain rfl := Option.some.inj (found.symm.trans registered)
          by_cases kept : event.2.beatFate.keeps = true
          · rw [if_pos kept, if_pos ⟨⟨same, writes⟩, kept⟩, same]
            exact Dict.get?_set_self ..
          · rw [if_neg kept, if_neg fun all => kept all.2]
        · have different : HeartbeatStore.heartbeatPk bot.agentName ≠
              HeartbeatStore.heartbeatPk own.agentName := by
            intro keys
            have names := congrArg AgentName.agentId (HeartbeatStore.heartbeatPk_inj keys)
            have bots : bot.botId = own.botId := names
            rw [roster.keyed _ _ registered, roster.keyed _ _ found] at bots
            exact same bots.symm
          refine Eq.trans ?_ (if_neg fun all => same all.1.1).symm
          split
          · exact Dict.get?_set_of_ne _ _ different
          · rfl
      · rw [if_neg writes, if_neg]
        rintro ⟨⟨rfl, shows⟩, -⟩
        obtain rfl := Option.some.inj (found.symm.trans registered)
        exact writes shows

/-- A row that only kept writes of a bot change is the last one, or as it was. -/
theorem row_run {ρ : Type} (row : Fleet → Option ρ) (botId : BotId) (keeps : BotTick → Bool)
    (unchanged : ∀ fleet event, ¬ (event.1 = botId ∧ keeps event.2 = true) →
      row (step roster fleet event) = row fleet)
    (fleet : Fleet) {later : List (BotId × BotTick)}
    (lost : ∀ tick ∈ ticksOf botId later, keeps tick = false) :
    row (run (step roster) fleet later) = row fleet := by
  induction later generalizing fleet with
  | nil => rfl
  | cons event rest inductionHypothesis =>
      have own : event.1 = botId → keeps event.2 = false := fun same =>
        lost event.2 (List.mem_map.mpr ⟨event,
          List.mem_filter.mpr ⟨List.mem_cons_self, by simpa using same⟩, rfl⟩)
      rw [run_cons, inductionHypothesis _ fun tick member => lost tick ?_,
        unchanged fleet event fun both => by simp [own both.1] at both]
      obtain ⟨entry, filed, rfl⟩ := List.mem_map.mp member
      have kept := List.mem_filter.mp filed
      exact List.mem_map.mpr ⟨entry, List.mem_filter.mpr
        ⟨List.mem_cons_of_mem event kept.1, kept.2⟩, rfl⟩

/-- The append of an event to a memory. -/
def note? (roster : Roster) (event : BotId × BotTick) : Option MemoryEvent :=
  (roster.bots.get? event.1).bind fun bot => bot.note? event.2

theorem memory_run (fleet : Fleet) (events : List (BotId × BotTick)) :
    (run (step roster) fleet events).stores.memory =
      run MemoryCompactor.step fleet.stores.memory (events.filterMap (note? roster)) := by
  refine run_view (step roster) (fun fleet => fleet.stores.memory) (fun fleet event _ => ?_) fleet
  unfold note?
  cases found : roster.bots.get? event.1 with
  | none =>
      unfold step
      rw [found]
      rfl
  | some bot =>
      rw [stores_step fleet event found, StrategyBot.stores_decide, Option.bind_some]
      cases bot.note? event.2 <;> rfl

/-- A bot appends to its own memory. -/
theorem store_of_note? {event : BotId × BotTick} {note : MemoryEvent}
    (noted : note? roster event = some note) {call : MemoryCompactor.FileAppend}
    (appends : note.append? = some call) :
    call.store.agentType = "strategy" ∧ call.store.agentId = event.1 ∧
      ∃ bot, roster.bots.get? event.1 = some bot := by
  obtain ⟨bot, found, made⟩ := Option.bind_eq_some_iff.mp noted
  obtain ⟨store, own, line⟩ := Option.bind_eq_some_iff.mp made
  obtain ⟨text, -, rfl⟩ := Option.map_eq_some_iff.mp line
  obtain rfl := Option.some.inj appends
  rw [roster.remembered _ _ _ found own]
  exact ⟨rfl, rfl, bot, found⟩

end Fleet

/-- Whole amounts as the source prints them. -/
def wholeAmounts : Printing where
  decimal value := toString value.num
  percent _ := "0.00%"
  upper := String.toUpper

/-- A tick at one moment. -/
def tickAt (time : Int) (answer : Except PyError (Option BotDecision)) : BotTick :=
  { ledger := Ledger.ofCapital 1000
    print := wholeAmounts
    prunedAt := time
    beatAt := time
    renderedAt := time
    answer
    answeredAt := time
    notedAt := time
    filedAt := time }

def holdSpy : BotDecision :=
  { action := "hold", symbol := "SPY", quantity := "0", rationale := "in range" }

/-- A bot of acme with everything wired. -/
def wiredBot (botId : BotId) : StrategyBot :=
  { botId
    orgId := "acme"
    memoryStore := some { orgId := "acme", agentType := "strategy", agentId := botId }
    beats := true
    snapshots := true }

def twoBots : Roster where
  bots := (Dict.empty.set "momentum" (wiredBot "momentum")).set "other" (wiredBot "other")
  keyed botId bot found := by
    rcases Dict.set_or_get?_of_get?_set found with ⟨rfl, rfl⟩ | before
    · rfl
    · rcases Dict.set_or_get?_of_get?_set before with ⟨rfl, rfl⟩ | none
      · rfl
      · cases none
  remembered botId bot store found own := by
    rcases Dict.set_or_get?_of_get?_set found with ⟨rfl, rfl⟩ | before
    · exact (Option.some.inj own).symm
    · rcases Dict.set_or_get?_of_get?_set before with ⟨rfl, rfl⟩ | none
      · exact (Option.some.inj own).symm
      · cases none

/-- A failure, a decision, a failure and then a tick of the other bot. -/
def fourTicks : List (BotId × BotTick) :=
  [("momentum", tickAt 0 (.error (.external "throttled"))),
    ("momentum", tickAt 1800 (.ok (some holdSpy))),
    ("momentum", tickAt 2400 (.error (.external "throttled"))),
    ("other", tickAt 2460 (.ok (some { holdSpy with symbol := "QQQ" })))]

theorem registered_momentum : twoBots.bots.get? "momentum" = some (wiredBot "momentum") := by
  decide +kernel

/-- An hour after the first failure one is left. -/
theorem fleet_tells_one_failure :
    let bot := wiredBot "momentum"
    let next := tickAt 3600 (.ok none)
    let state := bot.prune next ((run (Fleet.step twoBots) {} fourTicks).stateOf "momentum")
    (bot.promptOf next state).recentDecisions = "  1. hold SPY x0: in range" ∧
      state.tickCounter = 3 ∧ (bot.beatOf state).errorsLastHour = 1 := by
  intro bot next state
  obtain ⟨prompt, counter, -, errors⟩ :=
    fleet_tells registered_momentum {} fourTicks (tickAt 3600 (.ok none))
  exact ⟨prompt.trans (by decide +kernel), counter.trans (by decide +kernel),
    (errors rfl (by decide +kernel)).trans (by decide +kernel)⟩

/-- The snapshot and the beat of a bot that the stores show are those of the last of its
ticks whose write was kept, whatever other bots write; the snapshot has the number of
the tick. -/
theorem fleet_shows {roster : Roster} {botId : BotId} {bot : StrategyBot}
    (registered : roster.bots.get? botId = some bot) (stores : BotStores)
    (earlier later : List (BotId × BotTick)) (tick : BotTick) :
    let before := bot.prune tick ((run (Fleet.step roster) { stores } earlier).stateOf botId)
    let after := (run (Fleet.step roster) { stores } (earlier ++ (botId, tick) :: later)).stores
    (bot.snapshots = true → tick.promptFate.keeps = true →
      (∀ lost ∈ ticksOf botId later, lost.promptFate.keeps = false) →
        PromptSnapshotStore.get after.prompts botId =
          some (bot.snapshotOf (some (bot.promptOf tick before))
            ((ticksOf botId earlier).length + 1) tick.renderedAt)) ∧
      (bot.beats = true → tick.beatFate.keeps = true →
        (∀ lost ∈ ticksOf botId later, lost.beatFate.keeps = false) →
          after.heartbeats.get? (HeartbeatStore.heartbeatPk bot.agentName) =
            some ⟨(bot.beatOf before).row tick.beatAt,
              tick.beatAt + HeartbeatStore.beatTtlSeconds⟩) := by
  intro before after
  have counted : ((run (Fleet.step roster) { stores } earlier).stateOf botId).tickCounter =
      (ticksOf botId earlier).length := by
    rw [Fleet.stateOf_run { stores } earlier registered]
    exact (bot.remembers_run _).counter
  have split : after = (run (Fleet.step roster)
      (Fleet.step roster (run (Fleet.step roster) { stores } earlier) (botId, tick)) later).stores := by
    rw [← run_cons, ← run_append]
  refine ⟨fun writes kept lost => ?_, fun writes kept lost => ?_⟩
  · rw [split, Fleet.row_run (fun fleet => PromptSnapshotStore.get fleet.stores.prompts botId) botId
      (fun tick => tick.promptFate.keeps) (fun fleet event others => ?_) _ lost,
      Fleet.prompt_step _ _ registered, if_pos ⟨⟨rfl, writes⟩, kept⟩, counted]
    rw [Fleet.prompt_step fleet event registered, if_neg fun all => others ⟨all.1.1, all.2⟩]
  · rw [split, Fleet.row_run (fun fleet => fleet.stores.heartbeats.get? _) botId
      (fun tick => tick.beatFate.keeps) (fun fleet event others => ?_) _ lost,
      Fleet.beat_step _ _ registered, if_pos ⟨⟨rfl, writes⟩, kept⟩]
    rw [Fleet.beat_step fleet event registered, if_neg fun all => others ⟨all.1.1, all.2⟩]

/-- The other bot's tick and a lost write come after the second tick. -/
theorem fleet_shows_second_tick :
    let lost := { tickAt 2400 (.error (.external "throttled")) with
      promptFate := .raises (.external "timeout") false }
    let after := (run (Fleet.step twoBots) {} ([("momentum", tickAt 0 (.ok (some holdSpy)))] ++
      ("momentum", tickAt 1800 (.ok (some holdSpy))) ::
        [("other", tickAt 2000 (.ok none)), ("momentum", lost)])).stores
    (PromptSnapshotStore.get after.prompts "momentum").map (fun shown =>
        (shown.tick, shown.userPrompt.map DecisionPrompt.recentDecisions)) =
      some (2, some "  1. hold SPY x0: in range") := by
  intro lost after
  have shown := (fleet_shows registered_momentum {} [("momentum", tickAt 0 (.ok (some holdSpy)))]
    [("other", tickAt 2000 (.ok none)), ("momentum", lost)]
    (tickAt 1800 (.ok (some holdSpy)))).1 rfl rfl (by decide +kernel)
  rw [shown]
  decide +kernel

/-- The file of a day of a bot's memory grows by the line of each decision of the bot on
that day whose append is kept, in order, and by nothing else. -/
theorem fleet_notes {roster : Roster}
    (plain : ∀ other bot, roster.bots.get? other = some bot → FreeOf '/' other)
    {botId : BotId} {bot : StrategyBot} (registered : roster.bots.get? botId = some bot)
    {store : AgentMemoryStore} (own : bot.memoryStore = some store) (stores : BotStores)
    (events : List (BotId × BotTick)) (now : Int) :
    textAt (run (Fleet.step roster) { stores } events).stores.memory
        (store.fileKey (.day now)) =
      grown (textAt stores.memory (store.fileKey (.day now)))
        ((ticksOf botId events).filterMap fun tick =>
          (bot.note? tick).bind (·.adds? store (.day now))) := by
  have isStore := roster.remembered _ _ _ registered own
  have storePlain : store.Plain := by
    rw [isStore]
    exact ⟨(by decide : FreeOf '/' "strategy"), plain _ _ registered⟩
  have notesPlain : ∀ note ∈ events.filterMap (Fleet.note? roster), note.Plain := by
    intro note member call appends
    obtain ⟨event, -, noted⟩ := List.mem_filterMap.mp member
    obtain ⟨isType, isId, other, found⟩ := Fleet.store_of_note? noted appends
    exact ⟨isType ▸ (by decide : FreeOf '/' "strategy"), isId ▸ plain _ _ found⟩
  rw [← AgentMemoryStore.foldl_appended, Fleet.memory_run,
    MemoryCompactor.textAt_run notesPlain storePlain, List.filterMap_filterMap]
  show run AgentMemoryStore.appended _ _ = run AgentMemoryStore.appended _ _
  unfold ticksOf
  rw [List.filterMap_map, List.filterMap_filter]
  congr 1
  refine List.filterMap_congr fun event _ => ?_
  by_cases same : event.1 = botId
  · rw [if_pos (by simpa using same)]
    unfold Fleet.note?
    rw [same, registered]
    rfl
  · rw [if_neg (by simpa using same)]
    cases noted : Fleet.note? roster event with
    | none => rfl
    | some note =>
        rw [Option.bind_some]
        unfold MemoryEvent.adds?
        cases appends : note.append? with
        | none => rfl
        | some call =>
            have isId := (Fleet.store_of_note? noted appends).2.1
            rw [Option.bind_some, MemoryCompactor.FileAppend.adds?, if_neg]
            rintro ⟨⟨rfl, -⟩, -⟩
            rw [isStore] at isId
            exact same isId.symm

/-- One decision of the four ticks is momentum's. -/
theorem fleet_notes_one_decision :
    textAt (run (Fleet.step twoBots) {} fourTicks).stores.memory
        ((⟨"acme", "strategy", "momentum"⟩ : AgentMemoryStore).fileKey (.day 0)) =
      "- 00:30:00Z HOLD SPY x0 @ ~? [MARKETDATA#SPY#1970010100] (equity $1000). in range\n" := by
  refine (fleet_notes ?_ registered_momentum rfl {} fourTicks 0).trans (by decide +kernel)
  intro other bot found
  rcases Dict.set_or_get?_of_get?_set found with ⟨rfl, -⟩ | before
  · decide
  · rcases Dict.set_or_get?_of_get?_set before with ⟨rfl, -⟩ | none
    · decide
    · cases none

end TradingStrands.Strategies
