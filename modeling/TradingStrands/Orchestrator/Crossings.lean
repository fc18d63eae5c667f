import TradingStrands.Orchestrator.TickLoop

/-!
Owns when cross predicates see the crossings they are about. A crossing is
judged between the context of the last completed tick, which is built without a
ledger, and the context of this one. `Remembers` says what that earlier context
is worth: its price fields are the last observations, as far as it has them, and
it has no others.

So a price is compared with its last observation unless a gap has dropped its
symbol from that context, and a ledger field is compared with nothing.
-/

namespace TradingStrands

open TradingStrands.Foundation
open TradingStrands.Tta

variable {β : Type}

namespace TickLoop

/-! ### What the saved context remembers -/

/-- What the saved context and the recorded turns have to do with the prices
fetched so far. -/
structure Remembers (loop : TickLoop β) : Prop where
  /-- A price field of the saved context is the last observation. -/
  price : ∀ before, loop.prevCtx = some before → ∀ symbol previous,
    before.get? (priceField symbol) = some previous → loop.observed symbol = some previous
  /-- Nothing was observed before a context was saved. -/
  unobserved : loop.prevCtx = none → ∀ symbol, loop.observed symbol = none
  /-- The last tick's turns saw the prices that the saved context holds. -/
  turns : ∀ turn ∈ loop.turns, ∃ prices ledger,
    loop.prevCtx = some (buildContext prices none) ∧
      turn.context = buildContext prices (some ledger)

theorem remembers_start (engine : Orchestrator β) : (start engine).Remembers where
  price := by
    intro before saved
    cases saved
  unobserved := by
    intro _ symbol
    rfl
  turns := by
    intro turn member
    cases member

/-- Every record of a tick is of a registered bot that had its turn. -/
theorem turnOf_of_mem_wake {loop : TickLoop β} {env : TickEnv β} {prices : Dict Symbol Decimal}
    {bots : List (BotId × BotRegistration)} {turn : Turn}
    (member : turn ∈ (loop.wake env prices bots).turns) :
    ∃ bot ∈ bots, ∃ ledger woken,
      turn = Waking.turnOf (loop.wakeEnv env prices) bot ledger woken := by
  unfold wake at member
  rcases Waking.turnOf_of_mem_run member with absent | ofBot
  · cases absent
  · exact ofBot

/-- A tick that closes remembers its own prices. -/
theorem remembers_closeTick (loop : TickLoop β) (env : TickEnv β) (engine : Orchestrator β)
    (prices : Dict Symbol Decimal) (bots : List (BotId × BotRegistration)) :
    (loop.closeTick engine prices (loop.wake env prices bots).turns).Remembers where
  price := by
    intro before saved symbol previous found
    rw [prevCtx_closeTick, Option.some.injEq] at saved
    rw [← saved, get?_buildContext_price] at found
    show (prices.get? symbol).or (loop.observed symbol) = some previous
    rw [found, Option.some_or]
  unobserved := by
    intro unsaved
    rw [prevCtx_closeTick] at unsaved
    cases unsaved
  turns := by
    intro turn member
    rw [turns_closeTick] at member
    obtain ⟨bot, -, ledger, woken, same⟩ := turnOf_of_mem_wake member
    refine ⟨prices, ledger, prevCtx_closeTick loop prices engine _, ?_⟩
    rw [same, Waking.context_turnOf]
    rfl

/-- As long as no exception has ended the loop, its memory is right. -/
theorem remembers_step {loop : TickLoop β}
    (remembers : loop.failed = none → loop.Remembers) (event : LoopEvent β) :
    (loop.step event).failed = none → (loop.step event).Remembers := by
  cases event with
  | registerBot botId registration =>
      intro running
      exact ⟨(remembers running).price, (remembers running).unobserved, (remembers running).turns⟩
  | unregisterBot botId =>
      intro running
      exact ⟨(remembers running).price, (remembers running).unobserved, (remembers running).turns⟩
  | meanwhile act =>
      intro running
      exact ⟨(remembers running).price, (remembers running).unobserved, (remembers running).turns⟩
  | tick env =>
      refine tick_cases (motive := fun after => after.failed = none → after.Remembers) loop env
        ?ended ?skipped ?faulted ?closed
      case ended =>
        intro _ running
        exact remembers running
      case skipped =>
        intro engine _ _ running
        have before := remembers running
        refine ⟨before.price, before.unobserved, ?_⟩
        intro turn member
        cases member
      case faulted =>
        intro prices error _ _ running
        cases running
      case closed =>
        intro prices _ _ _
        exact remembers_closeTick loop env _ prices _

/-- Two properties of a step that agree where the memory is right agree along
every run. -/
theorem eachStep_congr_of_remembers {First Second : TickLoop β → LoopEvent β → Prop}
    (same : ∀ loop event, (loop.failed = none → loop.Remembers) →
      (First loop event ↔ Second loop event))
    (engine : Orchestrator β) (events : List (LoopEvent β)) :
    EachStep step First (start engine) events ↔ EachStep step Second (start engine) events := by
  have keeps : ∀ (loop : TickLoop β) event, (loop.failed = none → loop.Remembers) → True →
      ((loop.step event).failed = none → (loop.step event).Remembers) :=
    fun loop event remembers _ => remembers_step remembers event
  exact eachStep_congr step keeps (fun loop event remembers _ => same loop event remembers)
    (fun _ => remembers_start engine) (eachStep_true step (start engine) events)

/-! ### Prices -/

/-- A registered bot's predicate is the crossing of `threshold` by the price of
`symbol`, which the tick fetches as `current`. -/
structure WatchesPrice (loop : TickLoop β) (prices : Dict Symbol Decimal) (pred : Json)
    (direction : Direction) (symbol : Symbol) (threshold current : Decimal) : Prop where
  registered : ∃ botId registration,
    loop.bots.get? botId = some registration ∧ registration.tta = some pred
  reads : ReadsAsCross pred direction (priceField symbol) threshold
  current : prices.get? symbol = some current

/-- The context of the last completed tick has no price of `symbol`. -/
def Lacks (loop : TickLoop β) (symbol : Symbol) : Prop :=
  ∃ before, loop.prevCtx = some before ∧ before.get? (priceField symbol) = none

/-- A price crossing evaluates to true exactly if the price has got beyond the
threshold since the symbol was last observed. -/
def SeesPriceCrossings (loop : TickLoop β) : LoopEvent β → Prop
  | .tick env =>
      ∀ prices pred direction symbol threshold current, loop.Fetches env prices →
        loop.WatchesPrice prices pred direction symbol threshold current → ∀ ledger,
          (evaluate (buildContext prices (some ledger)) loop.prevCtx pred = .ok true ↔
            ∃ previous, loop.observed symbol = some previous ∧
              direction.Crosses previous threshold current)
  | _ => True

/-- When the last completed tick went without the price of a watched symbol, the
price stays on its side of the threshold over the gap. -/
def GapsHideNoCrossing (loop : TickLoop β) : LoopEvent β → Prop
  | .tick env =>
      ∀ prices pred direction symbol threshold current, loop.Fetches env prices →
        loop.WatchesPrice prices pred direction symbol threshold current → loop.Lacks symbol →
          ∀ previous, loop.observed symbol = some previous →
            ¬ direction.Crosses previous threshold current
  | _ => True

/-- The evaluator compares the current price with the one in the saved context. -/
theorem evaluate_price_iff {loop : TickLoop β} {prices : Dict Symbol Decimal} {pred : Json}
    {direction : Direction} {symbol : Symbol} {threshold current : Decimal}
    (watches : loop.WatchesPrice prices pred direction symbol threshold current)
    (ledger : Ledger) :
    evaluate (buildContext prices (some ledger)) loop.prevCtx pred = .ok true ↔
      ∃ before previous, loop.prevCtx = some before ∧
        before.get? (priceField symbol) = some previous ∧
        direction.Crosses previous threshold current := by
  rw [watches.reads.evaluate_eq_true_iff, get?_buildContext_price, watches.current]
  constructor
  · rintro ⟨before, previous, now, saved, found, same, crosses⟩
    obtain rfl := Option.some.inj same
    exact ⟨before, previous, saved, found, crosses⟩
  · rintro ⟨before, previous, saved, found, crosses⟩
    exact ⟨before, previous, current, saved, found, rfl, crosses⟩

/-- Without a gap the evaluator sees exactly the crossing since the last
observation. -/
theorem evaluate_price_of_saved {loop : TickLoop β} (remembers : loop.Remembers)
    {prices : Dict Symbol Decimal} {pred : Json} {direction : Direction} {symbol : Symbol}
    {threshold current : Decimal}
    (watches : loop.WatchesPrice prices pred direction symbol threshold current)
    (saved : ¬ loop.Lacks symbol) (ledger : Ledger) :
    evaluate (buildContext prices (some ledger)) loop.prevCtx pred = .ok true ↔
      ∃ previous, loop.observed symbol = some previous ∧
        direction.Crosses previous threshold current := by
  rw [evaluate_price_iff watches]
  constructor
  · rintro ⟨before, previous, isSaved, found, crosses⟩
    exact ⟨previous, remembers.price before isSaved symbol previous found, crosses⟩
  · rintro ⟨previous, observed, crosses⟩
    cases isSaved : loop.prevCtx with
    | none =>
        rw [remembers.unobserved isSaved symbol] at observed
        cases observed
    | some before =>
        cases found : before.get? (priceField symbol) with
        | none => exact absurd ⟨before, isSaved, found⟩ saved
        | some stored =>
            have same := remembers.price before isSaved symbol stored found
            rw [observed, Option.some.injEq] at same
            exact ⟨before, previous, rfl, same ▸ found, crosses⟩

/-- After a gap no crossing is seen. -/
theorem not_evaluate_price_of_lacks {loop : TickLoop β} {prices : Dict Symbol Decimal}
    {pred : Json} {direction : Direction} {symbol : Symbol} {threshold current : Decimal}
    (watches : loop.WatchesPrice prices pred direction symbol threshold current)
    (lacks : loop.Lacks symbol) (ledger : Ledger) :
    evaluate (buildContext prices (some ledger)) loop.prevCtx pred ≠ .ok true := by
  obtain ⟨lacking, isSaved, missing⟩ := lacks
  rw [Ne, evaluate_price_iff watches]
  rintro ⟨before, previous, saved, found, -⟩
  rw [isSaved, Option.some.injEq] at saved
  rw [← saved, missing] at found
  cases found

theorem seesPriceCrossings_step {loop : TickLoop β}
    (remembers : loop.failed = none → loop.Remembers) (event : LoopEvent β) :
    loop.SeesPriceCrossings event ↔ loop.GapsHideNoCrossing event := by
  cases event with
  | registerBot botId registration => exact Iff.rfl
  | unregisterBot botId => exact Iff.rfl
  | meanwhile act => exact Iff.rfl
  | tick env =>
      constructor
      · intro sees prices pred direction symbol threshold current fetches watches lacks previous
          observed crosses
        have fires := (sees prices pred direction symbol threshold current fetches watches
          (Ledger.ofCapital 0)).mpr ⟨previous, observed, crosses⟩
        exact not_evaluate_price_of_lacks watches lacks (Ledger.ofCapital 0) fires
      · intro hidesNone prices pred direction symbol threshold current fetches watches ledger
        by_cases lacks : loop.Lacks symbol
        · refine iff_of_false (not_evaluate_price_of_lacks watches lacks ledger) ?_
          rintro ⟨previous, observed, crosses⟩
          exact hidesNone prices pred direction symbol threshold current fetches watches lacks
            previous observed crosses
        · exact evaluate_price_of_saved (remembers fetches.running) watches lacks ledger

/-- Over every run, price crossings are seen exactly as long as no gap hides
one. -/
theorem seesPriceCrossings_iff (engine : Orchestrator β) (events : List (LoopEvent β)) :
    EachStep step SeesPriceCrossings (start engine) events ↔
      EachStep step GapsHideNoCrossing (start engine) events :=
  eachStep_congr_of_remembers (fun _ event remembers => seesPriceCrossings_step remembers event)
    engine events

/-- A tick of quiet bots, with the given quote for one symbol and a constant
price for every other. -/
def quoting (symbol : Symbol) (quote : Except PyError Decimal) : TickEnv Unit :=
  { fetch := fun symbols =>
      .ok (MarketDataProvider.getPrices (fun other => if other = symbol then quote else .ok 300)
        symbols)
    bot := fun _ => { callback := fun _ _ => .ok none, call := CallEnv.steady 300 } }

/-- A bot that waits for the price to get above 160. -/
def breakout : BotRegistration :=
  { symbols := ["AAPL", "MSFT"]
    tta := some (Condition.cross .above (priceField "AAPL") 160).toJson }

/-- The price is 150 at first, and the next quote fails. -/
def gapLoop : TickLoop Unit :=
  run step (start { system := System.single "momentum" 10000 })
    [.registerBot "momentum" breakout, .tick (quoting "AAPL" (.ok 150)),
      .tick (quoting "AAPL" (.error (.external "timeout")))]

/-- When the quote is 165 afterwards, the predicate stays false. -/
theorem not_seesPriceCrossings_gap :
    ¬ EachStep step SeesPriceCrossings (start { system := System.single "momentum" 10000 })
        [.registerBot "momentum" breakout, .tick (quoting "AAPL" (.ok 150)),
          .tick (quoting "AAPL" (.error (.external "timeout"))),
          .tick (quoting "AAPL" (.ok 165))] := by
  rintro ⟨-, -, -, atGap, -⟩
  have sees : gapLoop.SeesPriceCrossings (.tick (quoting "AAPL" (.ok 165))) := atGap
  have bots : gapLoop.bots.entries = [("momentum", breakout)] := by
    simp only [gapLoop, run_cons, run_nil, step, bots_tick]
    rfl
  have registered : gapLoop.bots.get? "momentum" = some breakout :=
    Dict.get?_of_mem_entries (by simp [bots])
  have running : gapLoop.failed.isNone = true := by decide +kernel
  have watches : gapLoop.WatchesPrice (MarketDataProvider.getPrices
      (fun symbol => if symbol = "AAPL" then .ok 165 else .ok 300) gapLoop.symbols)
      (Condition.cross .above (priceField "AAPL") 160).toJson .above "AAPL" 160 165 :=
    ⟨⟨"momentum", _, registered, rfl⟩, ReadsAsCross.toJson .above (priceField "AAPL") 160,
      by decide +kernel⟩
  have crossed : Direction.above.Crosses 150 160 165 := by decide +kernel
  have fires := (sees _ _ .above "AAPL" 160 165
    ⟨Option.isNone_iff_eq_none.mp running, by simp [bots], rfl⟩ watches
    (Ledger.ofCapital 10000)).mpr ⟨150, by decide +kernel, crossed⟩
  have dropped : (gapLoop.prevCtx.map fun before => before.get? (priceField "AAPL")) =
      some none := by
    decide +kernel
  have lacks : gapLoop.Lacks "AAPL" := Option.map_eq_some_iff.mp dropped
  exact not_evaluate_price_of_lacks watches lacks (Ledger.ofCapital 10000) fires

/-! ### Fields of a bot's own contexts -/

/-- Between two turns of one bot, a field crosses the threshold of a cross
predicate that the bot's predicate contains. -/
structure OwnCrossing (earlier later : Turn) (pred : Json) (direction : Direction)
    (field : String) (threshold : Decimal) : Prop where
  sameBot : later.botId = earlier.botId
  contained : ∃ tta, later.tta = some tta ∧ Contains tta pred
  reads : ReadsAsCross pred direction field threshold
  crosses : ∃ previous current, earlier.context.get? field = some previous ∧
    later.context.get? field = some current ∧ direction.Crosses previous threshold current

/-- A field that crosses a threshold in a bot's own contexts from one completed
tick to the next makes the cross predicate on it true. -/
def SeesOwnCrossings (loop : TickLoop β) : LoopEvent β → Prop
  | .tick env =>
      ∀ prices, loop.Fetches env prices → loop.Completes env prices →
        ∀ earlier ∈ loop.turns, ∀ later ∈ (loop.tick env).turns,
          ∀ pred direction field threshold,
            OwnCrossing earlier later pred direction field threshold →
              evaluate later.context loop.prevCtx pred = .ok true
  | _ => True

/-- No ledger field crosses the threshold of a cross predicate on it from one
completed tick to the next. -/
def LedgersCrossNothing (loop : TickLoop β) : LoopEvent β → Prop
  | .tick env =>
      ∀ prices, loop.Fetches env prices → loop.Completes env prices →
        ∀ earlier ∈ loop.turns, ∀ later ∈ (loop.tick env).turns,
          ∀ pred direction field threshold,
            OwnCrossing earlier later pred direction field threshold → ¬ IsLedgerField field
  | _ => True

/-- The record of a completed tick is of a registered bot, in a context of the
tick's prices and some ledger. -/
theorem registered_of_mem_turns {loop : TickLoop β} {env : TickEnv β}
    {prices : Dict Symbol Decimal} (fetches : loop.Fetches env prices)
    (completes : loop.Completes env prices) {turn : Turn} (member : turn ∈ (loop.tick env).turns) :
    ∃ bot ∈ loop.bots.entries, turn.botId = bot.1 ∧ turn.tta = bot.2.tta ∧
      ∃ ledger, turn.context = buildContext prices (some ledger) := by
  rw [tick_of_completes fetches completes, turns_closeTick] at member
  obtain ⟨bot, registered, ledger, woken, same⟩ := turnOf_of_mem_wake member
  exact ⟨bot, registered, by rw [same]; rfl, by rw [same]; rfl, ledger,
    by rw [same, Waking.context_turnOf]; rfl⟩

/-- A ledger field has no value in the saved context, so nothing crosses there. -/
theorem not_evaluate_ledgerField {loop : TickLoop β} {prices : Dict Symbol Decimal} {pred : Json}
    {direction : Direction} {field : String} {threshold : Decimal}
    (saved : loop.prevCtx = some (buildContext prices none))
    (reads : ReadsAsCross pred direction field threshold) (ledgerField : IsLedgerField field)
    (ctx : Context) : evaluate ctx loop.prevCtx pred ≠ .ok true := by
  rw [Ne, reads.evaluate_eq_true_iff]
  rintro ⟨before, previous, current, isSaved, found, -, -⟩
  rw [saved, Option.some.injEq] at isSaved
  rw [← isSaved, get?_buildContext_none ledgerField] at found
  cases found

theorem seesOwnCrossings_step {loop : TickLoop β}
    (remembers : loop.failed = none → loop.Remembers) (event : LoopEvent β) :
    loop.SeesOwnCrossings event ↔ loop.LedgersCrossNothing event := by
  cases event with
  | registerBot botId registration => exact Iff.rfl
  | unregisterBot botId => exact Iff.rfl
  | meanwhile act => exact Iff.rfl
  | tick env =>
      constructor
      · intro sees prices fetches completes earlier earlierMember later laterMember pred direction
          field threshold crossing ledgerField
        obtain ⟨before, ledger, saved, -⟩ := (remembers fetches.running).turns earlier earlierMember
        have fires := sees prices fetches completes earlier earlierMember later laterMember pred
          direction field threshold crossing
        exact not_evaluate_ledgerField saved crossing.reads ledgerField later.context fires
      · intro ledgersQuiet prices fetches completes earlier earlierMember later laterMember pred
          direction field threshold crossing
        have quiet := ledgersQuiet prices fetches completes earlier earlierMember later laterMember
          pred direction field threshold crossing
        obtain ⟨before, ledgerBefore, saved, contextBefore⟩ :=
          (remembers fetches.running).turns earlier earlierMember
        obtain ⟨bot, -, -, -, ledger, context⟩ :=
          registered_of_mem_turns fetches completes laterMember
        obtain ⟨previous, current, previousAt, currentAt, crosses⟩ := crossing.crosses
        rw [crossing.reads.evaluate_eq_true_iff]
        refine ⟨buildContext before none, previous, current, saved, ?_, currentAt, crosses⟩
        rw [context] at currentAt
        rcases isLedgerField_or_price currentAt with ledgerField | ⟨symbol, rfl⟩
        · exact absurd ledgerField quiet
        · rw [contextBefore, get?_buildContext_price] at previousAt
          rw [get?_buildContext_price, previousAt]

/-- Over every run, the crossings of a bot's own fields are seen exactly as long
as no ledger field crosses a threshold. -/
theorem seesOwnCrossings_iff (engine : Orchestrator β) (events : List (LoopEvent β)) :
    EachStep step SeesOwnCrossings (start engine) events ↔
      EachStep step LedgersCrossNothing (start engine) events :=
  eachStep_congr_of_remembers (fun _ event remembers => seesOwnCrossings_step remembers event)
    engine events

/-- Woken when its equity gets above 1050 or the price is at 110 or more. -/
def takeProfit : Json :=
  (Condition.any [.cross .above "ledger.equity" 1050,
    .compare (priceField "AAPL") .gte 110]).toJson

/-- A tick at one price in which a woken bot sells its ten shares. -/
def selling (price : Decimal) : TickEnv Unit :=
  { fetch := fun symbols => .ok (MarketDataProvider.getPrices (fun _ => .ok price) symbols)
    bot := fun botId =>
      { callback := fun _ _ =>
          .ok (some { botId, orgId := "acme", symbol := "AAPL", action := .sell, quantity := 10 })
        call := CallEnv.steady price } }

/-- The ledger of the bot holds ten shares bought at 100. -/
def holding : Orchestrator Unit :=
  { system :=
      (System.single "turtle" 1000).setLedger "turtle"
        ((Ledger.ofCapital 1000).recordFill
          { symbol := "AAPL", side := .buy, quantity := 10, price := 100 }).1 }

/-- The bot is woken at 110 and sells. -/
def soldLoop : TickLoop Unit :=
  run step (start holding)
    [.registerBot "turtle" { symbols := ["AAPL"], tta := some takeProfit }, .tick (selling 110)]

/-- In the next tick its equity is 1100, up from 1000, and the cross predicate on
it is false. -/
theorem not_seesOwnCrossings_sold :
    ¬ EachStep step SeesOwnCrossings (start holding)
        [.registerBot "turtle" { symbols := ["AAPL"], tta := some takeProfit },
          .tick (selling 110), .tick (selling 100)] := by
  rintro ⟨-, -, afterSale, -⟩
  have sees : soldLoop.SeesOwnCrossings (.tick (selling 100)) := afterSale
  have bots : soldLoop.bots.entries =
      [("turtle", { symbols := ["AAPL"], tta := some takeProfit })] := by
    simp only [soldLoop, run_cons, run_nil, step, bots_tick]
    rfl
  have running : soldLoop.failed.isNone = true := by decide +kernel
  have goesOn : (soldLoop.tick (selling 100)).failed.isNone = true := by decide +kernel
  have fetches : soldLoop.Fetches (selling 100) (MarketDataProvider.getPrices (fun _ => .ok 100)
      soldLoop.symbols) := ⟨Option.isNone_iff_eq_none.mp running, by simp [bots], rfl⟩
  have completes := (completes_iff fetches).mpr (Option.isNone_iff_eq_none.mp goesOn)
  have equity : soldLoop.turns.map (fun turn => (turn.botId, turn.context.get? "ledger.equity")) =
      [("turtle", some 1000)] := by decide +kernel
  have equityAfter : (soldLoop.tick (selling 100)).turns.map
      (fun turn => (turn.botId, turn.context.get? "ledger.equity")) = [("turtle", some 1100)] := by
    decide +kernel
  obtain ⟨earlier, turns, atSale⟩ := List.map_eq_singleton_iff.mp equity
  obtain ⟨later, turnsAfter, atNext⟩ := List.map_eq_singleton_iff.mp equityAfter
  have laterMember : later ∈ (soldLoop.tick (selling 100)).turns := by simp [turnsAfter]
  obtain ⟨bot, botMember, -, tta, -⟩ := registered_of_mem_turns fetches completes laterMember
  rw [bots, List.mem_singleton] at botMember
  rw [botMember] at tta
  obtain ⟨sameBot, before⟩ := Prod.mk.inj atSale
  obtain ⟨sameBotNext, after⟩ := Prod.mk.inj atNext
  have crossing : OwnCrossing earlier later (Condition.cross .above "ledger.equity" 1050).toJson
      .above "ledger.equity" 1050 :=
    { sameBot := sameBotNext.trans sameBot.symm
      contained := ⟨takeProfit, tta, .operand (Or.inr rfl) rfl List.mem_cons_self (.self _)⟩
      reads := ReadsAsCross.toJson .above "ledger.equity" 1050
      crosses := ⟨1000, 1100, before, after, by decide +kernel⟩ }
  have fires :=
    sees _ fetches completes earlier (by simp [turns]) later laterMember _ _ _ _ crossing
  obtain ⟨saved, previous, -, isSaved, found, -⟩ :=
    (crossing.reads.evaluate_eq_true_iff _ _).mp fires
  have unsaved : (soldLoop.prevCtx.bind fun saved => saved.get? "ledger.equity") = none := by
    decide +kernel
  rw [isSaved, Option.bind_some, found] at unsaved
  cases unsaved

end TickLoop

end TradingStrands
