import TradingStrands.Desk.Liquidation
import TradingStrands.Ledger.Atomicity
import TradingStrands.Ledger.Cash

/-!
Proves what the ledgers hold after any interleaving of trades and kill-switch calls.
A ledger is what recording the fills makes of it that the brokers reported to the
calls of its bot, in the order of the answers; each of them is recorded once, and in
no other ledger. So the laws of the single ledger hold of every bot throughout.
-/

namespace TradingStrands

open TradingStrands.Foundation

/-! ### Cash over fills of which some are rejected -/

namespace Ledger

/-- Whatever is rejected on the way, profit less cost basis moves by the cash of the
fills that are accepted. -/
theorem Sound.profit_less_cost_accepted {ledger : Ledger} (sound : ledger.Sound)
    {fills : List Fill} (positive : ∀ fill ∈ fills, 0 < fill.quantity) :
    (ledger.recordFills fills).realizedPnl - (ledger.recordFills fills).costBasis =
      ledger.realizedPnl - ledger.costBasis + netCash (ledger.acceptedFills fills) := by
  induction fills generalizing ledger with
  | nil => simp [Ledger.recordFills, acceptedFills, netCash, burdenedSum]
  | cons fill rest inductionHypothesis =>
      have here := positive fill List.mem_cons_self
      have later := inductionHypothesis (sound.recordNext here) fun other member =>
        positive other (List.mem_cons_of_mem fill member)
      unfold Ledger.recordFills at later ⊢
      rw [run_cons, later]
      rw [acceptedFills]
      by_cases returned : (ledger.recordFill fill).2 = .ok ()
      · rw [if_pos returned, sound.profit_less_cost_recordNext here returned,
          netCash_cons fill (acceptedFills _ rest)]
        ring
      · have unmoved : ledger.recordNext fill = ledger.appendHistory fill :=
          recordFill_of_raised returned
        have profit : (ledger.recordNext fill).realizedPnl = ledger.realizedPnl := by
          rw [unmoved, Ledger.appendHistory]
        have cost : (ledger.recordNext fill).costBasis = ledger.costBasis := by
          rw [unmoved, costBasis, costBasis, Ledger.appendHistory]
        rw [if_neg returned, profit, cost]

/-- What a ledger holds once the fills are put to it: all of them in its history, and in
its book and its profit those that it could take. -/
structure Accounts (before : Ledger) (fills : List Fill) (after : Ledger) : Prop where
  history : after.orderHistory = before.orderHistory ++ fills
  sound : after.Sound
  held : ∀ symbol, after.heldQuantity symbol = before.heldQuantity symbol +
    (filledQuantity .buy (before.acceptedFills fills) symbol -
      filledQuantity .sell (before.acceptedFills fills) symbol)
  cash : after.realizedPnl - after.costBasis =
    before.realizedPnl - before.costBasis + netCash (before.acceptedFills fills)

theorem Sound.accounts {ledger : Ledger} (sound : ledger.Sound) {fills : List Fill}
    (positive : ∀ fill ∈ fills, 0 < fill.quantity) :
    ledger.Accounts fills (ledger.recordFills fills) where
  history := orderHistory_recordFills ledger fills
  sound := sound.recordFills positive
  held symbol := by
    rw [(sound.recordFills positive).heldQuantity_eq, sound.heldQuantity_eq,
      sound.netQuantity_recordFills positive, balance_fills]
  cash := sound.profit_less_cost_accepted positive

end Ledger

variable {β : Type}

/-! ### The fill of an answer -/

/-- The positive fill that a broker's answer reports, and its bot. -/
def fillReported (botId : BotId) (fill : OrderResult → Fill) :
    Except PyError OrderResult → Option (BotId × Fill)
  | .error _ => none
  | .ok result => if 0 < result.filledQuantity then some (botId, fill result) else none

/-- A ledger after a reported fill: recorded if it is the bot's own. -/
def Ledger.recordReported (ledger : Ledger) (botId : BotId) : Option (BotId × Fill) → Ledger
  | none => ledger
  | some (other, fill) => if botId = other then ledger.recordNext fill else ledger

/-- A system whose ledgers are the earlier ones, with the fill recorded. -/
def System.Recorded (before after : System β) (reported : Option (BotId × Fill)) : Prop :=
  ∀ botId, after.ledger? botId =
    (before.ledger? botId).map fun ledger => ledger.recordReported botId reported

namespace System.Recorded

theorem of_same {before after : System β}
    (same : after.coordinator.ledgers = before.coordinator.ledgers) :
    Recorded before after none := by
  intro botId
  unfold System.ledger?
  rw [same]
  simp [Ledger.recordReported]

/-- The fill of a bot without a ledger is recorded nowhere. -/
theorem of_unregistered {system : System β} {botId : BotId} {fill : Fill}
    (unregistered : system.ledger? botId = none) : Recorded system system (some (botId, fill)) := by
  intro other
  by_cases own : other = botId
  · rw [own, unregistered, Option.map_none]
  · simp [Ledger.recordReported, own]

theorem of_set {before after : System β} {botId : BotId} {ledger : Ledger} {fill : Fill}
    (registered : before.ledger? botId = some ledger)
    (set : ∀ other, after.ledger? other =
      if other = botId then some (ledger.recordFill fill).1 else before.ledger? other) :
    Recorded before after (some (botId, fill)) := by
  intro other
  rw [set]
  by_cases own : other = botId
  · simp [Ledger.recordReported, own, registered, Ledger.recordNext]
  · simp [Ledger.recordReported, own]

/-- The answer to a trade is recorded once, in the ledger of its bot. -/
theorem executeAnswered (system : System β) (intent : TradeIntent) (decision : RiskDecision)
    (answer : Except PyError OrderResult) (write : LedgerStore.WriteEnv) :
    Recorded system (executeAnswered system intent decision answer write).1
      (fillReported intent.botId (fillOf intent) answer) := by
  unfold TradingStrands.executeAnswered recordFill fillReported
  cases answer with
  | error error => exact of_same rfl
  | ok result =>
      by_cases nothing : result.filledQuantity ≤ 0
      · simp only [if_pos nothing, if_neg (not_lt.mpr nothing)]
        exact of_same rfl
      · simp only [if_neg nothing, if_pos (not_le.mp nothing)]
        cases found : system.ledger? intent.botId with
        | none => exact of_unregistered found
        | some ledger =>
            exact of_set found fun other => ledger?_bookFill system _ other ledger _ write

/-- So is the answer to a liquidation order. -/
theorem recordLiquidation (system : System β) (sale : Selling) (result : OrderResult) :
    Recorded system (recordLiquidation system sale result).1
      (fillReported sale.botId sale.fill (.ok result)) := by
  unfold fillReported
  rcases recordLiquidation_cases system sale result with
    ⟨same, unregistered⟩ | ⟨ledger, positive, registered, same⟩
  · rw [same]
    by_cases positive : 0 < result.filledQuantity
    · simp only [if_pos positive]
      exact of_unregistered (unregistered positive)
    · simp only [if_neg positive]
      exact of_same rfl
  · rw [same]
    simp only [if_pos positive]
    exact of_set registered fun other => system.ledger?_setLedger _ other _

end System.Recorded

namespace Desk

/-! ### The fills that brokers report -/

/-- The fill that is reported to the call that an event answers. -/
def reported (desk : Desk β) : DeskEvent β → Option (BotId × Fill)
  | .answered id =>
      match desk.tasks.get? id with
      | some (.submitting call broker order _) =>
          fillReported call.intent.botId (fillOf call.intent) (call.env.submit broker order)
      | _ => none
  | .liquidated id answer =>
      match desk.tasks.get? id with
      | some (.selling _ sale _) => fillReported sale.botId sale.fill answer
      | _ => none
  | _ => none

/-- All fills that are reported, in the order of the answers. -/
def reportedFills : Desk β → List (DeskEvent β) → List (BotId × Fill) :=
  outputs step fun desk event => (desk.reported event).toList

theorem ledgers_proceed (desk : Desk β) (id : Nat) (call : KillCall) (watch : Watch)
    (next : Option Selling) :
    (desk.proceed id call watch next).system.coordinator.ledgers =
      desk.system.coordinator.ledgers := by
  rcases desk.proceed_cases id call watch next with
    ⟨-, same⟩ | ⟨error, same⟩ | ⟨sale, -, same⟩ <;> rw [same] <;> rfl

/-- A step records the fill that it reports. -/
theorem recorded_step (desk : Desk β) (event : DeskEvent β) :
    desk.system.Recorded (desk.step event).system (desk.reported event) := by
  cases event with
  | execute id call =>
      rcases desk.step_execute id call with same | ⟨cache, begun, same, -⟩ <;>
        rw [same] <;> exact .of_same rfl
  | quoted id =>
      rcases desk.step_quoted id with same | ⟨outcome, same⟩ | ⟨_, _, _, _, _, -, same, -⟩ <;>
        rw [same] <;> exact .of_same rfl
  | answered id =>
      simp only [reported, step]
      rcases desk.tasks.get? id with - | (- | ⟨call, broker, order, decision⟩ | - | - | - | -)
      case some.submitting => exact .executeAnswered desk.system call.intent decision _ _
      all_goals exact .of_same rfl
  | kill id call =>
      rcases desk.step_kill id call with same | ⟨-, same⟩ | same
      · rw [same]
        exact .of_same rfl
      · rw [same]
        exact .of_same rfl
      · rw [same]
        exact .of_same (desk.ledgers_proceed id call _ _)
  | liquidated id answer =>
      simp only [reported, step]
      rcases desk.tasks.get? id with - | (- | - | - | ⟨call, sale, watch⟩ | - | -)
      case some.selling =>
        cases answer with
        | error error => exact .of_same rfl
        | ok result =>
            have booked := System.Recorded.recordLiquidation desk.system sale result
            dsimp only
            rcases (recordLiquidation desk.system sale result).2 with error | ⟨⟩
            · exact booked
            · intro botId
              rw [← booked botId]
              unfold System.ledger?
              dsimp only
              rw [ledgers_proceed]
              rfl
      all_goals exact .of_same rfl

/-! ### Whole runs -/

/-- The fills of a bot among those reported. -/
def fillsFor (botId : BotId) (fills : List (BotId × Fill)) : List Fill :=
  (fills.filter fun entry => botId = entry.1).map Prod.snd

theorem recordFills_recordReported (ledger : Ledger) (botId : BotId)
    (reported : Option (BotId × Fill)) (later : List (BotId × Fill)) :
    (ledger.recordReported botId reported).recordFills (fillsFor botId later) =
      ledger.recordFills (fillsFor botId (reported.toList ++ later)) := by
  unfold Ledger.recordReported fillsFor
  cases reported with
  | none => rfl
  | some entry =>
      by_cases own : botId = entry.1
      · simp [own, Ledger.recordFills]
      · simp [own]

/-- A ledger is what the fills reported for its bot have made of it. -/
theorem ledger?_run (desk : Desk β) (events : List (DeskEvent β)) (botId : BotId) :
    (run step desk events).system.ledger? botId =
      (desk.system.ledger? botId).map fun ledger =>
        ledger.recordFills (fillsFor botId (desk.reportedFills events)) := by
  induction events generalizing desk with
  | nil => exact (congrFun Option.map_id _).symm
  | cons event rest inductionHypothesis =>
      rw [run_cons, inductionHypothesis, desk.recorded_step event botId, Option.map_map]
      congr 1
      funext ledger
      exact recordFills_recordReported ledger botId _ _

theorem positive_of_fillReported {botId : BotId} {fill : OrderResult → Fill}
    {answer : Except PyError OrderResult} {entry : BotId × Fill}
    (quantity : ∀ result, (fill result).quantity = result.filledQuantity)
    (reported : fillReported botId fill answer = some entry) : 0 < entry.2.quantity := by
  unfold fillReported at reported
  cases answer with
  | error error => exact absurd reported (by simp)
  | ok result =>
      by_cases positive : 0 < result.filledQuantity
      · simp only [if_pos positive, Option.some.injEq] at reported
        rw [← reported, quantity]
        exact positive
      · exact absurd reported (by simp [positive])

theorem positive_of_reported {desk : Desk β} {event : DeskEvent β} {entry : BotId × Fill}
    (found : desk.reported event = some entry) : 0 < entry.2.quantity := by
  unfold reported at found
  split at found
  · split at found
    · exact positive_of_fillReported (fun _ => rfl) found
    · exact absurd found (by simp)
  · split at found
    · exact positive_of_fillReported (fun _ => rfl) found
    · exact absurd found (by simp)
  · exact absurd found (by simp)

theorem positive_of_reportedFills {desk : Desk β} {events : List (DeskEvent β)}
    {entry : BotId × Fill} (member : entry ∈ desk.reportedFills events) :
    0 < entry.2.quantity :=
  forall_mem_outputs step (P := fun entry => 0 < entry.2.quantity)
    (fun _ _ _ here => positive_of_reported (Option.mem_toList.mp here)) desk events entry member

theorem positive_of_fillsFor {desk : Desk β} {events : List (DeskEvent β)} {botId : BotId} :
    ∀ fill ∈ fillsFor botId (desk.reportedFills events), 0 < fill.quantity := by
  intro fill member
  obtain ⟨entry, filed, rfl⟩ := List.mem_map.mp member
  exact positive_of_reportedFills (List.mem_of_mem_filter filed)

/-- From any sound books and whatever calls are under way, in every interleaving of
trades and kill-switch calls, partial fills, refused orders and failed writes included:
no bot gains or loses a ledger, and each ledger accounts for exactly the fills that
brokers reported to the calls of its bot, whatever happens to the others. -/
theorem books_run {start : Desk β} (sound : start.system.Sound) (events : List (DeskEvent β))
    (botId : BotId) :
    Option.Rel
      (fun before after => before.Accounts (fillsFor botId (start.reportedFills events)) after)
      (start.system.ledger? botId) ((run step start events).system.ledger? botId) := by
  rw [ledger?_run]
  cases found : start.system.ledger? botId with
  | none => exact .none
  | some before => exact .some ((sound botId before found).accounts positive_of_fillsFor)

/-- A bot buys while its liquidation waits for the answer. -/
theorem books_run_one_share :
    let events : List (DeskEvent Unit) :=
      [.execute 0 buyOther, .kill 1 liquidation, .quoted 0, .answered 0,
        .liquidated 1 (.ok filledOne)]
    fillsFor "bot" (oneShare.reportedFills events) =
        [⟨"MSFT", .buy, 1, 100, {}⟩, ⟨"AAPL", .sell, 1, 100, {}⟩] ∧
      Option.Rel
        (fun before after => before.Accounts (fillsFor "bot" (oneShare.reportedFills events)) after)
        (oneShare.system.ledger? "bot") ((run step oneShare events).system.ledger? "bot") :=
  ⟨by decide +kernel, books_run sound_oneShare _ "bot"⟩

end Desk

end TradingStrands
