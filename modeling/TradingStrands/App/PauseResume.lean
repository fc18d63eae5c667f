import TradingStrands.App.Strategies
import TradingStrands.Foundation.Runs
import Mathlib.Data.List.Perm.Subperm

/-!
Owns the interleaving of trades with the strategy poll. A trade takes hold of
its bot's ledger object before its first wait and records the fill into that
object after its last; meanwhile the poll may take the object out of the
coordinator and put another one, restored from the snapshot, in its place. The
state keeps, beside the system, the objects that were taken out (`orphans`) and
for each trade which object it holds.

A fill survives exactly as long as a trade that holds an orphan records while
its bot has no ledger and no other fill has reached the store meanwhile, and
every restored snapshot is complete.
-/

namespace TradingStrands

open TradingStrands.Foundation LedgerStore

variable {β : Type}

/-- The ledger object a trade under way holds. -/
inductive Handle
  /-- The one in the coordinator. -/
  | live
  /-- One that was taken out of the coordinator. -/
  | orphan (index : Nat)
deriving DecidableEq

/-- Where a trade stands. -/
inductive Trade (β : Type)
  | quoting (call : Call β) (broker : β) (symbols : List Symbol) (handle : Handle)
  | submitting (call : Call β) (broker : β) (order : OrderRequest) (decision : RiskDecision)
      (handle : Handle)
  | finished (outcome : Except PyError ExecutionResult)

/-- Where a trade stands after its first part. -/
def Begun.trade (call : Call β) : Begun β → Trade β
  | .raised error => .finished (.error error)
  | .returned result => .finished (.ok result)
  | .quoting broker symbols => .quoting call broker symbols .live

/-- Where it stands after the prices. -/
def Priced.trade (call : Call β) (broker : β) (handle : Handle) : Priced → Trade β
  | .raised error => .finished (.error error)
  | .rejected result => .finished (.ok result)
  | .submitting order decision => .submitting call broker order decision handle

/-- The object a trade of the bot holds has been taken out of the coordinator. -/
def Trade.detach (botId : BotId) (index : Nat) : Trade β → Trade β
  | .quoting call broker symbols .live =>
      .quoting call broker symbols (if call.intent.botId = botId then .orphan index else .live)
  | .submitting call broker order decision .live =>
      .submitting call broker order decision
        (if call.intent.botId = botId then .orphan index else .live)
  | trade => trade

/-- The bot and the handle of a trade under way. -/
def Trade.holding : Trade β → Option (BotId × Handle)
  | .quoting call _ _ handle => some (call.intent.botId, handle)
  | .submitting call _ _ _ handle => some (call.intent.botId, handle)
  | .finished _ => none

structure Roster (β : Type) where
  system : System β
  bots : Finset BotId := ∅
  trades : Dict Nat (Trade β) := Dict.empty
  orphans : List (BotId × Ledger) := []
  /-- Every fill a broker has returned for a bot, those of its first snapshot included. -/
  returned : BotId → List Fill
  /-- The fills that had been returned when the bot's snapshot was last saved. -/
  persisted : BotId → List Fill

inductive RosterEvent (β : Type)
  /-- A trade begins. -/
  | execute (id : Nat) (call : Call β)
  /-- Its quotes are in. -/
  | quoted (id : Nat)
  /-- The broker has answered its order. -/
  | answered (id : Nat)
  /-- The poll unloads a strategy that is no longer active. -/
  | unload (botId : BotId)
  /-- The poll registers a strategy; that can raise after the ledger is in place. -/
  | load (botId : BotId) (capital : Decimal) (completes : Bool)

/-- The history a stored snapshot carries. -/
def storedHistory (table : Table) (botId : BotId) : List Fill :=
  match loadSnapshot table botId with
  | .ok (some ledger) => ledger.orderHistory
  | _ => []

namespace Roster

def setTrade (roster : Roster β) (id : Nat) (trade : Trade β) : Roster β :=
  { roster with trades := roster.trades.set id trade }

/-- The object behind a handle. -/
def ledgerAt (roster : Roster β) (botId : BotId) : Handle → Option Ledger
  | .live => roster.system.ledger? botId
  | .orphan index => roster.orphans[index]?.map Prod.snd

/-- The object behind a handle has changed. -/
def setLedgerAt (roster : Roster β) (botId : BotId) (ledger : Ledger) : Handle → Roster β
  | .live => { roster with system := roster.system.setLedger botId ledger }
  | .orphan index => { roster with orphans := roster.orphans.set index (botId, ledger) }

def setTable (roster : Roster β) (table : Table) : Roster β :=
  { roster with system := { roster.system with table } }

/-- Record a fill into the object a trade holds, and persist that object. -/
def recordAt (roster : Roster β) (botId : BotId) (handle : Handle) (ledger : Ledger) (fill : Fill)
    (write : WriteEnv) : Roster β × Except PyError Unit :=
  match roster.system.coordinator.ledgerStore with
  | none => (roster.setLedgerAt botId (ledger.recordFill fill).1 handle, (ledger.recordFill fill).2)
  | some store =>
      let recorded := store.recordAndPersist roster.system.table botId ledger fill write
      ((roster.setLedgerAt botId recorded.1 handle).setTable recorded.2.1, recorded.2.2)

/-- Recording the fill saves a snapshot. -/
def Saves (roster : Roster β) (ledger : Ledger) (fill : Fill) (write : WriteEnv) : Prop :=
  roster.system.coordinator.ledgerStore.isSome = true ∧ (ledger.recordFill fill).2 = .ok () ∧
    write.saveFails = none

instance (roster : Roster β) (ledger : Ledger) (fill : Fill) (write : WriteEnv) :
    Decidable (roster.Saves ledger fill write) := by
  unfold Saves
  infer_instance

/-- Note the returned fill, and that it is persisted if it is. -/
def note (roster : Roster β) (botId : BotId) (fill : Fill) (saved : Bool) : Roster β :=
  let returned := Function.update roster.returned botId (roster.returned botId ++ [fill])
  { roster with
    returned
    persisted :=
      if saved = true then Function.update roster.persisted botId (returned botId)
      else roster.persisted }

/-- The ledger object of a bot is taken out of the coordinator. -/
def orphan (roster : Roster β) (botId : BotId) : Roster β :=
  match roster.system.ledger? botId with
  | none => roster
  | some ledger =>
      { roster with
        orphans := roster.orphans ++ [(botId, ledger)]
        trades := roster.trades.mapValues (Trade.detach botId roster.orphans.length) }

def step (roster : Roster β) : RosterEvent β → Roster β
  | .execute id call =>
      match roster.trades.get? id with
      | some _ => roster
      | none =>
          let begun := executeBegin roster.system call.intent call.env.reads call.env.factory
          { roster with system := begun.1 }.setTrade id (begun.2.trade call)
  | .quoted id =>
      match roster.trades.get? id with
      | some (.quoting call broker symbols handle) =>
          match roster.ledgerAt call.intent.botId handle with
          | none => roster
          | some ledger =>
              roster.setTrade id
                ((executePriced roster.system.coordinator.riskManager call.intent ledger
                  (getMarketPrices (call.env.quote broker) symbols)).trade call broker handle)
      | _ => roster
  | .answered id =>
      match roster.trades.get? id with
      | some (.submitting call broker order decision handle) =>
          match call.env.submit broker order with
          | .error error => roster.setTrade id (.finished (.error error))
          | .ok result =>
              let returned : ExecutionResult :=
                { intent := call.intent, riskDecision := some decision, orderResult := some result }
              if result.filledQuantity ≤ 0 then roster.setTrade id (.finished (.ok returned))
              else
                match roster.ledgerAt call.intent.botId handle with
                | none => roster
                | some ledger =>
                    let fill := fillOf call.intent result
                    let recorded :=
                      roster.recordAt call.intent.botId handle ledger fill call.env.write
                    (recorded.1.note call.intent.botId fill
                        (decide (roster.Saves ledger fill call.env.write))).setTrade id
                      (.finished (recorded.2.map fun _ => returned))
      | _ => roster
  | .unload botId =>
      if botId ∈ roster.bots then
        { roster.orphan botId with
          system := roster.system.unload botId, bots := roster.bots.erase botId }
      else roster
  | .load botId capital completes =>
      if botId ∈ roster.bots then roster
      else
        match roster.system.restoredLedger botId capital with
        | .error _ => roster
        | .ok ledger =>
            { roster.orphan botId with
              system := roster.system.setLedger botId ledger
              bots := if completes = true then insert botId roster.bots else roster.bots }

/-- A process that starts: no strategy is loaded, and what the stored snapshots
hold is what was returned before. -/
def boot (coordinator : TradeCoordinator β) (table : Table) : Roster β :=
  { system := { coordinator := { coordinator with ledgers := Dict.empty }, table }
    returned := storedHistory table
    persisted := storedHistory table }

/-- Every fill a broker returned is in the ledger its bot has, and the stored
snapshot holds every fill returned before it was saved. -/
structure Survives (roster : Roster β) : Prop where
  live : ∀ botId ledger, roster.system.ledger? botId = some ledger →
    (roster.returned botId).Subperm ledger.orderHistory
  stored : ∀ botId,
    (roster.persisted botId).Subperm (storedHistory roster.system.table botId)

/-- An answer that is recorded: the order it answers, the object the trade
holds and the ledger in it. -/
structure Records (roster : Roster β) (id : Nat) (call : Call β) (broker : β)
    (order : OrderRequest) (handle : Handle) (result : OrderResult) (ledger : Ledger) : Prop where
  submitting : ∃ decision,
    roster.trades.get? id = some (.submitting call broker order decision handle)
  answered : call.env.submit broker order = .ok result
  positive : 0 < result.filledQuantity
  holds : roster.ledgerAt call.intent.botId handle = some ledger

/-- The step loses no fill: one is recorded into an orphan only while its bot
has no ledger and, if that saves the orphan, the orphan holds every fill
returned so far; and a restored ledger does. -/
def Careful (roster : Roster β) : RosterEvent β → Prop
  | .answered id =>
      ∀ call broker order index result ledger,
        roster.Records id call broker order (.orphan index) result ledger →
          roster.system.ledger? call.intent.botId = none ∧
            (roster.Saves ledger (fillOf call.intent result) call.env.write →
              (roster.returned call.intent.botId).Subperm ledger.orderHistory)
  | .load botId capital _ =>
      ∀ ledger, botId ∉ roster.bots → roster.system.restoredLedger botId capital = .ok ledger →
        (roster.returned botId).Subperm ledger.orderHistory
  | _ => True

/-! ### Recording into an object -/

private theorem storedHistory_saveSnapshot (table : Table) (botId other : BotId) (ledger : Ledger)
    (savedAt : Int) :
    storedHistory (saveSnapshot table botId ledger savedAt) other =
      if other = botId then ledger.orderHistory else storedHistory table other := by
  have history : ledger.modelValidate.orderHistory = ledger.orderHistory := by
    unfold Ledger.modelValidate Ledger.modelPostInit
    split <;> rfl
  unfold storedHistory
  by_cases same : other = botId
  · rw [if_pos same, same, loadSnapshot_saveSnapshot_self]
    exact history
  · rw [if_neg same, loadSnapshot_saveSnapshot_of_ne _ _ _ same]

private theorem storedHistory_appendEvent (store : LedgerStore) (table : Table)
    (botId other : BotId) (fill : Fill) (ts : Nat) (suffix : String) :
    storedHistory (store.appendEvent table botId fill ts suffix) other =
      storedHistory table other := by
  unfold storedHistory
  rw [loadSnapshot_appendEvent]

/-- Persisting a fill stores the whole history of the object it was recorded in. -/
theorem storedHistory_recordAndPersist (store : LedgerStore) (table : Table)
    (botId other : BotId) (ledger : Ledger) (fill : Fill) (write : WriteEnv) :
    storedHistory (store.recordAndPersist table botId ledger fill write).2.1 other =
      if other = botId ∧ (ledger.recordFill fill).2 = .ok () ∧ write.saveFails = none then
        ledger.orderHistory ++ [fill]
      else storedHistory table other := by
  have history := ledger.orderHistory_recordFill fill
  have appended := storedHistory_appendEvent store table botId other fill write.eventAt write.suffix
  unfold recordAndPersist
  rcases recorded : ledger.recordFill fill with ⟨after, error | ⟨⟩⟩
  · simp
  · have booked : after.orderHistory = ledger.orderHistory ++ [fill] := by
      rw [recorded] at history
      exact history
    cases write.saveFails with
    | some error => cases write.appendFails <;> simp [appended]
    | none =>
        cases write.appendFails <;>
          simp only [and_true, storedHistory_saveSnapshot, appended, booked]

variable {roster : Roster β} {botId : BotId} {handle : Handle} {ledger : Ledger} {fill : Fill}
  {write : WriteEnv}

theorem ledger?_recordAt (other : BotId) :
    (roster.recordAt botId handle ledger fill write).1.system.ledger? other =
      if handle = .live ∧ other = botId then some (ledger.recordFill fill).1
      else roster.system.ledger? other := by
  have set : ∀ after : Ledger, (roster.setLedgerAt botId after handle).system.ledger? other =
      if handle = .live ∧ other = botId then some after else roster.system.ledger? other := by
    intro after
    cases handle with
    | live => simpa [setLedgerAt] using roster.system.ledger?_setLedger botId other after
    | orphan index => simp [setLedgerAt]
  unfold recordAt
  cases roster.system.coordinator.ledgerStore with
  | none => exact set _
  | some store =>
      rw [← recordAndPersist_ledger store roster.system.table botId ledger fill write]
      exact set _

theorem storedHistory_recordAt (other : BotId) :
    storedHistory (roster.recordAt botId handle ledger fill write).1.system.table other =
      if other = botId ∧ roster.Saves ledger fill write then ledger.orderHistory ++ [fill]
      else storedHistory roster.system.table other := by
  have table : ∀ after : Ledger, (roster.setLedgerAt botId after handle).system.table =
      roster.system.table := by
    intro after
    cases handle <;> rfl
  unfold recordAt
  cases configured : roster.system.coordinator.ledgerStore with
  | none =>
      have notSaved : ¬ roster.Saves ledger fill write := by simp [Saves, configured]
      rw [if_neg fun both => notSaved both.2]
      simp only [table]
  | some store =>
      have saved : roster.Saves ledger fill write ↔
          (ledger.recordFill fill).2 = .ok () ∧ write.saveFails = none := by
        simp [Saves, configured]
      simp only [saved]
      exact storedHistory_recordAndPersist store roster.system.table botId other ledger fill write

theorem orphans_recordAt :
    (roster.recordAt botId handle ledger fill write).1.orphans =
      match handle with
      | .live => roster.orphans
      | .orphan index => roster.orphans.set index (botId, (ledger.recordFill fill).1) := by
  unfold recordAt
  cases roster.system.coordinator.ledgerStore with
  | none => cases handle <;> rfl
  | some store =>
      rw [← recordAndPersist_ledger store roster.system.table botId ledger fill write]
      cases handle <;> rfl

/-! ### What no step invents -/

/-- Every history, in memory or stored, is made of returned fills. -/
structure Bounded (roster : Roster β) : Prop where
  live : ∀ botId ledger, roster.system.ledger? botId = some ledger →
    ledger.orderHistory.Subperm (roster.returned botId)
  orphans : ∀ entry ∈ roster.orphans,
    entry.2.orderHistory.Subperm (roster.returned entry.1)
  stored : ∀ botId,
    (storedHistory roster.system.table botId).Subperm (roster.returned botId)

/-- The parts of the state that both properties speak of. -/
structure Same (before after : Roster β) : Prop where
  ledgers : ∀ botId, after.system.ledger? botId = before.system.ledger? botId
  table : after.system.table = before.system.table
  orphans : after.orphans = before.orphans
  returned : after.returned = before.returned
  persisted : after.persisted = before.persisted

theorem Same.refl (roster : Roster β) : roster.Same roster := ⟨fun _ => rfl, rfl, rfl, rfl, rfl⟩

theorem Same.survives_iff {before after : Roster β} (same : before.Same after) :
    after.Survives ↔ before.Survives := by
  constructor
  · rintro ⟨live, stored⟩
    refine ⟨fun botId ledger found => ?_, fun botId => ?_⟩
    · rw [← same.returned]
      exact live botId ledger ((same.ledgers botId).trans found)
    · rw [← same.persisted, ← same.table]
      exact stored botId
  · rintro ⟨live, stored⟩
    refine ⟨fun botId ledger found => ?_, fun botId => ?_⟩
    · rw [same.returned]
      exact live botId ledger ((same.ledgers botId).symm.trans found)
    · rw [same.persisted, same.table]
      exact stored botId

theorem Same.bounded {before after : Roster β} (same : before.Same after)
    (bounded : before.Bounded) : after.Bounded := by
  refine ⟨fun botId ledger found => ?_, fun entry member => ?_, fun botId => ?_⟩
  · rw [same.returned]
    exact bounded.live botId ledger ((same.ledgers botId).symm.trans found)
  · rw [same.returned]
    exact bounded.orphans entry (same.orphans ▸ member)
  · rw [same.returned, same.table]
    exact bounded.stored botId

/-- One trade waits under an id. -/
theorem Records.unique {id : Nat} {call other : Call β} {broker otherBroker : β}
    {order otherOrder : OrderRequest} {otherHandle : Handle} {result otherResult : OrderResult}
    {object : Ledger} (records : roster.Records id call broker order handle result ledger)
    (others : roster.Records id other otherBroker otherOrder otherHandle otherResult object) :
    call = other ∧ broker = otherBroker ∧ handle = otherHandle ∧ result = otherResult ∧
      ledger = object := by
  obtain ⟨⟨decision, submitting⟩, answered, -, holds⟩ := records
  obtain ⟨⟨otherDecision, otherSubmitting⟩, otherAnswered, -, otherHolds⟩ := others
  have same := Option.some.inj (submitting.symm.trans otherSubmitting)
  rw [Trade.submitting.injEq] at same
  obtain ⟨rfl, rfl, rfl, -, rfl⟩ := same
  exact ⟨rfl, rfl, rfl, Except.ok.inj (answered.symm.trans otherAnswered),
    Option.some.inj (holds.symm.trans otherHolds)⟩

theorem step_of_records {id : Nat} {call : Call β} {broker : β} {order : OrderRequest}
    {result : OrderResult}
    (records : roster.Records id call broker order handle result ledger) :
    ∃ outcome, roster.step (.answered id) =
      ((roster.recordAt call.intent.botId handle ledger (fillOf call.intent result)
          call.env.write).1.note call.intent.botId (fillOf call.intent result)
        (decide (roster.Saves ledger (fillOf call.intent result) call.env.write))).setTrade
          id (.finished outcome) := by
  obtain ⟨⟨decision, submitting⟩, answered, positive, holds⟩ := records
  simp only [step, submitting, answered, if_neg (not_le.mpr positive), holds]
  exact ⟨_, rfl⟩

/-- An answer that is not recorded ends its trade at most. -/
theorem step_of_not_records {id : Nat}
    (nothing : ∀ call broker order handle result ledger,
      ¬ roster.Records id call broker order handle result ledger) :
    roster.step (.answered id) = roster ∨
      ∃ outcome, roster.step (.answered id) = roster.setTrade id (.finished outcome) := by
  unfold step
  dsimp only
  split
  next call broker order decision handle submitting =>
    split
    next => exact Or.inr ⟨_, rfl⟩
    next result answered =>
      split_ifs with nonpositive
      · exact Or.inr ⟨_, rfl⟩
      · split
        next => exact Or.inl rfl
        next ledger holds =>
          exact absurd ⟨⟨decision, submitting⟩, answered, not_le.mp nonpositive, holds⟩
            (nothing call broker order handle result ledger)
  next => exact Or.inl rfl

theorem same_of_not_records {id : Nat}
    (nothing : ∀ call broker order handle result ledger,
      ¬ roster.Records id call broker order handle result ledger) :
    roster.Same (roster.step (.answered id)) := by
  rcases step_of_not_records nothing with same | ⟨outcome, same⟩
  · rw [same]
    exact Same.refl roster
  · rw [same]
    exact ⟨fun _ => rfl, rfl, rfl, rfl, rfl⟩

/-- A trade that begins, and one that is priced, change nothing of it either. -/
theorem same_of_execute (roster : Roster β) (id : Nat) (call : Call β) :
    roster.Same (roster.step (.execute id call)) := by
  unfold step
  dsimp only
  split
  next => exact Same.refl roster
  next =>
    obtain ⟨cache, same⟩ := executeBegin_system roster.system call.env call.intent
    rw [same]
    exact ⟨fun _ => rfl, rfl, rfl, rfl, rfl⟩

theorem same_of_quoted (roster : Roster β) (id : Nat) :
    roster.Same (roster.step (.quoted id)) := by
  unfold step
  dsimp only
  split
  next =>
    split
    next => exact Same.refl roster
    next => exact ⟨fun _ => rfl, rfl, rfl, rfl, rfl⟩
  next => exact Same.refl roster

/-! ### A recorded answer -/

/-- What a recorded answer changes. -/
structure Recorded (before after : Roster β) (botId : BotId) (handle : Handle) (ledger : Ledger)
    (fill : Fill) (saves : Prop) [Decidable saves] : Prop where
  ledgers : ∀ other, after.system.ledger? other =
    if handle = .live ∧ other = botId then some (ledger.recordFill fill).1
    else before.system.ledger? other
  stored : ∀ other, storedHistory after.system.table other =
    if other = botId ∧ saves then ledger.orderHistory ++ [fill]
    else storedHistory before.system.table other
  orphans : ∀ entry ∈ after.orphans,
    entry ∈ before.orphans ∨ entry = (botId, (ledger.recordFill fill).1)
  returned : ∀ other, after.returned other =
    if other = botId then before.returned botId ++ [fill] else before.returned other
  persisted : ∀ other, after.persisted other =
    if other = botId ∧ saves then before.returned botId ++ [fill] else before.persisted other

theorem Records.recorded {id : Nat} {call : Call β} {broker : β} {order : OrderRequest}
    {result : OrderResult}
    (records : roster.Records id call broker order handle result ledger) :
    roster.Recorded (roster.step (.answered id)) call.intent.botId handle ledger
      (fillOf call.intent result)
      (roster.Saves ledger (fillOf call.intent result) call.env.write) := by
  obtain ⟨outcome, same⟩ := step_of_records records
  rw [same]
  have untouched : (roster.recordAt call.intent.botId handle ledger (fillOf call.intent result)
        call.env.write).1.returned = roster.returned ∧
      (roster.recordAt call.intent.botId handle ledger (fillOf call.intent result)
        call.env.write).1.persisted = roster.persisted := by
    unfold recordAt
    cases roster.system.coordinator.ledgerStore <;> cases handle <;> exact ⟨rfl, rfl⟩
  refine ⟨ledger?_recordAt, storedHistory_recordAt, fun entry member => ?_, fun other => ?_,
    fun other => ?_⟩
  · have inOrphans : entry ∈ (roster.recordAt call.intent.botId handle ledger
        (fillOf call.intent result) call.env.write).1.orphans := member
    rw [orphans_recordAt] at inOrphans
    cases handle with
    | live => exact Or.inl inOrphans
    | orphan index => exact List.mem_or_eq_of_mem_set inOrphans
  · unfold setTrade note
    simp only [untouched.1, Function.update_apply]
  · unfold setTrade note
    simp only [untouched.1, untouched.2, decide_eq_true_eq]
    by_cases saves : roster.Saves ledger (fillOf call.intent result) call.env.write
    · simp only [Function.update_apply, saves, and_true, if_true]
    · simp only [saves, and_false, if_false]

variable {before after : Roster β} {saves : Prop} [Decidable saves]

theorem Recorded.bounded (recorded : before.Recorded after botId handle ledger fill saves)
    (bounded : before.Bounded)
    (history : ledger.orderHistory.Subperm (before.returned botId)) : after.Bounded := by
  have grows : ∀ other, (before.returned other).Subperm (after.returned other) := by
    intro other
    rw [recorded.returned]
    split
    next same => exact same ▸ (List.sublist_append_left _ _).subperm
    next => exact List.Subperm.refl _
  have extended : (ledger.orderHistory ++ [fill]).Subperm (after.returned botId) := by
    rw [recorded.returned, if_pos rfl]
    exact (List.subperm_append_right [fill]).mpr history
  refine ⟨fun other found lookup => ?_, fun entry member => ?_, fun other => ?_⟩
  · rw [recorded.ledgers] at lookup
    split at lookup
    next own =>
      rw [← Option.some.inj lookup, ledger.orderHistory_recordFill, own.2]
      exact extended
    next => exact (bounded.live other found lookup).trans (grows other)
  · rcases recorded.orphans entry member with old | rfl
    · exact (bounded.orphans entry old).trans (grows entry.1)
    · rw [ledger.orderHistory_recordFill]
      exact extended
  · rw [recorded.stored]
    split
    next own => exact own.1 ▸ extended
    next => exact (bounded.stored other).trans (grows other)

/-- Recording into the ledger of the coordinator loses nothing. -/
theorem Recorded.survives_live (recorded : before.Recorded after botId .live ledger fill saves)
    (survives : before.Survives) (holds : before.system.ledger? botId = some ledger) :
    after.Survives := by
  have extended : (before.returned botId ++ [fill]).Subperm (ledger.orderHistory ++ [fill]) :=
    (List.subperm_append_right [fill]).mpr (survives.live botId ledger holds)
  refine ⟨fun other found lookup => ?_, fun other => ?_⟩
  · rw [recorded.ledgers] at lookup
    rw [recorded.returned]
    by_cases own : other = botId
    · rw [if_pos ⟨rfl, own⟩, Option.some.injEq] at lookup
      rw [if_pos own, ← lookup, ledger.orderHistory_recordFill]
      exact extended
    · rw [if_neg fun both => own both.2] at lookup
      rw [if_neg own]
      exact survives.live other found lookup
  · rw [recorded.persisted, recorded.stored]
    split
    next => exact extended
    next => exact survives.stored other

/-- Recording into an orphan loses nothing exactly when the bot has no ledger
and the orphan, if it is saved, is complete. -/
theorem Recorded.survives_orphan_iff {index : Nat}
    (recorded : before.Recorded after botId (.orphan index) ledger fill saves)
    (bounded : before.Bounded) (survives : before.Survives) :
    after.Survives ↔
      before.system.ledger? botId = none ∧
        (saves → (before.returned botId).Subperm ledger.orderHistory) := by
  have ledgers : ∀ other, after.system.ledger? other = before.system.ledger? other := by
    intro other
    rw [recorded.ledgers, if_neg (by simp)]
  constructor
  · intro kept
    constructor
    · by_contra loaded
      obtain ⟨present, found⟩ := Option.ne_none_iff_exists'.mp loaded
      have holds := (kept.live botId present ((ledgers botId).trans found)).length_le
      have atMost := (bounded.live botId present found).length_le
      rw [recorded.returned, if_pos rfl, List.length_append, List.length_singleton] at holds
      omega
    · intro saved
      have stored := kept.stored botId
      rw [recorded.persisted, recorded.stored, if_pos ⟨rfl, saved⟩, if_pos ⟨rfl, saved⟩] at stored
      exact (List.subperm_append_right [fill]).mp stored
  · rintro ⟨unloaded, complete⟩
    refine ⟨fun other found lookup => ?_, fun other => ?_⟩
    · rw [ledgers] at lookup
      have different : other ≠ botId := by
        rintro rfl
        rw [unloaded] at lookup
        cases lookup
      rw [recorded.returned, if_neg different]
      exact survives.live other found lookup
    · rw [recorded.persisted, recorded.stored]
      split
      next own => exact (List.subperm_append_right [fill]).mpr (complete own.2)
      next => exact survives.stored other

/-! ### The poll -/

private theorem orphan_untouched (roster : Roster β) (botId : BotId) :
    (roster.orphan botId).returned = roster.returned ∧
      (roster.orphan botId).persisted = roster.persisted := by
  unfold orphan
  cases roster.system.ledger? botId <;> exact ⟨rfl, rfl⟩

/-- What is taken out of the coordinator is made of returned fills. -/
private theorem Bounded.orphan {roster : Roster β} (bounded : roster.Bounded) (botId : BotId) :
    ∀ entry ∈ (roster.orphan botId).orphans,
      entry.2.orderHistory.Subperm (roster.returned entry.1) := by
  intro entry member
  unfold Roster.orphan at member
  cases loaded : roster.system.ledger? botId with
  | none =>
      rw [loaded] at member
      exact bounded.orphans entry member
  | some ledger =>
      rw [loaded] at member
      rcases List.mem_append.mp member with old | new
      · exact bounded.orphans entry old
      · rw [List.mem_singleton] at new
        rw [new]
        exact bounded.live botId ledger loaded

/-- The system with another ledger, or none, for one bot; the old object is kept
for the trades that hold it. -/
structure Replaced (before after : Roster β) (botId : BotId) (ledger : Option Ledger) : Prop where
  ledgers : ∀ other, after.system.ledger? other =
    if other = botId then ledger else before.system.ledger? other
  table : after.system.table = before.system.table
  orphans : after.orphans = (before.orphan botId).orphans
  returned : after.returned = before.returned
  persisted : after.persisted = before.persisted

theorem Replaced.bounded {before after : Roster β} {ledger : Option Ledger}
    (replaced : before.Replaced after botId ledger) (bounded : before.Bounded)
    (history : ∀ restored, ledger = some restored →
      restored.orderHistory.Subperm (before.returned botId)) : after.Bounded := by
  refine ⟨fun other found lookup => ?_, fun entry member => ?_, fun other => ?_⟩
  · rw [replaced.returned]
    rw [replaced.ledgers] at lookup
    split at lookup
    next own => exact own ▸ history found lookup
    next => exact bounded.live other found lookup
  · rw [replaced.returned]
    exact bounded.orphan botId entry (replaced.orphans ▸ member)
  · rw [replaced.returned, replaced.table]
    exact bounded.stored other

theorem Replaced.survives_iff {before after : Roster β} {ledger : Option Ledger}
    (replaced : before.Replaced after botId ledger) (survives : before.Survives) :
    after.Survives ↔ ∀ restored, ledger = some restored →
      (before.returned botId).Subperm restored.orderHistory := by
  constructor
  · intro kept restored same
    rw [← replaced.returned]
    refine kept.live botId restored ?_
    rw [replaced.ledgers, if_pos rfl, same]
  · intro complete
    refine ⟨fun other found lookup => ?_, fun other => ?_⟩
    · rw [replaced.returned]
      rw [replaced.ledgers] at lookup
      split at lookup
      next own => exact own ▸ complete found lookup
      next => exact survives.live other found lookup
    · rw [replaced.persisted, replaced.table]
      exact survives.stored other

theorem replaced_of_unload {roster : Roster β} (loaded : botId ∈ roster.bots) :
    roster.Replaced (roster.step (.unload botId)) botId none := by
  obtain ⟨returned, persisted⟩ := roster.orphan_untouched botId
  simp only [step, if_pos loaded]
  exact ⟨roster.system.ledger?_unload botId, rfl, rfl, returned, persisted⟩

theorem replaced_of_load {roster : Roster β} {capital : Decimal} {completes : Bool}
    (absent : botId ∉ roster.bots)
    (restored : roster.system.restoredLedger botId capital = .ok ledger) :
    roster.Replaced (roster.step (.load botId capital completes)) botId (some ledger) := by
  obtain ⟨returned, persisted⟩ := roster.orphan_untouched botId
  simp only [step, if_neg absent, restored]
  exact ⟨fun other => roster.system.ledger?_setLedger botId other ledger, rfl, rfl, returned,
    persisted⟩

/-- A restored ledger carries the stored history, or none. -/
theorem history_of_restored {system : System β} {capital : Decimal}
    (restored : system.restoredLedger botId capital = .ok ledger) :
    ledger.orderHistory = [] ∨ ledger.orderHistory = storedHistory system.table botId := by
  have fresh : (Ledger.ofCapital capital).orderHistory = [] := by
    unfold Ledger.ofCapital Ledger.modelPostInit
    split <;> rfl
  unfold System.restoredLedger at restored
  split at restored
  next =>
    rw [← Except.ok.inj restored]
    exact Or.inl fresh
  next =>
    unfold registerStrategy at restored
    split at restored
    next => cases restored
    next snapshot loaded =>
      rw [← Except.ok.inj restored]
      right
      unfold storedHistory
      rw [loaded]
    next =>
      rw [← Except.ok.inj restored]
      exact Or.inl fresh

/-! ### What the trades hold -/

/-- There is an object of the bot behind the handle. -/
def Holds (roster : Roster β) (botId : BotId) : Handle → Prop
  | .live => ∃ ledger, roster.system.ledger? botId = some ledger
  | .orphan index => ∃ ledger, roster.orphans[index]? = some (botId, ledger)

/-- Every trade under way holds an object of its own bot. -/
def Held (roster : Roster β) : Prop :=
  ∀ id trade botId handle, roster.trades.get? id = some trade →
    trade.holding = some (botId, handle) → roster.Holds botId handle

theorem Holds.ledgerAt {roster : Roster β} (holds : roster.Holds botId handle) :
    ∃ ledger, roster.ledgerAt botId handle = some ledger := by
  cases handle with
  | live => exact holds
  | orphan index =>
      obtain ⟨ledger, found⟩ := holds
      exact ⟨ledger, congrArg (Option.map Prod.snd) found⟩

/-- A trade may be replaced by one that holds an object of its bot, where every
object is still there. -/
theorem Held.of_setTrade {before after : Roster β} {id : Nat} {trade : Trade β}
    (held : before.Held) (trades : after.trades = before.trades.set id trade)
    (kept : ∀ botId handle, before.Holds botId handle → after.Holds botId handle)
    (own : ∀ botId handle, trade.holding = some (botId, handle) → after.Holds botId handle) :
    after.Held := by
  intro other found botId handle lookup holding
  rw [trades] at lookup
  rcases Dict.set_or_get?_of_get?_set lookup with ⟨-, rfl⟩ | earlier
  · exact own botId handle holding
  · exact kept botId handle (held other found botId handle earlier holding)

theorem Held.execute {roster : Roster β} (held : roster.Held) (id : Nat) (call : Call β) :
    (roster.step (.execute id call)).Held := by
  simp only [step]
  cases roster.trades.get? id with
  | some trade => exact held
  | none =>
      obtain ⟨cache, same⟩ := executeBegin_system roster.system call.env call.intent
      have kept : ∀ botId handle, roster.Holds botId handle →
          Roster.Holds ({ roster with system := roster.system.setCache cache }) botId handle := by
        intro botId handle holds
        cases handle <;> exact holds
      rcases begun : executeBegin roster.system call.intent call.env.reads call.env.factory with
        ⟨after, standing⟩
      have afterEq : after = roster.system.setCache cache := by rw [← same, begun]
      subst afterEq
      refine held.of_setTrade rfl kept fun botId handle holding => ?_
      cases standing with
      | raised error => cases holding
      | returned result => cases holding
      | quoting broker symbols =>
          obtain ⟨ledger, reaches, -⟩ := executeBegin_quoting begun
          cases holding
          exact ⟨ledger, reaches.registered⟩

theorem Held.quoted {roster : Roster β} (held : roster.Held) (id : Nat) :
    (roster.step (.quoted id)).Held := by
  simp only [step]
  split
  next call broker symbols handle found =>
    have holds := held id _ call.intent.botId handle found rfl
    obtain ⟨ledger, present⟩ := holds.ledgerAt
    simp only [present]
    refine held.of_setTrade rfl (fun _ other kept => ?_) fun botId other holding => ?_
    · cases other <;> exact kept
    · cases priced : executePriced roster.system.coordinator.riskManager call.intent ledger
          (getMarketPrices (call.env.quote broker) symbols) with
      | raised error =>
          rw [priced] at holding
          cases holding
      | rejected result =>
          rw [priced] at holding
          cases holding
      | submitting order decision =>
          rw [priced] at holding
          cases holding
          cases handle <;> exact holds
  next => exact held

/-- Recording into an object leaves every object where it is. -/
theorem Holds.recordAt {roster : Roster β} {other : BotId} {otherHandle : Handle}
    (kept : roster.Holds other otherHandle) (holds : roster.Holds botId handle) :
    Roster.Holds (roster.recordAt botId handle ledger fill write).1 other otherHandle := by
  cases otherHandle with
  | live =>
      unfold Holds
      dsimp only
      rw [ledger?_recordAt]
      split
      · exact ⟨_, rfl⟩
      · exact kept
  | orphan index =>
      unfold Holds
      dsimp only
      rw [orphans_recordAt]
      cases handle with
      | live => exact kept
      | orphan recorded =>
          obtain ⟨present, found⟩ := kept
          obtain ⟨object, own⟩ := holds
          dsimp only
          rw [List.getElem?_set]
          split
          next same =>
            subst same
            obtain ⟨rfl, -⟩ := Prod.mk.inj (Option.some.inj (own.symm.trans found))
            rw [if_pos (List.getElem?_eq_some_iff.mp own).1]
            exact ⟨_, rfl⟩
          next => exact ⟨present, found⟩

theorem Held.answered {roster : Roster β} (held : roster.Held) (id : Nat) :
    (roster.step (.answered id)).Held := by
  by_cases recorded : ∃ call broker order handle result ledger,
      roster.Records id call broker order handle result ledger
  · obtain ⟨call, broker, order, handle, result, ledger, records⟩ := recorded
    obtain ⟨decision, submitting⟩ := records.submitting
    have holds := held id _ call.intent.botId handle submitting rfl
    obtain ⟨outcome, same⟩ := step_of_records records
    have trades : (roster.recordAt call.intent.botId handle ledger (fillOf call.intent result)
        call.env.write).1.trades = roster.trades := by
      unfold recordAt
      cases roster.system.coordinator.ledgerStore <;> cases handle <;> rfl
    rw [same]
    refine held.of_setTrade
      (congrArg (fun held => Dict.set held id (Trade.finished outcome)) trades) ?_
      fun _ _ holding => by cases holding
    intro botId other kept
    have after : Holds (roster.recordAt call.intent.botId handle ledger
        (fillOf call.intent result) call.env.write).1 botId other := kept.recordAt holds
    cases other <;> exact after
  · push Not at recorded
    rcases step_of_not_records recorded with same | ⟨outcome, same⟩
    · rw [same]
      exact held
    · rw [same]
      refine held.of_setTrade rfl (fun _ other kept => ?_) fun _ _ holding => by cases holding
      cases other <;> exact kept

private theorem holding_detach (trade : Trade β) (botId : BotId) (index : Nat) :
    (trade.detach botId index).holding =
      match trade.holding with
      | some (owner, .live) => some (owner, if owner = botId then .orphan index else .live)
      | holding => holding := by
  cases trade with
  | quoting call broker symbols handle => cases handle <;> rfl
  | submitting call broker order decision handle => cases handle <;> rfl
  | finished outcome => rfl

section Replaced

variable {before after : Roster β} {ledger : Option Ledger}

/-- The ledgers of other bots stay in place. -/
theorem Replaced.holds_live (replaced : before.Replaced after botId ledger) {owner : BotId}
    (different : owner ≠ botId) (holds : before.Holds owner .live) : after.Holds owner .live := by
  obtain ⟨present, found⟩ := holds
  refine ⟨present, ?_⟩
  rw [replaced.ledgers, if_neg different]
  exact found

/-- The objects that were taken out before keep their places. -/
theorem Replaced.holds_orphan (replaced : before.Replaced after botId ledger) {owner : BotId}
    {index : Nat} (holds : before.Holds owner (.orphan index)) :
    after.Holds owner (.orphan index) := by
  obtain ⟨present, found⟩ := holds
  refine ⟨present, ?_⟩
  rw [replaced.orphans]
  unfold orphan
  cases before.system.ledger? botId with
  | none => exact found
  | some object =>
      rw [← found]
      exact List.getElem?_append_left (List.getElem?_eq_some_iff.mp found).1

/-- The object taken out is behind the handle that its trades are given. -/
theorem Replaced.holds_last (replaced : before.Replaced after botId ledger) {object : Ledger}
    (loaded : before.system.ledger? botId = some object) :
    after.Holds botId (.orphan before.orphans.length) := by
  refine ⟨object, ?_⟩
  rw [replaced.orphans]
  unfold orphan
  simp only [loaded]
  exact List.getElem?_concat_length

/-- Taking an object out of the coordinator, or putting another in its place,
leaves every trade with the object it holds. -/
theorem Replaced.held (replaced : before.Replaced after botId ledger) (held : before.Held)
    (trades : after.trades = (before.orphan botId).trades) : after.Held := by
  intro id trade owner handle lookup holding
  rw [trades] at lookup
  unfold orphan at lookup
  cases loaded : before.system.ledger? botId with
  | none =>
      simp only [loaded] at lookup
      have holds := held id trade owner handle lookup holding
      cases handle with
      | live =>
          have different : owner ≠ botId := by
            rintro rfl
            obtain ⟨present, found⟩ := holds
            rw [loaded] at found
            cases found
          exact replaced.holds_live different holds
      | orphan index => exact replaced.holds_orphan holds
  | some object =>
      simp only [loaded] at lookup
      rw [Dict.get?_mapValues, Option.map_eq_some_iff] at lookup
      obtain ⟨old, oldLookup, rfl⟩ := lookup
      rw [holding_detach] at holding
      rcases oldHolding : old.holding with - | ⟨oldOwner, - | index⟩
      · simp [oldHolding] at holding
      · have holds := held id old oldOwner .live oldLookup oldHolding
        simp only [oldHolding, Option.some.injEq, Prod.mk.injEq] at holding
        obtain ⟨rfl, rfl⟩ := holding
        split_ifs with own
        · rw [own]
          exact replaced.holds_last loaded
        · exact replaced.holds_live own holds
      · have holds := held id old oldOwner (.orphan index) oldLookup oldHolding
        simp only [oldHolding, Option.some.injEq, Prod.mk.injEq] at holding
        obtain ⟨rfl, rfl⟩ := holding
        exact replaced.holds_orphan holds

end Replaced

/-! ### One step -/

/-- The handles are good, and no history holds a fill that was not returned. -/
structure Tracked (roster : Roster β) : Prop where
  held : roster.Held
  bounded : roster.Bounded

/-- The object a trade holds is made of fills returned for its bot. -/
theorem Tracked.history {roster : Roster β} (tracked : roster.Tracked) {id : Nat} {call : Call β}
    {broker : β} {order : OrderRequest} {result : OrderResult}
    (records : roster.Records id call broker order handle result ledger) :
    ledger.orderHistory.Subperm (roster.returned call.intent.botId) := by
  obtain ⟨decision, submitting⟩ := records.submitting
  have object := records.holds
  cases handle with
  | live => exact tracked.bounded.live call.intent.botId ledger object
  | orphan index =>
      obtain ⟨present, found⟩ := tracked.held id _ call.intent.botId _ submitting rfl
      have same : ledger = present :=
        Option.some.inj (object.symm.trans (congrArg (Option.map Prod.snd) found))
      rw [same]
      exact tracked.bounded.orphans _ (List.mem_of_getElem? found)

theorem Tracked.step {roster : Roster β} (tracked : roster.Tracked) (event : RosterEvent β) :
    (roster.step event).Tracked := by
  cases event with
  | execute id call =>
      exact ⟨tracked.held.execute id call, (same_of_execute roster id call).bounded tracked.bounded⟩
  | quoted id => exact ⟨tracked.held.quoted id, (same_of_quoted roster id).bounded tracked.bounded⟩
  | answered id =>
      refine ⟨tracked.held.answered id, ?_⟩
      by_cases recorded : ∃ call broker order handle result ledger,
          roster.Records id call broker order handle result ledger
      · obtain ⟨call, broker, order, handle, result, ledger, records⟩ := recorded
        exact records.recorded.bounded tracked.bounded (tracked.history records)
      · push Not at recorded
        exact (same_of_not_records recorded).bounded tracked.bounded
  | unload botId =>
      by_cases loaded : botId ∈ roster.bots
      · have replaced := replaced_of_unload loaded
        refine ⟨replaced.held tracked.held ?_, replaced.bounded tracked.bounded (by simp)⟩
        simp only [Roster.step, if_pos loaded]
      · simp only [Roster.step, if_neg loaded]
        exact tracked
  | load botId capital completes =>
      by_cases loaded : botId ∈ roster.bots
      · simp only [Roster.step, if_pos loaded]
        exact tracked
      · cases restored : roster.system.restoredLedger botId capital with
        | error error =>
            simp only [Roster.step, if_neg loaded, restored]
            exact tracked
        | ok ledger =>
            have replaced : roster.Replaced (roster.step (.load botId capital completes)) botId
              (some ledger) := replaced_of_load loaded restored
            refine ⟨replaced.held tracked.held ?_, replaced.bounded tracked.bounded ?_⟩
            · simp only [Roster.step, if_neg loaded, restored]
            · intro other same
              obtain rfl := Option.some.inj same
              rcases history_of_restored restored with fresh | stored
              · rw [fresh]
                exact List.nil_subperm
              · rw [stored]
                exact tracked.bounded.stored botId

/-- Where the handles are good, a step loses no fill exactly when it is careful. -/
theorem survives_step_iff {roster : Roster β} {event : RosterEvent β} (tracked : roster.Tracked)
    (survives : roster.Survives) : (roster.step event).Survives ↔ roster.Careful event := by
  cases event with
  | execute id call =>
      exact iff_of_true ((same_of_execute roster id call).survives_iff.mpr survives) trivial
  | quoted id => exact iff_of_true ((same_of_quoted roster id).survives_iff.mpr survives) trivial
  | answered id =>
      by_cases recorded : ∃ call broker order handle result ledger,
          roster.Records id call broker order handle result ledger
      · obtain ⟨call, broker, order, handle, result, ledger, records⟩ := recorded
        cases handle with
        | live =>
            refine iff_of_true (records.recorded.survives_live survives records.holds) ?_
            intro other otherBroker otherOrder index otherResult object others
            cases (records.unique others).2.2.1
        | orphan index =>
            rw [records.recorded.survives_orphan_iff tracked.bounded survives]
            constructor
            · intro careful other otherBroker otherOrder otherIndex otherResult object others
              obtain ⟨rfl, rfl, same, rfl, rfl⟩ := records.unique others
              exact careful
            · intro careful
              exact careful call broker order index result ledger records
      · push Not at recorded
        refine iff_of_true ((same_of_not_records recorded).survives_iff.mpr survives) ?_
        intro call broker order index result ledger records
        exact absurd records (recorded call broker order _ result ledger)
  | unload botId =>
      by_cases loaded : botId ∈ roster.bots
      · exact iff_of_true (((replaced_of_unload loaded).survives_iff survives).mpr (by simp)) trivial
      · simp only [step, if_neg loaded]
        exact iff_of_true survives trivial
  | load botId capital completes =>
      by_cases loaded : botId ∈ roster.bots
      · simp only [step, if_pos loaded]
        exact iff_of_true survives fun _ absent => absurd loaded absent
      · cases restored : roster.system.restoredLedger botId capital with
        | error error =>
            simp only [step, if_neg loaded, restored]
            refine iff_of_true survives fun ledger _ found => ?_
            rw [restored] at found
            cases found
        | ok ledger =>
            have replaced : roster.Replaced (roster.step (.load botId capital completes)) botId
              (some ledger) := replaced_of_load loaded restored
            rw [replaced.survives_iff survives]
            constructor
            · intro complete other _ found
              rw [restored] at found
              exact complete other (congrArg some (Except.ok.inj found))
            · rintro careful other same
              obtain rfl := Option.some.inj same
              exact careful ledger loaded restored

/-! ### Runs -/

private theorem tracked_boot (coordinator : TradeCoordinator β) (table : Table) :
    (boot coordinator table).Tracked := by
  refine ⟨fun id trade botId handle found => ?_, ⟨fun botId ledger found => ?_,
    fun entry member => ?_, fun botId => List.Subperm.refl _⟩⟩
  · have nothing : (boot coordinator table).trades.get? id = none := rfl
    rw [nothing] at found
    cases found
  · have nothing : (boot coordinator table).system.ledger? botId = none := rfl
    rw [nothing] at found
    cases found
  · cases member

/-- From the start of a process, along every interleaving of trades with the
poll, every returned fill is in the ledger of its bot and in every snapshot
saved since, exactly when every step is careful. -/
theorem survives_iff_careful (coordinator : TradeCoordinator β) (table : Table)
    (events : List (RosterEvent β)) :
    Always step Survives (boot coordinator table) events ↔
      EachStep step Careful (boot coordinator table) events := by
  have survives : (boot coordinator table).Survives := by
    refine ⟨fun botId ledger found => ?_, fun botId => List.Subperm.refl _⟩
    have nothing : (boot coordinator table).system.ledger? botId = none := rfl
    rw [nothing] at found
    cases found
  have anyEvent : EachStep step (fun _ _ => True) (boot coordinator table) events :=
    eachStep_true step _ events
  exact always_iff_eachStep_of_kept step (fun _ event tracked _ => tracked.step event)
    (fun _ _ tracked survives _ => survives_step_iff tracked survives)
    (tracked_boot coordinator table) survives anyEvent

/-- A bot is paused and resumed while its order is at the broker; the fill goes
into the ledger object that was taken out. -/
theorem not_survives_resumed :
    let coordinator : TradeCoordinator Unit := { ledgerStore := some {} }
    let call : Call Unit := ⟨CallEnv.steady 100, ⟨"bot", "org", "AAPL", .buy, 1, ""⟩⟩
    ¬ Always step Survives (boot coordinator Dict.empty)
      [.load "bot" 1000 true, .execute 0 call, .quoted 0, .unload "bot", .load "bot" 1000 true,
        .answered 0] := by
  intro coordinator call always
  have final := always.final step
  have lost := (final.live "bot" (Ledger.ofCapital 1000) (by decide +kernel)).length_le
  exact absurd lost (by decide +kernel)

end Roster

end TradingStrands
