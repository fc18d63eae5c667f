import TradingStrands.Ddb.Table
import TradingStrands.Ledger.Book
import Mathlib.Data.List.Sort
import Mathlib.Data.Prod.Lex
import Mathlib.Data.String.Basic

/-!
Owns the persistence of ledgers: one snapshot row a bot under `LEDGER#`, one
event row a fill under `LEDGER_EVENT#`, and `recordAndPersist`, which books a
fill in memory, appends the event and saves the snapshot in this order. Clock
reads, the random suffix of the event key and failing writes are inputs.
-/

namespace TradingStrands

open TradingStrands.Foundation

/-- A parsed ledger runs the same hook as a constructed one. -/
def Ledger.modelValidate (document : Ledger) : Ledger := document.modelPostInit

/-- What reloading a stored copy of the ledger gives back unchanged. -/
def Ledger.Reloads (ledger : Ledger) : Prop :=
  ledger.highWaterMark = 0 → ledger.startingCapital = 0

instance (ledger : Ledger) : Decidable ledger.Reloads := by
  unfold Ledger.Reloads
  infer_instance

theorem Ledger.modelValidate_eq_iff (ledger : Ledger) :
    ledger.modelValidate = ledger ↔ ledger.Reloads := by
  unfold Ledger.modelValidate Ledger.modelPostInit Ledger.Reloads
  by_cases unset : ledger.highWaterMark = 0
  · rw [if_pos unset]
    constructor
    · intro same _
      have marks := congrArg Ledger.highWaterMark same
      simpa [unset] using marks
    · intro capital
      have zero := capital unset
      cases ledger
      simp_all
  · simp [unset]

structure LedgerStore where
  eventRetentionDays : Nat := 90

namespace LedgerStore

def snapshotPk (botId : BotId) : String := "LEDGER#" ++ botId

/-- The key prefix of a bot's events. -/
def eventPrefix (botId : BotId) : String := "LEDGER_EVENT#" ++ botId ++ "#"

def eventId (ts : Nat) (suffix : String) : String := toString ts ++ "-" ++ suffix

def eventPk (botId : BotId) (ts : Nat) (suffix : String) : String :=
  "LEDGER_EVENT#" ++ botId ++ "#" ++ eventId ts suffix

/-! ### Snapshot -/

def saveSnapshot (table : Table) (botId : BotId) (ledger : Ledger) (updatedAt : Int) : Table :=
  table.putItem (snapshotPk botId)
    [("bot_id", .text botId), ("updated_at", .number updatedAt), ("ledger_json", .ledgerJson ledger)]

/-- The most recent snapshot, or nothing if none was ever saved. -/
def loadSnapshot (table : Table) (botId : BotId) : Except PyError (Option Ledger) :=
  match table.getItem (snapshotPk botId) with
  | none => .ok none
  | some item =>
      match item.attr? "ledger_json" with
      | none => .ok none
      | some (.ledgerJson document) => .ok (some document.modelValidate)
      | some payload =>
          if payload.truthy then
            .error (.valueError [.text "ledger_json does not hold a ledger"])
          else .ok none

/-! ### Event log -/

/-- Append one fill to the audit log. -/
def appendEvent (store : LedgerStore) (table : Table) (botId : BotId) (fill : Fill) (ts : Nat)
    (suffix : String) (eventType : String := "fill") : Table :=
  table.putItem (eventPk botId ts suffix)
    [("bot_id", .text botId), ("event_type", .text eventType), ("ts", .number ts),
      ("ttl", .number (ts + store.eventRetentionDays * 86400)), ("fill_json", .fillJson fill)]

/-- The rows a prefix scan finds for a bot. -/
def eventRows (table : Table) (botId : BotId) : List (String × Item) :=
  table.scanPrefix (eventPrefix botId)

/-- Events are ordered by second, and within a second by key. -/
def eventKey (row : String × Item) : Int ×ₗ String :=
  toLex (((row.2.attr? "ts").map Attr.toInt).getD 0, row.1)

/-- The most recent events of a bot, newest first. Keys are unique, so which
sort is used does not matter. -/
def eventsForBot (table : Table) (botId : BotId) (limit : Nat := 100) : List (String × Item) :=
  ((eventRows table botId).insertionSort fun left right => eventKey right ≤ eventKey left).take limit

/-! ### Recording and persisting a fill -/

/-- The inputs of one `recordAndPersist`: clock reads, the random suffix, and
whether one of the two writes raises. -/
structure WriteEnv where
  eventAt : Nat := 0
  suffix : String := ""
  savedAt : Int := 0
  appendFails : Option PyError := none
  saveFails : Option PyError := none
deriving DecidableEq

/-- Both writes succeed. -/
def WriteEnv.Succeeds (env : WriteEnv) : Prop := env.appendFails = none ∧ env.saveFails = none

instance (env : WriteEnv) : Decidable env.Succeeds := inferInstanceAs (Decidable (_ ∧ _))

/-- Apply a fill in memory, append its event and save the snapshot. A failing
event write still saves the snapshot before it raises. -/
def recordAndPersist (store : LedgerStore) (table : Table) (botId : BotId) (ledger : Ledger)
    (fill : Fill) (env : WriteEnv) : Ledger × Table × Except PyError Unit :=
  match ledger.recordFill fill with
  | (unbooked, .error error) => (unbooked, table, .error error)
  | (booked, .ok ()) =>
      let logged :=
        match env.appendFails with
        | none => store.appendEvent table botId fill env.eventAt env.suffix
        | some _ => table
      match env.saveFails with
      | some error => (booked, logged, .error error)
      | none =>
          (booked, saveSnapshot logged botId booked env.savedAt,
            match env.appendFails with
            | none => .ok ()
            | some error => .error error)

/-- Whatever happens to the writes, the ledger in memory is the one after
`recordFill`. -/
theorem recordAndPersist_ledger (store : LedgerStore) (table : Table) (botId : BotId)
    (ledger : Ledger) (fill : Fill) (env : WriteEnv) :
    (store.recordAndPersist table botId ledger fill env).1 = (ledger.recordFill fill).1 := by
  unfold recordAndPersist
  rcases ledger.recordFill fill with ⟨after, error | -⟩
  · rfl
  · cases env.saveFails <;> rfl

theorem recordAndPersist_raised {store : LedgerStore} {table : Table} {botId : BotId}
    {ledger : Ledger} {fill : Fill} {env : WriteEnv} {error : PyError}
    (raised : (ledger.recordFill fill).2 = .error error) :
    (store.recordAndPersist table botId ledger fill env).2 = (table, .error error) := by
  unfold recordAndPersist
  rw [← Prod.mk.eta (p := ledger.recordFill fill), raised]

/-- A booked fill whose writes succeed is in the log and in the snapshot. -/
theorem recordAndPersist_booked {store : LedgerStore} {table : Table} {botId : BotId}
    {ledger : Ledger} {fill : Fill} {env : WriteEnv} (succeeds : env.Succeeds)
    (booked : (ledger.recordFill fill).2 = .ok ()) :
    (store.recordAndPersist table botId ledger fill env).2 =
      (saveSnapshot (store.appendEvent table botId fill env.eventAt env.suffix) botId
        (ledger.recordFill fill).1 env.savedAt, .ok ()) := by
  obtain ⟨append, save⟩ := succeeds
  unfold recordAndPersist
  rw [← Prod.mk.eta (p := ledger.recordFill fill), booked]
  simp only [append, save]

/-- A call returns normally exactly when the fill was booked and both writes
succeeded. -/
theorem recordAndPersist_ok_iff {store : LedgerStore} {table : Table} {botId : BotId}
    {ledger : Ledger} {fill : Fill} {env : WriteEnv} :
    (store.recordAndPersist table botId ledger fill env).2.2 = .ok () ↔
      (ledger.recordFill fill).2 = .ok () ∧ env.Succeeds := by
  unfold recordAndPersist WriteEnv.Succeeds
  rcases ledger.recordFill fill with ⟨after, error | -⟩
  · simp
  · cases env.saveFails with
    | some error => simp
    | none => cases env.appendFails <;> simp

/-- The ledger and the outcome do not depend on what the table holds. -/
theorem recordAndPersist_table (store : LedgerStore) (table other : Table) (botId : BotId)
    (ledger : Ledger) (fill : Fill) (env : WriteEnv) :
    (store.recordAndPersist table botId ledger fill env).2.2 =
      (store.recordAndPersist other botId ledger fill env).2.2 := by
  unfold recordAndPersist
  rcases ledger.recordFill fill with ⟨after, error | -⟩
  · rfl
  · cases env.saveFails <;> rfl

/-! ### The key families are disjoint -/

theorem snapshotPk_inj {left right : BotId} : snapshotPk left = snapshotPk right ↔ left = right := by
  unfold snapshotPk
  rw [← String.toList_inj, String.toList_append, String.toList_append, List.append_cancel_left_eq,
    String.toList_inj]

theorem snapshotPk_not_event (botId other : BotId) :
    beginsWith (snapshotPk botId) (eventPrefix other) = false := by
  have atPrefix : (eventPrefix other).toList[6]? = some '_' := by simp [eventPrefix]
  have atPk : (snapshotPk botId).toList[6]? = some '#' := by simp [snapshotPk]
  exact not_beginsWith_of_get atPrefix atPk (by decide)

theorem eventPk_begins (botId : BotId) (ts : Nat) (suffix : String) :
    beginsWith (eventPk botId ts suffix) (eventPrefix botId) = true := by
  rw [beginsWith_iff]
  unfold eventPk eventPrefix
  rw [String.toList_append (s := "LEDGER_EVENT#" ++ botId ++ "#")]
  exact List.prefix_append _ _

theorem snapshotPk_ne_eventPk (botId other : BotId) (ts : Nat) (suffix : String) :
    snapshotPk botId ≠ eventPk other ts suffix := by
  intro same
  have apart := snapshotPk_not_event botId other
  rw [same, eventPk_begins] at apart
  exact absurd apart (by simp)

theorem snapshotPk_get (botId : BotId) : (snapshotPk botId).toList[0]? = some 'L' := by
  simp [snapshotPk]

theorem eventPk_get (botId : BotId) (ts : Nat) (suffix : String) :
    (eventPk botId ts suffix).toList[0]? = some 'L' := by
  simp [eventPk]

/-- An event key is found under the prefix of its own bot only. -/
theorem eventPk_begins_iff {botId other : BotId} (free : FreeOf '#' botId)
    (otherFree : FreeOf '#' other) (ts : Nat) (suffix : String) :
    beginsWith (eventPk botId ts suffix) (eventPrefix other) = true ↔ other = botId :=
  beginsWith_delimited (by decide) otherFree free

/-! ### What each write changes -/

theorem loadSnapshot_saveSnapshot_self (table : Table) (botId : BotId) (ledger : Ledger)
    (updatedAt : Int) :
    loadSnapshot (saveSnapshot table botId ledger updatedAt) botId =
      .ok (some ledger.modelValidate) := by
  unfold loadSnapshot saveSnapshot
  rw [Table.getItem_putItem_self]
  rfl

theorem loadSnapshot_saveSnapshot_of_ne (table : Table) {botId other : BotId} (ledger : Ledger)
    (updatedAt : Int) (different : other ≠ botId) :
    loadSnapshot (saveSnapshot table botId ledger updatedAt) other = loadSnapshot table other := by
  have keys : snapshotPk other ≠ snapshotPk botId := fun same => different (snapshotPk_inj.mp same)
  unfold loadSnapshot saveSnapshot
  rw [Table.getItem_putItem_of_ne _ _ keys]

theorem loadSnapshot_appendEvent (store : LedgerStore) (table : Table) (botId other : BotId)
    (fill : Fill) (ts : Nat) (suffix : String) :
    loadSnapshot (store.appendEvent table botId fill ts suffix) other = loadSnapshot table other := by
  unfold loadSnapshot appendEvent
  rw [Table.getItem_putItem_of_ne _ _ (snapshotPk_ne_eventPk other botId ts suffix)]

/-- Persisting a fill writes rows of its bot only. -/
theorem getItem_recordAndPersist {pk : String} {store : LedgerStore} (table : Table)
    {botId : BotId} (ledger : Ledger) (fill : Fill) (env : WriteEnv)
    (notSnapshot : pk ≠ snapshotPk botId)
    (notEvent : pk ≠ eventPk botId env.eventAt env.suffix) :
    (store.recordAndPersist table botId ledger fill env).2.1.getItem pk = table.getItem pk := by
  have logged : ∀ failure : Option PyError, (match failure with
      | none => store.appendEvent table botId fill env.eventAt env.suffix
      | some _ => table).getItem pk = table.getItem pk := by
    rintro (- | failure)
    · exact Table.getItem_putItem_of_ne table _ notEvent
    · rfl
  unfold recordAndPersist
  rcases ledger.recordFill fill with ⟨after, error | -⟩
  · rfl
  · cases env.saveFails with
    | some error => exact logged env.appendFails
    | none =>
        exact (Table.getItem_putItem_of_ne _ _ notSnapshot).trans (logged env.appendFails)

theorem eventRows_saveSnapshot (table : Table) (botId other : BotId) (ledger : Ledger)
    (updatedAt : Int) :
    eventRows (saveSnapshot table botId ledger updatedAt) other = eventRows table other :=
  Table.scanPrefix_putItem_of_not table _ (snapshotPk_not_event botId other)

theorem eventRows_appendEvent_of_ne (store : LedgerStore) (table : Table) {botId other : BotId}
    (fill : Fill) (ts : Nat) (suffix : String) (free : FreeOf '#' botId)
    (otherFree : FreeOf '#' other) (different : other ≠ botId) :
    eventRows (store.appendEvent table botId fill ts suffix) other = eventRows table other := by
  refine Table.scanPrefix_putItem_of_not table _ ?_
  rw [← Bool.not_eq_true, eventPk_begins_iff free otherFree]
  exact different

/-- The row `appendEvent` writes. -/
def eventRow (store : LedgerStore) (botId : BotId) (fill : Fill) (ts : Nat) (suffix : String) :
    String × Item :=
  (eventPk botId ts suffix,
    [("bot_id", .text botId), ("event_type", .text "fill"), ("ts", .number ts),
      ("ttl", .number (ts + store.eventRetentionDays * 86400)), ("fill_json", .fillJson fill)])

theorem eventRows_appendEvent_fresh (store : LedgerStore) (table : Table) (botId : BotId)
    (fill : Fill) (ts : Nat) (suffix : String)
    (fresh : table.getItem (eventPk botId ts suffix) = none) :
    eventRows (store.appendEvent table botId fill ts suffix) botId =
      eventRows table botId ++ [store.eventRow botId fill ts suffix] :=
  Table.scanPrefix_putItem_fresh table _ (eventPk_begins botId ts suffix) fresh

/-- A row is the written one or was there before. -/
theorem mem_eventRows_appendEvent {store : LedgerStore} {table : Table} {botId other : BotId}
    {fill : Fill} {ts : Nat} {suffix : String} {row : String × Item}
    (member : row ∈ eventRows (store.appendEvent table botId fill ts suffix) other) :
    row = store.eventRow botId fill ts suffix ∨ row ∈ eventRows table other := by
  obtain ⟨found, begins⟩ := Table.mem_scanPrefix_iff.mp member
  unfold appendEvent at found
  by_cases same : row.1 = eventPk botId ts suffix
  · rw [same, Table.getItem_putItem_self, Option.some.injEq] at found
    exact Or.inl (Prod.ext same found.symm)
  · rw [Table.getItem_putItem_of_ne _ _ same] at found
    exact Or.inr (Table.mem_scanPrefix_iff.mpr ⟨found, begins⟩)

theorem length_eventRows_appendEvent_present (store : LedgerStore) (table : Table)
    (botId : BotId) (fill : Fill) (ts : Nat) (suffix : String)
    (present : table.getItem (eventPk botId ts suffix) ≠ none) :
    (eventRows (store.appendEvent table botId fill ts suffix) botId).length =
      (eventRows table botId).length :=
  Table.length_scanPrefix_putItem_present table _ _ present

end LedgerStore

end TradingStrands
