import TradingStrands.Halt.Store

/-!
Owns what the state publisher writes for the dashboard: the snapshot of the
whole desk, the events, and the desk halt flag. The flag lives in the row of the
system-wide halt, so a write through the publisher and a system halt set each
other's flag.

The text of a decimal depends on how many digits it carries, so `str` is an
input. Does not own: the strategies the publisher also writes.
-/

namespace TradingStrands.StatePublisher

open TradingStrands.Foundation

/-! ### Snapshots -/

/-- A value handed to the publisher: a decimal, or one the table takes. -/
inductive Published
  | decimal (value : Decimal)
  | plain (value : Attr)

def Published.attr (str : Decimal → String) : Published → Attr
  | .decimal value => .text (str value)
  | .plain value => value

/-- What a snapshot is published from; halted bots come in the order their set is
listed in, and telemetry with its floats as the table takes them. -/
structure Snapshot where
  tick : Int
  timestamp : Int
  prices : List (Symbol × Decimal)
  ledgers : Dict BotId Ledger
  deskHalted : Bool := false
  haltedBots : List BotId := []
  whatifSummary : Option (List (String × Published)) := none
  telemetry : Option Attr := none
  agents : Option (List Attr) := none

def serializePositions (str : Decimal → String) (ledger : Ledger) : List Attr :=
  ledger.openPositions.map fun position =>
    .map [("symbol", .text position.symbol), ("quantity", .text (str position.quantity)),
      ("burdened_cost_basis", .text (str position.burdenedCostBasis))]

/-- What is published of one ledger. -/
def ledgerData (str : Decimal → String) (ledger : Ledger) : Attr :=
  .map [("equity", .text (str ledger.equity)), ("realized_pnl", .text (str ledger.realizedPnl)),
    ("drawdown_pct", .text (str ledger.drawdownPct)),
    ("high_water_mark", .text (str ledger.highWaterMark)),
    ("positions", .list (serializePositions str ledger))]

def snapshotPk : String := "SNAPSHOT"

/-- The row of a snapshot. -/
def Snapshot.item (str : Decimal → String) (snapshot : Snapshot) : Item :=
  [("tick", .number snapshot.tick), ("timestamp", .number snapshot.timestamp),
    ("prices", .map (snapshot.prices.map fun price => (price.1, .text (str price.2)))),
    ("ledgers", .map (snapshot.ledgers.entries.map fun entry => (entry.1, ledgerData str entry.2))),
    ("risk", .map [("desk_halted", .bool snapshot.deskHalted),
      ("halted_bots", .list (snapshot.haltedBots.map .text))])] ++
    (match snapshot.whatifSummary with
      | none => []
      | some summary => [("whatif", .map (summary.map fun field => (field.1, field.2.attr str)))]) ++
    (match snapshot.telemetry with
      | none => []
      | some telemetry => [("telemetry", telemetry)]) ++
    match snapshot.agents with
    | none => []
    | some agents => [("agents", .list agents)]

/-- Write the snapshot over the previous one. -/
def publishSnapshot (str : Decimal → String) (table : Table) (snapshot : Snapshot) : Table :=
  table.putItem snapshotPk (snapshot.item str)

/-! ### Events -/

def eventPkPrefix : String := "EVENT" ++ "#"

/-- What an event is published from, with its clock read and the identity of its
data, which together make its key. -/
structure Event where
  eventType : String
  data : List (String × Published)
  timestamp : Nat
  identity : Nat

def Event.pk (event : Event) : String :=
  eventPkPrefix ++ (toString event.timestamp ++ "-" ++ toString event.identity)

/-- The row of an event, which expires after a day. -/
def Event.item (str : Decimal → String) (event : Event) : Item :=
  [("event_type", .text event.eventType), ("timestamp", .number event.timestamp),
    ("ttl", .number (event.timestamp + 86400)),
    ("data", .map (event.data.map fun field => (field.1, field.2.attr str)))]

def publishEvent (str : Decimal → String) (table : Table) (event : Event) : Table :=
  table.putItem event.pk (event.item str)

/-! ### The halt flag -/

/-- Write the system-wide desk halt flag. -/
def setHalt (table : Table) (halted : Bool) (reason : String) (updatedAt : Int) : Table :=
  table.putItem "CONTROL"
    [("desk_halted", .bool halted), ("halt_reason", .text reason), ("updated_at", .number updatedAt)]

/-- Read the system-wide halt flag. -/
def getHalt (table : Table) : Bool :=
  match table.getItem "CONTROL" with
  | none => false
  | some item => ((item.attr? "desk_halted").map Attr.truthy).getD false

/-- The publisher reads the flag of the halt store. -/
theorem getHalt_eq_isSystemHalted (table : Table) :
    getHalt table = HaltStore.isSystemHalted table := by
  unfold getHalt HaltStore.isSystemHalted HaltStore.getSystemState HaltStore.systemHaltPk
  cases table.getItem "CONTROL" <;> rfl

@[simp] theorem getHalt_setHalt (table : Table) (halted : Bool) (reason : String)
    (updatedAt : Int) : getHalt (setHalt table halted reason updatedAt) = halted := by
  unfold getHalt setHalt
  rw [Table.getItem_putItem_self]
  rfl

end TradingStrands.StatePublisher
