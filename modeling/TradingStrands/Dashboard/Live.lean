import TradingStrands.Dashboard.Admin
import TradingStrands.Dashboard.Publisher
import TradingStrands.Ddb.RowJson

/-!
Owns the live endpoints: the last snapshot, the newest events, the stream of
snapshots and the newest halt transitions. Each of them authenticates the caller
and then answers from rows that all organisations share.

The stream is answered as far as it was read: one entry for its opening and one
for each poll, which is empty where the poll sends nothing.
-/

namespace TradingStrands.Dashboard

open TradingStrands.Foundation TableProgram

/-- The answer before the first snapshot. -/
def noSnapshot : RowJson :=
  .ofAttr (.map [("tick", .number 0), ("prices", .map []), ("ledgers", .map []), ("risk", .map []),
    ("timestamp", .number 0)])

/-- Any authenticated user can read the snapshot. -/
def snapshot (session : Option Session) : TableProgram RowJson := do
  let _ ← getPrincipal session
  match ← getItem StatePublisher.snapshotPk with
  | none => return noSnapshot
  | some item => return .ofRow (StatePublisher.snapshotPk, item)

/-- The fifty newest of the events in these rows. -/
def newestEvents (rows : List (String × Item)) : List RowJson :=
  (newest (fun row : String × Item => ((row.2.attr? "timestamp").map Attr.toInt).getD 0) 50 rows).map
    .ofRow

def events (session : Option Session) : TableProgram (List RowJson) := do
  let _ ← getPrincipal session
  let rows ← scanPrefix StatePublisher.eventPkPrefix
  return newestEvents rows

/-- What one poll of the stream sends, and the tick it remembers. -/
def pollSnapshot (lastTick : Attr) (table : Table) : Option RowJson × Attr :=
  match table.getItem StatePublisher.snapshotPk with
  | none => (some (.ofAttr (.map [("heartbeat", .bool true)])), lastTick)
  | some item =>
      let tick := (item.attr? "tick").getD (.number 0)
      if tick ≠ lastTick then (some (RowJson.ofRow (StatePublisher.snapshotPk, item)).dumps, tick)
      else (none, lastTick)

/-- The polls of the stream, each with the table it reads; a read can fail. -/
def eventGenerator (lastTick : Attr) : List (Option Table) → List (Option RowJson)
  | [] => []
  | none :: rest =>
      some (.ofAttr (.map [("error", .text "read failed")])) :: eventGenerator lastTick rest
  | some table :: rest =>
      let (sent, tick) := pollSnapshot lastTick table
      sent :: eventGenerator tick rest

def stream (session : Option Session) (polls : List (Option Table)) :
    TableProgram (List (Option RowJson)) := do
  let _ ← getPrincipal session
  return some (.ofAttr (.map [("connected", .bool true)])) :: eventGenerator (.number (-1)) polls

def getHaltEvents (session : Option Session) (limit : Int) :
    TableProgram (List HaltStore.HaltEvent) := do
  let _ ← getPrincipal session
  if limit ≤ 0 ∨ 200 < limit then throw (.http ⟨400, "limit must be between 1 and 200"⟩)
  let rows ← scanPrefix HaltStore.haltEventPkPrefix
  return HaltStore.listEvents limit.toNat rows

end TradingStrands.Dashboard
