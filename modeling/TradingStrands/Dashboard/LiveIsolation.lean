import TradingStrands.Dashboard.Live

/-!
Owns what the live endpoints tell a caller about other organisations. Two runs
of the system that agree on the caller's own organisations and on what belongs
to the platform are told apart exactly by what was published of the other
organisations: the ledgers in the snapshot, their events among the newest fifty,
and their halts among the newest transitions.
-/

namespace TradingStrands.LiveIsolation

open TradingStrands.Foundation TableProgram StatePublisher

/-! ### Runs -/

/-- The writes between requests: the desk publishes, someone halts or resumes, or
another row than that of the snapshot changes. -/
inductive LiveWrite
  | publishSnapshot (snapshot : Snapshot)
  | publishEvent (event : Event)
  | setOrgHalt (stamp : HaltStore.Stamp) (orgId : OrgId) (halted : Bool) (reason : String)
  | setSystemHalt (stamp : HaltStore.Stamp) (halted : Bool) (reason : String)
  | elsewhere (op : TableOp) (apart : op.target? ≠ some snapshotPk)

def step (str : Decimal → String) (table : Table) : LiveWrite → Table
  | .publishSnapshot snapshot => publishSnapshot str table snapshot
  | .publishEvent event => publishEvent str table event
  | .setOrgHalt stamp orgId halted reason => HaltStore.setOrgHalt table stamp orgId halted reason
  | .setSystemHalt stamp halted reason => HaltStore.setSystemHalt table stamp halted reason
  | .elsewhere op _ => (op.apply table).2

/-- The snapshot that was published last. -/
def published (last : Option Snapshot) : LiveWrite → Option Snapshot
  | .publishSnapshot snapshot => some snapshot
  | _ => last

/-- A poll of the stream, after the writes since the one before it. -/
structure Poll where
  writes : List LiveWrite := []
  fails : Bool := false

/-- The states that the polls read; nothing where the read fails. -/
def polled {σ : Type} (step : σ → LiveWrite → σ) (state : σ) : List Poll → List (Option σ)
  | [] => []
  | poll :: rest =>
      let next := run step state poll.writes
      (if poll.fails = true then none else some next) :: polled step next rest

/-- A caller's requests: they are made after the first writes, and the stream is
then read for some polls. -/
structure Visit where
  before : List LiveWrite
  polls : List Poll := []

namespace Visit

variable (str : Decimal → String) (visit : Visit)

def table : Table := run (step str) Dict.empty visit.before

def tables : List (Option Table) := polled (step str) (visit.table str) visit.polls

def snapshot : Option Snapshot := run published none visit.before

def snapshots : List (Option (Option Snapshot)) := polled published visit.snapshot visit.polls

end Visit

/-! ### The row of the snapshot -/

def snapshotRow (table : Table) : Option RowJson :=
  (table.getItem snapshotPk).map fun item => .ofRow (snapshotPk, item)

/-- The row a snapshot is published to. -/
def rowOf (str : Decimal → String) (snapshot : Snapshot) : RowJson :=
  .ofRow (snapshotPk, snapshot.item str)

/-- What the row of a snapshot tells about a bot. -/
def ledgerOf (row : RowJson) (bot : BotId) : Option RowJson := (row.get? "ledgers").bind (·.get? bot)

/-- What is published about a bot. -/
def ledgerJson (str : Decimal → String) (snapshot : Snapshot) (bot : BotId) : Option RowJson :=
  (snapshot.ledgers.get? bot).map fun ledger => .ofAttr (ledgerData str ledger)

section Row

variable {str : Decimal → String}

theorem ofFields_map {α : Type} (value : α → Attr) (entries : List (String × α)) (name : String) :
    RowJson.ofFields (entries.map fun entry => (entry.1, value entry.2)) name =
      ((entries.find? fun entry => entry.1 = name).map Prod.snd).map fun content =>
        .ofAttr (value content) := by
  induction entries with
  | nil => rfl
  | cons entry rest inductionHypothesis =>
      rw [List.map_cons, RowJson.ofFields]
      by_cases same : entry.1 = name
      · simp [same]
      · simp [same, inductionHypothesis]

theorem attr?_ledgers (snapshot : Snapshot) :
    (snapshot.item str).attr? "ledgers" = some (.map (snapshot.ledgers.entries.map fun entry =>
      (entry.1, ledgerData str entry.2))) := rfl

theorem get?_ledgers (snapshot : Snapshot) :
    (rowOf str snapshot).get? "ledgers" = some (.object (ledgerJson str snapshot)) := by
  unfold rowOf
  rw [RowJson.get?_ofRow _ (by decide), attr?_ledgers, Option.map_some, RowJson.ofAttr_map]
  refine congrArg some (RowJson.object_ext_iff.mpr fun bot => ?_)
  exact ofFields_map (ledgerData str) snapshot.ledgers.entries bot

theorem ledgerOf_rowOf (snapshot : Snapshot) (bot : BotId) :
    ledgerOf (rowOf str snapshot) bot = ledgerJson str snapshot bot := by
  unfold ledgerOf
  rw [get?_ledgers]
  rfl

theorem attr?_tick (snapshot : Snapshot) :
    (snapshot.item str).attr? "tick" = some (.number snapshot.tick) := rfl

/-- Two rows that agree outside the ledgers are the same if every ledger is. -/
theorem rowOf_eq_iff {left right : Snapshot}
    (platform : ∀ name, name ≠ "ledgers" →
      (rowOf str left).get? name = (rowOf str right).get? name) :
    rowOf str left = rowOf str right ↔
      ∀ bot, ledgerJson str left bot = ledgerJson str right bot := by
  constructor
  · intro same bot
    rw [← ledgerOf_rowOf, ← ledgerOf_rowOf, same]
  · intro same
    have members : ∀ name, (rowOf str left).get? name = (rowOf str right).get? name := by
      intro name
      by_cases ledgers : name = "ledgers"
      · rw [ledgers, get?_ledgers, get?_ledgers]
        exact congrArg some (RowJson.object_ext_iff.mpr same)
      · exact platform name ledgers
    exact RowJson.object_ext_iff.mpr members

/-- What is published about a bot holds texts only. -/
theorem dumps_ledgerData (ledger : Ledger) :
    (RowJson.ofAttr (ledgerData str ledger)).dumps = .ofAttr (ledgerData str ledger) := by
  have positions : (RowJson.ofAttr (.list (serializePositions str ledger))).dumps =
      .ofAttr (.list (serializePositions str ledger)) := by
    refine RowJson.dumps_ofAttr_list fun item member => ?_
    obtain ⟨position, -, rfl⟩ := List.mem_map.mp member
    refine RowJson.dumps_ofAttr_map ?_
    simp [RowJson.ofAttr, RowJson.dumps]
  refine RowJson.dumps_ofAttr_map ?_
  simp only [List.forall_mem_cons, List.not_mem_nil, false_imp_iff, implies_true, and_true]
  exact ⟨rfl, rfl, rfl, rfl, positions⟩

theorem ledgerOf_dumps (row : RowJson) (bot : BotId) :
    ledgerOf row.dumps bot = (ledgerOf row bot).map RowJson.dumps := by
  unfold ledgerOf
  rw [RowJson.get?_dumps]
  cases row.get? "ledgers" with
  | none => rfl
  | some ledgers => exact RowJson.get?_dumps ledgers bot

theorem map_dumps_ledgerJson (snapshot : Snapshot) (bot : BotId) :
    (ledgerJson str snapshot bot).map RowJson.dumps = ledgerJson str snapshot bot := by
  unfold ledgerJson
  cases snapshot.ledgers.get? bot with
  | none => rfl
  | some ledger => exact congrArg some (dumps_ledgerData ledger)

/-- The stream tells two rows apart exactly where the snapshot endpoint does. -/
theorem dumps_rowOf_eq_iff {left right : Snapshot}
    (platform : ∀ name, name ≠ "ledgers" →
      (rowOf str left).get? name = (rowOf str right).get? name) :
    (rowOf str left).dumps = (rowOf str right).dumps ↔ rowOf str left = rowOf str right := by
  constructor
  · intro same
    rw [rowOf_eq_iff platform]
    intro bot
    have dumped := congrArg (ledgerOf · bot) same
    rwa [ledgerOf_dumps, ledgerOf_dumps, ledgerOf_rowOf, ledgerOf_rowOf, map_dumps_ledgerJson,
      map_dumps_ledgerJson] at dumped
  · exact congrArg RowJson.dumps

end Row

/-! ### The row holds what was published last -/

section Refinement

variable {str : Decimal → String}

/-- The table holds the snapshot that was published last. -/
def Holds (str : Decimal → String) (table : Table) (last : Option Snapshot) : Prop :=
  table.getItem snapshotPk = last.map (Snapshot.item str)

private theorem snapshotPk_get : snapshotPk.toList[0]? = some 'S' := rfl

theorem getItem_recordTransition (table : Table) (stamp : HaltStore.Stamp) (scope : String)
    (halted : Bool) (orgId : Option OrgId) (reason : String) :
    (HaltStore.recordTransition table stamp scope halted orgId reason).getItem snapshotPk =
      table.getItem snapshotPk := by
  have apart : ∀ rest, snapshotPk ≠ HaltStore.haltEventPkPrefix ++ rest := by
    intro rest
    have first : (HaltStore.haltEventPkPrefix ++ rest).toList[0]? = some 'H' := by
      simp [HaltStore.haltEventPkPrefix]
    exact ne_of_get 0 snapshotPk_get first (by decide)
  exact HaltStore.getItem_recordTransition apart table stamp scope halted orgId reason

theorem holds_step {table : Table} {last : Option Snapshot} (write : LiveWrite)
    (holds : Holds str table last) : Holds str (step str table write) (published last write) := by
  unfold Holds at holds ⊢
  cases write with
  | publishSnapshot snapshot => exact Table.getItem_putItem_self _ _ _
  | publishEvent event =>
      have first : event.pk.toList[0]? = some 'E' := by simp [Event.pk, eventPkPrefix]
      have apart : snapshotPk ≠ event.pk := ne_of_get 0 snapshotPk_get first (by decide)
      exact (Table.getItem_putItem_of_ne table _ apart).trans holds
  | setOrgHalt stamp orgId halted reason =>
      have apart : snapshotPk ≠ HaltStore.orgHaltPk orgId :=
        (HaltStore.orgHaltPk_ne_of_get snapshotPk_get (by decide) orgId).symm
      unfold step HaltStore.setOrgHalt
      dsimp only
      split
      · rw [getItem_recordTransition, Table.getItem_putItem_of_ne _ _ apart]
        exact holds
      · rw [Table.getItem_putItem_of_ne _ _ apart]
        exact holds
  | setSystemHalt stamp halted reason =>
      have apart : snapshotPk ≠ HaltStore.systemHaltPk :=
        (HaltStore.systemHaltPk_ne_of_get snapshotPk_get (by decide)).symm
      unfold step HaltStore.setSystemHalt
      dsimp only
      split
      · rw [getItem_recordTransition, Table.getItem_putItem_of_ne _ _ apart]
        exact holds
      · rw [Table.getItem_putItem_of_ne _ _ apart]
        exact holds
  | elsewhere op apart => exact (TableOp.getItem_apply_of_not_target apart table).trans holds

theorem holds_run {table : Table} {last : Option Snapshot} (holds : Holds str table last)
    (writes : List LiveWrite) :
    Holds str (run (step str) table writes) (run published last writes) :=
  run_related _ (fun _ _ write => holds_step write) holds writes

theorem Visit.holds (visit : Visit) : Holds str (visit.table str) visit.snapshot := by
  have initial : Holds str Dict.empty none := rfl
  exact holds_run initial visit.before

theorem Holds.snapshotRow {table : Table} {last : Option Snapshot} (holds : Holds str table last) :
    snapshotRow table = last.map (rowOf str) := by
  unfold LiveIsolation.snapshotRow
  rw [holds, Option.map_map]
  rfl

/-- What each poll reads was published last. -/
theorem holds_polled {table : Table} {last : Option Snapshot} (holds : Holds str table last)
    (polls : List Poll) :
    List.Forall₂ (Option.Rel (Holds str)) (polled (step str) table polls)
      (polled published last polls) := by
  induction polls generalizing table last with
  | nil => exact List.Forall₂.nil
  | cons poll rest inductionHypothesis =>
      have next := holds_run holds poll.writes
      refine List.Forall₂.cons ?_ (inductionHypothesis next)
      split
      · exact Option.Rel.none
      · exact Option.Rel.some next

end Refinement

/-! ### What belongs to the caller -/

section Ownership

variable (owner : BotId → Option OrgId) (principal : Principal)

/-- What has no organisation belongs to the platform, which everyone may see. -/
def ownOrg : Option OrgId → Bool
  | none => true
  | some orgId => (principal.memberships.get? orgId).isSome

/-- The bots of the caller's organisations; `owner` is the organisation of the
strategy a bot runs. -/
def ownBot (bot : BotId) : Bool := ownOrg principal (owner bot)

/-- The bot an event is about. -/
def eventBot (event : RowJson) : Option BotId :=
  ((event.get? "data").bind (·.get? "bot_id")).bind RowJson.text?

def ownEvent (event : RowJson) : Bool :=
  match eventBot event with
  | none => true
  | some bot => ownBot owner principal bot

def ownHalt (event : HaltStore.HaltEvent) : Bool := ownOrg principal event.orgId

end Ownership

def eventTime (event : RowJson) : Int := ((event.get? "timestamp").map RowJson.toInt).getD 0

def eventsOf (table : Table) : List RowJson := (table.scanPrefix eventPkPrefix).map RowJson.ofRow

def haltsOf (table : Table) : List HaltStore.HaltEvent :=
  (table.scanPrefix HaltStore.haltEventPkPrefix).map fun row => HaltStore.eventOf row.2

/-- Two rows of snapshots agree outside the ledgers and on the caller's own. -/
structure SameRow (own : BotId → Bool) (left right : RowJson) : Prop where
  platform : ∀ name, name ≠ "ledgers" → left.get? name = right.get? name
  ledgers : ∀ bot, own bot = true → ledgerOf left bot = ledgerOf right bot

/-- Two tables agree on the snapshot as far as it is the caller's or the
platform's. -/
def SameSnapshot (own : BotId → Bool) (left right : Table) : Prop :=
  Option.Rel (SameRow own) (snapshotRow left) (snapshotRow right)

/-- What two runs have in common that agree on everything that belongs to the
caller's organisations or to the platform. -/
structure SameView (str : Decimal → String) (owner : BotId → Option OrgId)
    (session : Option Session) (principal : Principal) (left right : Visit) : Prop where
  leftCaller : (runAlone (Dashboard.getPrincipal session) (left.table str)).1 = .ok principal
  rightCaller : (runAlone (Dashboard.getPrincipal session) (right.table str)).1 = .ok principal
  snapshot : SameSnapshot (ownBot owner principal) (left.table str) (right.table str)
  polls : List.Forall₂ (Option.Rel (SameSnapshot (ownBot owner principal)))
    (left.tables str) (right.tables str)
  events : (eventsOf (left.table str)).filter (ownEvent owner principal) =
    (eventsOf (right.table str)).filter (ownEvent owner principal)
  halts : (haltsOf (left.table str)).filter (ownHalt principal) =
    (haltsOf (right.table str)).filter (ownHalt principal)

/-- The four endpoints answer both runs alike. -/
structure SameResponses (str : Decimal → String) (session : Option Session) (limit : Int)
    (left right : Visit) : Prop where
  snapshot : (runAlone (Dashboard.snapshot session) (left.table str)).1 =
    (runAlone (Dashboard.snapshot session) (right.table str)).1
  events : (runAlone (Dashboard.events session) (left.table str)).1 =
    (runAlone (Dashboard.events session) (right.table str)).1
  stream : (runAlone (Dashboard.stream session (left.tables str)) (left.table str)).1 =
    (runAlone (Dashboard.stream session (right.tables str)) (right.table str)).1
  haltEvents : (runAlone (Dashboard.getHaltEvents session limit) (left.table str)).1 =
    (runAlone (Dashboard.getHaltEvents session limit) (right.table str)).1

/-! ### What tells two runs apart -/

/-- The ledgers of the other organisations were published alike. -/
def SameOthers (str : Decimal → String) (own : BotId → Bool) (left right : Snapshot) : Prop :=
  ∀ bot, own bot = false → ledgerJson str left bot = ledgerJson str right bot

/-- The ledgers of the other organisations agree wherever a poll finds another
tick than the last one did. -/
def StreamAgrees (str : Decimal → String) (own : BotId → Bool) :
    Int → List (Option (Option Snapshot)) → List (Option (Option Snapshot)) → Prop
  | last, some (some left) :: lefts, some (some right) :: rights =>
      (left.tick ≠ last → SameOthers str own left right) ∧
        StreamAgrees str own left.tick lefts rights
  | last, _ :: lefts, _ :: rights => StreamAgrees str own last lefts rights
  | _, _, _ => True

/-- What the two runs show of other organisations is the same: their ledgers when
the caller asks and when the stream moves on, and their places among the newest
events and halts. -/
structure SameForeign (str : Decimal → String) (owner : BotId → Option OrgId)
    (principal : Principal) (limit : Int) (left right : Visit) : Prop where
  ledgers : ∀ last other, left.snapshot = some last → right.snapshot = some other →
    SameOthers str (ownBot owner principal) last other
  polls : StreamAgrees str (ownBot owner principal) (-1) left.snapshots right.snapshots
  events : hidden (ownEvent owner principal) (newest eventTime 50 (eventsOf (left.table str))) =
    hidden (ownEvent owner principal) (newest eventTime 50 (eventsOf (right.table str)))
  halts : 1 ≤ limit → limit ≤ 200 →
    hidden (ownHalt principal)
        (newest HaltStore.HaltEvent.ts limit.toNat (haltsOf (left.table str))) =
      hidden (ownHalt principal)
        (newest HaltStore.HaltEvent.ts limit.toNat (haltsOf (right.table str)))

/-! ### The endpoints -/

section Endpoints

variable {str : Decimal → String} {own : BotId → Bool} {session : Option Session}
  {principal : Principal} {table : Table}

theorem runAlone_snapshot
    (loads : (runAlone (Dashboard.getPrincipal session) table).1 = .ok principal) :
    (runAlone (Dashboard.snapshot session) table).1 =
      .ok ((snapshotRow table).getD Dashboard.noSnapshot) := by
  unfold Dashboard.snapshot snapshotRow
  rw [(Dashboard.getPrincipal_reads session).runAlone_bind, loads]
  dsimp only
  rw [runAlone_bind, runAlone_getItem]
  dsimp only
  cases table.getItem snapshotPk <;> rfl

theorem newestEvents_eq (rows : List (String × Item)) :
    Dashboard.newestEvents rows = newest eventTime 50 (rows.map RowJson.ofRow) := by
  have time : ∀ row : String × Item,
      ((row.2.attr? "timestamp").map Attr.toInt).getD 0 = eventTime (RowJson.ofRow row) := by
    intro row
    unfold eventTime
    rw [RowJson.get?_ofRow row (by decide), Option.map_map]
    cases row.2.attr? "timestamp" with
    | none => rfl
    | some value => exact (RowJson.toInt_ofAttr value).symm
  unfold Dashboard.newestEvents
  rw [funext time]
  exact map_newest eventTime RowJson.ofRow 50 rows

theorem runAlone_events
    (loads : (runAlone (Dashboard.getPrincipal session) table).1 = .ok principal) :
    (runAlone (Dashboard.events session) table).1 = .ok (newest eventTime 50 (eventsOf table)) := by
  unfold Dashboard.events eventsOf
  rw [(Dashboard.getPrincipal_reads session).runAlone_bind, loads]
  dsimp only
  rw [runAlone_bind, runAlone_scanPrefix, ← newestEvents_eq]
  rfl

theorem runAlone_stream (polls : List (Option Table))
    (loads : (runAlone (Dashboard.getPrincipal session) table).1 = .ok principal) :
    (runAlone (Dashboard.stream session polls) table).1 =
      .ok (some (.ofAttr (.map [("connected", .bool true)])) ::
        Dashboard.eventGenerator (.number (-1)) polls) := by
  unfold Dashboard.stream
  rw [(Dashboard.getPrincipal_reads session).runAlone_bind, loads]
  rfl

theorem runAlone_getHaltEvents (limit : Int)
    (loads : (runAlone (Dashboard.getPrincipal session) table).1 = .ok principal) :
    (runAlone (Dashboard.getHaltEvents session limit) table).1 =
      if limit ≤ 0 ∨ 200 < limit then
        .error (.http ⟨400, "limit must be between 1 and 200"⟩)
      else .ok (newest HaltStore.HaltEvent.ts limit.toNat (haltsOf table)) := by
  unfold Dashboard.getHaltEvents haltsOf
  rw [(Dashboard.getPrincipal_reads session).runAlone_bind, loads]
  dsimp only
  by_cases outside : limit ≤ 0 ∨ 200 < limit
  · rw [if_pos outside, if_pos outside]
    rfl
  · rw [if_neg outside, if_neg outside, ← map_newest HaltStore.HaltEvent.ts]
    rfl

/-- Where two snapshots agree on what is the caller's or the platform's, their
rows are the same if the other ledgers are. -/
theorem rowOf_eq_iff_sameOthers {left right : Snapshot}
    (same : SameRow own (rowOf str left) (rowOf str right)) :
    rowOf str left = rowOf str right ↔ SameOthers str own left right := by
  rw [rowOf_eq_iff same.platform]
  constructor
  · exact fun all bot _ => all bot
  · intro others bot
    cases mine : own bot with
    | false => exact others bot mine
    | true =>
        have shared := same.ledgers bot mine
        rwa [ledgerOf_rowOf, ledgerOf_rowOf] at shared

end Endpoints

/-! ### The stream -/

section Stream

variable {str : Decimal → String} {own : BotId → Bool} {left right : Table}
  {lastLeft lastRight : Option Snapshot}

theorem pollSnapshot_of_holds {table : Table} {snapshot : Snapshot}
    (holds : Holds str table (some snapshot)) (last : Int) :
    Dashboard.pollSnapshot (.number last) table =
      (if snapshot.tick ≠ last then some (rowOf str snapshot).dumps else none,
        .number snapshot.tick) := by
  have stored : table.getItem snapshotPk = some (snapshot.item str) := holds
  unfold Dashboard.pollSnapshot
  rw [stored]
  dsimp only
  rw [attr?_tick, Option.getD_some]
  by_cases moved : snapshot.tick = last
  · simp [moved]
  · simp [moved, rowOf]

theorem pollSnapshot_of_holds_none {table : Table} (holds : Holds str table none) (last : Int) :
    Dashboard.pollSnapshot (.number last) table =
      (some (.ofAttr (.map [("heartbeat", .bool true)])), .number last) := by
  have missing : table.getItem snapshotPk = none := holds
  unfold Dashboard.pollSnapshot
  rw [missing]

/-- The tick of a snapshot belongs to the platform. -/
theorem SameRow.tick_eq {left right : Snapshot}
    (same : SameRow own (rowOf str left) (rowOf str right)) : left.tick = right.tick := by
  have shared := same.platform "tick" (by decide)
  unfold rowOf at shared
  rw [RowJson.get?_ofRow _ (by decide), RowJson.get?_ofRow _ (by decide), attr?_tick,
    attr?_tick] at shared
  injection shared with scalar
  injection scalar with number
  injection number

/-- A poll that finds a new tick sends the whole row. -/
theorem sent_cons_iff {left right : Snapshot} {last : Int}
    (same : SameRow own (rowOf str left) (rowOf str right)) {lefts rights : List (Option Table)}
    {restLeft restRight : List (Option (Option Snapshot))}
    (later : ∀ last : Int, Dashboard.eventGenerator (.number last) lefts =
      Dashboard.eventGenerator (.number last) rights ↔
        StreamAgrees str own last restLeft restRight) :
    (if left.tick ≠ last then some (rowOf str left).dumps else none) ::
          Dashboard.eventGenerator (.number left.tick) lefts =
        (if right.tick ≠ last then some (rowOf str right).dumps else none) ::
          Dashboard.eventGenerator (.number right.tick) rights ↔
      StreamAgrees str own last (some (some left) :: restLeft) (some (some right) :: restRight) := by
  rw [← same.tick_eq, List.cons.injEq, later]
  refine and_congr_left fun _ => ?_
  by_cases moved : left.tick ≠ last
  · rw [if_pos moved, if_pos moved, Option.some.injEq, dumps_rowOf_eq_iff same.platform,
      rowOf_eq_iff_sameOthers same]
    exact ⟨fun others _ => others, fun all => all moved⟩
  · rw [if_neg moved, if_neg moved]
    exact iff_of_true rfl fun new => absurd new moved

/-- Two polls that agree on what is the caller's or the platform's send the same,
and remember the same tick, exactly if no other ledger tells them apart. -/
theorem eventGenerator_cons_iff {readLeft readRight : Option Table}
    {foundLeft foundRight : Option (Option Snapshot)}
    (holdsLeft : Option.Rel (Holds str) readLeft foundLeft)
    (holdsRight : Option.Rel (Holds str) readRight foundRight)
    (agree : Option.Rel (SameSnapshot own) readLeft readRight)
    {lefts rights : List (Option Table)} {restLeft restRight : List (Option (Option Snapshot))}
    (later : ∀ last : Int, Dashboard.eventGenerator (.number last) lefts =
      Dashboard.eventGenerator (.number last) rights ↔
        StreamAgrees str own last restLeft restRight) (last : Int) :
    Dashboard.eventGenerator (.number last) (readLeft :: lefts) =
        Dashboard.eventGenerator (.number last) (readRight :: rights) ↔
      StreamAgrees str own last (foundLeft :: restLeft) (foundRight :: restRight) := by
  cases agree with
  | none =>
      cases holdsLeft
      cases holdsRight
      change _ :: _ = _ :: _ ↔ StreamAgrees str own last restLeft restRight
      rw [List.cons.injEq, later]
      exact and_iff_right rfl
  | @some left right same =>
      cases holdsLeft with
      | @some _ lastLeft holdsLeft =>
          cases holdsRight with
          | @some _ lastRight holdsRight =>
              unfold SameSnapshot at same
              rw [holdsLeft.snapshotRow, holdsRight.snapshotRow] at same
              unfold Dashboard.eventGenerator
              cases lastLeft with
              | none =>
                  cases lastRight with
                  | some => cases same
                  | none =>
                      rw [pollSnapshot_of_holds_none holdsLeft,
                        pollSnapshot_of_holds_none holdsRight]
                      change _ :: _ = _ :: _ ↔ StreamAgrees str own last restLeft restRight
                      rw [List.cons.injEq, later]
                      exact and_iff_right rfl
              | some snapshot =>
                  cases lastRight with
                  | none => cases same
                  | some other =>
                      cases same with
                      | some row =>
                          rw [pollSnapshot_of_holds holdsLeft, pollSnapshot_of_holds holdsRight]
                          exact sent_cons_iff row later

/-- The streams of two runs are the same exactly if no other ledger tells two of
their polls apart. -/
theorem eventGenerator_eq_iff {lefts rights : List (Option Table)}
    {foundLeft foundRight : List (Option (Option Snapshot))}
    (holdsLeft : List.Forall₂ (Option.Rel (Holds str)) lefts foundLeft)
    (holdsRight : List.Forall₂ (Option.Rel (Holds str)) rights foundRight)
    (agree : List.Forall₂ (Option.Rel (SameSnapshot own)) lefts rights) (last : Int) :
    Dashboard.eventGenerator (.number last) lefts = Dashboard.eventGenerator (.number last) rights ↔
      StreamAgrees str own last foundLeft foundRight := by
  induction agree generalizing foundLeft foundRight last with
  | nil =>
      cases holdsLeft
      cases holdsRight
      exact iff_of_true rfl trivial
  | cons here _ inductionHypothesis =>
      cases holdsLeft with
      | cons headLeft tailLeft =>
          cases holdsRight with
          | cons headRight tailRight =>
              exact eventGenerator_cons_iff headLeft headRight here
                (fun last => inductionHypothesis tailLeft tailRight last) last

end Stream

/-! ### Isolation -/

section Isolation

variable {str : Decimal → String} {owner : BotId → Option OrgId} {session : Option Session}
  {principal : Principal} {left right : Visit}

theorem snapshot_eq_iff (view : SameView str owner session principal left right) :
    (runAlone (Dashboard.snapshot session) (left.table str)).1 =
        (runAlone (Dashboard.snapshot session) (right.table str)).1 ↔
      ∀ last other, left.snapshot = some last → right.snapshot = some other →
        SameOthers str (ownBot owner principal) last other := by
  have same := view.snapshot
  unfold SameSnapshot at same
  rw [runAlone_snapshot view.leftCaller, runAlone_snapshot view.rightCaller, Except.ok.injEq]
  rw [left.holds.snapshotRow, right.holds.snapshotRow] at same ⊢
  generalize left.snapshot = lastLeft at same ⊢
  generalize right.snapshot = lastRight at same ⊢
  cases lastLeft with
  | none =>
      cases lastRight with
      | some => cases same
      | none => exact iff_of_true rfl fun last other found => by cases found
  | some last =>
      cases lastRight with
      | none => cases same
      | some other =>
          cases same with
          | some row =>
              rw [Option.map_some, Option.map_some, Option.getD_some, Option.getD_some,
                rowOf_eq_iff_sameOthers row]
              constructor
              · rintro others _ _ ⟨⟩ ⟨⟩
                exact others
              · exact fun all => all last other rfl rfl

theorem events_eq_iff (view : SameView str owner session principal left right) :
    (runAlone (Dashboard.events session) (left.table str)).1 =
        (runAlone (Dashboard.events session) (right.table str)).1 ↔
      hidden (ownEvent owner principal) (newest eventTime 50 (eventsOf (left.table str))) =
        hidden (ownEvent owner principal) (newest eventTime 50 (eventsOf (right.table str))) := by
  rw [runAlone_events view.leftCaller, runAlone_events view.rightCaller, Except.ok.injEq]
  exact newest_eq_iff view.events 50

theorem stream_eq_iff (view : SameView str owner session principal left right) :
    (runAlone (Dashboard.stream session (left.tables str)) (left.table str)).1 =
        (runAlone (Dashboard.stream session (right.tables str)) (right.table str)).1 ↔
      StreamAgrees str (ownBot owner principal) (-1) left.snapshots right.snapshots := by
  rw [runAlone_stream _ view.leftCaller, runAlone_stream _ view.rightCaller, Except.ok.injEq,
    List.cons.injEq]
  refine (and_iff_right rfl).trans ?_
  exact eventGenerator_eq_iff (holds_polled left.holds left.polls)
    (holds_polled right.holds right.polls) view.polls (-1)

theorem getHaltEvents_eq_iff (view : SameView str owner session principal left right)
    (limit : Int) :
    (runAlone (Dashboard.getHaltEvents session limit) (left.table str)).1 =
        (runAlone (Dashboard.getHaltEvents session limit) (right.table str)).1 ↔
      (1 ≤ limit → limit ≤ 200 →
        hidden (ownHalt principal)
            (newest HaltStore.HaltEvent.ts limit.toNat (haltsOf (left.table str))) =
          hidden (ownHalt principal)
            (newest HaltStore.HaltEvent.ts limit.toNat (haltsOf (right.table str)))) := by
  rw [runAlone_getHaltEvents limit view.leftCaller, runAlone_getHaltEvents limit view.rightCaller]
  by_cases outside : limit ≤ 0 ∨ 200 < limit
  · rw [if_pos outside, if_pos outside]
    exact iff_of_true rfl fun _ _ => by omega
  · rw [if_neg outside, if_neg outside, Except.ok.injEq, newest_eq_iff view.halts]
    exact ⟨fun same _ _ => same, fun all => all (by omega) (by omega)⟩

/-- For two runs that agree on everything of the caller's organisations and of
the platform, the live endpoints answer the caller alike exactly if what they
show of the other organisations is the same. -/
theorem sameResponses_iff_sameForeign (view : SameView str owner session principal left right)
    (limit : Int) :
    SameResponses str session limit left right ↔
      SameForeign str owner principal limit left right := by
  constructor
  · intro same
    exact ⟨(snapshot_eq_iff view).mp same.snapshot, (stream_eq_iff view).mp same.stream,
      (events_eq_iff view).mp same.events, (getHaltEvents_eq_iff view limit).mp same.haltEvents⟩
  · intro foreign
    exact ⟨(snapshot_eq_iff view).mpr foreign.ledgers, (events_eq_iff view).mpr foreign.events,
      (stream_eq_iff view).mpr foreign.polls, (getHaltEvents_eq_iff view limit).mpr foreign.halts⟩

end Isolation

/-! ### Two organisations on one desk -/

theorem attr?_of_ne {front back : Item} {name other : String} (different : other ≠ name)
    {value replaced : Attr} :
    Item.attr? (front ++ (name, value) :: back) other =
      Item.attr? (front ++ (name, replaced) :: back) other := by
  unfold Item.attr?
  rw [List.find?_append, List.find?_append, List.find?_cons_of_neg (by simpa using Ne.symm different),
    List.find?_cons_of_neg (by simpa using Ne.symm different)]

/-- The ledgers are no part of what belongs to the platform. -/
theorem get?_rowOf_of_ledgers {str : Decimal → String} (snapshot : Snapshot)
    (ledgers : Dict BotId Ledger) {name : String} (other : name ≠ "ledgers") :
    (rowOf str { snapshot with ledgers := ledgers }).get? name = (rowOf str snapshot).get? name := by
  by_cases pk : name = "pk"
  · rw [pk]
    rfl
  · unfold rowOf
    rw [RowJson.get?_ofRow _ pk, RowJson.get?_ofRow _ pk]
    exact congrArg (Option.map RowJson.ofAttr) (@attr?_of_ne [_, _, _] _ _ _ other _ _)

/-- Snapshots agree for a caller when only the ledgers of others differ. -/
theorem sameSnapshot_of_published {str : Decimal → String} {own : BotId → Bool}
    {left right : Visit} {last : Snapshot} {ledgers : Dict BotId Ledger}
    (first : left.snapshot = some last)
    (second : right.snapshot = some { last with ledgers := ledgers })
    (shared : ∀ bot, own bot = true → last.ledgers.get? bot = ledgers.get? bot) :
    SameSnapshot own (left.table str) (right.table str) := by
  unfold SameSnapshot
  rw [left.holds.snapshotRow, right.holds.snapshotRow, first, second]
  refine Option.Rel.some ⟨fun name other => (get?_rowOf_of_ledgers last ledgers other).symm, ?_⟩
  intro bot mine
  rw [ledgerOf_rowOf, ledgerOf_rowOf]
  unfold ledgerJson
  rw [shared bot mine]

/-- How whole numbers are rendered. -/
def wholeNumber (value : Decimal) : String := toString value.num

/-- The strategies of two organisations. -/
def ownerOf (bot : BotId) : Option OrgId :=
  if bot = "strategy-a" then some "acme" else if bot = "strategy-b" then some "rival" else none

def viewer : Principal where
  userId := "user"
  email := "u@acme"
  memberships := Dict.empty.set "acme" .viewer

def ledgersWith (capital : Decimal) : Dict BotId Ledger :=
  (Dict.empty.set "strategy-a" (Ledger.ofCapital 500)).set "strategy-b" (Ledger.ofCapital capital)

/-- A snapshot of both organisations; the rival's bot has this capital. -/
def deskWith (capital : Decimal) : Snapshot where
  tick := 1
  timestamp := 0
  prices := []
  ledgers := ledgersWith capital

/-- A viewer of the one organisation asks after these snapshots. -/
def visitAfter (capitals : List Decimal) : Visit where
  before :=
    [.elsewhere (.putItem (TenancyStore.userPk "user") (User.modelDump
        { userId := "user", email := "u@acme", createdAt := 0, updatedAt := 0 })) (by decide),
      .elsewhere (.putItem (TenancyStore.userOrgPk "user" "acme")
        (TenancyStore.membershipItem "user" "acme" .viewer 0)) (by decide)] ++
    capitals.map fun capital => .publishSnapshot (deskWith capital)

theorem ledgersWith_shared (left right : Decimal) {bot : BotId}
    (mine : ownBot ownerOf viewer bot = true) :
    (ledgersWith left).get? bot = (ledgersWith right).get? bot := by
  have apart : bot ≠ "strategy-b" := by
    rintro rfl
    revert mine
    decide
  unfold ledgersWith
  rw [Dict.get?_set_of_ne _ _ apart, Dict.get?_set_of_ne _ _ apart]

/-- The capital of the rival's bot is nothing the viewer shares. -/
theorem sameView_visitAfter :
    SameView wholeNumber ownerOf (some ⟨"user"⟩) viewer (visitAfter [1000]) (visitAfter [2000]) where
  leftCaller := rfl
  rightCaller := rfl
  snapshot := sameSnapshot_of_published rfl rfl fun _ mine => ledgersWith_shared 1000 2000 mine
  polls := List.Forall₂.nil
  events := by
    have rows : ((visitAfter [1000]).table wholeNumber).scanPrefix eventPkPrefix =
      ((visitAfter [2000]).table wholeNumber).scanPrefix eventPkPrefix := by decide +kernel
    unfold eventsOf
    rw [rows]
  halts := by decide +kernel

/-- An earlier capital of the rival's bot is not told. -/
theorem sameResponses_iff_sameForeign_overwritten :
    SameResponses wholeNumber (some ⟨"user"⟩) 50 (visitAfter [1000, 2000]) (visitAfter [2000]) := by
  have rows : ((visitAfter [1000, 2000]).table wholeNumber).scanPrefix eventPkPrefix =
      ((visitAfter [2000]).table wholeNumber).scanPrefix eventPkPrefix := by decide +kernel
  have events : eventsOf ((visitAfter [1000, 2000]).table wholeNumber) =
      eventsOf ((visitAfter [2000]).table wholeNumber) := congrArg (List.map RowJson.ofRow) rows
  have view : SameView wholeNumber ownerOf (some ⟨"user"⟩) viewer (visitAfter [1000, 2000])
      (visitAfter [2000]) :=
    { leftCaller := rfl
      rightCaller := rfl
      snapshot := sameSnapshot_of_published rfl rfl fun _ _ => rfl
      polls := List.Forall₂.nil
      events := congrArg (List.filter _) events
      halts := by decide +kernel }
  refine (sameResponses_iff_sameForeign view 50).mpr ⟨?_, trivial, ?_, fun _ _ => by decide +kernel⟩
  · rintro _ _ ⟨⟩ ⟨⟩ bot -
    rfl
  · rw [events]

/-- The viewer reads the equity of the rival's bot. -/
theorem not_sameResponses_rivalEquity :
    viewer.sysadmin = false ∧
      SameView wholeNumber ownerOf (some ⟨"user"⟩) viewer (visitAfter [1000]) (visitAfter [2000]) ∧
      ¬ SameResponses wholeNumber (some ⟨"user"⟩) 50 (visitAfter [1000]) (visitAfter [2000]) := by
  refine ⟨rfl, sameView_visitAfter, fun same => ?_⟩
  have equities := congrArg (fun answer : Except CallError RowJson =>
    ((answer.toOption.bind fun row => ledgerOf row "strategy-b").bind (·.get? "equity")).bind
      RowJson.text?) same.snapshot
  revert equities
  decide +kernel

end TradingStrands.LiveIsolation
