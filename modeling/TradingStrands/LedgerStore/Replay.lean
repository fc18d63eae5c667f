import TradingStrands.Foundation.Runs
import TradingStrands.LedgerStore.Store
import Mathlib.Data.List.Induction
import Mathlib.Data.List.Perm.Subperm
import Mathlib.Data.Set.List

/-!
Owns the replay of a bot's event log. The log orders events by second and then
by key, whose last part is random, and an event whose key is already there
replaces the earlier one. So the log reads back as the sequence of fills it
recorded exactly when its keys are distinct and order the fills as they were
recorded (`InOrder`), and only then does the replay give the ledger in memory.

Does not own: expiry of events.
-/

namespace TradingStrands.LedgerStore

open TradingStrands.Foundation

/-! ### Applying fills to a fresh ledger -/

/-- Apply fills in order; the first one that cannot be booked raises. -/
def replayFills (ledger : Ledger) : List Fill → Except PyError Ledger
  | [] => .ok ledger
  | fill :: rest =>
      match ledger.recordFill fill with
      | (_, .error error) => .error error
      | (booked, .ok ()) => replayFills booked rest

/-- The fill an event row stores. -/
def storedFill (row : String × Item) : Option Fill :=
  match row.2.attr? "fill_json" with
  | some (.fillJson fill) => some fill
  | _ => none

/-- Apply the stored fills of event rows in order. -/
def replayRows (ledger : Ledger) : List (String × Item) → Except PyError Ledger
  | [] => .ok ledger
  | row :: rest =>
      match storedFill row with
      | none => .error (.valueError [.text "fill_json does not hold a fill"])
      | some fill =>
          match ledger.recordFill fill with
          | (_, .error error) => .error error
          | (booked, .ok ()) => replayRows booked rest

theorem replayFills_append {ledger middle : Ledger} {left : List Fill}
    (replayed : replayFills ledger left = .ok middle) (right : List Fill) :
    replayFills ledger (left ++ right) = replayFills middle right := by
  induction left generalizing ledger with
  | nil => rw [List.nil_append, Except.ok.inj replayed]
  | cons fill rest inductionHypothesis =>
      simp only [List.cons_append, replayFills] at replayed ⊢
      rcases recorded : ledger.recordFill fill with ⟨booked, error | ⟨⟩⟩
      · simp [recorded] at replayed
      · simp only [recorded] at replayed ⊢
        exact inductionHypothesis replayed

theorem replayFills_singleton {ledger : Ledger} {fill : Fill}
    (booked : (ledger.recordFill fill).2 = .ok ()) :
    replayFills ledger [fill] = .ok (ledger.recordFill fill).1 := by
  unfold replayFills
  rw [← Prod.mk.eta (p := ledger.recordFill fill), booked]
  rfl

/-- A replay extends the order history by exactly what it applied. -/
theorem orderHistory_replayFills {ledger after : Ledger} {fills : List Fill}
    (replayed : replayFills ledger fills = .ok after) :
    after.orderHistory = ledger.orderHistory ++ fills := by
  induction fills generalizing ledger with
  | nil => rw [← Except.ok.inj replayed, List.append_nil]
  | cons fill rest inductionHypothesis =>
      have extended := ledger.orderHistory_recordFill fill
      unfold replayFills at replayed
      rcases recorded : ledger.recordFill fill with ⟨booked, error | ⟨⟩⟩
      · simp [recorded] at replayed
      · simp only [recorded] at replayed extended
        rw [inductionHypothesis replayed, extended, List.append_assoc]
        rfl

/-! ### Sequences of `recordAndPersist` -/

/-- One call of `recordAndPersist`. -/
structure Recording where
  botId : BotId
  fill : Fill
  write : WriteEnv := {}
deriving DecidableEq

namespace Recording

def pk (recording : Recording) : String :=
  eventPk recording.botId recording.write.eventAt recording.write.suffix

/-- The row the call writes. -/
def row (store : LedgerStore) (recording : Recording) : String × Item :=
  store.eventRow recording.botId recording.fill recording.write.eventAt recording.write.suffix

/-- By second, then by key. -/
def key (recording : Recording) : Int ×ₗ String :=
  toLex ((recording.write.eventAt : Int), recording.pk)

theorem storedFill_row (store : LedgerStore) (recording : Recording) :
    storedFill (recording.row store) = some recording.fill := rfl

end Recording

/-- The recordings of one bot. -/
def ownOf (botId : BotId) (recordings : List Recording) : List Recording :=
  recordings.filter fun recording => recording.botId = botId

/-- Recordings as the log lists them, newest first. -/
def newestFirst (recordings : List Recording) : List Recording :=
  recordings.insertionSort fun left right => right.key ≤ left.key

/-- The keys are distinct and order the fills as they were recorded. -/
def InOrder (recordings : List Recording) : Prop :=
  (recordings.map Recording.pk).Nodup ∧
    (newestFirst recordings).reverse.map Recording.fill = recordings.map Recording.fill

instance (recordings : List Recording) : Decidable (InOrder recordings) := by
  unfold InOrder
  infer_instance

/-- The ledgers in memory and the table. -/
structure Persisted where
  ledgers : BotId → Ledger
  table : Table := Dict.empty

/-- Fresh ledgers with the given capitals, and nothing persisted. -/
def Persisted.fresh (capital : BotId → Decimal) : Persisted :=
  { ledgers := fun botId => Ledger.ofCapital (capital botId) }

section Runs

variable (store : LedgerStore)

def Persisted.record (state : Persisted) (recording : Recording) : Persisted :=
  let recorded := store.recordAndPersist state.table recording.botId
    (state.ledgers recording.botId) recording.fill recording.write
  { ledgers := Function.update state.ledgers recording.botId recorded.1, table := recorded.2.1 }

/-- The call returns normally. -/
def ReturnsNormally (state : Persisted) (recording : Recording) : Prop :=
  (store.recordAndPersist state.table recording.botId (state.ledgers recording.botId)
    recording.fill recording.write).2.2 = .ok ()

instance (state : Persisted) (recording : Recording) :
    Decidable (ReturnsNormally store state recording) := by
  unfold ReturnsNormally
  infer_instance

/-- What memory and table hold after a history of calls. -/
structure Logged (capital : BotId → Decimal) (history : List Recording) (state : Persisted) :
    Prop where
  ledger : ∀ botId, replayFills (Ledger.ofCapital (capital botId))
    ((ownOf botId history).map Recording.fill) = .ok (state.ledgers botId)
  snapshot : ∀ botId, loadSnapshot state.table botId =
    .ok (if ownOf botId history = [] then none else some (state.ledgers botId).modelValidate)
  /-- Every row of a bot was written by one of its calls. -/
  members : ∀ botId, FreeOf '#' botId → ∀ row ∈ eventRows state.table botId,
    ∃ recording ∈ ownOf botId history, row = recording.row store
  /-- With distinct keys, every call has its row. -/
  rows : ∀ botId, FreeOf '#' botId → ((ownOf botId history).map Recording.pk).Nodup →
    eventRows state.table botId = (ownOf botId history).map (Recording.row store)

variable {store}

theorem ownOf_append_self (history : List Recording) (recording : Recording) :
    ownOf recording.botId (history ++ [recording]) = ownOf recording.botId history ++ [recording] := by
  simp [ownOf]

theorem ownOf_append_of_ne {botId : BotId} (history : List Recording) {recording : Recording}
    (different : botId ≠ recording.botId) :
    ownOf botId (history ++ [recording]) = ownOf botId history := by
  simp [ownOf, Ne.symm different]

theorem logged_fresh (capital : BotId → Decimal) :
    Logged store capital [] (Persisted.fresh capital) :=
  ⟨fun _ => rfl, fun _ => rfl, fun _ _ row member => absurd member (by
    simp [eventRows, Table.scanPrefix, Persisted.fresh, Dict.empty]), fun _ _ _ => rfl⟩

/-- A key that no recording of the bot has used is not taken. -/
theorem Logged.fresh {capital : BotId → Decimal} {history : List Recording} {state : Persisted}
    {recording : Recording} (logged : Logged store capital history state)
    (free : FreeOf '#' recording.botId)
    (unused : ∀ earlier ∈ ownOf recording.botId history, earlier.pk ≠ recording.pk) :
    state.table.getItem recording.pk = none := by
  by_contra present
  obtain ⟨item, found⟩ := Option.ne_none_iff_exists'.mp present
  have scanned : (recording.pk, item) ∈ eventRows state.table recording.botId :=
    Table.mem_scanPrefix_iff.mpr ⟨found, eventPk_begins _ _ _⟩
  obtain ⟨earlier, member, row⟩ := logged.members _ free _ scanned
  have key : recording.pk = earlier.pk := congrArg Prod.fst row
  exact unused earlier member key.symm

/-- One call that returns normally moves memory, snapshot and log together. -/
theorem Logged.record {capital : BotId → Decimal} {history : List Recording} {state : Persisted}
    {recording : Recording} (logged : Logged store capital history state)
    (free : FreeOf '#' recording.botId) (normal : ReturnsNormally store state recording) :
    Logged store capital (history ++ [recording]) (state.record store recording) := by
  obtain ⟨booked, succeeds⟩ := recordAndPersist_ok_iff.mp normal
  have table : (state.record store recording).table =
      saveSnapshot (store.appendEvent state.table recording.botId recording.fill
          recording.write.eventAt recording.write.suffix) recording.botId
        ((state.ledgers recording.botId).recordFill recording.fill).1 recording.write.savedAt :=
    congrArg Prod.fst (recordAndPersist_booked succeeds booked)
  have own : (state.record store recording).ledgers recording.botId =
      ((state.ledgers recording.botId).recordFill recording.fill).1 :=
    (Function.update_self _ _ _).trans (recordAndPersist_ledger _ _ _ _ _ _)
  have others : ∀ botId, botId ≠ recording.botId →
      (state.record store recording).ledgers botId = state.ledgers botId :=
    fun botId different => Function.update_of_ne different _ _
  constructor
  · intro botId
    by_cases same : botId = recording.botId
    · subst same
      rw [ownOf_append_self, List.map_append, replayFills_append (logged.ledger _), own]
      exact replayFills_singleton booked
    · rw [ownOf_append_of_ne history same, others botId same]
      exact logged.ledger botId
  · intro botId
    rw [table]
    by_cases same : botId = recording.botId
    · subst same
      rw [loadSnapshot_saveSnapshot_self, ownOf_append_self, own, if_neg (by simp)]
    · rw [loadSnapshot_saveSnapshot_of_ne _ _ _ same, loadSnapshot_appendEvent,
        ownOf_append_of_ne history same, others botId same]
      exact logged.snapshot botId
  · intro botId freeBot row member
    rw [table, eventRows_saveSnapshot] at member
    by_cases same : botId = recording.botId
    · subst same
      rw [ownOf_append_self]
      rcases mem_eventRows_appendEvent member with rfl | before
      · exact ⟨recording, by simp, rfl⟩
      · obtain ⟨earlier, earlierMember, rfl⟩ := logged.members _ freeBot row before
        exact ⟨earlier, by simp [earlierMember], rfl⟩
    · rw [eventRows_appendEvent_of_ne store _ _ _ _ free freeBot same] at member
      rw [ownOf_append_of_ne history same]
      exact logged.members botId freeBot row member
  · intro botId freeBot nodup
    rw [table, eventRows_saveSnapshot]
    by_cases same : botId = recording.botId
    · subst same
      rw [ownOf_append_self, List.map_append, List.nodup_append] at nodup
      have fresh := logged.fresh free fun earlier member =>
        nodup.2.2 earlier.pk (List.mem_map_of_mem member) recording.pk (by simp)
      rw [eventRows_appendEvent_fresh store _ _ _ _ _ fresh, logged.rows _ freeBot nodup.1,
        ownOf_append_self, List.map_append]
      rfl
    · rw [eventRows_appendEvent_of_ne store _ _ _ _ free freeBot same,
        ownOf_append_of_ne history same] at *
      exact logged.rows botId freeBot nodup

/-- After calls that all returned normally. -/
theorem logged_run {capital : BotId → Decimal} {history : List Recording}
    (free : ∀ recording ∈ history, FreeOf '#' recording.botId)
    (normal : EachStep (Persisted.record store) (ReturnsNormally store) (.fresh capital) history) :
    Logged store capital history (run (Persisted.record store) (.fresh capital) history) := by
  induction history using List.reverseRecOn with
  | nil => exact logged_fresh capital
  | append_singleton history recording inductionHypothesis =>
      obtain ⟨before, last, -⟩ := (eachStep_append _).mp normal
      rw [run_append]
      exact (inductionHypothesis (fun earlier member => free earlier (by simp [member]))
        before).record (free recording (by simp)) last

/-! ### Replaying the log -/

/-- Taking the events from oldest to newest and applying each to a fresh ledger
never raises and yields the ledger in memory, which is also the snapshot once
the bot has an event. -/
structure Replays (capital : BotId → Decimal) (limit : Nat) (history : List Recording)
    (state : Persisted) (botId : BotId) : Prop where
  replayed : replayRows (Ledger.ofCapital (capital botId))
    (eventsForBot state.table botId limit).reverse = .ok (state.ledgers botId)
  snapshot : ownOf botId history ≠ [] →
    loadSnapshot state.table botId = .ok (some (state.ledgers botId))

theorem replayRows_map (ledger : Ledger) (recordings : List Recording) :
    replayRows ledger (recordings.map (Recording.row store)) =
      replayFills ledger (recordings.map Recording.fill) := by
  induction recordings generalizing ledger with
  | nil => rfl
  | cons recording rest inductionHypothesis =>
      rw [List.map_cons, List.map_cons]
      unfold replayRows replayFills
      simp only [Recording.storedFill_row]
      rcases ledger.recordFill recording.fill with ⟨booked, error | ⟨⟩⟩
      · rfl
      · exact inductionHypothesis booked

/-- The events of a bot whose rows are known. -/
theorem eventsForBot_of_rows {table : Table} {botId : BotId} {recordings : List Recording}
    {limit : Nat} (rows : eventRows table botId = recordings.map (Recording.row store))
    (enough : recordings.length ≤ limit) :
    eventsForBot table botId limit = (newestFirst recordings).map (Recording.row store) := by
  unfold eventsForBot newestFirst
  have sorted : (recordings.map (Recording.row store)).insertionSort
        (fun left right => eventKey right ≤ eventKey left) =
      (recordings.insertionSort fun left right => right.key ≤ left.key).map
        (Recording.row store) :=
    (List.map_insertionSort (fun left right : Recording => right.key ≤ left.key)
      (fun left right => eventKey right ≤ eventKey left) _ _ fun _ _ _ _ => Iff.rfl).symm
  rw [rows, sorted]
  refine List.take_of_length_le ?_
  rw [List.length_map, List.length_insertionSort]
  exact enough

/-- The stored fills, oldest first, are the recorded ones in recorded order
exactly when the keys are in order. -/
private theorem inOrder_of_replayed {capital : BotId → Decimal} {history : List Recording}
    {state : Persisted} {botId : BotId} {limit : Nat} (logged : Logged store capital history state)
    (free : FreeOf '#' botId) (enough : (ownOf botId history).length ≤ limit)
    (replayed : replayRows (Ledger.ofCapital (capital botId))
      (eventsForBot state.table botId limit).reverse = .ok (state.ledgers botId)) :
    InOrder (ownOf botId history) := by
  have ofCalls : ∀ row ∈ (eventsForBot state.table botId limit).reverse,
      row ∈ Set.range (Recording.row store) := by
    intro row member
    have scanned : row ∈ eventRows state.table botId :=
      (List.perm_insertionSort _ _).mem_iff.mp (List.mem_of_mem_take (List.mem_reverse.mp member))
    obtain ⟨recording, -, same⟩ := logged.members botId free row scanned
    exact ⟨recording, same.symm⟩
  obtain ⟨read, rows⟩ : (eventsForBot state.table botId limit).reverse ∈
      Set.range (List.map (Recording.row store)) := by
    rw [Set.range_list_map]
    exact ofCalls
  -- the history inside the two ledgers is what each applied
  have sameFills : read.map Recording.fill = (ownOf botId history).map Recording.fill := by
    rw [← rows, replayRows_map] at replayed
    have fromLog := orderHistory_replayFills replayed
    have inMemory := orderHistory_replayFills (logged.ledger botId)
    exact List.append_cancel_left (fromLog.symm.trans inMemory)
  have count : (ownOf botId history).length ≤ (eventRows state.table botId).length := by
    calc (ownOf botId history).length
        = read.length := by simpa using (congrArg List.length sameFills).symm
      _ = (eventsForBot state.table botId limit).length := by
          simpa using congrArg List.length rows
      _ ≤ (eventRows state.table botId).length := by
          unfold eventsForBot
          rw [List.length_take, List.length_insertionSort]
          exact min_le_right _ _
  have keys : ((ownOf botId history).map Recording.pk).Nodup := by
    have nodup : ((eventRows state.table botId).map Prod.fst).Nodup :=
      Table.nodup_scanPrefix state.table (eventPrefix botId)
    have inside : ((eventRows state.table botId).map Prod.fst) ⊆
        (ownOf botId history).map Recording.pk := by
      intro pk member
      obtain ⟨row, rowMember, rfl⟩ := List.mem_map.mp member
      obtain ⟨recording, recorded, rfl⟩ := logged.members botId free row rowMember
      exact List.mem_map.mpr ⟨recording, recorded, rfl⟩
    have same := (List.subperm_of_subset nodup inside).perm_of_length_le (by simpa using count)
    exact same.nodup_iff.mp nodup
  refine ⟨keys, ?_⟩
  have listed := eventsForBot_of_rows (logged.rows botId free keys) enough
  rw [listed, ← List.map_reverse] at rows
  have stored := congrArg (List.map storedFill) rows
  simp only [List.map_map, Function.comp_def, Recording.storedFill_row] at stored
  rw [← sameFills]
  exact (List.map_injective_iff.mpr (Option.some_injective Fill)
    (by simpa only [List.map_map, Function.comp_def] using stored)).symm

/-- The log of a bot replays to the ledger in memory, and the snapshot is that
ledger, exactly when the event keys order its fills as they were recorded and
the ledger survives being reloaded. -/
theorem replays_iff_inOrder {capital : BotId → Decimal} {history : List Recording}
    (free : ∀ recording ∈ history, FreeOf '#' recording.botId)
    (normal : EachStep (Persisted.record store) (ReturnsNormally store) (.fresh capital) history)
    {botId : BotId} (freeBot : FreeOf '#' botId) {limit : Nat}
    (enough : (ownOf botId history).length ≤ limit) :
    Replays capital limit history (run (Persisted.record store) (.fresh capital) history) botId ↔
      InOrder (ownOf botId history) ∧
        (ownOf botId history ≠ [] →
          ((run (Persisted.record store) (.fresh capital) history).ledgers botId).Reloads) := by
  have logged := logged_run free normal
  constructor
  · intro replays
    refine ⟨inOrder_of_replayed logged freeBot enough replays.replayed, fun some => ?_⟩
    have snapshot := replays.snapshot some
    rw [logged.snapshot, if_neg some, Except.ok.injEq, Option.some.injEq] at snapshot
    exact (Ledger.modelValidate_eq_iff _).mp snapshot
  · rintro ⟨⟨keys, fills⟩, reloads⟩
    constructor
    · rw [eventsForBot_of_rows (logged.rows botId freeBot keys) enough, ← List.map_reverse,
        replayRows_map, fills]
      exact logged.ledger botId
    · intro some
      rw [logged.snapshot, if_neg some, (Ledger.modelValidate_eq_iff _).mpr (reloads some)]

end Runs

/-- A buy and a sell of one share, recorded at the given seconds under the
given random suffixes. -/
def roundTrip (buyAt sellAt : Nat) (buySuffix sellSuffix : String) : List Recording :=
  [{ botId := "bot", fill := { symbol := "AAPL", side := .buy, quantity := 1, price := 100 },
     write := { eventAt := buyAt, suffix := buySuffix } },
    { botId := "bot", fill := { symbol := "AAPL", side := .sell, quantity := 1, price := 110 },
      write := { eventAt := sellAt, suffix := sellSuffix } }]

/-- Recorded in different seconds, the two fills replay. -/
theorem replays_iff_inOrder_two_seconds :
    Replays (fun _ => 1000) 100 (roundTrip 1 2 "b" "a")
      (run (Persisted.record {}) (.fresh fun _ => 1000) (roundTrip 1 2 "b" "a")) "bot" := by
  refine (replays_iff_inOrder ?_ ?_ (by decide) (by decide +kernel)).mpr
    ⟨by decide +kernel, fun _ => by decide +kernel⟩
  · decide
  · decide +kernel

/-- Recorded within one second under suffixes in the other order, both calls
return normally and the replay raises on the sell. -/
theorem not_replays_one_second :
    EachStep (Persisted.record {}) (ReturnsNormally {}) (.fresh fun _ => 1000)
        (roundTrip 1 1 "b" "a") ∧
      ¬ Replays (fun _ => 1000) 100 (roundTrip 1 1 "b" "a")
        (run (Persisted.record {}) (.fresh fun _ => 1000) (roundTrip 1 1 "b" "a")) "bot" := by
  refine ⟨by decide +kernel, fun replays => ?_⟩
  exact absurd replays.replayed (by decide +kernel)

end TradingStrands.LedgerStore
