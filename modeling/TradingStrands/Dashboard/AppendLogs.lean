import TradingStrands.Dashboard.Publisher
import TradingStrands.Foundation.Log
import TradingStrands.Foundation.Padded
import TradingStrands.Foundation.Runs
import TradingStrands.RecommendationsStore.Store

/-!
Owns the two logs that the dashboard shows, events and advisories, and when they
keep what is appended to them. The key of an event is its second and the identity of
its data, which is free again as soon as the data is; the key of an advisory has
nothing but the kind of its agent beside its second.
-/

namespace TradingStrands.AppendLogs

open TradingStrands.Foundation
open StatePublisher (Event publishEvent eventPkPrefix)
open RecommendationsStore (Append)

/-- A call that appends to a log. -/
inductive LogCall
  | event (published : Event)
  | recommendation (call : Append)

namespace LogCall

/-- The row a call writes, none if it raises. -/
def row? (str : Decimal → String) : LogCall → Option (String × Item)
  | .event published => some (published.pk, published.item str)
  | .recommendation call =>
      match call.entry with
      | .ok entry => some (call.pk, RecommendationsStore.item entry)
      | .error _ => none

/-- Whether a call publishes an event. -/
def isEvent : LogCall → Bool
  | .event _ => true
  | .recommendation _ => false

/-- Whether a call leaves an advisory for the organisation; one that raises does
not. -/
def isFor (orgId : OrgId) : LogCall → Bool
  | .event _ => false
  | .recommendation call => call.orgId = orgId ∧ call.entry.isOk = true

/-- Two calls make the same key: events of one second and identity of data, or
advisories of one key. -/
def Collides : LogCall → LogCall → Prop
  | .event left, .event right => left.timestamp = right.timestamp ∧ left.identity = right.identity
  | .recommendation left, .recommendation right =>
      left.entry.isOk = true ∧ right.entry.isOk = true ∧ left.pk = right.pk
  | _, _ => False

end LogCall

/-- The table after a call. -/
def step (str : Decimal → String) (table : Table) : LogCall → Table
  | .event published => publishEvent str table published
  | .recommendation call =>
      match RecommendationsStore.append table call with
      | .ok (_, after) => after
      | .error _ => table

def isEventRow (row : String × Item) : Bool := beginsWith row.1 eventPkPrefix

def isRowOf (orgId : OrgId) (row : String × Item) : Bool :=
  beginsWith row.1 RecommendationsStore.pkPrefix ∧ row.2.attr? "org_id" = some (.text orgId)

/-- The logs have nothing in them yet. -/
structure Fresh (table : Table) : Prop where
  events : table.log isEventRow = []
  recommendations : ∀ orgId, table.log (isRowOf orgId) = []

/-- There are as many rows as calls, and each call's row is there. -/
structure NothingLost (str : Decimal → String) (calls : List LogCall) (after : Table) : Prop where
  events : (after.log isEventRow).length = (calls.filter LogCall.isEvent).length
  recommendations : ∀ orgId,
    (after.log (isRowOf orgId)).length = (calls.filter (LogCall.isFor orgId)).length
  contents : ∀ call ∈ calls, ∀ row, call.row? str = some row → row ∈ after.entries

/-- From any table without rows of the logs, nothing is lost. -/
def LogsComplete (str : Decimal → String) (calls : List LogCall) : Prop :=
  ∀ table, Fresh table → NothingLost str calls (run (step str) table calls)

/-! ### Keys -/

theorem eventPk_eq_iff {left right : Event} :
    left.pk = right.pk ↔ left.timestamp = right.timestamp ∧ left.identity = right.identity := by
  have plain : ∀ number : Nat, FreeOf '-' (toString number) := by
    intro number member
    rw [toList_natText] at member
    exact absurd (isDigit_of_mem_paddedDigits member) (by decide)
  constructor
  · intro same
    have parts := (String.append_right_inj _).mp same
    obtain ⟨seconds, identities⟩ := joined_inj (by decide) (plain _) (plain _) parts
    exact ⟨natText_inj seconds, natText_inj identities⟩
  · rintro ⟨seconds, identities⟩
    unfold Event.pk
    rw [seconds, identities]

theorem familyOf_eventPk (event : Event) : familyOf '#' event.pk = "EVENT".toList :=
  familyOf_append (by decide) (by decide)

variable {str : Decimal → String} {orgId : OrgId} {calls : List LogCall}

theorem row?_of_entry {call : Append} {entry : RecommendationEntry}
    (valid : call.entry = .ok entry) :
    LogCall.row? str (.recommendation call) = some (call.pk, RecommendationsStore.item entry) := by
  unfold LogCall.row?
  dsimp only
  rw [valid]

theorem row?_of_raise {call : Append} {error : PyError} (raises : call.entry = .error error) :
    LogCall.row? str (.recommendation call) = none := by
  unfold LogCall.row?
  dsimp only
  rw [raises]

/-- A call writes its row, over whatever is under its key. -/
theorem step_eq_set (table : Table) (call : LogCall) :
    step str table call = table.setAll (call.row? str).toList := by
  cases call with
  | event published => rfl
  | recommendation call =>
      unfold step RecommendationsStore.append
      dsimp only
      cases entry : call.entry with
      | error error =>
          rw [row?_of_raise entry]
          rfl
      | ok entry =>
          rw [row?_of_entry entry]
          rfl

theorem run_eq_setAll (table : Table) (calls : List LogCall) :
    run (step str) table calls = table.setAll (calls.filterMap (LogCall.row? str)) := by
  induction calls generalizing table with
  | nil => rfl
  | cons call rest inductionHypothesis =>
      rw [run_cons, inductionHypothesis, step_eq_set]
      cases writes : call.row? str with
      | none =>
          rw [List.filterMap_cons_none writes]
          rfl
      | some row =>
          rw [List.filterMap_cons_some writes]
          rfl

theorem isEventRow_of_row {call : LogCall} {row : String × Item}
    (writes : call.row? str = some row) : isEventRow row = call.isEvent := by
  cases call with
  | event published =>
      cases writes
      exact beginsWith_iff.mpr ⟨_, String.toList_append.symm⟩
  | recommendation call =>
      cases valid : call.entry with
      | error error => cases (row?_of_raise valid).symm.trans writes
      | ok entry =>
          cases (row?_of_entry valid).symm.trans writes
          have apart : familyOf '#' call.pk ≠ "EVENT".toList := by
            rw [RecommendationsStore.familyOf_pk]
            decide
          exact Table.not_beginsWith_family (by decide) (by decide) apart

theorem isRowOf_of_row {call : LogCall} {row : String × Item}
    (writes : call.row? str = some row) : isRowOf orgId row = call.isFor orgId := by
  cases call with
  | event published =>
      cases writes
      have apart : familyOf '#' published.pk ≠ "RECOMMENDATION".toList := by
        rw [familyOf_eventPk]
        decide
      have outside : beginsWith published.pk RecommendationsStore.pkPrefix = false :=
        Table.not_beginsWith_family (by decide) (by decide) apart
      exact decide_eq_false fun both => nomatch outside.symm.trans both.1
  | recommendation call =>
      cases valid : call.entry with
      | error error => cases (row?_of_raise valid).symm.trans writes
      | ok entry =>
          cases (row?_of_entry valid).symm.trans writes
          have inside : beginsWith call.pk RecommendationsStore.pkPrefix = true :=
            beginsWith_iff.mpr ⟨_, String.toList_append.symm⟩
          have owner := RecommendationsStore.orgId_of_entry valid
          refine decide_eq_decide.mpr ?_
          rw [owner, valid, Option.some.injEq, Attr.text.injEq]
          exact ⟨fun both => ⟨both.2, rfl⟩, fun both => ⟨inside, both.1⟩⟩

theorem eventPk_ne_appendPk (published : Event) (call : Append) : published.pk ≠ call.pk := by
  have families : familyOf '#' published.pk ≠ familyOf '#' call.pk := by
    rw [familyOf_eventPk, RecommendationsStore.familyOf_pk]
    decide
  exact ne_of_family families

theorem isOk_iff {call : Append} : call.entry.isOk = true ↔ ∃ entry, call.entry = .ok entry := by
  cases call.entry with
  | ok entry => exact iff_of_true rfl ⟨entry, rfl⟩
  | error error => exact iff_of_false nofun nofun

/-- Calls collide if they write rows under one key. -/
theorem collides_iff (str : Decimal → String) {left right : LogCall} :
    left.Collides right ↔ ∃ first second, left.row? str = some first ∧
      right.row? str = some second ∧ first.1 = second.1 := by
  cases left with
  | event left =>
      cases right with
      | event right =>
          refine eventPk_eq_iff.symm.trans ⟨fun same => ⟨_, _, rfl, rfl, same⟩, ?_⟩
          rintro ⟨first, second, ⟨⟩, ⟨⟩, same⟩
          exact same
      | recommendation right =>
          refine iff_of_false id ?_
          rintro ⟨first, second, ⟨⟩, writes, same⟩
          cases valid : right.entry with
          | error error => cases (row?_of_raise valid).symm.trans writes
          | ok entry =>
              cases (row?_of_entry valid).symm.trans writes
              exact eventPk_ne_appendPk left right same
  | recommendation left =>
      cases right with
      | event right =>
          refine iff_of_false id ?_
          rintro ⟨first, second, writes, ⟨⟩, same⟩
          cases valid : left.entry with
          | error error => cases (row?_of_raise valid).symm.trans writes
          | ok entry =>
              cases (row?_of_entry valid).symm.trans writes
              exact eventPk_ne_appendPk right left same.symm
      | recommendation right =>
          unfold LogCall.Collides
          dsimp only
          rw [isOk_iff, isOk_iff]
          constructor
          · rintro ⟨⟨first, leftValid⟩, ⟨second, rightValid⟩, same⟩
            exact ⟨_, _, row?_of_entry leftValid, row?_of_entry rightValid, same⟩
          · rintro ⟨first, second, leftWrites, rightWrites, same⟩
            cases leftValid : left.entry with
            | error error => cases (row?_of_raise leftValid).symm.trans leftWrites
            | ok leftEntry =>
                cases rightValid : right.entry with
                | error error => cases (row?_of_raise rightValid).symm.trans rightWrites
                | ok rightEntry =>
                    cases (row?_of_entry leftValid).symm.trans leftWrites
                    cases (row?_of_entry rightValid).symm.trans rightWrites
                    exact ⟨⟨_, rfl⟩, ⟨_, rfl⟩, same⟩

/-- The rows have keys of their own if no two calls make the same one. -/
theorem nodup_rows_iff :
    ((calls.filterMap (LogCall.row? str)).map Prod.fst).Nodup ↔
      calls.Pairwise fun left right => ¬ left.Collides right := by
  rw [List.map_filterMap, List.Nodup, List.pairwise_filterMap]
  refine List.Pairwise.iff fun {left right} => ?_
  rw [collides_iff str]
  simp only [Option.map_eq_some_iff]
  constructor
  · rintro apart ⟨first, second, leftWrites, rightWrites, same⟩
    exact apart _ ⟨first, leftWrites, rfl⟩ _ ⟨second, rightWrites, rfl⟩ same
  · rintro apart key ⟨first, leftWrites, rfl⟩ other ⟨second, rightWrites, rfl⟩ same
    exact apart ⟨first, second, leftWrites, rightWrites, same⟩

theorem length_eventRows (calls : List LogCall) :
    ((calls.filterMap (LogCall.row? str)).filter isEventRow).length =
      (calls.filter LogCall.isEvent).length := by
  refine length_filter_filterMap (fun call row => isEventRow_of_row) (fun call published => ?_) calls
  cases call with
  | event published => rfl
  | recommendation call => cases published

theorem length_rowsOf (orgId : OrgId) (calls : List LogCall) :
    ((calls.filterMap (LogCall.row? str)).filter (isRowOf orgId)).length =
      (calls.filter (LogCall.isFor orgId)).length := by
  refine length_filter_filterMap (fun call row => isRowOf_of_row) (fun call left => ?_) calls
  cases call with
  | event published => cases left
  | recommendation call =>
      obtain ⟨-, valid⟩ := of_decide_eq_true left
      cases entry : call.entry with
      | ok _ =>
          rw [row?_of_entry entry]
          rfl
      | error _ =>
          rw [entry] at valid
          cases valid

theorem fresh_empty : Fresh Dict.empty := ⟨rfl, fun _ => rfl⟩

/-- The log of events, or that of an organisation's advisories. -/
def logs : Option OrgId → String × Item → Bool
  | none => isEventRow
  | some orgId => isRowOf orgId

theorem fresh_logs {table : Table} (fresh : Fresh table) (index : Option OrgId) :
    table.log (logs index) = [] := by
  cases index with
  | none => exact fresh.events
  | some orgId => exact fresh.recommendations orgId

/-- Every row is in a log. -/
theorem covered {row : String × Item} (written : row ∈ calls.filterMap (LogCall.row? str)) :
    ∃ index, logs index row = true := by
  obtain ⟨call, -, writes⟩ := List.mem_filterMap.mp written
  cases call with
  | event published => exact ⟨none, isEventRow_of_row writes⟩
  | recommendation call =>
      refine ⟨some call.orgId, (isRowOf_of_row writes).trans (decide_eq_true ⟨rfl, ?_⟩)⟩
      cases valid : call.entry with
      | error error => cases (row?_of_raise valid).symm.trans writes
      | ok entry => rfl

/-- What nothing being lost says about the rows that were written. -/
theorem nothingLost_iff_rows {after : Table} :
    NothingLost str calls after ↔
      (∀ index, (after.log (logs index)).length =
        ((calls.filterMap (LogCall.row? str)).filter (logs index)).length) ∧
      ∀ row ∈ calls.filterMap (LogCall.row? str), row ∈ after.entries := by
  constructor
  · intro kept
    constructor
    · intro index
      cases index with
      | none => exact kept.events.trans (length_eventRows calls).symm
      | some orgId => exact (kept.recommendations orgId).trans (length_rowsOf orgId calls).symm
    · intro row written
      obtain ⟨call, member, writes⟩ := List.mem_filterMap.mp written
      exact kept.contents call member row writes
  · rintro ⟨counts, contents⟩
    constructor
    · exact (counts none).trans (length_eventRows calls)
    · intro orgId
      exact (counts (some orgId)).trans (length_rowsOf orgId calls)
    · intro call member row writes
      exact contents row (List.mem_filterMap.mpr ⟨call, member, writes⟩)

/-- The logs are complete exactly if no two calls make the same key. -/
theorem logsComplete_iff (str : Decimal → String) (calls : List LogCall) :
    LogsComplete str calls ↔ calls.Pairwise fun left right => ¬ left.Collides right := by
  rw [← nodup_rows_iff]
  have exact_ : ∀ table, Fresh table →
      (NothingLost str calls (run (step str) table calls) ↔
        ((calls.filterMap (LogCall.row? str)).map Prod.fst).Nodup) := by
    intro table fresh
    rw [nothingLost_iff_rows, run_eq_setAll]
    exact Dict.logs_complete_iff (fresh_logs fresh) fun row => covered
  constructor
  · intro complete
    exact (exact_ Dict.empty fresh_empty).mp (complete Dict.empty fresh_empty)
  · intro apart table fresh
    exact (exact_ table fresh).mpr apart

/-- Two trades of one second. The data of the first is gone when the second is
published, and its identity is used again. -/
def twoTrades : List LogCall :=
  [.event ⟨"trade.executed", [("bot_id", .plain (.text "alpha"))], 1777213997, 140001⟩,
    .event ⟨"trade.executed", [("bot_id", .plain (.text "beta"))], 1777213997, 140001⟩]

/-- Two events are published, and one is left. -/
theorem not_logsComplete_same_second : ¬ LogsComplete (fun _ => "") twoTrades := by
  intro complete
  have counted := (complete Dict.empty fresh_empty).events
  have left : ((run (step fun _ => "") Dict.empty twoTrades).log isEventRow).length = 1 := by
    decide +kernel
  rw [left] at counted
  exact absurd counted (by decide)

end TradingStrands.AppendLogs
