import TradingStrands.Ddb.Table
import TradingStrands.Foundation.Paging

/-!
Owns the exhaustive scan every store reads with: call after call, from the key
the last response named, until a response names none. `ScanService` is what is
assumed of the table's service while the table does not change. Where a scan is
cut into responses then makes no difference.

Does not own: the warning about a scan of several pages.
-/

namespace TradingStrands

open TradingStrands.Foundation

namespace Table

/-- The arguments of `table.scan`. -/
structure ScanArgs where
  filterExpression : String × Item → Bool
  exclusiveStartKey : Option Item

/-- A response of `table.scan`. -/
structure ScanResponse where
  items : Option (List (String × Item))
  lastEvaluatedKey : Option Item

/-- The key of a row, as a response names it. -/
def keyOf (row : String × Item) : Item := [("pk", .text row.1)]

/-- What is assumed of the service: a response to a call covers a stretch of the
rows after the start key, and names the last of them unless none are left. -/
structure ScanService (table : Table) where
  scan : Nat → ScanArgs → ScanResponse
  covers : ∀ call kwargs, IsStart keyOf table.entries kwargs.exclusiveStartKey →
    ∃ stretch rest, rowsAfter keyOf table.entries kwargs.exclusiveStartKey = stretch ++ rest ∧
      (scan call kwargs).items.getD [] = stretch.filter kwargs.filterExpression ∧
        Continues keyOf stretch rest (scan call kwargs).lastEvaluatedKey

/-- The loop of `scan_all`, as far as the calls go. An empty key ends it as none
does. -/
def scanFrom (scan : Nat → ScanArgs → ScanResponse) :
    Nat → Nat → ScanArgs → List (String × Item) → Option (List (String × Item))
  | 0, _, _, _ => none
  | calls + 1, call, kwargs, items =>
      let resp := scan call kwargs
      let items := items ++ resp.items.getD []
      match resp.lastEvaluatedKey with
      | none => some items
      | some [] => some items
      | some last => scanFrom scan calls (call + 1) { kwargs with exclusiveStartKey := last } items

def scanAll (scan : Nat → ScanArgs → ScanResponse) (filterExpression : String × Item → Bool)
    (calls : Nat) : Option (List (String × Item)) :=
  scanFrom scan calls 0 { filterExpression, exclusiveStartKey := none } []

variable {table : Table}

theorem nodup_keyOf (table : Table) : (table.entries.map keyOf).Nodup := by
  have named : table.entries.map keyOf = table.keys.map fun pk => [("pk", Attr.text pk)] := by
    unfold Dict.keys
    rw [List.map_map]
    rfl
  rw [named]
  refine table.nodup.map ?_
  intro left right same
  injection same with head
  injection head with _ value
  injection value

/-- A response as a page: an empty key names no row. -/
def ScanResponse.page (resp : ScanResponse) : Page Item (String × Item) where
  items := resp.items.getD []
  lastEvaluatedKey := resp.lastEvaluatedKey.filter fun key => key ≠ []

/-- The service as it answers under one filter. -/
def ScanService.paginator (service : ScanService table) (filterExpression : String × Item → Bool) :
    Paginator keyOf table.entries filterExpression where
  page call start := (service.scan call { filterExpression, exclusiveStartKey := start }).page
  covers call start started := by
    obtain ⟨stretch, rest, cut, items, continues⟩ :=
      service.covers call { filterExpression, exclusiveStartKey := start } started
    refine ⟨stretch, rest, cut, items, ?_⟩
    unfold ScanResponse.page
    cases answer : (service.scan call
        { filterExpression, exclusiveStartKey := start }).lastEvaluatedKey with
    | none =>
        rw [answer] at continues
        exact continues
    | some key =>
        rw [answer] at continues
        obtain ⟨last, ends, named⟩ := continues
        rw [named]
        exact ⟨last, ends, rfl⟩

/-- The loop follows the keys. -/
theorem scanFrom_eq_followPages (scan : Nat → ScanArgs → ScanResponse)
    (filterExpression : String × Item → Bool) (calls : Nat) :
    ∀ (call : Nat) (start : Option Item) (items : List (String × Item)),
      scanFrom scan calls call { filterExpression, exclusiveStartKey := start } items =
        followPages
          (fun call start => (scan call { filterExpression, exclusiveStartKey := start }).page)
          calls call start items := by
  induction calls with
  | zero =>
      intro call start items
      rfl
  | succ calls inductionHypothesis =>
      intro call start items
      unfold scanFrom followPages ScanResponse.page
      dsimp only
      cases (scan call { filterExpression, exclusiveStartKey := start }).lastEvaluatedKey with
      | none => rfl
      | some key =>
          cases key with
          | nil => rfl
          | cons field fields => exact inductionHypothesis (call + 1) (some (field :: fields)) _

/-- A call for each row of the table and one more suffice. -/
theorem scanAll_of_length_lt (service : ScanService table)
    (filterExpression : String × Item → Bool) {calls : Nat}
    (suffice : table.entries.length < calls) :
    scanAll service.scan filterExpression calls = some (table.entries.filter filterExpression) := by
  unfold scanAll
  rw [scanFrom_eq_followPages]
  exact followPages_eq_filter table.nodup_keyOf (service.paginator filterExpression) suffice

/-- The scan of the prefix filters the stores use is `scanPrefix`. -/
theorem scanAll_beginsWith (service : ScanService table) (lead : String) {calls : Nat}
    (suffice : table.entries.length < calls) :
    scanAll service.scan (fun row => beginsWith row.1 lead) calls = some (table.scanPrefix lead) :=
  scanAll_of_length_lt service _ suffice

/-- A service that answers in chunks of `size + 1` rows. -/
def ScanService.inChunks (table : Table) (size : Nat) : ScanService table where
  scan call kwargs :=
    let page := (Foundation.inChunks keyOf table.entries kwargs.filterExpression size).page call
      kwargs.exclusiveStartKey
    { items := some page.items, lastEvaluatedKey := page.lastEvaluatedKey }
  covers call kwargs :=
    (Foundation.inChunks keyOf table.entries kwargs.filterExpression size).covers call
      kwargs.exclusiveStartKey

/-- However the service cuts the table into responses, the scan ends, with the
rows that pass the filter, each once and in the order of the table. -/
theorem scanAll_pageIndependent (table : Table) (filterExpression : String × Item → Bool)
    (first second : ScanService table) (spare : Nat) :
    scanAll first.scan filterExpression (table.entries.length + 1 + spare) =
        some (table.entries.filter filterExpression) ∧
      scanAll second.scan filterExpression (table.entries.length + 1 + spare) =
        scanAll first.scan filterExpression (table.entries.length + 1 + spare) ∧
      ((table.entries.filter filterExpression).map Prod.fst).Nodup := by
  have suffice : table.entries.length < table.entries.length + 1 + spare := by omega
  have done := scanAll_of_length_lt first filterExpression suffice
  have same := scanAll_of_length_lt second filterExpression suffice
  refine ⟨done, same.trans done.symm, ?_⟩
  exact table.nodup.sublist (List.Sublist.map _ List.filter_sublist)

/-- Of two rows in two responses the first is filtered out. -/
example :
    let table := (Table.putItem Dict.empty "BAR#SPY" []).putItem "STRATEGY#1" []
    scanAll (ScanService.inChunks table 0).scan (fun row => beginsWith row.1 "STRATEGY#") 3 =
      some [("STRATEGY#1", [])] := by
  decide

end Table

end TradingStrands
