import TradingStrands.Ddb.Table
import TradingStrands.Foundation.IsoDate

/-!
Owns the counters of tool calls, one row for each strategy and UTC day. A unit is
reserved by counting it first and looking at the count afterwards, so a refused
call is counted as well. A limit that is not positive is refused without a count.

Counters are numbers, since nothing but `ADD` writes them.
-/

namespace TradingStrands

open TradingStrands.Foundation

/-- Raised when the quota of a strategy for a tool is used up. -/
structure QuotaExceeded where
  strategyId : String
  toolName : String
  consumed : Int
  limit : Int
deriving DecidableEq, Repr

/-- What a tool can raise. -/
inductive ToolError
  | quotaExceeded (exception : QuotaExceeded)
  | other (error : PyError)
deriving DecidableEq, Repr

namespace ToolQuotaStore

def counterTtlSeconds : Int := 30 * 24 * 3600

def todayUtc (now : Int) : String := isoDate now

def pk (strategyId date : String) : String := "TOOL_QUOTA" ++ "#" ++ (strategyId ++ "#" ++ date)

theorem familyOf_pk (strategyId date : String) :
    familyOf '#' (pk strategyId date) = "TOOL_QUOTA".toList :=
  familyOf_append (by decide) (by decide)

def consumedAttr (toolName : String) : String := toolName ++ "_consumed"

def hitsAttr (toolName : String) : String := toolName ++ "_cache_hits"

/-- A counter of a row, zero if it is not there. -/
def counter (table : Table) (key name : String) : Int :=
  ((((table.getItem key).getD []).attr? name).map Attr.toInt).getD 0

/-- `ADD` of one to a counter of a row, and its `ttl` if it has none. `ADD` makes
a missing row or counter; it is refused on an attribute that is no number. -/
def addOne (table : Table) (key name : String) (now : Int) : Except PyError (Int × Table) :=
  let item := (table.getItem key).getD []
  let write (count : Int) : Except PyError (Int × Table) :=
    .ok (count, table.putItem key
      ((item.setAttr name (.number count)).setIfAbsent "ttl" (.number (now + counterTtlSeconds))))
  match item.attr? name with
  | none => write 1
  | some (.number count) => write (count + 1)
  | some _ => .error (.external "ValidationException")

def reserve (table : Table) (strategyId toolName : String) (limit now : Int) :
    Except ToolError Unit × Table :=
  if limit ≤ 0 then (.error (.quotaExceeded ⟨strategyId, toolName, 0, limit⟩), table)
  else
    match addOne table (pk strategyId (todayUtc now)) (consumedAttr toolName) now with
    | .error error => (.error (.other error), table)
    | .ok (consumed, after) =>
        if limit < consumed then
          (.error (.quotaExceeded ⟨strategyId, toolName, consumed, limit⟩), after)
        else (.ok (), after)

/-- Calls served from a cache have a counter of their own. -/
def recordCacheHit (table : Table) (strategyId toolName : String) (now : Int) :
    Except ToolError Unit × Table :=
  match addOne table (pk strategyId (todayUtc now)) (hitsAttr toolName) now with
  | .error error => (.error (.other error), table)
  | .ok (_, after) => (.ok (), after)

def consumedToday (table : Table) (strategyId toolName : String) (now : Int) : Int :=
  counter table (pk strategyId (todayUtc now)) (consumedAttr toolName)

def cacheHitsToday (table : Table) (strategyId toolName : String) (now : Int) : Int :=
  counter table (pk strategyId (todayUtc now)) (hitsAttr toolName)

theorem consumedAttr_ne_ttl (toolName : String) : consumedAttr toolName ≠ "ttl" := by
  intro same
  have length := congrArg String.length same
  unfold consumedAttr at length
  rw [String.length_append] at length
  change toolName.length + 9 = 3 at length
  omega

theorem hitsAttr_ne_ttl (toolName : String) : hitsAttr toolName ≠ "ttl" := by
  intro same
  have length := congrArg String.length same
  unfold hitsAttr at length
  rw [String.length_append] at length
  change toolName.length + 11 = 3 at length
  omega

variable {table after : Table} {key name : String} {count now : Int}

/-- What counting writes. -/
theorem addOne_ok (counted : addOne table key name now = .ok (count, after)) :
    count = counter table key name + 1 ∧ after = table.putItem key
      ((((table.getItem key).getD []).setAttr name (.number count)).setIfAbsent "ttl"
        (.number (now + counterTtlSeconds))) := by
  unfold addOne at counted
  unfold counter
  dsimp only at counted
  split at counted
  next missing =>
    cases counted
    rw [missing]
    exact ⟨rfl, rfl⟩
  next stored present =>
    cases counted
    rw [present]
    exact ⟨rfl, rfl⟩
  next => cases counted

theorem counter_putItem_self (table : Table) (key attr : String) (item : Item) :
    counter (table.putItem key item) key attr = ((item.attr? attr).map Attr.toInt).getD 0 := by
  unfold counter
  rw [Table.getItem_putItem_self]
  rfl

theorem counter_putItem_of_ne (table : Table) {key other : String} (different : other ≠ key)
    (attr : String) (item : Item) :
    counter (table.putItem key item) other attr = counter table other attr := by
  unfold counter
  rw [Table.getItem_putItem_of_ne table item different]

/-- The answer of counting is the counter afterwards, one above the one before. -/
theorem counter_addOne_self (noTtl : name ≠ "ttl")
    (counted : addOne table key name now = .ok (count, after)) :
    count = counter table key name + 1 ∧ counter after key name = count := by
  obtain ⟨raised, rfl⟩ := addOne_ok counted
  refine ⟨raised, ?_⟩
  rw [counter_putItem_self, Item.attr?_setIfAbsent_of_ne _ _ noTtl, Item.attr?_setAttr_self]
  rfl

/-- Counting lowers no counter. -/
theorem counter_le_addOne (named : name ≠ "ttl")
    (counted : addOne table key name now = .ok (count, after)) (other : String) {attr : String}
    (noTtl : attr ≠ "ttl") : counter table other attr ≤ counter after other attr := by
  by_cases row : other = key
  · subst row
    by_cases same : attr = name
    · subst same
      obtain ⟨raised, here⟩ := counter_addOne_self named counted
      omega
    · obtain ⟨-, rfl⟩ := addOne_ok counted
      rw [counter_putItem_self, Item.attr?_setIfAbsent_of_ne _ _ noTtl,
        Item.attr?_setAttr_of_ne _ _ same]
      exact le_of_eq rfl
  · obtain ⟨-, rfl⟩ := addOne_ok counted
    rw [counter_putItem_of_ne table row]

variable {strategyId toolName : String} {limit : Int}

/-- A unit that is granted was counted and is within the limit. -/
theorem reserve_ok (granted : reserve table strategyId toolName limit now = (.ok (), after)) :
    counter after (pk strategyId (todayUtc now)) (consumedAttr toolName) =
        counter table (pk strategyId (todayUtc now)) (consumedAttr toolName) + 1 ∧
      counter after (pk strategyId (todayUtc now)) (consumedAttr toolName) ≤ limit := by
  unfold reserve at granted
  split at granted
  · cases granted
  · split at granted
    next => cases granted
    next consumed written counted =>
      split at granted
      · cases granted
      next within =>
        cases granted
        obtain ⟨raised, here⟩ := counter_addOne_self (consumedAttr_ne_ttl toolName) counted
        omega

theorem counter_le_reserve (other : String) {attr : String} (noTtl : attr ≠ "ttl") :
    counter table other attr ≤
      counter (reserve table strategyId toolName limit now).2 other attr := by
  unfold reserve
  split
  · exact le_rfl
  · split
    next => exact le_rfl
    next consumed written counted =>
      have kept := counter_le_addOne (consumedAttr_ne_ttl toolName) counted other noTtl
      split
      · exact kept
      · exact kept

theorem recordCacheHit_ok (recorded : recordCacheHit table strategyId toolName now = (.ok (), after)) :
    cacheHitsToday after strategyId toolName now =
      cacheHitsToday table strategyId toolName now + 1 := by
  unfold recordCacheHit at recorded
  split at recorded
  next => cases recorded
  next hits written counted =>
    cases recorded
    obtain ⟨raised, here⟩ := counter_addOne_self (hitsAttr_ne_ttl toolName) counted
    exact here.trans raised

theorem counter_le_recordCacheHit (other : String) {attr : String} (noTtl : attr ≠ "ttl") :
    counter table other attr ≤
      counter (recordCacheHit table strategyId toolName now).2 other attr := by
  unfold recordCacheHit
  split
  next => exact le_rfl
  next hits written counted =>
    exact counter_le_addOne (hitsAttr_ne_ttl toolName) counted other noTtl

end ToolQuotaStore

end TradingStrands
