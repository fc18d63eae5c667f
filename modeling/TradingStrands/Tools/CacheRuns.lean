import TradingStrands.Foundation.Runs
import TradingStrands.Tools.Calls

/-!
Owns what the caches of the tools answer over whole runs of calls, by any strategies
of any organisations. A hit hands out the last answer of the service for its symbol,
at most an hour old; and a request for a symbol is served only when an hour has
passed since the last one that was.
-/

namespace TradingStrands.ToolCall

open TradingStrands.Foundation

/-! ### Requests that are served -/

/-- The key of the cached row that a call looks at. -/
def cachePk? (call : ToolCall) : Option String :=
  match call.tool.function with
  | .fetchNews => some (ToolCache.news.pk call.env (call.env.upper call.argument))
  | .fetchSocial => some (ToolCache.social.pk call.env (call.env.upper call.argument))
  | .listRecentFilings => none
  | .readFiling => none

/-- When a call had its service answer for a row, and what. -/
def fetched? (key : String) (table : Table) (call : ToolCall) : Option (Int × String) :=
  if call.cachePk? = some key then
    match (call.run table).1 with
    | .served payload => some (call.env.seconds, payload)
    | .cacheHit _ => none
    | .raised _ => none
  else none

/-- All that was fetched for a row, in order. -/
def fetches (key : String) : Table → List ToolCall → List (Int × String) :=
  outputs step fun table call => (call.fetched? key table).toList

theorem fetches_concat (key : String) (table : Table) (calls : List ToolCall) (call : ToolCall) :
    fetches key table (calls ++ [call]) =
      fetches key table calls ++ (call.fetched? key (Foundation.run step table calls)).toList :=
  outputs_concat step _ table calls call

/-! ### The row of a key -/

/-- A row is what the last fetch has stored; without one it is not there. -/
def Holds (key : String) (table : Table) : Option (Int × String) → Prop
  | none => table.getItem key = none
  | some (cachedAt, payload) => ∃ symbol, table.getItem key = some
      [("symbol", .text symbol), ("cached_at", .number cachedAt), ("payload_json", .text payload),
        ("ttl", .number (cachedAt + ToolCache.rowTtlSeconds))]

theorem Holds.congr {key : String} {table after : Table} {last : Option (Int × String)}
    (holds : Holds key table last) (same : after.getItem key = table.getItem key) :
    Holds key after last := by
  cases last with
  | none => exact same.trans holds
  | some fetch =>
      obtain ⟨symbol, row⟩ := holds
      exact ⟨symbol, same.trans row⟩

variable {call : ToolCall} {cache : ToolCache} {table : Table} {key : String}

/-- Counting a call leaves the rows of the caches. -/
theorem getItem_recordCacheHit (call : ToolCall) (apart : familyOf '#' key ≠ "TOOL_QUOTA".toList) :
    (call.recordCacheHit table).2.getItem key = table.getItem key := by
  unfold recordCacheHit ToolQuotaStore.recordCacheHit
  split
  next => rfl
  next hits written counted =>
    obtain ⟨-, rfl⟩ := ToolQuotaStore.addOne_ok counted
    exact Table.getItem_putItem_of_ne table _
      (ne_of_family (by rwa [ToolQuotaStore.familyOf_pk]))

theorem getItem_reserve (call : ToolCall) (apart : familyOf '#' key ≠ "TOOL_QUOTA".toList) :
    (call.reserve table).2.getItem key = table.getItem key := by
  unfold reserve ToolQuotaStore.reserve
  split
  · rfl
  · split
    next => rfl
    next consumed written counted =>
      have kept : written.getItem key = table.getItem key := by
        obtain ⟨-, rfl⟩ := ToolQuotaStore.addOne_ok counted
        exact Table.getItem_putItem_of_ne table _
          (ne_of_family (by rwa [ToolQuotaStore.familyOf_pk]))
      split
      · exact kept
      · exact kept

/-- A fetch stores its row, and touches no other one of a cache. -/
theorem holds_runFetch (call : ToolCall) (cache : ToolCache)
    (apart : familyOf '#' key ≠ "TOOL_QUOTA".toList)
    {last : Option (Int × String)} (holds : Holds key table last) :
    Holds key (call.runFetch cache table).2
      (if cache.pk call.env (call.env.upper call.argument) = key then
        match (call.runFetch cache table).1 with
        | .served payload => some (call.env.seconds, payload)
        | .cacheHit _ => last
        | .raised _ => last
      else last) := by
  rcases runFetch_cases call cache table with
    ⟨_, ran⟩ | ⟨outcome, free, ran⟩ | ⟨_, ran⟩ | ⟨payload, after, granted, ran⟩
  · rw [ran]
    simpa using holds
  · rw [ran]
    have kept := holds.congr (getItem_recordCacheHit call apart)
    cases outcome with
    | cacheHit => simpa using kept
    | served => cases free
    | raised => simpa using kept
  · rw [ran]
    simpa using holds.congr (getItem_reserve call apart)
  · rw [ran]
    have same : (call.reserve table).2 = after := congrArg Prod.snd granted
    have kept := holds.congr (getItem_reserve call apart)
    rw [same] at kept
    by_cases own : cache.pk call.env (call.env.upper call.argument) = key
    · rw [if_pos own, ← own]
      exact ⟨_, Table.getItem_putItem_self ..⟩
    · rw [if_neg own]
      exact kept.congr (Table.getItem_putItem_of_ne after _ (Ne.symm own))

/-- After a call a row is what it fetched for it, or as before. -/
theorem Holds.step (apart : familyOf '#' key ≠ "TOOL_QUOTA".toList)
    {last : Option (Int × String)} (holds : Holds key table last) (call : ToolCall) :
    Holds key (ToolCall.step table call) ((call.fetched? key table).or last) := by
  have fetched : ∀ cache : ToolCache,
      call.cachePk? = some (cache.pk call.env (call.env.upper call.argument)) →
        call.run table = call.runFetch cache table →
          Holds key (ToolCall.step table call) ((call.fetched? key table).or last) := by
    intro cache row ran
    have after := holds_runFetch call cache apart holds
    unfold ToolCall.step fetched?
    rw [row, ran]
    simp only [Option.some.injEq]
    by_cases own : cache.pk call.env (call.env.upper call.argument) = key
    · rw [if_pos own] at after ⊢
      cases outcome : (call.runFetch cache table).1 with
      | served payload => rwa [outcome] at after
      | cacheHit payload => rwa [outcome] at after
      | raised error => rwa [outcome] at after
    · rw [if_neg own] at after ⊢
      exact after
  have unfetched : call.cachePk? = none → call.run table = call.runFilings table →
      Holds key (ToolCall.step table call) ((call.fetched? key table).or last) := by
    intro noRow ran
    unfold ToolCall.step fetched?
    rw [noRow, ran, if_neg (by simp), Option.none_or]
    rcases runFilings_cases call table with ⟨_, same⟩ | ⟨_, same⟩ | ⟨_, after, -, recorded, same⟩
    · rw [same]
      exact holds
    · rw [same]
      exact holds.congr (getItem_recordCacheHit _ apart)
    · rw [same]
      have counted : (call.recordCacheHit table).2 = after := congrArg Prod.snd recorded
      rw [← counted]
      exact holds.congr (getItem_recordCacheHit _ apart)
  cases function : call.tool.function with
  | fetchNews => exact fetched .news (by simp [cachePk?, function]) (by simp [ToolCall.run, function])
  | fetchSocial =>
      exact fetched .social (by simp [cachePk?, function]) (by simp [ToolCall.run, function])
  | listRecentFilings =>
      exact unfetched (by simp [cachePk?, function]) (by simp [ToolCall.run, function])
  | readFiling => exact unfetched (by simp [cachePk?, function]) (by simp [ToolCall.run, function])

theorem holds_run (apart : familyOf '#' key ≠ "TOOL_QUOTA".toList) {start : Table}
    (cold : start.getItem key = none) (calls : List ToolCall) :
    Holds key (Foundation.run ToolCall.step start calls) (fetches key start calls).getLast? := by
  induction calls using List.reverseRecOn with
  | nil => exact cold
  | append_singleton earlier call inductionHypothesis =>
      rw [run_concat, fetches_concat, List.getLast?_append]
      have after := inductionHypothesis.step apart call
      cases fetched : call.fetched? key (Foundation.run ToolCall.step start earlier) with
      | none => simpa [fetched] using after
      | some fetch => simpa [fetched] using after

/-! ### Hits and fetches -/

/-- What a look at a row answers after its last fetch. -/
def lookup (env : ToolCallEnv) : Option (Int × String) → Except PyError (Option String)
  | none => .ok none
  | some (cachedAt, payload) =>
      if (3600 : Decimal) < env.now - cachedAt then .ok none
      else (env.validate payload).map some

theorem get_of_holds {last : Option (Int × String)} {env : ToolCallEnv} {symbol : String}
    (row : cache.pk env symbol = key) (holds : Holds key table last) :
    cache.get env table symbol = lookup env last := by
  unfold ToolCache.get
  rw [row]
  cases last with
  | none =>
      rw [show table.getItem key = none from holds]
      rfl
  | some fetch =>
      obtain ⟨stored, found⟩ := holds
      rw [found]
      rfl

/-- A hit was found in the cache, and what is served was not. -/
theorem get_of_runFetch (call : ToolCall) (cache : ToolCache) (table : Table) :
    (∀ text, (call.runFetch cache table).1 = .cacheHit text →
        cache.get call.env table (call.env.upper call.argument) = .ok (some text)) ∧
      ∀ text, (call.runFetch cache table).1 = .served text →
        cache.get call.env table (call.env.upper call.argument) = .ok none := by
  unfold runFetch
  dsimp only
  cases call.env.client with
  | error error => simp
  | ok ready =>
      cases cache.get call.env table (call.env.upper call.argument) with
      | error error => simp
      | ok found =>
          cases found with
          | some payload => obtain ⟨error | ⟨⟩, after⟩ := call.recordCacheHit table <;> simp
          | none =>
              obtain ⟨error | ⟨⟩, after⟩ := call.reserve table
              · simp
              · cases call.env.answer <;> simp

/-- What a cached row answers: a hit within the hour, a request after it. -/
theorem run_of_holds {last : Option (Int × String)} (cached : call.cachePk? = some key)
    (holds : Holds key table last) :
    (∀ text, (call.run table).1 = .cacheHit text → ∃ cachedAt payload,
        last = some (cachedAt, payload) ∧ call.env.validate payload = .ok text ∧
          call.env.now ≤ cachedAt + 3600) ∧
      ∀ text, (call.run table).1 = .served text → ∀ fetch, last = some fetch →
        (fetch.1 : Decimal) + 3600 < call.env.now := by
  have fetch : ∀ cache : ToolCache,
      cache.pk call.env (call.env.upper call.argument) = key →
      (∀ text, (call.runFetch cache table).1 = .cacheHit text → ∃ cachedAt payload,
          last = some (cachedAt, payload) ∧ call.env.validate payload = .ok text ∧
            call.env.now ≤ cachedAt + 3600) ∧
        ∀ text, (call.runFetch cache table).1 = .served text → ∀ fetch, last = some fetch →
          (fetch.1 : Decimal) + 3600 < call.env.now := by
    intro cache row
    obtain ⟨hits, serves⟩ := get_of_runFetch call cache table
    have answer := get_of_holds row holds
    refine ⟨fun text hit => ?_, fun text served ⟨cachedAt, payload⟩ stored => ?_⟩
    · rw [hits text hit] at answer
      rcases last with - | ⟨cachedAt, payload⟩
      · cases answer
      · simp only [lookup] at answer
        split at answer
        next => cases answer
        next fresh =>
          refine ⟨cachedAt, payload, rfl, ?_, by linarith [not_lt.mp fresh]⟩
          cases valid : call.env.validate payload with
          | error error =>
              rw [valid] at answer
              cases answer
          | ok read =>
              rw [valid] at answer
              cases answer
              rfl
    · rw [serves text served, stored] at answer
      simp only [lookup] at answer
      split at answer
      next stale =>
        show (cachedAt : Decimal) + 3600 < call.env.now
        linarith
      next =>
        cases valid : call.env.validate payload with
        | error error =>
            rw [valid] at answer
            cases answer
        | ok read =>
            rw [valid] at answer
            cases answer
  cases function : call.tool.function with
  | fetchNews =>
      have ran : call.run table = call.runFetch .news table := by simp [ToolCall.run, function]
      rw [ran]
      exact fetch .news (by simpa [cachePk?, function] using cached)
  | fetchSocial =>
      have ran : call.run table = call.runFetch .social table := by simp [ToolCall.run, function]
      rw [ran]
      exact fetch .social (by simpa [cachePk?, function] using cached)
  | listRecentFilings => simp [cachePk?, function] at cached
  | readFiling => simp [cachePk?, function] at cached

theorem familyOf_cachePk (cached : call.cachePk? = some key) :
    familyOf '#' key ≠ "TOOL_QUOTA".toList := by
  have ofCache : ∀ cache : ToolCache, cache.Apart →
      familyOf '#' (cache.pk call.env (call.env.upper call.argument)) ≠ "TOOL_QUOTA".toList := by
    intro cache apart
    have family : familyOf '#' (cache.pk call.env (call.env.upper call.argument)) =
        cache.family.toList := familyOf_append (by decide) apart.free
    rw [family]
    exact apart.other
  cases function : call.tool.function with
  | fetchNews =>
      simp only [cachePk?, function, Option.some.injEq] at cached
      exact cached ▸ ofCache _ ToolCache.apart_news
  | fetchSocial =>
      simp only [cachePk?, function, Option.some.injEq] at cached
      exact cached ▸ ofCache _ ToolCache.apart_social
  | listRecentFilings => simp [cachePk?, function] at cached
  | readFiling => simp [cachePk?, function] at cached

/-- Requests that are an hour apart, in order. -/
def HourApart (fetched : List (Int × String)) : Prop :=
  fetched.Pairwise fun earlier later => earlier.1 + 3600 ≤ later.1

theorem HourApart.concat {fetched : List (Int × String)} (apart : HourApart fetched)
    {fetch : Int × String}
    (waits : ∀ last, fetched.getLast? = some last → last.1 + 3600 ≤ fetch.1) :
    HourApart (fetched ++ [fetch]) := by
  unfold HourApart at *
  rw [List.pairwise_append]
  refine ⟨apart, List.pairwise_singleton .., fun earlier member other isFetch => ?_⟩
  rw [List.mem_singleton.mp isFetch]
  cases final : fetched.getLast? with
  | none =>
      rw [List.getLast?_eq_none_iff.mp final] at member
      cases member
  | some last =>
      have after := waits last final
      obtain ⟨front, rfl⟩ := List.getLast?_eq_some_iff.mp final
      rcases List.mem_append.mp member with inFront | isLast
      · have before := (List.pairwise_append.mp apart).2.2 earlier inFront last
          (List.mem_singleton_self last)
        omega
      · rw [List.mem_singleton.mp isLast]
        exact after

/-- From a table without a row for a symbol, under all calls of all strategies: requests
for the symbol that are served are an hour apart, and a hit hands out what the last one
answered, no more than an hour before. -/
theorem cache_run {key : String} {start : Table} (cold : start.getItem key = none)
    (calls : List ToolCall) :
    HourApart (fetches key start calls) ∧
      ∀ (next : ToolCall) (text : String), next.cachePk? = some key →
        (next.run (Foundation.run ToolCall.step start calls)).1 = .cacheHit text →
          ∃ cachedAt payload, (fetches key start calls).getLast? = some (cachedAt, payload) ∧
            next.env.validate payload = .ok text ∧ next.env.now ≤ cachedAt + 3600 := by
  constructor
  · induction calls using List.reverseRecOn with
    | nil => exact List.Pairwise.nil
    | append_singleton earlier call inductionHypothesis =>
        rw [fetches_concat]
        cases fetched : call.fetched? key (Foundation.run ToolCall.step start earlier) with
        | none => simpa using inductionHypothesis
        | some fetch =>
            refine inductionHypothesis.concat fun last final => ?_
            unfold fetched? at fetched
            split at fetched
            next cached =>
              have holds := holds_run (familyOf_cachePk cached) cold earlier
              split at fetched
              next payload served =>
                have stale := (run_of_holds cached holds).2 payload served last final
                obtain rfl := Option.some.inj fetched
                show last.1 + 3600 ≤ call.env.now.floor
                have reached : ((last.1 + 3600 : Int) : Decimal) ≤ call.env.now := by
                  push_cast
                  exact stale.le
                exact Rat.le_floor_iff.mpr reached
              next => cases fetched
              next => cases fetched
            next => cases fetched
  · intro next text cached hit
    exact (run_of_holds cached (holds_run (familyOf_cachePk cached) cold calls)).1 text hit

/-- A call for news of AAPL. -/
def newsOfAapl (context : ToolContext) (now : Decimal) (answer : Except PyError String) :
    ToolCall where
  tool := ⟨.fetchNews, context, 50⟩
  env := { now, upper := String.toUpper, client := .ok (), validate := .ok, answer }
  argument := "aapl"

/-- A request that fails, two that are served an hour apart, and calls of another
organisation in between. -/
def newsDay : List ToolCall :=
  [newsOfAapl ⟨"strategy-s", "acme"⟩ 0 (.error (.external "timeout")),
    newsOfAapl ⟨"strategy-s", "acme"⟩ 5 (.ok "[1]"),
    newsOfAapl ⟨"strategy-t", "other"⟩ 1800 (.ok "[2]"),
    newsOfAapl ⟨"strategy-t", "other"⟩ 3606 (.ok "[3]")]

theorem cache_run_newsDay :
    HourApart (fetches "NEWS#AAPL#cache" Dict.empty newsDay) ∧
      fetches "NEWS#AAPL#cache" Dict.empty newsDay = [(5, "[1]"), (3606, "[3]")] :=
  ⟨(cache_run rfl newsDay).1, by decide +kernel⟩

end TradingStrands.ToolCall
