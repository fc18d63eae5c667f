import TradingStrands.TaComputer.Closes

/-!
Proves what runs of the computer leave. A run does to the rows of a symbol what
computing that symbol alone does, whichever other symbols fail, and its counts are
those of the outcomes. Over any sequence of runs the newest snapshot of a symbol is
the one of the last run that wrote it, computed from the stored bars that the run
saw.
-/

namespace TradingStrands.TaComputer

open TradingStrands.Foundation TASnapshotStore MarketDataStore

section Computing

variable (sqrt : Decimal → Decimal)

/-- The snapshot that is made for a symbol. -/
def made (symbol : String) (calls : SymbolCalls) : Option TASnapshot :=
  match gatherRecentCloses calls.getHour symbol calls.gatheredAt with
  | .error _ => none
  | .ok closes =>
      if closes = [] then none
      else (TaSnapshot.computeSnapshot sqrt closes).toOption.map fun indicators =>
        { indicators with symbol, computedAt := calls.computedAt }

/-- The snapshot of a symbol that reaches the table. -/
def kept (symbol : String) (calls : SymbolCalls) : Option TASnapshot :=
  if calls.putSnapshot.keeps = true then made sqrt symbol calls else none

theorem made_fields {symbol : String} {calls : SymbolCalls} {snap : TASnapshot}
    (isMade : made sqrt symbol calls = some snap) :
    snap.symbol = symbol ∧ snap.computedAt = calls.computedAt := by
  unfold made at isMade
  split at isMade
  next => cases isMade
  next closes _ =>
    by_cases none : closes = []
    · rw [if_pos none] at isMade
      cases isMade
    · rw [if_neg none] at isMade
      obtain ⟨indicators, -, rfl⟩ := Option.map_eq_some_iff.mp isMade
      exact ⟨rfl, rfl⟩

theorem kept_fields {symbol : String} {calls : SymbolCalls} {snap : TASnapshot}
    (isKept : kept sqrt symbol calls = some snap) :
    snap.symbol = symbol ∧ snap.computedAt = calls.computedAt := by
  unfold kept at isKept
  split at isKept
  · exact made_fields sqrt isKept
  · cases isKept

/-- Computing a symbol writes the snapshot that reaches the table, if there is one. -/
theorem snd_runComputeForSymbol (symbol : String) (calls : SymbolCalls)
    (table : TASnapshotTable) :
    (runComputeForSymbol sqrt symbol calls table).2 =
      run putSnapshot table (kept sqrt symbol calls).toList := by
  unfold runComputeForSymbol kept made
  cases gatherRecentCloses calls.getHour symbol calls.gatheredAt with
  | error error =>
      dsimp only
      rw [ite_self]
      rfl
  | ok closes =>
      dsimp only
      by_cases none : closes = []
      · rw [if_pos none, if_pos none, ite_self]
        rfl
      · rw [if_neg none, if_neg none]
        cases TaSnapshot.computeSnapshot sqrt closes with
        | error error =>
            dsimp only [Except.toOption]
            rw [Option.map_none, ite_self]
            rfl
        | ok indicators =>
            dsimp only [Except.toOption]
            cases calls.putSnapshot with
            | stored => rfl
            | raises error lands => cases lands <;> rfl

theorem snd_runSymbols (calls : String → SymbolCalls) (symbols : List String)
    (summary : RunSummary) (table : TASnapshotTable) :
    (runSymbols sqrt calls symbols summary table).2 =
      run putSnapshot table (symbols.filterMap fun symbol => kept sqrt symbol (calls symbol)) := by
  induction symbols generalizing summary table with
  | nil => rfl
  | cons symbol rest inductionHypothesis =>
      rw [runSymbols, inductionHypothesis, snd_runComputeForSymbol, ← run_append]
      congr 1
      rw [List.filterMap_cons]
      cases kept sqrt symbol (calls symbol) <;> rfl

/-- The rows of a symbol are changed by its own snapshots alone. -/
theorem heldFor_run_filter (snaps : List TASnapshot) (table : TASnapshotTable) (symbol : String)
    (hour : Int) :
    heldFor (run putSnapshot table snaps) symbol hour =
      heldFor (run putSnapshot table (snaps.filter fun snap => snap.symbol = symbol)) symbol
        hour := by
  induction snaps using List.reverseRecOn with
  | nil => rfl
  | append_singleton snaps snap inductionHypothesis =>
      rw [run_concat, heldFor_putSnapshot, inductionHypothesis, List.filter_append]
      by_cases own : snap.symbol = symbol
      · rw [List.filter_singleton, decide_eq_true own, cond_true, run_concat,
          heldFor_putSnapshot]
      · rw [if_neg fun both => own both.1, List.filter_singleton, decide_eq_false own, cond_false,
          List.append_nil]

/-- Of the snapshots that some symbols make, those of one symbol are its own. -/
theorem filter_kept (calls : String → SymbolCalls) {symbols : List String}
    (nodup : symbols.Nodup) (symbol : String) :
    (symbols.filterMap fun other => kept sqrt other (calls other)).filter
        (fun snap => snap.symbol = symbol) =
      if symbol ∈ symbols then (kept sqrt symbol (calls symbol)).toList else [] := by
  have own : ∀ other snap, kept sqrt other (calls other) = some snap → snap.symbol = other :=
    fun other snap isKept => (kept_fields sqrt isKept).1
  induction symbols with
  | nil => rfl
  | cons other rest inductionHypothesis =>
      obtain ⟨fresh, nodupRest⟩ := List.nodup_cons.mp nodup
      rw [List.filterMap_cons]
      by_cases here : symbol = other
      · subst here
        have restNone := inductionHypothesis nodupRest
        rw [if_neg fresh] at restNone
        rw [if_pos List.mem_cons_self]
        cases isKept : kept sqrt symbol (calls symbol) with
        | none => exact restNone
        | some snap =>
            dsimp only
            rw [List.filter_cons_of_pos (by simpa using own symbol snap isKept), restNone]
            rfl
      · have elsewhere : symbol ∈ other :: rest ↔ symbol ∈ rest := by
          rw [List.mem_cons, or_iff_right here]
        simp only [elsewhere]
        cases isKept : kept sqrt other (calls other) with
        | none => exact inductionHypothesis nodupRest
        | some snap =>
            have notOwn : ¬ snap.symbol = symbol := fun same =>
              here (same.symm.trans (own other snap isKept))
            dsimp only
            rw [List.filter_cons_of_neg (by simpa using notOwn)]
            exact inductionHypothesis nodupRest

/-! ### One run -/

/-- How often each outcome occurs. -/
theorem fst_runSymbols (calls : String → SymbolCalls) (symbols : List String)
    (summary : RunSummary) (table : TASnapshotTable)
    (outcome : String → Except PyError Bool)
    (outcomes : ∀ symbol table, (runComputeForSymbol sqrt symbol (calls symbol) table).1 =
      outcome symbol) :
    (runSymbols sqrt calls symbols summary table).1 =
      (symbols.map outcome).foldl RunSummary.count summary := by
  induction symbols generalizing summary table with
  | nil => rfl
  | cons symbol rest inductionHypothesis =>
      rw [runSymbols, inductionHypothesis, outcomes]
      rfl

/-- The outcome for a symbol does not depend on the table. -/
theorem fst_runComputeForSymbol (symbol : String) (calls : SymbolCalls)
    (table other : TASnapshotTable) :
    (runComputeForSymbol sqrt symbol calls table).1 =
      (runComputeForSymbol sqrt symbol calls other).1 := by
  unfold runComputeForSymbol
  cases gatherRecentCloses calls.getHour symbol calls.gatheredAt with
  | error error => rfl
  | ok closes =>
      dsimp only
      by_cases none : closes = []
      · rw [if_pos none, if_pos none]
      · rw [if_neg none, if_neg none]
        cases TaSnapshot.computeSnapshot sqrt closes with
        | error error => rfl
        | ok indicators => cases calls.putSnapshot <;> rfl

theorem foldl_count (outcomes : List (Except PyError Bool)) (summary : RunSummary) :
    outcomes.foldl RunSummary.count summary =
      { totalSymbols := summary.totalSymbols
        written := summary.written + outcomes.countP fun outcome => outcome.toOption = some true
        skipped := summary.skipped + outcomes.countP fun outcome => outcome.toOption = some false
        errors := summary.errors + outcomes.countP fun outcome => outcome.toOption = none } := by
  induction outcomes generalizing summary with
  | nil => rfl
  | cons outcome rest inductionHypothesis =>
      rw [List.foldl_cons, inductionHypothesis]
      simp only [List.countP_cons]
      rcases outcome with error | written
      · simp [RunSummary.count, Except.toOption]
        omega
      · cases written
        · simp [RunSummary.count, Except.toOption]
          omega
        · simp [RunSummary.count, Except.toOption]
          omega

/-- One run makes no snapshot but those of its symbols, each as if it were computed
alone; and it counts every symbol once, by its own outcome. -/
theorem runAll_isolated (upper : String → String) (strategies : List Strategy)
    (calls : String → SymbolCalls) (table : TASnapshotTable) :
    let symbols := collectWatchedSymbols upper strategies
    let outcomes := (inOrder symbols).map fun symbol =>
      (runComputeForSymbol sqrt symbol (calls symbol) table).1
    let after := runAll sqrt upper (.ok strategies) calls table
    after.1 = .ok
        { totalSymbols := symbols.card
          written := outcomes.countP fun outcome => outcome.toOption = some true
          skipped := outcomes.countP fun outcome => outcome.toOption = some false
          errors := outcomes.countP fun outcome => outcome.toOption = none } ∧
      ∀ symbol hour, heldFor after.2 symbol hour =
        heldFor (if symbol ∈ symbols then (runComputeForSymbol sqrt symbol (calls symbol) table).2
          else table) symbol hour := by
  intro symbols outcomes after
  constructor
  · have counted := fst_runSymbols sqrt calls (inOrder symbols) { totalSymbols := symbols.card }
      table _ fun symbol other => fst_runComputeForSymbol sqrt symbol (calls symbol) other table
    show Except.ok (runSymbols sqrt calls (inOrder symbols) { totalSymbols := symbols.card }
      table).1 = _
    rw [counted, foldl_count]
    simp only [Nat.zero_add]
    rfl
  · intro symbol hour
    show heldFor (runSymbols sqrt calls (inOrder symbols) { totalSymbols := symbols.card }
      table).2 symbol hour = _
    rw [snd_runSymbols, heldFor_run_filter,
      filter_kept sqrt calls (nodup_inOrder symbols) symbol]
    simp only [mem_inOrder, snd_runComputeForSymbol]
    split <;> rfl

/-! ### Any sequence of runs -/

/-- What one run reads. -/
structure RunInput where
  strategies : Except PyError (List Strategy)
  calls : String → SymbolCalls

variable (upper : String → String)

def stepRun (table : TASnapshotTable) (input : RunInput) : TASnapshotTable :=
  (runAll sqrt upper input.strategies input.calls table).2

/-- The snapshots that a run leaves, in order. -/
def writes (input : RunInput) : List TASnapshot :=
  match input.strategies with
  | .error _ => []
  | .ok strategies =>
      (inOrder (collectWatchedSymbols upper strategies)).filterMap fun symbol =>
        kept sqrt symbol (input.calls symbol)

/-- The snapshot that a run leaves for a symbol. -/
def writtenFor (symbol : String) (input : RunInput) : Option TASnapshot :=
  match input.strategies with
  | .error _ => none
  | .ok strategies =>
      if symbol ∈ collectWatchedSymbols upper strategies then
        kept sqrt symbol (input.calls symbol)
      else none

theorem stepRun_eq (table : TASnapshotTable) (input : RunInput) :
    stepRun sqrt upper table input = run putSnapshot table (writes sqrt upper input) := by
  unfold stepRun runAll writes
  cases input.strategies with
  | error error => rfl
  | ok strategies => exact snd_runSymbols sqrt input.calls _ _ table

theorem run_stepRun (table : TASnapshotTable) (inputs : List RunInput) :
    run (stepRun sqrt upper) table inputs =
      run putSnapshot table (inputs.flatMap (writes sqrt upper)) := by
  induction inputs generalizing table with
  | nil => rfl
  | cons input rest inductionHypothesis =>
      rw [run_cons, inductionHypothesis, stepRun_eq, List.flatMap_cons, run_append]

theorem filter_writes (symbol : String) (inputs : List RunInput) :
    (inputs.flatMap (writes sqrt upper)).filter (fun snap => snap.symbol = symbol) =
      inputs.filterMap (writtenFor sqrt upper symbol) := by
  have one : ∀ input, (writes sqrt upper input).filter (fun snap => snap.symbol = symbol) =
      (writtenFor sqrt upper symbol input).toList := by
    intro input
    unfold writes writtenFor
    cases input.strategies with
    | error error => rfl
    | ok strategies =>
        dsimp only
        rw [filter_kept sqrt input.calls (nodup_inOrder _) symbol]
        simp only [mem_inOrder]
        split <;> rfl
  induction inputs with
  | nil => rfl
  | cons input rest inductionHypothesis =>
      rw [List.flatMap_cons, List.filter_append, one, inductionHypothesis, List.filterMap_cons]
      cases writtenFor sqrt upper symbol input <;> rfl

theorem writtenFor_fields {symbol : String} {input : RunInput} {snap : TASnapshot}
    (written : writtenFor sqrt upper symbol input = some snap) :
    snap.symbol = symbol ∧ snap.computedAt = (input.calls symbol).computedAt := by
  unfold writtenFor at written
  split at written
  next => cases written
  next strategies _ =>
    split at written
    · exact kept_fields sqrt written
    · cases written

/-- After any runs whose clocks do not run back, the newest snapshot of a symbol is
the one that the last run to write the symbol made, if it is of one of the last
seven hours. -/
theorem getLatest_stepRun {inputs : List RunInput} {symbol : String} {now : Int}
    (clocks : inputs.Pairwise fun left right =>
      (left.calls symbol).computedAt ≤ (right.calls symbol).computedAt)
    (past : ∀ input ∈ inputs, (input.calls symbol).computedAt ≤ now) :
    getLatest (run (stepRun sqrt upper) Dict.empty inputs) now symbol =
      (inputs.filterMap (writtenFor sqrt upper symbol)).getLast?.filter fun snap =>
        now / 3600 - 6 ≤ snap.computedAt / 3600 := by
  have ordered : (inputs.filterMap (writtenFor sqrt upper symbol)).Pairwise fun left right =>
      left.computedAt ≤ right.computedAt := by
    refine clocks.filterMap _ fun left right order first isFirst second isSecond => ?_
    rw [(writtenFor_fields sqrt upper isFirst).2, (writtenFor_fields sqrt upper isSecond).2]
    exact order
  have earlier : ∀ snap ∈ inputs.flatMap (writes sqrt upper), snap.symbol = symbol →
      snap.computedAt ≤ now := by
    intro snap member ofSymbol
    have own : snap ∈ (inputs.flatMap (writes sqrt upper)).filter
        (fun snap => snap.symbol = symbol) :=
      List.mem_filter.mpr ⟨member, decide_eq_true ofSymbol⟩
    rw [filter_writes] at own
    obtain ⟨input, inInputs, written⟩ := List.mem_filterMap.mp own
    rw [(writtenFor_fields sqrt upper written).2]
    exact past input inInputs
  rw [run_stepRun, getLatest_run (by rwa [filter_writes]) earlier, filter_writes]
  rfl

/-! ### Runs over the market data store -/

/-- A run that reads the bars which some processes have written by then. -/
structure StoreRun (ι : Type) where
  strategies : Except PyError (List Strategy)
  events : List (Feed.Event ι)
  gatheredAt : ℚ
  computedAt : Int
  putSnapshot : String → PutFate

variable {ι : Type} [DecidableEq ι]

namespace StoreRun

def store (storeRun : StoreRun ι) : MarketDataStore :=
  { table := Feed.tableAfter storeRun.events }

def input (storeRun : StoreRun ι) : RunInput where
  strategies := storeRun.strategies
  calls := fun symbol =>
    { getHour := hourReads storeRun.store
      gatheredAt := storeRun.gatheredAt
      computedAt := storeRun.computedAt
      putSnapshot := storeRun.putSnapshot symbol }

/-- The strategies are listed, an active one has the symbol, there is a recent bar
of it, and the write is kept. -/
def Writes (symbol : String) (storeRun : StoreRun ι) : Prop :=
  (∃ strategies, storeRun.strategies = .ok strategies ∧
      symbol ∈ collectWatchedSymbols upper strategies) ∧
    recentBars storeRun.store symbol storeRun.gatheredAt ≠ [] ∧
    (storeRun.putSnapshot symbol).keeps = true

/-- The snapshot of a run is computed from the closes of the recent bars, in the
order of their last ticks. -/
def MadeBy (symbol : String) (storeRun : StoreRun ι) (snap : TASnapshot) : Prop :=
  snap.symbol = symbol ∧ snap.computedAt = storeRun.computedAt ∧
    ∃ bars : List StoredBar, bars.Perm (recentBars storeRun.store symbol storeRun.gatheredAt) ∧
      (bars.Pairwise fun left right => left.lastTs < right.lastTs) ∧
      TaSnapshot.computeSnapshot sqrt (bars.map (·.closePrice)) = .ok snap.toIndicators

/-- A run leaves a snapshot of the symbol exactly if it writes, and it is computed
from the recent bars. -/
theorem writtenFor_input (symbol : String) (storeRun : StoreRun ι) :
    (storeRun.Writes upper symbol →
        ∃ snap, writtenFor sqrt upper symbol storeRun.input = some snap ∧
          storeRun.MadeBy sqrt symbol snap) ∧
      (¬ storeRun.Writes upper symbol → writtenFor sqrt upper symbol storeRun.input = none) := by
  have filed : Filed storeRun.store.table := Feed.filed_tableAfter storeRun.events
  obtain ⟨bars, gathered, perm, ascending⟩ :=
    gatherRecentCloses_of_filed filed symbol storeRun.gatheredAt
  have read : gatherRecentCloses (storeRun.input.calls symbol).getHour symbol
      (storeRun.input.calls symbol).gatheredAt = .ok (bars.map (·.closePrice)) := gathered
  obtain ⟨indicators, computed, -, -⟩ :=
    TaSnapshot.computeSnapshot_present sqrt (bars.map (·.closePrice))
  have isMade : made sqrt symbol (storeRun.input.calls symbol) =
      if bars = [] then none
      else some { indicators with symbol, computedAt := storeRun.computedAt } := by
    unfold made
    rw [read]
    simp only [List.map_eq_nil_iff, computed]
    rfl
  have someBar : bars = [] ↔ recentBars storeRun.store symbol storeRun.gatheredAt = [] := by
    rw [← List.length_eq_zero_iff, perm.length_eq, List.length_eq_zero_iff]
  constructor
  · rintro ⟨⟨strategies, listed, watched⟩, recent, keeps⟩
    refine ⟨{ indicators with symbol, computedAt := storeRun.computedAt }, ?_, rfl, rfl, bars, perm,
      ascending, computed⟩
    unfold writtenFor input
    dsimp only
    rw [listed]
    dsimp only
    rw [if_pos watched]
    unfold kept
    rw [if_pos keeps]
    exact isMade.trans (if_neg fun none => recent (someBar.mp none))
  · intro writesNot
    refine Option.eq_none_iff_forall_ne_some.mpr fun snap written => writesNot ?_
    unfold writtenFor at written
    split at written
    next => cases written
    next strategies listed =>
      split at written
      next watched =>
        unfold kept at written
        rw [isMade] at written
        split at written
        next keeps =>
          refine ⟨⟨strategies, listed, watched⟩, fun none => ?_, keeps⟩
          rw [if_pos (someBar.mpr none)] at written
          cases written
        next => cases written
      next => cases written

end StoreRun

/-- What a reader finds after any runs over the market data store whose clocks do not
run back: the snapshot of the last run that wrote the symbol, computed from the
closes of the bars which were stored and recent for that run; nothing, if there is
no such run or its clock hour is over six before the reader's. -/
theorem getLatest_storeRuns {runs : List (StoreRun ι)} {now : Int}
    (clocks : runs.Pairwise fun left right => left.computedAt ≤ right.computedAt)
    (past : ∀ storeRun ∈ runs, storeRun.computedAt ≤ now) (symbol : String) :
    let found := getLatest (run (stepRun sqrt upper) Dict.empty (runs.map (·.input))) now symbol
    (∀ before storeRun after, runs = before ++ storeRun :: after →
        storeRun.Writes upper symbol → (∀ later ∈ after, ¬ later.Writes upper symbol) →
        if now / 3600 - 6 ≤ storeRun.computedAt / 3600 then
          ∃ snap, found = some snap ∧ storeRun.MadeBy sqrt symbol snap
        else found = none) ∧
      ((∀ storeRun ∈ runs, ¬ storeRun.Writes upper symbol) → found = none) := by
  intro found
  have inputs : found = ((runs.map (·.input)).filterMap
      (writtenFor sqrt upper symbol)).getLast?.filter fun snap =>
        now / 3600 - 6 ≤ snap.computedAt / 3600 := by
    refine getLatest_stepRun sqrt upper ?_ ?_
    · rw [List.pairwise_map]
      exact clocks
    · intro input member
      obtain ⟨storeRun, inRuns, rfl⟩ := List.mem_map.mp member
      exact past storeRun inRuns
  have silent : ∀ later : List (StoreRun ι), (∀ storeRun ∈ later, ¬ storeRun.Writes upper symbol) →
      (later.map (·.input)).filterMap (writtenFor sqrt upper symbol) = [] := by
    intro later none
    rw [List.filterMap_map, List.filterMap_eq_nil_iff]
    exact fun storeRun member =>
      (storeRun.writtenFor_input sqrt upper symbol).2 (none storeRun member)
  constructor
  · rintro before storeRun after rfl writes none
    obtain ⟨snap, written, madeBy⟩ := (storeRun.writtenFor_input sqrt upper symbol).1 writes
    have last : ((before ++ storeRun :: after).map (·.input)).filterMap
        (writtenFor sqrt upper symbol) =
          (before.map (·.input)).filterMap (writtenFor sqrt upper symbol) ++ [snap] := by
      rw [List.map_append, List.filterMap_append, List.map_cons, List.filterMap_cons, written,
        silent after none]
    rw [inputs, last, List.getLast?_concat, Option.filter_some, madeBy.2.1]
    simp only [decide_eq_true_eq]
    split
    · exact ⟨snap, rfl, madeBy⟩
    · rfl
  · intro none
    rw [inputs, silent runs none]
    rfl

end Computing

/-- One tick, its bar written, and a run a quarter of a minute later. -/
def openingRun (fate : PutFate) : StoreRun Unit where
  strategies := .ok [{ strategyId := "s1", orgId := "o1", authorUserId := "u1", name := "Index"
                       markdown := "", symbols := ["spy"], createdAt := 0, updatedAt := 0 }]
  events := [.call () 90 (.recordTick { timestamp := 1777213985, symbol := "SPY", price := 500 }
      1777213985 fun _ => none), .call () 90 (.flush 1777213985 fun _ => none)]
  gatheredAt := 1777214000
  computedAt := 1777214000
  putSnapshot := fun _ => fate

/-- The second run fails to write, so the snapshot of the first is found an hour
later. -/
theorem getLatest_storeRuns_second_fails :
    ∃ snap, getLatest (run (stepRun id String.toUpper) Dict.empty
        ([openingRun .stored, openingRun (.raises (.external "throttled") false)].map (·.input)))
          1777217600 "SPY" = some snap ∧
      (openingRun .stored).MadeBy id "SPY" snap := by
  have writes : (openingRun .stored).Writes String.toUpper "SPY" :=
    ⟨⟨_, rfl, by decide +kernel⟩, by decide +kernel, rfl⟩
  have silent : ∀ later ∈ [openingRun (.raises (.external "throttled") false)],
      ¬ later.Writes String.toUpper "SPY" := by
    intro later member lands
    rw [List.mem_singleton.mp member] at lands
    cases lands.2.2
  have past : ∀ storeRun ∈ [openingRun .stored, openingRun (.raises (.external "throttled") false)],
      storeRun.computedAt ≤ 1777217600 := by decide
  exact (getLatest_storeRuns id String.toUpper (by decide) past "SPY").1 [] _ _ rfl writes silent

end TradingStrands.TaComputer
