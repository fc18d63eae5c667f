import TradingStrands.EdgarWatcher.Progress

/-!
Owns what a run over a ticker's filings promises, and when it does. The failures
that are guarded cost the filing they happen at and nothing else, and a later run
asks for exactly these filings again. The others end the run, and with it the run
over the tickers.
-/

namespace TradingStrands.EdgarWatcher

open TradingStrands.Foundation FilingsIndexStore

section Runs

variable {builtins : Builtins} {ticker : String} {start state : WatchState} {turns : List Turn} {landed : Nat}

/-- The body under which a row is kept is still the row's. -/
def KeepsBodies (builtins : Builtins) (ticker : String) (start : Table) (turns : List Turn) :
    Prop :=
  ∀ before turn rest, Writes builtins ticker start turns before turn rest →
    ∀ other, Turn.lastBody builtins ticker start (before ++ [turn]) rest
      (turn.bodyKey builtins ticker) = some other → other = turn.body

/-- A filing failed if a call made for it did, wherever it stands in the feed. -/
def FailedFiling (builtins : Builtins) (ticker : String) (start : Table) (turns : List Turn)
    (accession : String) : Prop :=
  (∃ turn ∈ turns, turn.filing.accession = accession) ∧
    ∀ before turn rest, turns = before ++ turn :: rest → turn.filing.accession = accession →
      turn.Fails builtins ticker start before

/-- Where no filing ends the run, those that failed are those it has not indexed. -/
theorem Progress.failed_iff (progress : Progress builtins ticker start turns landed state)
    (clear : Clear (Turn.Raises builtins ticker start.index) turns) (accession : String) :
    FailedFiling builtins ticker start.index turns accession ↔
      (∃ turn ∈ turns, turn.filing.accession = accession) ∧
        state.index.getItem (pk builtins ticker accession) = none := by
  unfold FailedFiling
  refine and_congr_right fun listed => ?_
  rw [progress.absent]
  constructor
  · intro fails
    have each : ∀ before turn rest, turns = before ++ turn :: rest →
        turn.filing.accession = accession →
          turn.asks builtins ticker start.index before = true ∧ turn.lands = false := by
      intro before turn rest cut same
      have goesOn := clear before turn rest cut
      rcases fails before turn rest cut same with raises | ⟨asks, lost⟩
      · exact absurd (Or.inl raises) goesOn
      · refine ⟨asks, lost.elim id fun unwritten => ?_⟩
        exact Bool.not_eq_true _ ▸ fun lands => goesOn (Or.inr ⟨asks, lands, unwritten⟩)
    refine ⟨?_, fun turn member same => ?_⟩
    · obtain ⟨turn, member, rfl⟩ := listed
      obtain ⟨before, rest, cut⟩ := List.append_of_mem member
      exact (Turn.asks_iff.mp (each before turn rest cut rfl).1).1
    · obtain ⟨before, rest, cut⟩ := List.append_of_mem member
      exact (each before turn rest cut same).2
  · rintro ⟨absent, lost⟩ before turn rest cut rfl
    refine Or.inr ⟨Turn.asks_iff.mpr ⟨absent, fun earlier member same => ?_⟩, Or.inl ?_⟩
    · refine lost earlier ?_ same
      rw [cut]
      exact List.mem_append_left _ member
    · refine lost turn ?_ rfl
      rw [cut]
      exact List.mem_append_cons_self

theorem exists_mem_turnsOf {filings : List Filing} {calls : Nat → FilingCalls}
    {accession : String} :
    (∃ turn ∈ turnsOf filings calls, turn.filing.accession = accession) ↔
      ∃ filing ∈ filings, filing.accession = accession := by
  unfold turnsOf
  constructor
  · rintro ⟨turn, member, same⟩
    obtain ⟨index, bound, rfl⟩ := List.mem_mapIdx.mp member
    exact ⟨_, List.getElem_mem bound, same⟩
  · rintro ⟨filing, member, same⟩
    obtain ⟨index, bound, rfl⟩ := List.mem_iff_getElem.mp member
    exact ⟨_, List.mem_mapIdx.mpr ⟨index, bound, rfl⟩, same⟩

end Runs

section Promise

variable (builtins : Builtins) (str : JsonValue → String) (ticker cik : String)

/-- What a run that returns is to leave. -/
structure Ingested (raw : JsonValue) (formTypes : Option (List String)) (start : WatchState)
    (turns : List Turn) (landed : Nat) (after : WatchState) : Prop where
  /-- A filing none of whose own calls failed is in the index. -/
  indexed : ∀ before turn rest, turns = before ++ turn :: rest →
    ¬ turn.Fails builtins ticker start.index before →
      after.index.getItem (pk builtins ticker turn.filing.accession) ≠ none
  counted : after.index.entries.length = start.index.entries.length + landed
  kept : ∀ key row, start.index.getItem key = some row → after.index.getItem key = some row
  /-- Each row that was not there is the row of a filing that landed. -/
  written : ∀ key row, after.index.getItem key = some row → start.index.getItem key = some row ∨
    ∃ before turn rest, Writes builtins ticker start.index turns before turn rest ∧
      key = pk builtins ticker turn.filing.accession ∧ row = turn.item builtins ticker
  /-- Its body is kept under the key it names. -/
  backed : ∀ before turn rest, Writes builtins ticker start.index turns before turn rest →
    after.index.getItem (pk builtins ticker turn.filing.accession) =
        some (turn.item builtins ticker) ∧
      (turn.item builtins ticker).attr? "body_s3_key" =
        some (.text (turn.bodyKey builtins ticker)) ∧
      after.bodies.get? (turn.bodyKey builtins ticker) = some turn.body
  /-- A later run over the same payload that returns asks for the filings that
  failed and for no others. -/
  retried : ∀ calls landed last, processTicker builtins str ticker cik (.ok raw) formTypes calls
      { after with asked := [] } = (.ok landed, last) →
    ∀ accession, last.AskedFor accession ↔
      FailedFiling builtins ticker start.index turns accession

/-- The ingestion of a payload returns, and leaves what it is to leave. -/
def FailureIsolated (raw : JsonValue) (formTypes : Option (List String))
    (calls : Nat → FilingCalls) (start : WatchState) : Prop :=
  ∃ filings landed after, watchedFilings builtins str ticker formTypes raw = .ok filings ∧
    processTicker builtins str ticker cik (.ok raw) formTypes calls start = (.ok landed, after) ∧
      Ingested builtins str ticker cik raw formTypes start (turnsOf filings calls) landed after

/-- The payload is read, at no filing is the run ended, and no body of a row is
stored over by the body of another filing. -/
def Undisturbed (raw : JsonValue) (formTypes : Option (List String))
    (calls : Nat → FilingCalls) (start : WatchState) : Prop :=
  ∃ filings, watchedFilings builtins str ticker formTypes raw = .ok filings ∧
    Clear (Turn.Raises builtins ticker start.index) (turnsOf filings calls) ∧
      KeepsBodies builtins ticker start.index (turnsOf filings calls)

variable {builtins str ticker cik}

theorem processTicker_of_read {raw : JsonValue} {formTypes : Option (List String)}
    {filings : List Filing}
    (read : watchedFilings builtins str ticker formTypes raw = .ok filings)
    (calls : Nat → FilingCalls) (start : WatchState) :
    processTicker builtins str ticker cik (.ok raw) formTypes calls start =
      processFilings builtins ticker cik (turnsOf filings calls) 0 start := by
  unfold processTicker
  dsimp only
  rw [read]

/-- A run that returns has gone through every filing. -/
theorem clear_of_processFilings {turns : List Turn} {start after : WatchState} {landed : Nat}
    (done : processFilings builtins ticker cik turns 0 start = (.ok landed, after)) :
    Clear (Turn.Raises builtins ticker start.index) turns ∧
      Progress builtins ticker start turns landed after := by
  by_cases clear : Clear (Turn.Raises builtins ticker start.index) turns
  · refine ⟨clear, ?_⟩
    obtain ⟨count, last, goes, progress⟩ := @processFilings_of_clear _ _ cik _ _ clear
    cases done.symm.trans goes
    exact progress
  · obtain ⟨error, last, raised⟩ := @processFilings_of_not_clear _ _ cik _ _ clear
    cases done.symm.trans raised

/-- A later run asks for the filings of the payload that are not in the index. -/
theorem askedFor_again {raw : JsonValue} {formTypes : Option (List String)}
    {filings : List Filing}
    (read : watchedFilings builtins str ticker formTypes raw = .ok filings)
    {calls : Nat → FilingCalls} {after last : WatchState} {landed : Nat}
    (again : processTicker builtins str ticker cik (.ok raw) formTypes calls
      { after with asked := [] } = (.ok landed, last)) (accession : String) :
    last.AskedFor accession ↔ (∃ filing ∈ filings, filing.accession = accession) ∧
      after.index.getItem (pk builtins ticker accession) = none := by
  rw [processTicker_of_read read] at again
  have progress := (clear_of_processFilings again).2
  have nothing : ¬ { after with asked := [] : WatchState }.AskedFor accession := by
    rintro ⟨request, member, -⟩
    exact absurd member List.not_mem_nil
  rw [progress.asked, or_iff_right nothing, exists_mem_turnsOf, and_comm]

/-- **Failure isolation.** Ingesting a payload isolates the failures of its calls
exactly where the payload is read, no lookup and no write of a row raises that
the run comes to, and no body of a row is stored over. -/
theorem failureIsolated_iff (builtins : Builtins) (str : JsonValue → String)
    (ticker cik : String) (raw : JsonValue) (formTypes : Option (List String))
    (calls : Nat → FilingCalls) (start : WatchState) :
    FailureIsolated builtins str ticker cik raw formTypes calls start ↔
      Undisturbed builtins str ticker raw formTypes calls start := by
  constructor
  · rintro ⟨filings, landed, after, read, done, ingested⟩
    rw [processTicker_of_read read] at done
    obtain ⟨clear, progress⟩ := clear_of_processFilings done
    refine ⟨filings, read, clear, fun before turn rest writes other stored => ?_⟩
    have kept := progress.bodies before turn rest writes
    rw [stored, (ingested.backed before turn rest writes).2.2] at kept
    exact (Option.some.inj kept).symm
  · rintro ⟨filings, read, clear, keeps⟩
    obtain ⟨landed, after, done, progress⟩ := @processFilings_of_clear _ _ cik _ _ clear
    refine ⟨filings, landed, after, read, (processTicker_of_read read calls start).trans done, ?_⟩
    refine
      { indexed := ?_, counted := progress.added, kept := progress.kept
        written := progress.written, backed := ?_, retried := ?_ }
    · intro before turn rest cut succeeds absent
      obtain ⟨new, lost⟩ := (progress.absent _).mp absent
      refine succeeds (Or.inr ⟨Turn.asks_iff.mpr ⟨new, fun earlier member same => ?_⟩, Or.inl ?_⟩)
      · refine lost earlier ?_ same
        rw [cut]
        exact List.mem_append_left _ member
      · refine lost turn ?_ rfl
        rw [cut]
        exact List.mem_append_cons_self
    · intro before turn rest writes
      refine ⟨progress.row before turn rest writes, rfl, ?_⟩
      rw [progress.bodies before turn rest writes]
      cases later : Turn.lastBody builtins ticker start.index (before ++ [turn]) rest
          (turn.bodyKey builtins ticker) with
      | none => rfl
      | some other => exact congrArg some (keeps before turn rest writes other later)
    · intro again count last returns accession
      rw [askedFor_again read returns, progress.failed_iff clear, exists_mem_turnsOf]

end Promise

/-! ### Forms without a slash -/

section Forms

variable {builtins : Builtins} {str : JsonValue → String} {ticker cik : String}

/-- The last body under a key is that of a filing that was asked for. -/
theorem exists_of_lastBody {start : Table} {before rest : List Turn} {key body : String}
    (stored : Turn.lastBody builtins ticker start before rest key = some body) :
    ∃ between later, (∃ post, rest = between ++ later :: post) ∧
      later.asks builtins ticker start (before ++ between) = true ∧
        later.bodyKey builtins ticker = key := by
  induction rest generalizing before with
  | nil => cases stored
  | cons turn rest inductionHypothesis =>
      rw [Turn.lastBody] at stored
      cases further : Turn.lastBody builtins ticker start (before ++ [turn]) rest key with
      | some other =>
          rw [further] at stored
          cases stored
          obtain ⟨between, later, ⟨post, rfl⟩, asks, same⟩ := inductionHypothesis further
          rw [List.append_assoc, List.singleton_append] at asks
          exact ⟨turn :: between, later, ⟨post, rfl⟩, asks, same⟩
      | none =>
          rw [further] at stored
          by_cases here : turn.asks builtins ticker start before = true ∧ turn.leavesBody = true ∧
              turn.bodyKey builtins ticker = key
          · refine ⟨[], turn, ⟨rest, rfl⟩, ?_, here.2.2⟩
            rw [List.append_nil]
            exact here.1
          · dsimp only at stored
            rw [if_neg here] at stored
            cases stored

/-- A body key is that of one accession where the forms have no slash. -/
theorem accession_of_bodyKey {left right : Turn} (leftFree : FreeOf '/' left.filing.formType)
    (rightFree : FreeOf '/' right.filing.formType)
    (same : left.bodyKey builtins ticker = right.bodyKey builtins ticker) :
    left.filing.accession = right.filing.accession := by
  have rest : left.filing.formType ++ "/" ++ left.filing.accession =
      right.filing.formType ++ "/" ++ right.filing.accession := by
    unfold Turn.bodyKey buildBodyKey at same
    rw [String.append_left_inj] at same
    simp only [String.append_assoc, String.append_right_inj] at same ⊢
    exact same
  have forms : left.filing.formType = right.filing.formType := by
    have families := congrArg (familyOf '/') rest
    rw [familyOf_append (by decide) leftFree, familyOf_append (by decide) rightFree] at families
    exact String.toList_injective families
  rw [forms, String.append_right_inj] at rest
  exact rest

theorem keepsBodies_of_free {start : Table} {turns : List Turn}
    (free : ∀ turn ∈ turns, FreeOf '/' turn.filing.formType) :
    KeepsBodies builtins ticker start turns := by
  rintro before turn rest ⟨cut, -, lands⟩ other stored
  obtain ⟨between, later, ⟨post, rfl⟩, asks, same⟩ := exists_of_lastBody stored
  have inside : turn ∈ turns := by
    rw [cut]
    exact List.mem_append_cons_self
  have after : later ∈ turns := by
    rw [cut]
    exact List.mem_append_right _ (List.mem_cons_of_mem _ (List.mem_append_right _
      List.mem_cons_self))
  have lost := (Turn.asks_iff.mp asks).2 turn
    (List.mem_append_left _ List.mem_append_cons_self)
    (accession_of_bodyKey (free later after) (free turn inside) same).symm
  rw [lands] at lost
  cases lost

/-- With the default forms only a payload that is not read, a lookup and the
write of a row can disturb a run. -/
theorem undisturbed_default_iff {raw : JsonValue} {calls : Nat → FilingCalls}
    {start : WatchState} :
    Undisturbed builtins str ticker raw none calls start ↔
      ∃ filings, watchedFilings builtins str ticker none raw = .ok filings ∧
        Clear (Turn.Raises builtins ticker start.index) (turnsOf filings calls) := by
  refine exists_congr fun filings => and_congr_right fun read => and_iff_left ?_
  refine keepsBodies_of_free fun turn member => ?_
  obtain ⟨index, bound, rfl⟩ := List.mem_mapIdx.mp member
  have form := (mem_parseSubmissionsJson read (List.getElem_mem bound)).2
  have either : filings[index].formType = "8-K" ∨ filings[index].formType = "4" := by
    simpa [wanted, defaultFormTypes] using form
  dsimp only
  rcases either with same | same
  · rw [same]
    decide
  · rw [same]
    decide

end Forms

/-! ### A run over the tickers -/

section Tickers

variable {builtins : Builtins} {str : JsonValue → String} {tickerToCik : Dict String String}
  {feed : Feed}

theorem added_processTicker {ticker cik : String} {submissions : Except PyError JsonValue}
    {formTypes : Option (List String)} {calls : Nat → FilingCalls} {start after : WatchState}
    {landed : Nat} (done : processTicker builtins str ticker cik submissions formTypes calls start =
      (.ok landed, after)) :
    after.index.entries.length = start.index.entries.length + landed := by
  unfold processTicker at done
  cases submissions with
  | error error =>
      cases done
      rfl
  | ok raw =>
      cases read : watchedFilings builtins str ticker formTypes raw with
      | error error =>
          dsimp only at done
          rw [read] at done
          cases done
      | ok filings =>
          dsimp only at done
          rw [read] at done
          exact (clear_of_processFilings done).2.added

/-- A run that returns reports the number of rows it added. -/
theorem added_runTickers {tickers : List String} {report last : RunReport}
    {start after : WatchState}
    (done : runTickers builtins str tickerToCik feed tickers report start = (.ok last, after)) :
    after.index.entries.length + report.landed = start.index.entries.length + last.landed := by
  induction tickers generalizing report start with
  | nil =>
      cases done
      rfl
  | cons ticker rest inductionHypothesis =>
      rw [runTickers] at done
      cases known : tickerToCik.get? ticker with
      | none =>
          rw [known] at done
          dsimp only at done
          have later := inductionHypothesis done
          exact later
      | some cik =>
          rw [known] at done
          dsimp only at done
          rcases here : processTicker builtins str ticker cik (feed.submissions ticker) none
            (feed.calls ticker) start with ⟨error | landed, middle⟩
          · rw [here] at done
            cases done
          · rw [here] at done
            have later := inductionHypothesis done
            have added := added_processTicker here
            dsimp only at later
            omega

/-- Nothing comes after a ticker that raises: what follows it is not processed. -/
theorem runTickers_append_of_error {tickers : List String} {report : RunReport}
    {start after : WatchState} {error : PyError}
    (raised : runTickers builtins str tickerToCik feed tickers report start =
      (.error error, after)) (rest : List String) :
    runTickers builtins str tickerToCik feed (tickers ++ rest) report start =
      (.error error, after) := by
  induction tickers generalizing report start with
  | nil => cases raised
  | cons ticker tickers inductionHypothesis =>
      rw [runTickers] at raised
      rw [List.cons_append, runTickers]
      cases known : tickerToCik.get? ticker with
      | none =>
          rw [known] at raised
          exact inductionHypothesis raised
      | some cik =>
          rw [known] at raised
          dsimp only at raised ⊢
          rcases here : processTicker builtins str ticker cik (feed.submissions ticker) none
            (feed.calls ticker) start with ⟨error | landed, middle⟩
          · rw [here] at raised
            exact raised
          · rw [here] at raised
            exact inductionHypothesis raised

end Tickers

/-! ### A row that cannot be written -/

/-- The language on tickers that are in upper case already. -/
def plainBuiltins : Builtins where
  upper := id
  str
    | .text text => text
    | _ => ""
  int
    | .number value => .ok value
    | _ => .error (.typeError "int() argument must be a number")
  upper_upper _ := rfl
  str_text _ := rfl
  int_number _ := rfl

def plainStr : JsonValue → String
  | .text text => text
  | _ => ""

/-- Two material events of one company. -/
def twoFilings : JsonValue :=
  .map [("filings", .map [("recent", .map [
    ("form", .list [.text "8-K", .text "8-K"]),
    ("accessionNumber", .list [.text "0000320193-26-000002", .text "0000320193-26-000001"]),
    ("filingDate", .list [.text "2026-04-28", .text "2026-04-27"]),
    ("primaryDocument", .list [.text "b.htm", .text "a.htm"])])])]

/-- The row of the first filing is not written, and nothing else fails. -/
def firstRowLost (index : Nat) : FilingCalls where
  indexGet := none
  filingBody := .ok "<html>body</html>"
  bodyPut := .stored
  indexPut := if index = 0 then .raises (.external "ThrottlingException") false else .stored
  indexedAt := 0
  putAt := 0

/-- The run raises, and the second filing is not indexed. -/
theorem not_failureIsolated_firstRowLost :
    ¬ FailureIsolated plainBuiltins plainStr "AAPL" "0000320193" twoFilings none firstRowLost
      { index := Dict.empty, bodies := Dict.empty } := by
  rintro ⟨filings, landed, after, -, done, -⟩
  have raised : (processTicker plainBuiltins plainStr "AAPL" "0000320193" (.ok twoFilings) none
      firstRowLost { index := Dict.empty, bodies := Dict.empty }).1 =
        .error (.external "ThrottlingException") := rfl
  rw [done] at raised
  cases raised

/-- A body that cannot be fetched costs its own filing only. -/
example : (processTicker plainBuiltins plainStr "AAPL" "0000320193" (.ok twoFilings) none
    (fun index => { firstRowLost 1 with
      filingBody := if index = 0 then .error (.external "503") else .ok "<html>body</html>" })
    { index := Dict.empty, bodies := Dict.empty }).1.toOption = some 1 := by
  decide +kernel

end TradingStrands.EdgarWatcher
