import TradingStrands.EdgarWatcher.Watcher

/-!
Owns how a run over a ticker's filings goes on, filing by filing, whichever of
its calls fail. A filing is asked for where it is neither in the index nor has
landed earlier in the run; whether it lands is then up to the calls made for it.
A lookup that raises, and a row that cannot be written, end the run.
-/

namespace TradingStrands.EdgarWatcher

open TradingStrands.Foundation FilingsIndexStore

/-- Whether the body of a filing has been asked for. -/
def WatchState.AskedFor (state : WatchState) (accession : String) : Prop :=
  ∃ request ∈ state.asked, request.2.1 = accession

namespace Turn

/-- The body, if there is one. -/
def body (turn : Turn) : String :=
  match turn.calls.filingBody with
  | .ok body => body
  | .error _ => ""

/-- Whether the body is fetched and its put returns. -/
def lands (turn : Turn) : Bool :=
  match turn.calls.filingBody with
  | .ok _ => turn.calls.bodyPut = .stored
  | .error _ => false

/-- Whether the bucket holds the body afterwards. -/
def leavesBody (turn : Turn) : Bool :=
  match turn.calls.filingBody with
  | .ok _ => turn.calls.bodyPut.keeps
  | .error _ => false

theorem leavesBody_of_lands {turn : Turn} (lands : turn.lands = true) :
    turn.leavesBody = true := by
  unfold Turn.lands at lands
  unfold leavesBody
  cases fetched : turn.calls.filingBody with
  | error error =>
      rw [fetched] at lands
      cases lands
  | ok body =>
      rw [fetched] at lands
      rw [of_decide_eq_true lands]
      rfl

variable (builtins : Builtins) (ticker cik : String)

/-- The row of the filing as the index holds it. -/
def item (turn : Turn) : Item :=
  FilingsIndexStore.item builtins (turn.row builtins ticker turn.body) turn.calls.putAt

/-- What a turn leaves that asks for the body and does not raise. -/
def settle (turn : Turn) (state : WatchState) : WatchState :=
  { index :=
      if turn.lands = true then
        put builtins (turn.row builtins ticker turn.body) turn.calls.putAt state.index
      else state.index
    bodies :=
      if turn.leavesBody = true then state.bodies.set (turn.bodyKey builtins ticker) turn.body
      else state.bodies
    asked := state.asked ++ [(cik, turn.filing.accession, turn.filing.primaryDocument)] }

/-- Whether the body of a filing is asked for after the filings before it. -/
def asks (start : Table) (before : List Turn) (turn : Turn) : Bool :=
  (start.getItem (pk builtins ticker turn.filing.accession)).isNone &&
    before.all fun earlier =>
      earlier.filing.accession ≠ turn.filing.accession || !earlier.lands

/-- The lookup of a filing raises, or finds a row that does not read. -/
def LookupRaises (start : Table) (turn : Turn) : Prop :=
  turn.calls.indexGet ≠ none ∨ Unreadable builtins ticker turn.filing.accession start

/-- The run ends at the filing. -/
def Raises (start : Table) (before : List Turn) (turn : Turn) : Prop :=
  turn.LookupRaises builtins ticker start ∨
    (turn.asks builtins ticker start before = true ∧ turn.lands = true ∧
      turn.calls.indexPut ≠ .stored)

/-- A call made for the filing fails. -/
def Fails (start : Table) (before : List Turn) (turn : Turn) : Prop :=
  turn.LookupRaises builtins ticker start ∨
    (turn.asks builtins ticker start before = true ∧
      (turn.lands = false ∨ turn.calls.indexPut ≠ .stored))

/-- The body that is stored last under a key. -/
def lastBody (start : Table) : List Turn → List Turn → String → Option String
  | _, [], _ => none
  | before, turn :: rest, key =>
      match lastBody start (before ++ [turn]) rest key with
      | some body => some body
      | none =>
          if turn.asks builtins ticker start before = true ∧ turn.leavesBody = true ∧
              turn.bodyKey builtins ticker = key then
            some turn.body
          else none

variable {builtins ticker cik}

theorem asks_iff {start : Table} {before : List Turn} {turn : Turn} :
    turn.asks builtins ticker start before = true ↔
      start.getItem (pk builtins ticker turn.filing.accession) = none ∧
        ∀ earlier ∈ before, earlier.filing.accession = turn.filing.accession →
          earlier.lands = false := by
  unfold asks
  rw [Bool.and_eq_true, Option.isNone_iff_eq_none, List.all_eq_true]
  refine and_congr_right fun _ => forall_congr' fun earlier => forall_congr' fun _ => ?_
  rw [Bool.or_eq_true, decide_eq_true_eq, Bool.not_eq_true', ne_eq, imp_iff_not_or]

theorem lastBody_concat {start : Table} {before rest : List Turn} {last : Turn} {key : String} :
    lastBody builtins ticker start before (rest ++ [last]) key =
      if last.asks builtins ticker start (before ++ rest) = true ∧ last.leavesBody = true ∧
          last.bodyKey builtins ticker = key then
        some last.body
      else lastBody builtins ticker start before rest key := by
  induction rest generalizing before with
  | nil =>
      rw [List.append_nil]
      rfl
  | cons turn rest inductionHypothesis =>
      rw [List.cons_append, lastBody, inductionHypothesis, List.append_assoc, List.singleton_append]
      by_cases final : last.asks builtins ticker start (before ++ turn :: rest) = true ∧
          last.leavesBody = true ∧ last.bodyKey builtins ticker = key
      · rw [if_pos final, if_pos final]
      · rw [if_neg final, if_neg final]
        rfl

end Turn

/-! ### One filing -/

section Step

variable {builtins : Builtins} {ticker cik : String} {turn : Turn} {state : WatchState}

theorem processFiling_of_raises {error : PyError}
    (raises : turn.lookup builtins ticker state = .error error) :
    processFiling builtins ticker cik turn state = (.error error, state) := by
  unfold processFiling
  rw [raises]

theorem processFiling_of_present {filing : FilingIndex}
    (present : turn.lookup builtins ticker state = .ok (some filing)) :
    processFiling builtins ticker cik turn state = (.ok false, state) := by
  unfold processFiling
  rw [present]

/-- A filing that is not there settles, unless its row cannot be written. -/
theorem processFiling_of_absent (absent : turn.lookup builtins ticker state = .ok none)
    (written : turn.lands = true → turn.calls.indexPut = .stored) :
    processFiling builtins ticker cik turn state =
      (.ok turn.lands, turn.settle builtins ticker cik state) := by
  unfold processFiling Turn.settle
  rw [absent]
  unfold Turn.lands at written ⊢
  unfold Turn.leavesBody Turn.body
  dsimp only
  cases fetched : turn.calls.filingBody with
  | error error => rfl
  | ok body =>
      rw [fetched] at written
      cases fate : turn.calls.bodyPut with
      | stored =>
          rw [written (decide_eq_true fate)]
          rfl
      | raises error kept =>
          cases kept <;> rfl

theorem processFiling_of_unwritten (absent : turn.lookup builtins ticker state = .ok none)
    (lands : turn.lands = true) (unwritten : turn.calls.indexPut ≠ .stored) :
    ∃ error after, processFiling builtins ticker cik turn state = (.error error, after) := by
  unfold Turn.lands at lands
  unfold processFiling
  rw [absent]
  dsimp only
  cases fetched : turn.calls.filingBody with
  | error error =>
      rw [fetched] at lands
      cases lands
  | ok body =>
      rw [fetched] at lands
      rw [of_decide_eq_true lands]
      cases fate : turn.calls.indexPut with
      | stored => exact absurd fate unwritten
      | raises error kept => exact ⟨error, _, rfl⟩

end Step

section Settle

variable {builtins : Builtins} {ticker cik : String} {turn : Turn} {state : WatchState}

theorem getItem_settle (key : String) :
    (turn.settle builtins ticker cik state).index.getItem key =
      if turn.lands = true ∧ key = pk builtins ticker turn.filing.accession then
        some (turn.item builtins ticker)
      else state.index.getItem key := by
  unfold Turn.settle
  dsimp only
  by_cases lands : turn.lands = true
  · rw [if_pos lands, put, Table.getItem_putItem]
    simp only [lands, true_and, Turn.row, pk_upper]
    rfl
  · rw [if_neg lands, if_neg fun both => lands both.1]

theorem get?_bodies_settle (key : String) :
    (turn.settle builtins ticker cik state).bodies.get? key =
      if turn.leavesBody = true ∧ turn.bodyKey builtins ticker = key then some turn.body
      else state.bodies.get? key := by
  unfold Turn.settle
  dsimp only
  by_cases leaves : turn.leavesBody = true
  · rw [if_pos leaves, Dict.get?_set]
    simp only [leaves, true_and, eq_comm]
  · rw [if_neg leaves, if_neg fun both => leaves both.1]

theorem length_index_settle
    (absent : state.index.getItem (pk builtins ticker turn.filing.accession) = none) :
    (turn.settle builtins ticker cik state).index.entries.length =
      state.index.entries.length + turn.lands.toNat := by
  unfold Turn.settle
  dsimp only
  cases lands : turn.lands with
  | false => rfl
  | true =>
      have missing : pk builtins ticker turn.filing.accession ∉ state.index.keys :=
        Dict.get?_eq_none_iff.mp absent
      rw [if_pos rfl, put, Turn.row, pk_upper, Table.putItem, Dict.entries_set_of_notMem _ missing,
        List.length_append]
      rfl

/-- A row the run writes reads. -/
theorem unreadable_settle {accession : String}
    (unreadable : Unreadable builtins ticker accession
      (turn.settle builtins ticker cik state).index) :
    Unreadable builtins ticker accession state.index := by
  obtain ⟨error, failed⟩ := unreadable
  unfold FilingsIndexStore.get at failed
  rw [getItem_settle] at failed
  by_cases own : turn.lands = true ∧
      pk builtins ticker accession = pk builtins ticker turn.filing.accession
  · rw [if_pos own] at failed
    dsimp only at failed
    rw [Turn.item, ofItem_item] at failed
    cases failed
  · rw [if_neg own] at failed
    exact ⟨error, failed⟩

end Settle

/-! ### All filings -/

section Runs

variable {builtins : Builtins} {ticker cik : String}

/-- A filing of the run whose row is written, between those before and after it. -/
def Writes (builtins : Builtins) (ticker : String) (start : Table) (turns before : List Turn)
    (turn : Turn) (rest : List Turn) : Prop :=
  turns = before ++ turn :: rest ∧ turn.asks builtins ticker start before = true ∧
    turn.lands = true

/-- What a run over some filings leaves that has not raised. -/
structure Progress (builtins : Builtins) (ticker : String) (start : WatchState)
    (turns : List Turn) (landed : Nat) (after : WatchState) : Prop where
  absent : ∀ accession, after.index.getItem (pk builtins ticker accession) = none ↔
    start.index.getItem (pk builtins ticker accession) = none ∧
      ∀ turn ∈ turns, turn.filing.accession = accession → turn.lands = false
  unreadable : ∀ accession, Unreadable builtins ticker accession after.index →
    Unreadable builtins ticker accession start.index
  added : after.index.entries.length = start.index.entries.length + landed
  /-- Rows that were there stay, and the others are those of filings that landed. -/
  kept : ∀ key row, start.index.getItem key = some row → after.index.getItem key = some row
  written : ∀ key row, after.index.getItem key = some row → start.index.getItem key = some row ∨
    ∃ before turn rest, Writes builtins ticker start.index turns before turn rest ∧
      key = pk builtins ticker turn.filing.accession ∧ row = turn.item builtins ticker
  row : ∀ before turn rest, Writes builtins ticker start.index turns before turn rest →
    after.index.getItem (pk builtins ticker turn.filing.accession) =
      some (turn.item builtins ticker)
  bodies : ∀ before turn rest, Writes builtins ticker start.index turns before turn rest →
    after.bodies.get? (turn.bodyKey builtins ticker) =
      some ((Turn.lastBody builtins ticker start.index (before ++ [turn]) rest
        (turn.bodyKey builtins ticker)).getD turn.body)
  asked : ∀ accession, after.AskedFor accession ↔ start.AskedFor accession ∨
    (start.index.getItem (pk builtins ticker accession) = none ∧
      ∃ turn ∈ turns, turn.filing.accession = accession)

theorem Progress.start (start : WatchState) : Progress builtins ticker start [] 0 start where
  absent _ := ⟨fun absent => ⟨absent, fun _ member => absurd member List.not_mem_nil⟩, And.left⟩
  unreadable _ same := same
  added := rfl
  kept _ _ found := found
  written _ _ found := Or.inl found
  row _ _ _ writes := absurd writes.1.symm
    (List.append_ne_nil_of_right_ne_nil _ (List.cons_ne_nil _ _))
  bodies _ _ _ writes := absurd writes.1.symm
    (List.append_ne_nil_of_right_ne_nil _ (List.cons_ne_nil _ _))
  asked _ := ⟨Or.inl, fun either => either.elim id fun new => by
    obtain ⟨-, turn, member, -⟩ := new
    exact absurd member List.not_mem_nil⟩

variable {start state : WatchState} {turns : List Turn} {landed : Nat} {last : Turn}

theorem Progress.asks_iff (progress : Progress builtins ticker start turns landed state)
    (turn : Turn) :
    turn.asks builtins ticker start.index turns = true ↔
      state.index.getItem (pk builtins ticker turn.filing.accession) = none := by
  rw [Turn.asks_iff, progress.absent]

/-- A lookup that does not raise finds the filing unless it is to be asked for. -/
theorem Progress.lookup (progress : Progress builtins ticker start turns landed state)
    (answers : ¬ last.LookupRaises builtins ticker start.index) :
    last.lookup builtins ticker state = .ok none ∧
        last.asks builtins ticker start.index turns = true ∨
      (∃ filing, last.lookup builtins ticker state = .ok (some filing)) ∧
        ¬ last.asks builtins ticker start.index turns = true := by
  obtain ⟨answered, readable⟩ := not_or.mp answers
  have looked : last.lookup builtins ticker state =
      FilingsIndexStore.get builtins ticker last.filing.accession state.index := by
    unfold Turn.lookup
    rw [not_not.mp answered]
  rw [looked, progress.asks_iff]
  rcases get_cases ticker last.filing.accession state.index with
    ⟨none, absent⟩ | ⟨found, present⟩ | unreadable
  · exact Or.inl ⟨none, absent⟩
  · exact Or.inr ⟨found, present⟩
  · exact absurd (progress.unreadable _ unreadable) readable

theorem exists_mem_concat {holds : Turn → Prop} :
    (∃ turn ∈ turns ++ [last], holds turn) ↔ (∃ turn ∈ turns, holds turn) ∨ holds last := by
  simp only [List.mem_append, List.mem_singleton, or_and_right, exists_or, exists_eq_left]

theorem Writes.concat_cases {before rest : List Turn} {turn : Turn}
    (writes : Writes builtins ticker start.index (turns ++ [last]) before turn rest) :
    (rest = [] ∧ before = turns ∧ turn = last ∧
        last.asks builtins ticker start.index turns = true ∧ last.lands = true) ∨
      ∃ init, rest = init ++ [last] ∧
        Writes builtins ticker start.index turns before turn init := by
  obtain ⟨cut, asks, lands⟩ := writes
  rcases cut_concat cut with ⟨rfl, rfl, rfl⟩ | ⟨init, rfl, earlier⟩
  · exact Or.inl ⟨rfl, rfl, rfl, asks, lands⟩
  · exact Or.inr ⟨init, rfl, earlier, asks, lands⟩

theorem Writes.concat {before rest : List Turn} {turn : Turn}
    (writes : Writes builtins ticker start.index turns before turn rest) (last : Turn) :
    Writes builtins ticker start.index (turns ++ [last]) before turn (rest ++ [last]) := by
  refine ⟨?_, writes.2⟩
  rw [writes.1, List.append_assoc, List.cons_append]

/-- A filing that is there already changes nothing. -/
theorem Progress.pass (progress : Progress builtins ticker start turns landed state)
    (passes : ¬ last.asks builtins ticker start.index turns = true) :
    Progress builtins ticker start (turns ++ [last]) landed state where
  absent accession := by
    rw [progress.absent, List.forall_mem_append, List.forall_mem_singleton, ← and_assoc]
    refine (and_iff_left_of_imp fun absent => ?_).symm
    intro same
    subst same
    exact absurd (Turn.asks_iff.mpr absent) passes
  unreadable := progress.unreadable
  added := progress.added
  kept := progress.kept
  written key row found := by
    rcases progress.written key row found with old | ⟨before, turn, rest, writes, held⟩
    · exact Or.inl old
    · exact Or.inr ⟨before, turn, _, writes.concat last, held⟩
  row before turn rest writes := by
    rcases writes.concat_cases with ⟨-, -, -, asks, -⟩ | ⟨init, rfl, earlier⟩
    · exact absurd asks passes
    · exact progress.row before turn init earlier
  bodies before turn rest writes := by
    rcases writes.concat_cases with ⟨-, -, -, asks, -⟩ | ⟨init, rfl, earlier⟩
    · exact absurd asks passes
    · have whole : before ++ [turn] ++ init = turns := by
        rw [earlier.1, List.append_assoc, List.singleton_append]
      rw [Turn.lastBody_concat, whole, if_neg fun final => passes final.1]
      exact progress.bodies before turn init earlier
  asked accession := by
    rw [progress.asked, exists_mem_concat]
    refine or_congr_right (and_congr_right fun absent => (or_iff_left_of_imp ?_).symm)
    intro same
    subst same
    by_contra none
    refine passes (Turn.asks_iff.mpr ⟨absent, fun earlier member same => ?_⟩)
    exact absurd ⟨earlier, member, same⟩ none

/-- A filing that is asked for settles. -/
theorem Progress.settle (progress : Progress builtins ticker start turns landed state)
    (asks : last.asks builtins ticker start.index turns = true) :
    Progress builtins ticker start (turns ++ [last]) (landed + last.lands.toNat)
      (last.settle builtins ticker cik state) where
  absent accession := by
    rw [getItem_settle]
    simp only [pk_injective]
    by_cases own : last.lands = true ∧ accession = last.filing.accession
    · rw [if_pos own]
      constructor
      · exact fun absent => absurd absent (Option.some_ne_none _)
      · rintro ⟨-, others⟩
        have lost := others last List.mem_append_cons_self own.2.symm
        rw [own.1] at lost
        cases lost
    · rw [if_neg own, progress.absent, List.forall_mem_append, List.forall_mem_singleton,
        ← and_assoc]
      refine (and_iff_left_of_imp fun _ same => ?_).symm
      exact Bool.eq_false_iff.mpr fun lands => own ⟨lands, same.symm⟩
  unreadable accession unreadable := progress.unreadable accession (unreadable_settle unreadable)
  added := by
    rw [length_index_settle ((progress.asks_iff last).mp asks), progress.added, Nat.add_assoc]
  kept key row found := by
    have before := progress.kept key row found
    rw [getItem_settle, if_neg]
    · exact before
    · rintro ⟨-, rfl⟩
      rw [(progress.asks_iff last).mp asks] at before
      cases before
  written key row found := by
    rw [getItem_settle] at found
    by_cases own : last.lands = true ∧ key = pk builtins ticker last.filing.accession
    · rw [if_pos own] at found
      exact Or.inr ⟨turns, last, [], ⟨rfl, asks, own.1⟩, own.2, (Option.some.inj found).symm⟩
    · rw [if_neg own] at found
      rcases progress.written key row found with old | ⟨before, turn, rest, writes, held⟩
      · exact Or.inl old
      · exact Or.inr ⟨before, turn, _, writes.concat last, held⟩
  row before turn rest writes := by
    rw [getItem_settle]
    rcases writes.concat_cases with ⟨rfl, rfl, rfl, -, lands⟩ | ⟨init, rfl, earlier⟩
    · exact if_pos ⟨lands, rfl⟩
    · have there := progress.row before turn init earlier
      rw [if_neg]
      · exact there
      · rintro ⟨-, same⟩
        rw [same, (progress.asks_iff last).mp asks] at there
        cases there
  bodies before turn rest writes := by
    rw [get?_bodies_settle]
    rcases writes.concat_cases with ⟨rfl, rfl, rfl, -, lands⟩ | ⟨init, rfl, earlier⟩
    · rw [if_pos ⟨Turn.leavesBody_of_lands lands, rfl⟩]
      rfl
    · have whole : before ++ [turn] ++ init = turns := by
        rw [earlier.1, List.append_assoc, List.singleton_append]
      rw [Turn.lastBody_concat, whole]
      by_cases final : last.leavesBody = true ∧
          last.bodyKey builtins ticker = turn.bodyKey builtins ticker
      · rw [if_pos final, if_pos ⟨asks, final⟩]
        rfl
      · rw [if_neg final, if_neg fun all => final all.2]
        exact progress.bodies before turn init earlier
  asked accession := by
    have own : (last.settle builtins ticker cik state).AskedFor accession ↔
        state.AskedFor accession ∨ last.filing.accession = accession := by
      unfold WatchState.AskedFor Turn.settle
      simp only [List.mem_append, List.mem_singleton, or_and_right, exists_or, exists_eq_left]
    have absent : start.index.getItem (pk builtins ticker last.filing.accession) = none :=
      (Turn.asks_iff.mp asks).1
    rw [own, progress.asked, exists_mem_concat, and_or_left, or_assoc]
    refine or_congr_right (or_congr_right (and_iff_right_of_imp fun same => ?_).symm)
    rw [← same]
    exact absent

theorem Progress.step (progress : Progress builtins ticker start turns landed state)
    (goesOn : ¬ last.Raises builtins ticker start.index turns) :
    ∃ here after, processFiling builtins ticker cik last state = (.ok here, after) ∧
      Progress builtins ticker start (turns ++ [last]) (landed + here.toNat) after := by
  obtain ⟨answers, written⟩ := not_or.mp goesOn
  rcases progress.lookup answers with ⟨absent, asks⟩ | ⟨⟨filing, present⟩, passes⟩
  · refine ⟨_, _, processFiling_of_absent absent fun lands => ?_, progress.settle asks⟩
    by_contra unwritten
    exact written ⟨asks, lands, unwritten⟩
  · exact ⟨_, _, processFiling_of_present present, progress.pass passes⟩

theorem Progress.stop (progress : Progress builtins ticker start turns landed state)
    (raises : last.Raises builtins ticker start.index turns) :
    ∃ error after, processFiling builtins ticker cik last state = (.error error, after) := by
  by_cases answers : last.LookupRaises builtins ticker start.index
  · rcases answers with failed | unreadable
    · obtain ⟨error, failed⟩ := Option.ne_none_iff_exists'.mp failed
      refine ⟨error, state, processFiling_of_raises ?_⟩
      unfold Turn.lookup
      rw [failed]
    · obtain ⟨error, failed⟩ := get_of_unreadable unreadable progress.kept
      cases given : last.calls.indexGet with
      | some other =>
          refine ⟨other, state, processFiling_of_raises ?_⟩
          unfold Turn.lookup
          rw [given]
      | none =>
          refine ⟨error, state, processFiling_of_raises ?_⟩
          unfold Turn.lookup
          rw [given]
          exact failed
  · obtain ⟨asks, lands, unwritten⟩ := raises.resolve_left answers
    rcases progress.lookup answers with ⟨absent, -⟩ | ⟨-, passes⟩
    · exact processFiling_of_unwritten absent lands unwritten
    · exact absurd asks passes

theorem processFilings_append {before rest : List Turn} {count : Nat}
    (done : processFilings builtins ticker cik before count start = (.ok landed, state)) :
    processFilings builtins ticker cik (before ++ rest) count start =
      processFilings builtins ticker cik rest landed state := by
  induction before generalizing count start with
  | nil =>
      cases done
      rfl
  | cons turn before inductionHypothesis =>
      rw [List.cons_append, processFilings]
      rw [processFilings] at done
      rcases head : processFiling builtins ticker cik turn start with ⟨error | here, next⟩
      · rw [head] at done
        cases done
      · rw [head] at done
        exact inductionHypothesis done

/-- A run none of whose filings end it goes through. -/
theorem processFilings_of_clear
    (clear : Clear (Turn.Raises builtins ticker start.index) turns) :
    ∃ landed after, processFilings builtins ticker cik turns 0 start = (.ok landed, after) ∧
      Progress builtins ticker start turns landed after := by
  induction turns using List.reverseRecOn with
  | nil => exact ⟨0, start, rfl, Progress.start start⟩
  | append_singleton init last inductionHypothesis =>
      obtain ⟨before, goesOn⟩ := clear_concat_iff.mp clear
      obtain ⟨landed, middle, done, progress⟩ := inductionHypothesis before
      obtain ⟨here, after, next, later⟩ := progress.step goesOn
      refine ⟨landed + here.toNat, after, ?_, later⟩
      rw [processFilings_append done]
      unfold processFilings
      rw [next]
      rfl

theorem processFilings_of_not_clear
    (dirty : ¬ Clear (Turn.Raises builtins ticker start.index) turns) :
    ∃ error after, processFilings builtins ticker cik turns 0 start = (.error error, after) := by
  obtain ⟨before, bad, rest, rfl, clear, raises⟩ := exists_first_of_not_clear dirty
  obtain ⟨landed, middle, done, progress⟩ := @processFilings_of_clear _ _ cik _ _ clear
  obtain ⟨error, after, raised⟩ := @Progress.stop _ _ cik _ _ _ _ _ progress raises
  refine ⟨error, after, ?_⟩
  rw [processFilings_append done]
  unfold processFilings
  rw [raised]

end Runs

end TradingStrands.EdgarWatcher
