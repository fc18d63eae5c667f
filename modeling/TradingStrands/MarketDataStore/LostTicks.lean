import TradingStrands.MarketDataStore.Faults

/-!
Proves when failed updates lose ticks. The store is run beside a record of the
ticks that each minute got since its last successful write (`Watched`). A call
takes a minute out of the buffer and then updates the table, so the ticks of a
minute whose update raises are in neither: no later call writes them again.
-/

namespace TradingStrands.MarketDataStore

open TradingStrands.Foundation

/-! ### What a call writes -/

/-- Writing a held minute succeeds or leaves it unwritten, and takes it out of
the buffer either way. -/
theorem tryFlushOne_of_held {store : MarketDataStore} {key : BufferKey} {first : MarketBar}
    {rest : List MarketBar} (held : store.buffer.get? key = some (first :: rest)) (faults : Faults)
    (now : Int) :
    (tryFlushOne faults now store key).store.buffer = store.buffer.erase key ∧
      (faults key = none → (tryFlushOne faults now store key).written = [key] ∧
        (tryFlushOne faults now store key).outcome = .ok ()) ∧
      (faults key ≠ none → (tryFlushOne faults now store key).written = [] ∧
        ∃ error, (tryFlushOne faults now store key).outcome = .error error) := by
  unfold tryFlushOne
  dsimp only
  rw [held]
  dsimp only
  cases fault : faults key with
  | none => exact ⟨rfl, fun _ => ⟨rfl, rfl⟩, fun faulty => absurd rfl faulty⟩
  | some updateFault =>
      cases updateFault with
      | makeRow error => exact ⟨rfl, nofun, fun _ => ⟨rfl, error, rfl⟩⟩
      | setBar error => exact ⟨rfl, nofun, fun _ => ⟨rfl, error, rfl⟩⟩

/-- A minute of the list has ticks in the buffer. -/
def AllHeld (store : MarketDataStore) (keys : List BufferKey) : Prop :=
  ∀ key ∈ keys, ∃ first rest, store.buffer.get? key = some (first :: rest)

theorem AllHeld.erase {store after : MarketDataStore} {key : BufferKey} {keys : List BufferKey}
    (held : AllHeld store (key :: keys)) (absent : key ∉ keys)
    (erased : after.buffer = store.buffer.erase key) : AllHeld after keys := by
  intro other member
  have different : other ≠ key := fun same => absent (same ▸ member)
  rw [erased, Dict.get?_erase_of_ne _ different]
  exact held other (List.mem_cons_of_mem key member)

/-- Where no update raises, every minute of the list is written and no other
minute leaves the buffer. -/
theorem tryFlushAll_of_clean {faults : Faults} {store : MarketDataStore} {keys : List BufferKey}
    (clean : ∀ key ∈ keys, faults key = none) (nodup : keys.Nodup) (held : AllHeld store keys)
    (now : Int) :
    (tryFlushAll faults now store keys).written = keys ∧
      ∀ other, (tryFlushAll faults now store keys).store.buffer.get? other =
        if other ∈ keys then none else store.buffer.get? other := by
  induction keys generalizing store with
  | nil => exact ⟨rfl, fun other => (if_neg List.not_mem_nil).symm⟩
  | cons key rest inductionHypothesis =>
      obtain ⟨absent, restNodup⟩ := List.nodup_cons.mp nodup
      obtain ⟨first, later, here⟩ := held key List.mem_cons_self
      obtain ⟨erased, succeeds, -⟩ := tryFlushOne_of_held here faults now
      obtain ⟨written, outcome⟩ := succeeds (clean key List.mem_cons_self)
      obtain ⟨restWritten, buffer⟩ := inductionHypothesis
        (fun other member => clean other (List.mem_cons_of_mem key member)) restNodup
        (held.erase absent erased)
      unfold tryFlushAll
      dsimp only
      rw [outcome]
      refine ⟨by rw [written, restWritten]; rfl, fun other => ?_⟩
      show Dict.get? _ other = _
      rw [buffer, erased]
      by_cases same : other = key
      · rw [if_neg (same ▸ absent), same, Dict.get?_erase_self, if_pos List.mem_cons_self]
      · rw [Dict.get?_erase_of_ne _ same]
        simp [same]

/-- Where the update of a minute of the list raises, some minute of the list
leaves the buffer unwritten. -/
theorem tryFlushAll_of_fault {faults : Faults} {store : MarketDataStore} {keys : List BufferKey}
    (faulty : ∃ key ∈ keys, faults key ≠ none) (nodup : keys.Nodup) (held : AllHeld store keys)
    (now : Int) :
    ∃ lost ∈ keys, lost ∉ (tryFlushAll faults now store keys).written ∧
      (tryFlushAll faults now store keys).store.buffer.get? lost = none := by
  induction keys generalizing store with
  | nil => simp at faulty
  | cons key rest inductionHypothesis =>
      obtain ⟨absent, restNodup⟩ := List.nodup_cons.mp nodup
      obtain ⟨first, later, here⟩ := held key List.mem_cons_self
      obtain ⟨erased, succeeds, fails⟩ := tryFlushOne_of_held here faults now
      unfold tryFlushAll
      dsimp only
      by_cases fault : faults key = none
      · obtain ⟨written, outcome⟩ := succeeds fault
        have restFaulty : ∃ other ∈ rest, faults other ≠ none := by
          obtain ⟨other, member, raises⟩ := faulty
          rcases List.mem_cons.mp member with rfl | inRest
          · exact absurd fault raises
          · exact ⟨other, inRest, raises⟩
        obtain ⟨lost, member, unwritten, gone⟩ :=
          inductionHypothesis restFaulty restNodup (held.erase absent erased)
        rw [outcome, written]
        refine ⟨lost, List.mem_cons_of_mem key member, ?_, gone⟩
        show lost ∉ key :: _
        rw [List.mem_cons, not_or]
        exact ⟨fun same => absent (same ▸ member), unwritten⟩
      · obtain ⟨written, error, outcome⟩ := fails fault
        rw [outcome]
        refine ⟨key, List.mem_cons_self, ?_, ?_⟩
        · show key ∉ (tryFlushOne faults now store key).written
          rw [written]
          exact List.not_mem_nil
        · show (tryFlushOne faults now store key).store.buffer.get? key = none
          rw [erased, Dict.get?_erase_self]

/-! ### The store beside a record of its ticks -/

/-- The store and, for each minute, the ticks recorded since its last successful
write. -/
structure Watched where
  store : MarketDataStore := {}
  unwritten : BufferKey → List MarketBar := fun _ => []

/-- The faults of a call. -/
def Attempt.faults : Attempt → Faults
  | .recordTick _ _ faults => faults
  | .flush _ faults => faults

namespace Watched

/-- The record with the tick of the call. -/
def observed (watched : Watched) : Attempt → BufferKey → List MarketBar
  | .recordTick bar _ _, key =>
      if key = keyOf bar then watched.unwritten key ++ [bar] else watched.unwritten key
  | .flush _ _, key => watched.unwritten key

/-- A call is made; its caller swallows what it raises. -/
def step (watched : Watched) (call : Attempt) : Watched :=
  let after := watched.store.attempt call
  { store := after.store
    unwritten := fun key => if key ∈ after.written then [] else watched.observed call key }

/-- No tick is dropped: the buffer has every tick that no successful write had,
and a flush without faults writes the bar of all of them. -/
structure NoneLost (watched : Watched) : Prop where
  buffered : ∀ key, (watched.store.buffer.get? key).getD [] = watched.unwritten key
  stored : ∀ key first rest, watched.unwritten key = first :: rest → ∀ now,
    ((watched.store.attempt (.flush now fun _ => none)).store.getHour key.symbol key.bucket).get?
      key.minute = some (aggregate first rest)

/-- No update raises of the minutes that the call writes. -/
def Unfailing (watched : Watched) (call : Attempt) : Prop :=
  ∀ key ∈ (watched.store.pending call).2, call.faults key = none

/-! ### Runs -/

/-- What is buffered, a flush writes. -/
theorem noneLost_of_buffered {watched : Watched} (keyed : Keyed watched.store)
    (buffered : ∀ key, (watched.store.buffer.get? key).getD [] = watched.unwritten key) :
    NoneLost watched := by
  refine ⟨buffered, fun key first rest ticks now => ?_⟩
  have held : watched.store.buffer.get? key = some (first :: rest) := by
    have here := buffered key
    rw [ticks] at here
    cases observations : watched.store.buffer.get? key with
    | none =>
        rw [observations] at here
        exact absurd here.symm (List.cons_ne_nil first rest)
    | some observed =>
        rw [observations] at here
        exact congrArg some here
  have dated : ∀ other ∈ watched.store.buffer.keys, Dated other := by
    intro other member
    obtain ⟨observations, there⟩ := Dict.mem_keys_iff.mp member
    exact keyed.dated there
  have member : key ∈ watched.store.buffer.keys := Dict.mem_keys_iff.mpr ⟨_, held⟩
  have flushed : slot (watched.store.flush now) key = _ :=
    slot_flushAll dated (keyed.dated held) now
  rw [if_pos member] at flushed
  rw [(attempt_without_faults watched.store now).2]
  have bar := congrArg Slot.bar flushed
  unfold Slot.flushed slot at bar
  dsimp only at bar
  rw [held] at bar
  exact bar

/-- What a call starts to write is the buffer with its tick, and it writes
minutes that have ticks, each once. -/
theorem pending_spec {watched : Watched} (keyed : Keyed watched.store)
    (buffered : ∀ key, (watched.store.buffer.get? key).getD [] = watched.unwritten key)
    (call : Attempt) :
    (∀ key, ((watched.store.pending call).1.buffer.get? key).getD [] =
        watched.observed call key) ∧
      AllHeld (watched.store.pending call).1 (watched.store.pending call).2 ∧
      (watched.store.pending call).2.Nodup := by
  have allHeld : ∀ {store : MarketDataStore}, Keyed store → AllHeld store store.buffer.keys := by
    intro store keyed key member
    obtain ⟨observations, held⟩ := Dict.mem_keys_iff.mp member
    obtain ⟨first, rest, rfl⟩ := List.exists_cons_of_ne_nil (keyed key observations held).1
    exact ⟨first, rest, held⟩
  cases call with
  | flush now faults => exact ⟨buffered, allHeld keyed, watched.store.buffer.nodup⟩
  | recordTick bar now faults =>
      refine ⟨fun key => ?_, fun key member => ?_, List.Nodup.filter _ (Dict.nodup _)⟩
      · show ((watched.store.buffer.set _ _).get? key).getD [] = ite _ _ _
        rw [Dict.get?_set]
        by_cases same : key = keyOf bar
        · rw [if_pos same, if_pos same, same, ← buffered]
          rfl
        · rw [if_neg same, if_neg same, buffered]
      · exact allHeld (keyed.buffered bar) key (List.mem_filter.mp member).1

theorem attempt_eq (store : MarketDataStore) (call : Attempt) :
    ∃ now, store.attempt call =
      tryFlushAll call.faults now (store.pending call).1 (store.pending call).2 := by
  cases call with
  | recordTick bar now faults => exact ⟨now, rfl⟩
  | flush now faults => exact ⟨now, rfl⟩

/-- A call keeps every tick exactly if none of its updates raises. -/
theorem noneLost_step_iff {watched : Watched} (keyed : Keyed watched.store)
    (none : NoneLost watched) (call : Attempt) :
    NoneLost (watched.step call) ↔ Unfailing watched call := by
  obtain ⟨starts, held, nodup⟩ := pending_spec keyed none.buffered call
  obtain ⟨now, attempted⟩ := attempt_eq watched.store call
  constructor
  · intro after
    by_contra failing
    unfold Unfailing at failing
    push Not at failing
    obtain ⟨lost, member, unwritten, gone⟩ := tryFlushAll_of_fault failing nodup held now
    rw [← attempted] at unwritten gone
    obtain ⟨first, rest, here⟩ := held lost member
    have ticks := after.buffered lost
    have observed := starts lost
    rw [here] at observed
    unfold step at ticks
    dsimp only at ticks
    rw [gone, if_neg unwritten, ← observed] at ticks
    exact absurd ticks (List.cons_ne_nil first rest).symm
  · intro unfailing
    obtain ⟨written, buffer⟩ := tryFlushAll_of_clean unfailing nodup held now
    rw [← attempted] at written buffer
    refine noneLost_of_buffered (keyed.attempt call) fun key => ?_
    unfold step
    dsimp only
    rw [buffer, written]
    by_cases member : key ∈ (watched.store.pending call).2
    · rw [if_pos member, if_pos member]
      rfl
    · rw [if_neg member, if_neg member, starts]

/-- Whatever bars the table had, every call of a sequence leaves every tick in
the buffer or in a bar exactly if no call has an update that raises. -/
theorem noneLost_iff_unfailing (table : Dict String HourRow) (retentionDays : Int)
    (calls : List Attempt) :
    Always step NoneLost { store := { table, retentionDays } } calls ↔
      EachStep step Unfailing { store := { table, retentionDays } } calls := by
  have keyed : Keyed { table, retentionDays } := keyed_of_empty rfl
  exact always_iff_eachStep_of_kept step
    (fun _ call keyed (_ : True) => Keyed.attempt keyed call)
    (fun _ call keyed none _ => noneLost_step_iff keyed none call) keyed
    (noneLost_of_buffered keyed fun _ => rfl) (eachStep_true step _ calls)

/-- A tick of a minute whose bar was not set is in no bar after a later flush. -/
theorem not_noneLost_failed_flush :
    ¬ Always step NoneLost {}
      [.recordTick { timestamp := 1777213985, symbol := "SPY", price := 500 } 1777213985
          fun _ => none,
        .flush 1777214000 fun _ => some (.setBar (.external "throttled"))] := by
  intro always
  have bar := always.final.stored
    (keyOf { timestamp := 1777213985, symbol := "SPY", price := 500 }) _ _ rfl 1777214060
  revert bar
  decide +kernel

end Watched

end TradingStrands.MarketDataStore
