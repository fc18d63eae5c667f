import TradingStrands.Foundation.Runs
import TradingStrands.Orchestrator.Engine

/-!
Owns what becomes of an automatic desk halt along runs of the tick loop. The
poll that opens a tick copies the dashboard flag onto the desk in both
directions, and the automatic halts do not write the flag, so a halt of the
reconciler or the kill switch lasts exactly until the first poll that reads a
flag which is not set.
-/

namespace TradingStrands.Orchestrator

open TradingStrands.Foundation

variable {β : Type}

/-- An automatic halt that no operator has cleared is still in force. -/
def Sticky (orchestrator : Orchestrator β) : Prop :=
  orchestrator.automaticHalt = true → orchestrator.deskHalted = true

/-- While such a halt is due, a wake phase runs on a halted desk. -/
def WakesHalted (orchestrator : Orchestrator β) : Prop :=
  orchestrator.phase = .waking → orchestrator.automaticHalt = true →
    orchestrator.deskHalted = true

/-- A poll during an automatic halt fails to read the flag, or finds it set. -/
def PollKeeps (orchestrator : Orchestrator β) : TickEvent β → Prop
  | .beginTick readFails => orchestrator.phase = .idle → orchestrator.automaticHalt = true →
      readFails = true ∨ StatePublisher.getHalt orchestrator.system.table = true
  | _ => True

instance (orchestrator : Orchestrator β) : Decidable orchestrator.Sticky :=
  inferInstanceAs (Decidable (_ → _))

instance (orchestrator : Orchestrator β) : Decidable orchestrator.WakesHalted :=
  inferInstanceAs (Decidable (_ → _ → _))

/-! ### One event -/

/-- Opening a tick: the halt and the ghost after it are those after the poll. -/
theorem beginTick_of_idle {orchestrator : Orchestrator β} (idle : orchestrator.phase = .idle)
    (readFails : Bool) :
    (orchestrator.step (.beginTick readFails)).deskHalted =
        (orchestrator.checkRemoteHalt readFails).deskHalted ∧
      (orchestrator.step (.beginTick readFails)).automaticHalt = orchestrator.automaticHalt := by
  obtain ⟨manager, same⟩ := orchestrator.checkRemoteHalt_cases readFails
  simp only [step, if_pos idle, same]
  split_ifs <;> exact ⟨rfl, rfl⟩

/-- The poll keeps an automatic halt exactly when it does not read an unset flag. -/
theorem sticky_beginTick_iff {orchestrator : Orchestrator β} {readFails : Bool}
    (configured : orchestrator.publisher = true) (sticky : orchestrator.Sticky) :
    (orchestrator.step (.beginTick readFails)).Sticky ↔
      orchestrator.PollKeeps (.beginTick readFails) := by
  unfold PollKeeps
  by_cases idle : orchestrator.phase = .idle
  · obtain ⟨desk, automatic⟩ := beginTick_of_idle idle readFails
    unfold Sticky
    rw [desk, automatic]
    cases readFails with
    | true =>
        rw [checkRemoteHalt_failed]
        exact iff_of_true sticky fun _ _ => Or.inl rfl
    | false =>
        rw [deskHalted_checkRemoteHalt configured]
        simp [idle]
  · have untouched : orchestrator.step (.beginTick readFails) = orchestrator := by
      unfold step
      exact if_neg idle
    rw [untouched]
    exact iff_of_true sticky fun atIdle => absurd atIdle idle

/-- An event keeps automatic halts in force exactly when its poll, if it is
one, does. -/
theorem sticky_step_iff {orchestrator : Orchestrator β} (event : TickEvent β)
    (configured : orchestrator.publisher = true) (sticky : orchestrator.Sticky) :
    (orchestrator.step event).Sticky ↔ orchestrator.PollKeeps event := by
  cases event with
  | beginTick readFails => exact sticky_beginTick_iff configured sticky
  | pricesFetched fetched =>
      refine iff_of_true ?_ trivial
      simp only [step]
      split_ifs <;> exact sticky
  | execute call =>
      refine iff_of_true (fun automatic => ?_) trivial
      have desk : (orchestrator.step (.execute call)).deskHalted = orchestrator.deskHalted :=
        congrArg RiskManager.deskHalted
          (riskManager_execute orchestrator.system call.env call.intent)
      exact desk.trans (sticky automatic)
  | endTick brokerPositions =>
      refine iff_of_true ?_ trivial
      simp only [step]
      split_ifs
      · rcases (orchestrator.maybeReconcile_cases brokerPositions).2 with ⟨desk, automatic⟩ | halts
        · exact fun due => desk.trans (sticky (automatic.symm.trans due))
        · exact fun _ => halts.1
      · exact sticky
  | liquidate botId fill =>
      refine iff_of_true ?_ trivial
      simp only [step]
      split <;> exact sticky
  | killSwitch botId =>
      refine iff_of_true (fun due => ?_) trivial
      have before : (orchestrator.automaticHalt || (targetBot botId).isNone) = true := due
      show (orchestrator.riskManager.haltTarget botId).deskHalted = true
      unfold RiskManager.haltTarget
      cases target : targetBot botId with
      | none => rfl
      | some bot => exact sticky (by simpa [target] using before)
  | setHalt halted reason updatedAt =>
      refine iff_of_true (fun due => sticky ?_) trivial
      have both : (orchestrator.automaticHalt && halted) = true := due
      exact (Bool.and_eq_true _ _ ▸ both).1
  | unhaltDesk => exact iff_of_true (fun due => absurd due (by simp [step])) trivial
  | registerBot botId => exact iff_of_true sticky trivial
  | unregisterBot botId => exact iff_of_true sticky trivial

/-! ### Runs -/

/-- Along a run an automatic halt stays in force until an operator clears it,
in every wake phase and at every other point, exactly when no poll during such
a halt reads an unset flag. -/
theorem sticky_iff_pollKeeps {start : Orchestrator β} {events : List (TickEvent β)}
    (configured : start.publisher = true) (sticky : start.Sticky) :
    (Always step WakesHalted start events ∧ Always step Sticky start events) ↔
      EachStep step PollKeeps start events := by
  have kept : ∀ (orchestrator : Orchestrator β) (event : TickEvent β),
      orchestrator.publisher = true → True → (orchestrator.step event).publisher = true :=
    fun orchestrator event configured _ => (publisher_step orchestrator event).trans configured
  have keeps : Always step Sticky start events ↔ EachStep step PollKeeps start events :=
    always_iff_eachStep_of_kept step kept
      (fun _ event configured sticky _ => sticky_step_iff event configured sticky) configured sticky
      (eachStep_of_forall step start fun _ _ => trivial)
  rw [← keeps]
  constructor
  · exact fun both => both.2
  · intro always
    refine ⟨always.mono step fun orchestrator sticky => ?_, always⟩
    exact fun _ automatic => sticky automatic

/-- A desk with one bot and a flag that was never written. -/
def oneBotDesk : Orchestrator Unit :=
  { system := System.single "bot" 1000, bots := {"bot"} }

/-- With the flag set before, a kill switch survives the next poll. -/
theorem sticky_iff_pollKeeps_flag_set :
    let events : List (TickEvent Unit) :=
      [.setHalt true "drill" 0, .killSwitch none, .beginTick false, .pricesFetched true]
    Always step WakesHalted oneBotDesk events ∧ Always step Sticky oneBotDesk events := by
  intro events
  refine (sticky_iff_pollKeeps rfl (by decide +kernel)).mpr ⟨trivial, trivial, ?_, trivial, trivial⟩
  exact fun _ _ => Or.inr (by decide +kernel)

/-- The first poll after a kill switch reads the flag nobody has written and
undoes the halt; the bots of that tick wake on an open desk. -/
theorem not_sticky_first_poll :
    let events : List (TickEvent Unit) :=
      [.killSwitch none, .beginTick false, .pricesFetched true]
    ¬ (Always step WakesHalted oneBotDesk events ∧ Always step Sticky oneBotDesk events) := by
  decide +kernel

end TradingStrands.Orchestrator
