import TradingStrands.Desk.Interleaving

/-!
Owns what a kill-switch call achieves under interleaving. The halt is the last
thing a call does, so trades are approved while it sells, but once it has
returned its target is halted for good, and a full liquidation leaves nothing
that no other fill has put there in the meantime.

The invariant is `Pending`: a holding of a target that did not grow is gone,
waits in a ledger or a snapshot the call has still to visit, or is covered by
the order on its way.
-/

namespace TradingStrands

open TradingStrands.Foundation

variable {β : Type}

/-! ### Holdings -/

namespace System

theorem held_eq (system : System β) (botId : BotId) (symbol : Symbol) :
    system.held botId symbol =
      match system.findPosition botId symbol with
      | none => 0
      | some position => position.quantity := by
  unfold held findPosition
  cases system.ledger? botId with
  | none => rfl
  | some ledger => rfl

theorem Sound.held_nonneg {system : System β} (sound : system.Sound) (botId : BotId)
    (symbol : Symbol) : 0 ≤ system.held botId symbol := by
  unfold held
  cases found : system.ledger? botId with
  | none => exact le_rfl
  | some ledger => exact (sound botId ledger found).heldQuantity_nonneg symbol

theorem findPosition_of_held {system : System β} {botId : BotId} {symbol : Symbol}
    (holds : system.held botId symbol ≠ 0) : ∃ position,
      system.findPosition botId symbol = some position := by
  rw [held_eq] at holds
  cases found : system.findPosition botId symbol with
  | none => simp [found] at holds
  | some position => exact ⟨position, rfl⟩

/-- A holding that is not among the grown ones has not grown. -/
theorem held_le_of_not_grown {before after : System β} (sound : before.Sound) {botId : BotId}
    {symbol : Symbol} (steady : (botId, symbol) ∉ before.grownHoldings after) :
    after.held botId symbol ≤ before.held botId symbol := by
  by_contra larger
  rw [not_le] at larger
  apply steady
  have holds : after.held botId symbol ≠ 0 :=
    ((sound.held_nonneg botId symbol).trans_lt larger).ne'
  obtain ⟨position, found⟩ := findPosition_of_held holds
  obtain ⟨ledger, registered, inLedger⟩ := Option.bind_eq_some_iff.mp found
  obtain ⟨member, rfl⟩ := Ledger.findPosition_mem inLedger
  rw [after.held_eq, found] at larger
  unfold grownHoldings
  rw [List.mem_flatMap]
  refine ⟨(botId, ledger), Dict.mem_entries_of_get? registered, ?_⟩
  rw [List.mem_map]
  exact ⟨position, List.mem_filter.mpr ⟨member, by simpa using larger⟩, rfl⟩

/-- A position of a sound ledger is the one that is found, and it holds something. -/
theorem Sound.held_ne_zero {system : System β} (sound : system.Sound) {botId : BotId}
    {ledger : Ledger} (registered : system.ledger? botId = some ledger) {position : Position}
    (member : position ∈ ledger.openPositions) : system.held botId position.symbol ≠ 0 := by
  unfold held
  simp only [registered]
  unfold Ledger.heldQuantity
  cases found : ledger.findPosition position.symbol with
  | none => exact absurd rfl (Ledger.findPosition_eq_none found position member)
  | some other =>
      exact ((sound botId ledger registered).positive other (Ledger.findPosition_mem found).1).ne'

end System

/-! ### What is left to sell -/

/-- What a call still has to do about a holding, given its next sale. -/
def Pending (system : System β) (botId : BotId) (symbol : Symbol) : Option Selling → Prop
  | none => system.held botId symbol = 0
  | some sale =>
      system.held botId symbol = 0 ∨ botId ∈ sale.later ∨
        botId = sale.botId ∧
          (PosRef.live symbol ∈ sale.rest ∨
            symbol = sale.symbol ∧ system.held botId symbol ≤ sale.quantity)

theorem Pending.of_zero {system : System β} {botId : BotId} {symbol : Symbol}
    (gone : system.held botId symbol = 0) (next : Option Selling) :
    Pending system botId symbol next := by
  cases next with
  | none => exact gone
  | some sale => exact Or.inl gone

/-- Walking a snapshot, a liquidation passes over no position. -/
theorem KillCall.nextInLedger_pending {call : KillCall} (liquidates : call.verb = .haltAndLiquidate)
    (ledger : Ledger) {symbol : Symbol} {refs : List PosRef} (member : PosRef.live symbol ∈ refs) :
    match call.nextInLedger ledger refs with
    | none => ledger.findPosition symbol = none
    | some next => ledger.findPosition symbol = none ∨ PosRef.live symbol ∈ next.2 ∨
        ledger.findPosition symbol = some next.1 := by
  induction refs with
  | nil => simp at member
  | cons ref rest inductionHypothesis =>
      simp only [nextInLedger]
      cases found : ref.position? ledger with
      | none =>
          rcases List.mem_cons.mp member with rfl | inRest
          · have absent : ledger.findPosition symbol = none := found
            cases call.nextInLedger ledger rest with
            | none => exact absent
            | some next => exact Or.inl absent
          · exact inductionHypothesis inRest
      | some position =>
          have sells : call.sells position = true := by
            unfold sells
            rw [liquidates]
          simp only [sells, if_true]
          rcases List.mem_cons.mp member with rfl | inRest
          · exact Or.inr (Or.inr found)
          · exact Or.inr (Or.inl inRest)

/-- The same about holdings. -/
theorem KillCall.pending_inLedger {call : KillCall} (liquidates : call.verb = .haltAndLiquidate)
    {system : System β} {botId : BotId} {ledger : Ledger}
    (registered : system.ledger? botId = some ledger) {symbol : Symbol} {refs : List PosRef}
    (member : PosRef.live symbol ∈ refs) (later : List BotId) :
    Pending system botId symbol
      ((call.nextInLedger ledger refs).map fun next => .ofPosition botId next later) := by
  have looked : system.findPosition botId symbol = ledger.findPosition symbol := by
    unfold System.findPosition
    rw [registered]
    rfl
  have walked := nextInLedger_pending liquidates ledger member
  rw [← looked] at walked
  cases walk : call.nextInLedger ledger refs with
  | none =>
      simp only [walk] at walked
      show system.held botId symbol = 0
      rw [System.held_eq, walked]
  | some next =>
      simp only [walk] at walked
      rcases walked with absent | waits | sold
      · refine Pending.of_zero ?_ _
        rw [System.held_eq, absent]
      · exact Or.inr (Or.inr ⟨rfl, Or.inl waits⟩)
      · refine Or.inr (Or.inr ⟨rfl, Or.inr ⟨?_, ?_⟩⟩)
        · rw [looked] at sold
          exact (Ledger.findPosition_mem sold).2.symm
        · rw [System.held_eq, sold]
          exact le_rfl

private theorem KillCall.resume_pending_of {call : KillCall}
    (liquidates : call.verb = .haltAndLiquidate) {system : System β} {botId other : BotId}
    {symbol : Symbol} {rest : List PosRef} {later : List BotId}
    (reaches : other ∈ later → Pending system other symbol (call.nextLedger system later))
    (waits : system.held other symbol = 0 ∨ other ∈ later ∨
      other = botId ∧ PosRef.live symbol ∈ rest) :
    Pending system other symbol (call.resume system botId rest later) := by
  rcases waits with gone | isLater | ⟨rfl, member⟩
  · exact Pending.of_zero gone _
  · unfold resume
    cases (system.ledger? botId).bind fun ledger => call.nextInLedger ledger rest with
    | none => exact reaches isLater
    | some next => exact Or.inr (Or.inl isLater)
  · cases registered : system.ledger? other with
    | none =>
        refine Pending.of_zero ?_ _
        unfold System.held
        rw [registered]
    | some ledger =>
        have here := pending_inLedger liquidates registered member later
        unfold resume
        rw [registered, Option.bind_some]
        cases walk : call.nextInLedger ledger rest with
        | none =>
            rw [walk] at here
            exact Pending.of_zero here _
        | some next =>
            rw [walk] at here
            exact here

/-- A holding is in the snapshot of its ledger. -/
theorem Ledger.live_mem_snapshot {ledger : Ledger} {symbol : Symbol} {position : Position}
    (found : ledger.findPosition symbol = some position) :
    PosRef.live symbol ∈ ledger.snapshot := by
  obtain ⟨member, rfl⟩ := Ledger.findPosition_mem found
  exact List.mem_map.mpr ⟨position, member, rfl⟩

/-- Reaching the ledgers still to come, a liquidation leaves out no holding. -/
theorem KillCall.nextLedger_pending {call : KillCall} (liquidates : call.verb = .haltAndLiquidate)
    (system : System β) {botId : BotId} (symbol : Symbol) {bots : List BotId}
    (member : botId ∈ bots) : Pending system botId symbol (call.nextLedger system bots) := by
  induction bots with
  | nil => simp at member
  | cons head later inductionHypothesis =>
      by_cases holds : system.held botId symbol = 0
      · exact Pending.of_zero holds _
      · obtain ⟨position, found⟩ := System.findPosition_of_held holds
        obtain ⟨ledger, registered, inLedger⟩ := Option.bind_eq_some_iff.mp found
        cases atHead : system.ledger? head with
        | none =>
            have isLater : botId ∈ later := by
              refine (List.mem_cons.mp member).resolve_left ?_
              rintro rfl
              rw [atHead] at registered
              exact absurd registered (by simp)
            unfold nextLedger
            rw [atHead]
            exact inductionHypothesis isLater
        | some headLedger =>
            -- reaching a ledger is resuming in it with its snapshot
            have reached : call.nextLedger system (head :: later) =
                call.resume system head headLedger.snapshot later := by
              unfold nextLedger resume
              rw [atHead]
              rfl
            rw [reached]
            refine resume_pending_of liquidates inductionHypothesis (Or.inr ?_)
            rcases List.mem_cons.mp member with rfl | isLater
            · rw [atHead, Option.some.injEq] at registered
              subst registered
              exact Or.inr ⟨rfl, Ledger.live_mem_snapshot inLedger⟩
            · exact Or.inl isLater

theorem KillCall.resume_pending {call : KillCall} (liquidates : call.verb = .haltAndLiquidate)
    {system : System β} {botId other : BotId} {symbol : Symbol} {rest : List PosRef}
    {later : List BotId} (waits : system.held other symbol = 0 ∨ other ∈ later ∨
      other = botId ∧ PosRef.live symbol ∈ rest) :
    Pending system other symbol (call.resume system botId rest later) :=
  resume_pending_of liquidates (nextLedger_pending liquidates system symbol) waits

/-- A liquidation begins with every holding of its targets to sell. -/
theorem KillCall.targets_pending {call : KillCall} (liquidates : call.verb = .haltAndLiquidate)
    (system : System β) {botId : BotId} (targets : Targets call.botId botId) (symbol : Symbol) :
    Pending system botId symbol (call.nextLedger system (getTargetLedgers system call.botId)) := by
  cases registered : system.ledger? botId with
  | none =>
      refine Pending.of_zero ?_ _
      unfold System.held
      rw [registered]
  | some ledger =>
      refine nextLedger_pending liquidates system symbol ?_
      unfold getTargetLedgers
      rcases targets with desk | bot
      · rw [desk]
        exact Dict.mem_keys_iff.mpr ⟨ledger, registered⟩
      · simp [bot, registered]

/-- A call sells from registered ledgers. -/
theorem KillCall.nextLedger_registered (call : KillCall) {system : System β} {bots : List BotId}
    {sale : Selling} (next : call.nextLedger system bots = some sale) :
    ∃ ledger, system.ledger? sale.botId = some ledger := by
  induction bots with
  | nil => simp [nextLedger] at next
  | cons head later inductionHypothesis =>
      unfold nextLedger at next
      cases registered : system.ledger? head with
      | none =>
          rw [registered] at next
          exact inductionHypothesis next
      | some ledger =>
          rw [registered, Option.bind_some] at next
          cases walk : call.nextInLedger ledger ledger.snapshot with
          | none =>
              rw [walk] at next
              exact inductionHypothesis next
          | some found =>
              rw [walk] at next
              obtain rfl := Option.some.inj next
              exact ⟨ledger, registered⟩

theorem KillCall.resume_registered (call : KillCall) {system : System β} {botId : BotId}
    {rest : List PosRef} {later : List BotId} {sale : Selling}
    (next : call.resume system botId rest later = some sale) :
    ∃ ledger, system.ledger? sale.botId = some ledger := by
  unfold resume at next
  cases registered : system.ledger? botId with
  | none =>
      rw [registered] at next
      exact call.nextLedger_registered next
  | some ledger =>
      rw [registered, Option.bind_some] at next
      cases walk : call.nextInLedger ledger rest with
      | none =>
          rw [walk] at next
          exact call.nextLedger_registered next
      | some found =>
          rw [walk] at next
          obtain rfl := Option.some.inj next
          exact ⟨ledger, registered⟩

/-! ### What a booking leaves to sell -/

/-- A reference to a position that is still there stays live. -/
theorem PosRef.live_mem_follow {before after : System β} {botId : BotId} {symbol : Symbol}
    {refs : List PosRef} (waits : PosRef.live symbol ∈ refs)
    (holds : after.held botId symbol ≠ 0) :
    PosRef.live symbol ∈ refs.map (PosRef.follow before after botId) := by
  obtain ⟨position, found⟩ := System.findPosition_of_held holds
  refine List.mem_map.mpr ⟨_, waits, ?_⟩
  simp only [PosRef.follow, found]
  cases before.findPosition botId symbol <;> rfl

/-- A booking that does not make a holding larger leaves it to the same sale. -/
theorem Pending.follow {before after : System β} (sound : after.Sound) {botId : BotId}
    {symbol : Symbol} {sale : Selling} (pending : Pending before botId symbol (some sale))
    (steady : after.held botId symbol ≤ before.held botId symbol) :
    Pending after botId symbol (some (sale.follow before after)) := by
  by_cases gone : after.held botId symbol = 0
  · exact Pending.of_zero gone _
  · rcases pending with nothing | isLater | ⟨rfl, waits | ⟨same, covered⟩⟩
    · exact absurd (le_antisymm (nothing ▸ steady) (sound.held_nonneg _ _)) gone
    · exact Or.inr (Or.inl isLater)
    · exact Or.inr (Or.inr ⟨rfl, Or.inl (PosRef.live_mem_follow waits gone)⟩)
    · exact Or.inr (Or.inr ⟨rfl, Or.inr ⟨same, steady.trans covered⟩⟩)

/-- The holding after a liquidation fill was booked. -/
theorem held_recordLiquidation {before : System β} (sound : before.Sound) {sale : Selling}
    {result : OrderResult} (booked : (recordLiquidation before sale result).2 = .ok ())
    (covered : before.held sale.botId sale.symbol ≤ result.filledQuantity) :
    (recordLiquidation before sale result).1.held sale.botId sale.symbol = 0 := by
  have soundAfter := (System.Booked.recordLiquidation before sale result).sound sound
  refine le_antisymm ?_ (soundAfter.held_nonneg _ _)
  rcases recordLiquidation_cases before sale result with
    ⟨same, nothing⟩ | ⟨ledger, positive, registered, same⟩
  · rw [same]
    by_cases positive : 0 < result.filledQuantity
    · unfold System.held
      rw [nothing positive]
    · exact covered.trans (not_lt.mp positive)
  · rw [same] at booked ⊢
    have ledgerSound := sound sale.botId ledger registered
    have books : ledger.Covers (sale.fill result) := by
      by_contra uncovered
      obtain ⟨⟨error, raised⟩, -⟩ := Ledger.recordFill_uncovered uncovered
      rw [raised] at booked
      exact absurd booked (by simp)
    have moved := (Ledger.recordFill_books ledgerSound positive books).2
    have net := moved.net sale.symbol
    have posting : contribution (sale.fill result).posting sale.symbol = -result.filledQuantity := by
      simp [contribution, Fill.posting, Fill.signedQuantity, Selling.fill]
    unfold System.held at covered ⊢
    simp only [registered] at covered
    simp only [System.ledger?_setLedger, if_true]
    rw [moved.sound.heldQuantity_eq, net, posting, ← ledgerSound.heldQuantity_eq]
    linarith

/-- A sale filled in full leaves its holding to nothing but what it left before. -/
theorem Pending.sold {before : System β} (sound : before.Sound) {botId : BotId} {symbol : Symbol}
    {sale : Selling} (pending : Pending before botId symbol (some sale)) {result : OrderResult}
    (full : result.filledQuantity = sale.quantity)
    (booked : (recordLiquidation before sale result).2 = .ok ())
    (steady : (recordLiquidation before sale result).1.held botId symbol ≤
      before.held botId symbol) :
    let after := (recordLiquidation before sale result).1
    after.held botId symbol = 0 ∨ botId ∈ sale.later ∨
      botId = sale.botId ∧ PosRef.live symbol ∈ (sale.follow before after).rest := by
  intro after
  by_cases gone : after.held botId symbol = 0
  · exact Or.inl gone
  · rcases pending with nothing | isLater | ⟨rfl, waits | ⟨rfl, covered⟩⟩
    · have soundAfter := (System.Booked.recordLiquidation before sale result).sound sound
      exact absurd (le_antisymm (nothing ▸ steady) (soundAfter.held_nonneg _ _)) gone
    · exact Or.inr (Or.inl isLater)
    · exact Or.inr (Or.inr ⟨rfl, PosRef.live_mem_follow waits gone⟩)
    · exact absurd (held_recordLiquidation sound booked (full ▸ covered)) gone

/-! ### The invariant -/

/-- The ledgers hold nothing for the call to sell but what has grown meanwhile. -/
def Flat (call : KillCall) (watch : Watch) (ledgers : Dict BotId Ledger) : Prop :=
  call.verb = .haltAndLiquidate → watch.full = true → ∀ entry ∈ ledgers.entries,
    Targets call.botId entry.1 → ∀ position ∈ entry.2.openPositions,
      (entry.1, position.symbol) ∈ watch.grown

instance (call : KillCall) (watch : Watch) (ledgers : Dict BotId Ledger) :
    Decidable (Flat call watch ledgers) :=
  inferInstanceAs (Decidable (_ → _ → ∀ entry ∈ ledgers.entries, _ → ∀ position ∈ _, _))

/-- What a call that sells has taken care of, given its next sale. -/
structure Sells (system : System β) (call : KillCall) (watch : Watch) (next : Option Selling) :
    Prop where
  registered : ∀ sale ∈ next, ∃ ledger, system.ledger? sale.botId = some ledger
  pending : call.verb = .haltAndLiquidate → watch.full = true → ∀ botId,
    Targets call.botId botId → ∀ symbol, (botId, symbol) ∉ watch.grown →
      Pending system botId symbol next

/-- What holds of a call under way. -/
def Task.Ok (system : System β) : Task β → Prop
  | .quoting call _ _ => call.intent.action ≠ .hold ∧ call.intent.action ≠ .noop
  | .selling call sale watch => Sells system call watch (some sale)
  | .returned call watch ledgers =>
      system.coordinator.riskManager.HaltsTarget call.botId ∧ Flat call watch ledgers
  | .submitting _ _ _ _ | .finished _ | .raised _ _ => True

structure Desk.Inv (desk : Desk β) : Prop where
  sound : desk.system.Sound
  tasks : ∀ id task, desk.tasks.get? id = some task → task.Ok desk.system

/-- When nothing is left to sell, the ledgers are flat. -/
theorem Sells.flat {system : System β} (sound : system.Sound) {call : KillCall} {watch : Watch}
    (sells : Sells system call watch none) : Flat call watch system.coordinator.ledgers := by
  intro liquidates full entry member targets position open_
  by_contra steady
  have gone : system.held entry.1 position.symbol = 0 :=
    sells.pending liquidates full entry.1 targets position.symbol steady
  exact sound.held_ne_zero (Dict.get?_of_mem_entries member) open_ gone

theorem Pending.congr {before after : System β}
    (ledgers : ∀ botId, after.ledger? botId = before.ledger? botId) {botId : BotId}
    {symbol : Symbol} {next : Option Selling} (pending : Pending before botId symbol next) :
    Pending after botId symbol next := by
  have held : after.held botId symbol = before.held botId symbol := by
    unfold System.held
    rw [ledgers]
  cases next with
  | none => exact held.trans pending
  | some sale =>
      unfold Pending
      rw [held]
      exact pending

/-- Calls do not see the broker cache, and no halt harms them. -/
theorem Task.Ok.congr {before after : System β}
    (ledgers : ∀ botId, after.ledger? botId = before.ledger? botId)
    (halts : ∀ target, before.coordinator.riskManager.HaltsTarget target →
      after.coordinator.riskManager.HaltsTarget target)
    {task : Task β} (ok : task.Ok before) : task.Ok after := by
  cases task with
  | quoting call broker symbols => exact ok
  | selling call sale watch =>
      refine ⟨fun next member => ?_, fun liquidates full botId targets symbol steady => ?_⟩
      · rw [ledgers]
        exact ok.registered next member
      · exact (ok.pending liquidates full botId targets symbol steady).congr ledgers
  | returned call watch ledgers => exact ⟨halts _ ok.1, ok.2⟩
  | submitting call broker order decision => trivial
  | finished outcome => trivial
  | raised call error => trivial

/-- Every call follows a booking. -/
theorem Task.Ok.follow {before after : System β} (sound : before.Sound)
    (booked : before.Booked after) {task : Task β} (ok : task.Ok before) :
    (task.follow before after).Ok after := by
  cases task with
  | quoting call broker symbols => exact ok
  | selling call sale watch =>
      refine ⟨?_, fun liquidates full botId targets symbol steady => ?_⟩
      · rintro next ⟨⟩
        exact booked.ledger?_of_before (ok.registered sale rfl)
      · have steady : (botId, symbol) ∉ watch.grown ++ before.grownHoldings after := steady
        rw [List.mem_append, not_or] at steady
        exact (ok.pending liquidates full botId targets symbol steady.1).follow (booked.sound sound)
          (System.held_le_of_not_grown sound steady.2)
  | returned call watch ledgers =>
      obtain ⟨others, same⟩ := booked.coordinator
      refine ⟨?_, ok.2⟩
      rw [same]
      exact ok.1
  | submitting call broker order decision => trivial
  | finished outcome => trivial
  | raised call error => trivial

namespace Desk.Inv

/-- No call is under way. -/
theorem initial {desk : Desk β} (sound : desk.system.Sound) (idle : desk.tasks = Dict.empty) :
    desk.Inv := by
  refine ⟨sound, fun id task lookup => ?_⟩
  rw [idle, Dict.get?_empty] at lookup
  exact absurd lookup (by simp)

theorem setTask {desk : Desk β} (inv : desk.Inv) (id : Nat) {task : Task β}
    (ok : task.Ok desk.system) : (desk.setTask id task).Inv := by
  refine ⟨inv.sound, fun other found lookup => ?_⟩
  rcases task_setTask lookup with rfl | before
  · exact ok
  · exact inv.tasks other found before

theorem setCache {desk : Desk β} (inv : desk.Inv) (cache : Dict OrgId β) :
    ({ desk with system := desk.system.setCache cache } : Desk β).Inv := by
  refine ⟨fun botId ledger found => inv.sound botId ledger found, fun id task lookup => ?_⟩
  refine (inv.tasks id task lookup).congr ?_ ?_
  · exact fun botId => desk.system.ledger?_setCache cache botId
  · exact fun target halted => halted

theorem book {desk : Desk β} (inv : desk.Inv) {after : System β}
    (booked : desk.system.Booked after) : (desk.book after).Inv := by
  refine ⟨booked.sound inv.sound, fun id found lookup => ?_⟩
  obtain ⟨task, before, rfl⟩ := task_book lookup
  exact (inv.tasks id task before).follow inv.sound booked

/-- A call that returns with flat ledgers halts its target and no less than was
halted before. -/
theorem halt {desk : Desk β} (inv : desk.Inv) (id : Nat) {call : KillCall} {watch : Watch}
    (flat : Flat call watch desk.system.coordinator.ledgers) : (desk.halt id call watch).Inv := by
  have halted : ({ desk with
      system := desk.system.setRiskManager
        (desk.system.coordinator.riskManager.haltTarget call.botId) } : Desk β).Inv := by
    refine ⟨fun botId ledger found => inv.sound botId ledger found, fun other task lookup => ?_⟩
    refine (inv.tasks other task lookup).congr ?_ ?_
    · exact fun botId => desk.system.ledger?_setRiskManager _ botId
    · exact fun target before => before.haltTarget call.botId
  exact halted.setTask id ⟨RiskManager.haltsTarget_haltTarget _ call.botId, flat⟩

theorem proceed {desk : Desk β} (inv : desk.Inv) (id : Nat) {call : KillCall} {watch : Watch}
    {next : Option Selling} (sells : Sells desk.system call watch next) :
    (desk.proceed id call watch next).Inv := by
  rcases desk.proceed_cases id call watch next with
    ⟨rfl, same⟩ | ⟨error, same⟩ | ⟨sale, rfl, same⟩
  · rw [same]
    exact inv.halt id (sells.flat inv.sound)
  · rw [same]
    exact inv.setTask id trivial
  · rw [same]
    exact inv.setTask id sells

/-- The answer to a sale keeps the invariant: a sale filled in full leaves what
was pending to the next one. -/
theorem liquidated {desk : Desk β} (inv : desk.Inv) (id : Nat)
    (answer : Except PyError OrderResult) : (desk.step (.liquidated id answer)).Inv := by
  rcases desk.step_liquidated id answer with
    ⟨same, -⟩ | ⟨call, sale, watch, waiting, ⟨error, -, same⟩ | ⟨result, -, booking⟩⟩
  · rw [same]
    exact inv
  · rw [same]
    exact inv.setTask id trivial
  · have booked := inv.book (System.Booked.recordLiquidation desk.system sale result)
    rcases booking with ⟨error, -, same⟩ | ⟨recorded, same⟩
    · rw [same]
      exact booked.setTask id trivial
    · rw [same]
      have sells : Sells desk.system call watch (some sale) := inv.tasks id _ waiting
      refine booked.proceed id ⟨fun next resumed => call.resume_registered resumed,
        fun liquidates full botId targets symbol steady => ?_⟩
      obtain ⟨fullBefore, filled⟩ := Bool.and_eq_true_iff.mp full
      rw [Watch.note, List.mem_append, not_or] at steady
      have pending := sells.pending liquidates fullBefore botId targets symbol steady.1
      have kept := System.held_le_of_not_grown inv.sound steady.2
      exact KillCall.resume_pending liquidates
        (pending.sold inv.sound (of_decide_eq_true filled) recorded kept)

/-- A step keeps the invariant. -/
theorem step {desk : Desk β} (inv : desk.Inv) (event : DeskEvent β) : (desk.step event).Inv := by
  cases event with
  | execute id call =>
      rcases desk.step_execute id call with same | ⟨cache, begun, same, trades⟩
      · rw [same]
        exact inv
      · rw [same]
        refine (inv.setCache cache).setTask id ?_
        cases begun with
        | raised error => trivial
        | returned result => trivial
        | quoting broker symbols => exact trades broker symbols rfl
  | quoted id =>
      rcases desk.step_quoted id with
        same | ⟨outcome, same⟩ | ⟨call, broker, symbols, order, decision, -, same, -⟩
      · rw [same]
        exact inv
      · rw [same]
        exact inv.setTask id trivial
      · rw [same]
        exact inv.setTask id trivial
  | answered id =>
      rcases desk.step_answered id with
        same | ⟨call, broker, order, decision, -, outcome, same⟩
      · rw [same]
        exact inv
      · rw [same]
        exact (inv.book (System.Booked.executeAnswered _ _ _ _ _)).setTask id trivial
  | kill id call =>
      rcases desk.step_kill id call with same | ⟨stops, same⟩ | same
      · rw [same]
        exact inv
      · rw [same]
        refine inv.halt id fun liquidates => ?_
        rw [stops] at liquidates
        exact absurd liquidates (by simp)
      · rw [same]
        exact inv.proceed id ⟨fun sale next => call.nextLedger_registered next,
          fun liquidates _ botId targets symbol _ =>
            call.targets_pending liquidates desk.system targets symbol⟩
  | liquidated id answer =>
      exact inv.liquidated id answer

end Desk.Inv

/-! ### Runs -/

/-- The call has returned and covers the bot. -/
def Task.Stopped (botId : BotId) : Task β → Prop
  | .returned call _ _ => Targets call.botId botId
  | _ => False

/-- The call has begun to sell, or has ended, and covers the bot. -/
def Task.Started (botId : BotId) : Task β → Prop
  | .selling call _ _ | .returned call _ _ | .raised call _ => Targets call.botId botId
  | _ => False

instance (botId : BotId) (task : Task β) : Decidable (task.Stopped botId) := by
  cases task <;> unfold Task.Stopped <;> infer_instance

instance (botId : BotId) (task : Task β) : Decidable (task.Started botId) := by
  cases task <;> unfold Task.Started <;> infer_instance

namespace Desk

/-- The trade that a step lets through the risk gate. -/
def approved (desk : Desk β) : DeskEvent β → Option TradeIntent
  | .quoted id =>
      match desk.tasks.get? id, (desk.step (.quoted id)).tasks.get? id with
      | some (.quoting call _ _), some (.submitting _ _ _ _) => some call.intent
      | _, _ => none
  | _ => none

/-- No trade is approved for the target of a call that has returned. -/
def RejectsStopped (desk : Desk β) (event : DeskEvent β) : Prop :=
  ∀ intent ∈ desk.approved event, ∀ task ∈ desk.tasks.values, ¬ task.Stopped intent.botId

/-- No buy is approved for the target of a call that has begun. -/
def RejectsStarted (desk : Desk β) (event : DeskEvent β) : Prop :=
  ∀ intent ∈ desk.approved event, intent.action = .buy →
    ∀ task ∈ desk.tasks.values, ¬ task.Started intent.botId

/-- The target of a call that has returned is halted. -/
def HaltsReturned (desk : Desk β) : Prop :=
  ∀ task ∈ desk.tasks.values,
    match task with
    | .returned call _ _ => desk.system.coordinator.riskManager.HaltsTarget call.botId
    | _ => True

/-- The target of a call that has ended is halted. -/
def HaltsEnded (desk : Desk β) : Prop :=
  ∀ task ∈ desk.tasks.values,
    match task with
    | .returned call _ _ | .raised call _ =>
        desk.system.coordinator.riskManager.HaltsTarget call.botId
    | _ => True

/-- A liquidation filled in full returns with nothing left of what has not grown. -/
def FlatReturned (desk : Desk β) : Prop :=
  ∀ task ∈ desk.tasks.values,
    match task with
    | .returned call watch ledgers => Flat call watch ledgers
    | _ => True

/-- A liquidation filled in full returns with nothing left. -/
def EmptyReturned (desk : Desk β) : Prop :=
  ∀ task ∈ desk.tasks.values,
    match task with
    | .returned call watch ledgers => Flat call { full := watch.full } ledgers
    | _ => True

instance (desk : Desk β) (event : DeskEvent β) : Decidable (desk.RejectsStarted event) :=
  inferInstanceAs (Decidable (∀ intent ∈ desk.approved event, _ → ∀ task ∈ _, ¬ _))

instance (desk : Desk β) : Decidable desk.HaltsEnded :=
  @List.decidableBAll _ _ (fun task => by cases task <;> infer_instance) _

instance (desk : Desk β) : Decidable desk.EmptyReturned :=
  @List.decidableBAll _ _ (fun task => by cases task <;> infer_instance) _

theorem Inv.ok_of_mem {desk : Desk β} (inv : desk.Inv) {task : Task β}
    (member : task ∈ desk.tasks.values) : task.Ok desk.system := by
  obtain ⟨⟨id, found⟩, entry, rfl⟩ := List.mem_map.mp member
  exact inv.tasks id found (Dict.get?_of_mem_entries entry)

/-- What is approved was waiting for quotes, and the kill switch did not stop it. -/
theorem approved_open {desk : Desk β} (inv : desk.Inv) {event : DeskEvent β}
    {intent : TradeIntent} (approves : desk.approved event = some intent) :
    ¬ desk.system.coordinator.riskManager.Halts intent := by
  cases event with
  | quoted id =>
      simp only [approved] at approves
      split at approves
      next call broker symbols _ _ order decision waiting after =>
        obtain rfl := Option.some.inj approves
        have trades := inv.tasks id _ waiting
        intro halted
        rcases desk.step_quoted id with
          same | ⟨outcome, same⟩ | ⟨other, _, _, _, _, same, -, ledger, prices, passed⟩
        · rw [same, waiting] at after
          exact absurd after (by simp)
        · rw [same, setTask, Dict.get?_set_self] at after
          exact absurd after (by simp)
        · rw [waiting] at same
          injection Option.some.inj same with calls
          rw [← calls, RiskManager.evaluate_halted trades halted] at passed
          exact absurd passed (by simp)
      next => exact absurd approves (by simp)
  | execute id call => exact absurd approves (by simp [approved])
  | answered id => exact absurd approves (by simp [approved])
  | kill id call => exact absurd approves (by simp [approved])
  | liquidated id answer => exact absurd approves (by simp [approved])

theorem Inv.rejectsStopped {desk : Desk β} (inv : desk.Inv) (event : DeskEvent β) :
    desk.RejectsStopped event := by
  intro intent approves task member stopped
  have ok := inv.ok_of_mem member
  cases task with
  | returned call watch ledgers => exact approved_open inv approves (ok.1.halts stopped)
  | quoting | submitting | finished | selling | raised => exact stopped

theorem Inv.returned {desk : Desk β} (inv : desk.Inv) : desk.HaltsReturned ∧ desk.FlatReturned := by
  constructor
  · intro task member
    have ok := inv.ok_of_mem member
    cases task with
    | returned call watch ledgers => exact ok.1
    | quoting | submitting | finished | selling | raised => trivial
  · intro task member
    have ok := inv.ok_of_mem member
    cases task with
    | returned call watch ledgers => exact ok.2
    | quoting | submitting | finished | selling | raised => trivial

/-- Under every interleaving, a kill-switch call that has returned keeps its
target halted, no trade of its target is approved any more, and if it was a
liquidation whose orders were all filled in full, it returned with no open
position but in holdings that some fill had made larger while it ran. -/
theorem killSwitch_stops {start : Desk β} (sound : start.system.Sound)
    (idle : start.tasks = Dict.empty) (events : List (DeskEvent β)) :
    EachStep step RejectsStopped start events ∧ Always step HaltsReturned start events ∧
      Always step FlatReturned start events := by
  have every : EachStep step (fun _ _ => True) start events :=
    eachStep_of_forall step start fun _ _ => trivial
  have always : Always step Inv start events :=
    always_of_eachStep step (fun _ event inv _ => inv.step event) (Inv.initial sound idle) every
  refine ⟨?_, ?_, ?_⟩
  · exact eachStep_of_eachStep step (fun _ event inv _ => inv.step event)
      (fun _ event inv _ => inv.rejectsStopped event) (Inv.initial sound idle) every
  · exact always.mono step fun _ inv => inv.returned.1
  · exact always.mono step fun _ inv => inv.returned.2

/-- One bot with one AAPL share and a platform broker. -/
def oneShare : Desk Unit :=
  { system :=
      { coordinator :=
          { ledgers := Dict.empty.set "bot"
              ((Ledger.ofCapital 1000).recordFill
                { symbol := "AAPL", side := .buy, quantity := 1, price := 100 }).1
            defaultBroker := some () } } }

def liquidation : KillCall := { verb := .haltAndLiquidate, botId := some "bot" }

/-- A buy of one MSFT share in a market where everything costs one hundred. -/
def buyOther : Call Unit :=
  { env := CallEnv.steady 100, intent := ⟨"bot", "org", "MSFT", .buy, 1, ""⟩ }

/-- The answer that fills an order for one share. -/
def filledOne : OrderResult :=
  { orderId := "order", status := .filled, filledQuantity := 1, filledPrice := 100 }

theorem sound_oneShare : oneShare.system.Sound := by
  intro botId ledger found
  unfold oneShare System.ledger? at found
  rcases Dict.set_or_get?_of_get?_set found with ⟨-, rfl⟩ | before
  · exact (Ledger.sound_ofCapital 1000).recordFill (by norm_num)
  · exact absurd before (by simp)

/-- A liquidation during which the bot buys something else. -/
theorem killSwitch_stops_one_share :
    let events : List (DeskEvent Unit) :=
      [.execute 0 buyOther, .kill 1 liquidation, .quoted 0, .answered 0,
        .liquidated 1 (.ok filledOne)]
    EachStep step RejectsStopped oneShare events ∧ Always step HaltsReturned oneShare events ∧
      Always step FlatReturned oneShare events :=
  killSwitch_stops sound_oneShare rfl _

/-- While the call sells, a buy of its target is approved and stays behind; and
when its order raises, the target is never halted. -/
theorem not_killSwitch_halts_first :
    let bought : List (DeskEvent Unit) :=
      [.execute 0 buyOther, .kill 1 liquidation, .quoted 0, .answered 0,
        .liquidated 1 (.ok filledOne)]
    let refused : List (DeskEvent Unit) :=
      [.kill 1 liquidation, .liquidated 1 (.error (.external "order refused"))]
    ¬ EachStep step RejectsStarted oneShare bought ∧ ¬ Always step EmptyReturned oneShare bought ∧
      ¬ Always step HaltsEnded oneShare refused := by
  decide +kernel

end Desk

end TradingStrands
