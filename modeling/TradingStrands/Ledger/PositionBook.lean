import TradingStrands.Foundation.Runs
import TradingStrands.Ledger.Settlement

/-!
Owns what the list of open positions represents after any sequence of
`recordFill` calls, raising ones included: the difference between what was
bought and what was sold by the calls that returned, one entry a symbol, and
none where the difference is zero. In the decimal context of the program this
holds of the symbols whose quantity was never rounded.
-/

namespace TradingStrands

open TradingStrands.Foundation

/-- The quantity of a symbol over the fills of one side. -/
def filledQuantity (side : Side) (fills : List Fill) (symbol : Symbol) : Decimal :=
  ((fills.filter fun fill => fill.symbol = symbol ∧ fill.side = side).map Fill.quantity).sum

namespace Ledger

/-- One call of `recordFill`; a call that raises leaves its ledger behind. -/
def recordNext (ledger : Ledger) (fill : Fill) : Ledger := (ledger.recordFill fill).1

/-- The ledger after a sequence of calls. -/
def recordFills (ledger : Ledger) (fills : List Fill) : Ledger := run recordNext ledger fills

/-- The fills of a sequence of calls that returned normally. -/
def acceptedFills (ledger : Ledger) : List Fill → List Fill
  | [] => []
  | fill :: rest =>
      if (ledger.recordFill fill).2 = .ok () then
        fill :: acceptedFills (ledger.recordNext fill) rest
      else acceptedFills (ledger.recordNext fill) rest

/-! ### Calls in a context -/

section Context

variable (context : DecimalContext)

def recordNextIn (ledger : Ledger) (fill : Fill) : Ledger := (ledger.recordFillIn context fill).1

def recordFillsIn (ledger : Ledger) (fills : List Fill) : Ledger :=
  run (recordNextIn context) ledger fills

def acceptedFillsIn (ledger : Ledger) : List Fill → List Fill
  | [] => []
  | fill :: rest =>
      if (ledger.recordFillIn context fill).2 = .ok () then
        fill :: acceptedFillsIn (ledger.recordNextIn context fill) rest
      else acceptedFillsIn (ledger.recordNextIn context fill) rest

/-- The context does not round what is held of the symbol after the call. -/
def Unrounded (symbol : Symbol) (ledger : Ledger) (fill : Fill) : Prop :=
  fill.symbol = symbol → ledger.Covers fill → ∀ position ∈ ledger.openPositions,
    position.symbol = symbol → context.round (position.quantity + fill.signedQuantity) =
      position.quantity + fill.signedQuantity

instance (symbol : Symbol) (ledger : Ledger) (fill : Fill) :
    Decidable (Unrounded context symbol ledger fill) :=
  inferInstanceAs (Decidable (fill.symbol = symbol → ledger.Covers fill →
    ∀ position ∈ ledger.openPositions, position.symbol = symbol → _ = _))

variable {context} {ledger : Ledger} {fill : Fill} {fills : List Fill}

theorem recordNextIn_exact : recordNextIn .exact = recordNext := by
  funext ledger fill
  exact congrArg Prod.fst (recordFillIn_exact ledger fill)

theorem recordFillsIn_exact (ledger : Ledger) (fills : List Fill) :
    ledger.recordFillsIn .exact fills = ledger.recordFills fills := by
  unfold recordFillsIn recordFills
  rw [recordNextIn_exact]

theorem acceptedFillsIn_exact (ledger : Ledger) (fills : List Fill) :
    ledger.acceptedFillsIn .exact fills = ledger.acceptedFills fills := by
  induction fills generalizing ledger with
  | nil => rfl
  | cons fill rest inductionHypothesis =>
      unfold acceptedFillsIn acceptedFills
      rw [recordFillIn_exact, recordNextIn_exact, inductionHypothesis]

/-- The exact context rounds nothing. -/
theorem unrounded_exact (symbol : Symbol) (ledger : Ledger) (fill : Fill) :
    Unrounded .exact symbol ledger fill := fun _ _ _ _ _ => rfl

/-! ### The account over a run -/

theorem Sound.recordNextIn (sound : ledger.Sound) (positive : 0 < fill.quantity) :
    (ledger.recordNextIn context fill).Sound := by
  unfold Ledger.recordNextIn
  by_cases covered : ledger.Covers fill
  · exact (recordFillIn_books sound positive covered).2.sound
  · rw [(recordFillIn_uncovered context covered).2]
    exact sound.appendHistory fill

theorem Sound.recordFillsIn (sound : ledger.Sound) (positive : ∀ fill ∈ fills, 0 < fill.quantity) :
    (ledger.recordFillsIn context fills).Sound := by
  have each := eachStep_of_forall (Ledger.recordNextIn context) ledger positive
  have always : Always (Ledger.recordNextIn context) Ledger.Sound ledger fills :=
    always_of_eachStep (Ledger.recordNextIn context)
      (fun _ _ sound positive => sound.recordNextIn positive) sound each
  exact always.final (Ledger.recordNextIn context)

theorem Sound.recordFillIn_ok_iff (sound : ledger.Sound) (positive : 0 < fill.quantity) :
    (ledger.recordFillIn context fill).2 = .ok () ↔ ledger.Covers fill := by
  constructor
  · intro booked
    by_contra uncovered
    obtain ⟨⟨error, raised⟩, -⟩ := recordFillIn_uncovered context uncovered
    rw [raised] at booked
    cases booked
  · exact fun covered => (recordFillIn_books sound positive covered).1

/-- Where the context does not round, the account moves by the fill. -/
theorem contribution_moveIn {symbol : Symbol} (unrounded : Unrounded context symbol ledger fill)
    (covered : ledger.Covers fill) :
    contribution (fill.symbol, ledger.moveIn context fill) symbol =
      contribution fill.posting symbol := by
  by_cases own : fill.symbol = symbol
  · have move : ledger.moveIn context fill = fill.signedQuantity := by
      unfold moveIn
      cases found : ledger.findPosition fill.symbol with
      | none => rfl
      | some position =>
          obtain ⟨member, named⟩ := findPosition_mem found
          dsimp only
          rw [unrounded own covered position member (named.trans own), add_sub_cancel_left]
    rw [move]
    rfl
  · unfold contribution Fill.posting
    rw [if_neg own, if_neg own]

/-- One call moves the account by its fill if it returns, and not otherwise. -/
theorem Sound.netQuantity_recordNextIn (sound : ledger.Sound) (positive : 0 < fill.quantity)
    {symbol : Symbol} (unrounded : Unrounded context symbol ledger fill) :
    (ledger.recordNextIn context fill).netQuantity symbol =
      ledger.netQuantity symbol +
        if (ledger.recordFillIn context fill).2 = .ok () then contribution fill.posting symbol
        else 0 := by
  by_cases covered : ledger.Covers fill
  · rw [if_pos ((sound.recordFillIn_ok_iff positive).mpr covered),
      ← contribution_moveIn unrounded covered]
    exact (recordFillIn_books sound positive covered).2.net symbol
  · rw [if_neg ((sound.recordFillIn_ok_iff positive).not.mpr covered), add_zero]
    unfold Ledger.recordNextIn
    rw [(recordFillIn_uncovered context covered).2, netQuantity_appendHistory]

/-- Calls that do not round the quantity of a symbol move its account by the fills
that were accepted. -/
theorem Sound.netQuantity_recordFillsIn (sound : ledger.Sound)
    (positive : ∀ fill ∈ fills, 0 < fill.quantity) {symbol : Symbol}
    (unrounded : EachStep (Ledger.recordNextIn context) (Unrounded context symbol) ledger fills) :
    (ledger.recordFillsIn context fills).netQuantity symbol =
      ledger.netQuantity symbol +
        balance ((ledger.acceptedFillsIn context fills).map Fill.posting) symbol := by
  induction fills generalizing ledger with
  | nil => exact (add_zero _).symm
  | cons fill rest inductionHypothesis =>
      have positiveHere := positive fill (by simp)
      have tail := inductionHypothesis (sound.recordNextIn positiveHere)
        (fun later member => positive later (by simp [member])) unrounded.2
      unfold Ledger.recordFillsIn at tail ⊢
      rw [run_cons]
      refine tail.trans ?_
      rw [sound.netQuantity_recordNextIn positiveHere unrounded.1, acceptedFillsIn]
      split
      · rw [List.map_cons, balance_cons, add_assoc]
      · rw [add_zero]

end Context

theorem Sound.recordNext {ledger : Ledger} {fill : Fill} (sound : ledger.Sound)
    (positive : 0 < fill.quantity) : (ledger.recordNext fill).Sound :=
  sound.recordFill positive

theorem Sound.recordFills {ledger : Ledger} (sound : ledger.Sound) {fills : List Fill}
    (positive : ∀ fill ∈ fills, 0 < fill.quantity) : (ledger.recordFills fills).Sound := by
  rw [← recordFillsIn_exact]
  exact sound.recordFillsIn positive

theorem Sound.netQuantity_recordFills {ledger : Ledger} (sound : ledger.Sound) {fills : List Fill}
    (positive : ∀ fill ∈ fills, 0 < fill.quantity) (symbol : Symbol) :
    (ledger.recordFills fills).netQuantity symbol =
      ledger.netQuantity symbol +
        balance ((ledger.acceptedFills fills).map Fill.posting) symbol := by
  rw [← recordFillsIn_exact, ← acceptedFillsIn_exact]
  refine sound.netQuantity_recordFillsIn positive ?_
  rw [eachStep_iff_cut]
  intro before fill after _
  exact unrounded_exact symbol _ fill

/-- The account balance of a list of fills is what it bought less what it sold. -/
theorem balance_fills (fills : List Fill) (symbol : Symbol) :
    balance (fills.map Fill.posting) symbol =
      filledQuantity .buy fills symbol - filledQuantity .sell fills symbol := by
  induction fills with
  | nil => exact (sub_self 0).symm
  | cons fill rest inductionHypothesis =>
      rw [List.map_cons, balance_cons, inductionHypothesis]
      unfold filledQuantity contribution Fill.posting Fill.signedQuantity
      by_cases same : fill.symbol = symbol
      · cases side : fill.side with
        | buy =>
            simp only [same, side, List.filter_cons, and_self, decide_true, if_true, reduceCtorEq,
              and_false, decide_false, if_false, Bool.false_eq_true, List.map_cons, List.sum_cons]
            ring
        | sell =>
            simp only [same, side, List.filter_cons, and_self, decide_true, if_true, reduceCtorEq,
              and_false, decide_false, if_false, Bool.false_eq_true, List.map_cons, List.sum_cons]
            ring
      · simp [same]

/-! ### The entries -/

/-- A symbol has an entry exactly when something of it is held. -/
theorem Sound.exists_entry_iff {ledger : Ledger} (sound : ledger.Sound) (symbol : Symbol) :
    (∃ position ∈ ledger.openPositions, position.symbol = symbol) ↔
      0 < ledger.netQuantity symbol := by
  rw [← sound.heldQuantity_eq]
  unfold heldQuantity
  cases found : ledger.findPosition symbol with
  | none =>
      refine iff_of_false ?_ (lt_irrefl _)
      rintro ⟨position, member, same⟩
      exact findPosition_eq_none found position member same
  | some position =>
      obtain ⟨member, same⟩ := findPosition_mem found
      exact iff_of_true ⟨position, member, same⟩ (sound.positive position member)

theorem Sound.netQuantity_of_mem {ledger : Ledger} (sound : ledger.Sound) {position : Position}
    (member : position ∈ ledger.openPositions) :
    ledger.netQuantity position.symbol = position.quantity := by
  rw [← sound.heldQuantity_eq]
  unfold heldQuantity
  rw [sound.findPosition_eq_some_iff.mpr ⟨member, rfl⟩]

/-- Removing a position by value from a sound book drops the entry of its
symbol and keeps the other entries in order. -/
theorem Sound.erase_eq_filter {ledger : Ledger} (sound : ledger.Sound) {position : Position}
    (member : position ∈ ledger.openPositions) :
    ledger.openPositions.erase position =
      ledger.openPositions.filter fun other => other.symbol ≠ position.symbol := by
  rw [(List.Nodup.of_map _ sound.nodup).erase_eq_filter]
  refine List.filter_congr fun other otherMember => ?_
  have sameEntry : other.symbol = position.symbol ↔ other = position :=
    ⟨List.inj_on_of_nodup_map sound.nodup otherMember member, congrArg Position.symbol⟩
  rw [Bool.eq_iff_iff]
  simp [sameEntry]

/-- Selling all that is held returns and removes one entry. -/
theorem Sound.recordFillIn_close {context : DecimalContext} {ledger : Ledger} {fill : Fill}
    (sound : ledger.Sound) {position : Position} (sell : fill.side = .sell)
    (found : ledger.findPosition fill.symbol = some position)
    (whole : fill.quantity = position.quantity) :
    (ledger.recordFillIn context fill).2 = .ok () ∧
      (ledger.recordFillIn context fill).1.openPositions =
        ledger.openPositions.filter fun other => other.symbol ≠ fill.symbol := by
  obtain ⟨member, symbol⟩ := findPosition_mem found
  have foundAfter : (ledger.appendHistory fill).findPosition fill.symbol = some position := found
  have remaining : context.sub position.quantity position.quantity = 0 := by
    unfold DecimalContext.sub
    rw [sub_self, context.round_zero]
  have filtered := sound.erase_eq_filter member
  rw [symbol] at filtered
  unfold Ledger.recordFillIn handleFillIn handleSellIn
  simp only [sell, foundAfter, whole, remaining, lt_irrefl, if_false, if_true,
    openPositions_updateHighWaterMarkIn, true_and]
  exact filtered

/-- Starting from an empty book, after any sequence of calls with positive
quantities in the default context: one entry a symbol, every entry positive, and a
sell of a whole entry then removes that entry and no other. Of a symbol whose
quantity was never rounded there is an entry exactly if the accepted buys exceed
the accepted sells, for exactly the difference. -/
theorem openPositions_recordFillsIn (ledger : Ledger) (fills : List Fill)
    (empty : ledger.openPositions = []) (positive : ∀ fill ∈ fills, 0 < fill.quantity) :
    let after := ledger.recordFillsIn .default fills
    let bought := filledQuantity .buy (ledger.acceptedFillsIn .default fills)
    let sold := filledQuantity .sell (ledger.acceptedFillsIn .default fills)
    (after.openPositions.map Position.symbol).Nodup ∧
      (∀ position ∈ after.openPositions, 0 < position.quantity) ∧
      (∀ symbol, EachStep (recordNextIn .default) (Unrounded .default symbol) ledger fills →
        ((∃ position ∈ after.openPositions, position.symbol = symbol) ↔
          sold symbol < bought symbol) ∧
        ∀ position ∈ after.openPositions, position.symbol = symbol →
          position.quantity = bought symbol - sold symbol) ∧
      ∀ fill position, fill.side = .sell → position ∈ after.openPositions →
        position.symbol = fill.symbol → fill.quantity = position.quantity →
          (after.recordFillIn .default fill).2 = .ok () ∧
            (after.recordFillIn .default fill).1.openPositions =
              after.openPositions.filter fun other => other.symbol ≠ fill.symbol := by
  intro after bought sold
  have soundStart := Sound.of_noPositions empty
  have sound : after.Sound := soundStart.recordFillsIn positive
  refine ⟨sound.nodup, sound.positive, fun symbol unrounded => ?_, ?_⟩
  · have start : ledger.netQuantity symbol = 0 := by
      unfold netQuantity
      rw [empty]
      rfl
    have net : after.netQuantity symbol = bought symbol - sold symbol := by
      rw [soundStart.netQuantity_recordFillsIn positive unrounded, balance_fills, start, zero_add]
    refine ⟨?_, ?_⟩
    · rw [sound.exists_entry_iff, net, sub_pos]
    · rintro position member rfl
      rw [← sound.netQuantity_of_mem member, net]
  · intro fill position sell member symbol whole
    exact sound.recordFillIn_close sell (sound.findPosition_eq_some_iff.mpr ⟨member, symbol⟩) whole

/-- A rejected sell and a second symbol leave the closed entry's removal as it is. -/
theorem openPositions_recordFillsIn_close :
    let buy : Fill := ⟨"AAPL", .buy, 2, 10, {}⟩
    let other : Fill := ⟨"MSFT", .buy, 2, 10, {}⟩
    let more : Fill := ⟨"AAPL", .buy, 1, 10, {}⟩
    let beyond : Fill := ⟨"AAPL", .sell, 4, 11, {}⟩
    let close : Fill := ⟨"AAPL", .sell, 3, 11, {}⟩
    let after := (ofCapital 100).recordFillsIn .default [buy, other, more, beyond]
    (∃ position ∈ after.openPositions, position.symbol = "AAPL") ∧
      (after.recordFillIn .default close).2 = .ok () ∧
      (after.recordFillIn .default close).1.openPositions = [⟨"MSFT", 2, 10⟩] := by
  intro buy other more beyond close after
  have book := openPositions_recordFillsIn (ofCapital 100) [buy, other, more, beyond]
    (by decide +kernel) (by decide +kernel)
  have positions : after.openPositions = [⟨"AAPL", 3, 10⟩, ⟨"MSFT", 2, 10⟩] := by decide +kernel
  have closed := book.2.2.2 close ⟨"AAPL", 3, 10⟩ rfl
    (by rw [positions]; simp) rfl rfl
  refine ⟨((book.2.2.1 "AAPL" ?_).1).mpr (by decide +kernel), closed.1, ?_⟩
  · refine ⟨?_, ?_, ?_, ?_, trivial⟩ <;> decide +kernel
  · rw [closed.2, positions]
    decide +kernel

/-- Shares too few to be kept beside a whole one are bought and never sold, and the
sell of the whole one removes the entry. -/
theorem openPositions_forget_small_buy :
    let fills : List Fill := [⟨"AAPL", .buy, 1, 10, {}⟩, ⟨"AAPL", .buy, 1 / 10 ^ 28, 10, {}⟩,
      ⟨"AAPL", .sell, 1, 10, {}⟩]
    (ofCapital 100).acceptedFillsIn .default fills = fills ∧
      filledQuantity .sell fills "AAPL" < filledQuantity .buy fills "AAPL" ∧
      ((ofCapital 100).recordFillsIn .default fills).openPositions = [] := by
  decide +kernel

end Ledger

end TradingStrands
