import TradingStrands.Ledger.Cash

/-!
Owns what a call of `recordFill` that raises leaves behind. The history and the
fee ledger are extended before anything is checked, so such a call changes its
ledger, and the history of a run is the list of its accepted fills exactly when
every fill could be booked (`Bookable`). No property of the book is assumed
here: quantities may be zero or negative.
-/

namespace TradingStrands.Ledger

open TradingStrands.Foundation

/-- A ledger can book the fill: a sell has a position of its symbol that holds
enough, and a buy divides by no zero, neither per unit nor when it averages in. -/
def Bookable (ledger : Ledger) (fill : Fill) : Prop :=
  match fill.side, ledger.findPosition fill.symbol with
  | .buy, none => fill.quantity ≠ 0
  | .buy, some existing => fill.quantity ≠ 0 ∧ existing.quantity + fill.quantity ≠ 0
  | .sell, none => False
  | .sell, some position => fill.quantity ≤ position.quantity

instance (ledger : Ledger) (fill : Fill) : Decidable (ledger.Bookable fill) := by
  unfold Bookable
  split <;> infer_instance

/-- A call that raises leaves the ledger as it was. -/
def Atomic (ledger : Ledger) (fill : Fill) : Prop :=
  (ledger.recordFill fill).2 ≠ .ok () → (ledger.recordFill fill).1 = ledger

instance (ledger : Ledger) (fill : Fill) : Decidable (ledger.Atomic fill) := by
  unfold Atomic
  infer_instance

/-- The sum of the fee ledger. -/
def feeTotal (ledger : Ledger) : Decimal := (ledger.feeLedger.map FeeBreakdown.total).sum

/-! ### One call -/

private theorem handleBuy_ok_iff {ledger : Ledger} {fill : Fill} (buy : fill.side = .buy) :
    (∃ booked, ledger.handleBuy fill = .ok booked) ↔ ledger.Bookable fill := by
  unfold handleBuy Bookable Position.fromFill Fill.burdenedCostPerUnit divide
  cases ledger.findPosition fill.symbol with
  | none =>
      by_cases zero : fill.quantity = 0 <;> simp [buy, zero]
  | some existing =>
      by_cases zero : fill.quantity = 0
      · simp [buy, zero]
      · by_cases cancels : existing.quantity + fill.quantity = 0 <;> simp [buy, zero, cancels]

private theorem handleSell_ok_iff {ledger : Ledger} {fill : Fill} (sell : fill.side = .sell) :
    (∃ booked, ledger.handleSell fill = .ok booked) ↔ ledger.Bookable fill := by
  unfold handleSell Bookable
  cases ledger.findPosition fill.symbol with
  | none => simp [sell]
  | some position =>
      by_cases beyond : position.quantity < fill.quantity
      · simp [sell, beyond]
      · simp [sell, beyond, not_lt.mp beyond]

theorem handleFill_ok_iff {ledger : Ledger} {fill : Fill} :
    (∃ booked, ledger.handleFill fill = .ok booked) ↔ ledger.Bookable fill := by
  unfold handleFill
  cases side : fill.side with
  | buy => exact handleBuy_ok_iff side
  | sell => exact handleSell_ok_iff side

/-- A call returns normally exactly when the ledger can book the fill. -/
theorem recordFill_ok_iff_bookable {ledger : Ledger} {fill : Fill} :
    (ledger.recordFill fill).2 = .ok () ↔ ledger.Bookable fill := by
  have sameBook : (ledger.appendHistory fill).Bookable fill ↔ ledger.Bookable fill := Iff.rfl
  rw [← sameBook, ← handleFill_ok_iff]
  unfold recordFill
  cases (ledger.appendHistory fill).handleFill fill <;> simp

theorem appendHistory_ne (ledger : Ledger) (fill : Fill) : ledger.appendHistory fill ≠ ledger := by
  intro same
  have lengths := congrArg (fun ledger => ledger.orderHistory.length) same
  simp [appendHistory] at lengths

theorem atomic_iff_bookable {ledger : Ledger} {fill : Fill} :
    ledger.Atomic fill ↔ ledger.Bookable fill := by
  unfold Atomic
  rw [Ne, recordFill_ok_iff_bookable]
  constructor
  · intro atomic
    by_contra rejected
    have same := atomic rejected
    rw [recordFill_of_raised fun done => rejected (recordFill_ok_iff_bookable.mp done)] at same
    exact appendHistory_ne ledger fill same
  · exact fun bookable rejected => absurd bookable rejected

theorem feeLedger_recordFill (ledger : Ledger) (fill : Fill) :
    (ledger.recordFill fill).1.feeLedger = ledger.feeLedger ++ [fill.fees] := by
  rcases ledger.recordFill_cases fill with ⟨error, same⟩ | ⟨positions, same⟩
  · rw [same]
    rfl
  · rw [same]
    unfold booked updateHighWaterMark
    split <;> rfl

/-! ### A run of calls -/

theorem orderHistory_recordFills (ledger : Ledger) (fills : List Fill) :
    (ledger.recordFills fills).orderHistory = ledger.orderHistory ++ fills := by
  induction fills generalizing ledger with
  | nil => exact (List.append_nil _).symm
  | cons fill rest inductionHypothesis =>
      have here : (ledger.recordNext fill).orderHistory = ledger.orderHistory ++ [fill] :=
        orderHistory_recordFill ledger fill
      show ((ledger.recordNext fill).recordFills rest).orderHistory = _
      rw [inductionHypothesis, here, List.append_assoc, List.singleton_append]

theorem feeTotal_recordFills (ledger : Ledger) (fills : List Fill) :
    (ledger.recordFills fills).feeTotal =
      ledger.feeTotal + (fills.map fun fill => fill.fees.total).sum := by
  induction fills generalizing ledger with
  | nil => exact (add_zero _).symm
  | cons fill rest inductionHypothesis =>
      have here : (ledger.recordNext fill).feeTotal = ledger.feeTotal + fill.fees.total := by
        unfold feeTotal recordNext
        rw [feeLedger_recordFill, List.map_append, List.sum_append, List.map_singleton,
          List.sum_singleton]
      show ((ledger.recordNext fill).recordFills rest).feeTotal = _
      rw [inductionHypothesis, here, List.map_cons, List.sum_cons, add_assoc]

theorem acceptedFills_sublist (ledger : Ledger) (fills : List Fill) :
    (ledger.acceptedFills fills).Sublist fills := by
  induction fills generalizing ledger with
  | nil => exact List.Sublist.refl _
  | cons fill rest inductionHypothesis =>
      unfold acceptedFills
      split
      · exact (inductionHypothesis _).cons_cons fill
      · exact (inductionHypothesis _).cons fill

/-- All fills of a run are accepted exactly when each could be booked in turn. -/
theorem acceptedFills_eq_iff {ledger : Ledger} {fills : List Fill} :
    ledger.acceptedFills fills = fills ↔ EachStep recordNext Bookable ledger fills := by
  induction fills generalizing ledger with
  | nil => exact iff_of_true rfl trivial
  | cons fill rest inductionHypothesis =>
      unfold acceptedFills EachStep
      by_cases bookable : ledger.Bookable fill
      · rw [if_pos (recordFill_ok_iff_bookable.mpr bookable), List.cons.injEq,
          inductionHypothesis]
        exact ⟨fun both => ⟨bookable, both.2⟩, fun both => ⟨rfl, both.2⟩⟩
      · rw [if_neg (recordFill_ok_iff_bookable.not.mpr bookable)]
        refine iff_of_false (fun same => ?_) fun both => bookable both.1
        have shorter := (acceptedFills_sublist (ledger.recordNext fill) rest).length_le
        have lengths := congrArg List.length same
        rw [List.length_cons] at lengths
        omega

end TradingStrands.Ledger
