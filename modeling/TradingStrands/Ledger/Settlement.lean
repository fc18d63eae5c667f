import TradingStrands.Ledger.Book
import Mathlib.Data.List.Nodup

/-!
Owns the settlement of one fill against one position: `nextPosition` says what
a fill makes of the position of its own symbol, and `recordFill` refines it. Up
to the order of the list, recording a fill replaces that one position by the
next one and leaves every other position object as it is.

Does not own: the sequences of fills. Runs are in the two modules that import
this one.
-/

namespace TradingStrands

open TradingStrands.Foundation

/-- A buy opens a position or averages into it, a sell within what is held
reduces or closes it, and a sell beyond what is held leaves it alone. -/
def nextPosition (held : Option Position) (fill : Fill) : Option Position :=
  match fill.side, held with
  | .buy, none => some ⟨fill.symbol, fill.quantity, fill.burdenedTotal / fill.quantity⟩
  | .buy, some position =>
      some { position with
        burdenedCostBasis :=
          (position.burdenedCostBasis * position.quantity + fill.burdenedTotal) /
            (position.quantity + fill.quantity)
        quantity := position.quantity + fill.quantity }
  | .sell, none => none
  | .sell, some position =>
      if position.quantity < fill.quantity then some position
      else if position.quantity = fill.quantity then none
      else some { position with quantity := position.quantity - fill.quantity }

/-- The next position is one of the fill's symbol. -/
theorem nextPosition_symbol {held : Option Position} {fill : Fill} {position : Position}
    (sameSymbol : ∀ old, held = some old → old.symbol = fill.symbol)
    (next : nextPosition held fill = some position) : position.symbol = fill.symbol := by
  unfold nextPosition at next
  cases held with
  | none =>
      cases side : fill.side <;> simp only [side, Option.some.injEq, reduceCtorEq] at next
      rw [← next]
  | some old =>
      have symbol := sameSymbol old rfl
      cases side : fill.side with
      | buy =>
          simp only [side, Option.some.injEq] at next
          rw [← next]
          exact symbol
      | sell =>
          simp only [side] at next
          split_ifs at next <;> (cases next; exact symbol)

namespace Ledger

/-! ### The position of a symbol in a sound book -/

theorem Sound.findPosition_eq_some_iff {ledger : Ledger} (sound : ledger.Sound) {symbol : Symbol}
    {position : Position} :
    ledger.findPosition symbol = some position ↔
      position ∈ ledger.openPositions ∧ position.symbol = symbol := by
  constructor
  · exact findPosition_mem
  · rintro ⟨member, rfl⟩
    cases found : ledger.findPosition position.symbol with
    | none => exact absurd rfl (findPosition_eq_none found position member)
    | some other =>
        obtain ⟨otherMember, sameSymbol⟩ := findPosition_mem found
        rw [List.inj_on_of_nodup_map sound.nodup otherMember member sameSymbol]

theorem Sound.of_noPositions {ledger : Ledger} (noPositions : ledger.openPositions = []) :
    ledger.Sound := by
  refine ⟨?_, ?_⟩
  · rw [noPositions]
    exact List.nodup_nil
  · rw [noPositions]
    simp

/-- Two sound books with the same position for each symbol hold the same
position objects. -/
theorem Sound.openPositions_perm {first second : Ledger} (soundFirst : first.Sound)
    (soundSecond : second.Sound)
    (same : ∀ symbol, first.findPosition symbol = second.findPosition symbol) :
    first.openPositions.Perm second.openPositions := by
  refine (List.perm_ext_iff_of_nodup (List.Nodup.of_map _ soundFirst.nodup)
    (List.Nodup.of_map _ soundSecond.nodup)).mpr fun position => ?_
  have inFirst : first.findPosition position.symbol = some position ↔ _ :=
    soundFirst.findPosition_eq_some_iff
  have inSecond : second.findPosition position.symbol = some position ↔ _ :=
    soundSecond.findPosition_eq_some_iff
  rw [same] at inFirst
  simpa using inFirst.symm.trans inSecond

/-! ### Recording a fill -/

private theorem handleBuy_replaces {ledger : Ledger} {fill : Fill} (sound : ledger.Sound)
    (buy : fill.side = .buy) (positive : 0 < fill.quantity) :
    ∃ positions rest, ledger.handleBuy fill = .ok { ledger with openPositions := positions } ∧
      ledger.openPositions.Perm ((ledger.findPosition fill.symbol).toList ++ rest) ∧
      positions.Perm ((nextPosition (ledger.findPosition fill.symbol) fill).toList ++ rest) := by
  have costPerUnit : fill.burdenedCostPerUnit = .ok (fill.burdenedTotal / fill.quantity) :=
    divide_of_ne_zero positive.ne'
  unfold handleBuy nextPosition
  cases found : ledger.findPosition fill.symbol with
  | none =>
      simp only [Position.fromFill, buy, ne_eq, not_true_eq_false, if_false, costPerUnit]
      exact ⟨_, ledger.openPositions, rfl, List.Perm.refl _, List.perm_append_comm⟩
  | some existing =>
      have held := sound.positive existing (findPosition_mem found).1
      have nonzero : existing.quantity + fill.quantity ≠ 0 := by linarith
      have cost : fill.burdenedTotal / fill.quantity * fill.quantity = fill.burdenedTotal :=
        div_mul_cancel₀ _ positive.ne'
      simp only [costPerUnit, divide_of_ne_zero nonzero, cost, buy]
      obtain ⟨rest, before, after⟩ := updatePosition_perm found _
      exact ⟨_, rest, rfl, before, after⟩

private theorem handleSell_replaces {ledger : Ledger} {fill : Fill}
    (sell : fill.side = .sell) (positive : 0 < fill.quantity) (covered : ledger.Covers fill) :
    ∃ pnl positions rest, ledger.handleSell fill =
        .ok { ledger with realizedPnl := pnl, openPositions := positions } ∧
      ledger.openPositions.Perm ((ledger.findPosition fill.symbol).toList ++ rest) ∧
      positions.Perm ((nextPosition (ledger.findPosition fill.symbol) fill).toList ++ rest) := by
  have enough := covered sell
  unfold heldQuantity at enough
  unfold handleSell nextPosition
  cases found : ledger.findPosition fill.symbol with
  | none =>
      rw [found] at enough
      exact absurd enough (not_le.mpr positive)
  | some existing =>
      rw [found] at enough
      simp only [if_neg (not_lt.mpr enough), sell]
      by_cases closes : existing.quantity - fill.quantity = 0
      · simp only [if_pos closes, if_pos (sub_eq_zero.mp closes)]
        exact ⟨_, _, _, rfl, List.perm_cons_erase (findPosition_mem found).1, List.Perm.refl _⟩
      · simp only [if_neg closes, if_neg (sub_eq_zero.not.mp closes)]
        obtain ⟨rest, before, after⟩ := updatePosition_perm found _
        exact ⟨_, _, rest, rfl, before, after⟩

/-- A sell beyond what is held leaves the position of its symbol alone. -/
theorem nextPosition_of_uncovered {ledger : Ledger} {fill : Fill}
    (uncovered : ¬ ledger.Covers fill) :
    nextPosition (ledger.findPosition fill.symbol) fill = ledger.findPosition fill.symbol := by
  unfold Covers heldQuantity at uncovered
  push Not at uncovered
  obtain ⟨sell, beyond⟩ := uncovered
  unfold nextPosition
  cases found : ledger.findPosition fill.symbol with
  | none => simp only [sell]
  | some position =>
      rw [found] at beyond
      simp only [sell, if_pos beyond]

/-- Recording a positive fill replaces the position of its symbol by the next
one; every other position object stays. -/
theorem Sound.recordFill_replaces {ledger : Ledger} {fill : Fill} (sound : ledger.Sound)
    (positive : 0 < fill.quantity) :
    ∃ rest,
      ledger.openPositions.Perm ((ledger.findPosition fill.symbol).toList ++ rest) ∧
      (ledger.recordFill fill).1.openPositions.Perm
        ((nextPosition (ledger.findPosition fill.symbol) fill).toList ++ rest) := by
  have appended := sound.appendHistory fill
  by_cases covered : ledger.Covers fill
  · unfold Ledger.recordFill Ledger.handleFill
    cases side : fill.side with
    | buy =>
        obtain ⟨positions, rest, handled, before, after⟩ :=
          handleBuy_replaces appended side positive
        simp only [handled, openPositions_updateHighWaterMark]
        exact ⟨rest, before, after⟩
    | sell =>
        have coveredAfter : (ledger.appendHistory fill).Covers fill := covered
        obtain ⟨pnl, positions, rest, handled, before, after⟩ :=
          handleSell_replaces side positive coveredAfter
        simp only [handled, openPositions_updateHighWaterMark]
        exact ⟨rest, before, after⟩
  · rw [(recordFill_uncovered covered).2, nextPosition_of_uncovered covered]
    cases found : ledger.findPosition fill.symbol with
    | none => exact ⟨ledger.openPositions, List.Perm.refl _, List.Perm.refl _⟩
    | some position =>
        have removed := List.perm_cons_erase (findPosition_mem found).1
        exact ⟨_, removed, removed⟩

/-- A positive fill is booked exactly when the book covers it. -/
theorem Sound.recordFill_ok_iff {ledger : Ledger} {fill : Fill} (sound : ledger.Sound)
    (positive : 0 < fill.quantity) :
    (ledger.recordFill fill).2 = .ok () ↔ ledger.Covers fill := by
  constructor
  · intro booked
    by_contra uncovered
    obtain ⟨⟨error, raised⟩, -⟩ := recordFill_uncovered uncovered
    rw [raised] at booked
    cases booked
  · exact fun covered => (recordFill_books sound positive covered).1

/-- The position of each symbol after a fill. -/
theorem Sound.findPosition_recordFill {ledger : Ledger} {fill : Fill} (sound : ledger.Sound)
    (positive : 0 < fill.quantity) (symbol : Symbol) :
    (ledger.recordFill fill).1.findPosition symbol =
      if symbol = fill.symbol then nextPosition (ledger.findPosition symbol) fill
      else ledger.findPosition symbol := by
  obtain ⟨rest, before, after⟩ := sound.recordFill_replaces positive
  have soundAfter := sound.recordFill positive
  have oldSymbol : ∀ old, ledger.findPosition fill.symbol = some old → old.symbol = fill.symbol :=
    fun old found => (findPosition_mem found).2
  apply Option.ext
  intro position
  rw [soundAfter.findPosition_eq_some_iff, after.mem_iff, List.mem_append, Option.mem_toList]
  by_cases own : symbol = fill.symbol
  · subst own
    rw [if_pos rfl]
    have notInRest : position ∈ rest → position.symbol ≠ fill.symbol := by
      intro inRest sameSymbol
      have found := sound.findPosition_eq_some_iff.mpr
        ⟨before.mem_iff.mpr (List.mem_append_right _ inRest), sameSymbol⟩
      have nodup := (before.map Position.symbol).nodup_iff.mp sound.nodup
      rw [found, Option.toList_some, List.singleton_append, List.map_cons,
        List.nodup_cons] at nodup
      exact nodup.1 (List.mem_map_of_mem inRest)
    constructor
    · rintro ⟨isNext | inRest, sameSymbol⟩
      · exact isNext
      · exact absurd sameSymbol (notInRest inRest)
    · intro isNext
      exact ⟨Or.inl isNext, nextPosition_symbol oldSymbol isNext⟩
  · rw [if_neg own, sound.findPosition_eq_some_iff, before.mem_iff, List.mem_append,
      Option.mem_toList]
    have notNext : position ∈ nextPosition (ledger.findPosition fill.symbol) fill →
        position.symbol ≠ symbol :=
      fun isNext sameSymbol => own (sameSymbol ▸ nextPosition_symbol oldSymbol isNext)
    have notOld : position ∈ ledger.findPosition fill.symbol → position.symbol ≠ symbol :=
      fun isOld sameSymbol => own (sameSymbol ▸ oldSymbol position isOld)
    tauto

end Ledger

end TradingStrands
