import TradingStrands.Foundation.Balance
import TradingStrands.Ledger.Rounded
import Mathlib.Tactic.Linarith
import Mathlib.Tactic.Ring

/-!
Owns the position book of a ledger: its representation invariant (`Sound`), the
account it implements (`netQuantity`, one signed balance a symbol), and what
`recordFill` does to both. A positive fill that the book covers is always
booked and moves exactly its own symbol by its signed quantity; any other
positive fill raises and leaves the positions alone.
-/

namespace TradingStrands

open TradingStrands.Foundation

/-- A buy adds its quantity to the position, a sell removes it. -/
def Fill.signedQuantity (fill : Fill) : Decimal :=
  match fill.side with
  | .buy => fill.quantity
  | .sell => -fill.quantity

/-- The posting of a fill to the account of its symbol. -/
def Fill.posting (fill : Fill) : Symbol × Decimal := (fill.symbol, fill.signedQuantity)

def Position.posting (position : Position) : Symbol × Decimal :=
  (position.symbol, position.quantity)

namespace Ledger

/-- At most one position a symbol, and every open position holds something. -/
structure Sound (ledger : Ledger) : Prop where
  nodup : (ledger.openPositions.map Position.symbol).Nodup
  positive : ∀ position ∈ ledger.openPositions, 0 < position.quantity

/-- The quantity of a symbol over all open positions. -/
def netQuantity (ledger : Ledger) (symbol : Symbol) : Decimal :=
  balance (ledger.openPositions.map Position.posting) symbol

/-- The quantity of the position that `findPosition` returns. -/
def heldQuantity (ledger : Ledger) (symbol : Symbol) : Decimal :=
  match ledger.findPosition symbol with
  | none => 0
  | some position => position.quantity

/-- The book can take the fill: a sell is at most what is held. -/
def Covers (ledger : Ledger) (fill : Fill) : Prop :=
  fill.side = .sell → fill.quantity ≤ ledger.heldQuantity fill.symbol

instance (ledger : Ledger) (fill : Fill) : Decidable (ledger.Covers fill) := by
  unfold Covers
  infer_instance

theorem sound_ofCapital (capital : Decimal) : (ofCapital capital).Sound := by
  unfold ofCapital modelPostInit
  split <;> exact ⟨List.nodup_nil, by simp⟩

@[simp] theorem netQuantity_ofCapital (capital : Decimal) (symbol : Symbol) :
    (ofCapital capital).netQuantity symbol = 0 := by
  unfold ofCapital modelPostInit
  split <;> rfl

/-! ### The position of a symbol -/

theorem findPosition_mem {ledger : Ledger} {symbol : Symbol} {position : Position}
    (found : ledger.findPosition symbol = some position) :
    position ∈ ledger.openPositions ∧ position.symbol = symbol :=
  ⟨List.mem_of_find?_eq_some found, by simpa using List.find?_some found⟩

theorem findPosition_eq_none {ledger : Ledger} {symbol : Symbol}
    (absent : ledger.findPosition symbol = none) :
    ∀ position ∈ ledger.openPositions, position.symbol ≠ symbol := by
  intro position member
  simpa using List.find?_eq_none.mp absent position member

private theorem postings_nodup {positions : List Position}
    (nodup : (positions.map Position.symbol).Nodup) :
    ((positions.map Position.posting).map Prod.fst).Nodup := by
  rw [List.map_map]
  exact nodup

/-- In a sound book, what is held is the account balance. -/
theorem Sound.heldQuantity_eq {ledger : Ledger} (sound : ledger.Sound) (symbol : Symbol) :
    ledger.heldQuantity symbol = ledger.netQuantity symbol := by
  unfold heldQuantity netQuantity
  cases found : ledger.findPosition symbol with
  | none =>
      refine (balance_eq_zero fun posting member => ?_).symm
      obtain ⟨position, positionMember, rfl⟩ := List.mem_map.mp member
      exact findPosition_eq_none found position positionMember
  | some position =>
      obtain ⟨member, rfl⟩ := findPosition_mem found
      exact (balance_of_nodup (postings_nodup sound.nodup)
        (List.mem_map.mpr ⟨position, member, rfl⟩)).symm

theorem Sound.heldQuantity_nonneg {ledger : Ledger} (sound : ledger.Sound) (symbol : Symbol) :
    0 ≤ ledger.heldQuantity symbol := by
  unfold heldQuantity
  cases found : ledger.findPosition symbol with
  | none => exact le_rfl
  | some position => exact (sound.positive position (findPosition_mem found).1).le

/-! ### Mutating and removing a position -/

/-- Updating the found position replaces that one object. -/
theorem updatePosition_perm {positions : List Position} {symbol : Symbol} {position : Position}
    (found : positions.find? (fun other => other.symbol = symbol) = some position)
    (update : Position → Position) :
    ∃ rest, positions.Perm (position :: rest) ∧
      (updatePosition positions symbol update).Perm (update position :: rest) := by
  induction positions with
  | nil => simp at found
  | cons head tail inductionHypothesis =>
      by_cases hit : head.symbol = symbol
      · rw [List.find?_cons_of_pos (by simpa using hit), Option.some.injEq] at found
        subst found
        refine ⟨tail, List.Perm.refl _, ?_⟩
        rw [updatePosition, if_pos hit]
      · rw [List.find?_cons_of_neg (by simpa using hit)] at found
        obtain ⟨rest, before, after⟩ := inductionHypothesis found
        refine ⟨head :: rest, ?_, ?_⟩
        · exact (before.cons head).trans (List.Perm.swap _ _ _)
        · rw [updatePosition, if_neg hit]
          exact (after.cons head).trans (List.Perm.swap _ _ _)

private theorem netQuantity_of_perm {ledger : Ledger} {positions : List Position}
    (permutation : ledger.openPositions.Perm positions) (symbol : Symbol) :
    ledger.netQuantity symbol = balance (positions.map Position.posting) symbol :=
  balance_perm (permutation.map _) symbol

private theorem sound_of_perm {ledger : Ledger} {positions : List Position}
    (permutation : ledger.openPositions.Perm positions)
    (nodup : (positions.map Position.symbol).Nodup)
    (positive : ∀ position ∈ positions, 0 < position.quantity) : ledger.Sound :=
  ⟨(permutation.map _).nodup_iff.mpr nodup,
    fun position member => positive position (permutation.mem_iff.mp member)⟩

/-- The book afterwards is sound and has moved by the posting only. -/
structure Books (ledger : Ledger) (posting : Symbol × Decimal) (booked : Ledger) : Prop where
  sound : booked.Sound
  net : ∀ symbol, booked.netQuantity symbol =
    ledger.netQuantity symbol + contribution posting symbol

/-- The found position `old` became `new`, everything else stayed. -/
private theorem books_of_replace {ledger booked : Ledger} {old new : Position} {own : Symbol}
    {delta : Decimal} {rest : List Position} (sound : ledger.Sound)
    (before : ledger.openPositions.Perm (old :: rest))
    (after : booked.openPositions.Perm (new :: rest)) (sameSymbol : new.symbol = old.symbol)
    (ownSymbol : old.symbol = own) (positive : 0 < new.quantity)
    (moved : new.quantity = old.quantity + delta) : Books ledger (own, delta) booked := by
  have nodup := (before.map Position.symbol).nodup_iff.mp sound.nodup
  refine ⟨sound_of_perm after ?_ ?_, fun symbol => ?_⟩
  · simpa [sameSymbol] using nodup
  · intro position member
    rcases List.mem_cons.mp member with rfl | inRest
    · exact positive
    · exact sound.positive position (before.mem_iff.mpr (by simp [inRest]))
  · have split : contribution new.posting symbol =
        contribution old.posting symbol + contribution (own, delta) symbol := by
      unfold Position.posting
      rw [sameSymbol, ownSymbol, moved, contribution_add]
    rw [netQuantity_of_perm before, netQuantity_of_perm after, List.map_cons, List.map_cons,
      balance_cons, balance_cons, split]
    ring

/-- The found position was removed, everything else stayed. -/
private theorem books_of_remove {ledger booked : Ledger} {old : Position} {own : Symbol}
    {delta : Decimal} (sound : ledger.Sound)
    (before : ledger.openPositions.Perm (old :: booked.openPositions))
    (ownSymbol : old.symbol = own) (moved : old.quantity + delta = 0) :
    Books ledger (own, delta) booked := by
  have nodup := (before.map Position.symbol).nodup_iff.mp sound.nodup
  rw [List.map_cons, List.nodup_cons] at nodup
  refine ⟨⟨nodup.2, fun position member => ?_⟩, fun symbol => ?_⟩
  · exact sound.positive position (before.mem_iff.mpr (by simp [member]))
  · have cancel : contribution old.posting symbol + contribution (own, delta) symbol = 0 := by
      unfold Position.posting
      rw [ownSymbol, ← contribution_add, moved, contribution_zero]
    rw [netQuantity_of_perm before, netQuantity, List.map_cons, balance_cons]
    linarith

/-- A new position was appended, everything else stayed. -/
private theorem books_of_append {ledger booked : Ledger} (new : Position)
    (sound : ledger.Sound) (absent : ledger.findPosition new.symbol = none)
    (after : booked.openPositions = ledger.openPositions ++ [new])
    (positive : 0 < new.quantity) : Books ledger new.posting booked := by
  refine ⟨⟨?_, ?_⟩, fun symbol => ?_⟩
  · rw [after, List.map_append, List.nodup_append]
    refine ⟨sound.nodup, by simp, ?_⟩
    intro old oldMember last lastMember same
    obtain ⟨position, member, rfl⟩ := List.mem_map.mp oldMember
    rw [List.map_singleton, List.mem_singleton] at lastMember
    exact findPosition_eq_none absent position member (same.trans lastMember)
  · intro position member
    rw [after, List.mem_append, List.mem_singleton] at member
    rcases member with inOld | rfl
    · exact sound.positive position inOld
    · exact positive
  · unfold netQuantity
    rw [after, List.map_append, balance_append, List.map_singleton, balance_singleton]

/-! ### Booking a fill -/

theorem Books.of_sameBook {ledger old booked new : Ledger} {posting : Symbol × Decimal}
    (books : Books ledger posting booked) (before : old.openPositions = ledger.openPositions)
    (after : new.openPositions = booked.openPositions) : Books old posting new := by
  refine ⟨⟨after ▸ books.sound.nodup, after ▸ books.sound.positive⟩, fun symbol => ?_⟩
  have net := books.net symbol
  unfold netQuantity at net ⊢
  rw [before, after, net]

/-- What the fill moves the quantity of its symbol by: a quantity that is held is
added to, and the sum is a result of the context. -/
def moveIn (context : DecimalContext) (ledger : Ledger) (fill : Fill) : Decimal :=
  match ledger.findPosition fill.symbol with
  | none => fill.signedQuantity
  | some position => context.round (position.quantity + fill.signedQuantity) - position.quantity

theorem moveIn_of_found (context : DecimalContext) {ledger : Ledger} {fill : Fill}
    {position : Position} (found : ledger.findPosition fill.symbol = some position) :
    position.quantity + ledger.moveIn context fill =
      context.round (position.quantity + fill.signedQuantity) := by
  unfold moveIn
  rw [found]
  exact add_sub_cancel _ _

@[simp] theorem moveIn_exact (ledger : Ledger) (fill : Fill) :
    ledger.moveIn .exact fill = fill.signedQuantity := by
  unfold moveIn
  split
  · rfl
  · exact add_sub_cancel_left _ _

section Booking

variable {context : DecimalContext} {ledger : Ledger} {fill : Fill}

private theorem handleBuyIn_books (sound : ledger.Sound) (buy : fill.side = .buy)
    (positive : 0 < fill.quantity) :
    ∃ positions, ledger.handleBuyIn context fill = .ok { ledger with openPositions := positions } ∧
      Books ledger (fill.symbol, ledger.moveIn context fill)
        { ledger with openPositions := positions } := by
  have costPerUnit : fill.burdenedCostPerUnitIn context =
      .ok (context.round (fill.burdenedTotalIn context / fill.quantity)) := by
    unfold Fill.burdenedCostPerUnitIn DecimalContext.divide
    rw [divide_of_ne_zero positive.ne']
    rfl
  have signed : fill.signedQuantity = fill.quantity := by
    simp [Fill.signedQuantity, buy]
  unfold handleBuyIn
  cases found : ledger.findPosition fill.symbol with
  | none =>
      have move : ledger.moveIn context fill = fill.quantity := by
        unfold moveIn
        rw [found]
        exact signed
      simp only [Position.fromFillIn, buy, ne_eq, not_true_eq_false, if_false, costPerUnit]
      rw [move]
      exact ⟨_, rfl, books_of_append ⟨fill.symbol, fill.quantity, _⟩ sound found rfl positive⟩
  | some existing =>
      obtain ⟨member, symbol⟩ := findPosition_mem found
      have held := sound.positive existing member
      have total := moveIn_of_found context found
      rw [signed] at total
      have remains : 0 < context.add existing.quantity fill.quantity :=
        context.round_pos (by linarith)
      unfold DecimalContext.divide
      simp only [costPerUnit, divide_of_ne_zero remains.ne', Except.map]
      refine ⟨_, rfl, ?_⟩
      obtain ⟨rest, before, after⟩ := updatePosition_perm found fun position =>
        { position with
          burdenedCostBasis := context.round
            (context.add (context.mul existing.burdenedCostBasis existing.quantity)
              (context.mul (context.round (fill.burdenedTotalIn context / fill.quantity))
                fill.quantity) /
              context.add existing.quantity fill.quantity)
          quantity := context.add existing.quantity fill.quantity }
      exact books_of_replace sound before after rfl symbol remains total.symm

private theorem handleSellIn_books (sound : ledger.Sound) (sell : fill.side = .sell)
    (positive : 0 < fill.quantity) (covered : ledger.Covers fill) :
    ∃ pnl positions, ledger.handleSellIn context fill =
        .ok { ledger with realizedPnl := pnl, openPositions := positions } ∧
      Books ledger (fill.symbol, ledger.moveIn context fill)
        { ledger with realizedPnl := pnl, openPositions := positions } := by
  have enough := covered sell
  have signed : fill.signedQuantity = -fill.quantity := by
    simp [Fill.signedQuantity, sell]
  unfold heldQuantity at enough
  unfold handleSellIn
  cases found : ledger.findPosition fill.symbol with
  | none =>
      rw [found] at enough
      exact absurd enough (not_le.mpr positive)
  | some existing =>
      rw [found] at enough
      obtain ⟨member, symbol⟩ := findPosition_mem found
      have total := moveIn_of_found context found
      rw [signed, ← sub_eq_add_neg] at total
      have nonneg : 0 ≤ existing.quantity - fill.quantity := sub_nonneg.mpr enough
      simp only [if_neg (not_lt.mpr enough)]
      refine ⟨_, _, rfl, ?_⟩
      by_cases closes : context.sub existing.quantity fill.quantity = 0
      · simp only [if_pos closes]
        exact books_of_remove sound (List.perm_cons_erase member) symbol (total.trans closes)
      · simp only [if_neg closes]
        obtain ⟨rest, before, after⟩ := updatePosition_perm found fun position =>
          { position with quantity := context.sub existing.quantity fill.quantity }
        have remains : 0 < context.sub existing.quantity fill.quantity := by
          refine context.round_pos (lt_of_le_of_ne nonneg fun zero => closes ?_)
          exact (DecimalContext.round_eq_zero_iff nonneg).mpr zero.symm
        exact books_of_replace sound before after rfl symbol remains total.symm

end Booking

@[simp] theorem openPositions_updateHighWaterMark (ledger : Ledger) :
    ledger.updateHighWaterMark.openPositions = ledger.openPositions := by
  unfold updateHighWaterMark
  split <;> rfl

@[simp] theorem orderHistory_updateHighWaterMark (ledger : Ledger) :
    ledger.updateHighWaterMark.orderHistory = ledger.orderHistory := by
  unfold updateHighWaterMark
  split <;> rfl

@[simp] theorem startingCapital_updateHighWaterMark (ledger : Ledger) :
    ledger.updateHighWaterMark.startingCapital = ledger.startingCapital := by
  unfold updateHighWaterMark
  split <;> rfl

@[simp] theorem realizedPnl_updateHighWaterMark (ledger : Ledger) :
    ledger.updateHighWaterMark.realizedPnl = ledger.realizedPnl := by
  unfold updateHighWaterMark
  split <;> rfl

theorem highWaterMark_updateHighWaterMark (ledger : Ledger) :
    ledger.updateHighWaterMark.highWaterMark = max ledger.highWaterMark ledger.equity := by
  unfold updateHighWaterMark
  split
  next above => exact (max_eq_right above.le).symm
  next below => exact (max_eq_left (not_lt.mp below)).symm

@[simp] theorem heldQuantity_appendHistory (ledger : Ledger) (fill : Fill) (symbol : Symbol) :
    (ledger.appendHistory fill).heldQuantity symbol = ledger.heldQuantity symbol := rfl

@[simp] theorem netQuantity_appendHistory (ledger : Ledger) (fill : Fill) (symbol : Symbol) :
    (ledger.appendHistory fill).netQuantity symbol = ledger.netQuantity symbol := rfl

theorem Sound.appendHistory {ledger : Ledger} (sound : ledger.Sound) (fill : Fill) :
    (ledger.appendHistory fill).Sound :=
  ⟨sound.nodup, sound.positive⟩

@[simp] theorem openPositions_updateHighWaterMarkIn (context : DecimalContext) (ledger : Ledger) :
    (ledger.updateHighWaterMarkIn context).openPositions = ledger.openPositions := by
  unfold updateHighWaterMarkIn
  split <;> rfl

/-- In any context a positive fill that the book covers is booked. -/
theorem recordFillIn_books {context : DecimalContext} {ledger : Ledger} {fill : Fill}
    (sound : ledger.Sound) (positive : 0 < fill.quantity) (covered : ledger.Covers fill) :
    (ledger.recordFillIn context fill).2 = .ok () ∧
      Books ledger (fill.symbol, ledger.moveIn context fill) (ledger.recordFillIn context fill).1 := by
  have appended := sound.appendHistory fill
  unfold recordFillIn handleFillIn
  cases side : fill.side with
  | buy =>
      obtain ⟨positions, handled, books⟩ :=
        @handleBuyIn_books context _ _ appended side positive
      simp only [handled, true_and]
      exact books.of_sameBook rfl (openPositions_updateHighWaterMarkIn _ _)
  | sell =>
      have coveredAfter : (ledger.appendHistory fill).Covers fill := covered
      obtain ⟨pnl, positions, handled, books⟩ :=
        @handleSellIn_books context _ _ appended side positive coveredAfter
      simp only [handled, true_and]
      exact books.of_sameBook rfl (openPositions_updateHighWaterMarkIn _ _)

/-- A sell beyond what is held raises after extending the history. -/
theorem recordFillIn_uncovered (context : DecimalContext) {ledger : Ledger} {fill : Fill}
    (uncovered : ¬ ledger.Covers fill) :
    (∃ error, (ledger.recordFillIn context fill).2 = .error error) ∧
      (ledger.recordFillIn context fill).1 = ledger.appendHistory fill := by
  unfold Covers at uncovered
  push Not at uncovered
  obtain ⟨sell, beyond⟩ := uncovered
  rw [← heldQuantity_appendHistory ledger fill] at beyond
  unfold heldQuantity at beyond
  unfold recordFillIn handleFillIn handleSellIn
  simp only [sell]
  cases found : (ledger.appendHistory fill).findPosition fill.symbol with
  | none => exact ⟨⟨_, rfl⟩, rfl⟩
  | some position =>
      rw [found] at beyond
      simp only [if_pos beyond]
      exact ⟨⟨_, rfl⟩, trivial⟩

/-- A positive fill that the book covers is booked. -/
theorem recordFill_books {ledger : Ledger} {fill : Fill} (sound : ledger.Sound)
    (positive : 0 < fill.quantity) (covered : ledger.Covers fill) :
    (ledger.recordFill fill).2 = .ok () ∧
      Books ledger fill.posting (ledger.recordFill fill).1 := by
  have books := @recordFillIn_books .exact ledger fill sound positive covered
  rwa [moveIn_exact, recordFillIn_exact] at books

theorem recordFill_uncovered {ledger : Ledger} {fill : Fill} (uncovered : ¬ ledger.Covers fill) :
    (∃ error, (ledger.recordFill fill).2 = .error error) ∧
      (ledger.recordFill fill).1 = ledger.appendHistory fill := by
  rw [← recordFillIn_exact]
  exact recordFillIn_uncovered .exact uncovered

/-! ### History, capital and high-water mark -/

/-- What booking the fill adds to the realized profit. -/
def gain (ledger : Ledger) (fill : Fill) : Decimal :=
  match fill.side with
  | .buy => 0
  | .sell =>
      match ledger.findPosition fill.symbol with
      | none => 0
      | some position => fill.burdenedTotal - position.burdenedCostBasis * fill.quantity

private theorem handleBuy_eq {ledger booked : Ledger} {fill : Fill}
    (handled : ledger.handleBuy fill = .ok booked) :
    ∃ positions, booked = { ledger with openPositions := positions } := by
  unfold handleBuy at handled
  cases found : ledger.findPosition fill.symbol with
  | none =>
      rw [found] at handled
      cases opened : Position.fromFill fill with
      | error error => simp [opened] at handled
      | ok position =>
          simp only [opened, Except.ok.injEq] at handled
          exact ⟨_, handled.symm⟩
  | some existing =>
      rw [found] at handled
      cases cost : fill.burdenedCostPerUnit with
      | error error => simp [cost] at handled
      | ok costPerUnit =>
          simp only [cost, divide] at handled
          by_cases zero : existing.quantity + fill.quantity = 0
          · simp [zero] at handled
          · simp only [if_neg zero, Except.ok.injEq] at handled
            exact ⟨_, handled.symm⟩

private theorem handleSell_eq {ledger booked : Ledger} {fill : Fill} (sell : fill.side = .sell)
    (handled : ledger.handleSell fill = .ok booked) :
    ∃ positions, booked = { ledger with
      realizedPnl := ledger.realizedPnl + ledger.gain fill, openPositions := positions } := by
  unfold handleSell at handled
  unfold gain
  cases found : ledger.findPosition fill.symbol with
  | none => simp [found] at handled
  | some position =>
      rw [found] at handled
      by_cases beyond : position.quantity < fill.quantity
      · simp [beyond] at handled
      · simp only [if_neg beyond, Except.ok.injEq] at handled
        simp only [sell]
        exact ⟨_, handled.symm⟩

/-- Handling a fill changes the positions and the realized profit only. -/
theorem handleFill_eq {ledger booked : Ledger} {fill : Fill}
    (handled : ledger.handleFill fill = .ok booked) :
    ∃ positions, booked = { ledger with
      realizedPnl := ledger.realizedPnl + ledger.gain fill, openPositions := positions } := by
  unfold handleFill at handled
  cases side : fill.side with
  | buy =>
      obtain ⟨positions, same⟩ := handleBuy_eq (by simpa only [side] using handled)
      have none : ledger.gain fill = 0 := by
        simp only [gain, side]
      refine ⟨positions, ?_⟩
      rw [none, add_zero]
      exact same
  | sell => exact handleSell_eq side (by simpa only [side] using handled)

/-- Booking changes the positions, the realized profit and the mark of a ledger
whose history has the fill. -/
def booked (ledger : Ledger) (fill : Fill) (positions : List Position) : Ledger :=
  { ledger.appendHistory fill with
    realizedPnl := ledger.realizedPnl + ledger.gain fill
    openPositions := positions }.updateHighWaterMark

/-- What recording a fill can do. -/
theorem recordFill_cases (ledger : Ledger) (fill : Fill) :
    (∃ error, ledger.recordFill fill = (ledger.appendHistory fill, .error error)) ∨
      ∃ positions, ledger.recordFill fill = (ledger.booked fill positions, .ok ()) := by
  unfold recordFill
  cases handled : (ledger.appendHistory fill).handleFill fill with
  | error error => exact Or.inl ⟨error, rfl⟩
  | ok after =>
      obtain ⟨positions, rfl⟩ := handleFill_eq handled
      exact Or.inr ⟨positions, rfl⟩

/-- Recording extends the history by the fill, whether or not it raises. -/
theorem orderHistory_recordFill (ledger : Ledger) (fill : Fill) :
    (ledger.recordFill fill).1.orderHistory = ledger.orderHistory ++ [fill] := by
  rcases ledger.recordFill_cases fill with ⟨error, same⟩ | ⟨positions, same⟩
  · rw [same]
    rfl
  · rw [same]
    exact orderHistory_updateHighWaterMark _

theorem startingCapital_recordFill (ledger : Ledger) (fill : Fill) :
    (ledger.recordFill fill).1.startingCapital = ledger.startingCapital := by
  rcases ledger.recordFill_cases fill with ⟨error, same⟩ | ⟨positions, same⟩
  · rw [same]
    rfl
  · rw [same]
    exact startingCapital_updateHighWaterMark _

theorem highWaterMark_booked (ledger : Ledger) (fill : Fill) (positions : List Position) :
    (ledger.booked fill positions).highWaterMark =
      max ledger.highWaterMark (ledger.equity + ledger.gain fill) := by
  unfold booked
  rw [highWaterMark_updateHighWaterMark]
  exact congrArg (max ledger.highWaterMark) (add_assoc _ _ _).symm

/-- A booked fill leaves the capital alone and lifts the mark to the equity. -/
theorem marks_recordFill {ledger : Ledger} {fill : Fill}
    (booked : (ledger.recordFill fill).2 = .ok ()) :
    (ledger.recordFill fill).1.startingCapital = ledger.startingCapital ∧
      (ledger.recordFill fill).1.highWaterMark =
        max ledger.highWaterMark (ledger.equity + ledger.gain fill) := by
  refine ⟨startingCapital_recordFill ledger fill, ?_⟩
  rcases ledger.recordFill_cases fill with ⟨error, same⟩ | ⟨positions, same⟩
  · rw [same] at booked
    cases booked
  · rw [same]
    exact highWaterMark_booked ledger fill positions

/-- A booked fill moves the realized profit by its gain. -/
theorem realizedPnl_recordFill {ledger : Ledger} {fill : Fill}
    (booked : (ledger.recordFill fill).2 = .ok ()) :
    (ledger.recordFill fill).1.realizedPnl = ledger.realizedPnl + ledger.gain fill := by
  rcases ledger.recordFill_cases fill with ⟨error, same⟩ | ⟨positions, same⟩
  · rw [same] at booked
    cases booked
  · rw [same]
    exact realizedPnl_updateHighWaterMark _

/-- A call that raises leaves the ledger with the fill and its fees appended. -/
theorem recordFill_of_raised {ledger : Ledger} {fill : Fill}
    (raised : (ledger.recordFill fill).2 ≠ .ok ()) :
    (ledger.recordFill fill).1 = ledger.appendHistory fill := by
  rcases ledger.recordFill_cases fill with ⟨error, same⟩ | ⟨positions, same⟩
  · rw [same]
  · rw [same] at raised
    exact absurd rfl raised

theorem realizedPnl_of_raised {ledger : Ledger} {fill : Fill}
    (raised : (ledger.recordFill fill).2 ≠ .ok ()) :
    (ledger.recordFill fill).1.realizedPnl = ledger.realizedPnl := by
  rw [recordFill_of_raised raised]
  rfl

/-! ### Soundness -/

/-- Recording a positive fill keeps the book sound, whatever its outcome. -/
theorem Sound.recordFill {ledger : Ledger} {fill : Fill} (sound : ledger.Sound)
    (positive : 0 < fill.quantity) : (ledger.recordFill fill).1.Sound := by
  by_cases covered : ledger.Covers fill
  · exact (recordFill_books sound positive covered).2.sound
  · rw [(recordFill_uncovered covered).2]
    exact sound.appendHistory fill

end Ledger

end TradingStrands
