import TradingStrands.Foundation.DelimitedKey
import TradingStrands.Ir.Condition
import TradingStrands.Ledger.Models

/-!
Owns the contexts that predicates are evaluated in: one field for every price
and, when a ledger is given, five fields of that ledger. The price fields of a
context depend on the prices alone, and a context built without a ledger has no
other fields.
-/

namespace TradingStrands

open TradingStrands.Foundation

/-- `price.<symbol>` -/
def priceField (symbol : Symbol) : String := "price." ++ symbol

/-- The fields of a ledger, with their values. -/
def ledgerFields (ledger : Ledger) : List (String × Decimal) :=
  [("ledger.equity", ledger.equity), ("ledger.realized_pnl", ledger.realizedPnl),
    ("ledger.drawdown_pct", ledger.drawdownPct), ("ledger.high_water_mark", ledger.highWaterMark),
    ("ledger.position_count", ledger.openPositions.length)]

/-- The price fields of a context. -/
def priceContext (prices : Dict Symbol Decimal) : Context :=
  Dict.empty.setAll (prices.entries.map fun entry => (priceField entry.1, entry.2))

/-- Build a flat context for the evaluation of predicates. The lemmas below say
all that the proofs use of it, so it is not unfolded elsewhere. -/
@[irreducible] def buildContext (prices : Dict Symbol Decimal) (ledger : Option Ledger) : Context :=
  match ledger with
  | none => priceContext prices
  | some ledger => (priceContext prices).setAll (ledgerFields ledger)

theorem buildContext_none (prices : Dict Symbol Decimal) :
    buildContext prices none = priceContext prices := by
  unfold buildContext
  rfl

theorem buildContext_some (prices : Dict Symbol Decimal) (ledger : Ledger) :
    buildContext prices (some ledger) = (priceContext prices).setAll (ledgerFields ledger) := by
  unfold buildContext
  rfl

def ledgerFieldNames : List String :=
  ["ledger.equity", "ledger.realized_pnl", "ledger.drawdown_pct", "ledger.high_water_mark",
    "ledger.position_count"]

/-- A field of a ledger. -/
def IsLedgerField (field : String) : Prop := field ∈ ledgerFieldNames

instance (field : String) : Decidable (IsLedgerField field) :=
  inferInstanceAs (Decidable (field ∈ ledgerFieldNames))

theorem priceField_inj {left right : Symbol} :
    priceField left = priceField right ↔ left = right := by
  unfold priceField
  rw [← String.toList_inj, String.toList_append, String.toList_append, List.append_cancel_left_eq,
    String.toList_inj]

theorem not_isLedgerField_priceField (symbol : Symbol) : ¬ IsLedgerField (priceField symbol) := by
  intro ledgerField
  have lead : (priceField symbol).toList[0]? = some 'p' := by
    unfold priceField
    rw [String.toList_append]
    rfl
  have leads : ∀ name ∈ ledgerFieldNames, name.toList[0]? = some 'l' := by decide +kernel
  exact absurd (lead.symm.trans (leads _ ledgerField)) (by decide)

/-! ### What a context holds -/

private theorem get?_priceContext (prices : Dict Symbol Decimal) (symbol : Symbol) :
    (priceContext prices).get? (priceField symbol) = prices.get? symbol := by
  unfold priceContext
  cases found : prices.get? symbol with
  | none =>
      rw [Dict.get?_eq_none_iff] at found
      rw [Dict.get?_setAll_of_notMem, Dict.get?_empty]
      rw [List.map_map, List.mem_map]
      rintro ⟨entry, member, same⟩
      exact found (List.mem_map.mpr ⟨entry, member, priceField_inj.mp same⟩)
  | some price =>
      have member := Dict.mem_entries_of_get? found
      refine Dict.get?_setAll_of_mem (List.mem_map.mpr ⟨_, member, rfl⟩) ?_
      intro entry inEntries same
      obtain ⟨stored, storedMember, rfl⟩ := List.mem_map.mp inEntries
      have storedAt := Dict.get?_of_mem_entries storedMember
      rw [priceField_inj.mp same, found, Option.some.injEq] at storedAt
      exact storedAt.symm

private theorem exists_of_get?_priceContext {prices : Dict Symbol Decimal} {field : String}
    {value : Decimal} (found : (priceContext prices).get? field = some value) :
    ∃ symbol, field = priceField symbol := by
  by_contra noPrice
  unfold priceContext at found
  rw [Dict.get?_setAll_of_notMem] at found
  · simp at found
  · rw [List.map_map, List.mem_map]
    rintro ⟨entry, member, rfl⟩
    exact noPrice ⟨entry.1, rfl⟩

/-- Fields that are no ledger fields do not depend on the ledger. -/
private theorem get?_buildContext_of_not {field : String} (prices : Dict Symbol Decimal)
    (ledger : Option Ledger) (other : ¬ IsLedgerField field) :
    (buildContext prices ledger).get? field = (priceContext prices).get? field := by
  cases ledger with
  | none => rw [buildContext_none]
  | some ledger =>
      rw [buildContext_some]
      exact Dict.get?_setAll_of_notMem other

/-- A price field holds the price of its symbol, whatever the ledger. -/
@[simp] theorem get?_buildContext_price (prices : Dict Symbol Decimal) (ledger : Option Ledger)
    (symbol : Symbol) :
    (buildContext prices ledger).get? (priceField symbol) = prices.get? symbol := by
  rw [get?_buildContext_of_not prices ledger (not_isLedgerField_priceField symbol),
    get?_priceContext]

/-- A context built without a ledger has no ledger fields. -/
theorem get?_buildContext_none {prices : Dict Symbol Decimal} {field : String}
    (ledgerField : IsLedgerField field) : (buildContext prices none).get? field = none := by
  rw [buildContext_none, Option.eq_none_iff_forall_not_mem]
  intro value found
  obtain ⟨symbol, rfl⟩ := exists_of_get?_priceContext found
  exact not_isLedgerField_priceField symbol ledgerField

/-- A field of a context is a price field or a ledger field. -/
theorem isLedgerField_or_price {prices : Dict Symbol Decimal} {ledger : Option Ledger}
    {field : String} {value : Decimal}
    (found : (buildContext prices ledger).get? field = some value) :
    IsLedgerField field ∨ ∃ symbol, field = priceField symbol := by
  by_cases ledgerField : IsLedgerField field
  · exact Or.inl ledgerField
  · rw [get?_buildContext_of_not prices ledger ledgerField] at found
    exact Or.inr (exists_of_get?_priceContext found)

end TradingStrands
