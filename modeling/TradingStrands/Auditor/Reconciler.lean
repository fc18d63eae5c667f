import TradingStrands.Coordinator.Types
import TradingStrands.Foundation.Balance
import TradingStrands.Foundation.Dict
import TradingStrands.Ledger.Book
import Mathlib.Data.List.Dedup
import Mathlib.Data.List.Sort
import Mathlib.Data.String.Basic

/-!
Owns the auditor's deterministic checks that the tick loop uses: the comparison
of ledger and broker positions, and the decision to pull the kill switch.

Does not own: the fee check, which nothing in the tick loop calls.
-/

namespace TradingStrands

open TradingStrands.Foundation

inductive CheckStatus
  | pass
  | fail
deriving DecidableEq, Repr

/-- Drift thresholds of the auditor that the tick loop reads. -/
structure AuditConfig where
  feeDriftThresholdAbs : Decimal := 10
  positionMismatchCycles : Int := 3
deriving DecidableEq, Repr

structure Check where
  status : CheckStatus
  details : List MessagePart := []
deriving DecidableEq, Repr

structure Reconciler where
  config : AuditConfig := {}
deriving DecidableEq, Repr

def BrokerPosition.posting (position : BrokerPosition) : Symbol × Decimal :=
  (position.symbol, position.quantity)

/-- The positions of all ledgers. -/
def ledgerPostings (ledgers : Dict BotId Ledger) : List (Symbol × Decimal) :=
  ledgers.values.flatMap fun ledger => ledger.openPositions.map Position.posting

/-- One entry of the details of a failed check. -/
def mismatch (symbol : Symbol) (ledgerQty brokerQty : Decimal) : List MessagePart :=
  [.text (symbol ++ ": ledger="), .number ledgerQty, .text ", broker=", .number brokerQty]

namespace Reconciler

/-- Compare aggregate ledger positions against broker positions. -/
def reconcilePositions (_reconciler : Reconciler) (ledgers : Dict BotId Ledger)
    (brokerPositions : List BrokerPosition) : Check :=
  let ledgerSide := ledgerPostings ledgers
  let brokerSide := brokerPositions.map BrokerPosition.posting
  let allSymbols := ((ledgerSide ++ brokerSide).map Prod.fst).dedup.insertionSort (· ≤ ·)
  let mismatches := allSymbols.filter fun symbol =>
    balance ledgerSide symbol ≠ balance brokerSide symbol
  if mismatches = [] then { status := .pass }
  else
    { status := .fail
      details := List.flatten ((mismatches.map fun symbol =>
        mismatch symbol (balance ledgerSide symbol) (balance brokerSide symbol)).intersperse
          [.text "; "]) }

/-- Determine if drift thresholds warrant a kill switch. -/
def shouldKillSwitch (reconciler : Reconciler) (feeDrift : Decimal) (mismatchCycles : Int) : Bool :=
  if reconciler.config.feeDriftThresholdAbs < feeDrift then true
  else reconciler.config.positionMismatchCycles ≤ mismatchCycles

/-- The check passes exactly when ledgers and broker hold the same of every
symbol. -/
theorem reconcilePositions_pass_iff (reconciler : Reconciler) (ledgers : Dict BotId Ledger)
    (brokerPositions : List BrokerPosition) :
    (reconciler.reconcilePositions ledgers brokerPositions).status = .pass ↔
      ∀ symbol, balance (ledgerPostings ledgers) symbol =
        balance (brokerPositions.map BrokerPosition.posting) symbol := by
  unfold reconcilePositions
  dsimp only
  have empty : ∀ (postings : List (Symbol × Decimal)) symbol, symbol ∉ postings.map Prod.fst →
      balance postings symbol = 0 := by
    intro postings symbol absent
    refine balance_eq_zero fun posting member same => absent ?_
    exact List.mem_map.mpr ⟨posting, member, same⟩
  constructor
  · intro passes symbol
    by_contra different
    rw [if_neg] at passes
    · exact absurd passes (by simp)
    · refine List.ne_nil_of_mem (a := symbol) (List.mem_filter.mpr ⟨?_, by simpa using different⟩)
      rw [(List.perm_insertionSort _ _).mem_iff, List.mem_dedup, List.map_append, List.mem_append]
      by_contra nowhere
      push Not at nowhere
      exact different ((empty _ _ nowhere.1).trans (empty _ _ nowhere.2).symm)
  · intro same
    rw [if_pos]
    rw [List.filter_eq_nil_iff]
    intro symbol _
    simpa using same symbol

end Reconciler

end TradingStrands
