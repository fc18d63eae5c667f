import TradingStrands.Coordinator.Calls

/-!
Owns how the ledger of a strategy enters and leaves a process: registration
restores it from its stored snapshot, or opens a fresh one where there is none,
and unloading takes it out of the coordinator.

Does not own: the rest of a registration (memory, tools, the bot object), which
touches no ledger. It can raise, and then the ledger is already in place.
-/

namespace TradingStrands

open TradingStrands.Foundation LedgerStore

variable {β : Type}

/-- The ledger a strategy is registered with when the process starts. -/
def registerStrategy (table : Table) (botId : BotId) (capital : Decimal) : Except PyError Ledger :=
  match loadSnapshot table botId with
  | .error error => .error error
  | .ok (some ledger) => .ok ledger
  | .ok none => .ok (Ledger.ofCapital capital)

namespace System

/-- The ledger a registration puts in place; without a ledger store it is fresh. -/
def restoredLedger (system : System β) (botId : BotId) (capital : Decimal) :
    Except PyError Ledger :=
  match system.coordinator.ledgerStore with
  | none => .ok (Ledger.ofCapital capital)
  | some _ => registerStrategy system.table botId capital

/-- Drop the ledger of a strategy that is no longer active. -/
def unload (system : System β) (botId : BotId) : System β :=
  { system with
    coordinator :=
      { system.coordinator with ledgers := system.coordinator.ledgers.erase botId } }

theorem ledger?_unload (system : System β) (botId other : BotId) :
    (system.unload botId).ledger? other =
      if other = botId then none else system.ledger? other := by
  unfold unload ledger?
  by_cases same : other = botId
  · rw [if_pos same, same]
    exact Dict.get?_erase_self _ _
  · rw [if_neg same]
    exact Dict.get?_erase_of_ne _ same

end System

end TradingStrands
