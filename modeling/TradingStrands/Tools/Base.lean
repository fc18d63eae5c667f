import TradingStrands.Ddb.Table

/-!
Owns the configuration of a strategy's tools. How a value is read as a boolean
or an integer is the parsing library's; it is a parameter, over whatever values
the configuration arrives in.
-/

namespace TradingStrands

open TradingStrands.Foundation

/-- How the parsing library reads the two scalar types. -/
structure Scalars (ν : Type) where
  bool? : ν → Option Bool
  int? : ν → Option Int

/-- The configuration of one tool for one strategy. The defaults are off. -/
structure StrategyToolConfig where
  enabled : Bool := false
  dailyQuota : Int := 0
deriving DecidableEq, Repr

namespace StrategyToolConfig

variable {ν : Type}

/-- A field that is absent has its default; one that is there has to be read. -/
def field {α : Type} (read : ν → Option α) (default_ : α) (fields : List (String × ν))
    (name : String) : Option α :=
  match fields.find? fun entry => entry.1 = name with
  | none => some default_
  | some entry => read entry.2

/-- `StrategyToolConfig(**fields)`; other fields are ignored. -/
def ofFields (scalars : Scalars ν) (fields : List (String × ν)) : Option StrategyToolConfig :=
  (field scalars.bool? false fields "enabled").bind fun enabled =>
    (field scalars.int? 0 fields "daily_quota").map fun dailyQuota => { enabled, dailyQuota }

end StrategyToolConfig

end TradingStrands
