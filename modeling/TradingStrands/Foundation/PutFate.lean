import TradingStrands.Foundation.Decimal

/-!
Owns writes that can fail. A write that raises may have been kept all the same:
the answer is lost, not the write.
-/

namespace TradingStrands.Foundation

/-- What becomes of a write. -/
inductive PutFate
  | stored
  | raises (error : PyError) (kept : Bool)
deriving DecidableEq, Repr

namespace PutFate

/-- Whether the write is kept. -/
def keeps : PutFate → Bool
  | .stored => true
  | .raises _ kept => kept

/-- What the write raises, if it does. -/
def error? : PutFate → Option PyError
  | .stored => none
  | .raises error _ => some error

variable {σ : Type} (fate : PutFate) (write : σ → σ) (state : σ)

def put : Except PyError Unit × σ :=
  match fate with
  | .stored => (.ok (), write state)
  | .raises error kept => (.error error, if kept = true then write state else state)

theorem snd_put : (fate.put write state).2 = if fate.keeps = true then write state else state := by
  cases fate with
  | stored => rfl
  | raises error kept => rfl

/-- A write that is answered is kept. -/
theorem keeps_of_ok {fate : PutFate} {write : σ → σ} {state : σ}
    (answered : (fate.put write state).1 = .ok ()) : fate.keeps = true := by
  cases fate with
  | stored => rfl
  | raises error kept => exact absurd answered nofun

end PutFate

end TradingStrands.Foundation
