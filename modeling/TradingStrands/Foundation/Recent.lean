import TradingStrands.Foundation.Runs
import Mathlib.Data.List.DropRight

/-!
Owns what is remembered of a growing log: its last entries, if the memory is cut to
a bound after every addition, and its late entries, if those up to a cutoff are
dropped now and then. Forgetting early loses nothing that a later look would show.
-/

namespace TradingStrands.Foundation

/-! ### The last entries -/

section Last

variable {α : Type} (bound : Nat)

/-- Add an entry, and keep the last ones if there are too many. -/
def remember (recent : List α) (entry : α) : List α :=
  if bound < (recent ++ [entry]).length then (recent ++ [entry]).rtake bound
  else recent ++ [entry]

theorem rtake_of_length_le {log : List α} (short : log.length ≤ bound) : log.rtake bound = log := by
  rw [List.rtake, Nat.sub_eq_zero_of_le short, List.drop_zero]

theorem remember_eq (recent : List α) (entry : α) :
    remember bound recent entry = (recent ++ [entry]).rtake bound := by
  unfold remember
  split
  next => rfl
  next short => exact (rtake_of_length_le bound (not_lt.mp short)).symm

/-- What was dropped from the front is not among the last entries later. -/
theorem rtake_rtake_append (log later : List α) :
    (log.rtake bound ++ later).rtake bound = (log ++ later).rtake bound := by
  by_cases short : log.length ≤ bound
  · rw [rtake_of_length_le bound short]
  · have kept : (log.rtake bound ++ later).length - bound = later.length := by
      rw [List.length_append, List.rtake, List.length_drop]
      omega
    have cut : (log ++ later).length - bound = log.length - bound + later.length := by
      rw [List.length_append]
      omega
    have front : (log ++ later).drop (log.length - bound) = log.rtake bound ++ later :=
      List.drop_append_of_le_length (Nat.sub_le _ _)
    calc (log.rtake bound ++ later).rtake bound
        = (log.rtake bound ++ later).drop later.length := by rw [List.rtake, kept]
      _ = ((log ++ later).drop (log.length - bound)).drop later.length := by rw [front]
      _ = (log ++ later).rtake bound := by rw [List.drop_drop, List.rtake, cut]

end Last

/-! ### The late entries -/

/-- The times after a cutoff. -/
def since (cutoff : Int) (times : List Int) : List Int := times.filter fun time => cutoff < time

/-- A time is added, or those up to a cutoff are dropped. -/
inductive WindowEvent
  | add (time : Int)
  | prune (cutoff : Int)

namespace WindowEvent

def step (times : List Int) : WindowEvent → List Int
  | .add time => times ++ [time]
  | .prune cutoff => since cutoff times

def added? : WindowEvent → Option Int
  | .add time => some time
  | .prune _ => none

/-- No cutoff is later than the given one. -/
def CutsBy (cutoff : Int) : WindowEvent → Prop
  | .add _ => True
  | .prune earlier => earlier ≤ cutoff

end WindowEvent

theorem since_append (cutoff : Int) (left right : List Int) :
    since cutoff (left ++ right) = since cutoff left ++ since cutoff right :=
  List.filter_append ..

theorem since_since {earlier cutoff : Int} (ordered : earlier ≤ cutoff) (times : List Int) :
    since cutoff (since earlier times) = since cutoff times := by
  unfold since
  rw [List.filter_filter]
  refine List.filter_congr fun time _ => ?_
  rw [Bool.eq_iff_iff, Bool.and_eq_true, decide_eq_true_eq, decide_eq_true_eq]
  omega

/-- Pruning at cutoffs that are not later loses nothing after the last cutoff. -/
theorem since_run {cutoff : Int} {events : List WindowEvent}
    (growing : ∀ event ∈ events, event.CutsBy cutoff) (times : List Int) :
    since cutoff (run WindowEvent.step times events) =
      since cutoff (times ++ events.filterMap WindowEvent.added?) := by
  induction events generalizing times with
  | nil => rw [run_nil, List.filterMap_nil, List.append_nil]
  | cons event rest inductionHypothesis =>
      have here := growing event List.mem_cons_self
      rw [run_cons, inductionHypothesis fun later member =>
        growing later (List.mem_cons_of_mem event member), since_append]
      cases event with
      | add time =>
          have adds : (WindowEvent.add time).added? = some time := rfl
          rw [WindowEvent.step, List.filterMap_cons_some adds, ← since_append, List.append_assoc,
            List.singleton_append]
      | prune earlier =>
          have adds : (WindowEvent.prune earlier).added? = none := rfl
          rw [WindowEvent.step, List.filterMap_cons_none adds, since_since here, since_append]

end TradingStrands.Foundation
