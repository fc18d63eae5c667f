import Mathlib.Data.List.Forall2
import TradingStrands.Foundation.Programs

/-!
Owns programs that follow a protocol: a program is at a stage, each of its
operations is legal there and moves it on. What is legal may be judged on the
states that satisfy an invariant, so a program may rely on it between any two of
its operations. Interleaved programs each keep to their own stages.

Does not own: what the stages of all programs together say about the state.
-/

namespace TradingStrands.Foundation

namespace Program

variable {Op : Type} {Answer : Op → Type} {ε α β σ S : Type}
  (apply : (op : Op) → σ → Answer op × σ) (Inv : σ → Prop) (Legal : S → Op → σ → Prop)
  (move : S → Op → σ → S)

/-- From the stage on, the program issues legal operations only, and where it
ends `Ends` holds of the stage it has reached. -/
def Follows (Ends : Except ε α → S → Prop) : Program Op Answer ε α → S → Prop
  | .done outcome, stage => Ends outcome stage
  | .call op next, stage => ∀ state, Inv state →
      Legal stage op state ∧
        (next (.ok (apply op state).1)).Follows Ends (move stage op state)

variable {apply Inv Legal move} {program : Program Op Answer ε α} {stage : S}
  {Ends : Except ε α → S → Prop}

theorem Follows.bind {rest : α → Program Op Answer ε β} {Last : Except ε β → S → Prop}
    (first : program.Follows apply Inv Legal move Ends stage)
    (later : ∀ value stage, Ends (.ok value) stage →
      (rest value).Follows apply Inv Legal move Last stage)
    (raised : ∀ error stage, Ends (.error error) stage → Last (.error error) stage) :
    (program >>= rest).Follows apply Inv Legal move Last stage := by
  induction program generalizing stage with
  | done outcome =>
      cases outcome with
      | ok value => exact later value stage first
      | error error => exact raised error stage first
  | call op next inductionHypothesis =>
      intro state invariant
      obtain ⟨legal, follows⟩ := first state invariant
      exact ⟨legal, inductionHypothesis _ follows⟩

theorem Follows.tryCatch {handler : ε → Program Op Answer ε α} {Last : Except ε α → S → Prop}
    (first : program.Follows apply Inv Legal move Ends stage)
    (returned : ∀ value stage, Ends (.ok value) stage → Last (.ok value) stage)
    (later : ∀ error stage, Ends (.error error) stage →
      (handler error).Follows apply Inv Legal move Last stage) :
    (MonadExcept.tryCatch program handler).Follows apply Inv Legal move Last stage := by
  induction program generalizing stage with
  | done outcome =>
      cases outcome with
      | ok value => exact returned value stage first
      | error error => exact later error stage first
  | call op next inductionHypothesis =>
      intro state invariant
      obtain ⟨legal, follows⟩ := first state invariant
      exact ⟨legal, inductionHypothesis _ follows⟩

/-- What follows an operation goes on at the stage the operation moves to. -/
theorem Follows.perform_bind {op : Op} {rest : Answer op → Program Op Answer ε β}
    {Last : Except ε β → S → Prop}
    (steps : ∀ state, Inv state → Legal stage op state ∧
      (rest (apply op state).1).Follows apply Inv Legal move Last (move stage op state)) :
    ((Program.perform op : Program Op Answer ε (Answer op)) >>= rest).Follows apply Inv Legal
      move Last stage :=
  steps

/-- A program whose operations are all legal at a stage and do not leave it. -/
theorem All.follows {P : Op → Prop} (all : program.All apply P)
    (legal : ∀ op state, P op → Inv state → Legal stage op state)
    (stays : ∀ op state, P op → Inv state → move stage op state = stage)
    (ends : ∀ outcome, Ends outcome stage) :
    program.Follows apply Inv Legal move Ends stage := by
  induction program with
  | done outcome => exact ends outcome
  | call op next inductionHypothesis =>
      intro state invariant
      rw [stays op state all.1 invariant]
      exact ⟨legal op state all.1 invariant, inductionHypothesis _ (all.2.2 state)⟩

end Program

/-! ### Interleaving -/

namespace Pool

variable {Op : Type} {Answer : Op → Type} {ε α σ ι S : Type}
  (apply : (op : Op) → σ → Answer op × σ) (Inv : σ → Prop) (Legal : ι → S → Op → σ → Prop)
  (move : ι → S → Op → σ → S) (Ends : S → Prop)

/-- Every thread follows the protocol of its request from its stage on. -/
def Staged (pool : Pool Op Answer ε α σ ι) (stages : List S) : Prop :=
  List.Forall₂ (fun thread stage => thread.program.Follows apply Inv (Legal thread.request)
    (move thread.request) (fun _ => Ends) stage) pool.threads stages

variable {apply Inv Legal move Ends} {pool : Pool Op Answer ε α σ ι} {stages : List S}
  {programOf : ι → Program Op Answer ε α}

theorem Staged.start (staged : pool.Staged apply Inv Legal move Ends stages) {request : ι}
    {first : S} (follows : (programOf request).Follows apply Inv (Legal request) (move request)
      (fun _ => Ends) first) :
    (pool.step apply programOf (.start request)).Staged apply Inv Legal move Ends
      (stages ++ [first]) := by
  unfold Staged
  exact List.rel_append staged (List.Forall₂.cons follows List.Forall₂.nil)

/-- The next operation of a thread is legal at its stage and moves it on. -/
theorem Staged.advance (staged : pool.Staged apply Inv Legal move Ends stages)
    (invariant : Inv pool.state) {index : Nat} {request : ι} {op : Op}
    (performs : pool.next? (.advance index none) = some (request, op, none)) :
    ∃ stage, stages[index]? = some stage ∧ Legal request stage op pool.state ∧
      (pool.step apply programOf (.advance index none)).Staged apply Inv Legal move Ends
        (stages.set index (move request stage op pool.state)) := by
  unfold next? at performs
  unfold Pool.step
  dsimp only at performs ⊢
  split at performs
  next owner performed next found =>
    cases performs
    obtain ⟨inThreads, here⟩ := List.getElem?_eq_some_iff.mp found
    have inStages : index < stages.length := staged.length_eq ▸ inThreads
    have follows := List.Forall₂.get staged inThreads inStages
    rw [List.get_eq_getElem, here] at follows
    obtain ⟨legal, goesOn⟩ := follows pool.state invariant
    refine ⟨stages[index], List.getElem?_eq_getElem inStages, legal, ?_⟩
    unfold Staged
    rw [List.forall₂_iff_get]
    refine ⟨by simpa using staged.length_eq, fun position left right => ?_⟩
    rw [List.get_eq_getElem, List.get_eq_getElem, List.getElem_set, List.getElem_set]
    by_cases same : index = position
    · rw [if_pos same, if_pos same]
      exact goesOn
    · rw [if_neg same, if_neg same]
      have old := List.Forall₂.get staged (by simpa using left) (by simpa using right)
      exact old
  next => cases performs

theorem raised_of_next? {index : Nat} {raised shown : Option ε} {request : ι} {op : Op}
    (performs : pool.next? (.advance index raised) = some (request, op, shown)) :
    shown = raised := by
  unfold next? at performs
  dsimp only at performs
  split at performs
  · cases performs
    rfl
  · cases performs

/-- A thread that is not there, or has ended, does not go on. -/
theorem step_of_next?_none {index : Nat} {raised : Option ε}
    (idle : pool.next? (.advance index raised) = none) :
    pool.step apply programOf (.advance index raised) = pool := by
  unfold next? at idle
  unfold Pool.step
  dsimp only at idle ⊢
  split at idle
  · cases idle
  · rfl

/-- Where a thread has ended, so has its stage. -/
theorem Staged.ended (staged : pool.Staged apply Inv Legal move Ends stages)
    (finished : ∀ thread ∈ pool.threads, thread.program.ended = true) :
    ∀ stage ∈ stages, Ends stage := by
  intro stage member
  obtain ⟨index, inStages, rfl⟩ := List.getElem_of_mem member
  have inThreads : index < pool.threads.length := staged.length_eq.symm ▸ inStages
  have follows := List.Forall₂.get staged inThreads inStages
  have done := finished _ (List.getElem_mem inThreads)
  rw [List.get_eq_getElem] at follows
  generalize pool.threads[index].program = program at follows done
  cases program with
  | done outcome => exact follows
  | call op next => cases done

end Pool

end TradingStrands.Foundation
