import TradingStrands.Foundation.Programs
import Mathlib.Logic.Relation

/-!
Owns programs over a shared state of which each keeps to its own guarantee. A program
withstands the others if, whatever those apart from it have done as they may, each of
its operations keeps the invariant and its guarantee, whether operations complete or
raise; what it has ensured at its end then holds in a pool of such programs, in every
order of their operations.

Differs from a rely that all programs share: what one of them may rely on is what the
others guarantee, so a program can own a part of the state.
-/

namespace TradingStrands.Foundation

namespace Program

variable {Op : Type} {Answer : Op → Type} {ε α β σ ι : Type}
  (apply : (op : Op) → σ → Answer op × σ) (Inv : σ → Prop) (Apart : ι → ι → Prop)
  (Guarantee : ι → σ → σ → Prop)

/-- What requests apart from one's own can have done. -/
def Others (mine : ι) : σ → σ → Prop :=
  Relation.ReflTransGen fun first second =>
    Inv first ∧ Inv second ∧ ∃ other, Apart mine other ∧ Guarantee other first second

def Withstands (mine : ι) (Ends : Except ε α → σ → Prop) : Program Op Answer ε α → σ → Prop
  | .done outcome, state => Ends outcome state
  | .call op next, state =>
      ∀ later, Others Inv Apart Guarantee mine state later → Inv later →
        (Inv (apply op later).2 ∧ Guarantee mine later (apply op later).2 ∧
          (next (.ok (apply op later).1)).Withstands mine Ends (apply op later).2) ∧
        ∀ error, (next (.error error)).Withstands mine Ends later

variable {apply Inv Apart Guarantee} {mine : ι} {Ends : Except ε α → σ → Prop}
  {program : Program Op Answer ε α} {state : σ}

/-- What a step of any other keeps, the others keep. -/
theorem Others.keeps (Fact : σ → Prop)
    (stable : ∀ first second other, Inv first → Inv second → Apart mine other →
      Guarantee other first second → Fact first → Fact second)
    {later : σ} (others : Others Inv Apart Guarantee mine state later) (fact : Fact state) :
    Fact later := by
  induction others with
  | refl => exact fact
  | tail _ step inductionHypothesis =>
      obtain ⟨before, after, other, apart, guarantee⟩ := step
      exact stable _ _ other before after apart guarantee inductionHypothesis

/-- What a program withstands it still withstands after the others' steps. -/
theorem Withstands.after {later : σ}
    (stable : ∀ outcome second, Others Inv Apart Guarantee mine state second →
      Ends outcome state → Ends outcome second)
    (between : Others Inv Apart Guarantee mine state later)
    (withstands : program.Withstands apply Inv Apart Guarantee mine Ends state) :
    program.Withstands apply Inv Apart Guarantee mine Ends later := by
  cases program with
  | done outcome => exact stable outcome later between withstands
  | call op next => exact fun after more => withstands after (between.trans more)

theorem Withstands.bind {rest : α → Program Op Answer ε β} {Last : Except ε β → σ → Prop}
    (Ends : Except ε α → σ → Prop)
    (first : program.Withstands apply Inv Apart Guarantee mine Ends state)
    (later : ∀ value state, Ends (.ok value) state →
      (rest value).Withstands apply Inv Apart Guarantee mine Last state)
    (raised : ∀ error state, Ends (.error error) state → Last (.error error) state) :
    (program >>= rest).Withstands apply Inv Apart Guarantee mine Last state := by
  induction program generalizing state with
  | done outcome =>
      cases outcome with
      | ok value => exact later value state first
      | error error => exact raised error state first
  | call op next inductionHypothesis =>
      intro after between invariant
      obtain ⟨⟨kept, guarantee, completes⟩, raises⟩ := first after between invariant
      exact ⟨⟨kept, guarantee, inductionHypothesis _ completes⟩,
        fun error => inductionHypothesis _ (raises error)⟩

theorem Withstands.tryCatch {handler : ε → Program Op Answer ε α} {Last : Except ε α → σ → Prop}
    (Ends : Except ε α → σ → Prop)
    (first : program.Withstands apply Inv Apart Guarantee mine Ends state)
    (returned : ∀ value state, Ends (.ok value) state → Last (.ok value) state)
    (later : ∀ error state, Ends (.error error) state →
      (handler error).Withstands apply Inv Apart Guarantee mine Last state) :
    (MonadExcept.tryCatch program handler).Withstands apply Inv Apart Guarantee mine Last state := by
  induction program generalizing state with
  | done outcome =>
      cases outcome with
      | ok value => exact returned value state first
      | error error => exact later error state first
  | call op next inductionHypothesis =>
      intro after between invariant
      obtain ⟨⟨kept, guarantee, completes⟩, raises⟩ := first after between invariant
      exact ⟨⟨kept, guarantee, inductionHypothesis _ completes⟩,
        fun error => inductionHypothesis _ (raises error)⟩

/-- What follows an operation is judged on the state the operation leaves; an error of
the operation ends the program. -/
theorem Withstands.perform_bind {op : Op} {rest : Answer op → Program Op Answer ε β}
    {Last : Except ε β → σ → Prop}
    (steps : ∀ later, Others Inv Apart Guarantee mine state later → Inv later →
      Inv (apply op later).2 ∧ Guarantee mine later (apply op later).2 ∧
        (rest (apply op later).1).Withstands apply Inv Apart Guarantee mine Last (apply op later).2)
    (raised : ∀ error later, Last (.error error) later) :
    ((Program.perform op : Program Op Answer ε (Answer op)) >>= rest).Withstands apply Inv Apart
      Guarantee mine Last state :=
  fun later between invariant => ⟨steps later between invariant, fun error => raised error later⟩

/-- A program whose operations keep a fact, and nothing else is known of. -/
theorem All.withstands {P : Op → Prop} (Fact : σ → Prop) (all : program.All apply P)
    (keeps : ∀ op state, P op → Inv state → Fact state →
      Inv (apply op state).2 ∧ Guarantee mine state (apply op state).2 ∧ Fact (apply op state).2)
    (stable : ∀ first second, Others Inv Apart Guarantee mine first second → Fact first →
      Fact second)
    (ends : ∀ outcome state, Fact state → Ends outcome state) (fact : Fact state) :
    program.Withstands apply Inv Apart Guarantee mine Ends state := by
  induction program generalizing state with
  | done outcome => exact ends outcome state fact
  | call op next inductionHypothesis =>
      intro later between invariant
      have still := stable _ _ between fact
      obtain ⟨kept, guarantee, after⟩ := keeps op later all.1 invariant still
      exact ⟨⟨kept, guarantee, inductionHypothesis _ (all.2.2 later) after⟩,
        fun error => inductionHypothesis _ (all.2.1 error) still⟩

end Program

/-- The request that an event starts. -/
def PoolEvent.started? {ε ι : Type} : PoolEvent ε ι → Option ι
  | .start request => some request
  | .advance _ _ => none

namespace Pool

open Program

variable {Op : Type} {Answer : Op → Type} {ε α σ ι : Type}
  {apply : (op : Op) → σ → Answer op × σ} {programOf : ι → Program Op Answer ε α}
  {Inv : σ → Prop} {Apart : ι → ι → Prop} {Guarantee : ι → σ → σ → Prop}
  {Ends : ι → Except ε α → σ → Prop}

/-- The invariant holds, the requests are apart from each other, and what is left of
each program withstands the others. -/
structure Withstood (apply : (op : Op) → σ → Answer op × σ) (Inv : σ → Prop)
    (Apart : ι → ι → Prop) (Guarantee : ι → σ → σ → Prop) (Ends : ι → Except ε α → σ → Prop)
    (pool : Pool Op Answer ε α σ ι) : Prop where
  invariant : Inv pool.state
  apart : (pool.threads.map Thread.request).Pairwise Apart
  withstand : ∀ (index : Nat) (thread : Thread Op Answer ε α ι), pool.threads[index]? = some thread →
    thread.program.Withstands apply Inv Apart Guarantee thread.request (Ends thread.request)
      pool.state

/-- Two threads of a pool have requests that are apart. -/
theorem Withstood.apart_of_ne (symmetric : ∀ left right, Apart left right → Apart right left)
    {pool : Pool Op Answer ε α σ ι} (withstood : pool.Withstood apply Inv Apart Guarantee Ends)
    {left right : Nat} {leftThread rightThread : Thread Op Answer ε α ι}
    (foundLeft : pool.threads[left]? = some leftThread)
    (foundRight : pool.threads[right]? = some rightThread) (different : left ≠ right) :
    Apart leftThread.request rightThread.request := by
  have ordered : ∀ {first second : Nat} {early late : Thread Op Answer ε α ι}, first < second →
      pool.threads[first]? = some early → pool.threads[second]? = some late →
        Apart early.request late.request := by
    intro first second early late before foundEarly foundLate
    obtain ⟨firstBound, rfl⟩ := List.getElem?_eq_some_iff.mp foundEarly
    obtain ⟨secondBound, rfl⟩ := List.getElem?_eq_some_iff.mp foundLate
    exact List.pairwise_iff_getElem.mp (List.pairwise_map.mp withstood.apart) first second
      firstBound secondBound before
  rcases Nat.lt_or_gt_of_ne different with before | after
  · exact ordered before foundLeft foundRight
  · exact symmetric _ _ (ordered after foundRight foundLeft)

/-- A thread that goes on keeps its place among the requests. -/
theorem map_request_set (threads : List (Thread Op Answer ε α ι)) {index : Nat}
    {thread : Thread Op Answer ε α ι} (found : threads[index]? = some thread)
    (program : Program Op Answer ε α) :
    (threads.set index ⟨thread.request, program⟩).map Thread.request =
      threads.map Thread.request := by
  obtain ⟨bound, rfl⟩ := List.getElem?_eq_some_iff.mp found
  refine List.ext_getElem (by simp) fun at_ inSet inThreads => ?_
  simp only [List.getElem_map, List.getElem_set]
  split
  next same => subst same; rfl
  next => rfl

/-- A step adds the request it starts, if it starts one. -/
theorem requests_step (pool : Pool Op Answer ε α σ ι) (event : PoolEvent ε ι) :
    (pool.step apply programOf event).threads.map Thread.request =
      pool.threads.map Thread.request ++ event.started?.toList := by
  cases event with
  | start request => simp [Pool.step, PoolEvent.started?]
  | advance index raised =>
      unfold Pool.step
      dsimp only
      split
      next request op next found =>
        cases raised with
        | none =>
            rw [map_request_set pool.threads found]
            simp [PoolEvent.started?]
        | some error =>
            rw [map_request_set pool.threads found]
            simp [PoolEvent.started?]
      next => simp [PoolEvent.started?]

/-- A thread goes on, on a state that the others can have made for every thread that is
apart from it. -/
theorem Withstood.set (symmetric : ∀ left right, Apart left right → Apart right left)
    (stable : ∀ request outcome first second, Others Inv Apart Guarantee request first second →
      Ends request outcome first → Ends request outcome second)
    {pool : Pool Op Answer ε α σ ι} (withstood : pool.Withstood apply Inv Apart Guarantee Ends)
    {index : Nat} {request : ι} {program rest : Program Op Answer ε α} {later : σ}
    (found : pool.threads[index]? = some ⟨request, program⟩) (invariant : Inv later)
    (moved : ∀ other, Apart other request → Others Inv Apart Guarantee other pool.state later)
    (withstands : rest.Withstands apply Inv Apart Guarantee request (Ends request) later) :
    Withstood apply Inv Apart Guarantee Ends
      { state := later, threads := pool.threads.set index ⟨request, rest⟩ } := by
  refine ⟨invariant, ?_, fun at_ thread inSet => ?_⟩
  · rw [map_request_set pool.threads found]
    exact withstood.apart
  · rw [List.getElem?_set] at inSet
    split at inSet
    next same =>
      split at inSet
      · obtain rfl := Option.some.inj inSet
        exact withstands
      · cases inSet
    next different =>
      have apart := withstood.apart_of_ne symmetric inSet found (Ne.symm different)
      exact (withstood.withstand at_ thread inSet).after
        (fun outcome second => stable thread.request outcome _ second)
        (moved thread.request apart)

/-- The rule for pools of programs that withstand each other: every step, also one that
raises, keeps them so. -/
theorem Withstood.step (symmetric : ∀ left right, Apart left right → Apart right left)
    (stable : ∀ request outcome first second, Others Inv Apart Guarantee request first second →
      Ends request outcome first → Ends request outcome second)
    {pool : Pool Op Answer ε α σ ι} (withstood : pool.Withstood apply Inv Apart Guarantee Ends)
    {event : PoolEvent ε ι}
    (starts : ∀ request, event = .start request →
      (∀ other ∈ pool.threads.map Thread.request, Apart other request) ∧
        (programOf request).Withstands apply Inv Apart Guarantee request (Ends request) pool.state) :
    (pool.step apply programOf event).Withstood apply Inv Apart Guarantee Ends := by
  cases event with
  | start request =>
      obtain ⟨apart, withstands⟩ := starts request rfl
      refine ⟨withstood.invariant, ?_, fun index thread found => ?_⟩
      · unfold Pool.step
        rw [List.map_append, List.pairwise_append]
        exact ⟨withstood.apart, List.pairwise_singleton _ _, fun other member new last =>
          (List.mem_singleton.mp last) ▸ apart other member⟩
      · unfold Pool.step at found
        rw [List.getElem?_append] at found
        split at found
        · exact withstood.withstand index thread found
        · obtain rfl := List.mem_singleton.mp (List.mem_of_getElem? found)
          exact withstands
  | advance index raised =>
      unfold Pool.step
      dsimp only
      split
      next request op next found =>
        obtain ⟨⟨kept, guarantee, completes⟩, raises⟩ :=
          withstood.withstand index _ found pool.state .refl withstood.invariant
        cases raised with
        | none =>
            exact withstood.set symmetric stable found kept
              (fun other apart => .single ⟨withstood.invariant, kept, request, apart, guarantee⟩)
              completes
        | some error =>
            exact withstood.set symmetric stable found withstood.invariant (fun _ _ => .refl)
              (raises error)
      next => exact withstood

/-- The rule for runs: requests that are apart from each other, each of which withstands
the others from wherever it starts. -/
theorem Withstood.run (symmetric : ∀ left right, Apart left right → Apart right left)
    (stable : ∀ request outcome first second, Others Inv Apart Guarantee request first second →
      Ends request outcome first → Ends request outcome second)
    {pool : Pool Op Answer ε α σ ι} (withstood : pool.Withstood apply Inv Apart Guarantee Ends)
    {events : List (PoolEvent ε ι)}
    (apart : (pool.threads.map Thread.request ++ events.filterMap PoolEvent.started?).Pairwise Apart)
    (starts : ∀ request ∈ events.filterMap PoolEvent.started?, ∀ state, Inv state →
      (programOf request).Withstands apply Inv Apart Guarantee request (Ends request) state) :
    (events.foldl (Pool.step apply programOf) pool).Withstood apply Inv Apart Guarantee Ends := by
  induction events generalizing pool with
  | nil => exact withstood
  | cons event events inductionHypothesis =>
      have split : (event :: events).filterMap PoolEvent.started? =
          event.started?.toList ++ events.filterMap PoolEvent.started? := by
        cases event <;> rfl
      rw [split, ← List.append_assoc] at apart
      rw [split] at starts
      refine inductionHypothesis (withstood.step symmetric stable fun request started => ?_) ?_
        fun request member => starts request (List.mem_append_right _ member)
      · subst started
        have before := (List.pairwise_append.mp (List.pairwise_append.mp apart).1).2.2
        exact ⟨fun other member => before other member request (List.mem_singleton_self request),
          starts request (List.mem_append_left _ (List.mem_singleton_self request)) _
            withstood.invariant⟩
      · rw [requests_step]
        exact apart

end Pool

end TradingStrands.Foundation
