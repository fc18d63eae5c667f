import Mathlib.Data.List.Basic
import Mathlib.Logic.Basic

/-!
Owns runs of a deterministic step function over a list of events: the final
state, properties of every state a run passes through (`Always`), properties of
every step judged on the state it starts from (`EachStep`), and the two rules
the developments below use. `always_of_eachStep` is the invariant rule. The
exact form, `always_iff_eachStep`, turns a step lemma "the invariant survives
this step if and only if the step is good" into the same statement for whole
runs.

Does not own: any particular state or event.
-/

namespace TradingStrands.Foundation

section Runs

variable {σ ε : Type} (step : σ → ε → σ)

/-- The state after all events. -/
def run (start : σ) (events : List ε) : σ :=
  events.foldl step start

/-- `P` holds in the start state and in every state the run reaches. -/
def Always (P : σ → Prop) : σ → List ε → Prop
  | state, [] => P state
  | state, event :: rest => P state ∧ Always P (step state event) rest

/-- Every step of the run satisfies `Ok`, judged on the state before it. -/
def EachStep (Ok : σ → ε → Prop) : σ → List ε → Prop
  | _, [] => True
  | state, event :: rest => Ok state event ∧ EachStep Ok (step state event) rest

/-- Some step of the run satisfies `Ok`, judged on the state before it. -/
def SomeStep (Ok : σ → ε → Prop) : σ → List ε → Prop
  | _, [] => False
  | state, event :: rest => Ok state event ∨ SomeStep Ok (step state event) rest

/-- Some step of the run satisfies `First` and a later one `Second`. -/
def Precedes (First Second : σ → ε → Prop) : σ → List ε → Prop
  | _, [] => False
  | state, event :: rest =>
      First state event ∧ SomeStep step Second (step state event) rest ∨
        Precedes First Second (step state event) rest

/-- How many steps of the run satisfy `Ok`, judged on the state before them. -/
def countSteps (Ok : σ → ε → Bool) : σ → List ε → Nat
  | _, [] => 0
  | state, event :: rest =>
      (if Ok state event = true then 1 else 0) + countSteps Ok (step state event) rest

instance decidableAlways (P : σ → Prop) [DecidablePred P] (state : σ) (events : List ε) :
    Decidable (Always step P state events) :=
  match events with
  | [] => inferInstanceAs (Decidable (P state))
  | event :: rest =>
      have := decidableAlways P (step state event) rest
      inferInstanceAs (Decidable (P state ∧ Always step P (step state event) rest))

instance decidableEachStep (Ok : σ → ε → Prop) [∀ state event, Decidable (Ok state event)]
    (state : σ) (events : List ε) : Decidable (EachStep step Ok state events) :=
  match events with
  | [] => inferInstanceAs (Decidable True)
  | event :: rest =>
      have := decidableEachStep Ok (step state event) rest
      inferInstanceAs (Decidable (Ok state event ∧ EachStep step Ok (step state event) rest))

instance decidableSomeStep (Ok : σ → ε → Prop) [∀ state event, Decidable (Ok state event)]
    (state : σ) (events : List ε) : Decidable (SomeStep step Ok state events) :=
  match events with
  | [] => inferInstanceAs (Decidable False)
  | event :: rest =>
      have := decidableSomeStep Ok (step state event) rest
      inferInstanceAs (Decidable (Ok state event ∨ SomeStep step Ok (step state event) rest))

@[simp] theorem run_nil (start : σ) : run step start [] = start := rfl

@[simp] theorem run_cons (start : σ) (event : ε) (rest : List ε) :
    run step start (event :: rest) = run step (step start event) rest := rfl

theorem run_append (start : σ) (left right : List ε) :
    run step start (left ++ right) = run step (run step start left) right := by
  unfold run
  rw [List.foldl_append]

theorem run_concat (start : σ) (events : List ε) (event : ε) :
    run step start (events ++ [event]) = step (run step start events) event :=
  run_append step start events [event]

/-- The last step of a run is one more that may satisfy `Ok`. -/
theorem someStep_concat {Ok : σ → ε → Prop} {start : σ} {events : List ε} {event : ε} :
    SomeStep step Ok start (events ++ [event]) ↔
      SomeStep step Ok start events ∨ Ok (run step start events) event := by
  induction events generalizing start with
  | nil => simp [SomeStep]
  | cons head tail inductionHypothesis =>
      rw [List.cons_append, SomeStep, inductionHypothesis, SomeStep, run_cons, or_assoc]

theorem precedes_concat {First Second : σ → ε → Prop} {start : σ} {events : List ε} {event : ε} :
    Precedes step First Second start (events ++ [event]) ↔
      Precedes step First Second start events ∨
        SomeStep step First start events ∧ Second (run step start events) event := by
  induction events generalizing start with
  | nil => simp [SomeStep, Precedes]
  | cons head tail inductionHypothesis =>
      rw [List.cons_append, Precedes, inductionHypothesis, someStep_concat, Precedes, SomeStep,
        run_cons]
      tauto

/-- The budget rule: steps that each raise a gauge which never falls, and leave it
within the limit, are at most as many as the gauge is below the limit. -/
theorem countSteps_le_of_gauge {Ok : σ → ε → Bool} {gauge : σ → Int} {limit : Int}
    {events : List ε}
    (rises : ∀ state, ∀ event ∈ events, gauge state ≤ gauge (step state event))
    (spends : ∀ state, ∀ event ∈ events, Ok state event = true →
      gauge state < gauge (step state event) ∧ gauge (step state event) ≤ limit) (start : σ) :
    countSteps step Ok start events ≤ (limit - gauge start).toNat := by
  induction events generalizing start with
  | nil => exact Nat.zero_le _
  | cons event rest inductionHypothesis =>
      have rest_le := inductionHypothesis
        (fun state event member => rises state event (List.mem_cons_of_mem _ member))
        (fun state event member => spends state event (List.mem_cons_of_mem _ member))
        (step start event)
      have here := rises start event List.mem_cons_self
      unfold countSteps
      by_cases spent : Ok start event = true
      · obtain ⟨raised, within⟩ := spends start event List.mem_cons_self spent
        rw [if_pos spent]
        omega
      · rw [if_neg spent]
        omega

/-- The simulation rule: what every pair of steps on one event keeps, two runs on
the same events keep. -/
theorem run_related {τ : Type} {other : τ → ε → τ} {R : σ → τ → Prop}
    (keeps : ∀ left right event, R left right → R (step left event) (other right event))
    {left : σ} {right : τ} (related : R left right) (events : List ε) :
    R (run step left events) (run other right events) := by
  induction events generalizing left right with
  | nil => exact related
  | cons head tail inductionHypothesis => exact inductionHypothesis (keeps left right head related)

/-- All that the steps of a run put out, in order. -/
def outputs {δ : Type} (output : σ → ε → List δ) : σ → List ε → List δ
  | _, [] => []
  | state, event :: rest => output state event ++ outputs output (step state event) rest

@[simp] theorem outputs_nil {δ : Type} (output : σ → ε → List δ) (start : σ) :
    outputs step output start [] = [] := rfl

@[simp] theorem outputs_cons {δ : Type} (output : σ → ε → List δ) (start : σ) (event : ε)
    (rest : List ε) :
    outputs step output start (event :: rest) =
      output start event ++ outputs step output (step start event) rest := rfl

theorem outputs_concat {δ : Type} (output : σ → ε → List δ) (start : σ) (events : List ε)
    (event : ε) :
    outputs step output start (events ++ [event]) =
      outputs step output start events ++ output (run step start events) event := by
  induction events generalizing start with
  | nil => simp
  | cons head tail inductionHypothesis =>
      rw [List.cons_append, outputs_cons, inductionHypothesis, outputs_cons, run_cons,
        List.append_assoc]

/-- What every step's output has, a run's has. -/
theorem forall_mem_outputs {δ : Type} {output : σ → ε → List δ} {P : δ → Prop}
    (each : ∀ state event, ∀ item ∈ output state event, P item) (start : σ) (events : List ε) :
    ∀ item ∈ outputs step output start events, P item := by
  induction events generalizing start with
  | nil => exact fun _ member => absurd member List.not_mem_nil
  | cons head tail inductionHypothesis =>
      intro item member
      rcases List.mem_append.mp member with here | later
      · exact each start head item here
      · exact inductionHypothesis _ item later

/-- Where the output depends on the event only, it is that of the events. -/
theorem outputs_filterMap {δ : Type} (own : ε → Option δ) (start : σ) (events : List ε) :
    outputs step (fun _ event => (own event).toList) start events = events.filterMap own := by
  induction events generalizing start with
  | nil => rfl
  | cons head tail inductionHypothesis =>
      rw [outputs_cons, inductionHypothesis, List.filterMap_cons]
      cases own head <;> rfl

/-- The projection rule: a view that takes up what each step puts out is the run of
what a run puts out. -/
theorem run_view_outputs {ρ δ : Type} (view : σ → ρ) {output : σ → ε → List δ}
    {follow : ρ → δ → ρ} {events : List ε}
    (follows : ∀ state, ∀ event ∈ events, view (step state event) = run follow (view state)
      (output state event)) (start : σ) :
    view (run step start events) = run follow (view start) (outputs step output start events) := by
  induction events generalizing start with
  | nil => rfl
  | cons head tail inductionHypothesis =>
      rw [run_cons, inductionHypothesis fun state event member =>
        follows state event (List.mem_cons_of_mem head member),
        follows start head List.mem_cons_self, outputs_cons, run_append]

/-- A view that follows the events of its own, and that every other event leaves
alone, is the run of those events. -/
theorem run_view {ρ δ : Type} (view : σ → ρ) {own : ε → Option δ} {follow : ρ → δ → ρ}
    {events : List ε}
    (follows : ∀ state, ∀ event ∈ events, view (step state event) = run follow (view state)
      (own event).toList) (start : σ) :
    view (run step start events) = run follow (view start) (events.filterMap own) := by
  rw [← outputs_filterMap step own start events]
  exact run_view_outputs step view follows start

/-- `EachStep` quantifies over the ways of cutting the run at one event. -/
theorem eachStep_iff_cut {Ok : σ → ε → Prop} {start : σ} {events : List ε} :
    EachStep step Ok start events ↔
      ∀ before event after, events = before ++ event :: after →
        Ok (run step start before) event := by
  induction events generalizing start with
  | nil => simp [EachStep]
  | cons head tail inductionHypothesis =>
      rw [EachStep, inductionHypothesis]
      constructor
      · rintro ⟨first, later⟩ before event after cut
        cases before with
        | nil =>
            obtain ⟨rfl, rfl⟩ := List.cons.inj cut
            exact first
        | cons other before =>
            obtain ⟨rfl, rest⟩ := List.cons.inj cut
            exact later before event after rest
      · intro all
        refine ⟨all [] head tail rfl, fun before event after cut => ?_⟩
        exact all (head :: before) event after (by rw [cut, List.cons_append])

/-- `Always` quantifies over the prefixes of the run. -/
theorem always_iff_cut {P : σ → Prop} {start : σ} {events : List ε} :
    Always step P start events ↔
      ∀ before after, events = before ++ after → P (run step start before) := by
  induction events generalizing start with
  | nil =>
      constructor
      · intro holds before after cut
        obtain ⟨rfl, rfl⟩ := List.nil_eq_append_iff.mp cut
        exact holds
      · intro all
        exact all [] [] rfl
  | cons head tail inductionHypothesis =>
      rw [Always, inductionHypothesis]
      constructor
      · rintro ⟨first, later⟩ before after cut
        cases before with
        | nil => exact first
        | cons other before =>
            obtain ⟨rfl, rest⟩ := List.cons.inj cut
            exact later before after rest
      · intro all
        refine ⟨all [] (head :: tail) rfl, fun before after cut => ?_⟩
        exact all (head :: before) after (by rw [cut, List.cons_append])

theorem eachStep_append {Ok : σ → ε → Prop} {start : σ} {left right : List ε} :
    EachStep step Ok start (left ++ right) ↔
      EachStep step Ok start left ∧ EachStep step Ok (run step start left) right := by
  induction left generalizing start with
  | nil => simp [EachStep]
  | cons head tail inductionHypothesis =>
      rw [List.cons_append, EachStep, EachStep, inductionHypothesis, and_assoc]
      rfl

theorem Always.final {P : σ → Prop} {start : σ} {events : List ε}
    (always : Always step P start events) : P (run step start events) :=
  (always_iff_cut step).mp always events [] (by simp)

theorem Always.start {P : σ → Prop} {start : σ} {events : List ε}
    (always : Always step P start events) : P start :=
  (always_iff_cut step).mp always [] events rfl

theorem Always.mono {P Q : σ → Prop} (weaken : ∀ state, P state → Q state)
    {start : σ} {events : List ε} (always : Always step P start events) :
    Always step Q start events := by
  rw [always_iff_cut] at always ⊢
  exact fun before after cut => weaken _ (always before after cut)

/-- What holds throughout a run holds after each step. -/
theorem Always.eachStep {P : σ → Prop} {start : σ} {events : List ε}
    (always : Always step P start events) :
    EachStep step (fun state event => P (step state event)) start events := by
  induction events generalizing start with
  | nil => trivial
  | cons head tail inductionHypothesis =>
      exact ⟨Always.start step always.2, inductionHypothesis always.2⟩

theorem EachStep.and {First Second : σ → ε → Prop} {start : σ} {events : List ε}
    (first : EachStep step First start events) (second : EachStep step Second start events) :
    EachStep step (fun state event => First state event ∧ Second state event) start events := by
  rw [eachStep_iff_cut] at first second ⊢
  exact fun before event after cut => ⟨first before event after cut, second before event after cut⟩

theorem EachStep.mono {First Second : σ → ε → Prop}
    (weaken : ∀ state event, First state event → Second state event)
    {start : σ} {events : List ε} (each : EachStep step First start events) :
    EachStep step Second start events := by
  rw [eachStep_iff_cut] at each ⊢
  exact fun before event after cut => weaken _ _ (each before event after cut)

/-- The invariant rule: what every good step keeps holds throughout. -/
theorem always_of_eachStep {Inv : σ → Prop} {Ok : σ → ε → Prop}
    (keeps : ∀ state event, Inv state → Ok state event → Inv (step state event))
    {start : σ} {events : List ε} (initial : Inv start)
    (each : EachStep step Ok start events) : Always step Inv start events := by
  induction events generalizing start with
  | nil => exact initial
  | cons head tail inductionHypothesis =>
      exact ⟨initial, inductionHypothesis (keeps start head initial each.1) each.2⟩

/-- What a good step promises from a state where the invariant holds, every
step of a run of good steps delivers. -/
theorem eachStep_of_eachStep {Inv : σ → Prop} {Ok Good : σ → ε → Prop}
    (keeps : ∀ state event, Inv state → Ok state event → Inv (step state event))
    (delivers : ∀ state event, Inv state → Ok state event → Good state event)
    {start : σ} {events : List ε} (initial : Inv start)
    (each : EachStep step Ok start events) : EachStep step Good start events := by
  induction events generalizing start with
  | nil => trivial
  | cons head tail inductionHypothesis =>
      exact ⟨delivers start head initial each.1,
        inductionHypothesis (keeps start head initial each.1) each.2⟩

/-- A property of events alone holds at each step if it holds of each event. -/
theorem eachStep_of_forall {Ok : ε → Prop} (start : σ) {events : List ε}
    (all : ∀ event ∈ events, Ok event) : EachStep step (fun _ event => Ok event) start events := by
  rw [eachStep_iff_cut]
  rintro before event after rfl
  exact all event (by simp)

/-- Every run is admissible if every step is. -/
theorem eachStep_true (start : σ) (events : List ε) :
    EachStep step (fun _ _ => True) start events := by
  rw [eachStep_iff_cut]
  intro before event after cut
  trivial

/-- The exact invariant rule, beside a property that every admissible step
keeps. If, where both hold, an admissible step keeps the invariant exactly when
the step is good, then the invariant holds throughout an admissible run exactly
when every step of the run is good. -/
theorem always_iff_eachStep_of_kept {Side Inv : σ → Prop} {Admissible Good : σ → ε → Prop}
    (kept : ∀ state event, Side state → Admissible state event → Side (step state event))
    (exact : ∀ state event, Side state → Inv state → Admissible state event →
      (Inv (step state event) ↔ Good state event))
    {start : σ} {events : List ε} (side : Side start) (initial : Inv start)
    (admissible : EachStep step Admissible start events) :
    Always step Inv start events ↔ EachStep step Good start events := by
  induction events generalizing start with
  | nil => exact iff_of_true initial trivial
  | cons head tail inductionHypothesis =>
      have here := exact start head side initial admissible.1
      have sideAfter := kept start head side admissible.1
      constructor
      · rintro ⟨-, later⟩
        have holds : Inv (step start head) := Always.start step later
        exact ⟨here.mp holds, (inductionHypothesis sideAfter holds admissible.2).mp later⟩
      · rintro ⟨good, later⟩
        have holds : Inv (step start head) := here.mpr good
        exact ⟨initial, (inductionHypothesis sideAfter holds admissible.2).mpr later⟩

/-- The exact invariant rule. -/
theorem always_iff_eachStep {Inv : σ → Prop} {Admissible Good : σ → ε → Prop}
    (exact : ∀ state event, Inv state → Admissible state event →
      (Inv (step state event) ↔ Good state event))
    {start : σ} {events : List ε} (initial : Inv start)
    (admissible : EachStep step Admissible start events) :
    Always step Inv start events ↔ EachStep step Good start events := by
  have kept : ∀ state event, (fun _ : σ => True) state → Admissible state event →
      (fun _ : σ => True) (step state event) := fun _ _ _ _ => trivial
  exact always_iff_eachStep_of_kept step kept (fun state event _ => exact state event) trivial
    initial admissible

/-- Two step properties that agree wherever an invariant holds agree along
every admissible run. -/
theorem eachStep_congr {Inv : σ → Prop} {Admissible First Second : σ → ε → Prop}
    (keeps : ∀ state event, Inv state → Admissible state event → Inv (step state event))
    (same : ∀ state event, Inv state → Admissible state event →
      (First state event ↔ Second state event))
    {start : σ} {events : List ε} (initial : Inv start)
    (admissible : EachStep step Admissible start events) :
    EachStep step First start events ↔ EachStep step Second start events := by
  induction events generalizing start with
  | nil => exact Iff.rfl
  | cons head tail inductionHypothesis =>
      rw [EachStep, EachStep, same start head initial admissible.1,
        inductionHypothesis (keeps start head initial admissible.1) admissible.2]

/-- Two step properties that agree wherever an invariant holds agree along every
run, if they keep the invariant themselves. -/
theorem eachStep_congr_of_kept {Inv : σ → Prop} {First Second : σ → ε → Prop}
    (keeps : ∀ state event, Inv state → First state event → Inv (step state event))
    (same : ∀ state event, Inv state → (First state event ↔ Second state event))
    {start : σ} {events : List ε} (initial : Inv start) :
    EachStep step First start events ↔ EachStep step Second start events := by
  induction events generalizing start with
  | nil => exact Iff.rfl
  | cons head tail inductionHypothesis =>
      rw [EachStep, EachStep, ← same start head initial]
      exact and_congr_right fun first => inductionHypothesis (keeps start head initial first)

end Runs

end TradingStrands.Foundation
