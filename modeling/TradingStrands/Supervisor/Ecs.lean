import TradingStrands.Foundation.Dict
import TradingStrands.Foundation.Programs

/-!
Owns the container service as the supervisor uses it: services by name, the five
calls on them, and two accounts of what a call does. In the first, `apply`, every
call takes effect at once and none fails. In the second, `attempt`, a deleted
service drains before it is gone, calls on it are refused, and any call may
raise, before or after it has taken effect.
-/

namespace TradingStrands

open TradingStrands.Foundation

inductive ServiceStatus
  | active
  | draining
  | inactive
deriving DecidableEq, Repr

/-- A service; one that drains or is gone has no desired count left. -/
structure Service where
  status : ServiceStatus
  desiredCount : Nat
  /-- The revision of the task definition, by its place among all registered ones. -/
  taskDefinition : Nat
  idle : status ≠ .active → desiredCount = 0
deriving DecidableEq

namespace Service

def created (taskDefinition desiredCount : Nat) : Service :=
  { status := .active, desiredCount, taskDefinition, idle := fun not => absurd rfl not }

/-- Set the desired count of an active service. -/
def scale (service : Service) (desiredCount : Nat) : Service :=
  if active : service.status = .active then
    { service with desiredCount, idle := fun not => absurd active not }
  else service

def deleted (service : Service) : Service :=
  { service with status := .draining, desiredCount := 0, idle := fun _ => rfl }

/-- A draining service comes to its end. -/
def drained (service : Service) : Service :=
  if draining : service.status = .draining then
    { service with
      status := .inactive
      idle := fun _ => service.idle (by rw [draining]; decide) }
  else service

theorem scale_eq {service : Service} (active : service.status = .active) (desiredCount : Nat) :
    (service.scale desiredCount).status = .active ∧
      (service.scale desiredCount).desiredCount = desiredCount := by
  unfold scale
  rw [dif_pos active]
  exact ⟨active, rfl⟩

@[simp] theorem desiredCount_drained (service : Service) :
    service.drained.desiredCount = service.desiredCount := by
  unfold drained
  split <;> rfl

end Service

structure TaskDefinition where
  family : String
  image : String
  environment : Dict String String
deriving DecidableEq

structure Ecs where
  services : Dict String Service := Dict.empty
  taskDefinitions : List TaskDefinition := []
deriving DecidableEq

inductive EcsError
  /-- A failed `assert`. -/
  | assertion
  | clientError (message : String)
deriving DecidableEq, Repr

inductive EcsOp
  | describeServices (service : String)
  | registerTaskDefinition (definition : TaskDefinition)
  | createService (serviceName : String) (taskDefinition desiredCount : Nat)
  | updateService (service : String) (desiredCount : Nat)
  | deleteService (service : String)

namespace Ecs

def setService (ecs : Ecs) (name : String) (service : Service) : Ecs :=
  { ecs with services := ecs.services.set name service }

def removeService (ecs : Ecs) (name : String) : Ecs :=
  { ecs with services := ecs.services.erase name }

def service? (ecs : Ecs) (name : String) : Option Service := ecs.services.get? name

/-- A service with a desired count of one or more exists. -/
def Runs (ecs : Ecs) (name : String) : Prop :=
  ∃ service, ecs.service? name = some service ∧ 1 ≤ service.desiredCount

theorem runs_iff_any {ecs : Ecs} {name : String} :
    ecs.Runs name ↔ (ecs.service? name).any (fun service => 1 ≤ service.desiredCount) = true := by
  unfold Runs
  cases ecs.service? name <;> simp

instance (ecs : Ecs) (name : String) : Decidable (ecs.Runs name) :=
  decidable_of_iff _ runs_iff_any.symm

theorem service?_setService (ecs : Ecs) (name other : String) (service : Service) :
    (ecs.setService name service).service? other =
      if other = name then some service else ecs.service? other :=
  Dict.get?_set ecs.services name other service

theorem service?_removeService (ecs : Ecs) (name other : String) :
    (ecs.removeService name).service? other = if other = name then none else ecs.service? other := by
  by_cases same : other = name
  · rw [if_pos same, same]
    exact Dict.get?_erase_self ecs.services name
  · rw [if_neg same]
    exact Dict.get?_erase_of_ne ecs.services same

end Ecs

namespace EcsOp

abbrev Answer : EcsOp → Type
  | .describeServices _ => Option Service
  | .registerTaskDefinition _ => Nat
  | .createService _ _ _ => Unit
  | .updateService _ _ => Unit
  | .deleteService _ => Unit

/-- Every call takes effect at once. -/
def apply : (op : EcsOp) → Ecs → Answer op × Ecs
  | .describeServices name, ecs => (ecs.service? name, ecs)
  | .registerTaskDefinition definition, ecs =>
      (ecs.taskDefinitions.length,
        { ecs with taskDefinitions := ecs.taskDefinitions ++ [definition] })
  | .createService name taskDefinition desiredCount, ecs =>
      ((), ecs.setService name (.created taskDefinition desiredCount))
  | .updateService name desiredCount, ecs =>
      match ecs.service? name with
      | none => ((), ecs)
      | some service => ((), ecs.setService name (service.scale desiredCount))
  | .deleteService name, ecs => ((), ecs.removeService name)

end EcsOp

/-- A program over the container service. -/
abbrev EcsProgram (α : Type) : Type := Program EcsOp EcsOp.Answer EcsError α

namespace EcsProgram

def describeServices (service : String) : EcsProgram (Option Service) :=
  Program.perform (EcsOp.describeServices service)

def registerTaskDefinition (definition : TaskDefinition) : EcsProgram Nat :=
  Program.perform (EcsOp.registerTaskDefinition definition)

def createService (serviceName : String) (taskDefinition desiredCount : Nat) : EcsProgram Unit :=
  Program.perform (EcsOp.createService serviceName taskDefinition desiredCount)

def updateService (service : String) (desiredCount : Nat) : EcsProgram Unit :=
  Program.perform (EcsOp.updateService service desiredCount)

def deleteService (service : String) : EcsProgram Unit :=
  Program.perform (EcsOp.deleteService service)

end EcsProgram

/-! ### Calls that may raise -/

/-- What becomes of a call. -/
inductive CallFate
  | completes
  | refused
  /-- It takes effect, and the caller gets an exception. -/
  | answerLost
deriving DecidableEq, Repr

/-- What the surroundings do at one call. -/
structure CallTurn where
  /-- The services that have finished draining by then. -/
  drained : List String := []
  fate : CallFate := .completes
deriving DecidableEq, Repr

/-- The container service, what is going to happen at each of the next calls, and
how many calls have raised. -/
structure LiveEcs where
  ecs : Ecs := {}
  turns : List CallTurn := []
  failures : Nat := 0

namespace Ecs

/-- The named service is gone if it was draining. -/
def finishDraining (ecs : Ecs) (name : String) : Ecs :=
  match ecs.service? name with
  | none => ecs
  | some service => ecs.setService name service.drained

def finishAll (ecs : Ecs) (names : List String) : Ecs := names.foldl finishDraining ecs

end Ecs

namespace EcsOp

def refusal (message : String) : EcsError := .clientError message

/-- A call that reaches the container service. A service that still drains, or
is there already, cannot be created; only an active one can be updated. -/
def call : (op : EcsOp) → Ecs → Except EcsError (Answer op × Ecs)
  | .describeServices name, ecs => .ok (ecs.service? name, ecs)
  | .registerTaskDefinition definition, ecs =>
      .ok (ecs.taskDefinitions.length,
        { ecs with taskDefinitions := ecs.taskDefinitions ++ [definition] })
  | .createService name taskDefinition desiredCount, ecs =>
      match ecs.service? name with
      | none => .ok ((), ecs.setService name (.created taskDefinition desiredCount))
      | some service =>
          if service.status = .inactive then
            .ok ((), ecs.setService name (.created taskDefinition desiredCount))
          else if service.status = .draining then
            .error (refusal "Unable to Start a service that is still Draining.")
          else .error (refusal "Creation of service was not idempotent.")
  | .updateService name desiredCount, ecs =>
      match ecs.service? name with
      | none => .error (refusal "Service not found.")
      | some service =>
          if service.status = .active then
            .ok ((), ecs.setService name (service.scale desiredCount))
          else .error (refusal "Service was not ACTIVE.")
  | .deleteService name, ecs =>
      match ecs.service? name with
      | none => .error (refusal "Service not found.")
      | some service => .ok ((), ecs.setService name service.deleted)

/-- One call as its surroundings let it go. -/
def attempt (op : EcsOp) (live : LiveEcs) : Except EcsError (Answer op) × LiveEcs :=
  let turn := live.turns.head?.getD {}
  let ecs := live.ecs.finishAll turn.drained
  let raised (error : EcsError) (ecs : Ecs) : Except EcsError (Answer op) × LiveEcs :=
    (.error error, { ecs, turns := live.turns.tail, failures := live.failures + 1 })
  match turn.fate with
  | .refused => raised (refusal "ServerException") ecs
  | .answerLost =>
      match op.call ecs with
      | .error error => raised error ecs
      | .ok (_, after) => raised (refusal "Read timeout on endpoint") after
  | .completes =>
      match op.call ecs with
      | .error error => raised error ecs
      | .ok (answer, after) => (.ok answer, { live with ecs := after, turns := live.turns.tail })

end EcsOp

end TradingStrands
