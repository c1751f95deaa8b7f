import Storefront.Engine.Circuit
import Storefront.Engine.Health

/-!
# The guarded engine

In front of the engine stand a circuit breaker and a record of its health. Only a statement that
fails to *reach* the engine counts against either: a statement that the engine refuses, or whose
answer makes no sense, says nothing about the next one. A statement that the breaker turns away
leaves the health as it is and reaches nobody.
-/

namespace Storefront

/-- What is kept in front of an engine. -/
structure Guard where
  breaker : Breaker
  health : Health
deriving DecidableEq

/-- A guard, the state of the world behind it, and the instant of the last thing that happened.
Every statement and every question about health happens at an instant of its own. -/
structure Guarded (σ : Type) where
  guard : Guard
  world : σ
  clock : Nat

namespace Guard

/-- The guard before any statement. -/
def start (policy : CircuitPolicy) (interval : Nat) : Guard :=
  ⟨.start "engine" policy, .start interval⟩

/-- What the health record makes of a statement's result. -/
def note (now : Nat) (health : Health) : Except (CircuitFault EngineFault) Answer → Health
  | .ok _ => health.recordSuccess
  | .error (.failed fault) => if fault.isUnreachable then health.recordFailure now else health
  | .error .rejected => health

/-- What the caller is told of a statement's result. -/
def report : Except (CircuitFault EngineFault) Answer → Reply
  | .ok answer => .ok answer
  | .error (.failed fault) => .error fault
  | .error .rejected => .error (.unreachable circuitOpen)

variable {σ : Type}

/-- **A statement through the guard.** -/
def execute (engine : Engine σ) (statement : String) : StateM (Guarded σ) Reply := fun s =>
  let now := s.clock + 1
  let (result, breaker, inner) :=
    Breaker.call now EngineFault.isUnreachable (engine.execute statement) (s.guard.breaker, s.world)
  (report result, ⟨⟨breaker, note now s.guard.health result⟩, inner, now⟩)

/-- **Whether the engine is up**, as far as the guard knows or finds out. -/
def healthy (engine : Engine σ) : StateM (Guarded σ) Bool := fun s =>
  let now := s.clock + 1
  let (well, health, inner) := Health.check now engine.probe (s.guard.health, s.world)
  (well, ⟨{ s.guard with health := health }, inner, now⟩)

end Guard

end Storefront
