import Storefront.Engine.Basic

/-!
# The health of an engine

Probing the engine before every search would add a round trip to each, so the outcome of a probe
is good for an interval. A statement that fails to reach the engine marks it as down at once; the
next probe after the interval, or a statement that gets through, marks it as up again.
-/

namespace Storefront

/-- What is known of an engine's health. -/
structure Health where
  healthy : Bool
  /-- Failures since the last success. -/
  failures : Nat
  /-- When the engine was last probed or found down. -/
  checked : Option Nat
  /-- How long that is good for. -/
  interval : Nat
deriving DecidableEq

namespace Health

/-- An engine counts as up until it has been asked. -/
def start (interval : Nat) : Health where
  healthy := true
  failures := 0
  checked := none
  interval := interval

/-- After a statement that got through. -/
def recordSuccess (health : Health) : Health :=
  { health with healthy := true, failures := 0 }

/-- After a statement or a probe that did not get through. -/
def recordFailure (now : Nat) (health : Health) : Health :=
  { health with healthy := false, failures := health.failures + 1, checked := some now }

/-- After a probe. -/
def recordProbe (now : Nat) (well : Bool) (health : Health) : Health :=
  if well then { health.recordSuccess with checked := some now } else health.recordFailure now

/-- What is known, if it is fresh enough. -/
def known? (now : Nat) (health : Health) : Option Bool :=
  match health.checked with
  | some instant => if now - instant < health.interval then some health.healthy else none
  | none => none

/-- **Whether the engine is up**, probed only if what is known is too old. -/
def check {σ : Type} (now : Nat) (probe : StateM σ Bool) : StateM (Health × σ) Bool :=
  fun (health, s) =>
    match health.known? now with
    | some well => (well, health, s)
    | none =>
      let (well, s) := probe s
      (well, health.recordProbe now well, s)

end Health

end Storefront
