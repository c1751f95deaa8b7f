import Storefront.Fault
import Storefront.Number.Binary64
import Storefront.Settings.Basic

/-!
# The circuit breaker

When calls keep failing, further calls are turned away for a while without being tried. The
circuit looks at the outcomes of its last calls through a ring of fixed length:

* **closed** – calls pass. Once the ring has been filled, a call after which at least half of the
  ring are failures opens the circuit;
* **open** – calls are turned away until the recovery time is over, and the first call after that
  is a trial;
* **half open** – calls pass on trial, in a ring of their own. Once that is filled, a success with
  at most half failures closes the circuit, a failure with at least half opens it again.

A failure that does not count – because it says nothing about whether calls get through – is
recorded as a success.

`Breaker` is a circuit with a name and an account of its calls. Its state, as reported, is read off
the last call: turned away means open, failed means that the circuit may be about to open.
-/

namespace Storefront

open Number

/-! ### The ring of outcomes -/

/-- A ring of a length, and the last outcomes that have been recorded in it, the newest first, `true`
for a failure. The rest of the ring is successes. -/
structure OutcomeRing where
  length : Nat
  recorded : List Bool
deriving DecidableEq

namespace OutcomeRing

/-- A ring of the given length, at least one, with nothing recorded. -/
def ofLength (length : Nat) : OutcomeRing :=
  ⟨max length 1, []⟩

/-- The ring with one more outcome, in the place of the oldest if it is full. -/
def record (failed : Bool) (ring : OutcomeRing) : OutcomeRing :=
  { ring with recorded := (failed :: ring.recorded).take ring.length }

/-- How many of the outcomes are failures. -/
def failures (ring : OutcomeRing) : Nat :=
  ring.recorded.count true

/-- Whether the ring is filled. The share of failures counts after an outcome that is recorded in a
ring that is. -/
def isFull (ring : OutcomeRing) : Bool :=
  ring.length ≤ ring.recorded.length

/-- Whether at least half of the outcomes are failures. -/
def mostlyFailed (ring : OutcomeRing) : Bool :=
  ring.length ≤ 2 * ring.failures

/-- Whether at most half of the outcomes are failures. -/
def mostlyPassed (ring : OutcomeRing) : Bool :=
  2 * ring.failures ≤ ring.length

end OutcomeRing

/-! ### The circuit -/

/-- The phases of a circuit. -/
inductive Circuit where
  | closed (ring : OutcomeRing)
  /-- Calls are turned away up to and at the given instant. -/
  | opened (recovers : Nat)
  | halfOpen (ring : OutcomeRing)
deriving DecidableEq

namespace Circuit

/-- The circuit before any call. -/
def start (policy : CircuitPolicy) : Circuit :=
  .closed (.ofLength policy.failureThreshold)

/-- The circuit that a call passes, or `none` if the call is turned away. -/
def admit? (policy : CircuitPolicy) (now : Nat) : Circuit → Option Circuit
  | .opened recovers =>
    if recovers < now then some (.halfOpen (.ofLength policy.successThreshold)) else none
  | circuit => some circuit

/-- **The circuit after the outcome of a call that passed.** The share of failures counts only if
the ring was full before. -/
def settle (policy : CircuitPolicy) (now : Nat) (failed : Bool) : Circuit → Circuit
  | .closed ring =>
    let after := ring.record failed
    if ring.isFull && after.mostlyFailed then .opened (now + policy.recovery) else .closed after
  | .halfOpen ring =>
    let after := ring.record failed
    if ring.isFull && failed && after.mostlyFailed then .opened (now + policy.recovery)
    else if ring.isFull && !failed && after.mostlyPassed then start policy
    else .halfOpen after
  | .opened recovers => .opened recovers

end Circuit

/-! ### The breaker -/

/-- What became of a call, as the breaker accounts for it. -/
inductive CallOutcome where
  | success
  | failure
  /-- A failure that does not count. -/
  | ignored
  | rejected
deriving DecidableEq

/-- The outcome's name in measurements. -/
def CallOutcome.name : CallOutcome → String
  | .success => "success"
  | .failure => "failure"
  | .ignored => "ignored"
  | .rejected => "rejected"

/-- The state of a breaker as reported. -/
inductive BreakerState where
  | closed
  | halfOpen
  | opened
deriving DecidableEq

namespace BreakerState

/-- The state's name. -/
def name : BreakerState → String
  | .closed => "closed"
  | .halfOpen => "half_open"
  | .opened => "open"

/-- The state's number, which grows with the trouble. -/
def level : BreakerState → Nat
  | .closed => 0
  | .halfOpen => 1
  | .opened => 2

end BreakerState

/-- A circuit with a name and an account of its calls. -/
structure Breaker where
  name : String
  policy : CircuitPolicy
  circuit : Circuit
  /-- What became of the last call; success before the first. -/
  last : CallOutcome
  calls : Nat
  successes : Nat
  failures : Nat
  rejections : Nat
deriving DecidableEq

namespace Breaker

/-- The breaker before any call. -/
def start (name : String) (policy : CircuitPolicy) : Breaker where
  name := name
  policy := policy
  circuit := .start policy
  last := .success
  calls := 0
  successes := 0
  failures := 0
  rejections := 0

/-- The state as reported. -/
def state (breaker : Breaker) : BreakerState :=
  match breaker.last with
  | .rejected => .opened
  | .failure => .halfOpen
  | _ => .closed

/-- Whether the last call was turned away. -/
def isOpen (breaker : Breaker) : Bool :=
  breaker.state = .opened

/-- The failed calls among all. -/
def failureRate (breaker : Breaker) : Binary64 :=
  .share breaker.failures breaker.calls

/-- The breaker with one more call on its account. -/
def account (outcome : CallOutcome) (breaker : Breaker) : Breaker :=
  { breaker with
    last := outcome
    calls := breaker.calls + 1
    successes := breaker.successes + (if outcome = .success then 1 else 0)
    failures := breaker.failures + (if outcome = .failure then 1 else 0)
    rejections := breaker.rejections + (if outcome = .rejected then 1 else 0) }

/-- How the result of an operation is accounted for; `counts` tells which faults count. -/
def outcomeOf {ε α : Type} (counts : ε → Bool) : Except ε α → CallOutcome
  | .ok _ => .success
  | .error fault => if counts fault then .failure else .ignored

/-- **A call through the breaker**: the operation is run if the circuit lets it pass, and its
result is recorded. -/
def call {σ ε α : Type} (now : Nat) (counts : ε → Bool) (operation : StateM σ (Except ε α)) :
    StateM (Breaker × σ) (Except (CircuitFault ε) α) := fun (breaker, s) =>
  match breaker.circuit.admit? breaker.policy now with
  | none => (.error .rejected, breaker.account .rejected, s)
  | some circuit =>
    let (result, s) := operation s
    let outcome := outcomeOf counts result
    let circuit := circuit.settle breaker.policy now (outcome = .failure)
    (result.mapError .failed, { breaker.account outcome with circuit := circuit }, s)

end Breaker

end Storefront
