import Storefront.Engine.Guard

/-!
# Reclosers

The circuit of a breaker is a part that is bought in. All that the breaker knows of it is what it does
with a call: it lets the call pass or turns it away, and it is told how a call that passed went. Such a
part is a `Recloser`. Here the breaker and the guard are put together over any recloser
(`BreakerBy.call`, `GuardedBy.execute`, `GuardedBy.healthy`); the one that is fitted is
`Circuit.recloser`.
-/

namespace Storefront

/-- **A recloser**, with its states. -/
structure Recloser (κ : Type) where
  /-- The state before any call. -/
  start : κ
  /-- The state in which a call passes at an instant, or `none` if the call is turned away. -/
  pass? : Nat → κ → Option κ
  /-- The state after a call that passed: whether it counts as a failure is all that matters of it. -/
  settle : Nat → Bool → κ → κ

/-- The circuit as a recloser. -/
def Circuit.recloser (policy : CircuitPolicy) : Recloser Circuit where
  start := .start policy
  pass? now circuit := circuit.admit? policy now
  settle now failed circuit := circuit.settle policy now failed

/-- **A call through a recloser**: the operation is run if the call passes. -/
def Recloser.call {κ σ ε α : Type} (recloser : Recloser κ) (now : Nat) (counts : ε → Bool)
    (operation : StateM σ (Except ε α)) : StateM (κ × σ) (Except (CircuitFault ε) α) :=
  fun (circuit, s) =>
    match recloser.pass? now circuit with
    | none => (.error .rejected, circuit, s)
    | some circuit =>
      let (result, s) := operation s
      let failed := match result with
        | .ok _ => false
        | .error fault => counts fault
      (result.mapError .failed, recloser.settle now failed circuit, s)

/-! ### Accounts -/

/-- An account of calls. -/
structure CallAccount where
  /-- What became of the last call; success before the first. -/
  last : CallOutcome
  calls : Nat
  successes : Nat
  failures : Nat
  rejections : Nat
deriving DecidableEq

/-- The account before any call. -/
def CallAccount.start : CallAccount :=
  ⟨.success, 0, 0, 0, 0⟩

/-- The account with one more call. -/
def CallAccount.add (outcome : CallOutcome) (account : CallAccount) : CallAccount where
  last := outcome
  calls := account.calls + 1
  successes := account.successes + (if outcome = .success then 1 else 0)
  failures := account.failures + (if outcome = .failure then 1 else 0)
  rejections := account.rejections + (if outcome = .rejected then 1 else 0)

/-- What became of a call, by the result that the recloser hands on. -/
def CallOutcome.ofResult {ε α : Type} (counts : ε → Bool) :
    Except (CircuitFault ε) α → CallOutcome
  | .ok _ => .success
  | .error .rejected => .rejected
  | .error (.failed fault) => if counts fault then .failure else .ignored

/-! ### The breaker and the guard -/

/-- A recloser's state, and an account of the calls through it. -/
structure BreakerBy (κ : Type) where
  circuit : κ
  account : CallAccount

/-- The breaker before any call. -/
def BreakerBy.start {κ : Type} (recloser : Recloser κ) : BreakerBy κ :=
  ⟨recloser.start, .start⟩

/-- **A call through the breaker.** -/
def BreakerBy.call {κ σ ε α : Type} (recloser : Recloser κ) (now : Nat) (counts : ε → Bool)
    (operation : StateM σ (Except ε α)) :
    StateM (BreakerBy κ × σ) (Except (CircuitFault ε) α) := fun (breaker, s) =>
  let (result, circuit, s) := recloser.call now counts operation (breaker.circuit, s)
  (result, ⟨circuit, breaker.account.add (.ofResult counts result)⟩, s)

/-- A guard over a recloser, the state of the world behind it, and the instant of the last thing that
happened. -/
structure GuardedBy (κ σ : Type) where
  breaker : BreakerBy κ
  health : Health
  world : σ
  clock : Nat

/-- **A statement through the guard.** -/
def GuardedBy.execute {κ σ : Type} (recloser : Recloser κ) (engine : Engine σ)
    (statement : String) : StateM (GuardedBy κ σ) Reply := fun s =>
  let now := s.clock + 1
  let (result, breaker, world) :=
    BreakerBy.call recloser now EngineFault.isUnreachable (engine.execute statement)
      (s.breaker, s.world)
  (Guard.report result, ⟨breaker, Guard.note now s.health result, world, now⟩)

/-- **Whether the engine is up**, as far as the guard knows or finds out. The recloser is not asked. -/
def GuardedBy.healthy {κ σ : Type} (engine : Engine σ) : StateM (GuardedBy κ σ) Bool := fun s =>
  let now := s.clock + 1
  let (well, health, world) := Health.check now engine.probe (s.health, s.world)
  (well, ⟨s.breaker, health, world, now⟩)

/-! ### The fitted circuit -/

/-- A breaker as one over its circuit. -/
def Breaker.byCircuit (breaker : Breaker) : BreakerBy Circuit :=
  ⟨breaker.circuit, breaker.last, breaker.calls, breaker.successes, breaker.failures,
    breaker.rejections⟩

/-- A guard as one over the circuit of its breaker. -/
def Guarded.byCircuit {σ : Type} (s : Guarded σ) : GuardedBy Circuit σ :=
  ⟨s.guard.breaker.byCircuit, s.guard.health, s.world, s.clock⟩

end Storefront
