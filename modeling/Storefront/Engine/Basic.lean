import Storefront.Engine.Answer

/-!
# Engines

An engine answers statements and says whether it is well. What it answers may depend on anything
that happened before, so an engine is a pair of operations on a state of its own, `σ`.

`Engine.witnessed` is the same engine with a record of what it was asked: the statements, the
oldest first, and the number of probes. It answers as before; the record is what statements about
round trips are made of.
-/

namespace Storefront

/-- What an engine makes of a statement. -/
abbrev Reply := Except EngineFault Answer

/-- A full-text engine with its state. -/
structure Engine (σ : Type) where
  /-- Answer one statement. -/
  execute : String → StateM σ Reply
  /-- Say whether statements would be answered. -/
  probe : StateM σ Bool

/-- The state of an engine with the record of what it was asked. -/
structure Witnessed (σ : Type) where
  inner : σ
  /-- The statements so far, the oldest first. -/
  executed : List String
  probes : Nat

namespace Engine

variable {σ : Type}

/-- **The engine with a record of what it is asked.** -/
def witnessed (engine : Engine σ) : Engine (Witnessed σ) where
  execute statement := fun s =>
    let (reply, inner) := engine.execute statement s.inner
    (reply, { s with inner := inner, executed := s.executed ++ [statement] })
  probe := fun s =>
    let (well, inner) := engine.probe s.inner
    (well, { s with inner := inner, probes := s.probes + 1 })

/-- An engine that answers each statement by itself, the same at any time, and is always well. -/
def ofFunction (answer : String → Reply) : Engine Unit where
  execute statement := pure (answer statement)
  probe := pure true

end Engine

end Storefront
