import Storefront.Number.Binary64
import Storefront.Span

/-!
# Trying again

An operation that may fail for a moment is tried again, after a delay that grows by a factor up to
a limit. The delay is a fractional number of seconds while it is multiplied, and is rounded to
whole nanoseconds after that; waiting takes whole milliseconds, and no longer than thirty years.

A run is described by the outcomes that its attempts would have: `Backoff.run` says which attempt
succeeded, or what the last one reported, and when each began.
-/

namespace Storefront

/-- How often an operation is tried, and how long it is waited between two attempts. -/
structure Backoff where
  initialDelay : Nat
  maxDelay : Nat
  factor : Binary64
  /-- The number of attempts, the first included; at least one is made. -/
  attempts : Nat
deriving DecidableEq

namespace Backoff

/-- The policy of first connections: five attempts within about three seconds. -/
def startup : Backoff where
  initialDelay := Span.millis 200
  maxDelay := Span.seconds 2
  factor := .ofNat 2
  attempts := 5

/-- A span as a fractional number of seconds: the whole ones and the fraction, added. -/
def secondsOf (span : Nat) : Binary64 :=
  (Binary64.ofNat (Span.wholeSeconds span)).add
    ((Binary64.ofNat (Span.restNanos span)).div (.ofNat Span.perSecond))

/-- A span times a factor, to the nearest nanosecond. -/
def scale (factor : Binary64) (span : Nat) : Nat :=
  (factor.mul (secondsOf span)).countOf Span.perSecond

/-- The delay after a delay. -/
def nextDelay (backoff : Backoff) (delay : Nat) : Nat :=
  min (scale backoff.factor delay) backoff.maxDelay

/-- The longest wait: thirty years of 365 days. -/
def longestWait : Nat :=
  Span.seconds (30 * 365 * 24 * 60 * 60)

/-- The instant after a wait, which takes whole milliseconds. -/
def wake (now delay : Nat) : Nat :=
  now + Span.millis ((min delay longestWait + Span.perMilli - 1) / Span.perMilli)

/-- How a run of attempts ended, and when each attempt began. -/
structure Run (ε : Type) where
  /-- The number of the attempt that succeeded, or the fault of the last one. -/
  result : Except ε Nat
  starts : List Nat

/-- The rest of a run at an instant, with so many attempts left after the next. The next attempt
is the one of the given number. -/
def runFrom {ε : Type} (backoff : Backoff) (outcome : Nat → Option ε) :
    Nat → Nat → Nat → Nat → Run ε
  | left, number, now, delay =>
    match outcome number with
    | none => ⟨.ok number, [now]⟩
    | some fault =>
      match left with
      | 0 => ⟨.error fault, [now]⟩
      | left + 1 =>
        let rest := runFrom backoff outcome left (number + 1) (wake now delay)
          (backoff.nextDelay delay)
        ⟨rest.result, now :: rest.starts⟩

/-- **A run of attempts**: `outcome` gives the fault of each attempt, counted from one, or `none`
for success. -/
def run {ε : Type} (backoff : Backoff) (outcome : Nat → Option ε) : Run ε :=
  runFrom backoff outcome (max backoff.attempts 1 - 1) 1 0 backoff.initialDelay

end Backoff

end Storefront
