/-!
# Spans of time

Timeouts, lifetimes and instants are whole numbers of nanoseconds. An instant is the span since
the clock was started.
-/

namespace Storefront.Span

/-- A thousand million nanoseconds make a second. -/
def perSecond : Nat := 1000000000

/-- A million nanoseconds make a millisecond. -/
def perMilli : Nat := 1000000

/-- A span of whole seconds. -/
def seconds (n : Nat) : Nat := n * perSecond

/-- A span of whole milliseconds. -/
def millis (n : Nat) : Nat := n * perMilli

/-- The whole seconds of a span. -/
def wholeSeconds (span : Nat) : Nat := span / perSecond

/-- The nanoseconds of a span beyond its whole seconds. -/
def restNanos (span : Nat) : Nat := span % perSecond

/-- The whole milliseconds of a span beyond its whole seconds. -/
def restMillis (span : Nat) : Nat := restNanos span / perMilli

end Storefront.Span
