/-
TransitionDiagram.Time.Debouncer: waiting for a pause.

A debouncer holds at most one deadline. Every request moves the deadline to the given quiet time
after the request, so a burst of requests has one deadline: the one of the last request. The clock
is the caller's.
-/
import TransitionDiagram.Time.Duration

namespace TransitionDiagram

/-- A quiet time and the deadline of what is pending. -/
structure Debouncer where
  quiet : Duration
  deadline : Option Duration := none
  deriving DecidableEq, Repr

namespace Debouncer

/-- The quiet time of which nothing else is said. -/
def standardQuiet : Duration := .ofMillis 300

/-- Whether something is pending. -/
def isPending (d : Debouncer) : Bool :=
  d.deadline.isSome

/-- Sets the deadline after a request, and tells whether there was one before. -/
def schedule (now : Duration) (d : Debouncer) : Bool × Debouncer :=
  (d.isPending, { d with deadline := some (now + d.quiet) })

/-- Drops the deadline, and tells whether there was one. -/
def cancel (d : Debouncer) : Bool × Debouncer :=
  (d.isPending, { d with deadline := none })

/-- Whether the deadline is reached. -/
def isDue (d : Debouncer) (now : Duration) : Bool :=
  d.deadline.any (· ≤ now)

/-- Drops the deadline if it is reached, and tells whether it is. -/
def fire (now : Duration) (d : Debouncer) : Bool × Debouncer :=
  if d.isDue now then (true, { d with deadline := none }) else (false, d)

end Debouncer

end TransitionDiagram
