import MessageBroker.CorrelationId
import MessageBroker.Table

/-!
# References

A message that was fanned out has one reference for each queue that has not settled it yet. The
release of the last one is reported, exactly once, and after it nothing is kept about the message.
-/

namespace MessageBroker

/-- How many queues have yet to settle each message. Every recorded count is positive. -/
structure References where
  counts : Table CorrelationId Nat
deriving DecidableEq, Repr

namespace References

/-- No message has references. -/
def empty : References := ⟨.empty⟩

/-- Give a message `n` references in place of those it has. -/
def setUp (r : References) (id : CorrelationId) (n : Nat) : References :=
  if n = 0 then ⟨r.counts.erase id⟩ else ⟨r.counts.insert id n⟩

/-- Release one reference; the answer is whether it was the last. -/
def release (r : References) (id : CorrelationId) : Bool × References :=
  match r.counts.get? id with
  | none => (false, r)
  | some n => if n ≤ 1 then (true, ⟨r.counts.erase id⟩) else (false, ⟨r.counts.insert id (n - 1)⟩)

/-- The references of a message, if it has any. -/
def outstanding (r : References) (id : CorrelationId) : Option Nat :=
  r.counts.get? id

/-- The number of messages that have references. -/
def size (r : References) : Nat :=
  r.counts.size

end References

end MessageBroker
