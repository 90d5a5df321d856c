/-!
# Lengths of time

A length of time is a whole number of nanoseconds below a fixed bound: whole seconds fill a machine
word. Multiplication that would pass the bound is refused.
-/

namespace MessageBroker.Time

/-- A length of time in nanoseconds. -/
structure Duration where
  nanos : Nat
deriving DecidableEq, Repr, Inhabited

namespace Duration

/-- The nanoseconds of one second. -/
def second : Nat := 1000000000

/-- One more than the longest time in nanoseconds. -/
def bound : Nat := 0x10000000000000000 * second

/-- So many seconds and nanoseconds. -/
def ofParts (seconds nanos : Nat) : Duration :=
  ⟨seconds * second + nanos⟩

/-- So many milliseconds. -/
def ofMillis (ms : Nat) : Duration :=
  ⟨ms * 1000000⟩

/-- The whole seconds. -/
def seconds (d : Duration) : Nat :=
  d.nanos / second

/-- The nanoseconds after the whole seconds. -/
def subsecond (d : Duration) : Nat :=
  d.nanos % second

/-- The milliseconds a sleeper waits: a begun millisecond counts. -/
def ceilMillis (d : Duration) : Nat :=
  (d.nanos + 999999) / 1000000

/-- The shorter of two lengths. -/
def min (a b : Duration) : Duration :=
  if a.nanos ≤ b.nanos then a else b

/-- A multiple, unless it is too long. -/
def times? (d : Duration) (n : Nat) : Option Duration :=
  if d.nanos * n < bound then some ⟨d.nanos * n⟩ else none

end Duration

end MessageBroker.Time
