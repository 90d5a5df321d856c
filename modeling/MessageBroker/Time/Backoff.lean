import MessageBroker.Time.Duration

/-!
# Growing delays

Between retries a loop waits longer each time: the delay starts at a base, is multiplied by a factor
after each use and stays at a ceiling. A factor of zero counts as one.
-/

namespace MessageBroker.Time

/-- The state of a loop that waits between retries. -/
structure Backoff where
  base : Duration
  ceiling : Duration
  factor : Nat
  current : Duration
deriving DecidableEq, Repr, Inhabited

namespace Backoff

/-- A loop that has not waited yet. -/
def new (base ceiling : Duration) (factor : Nat) : Backoff :=
  ⟨base, ceiling, max factor 1, base.min ceiling⟩

/-- The delay to wait now, and the loop after it. -/
def next (b : Backoff) : Duration × Backoff :=
  (b.current,
    { b with current := ((b.current.times? b.factor).getD b.ceiling).min b.ceiling })

/-- Start again from the base. -/
def reset (b : Backoff) : Backoff :=
  { b with current := b.base.min b.ceiling }

/-- The first `n` delays. -/
def delays : Nat → Backoff → List Duration
  | 0, _ => []
  | n + 1, b => b.next.1 :: delays n b.next.2

end Backoff

end MessageBroker.Time
