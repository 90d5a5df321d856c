import MessageBroker.Settings.Reading
import MessageBroker.Time.Backoff
import MessageBroker.Wire.Frame

/-!
# Settings of the engine

The delivery engine has ten settings, all of which have defaults. Sizes and times are machine words;
times are in milliseconds.
-/

namespace MessageBroker.Settings

/-- The settings of the delivery engine. -/
structure Engine where
  /-- The largest body that is accepted, in bytes. -/
  maxBodySize : Nat := Wire.defaultBodyLimit
  /-- The first receive buffer of a connection, in bytes. -/
  initialBufferSize : Nat := 4096
  /-- The deliveries a connection may have outstanding before it asks for a ceiling of its own. -/
  defaultMaxConcurrency : Nat := 16
  /-- How long a delivery waits for its confirmation. -/
  ackTimeoutMs : Nat := 60000
  /-- The first delay of a worker that finds no free subscriber. -/
  backoffBaseMs : Nat := 1
  /-- The longest such delay. -/
  backoffMaxMs : Nat := 100
  /-- What the delay is multiplied by each time. -/
  backoffFactor : Nat := 2
  /-- Whether returns of pooled buffers are checked. -/
  poolIntegrityChecks : Bool := true
  /-- How many stored messages one recovery looks at. -/
  recoveryBatchLimit : Nat := 10000
  /-- How many events are kept for a listener that falls behind. -/
  eventCapacity : Nat := 1024
deriving DecidableEq, Repr, Inhabited

namespace Engine

/-- The names of the settings, in order. -/
def names : List String :=
  ["max_body_size", "initial_buffer_size", "default_max_concurrency", "ack_timeout_ms",
    "backoff_base_ms", "backoff_max_ms", "backoff_factor", "pool_integrity_checks",
    "recovery_batch_limit", "event_capacity"]

/-- The settings that a plain value gives. -/
def read? (r : Reading) (v : Plain) : Option Engine := do
  let given ← r.fields? names v
  let d : Engine := {}
  let word := fun place fallback => orDefault given place fallback (r.number? (Bytes.bound 8))
  let maxBodySize ← word 0 d.maxBodySize
  let initialBufferSize ← word 1 d.initialBufferSize
  let defaultMaxConcurrency ← word 2 d.defaultMaxConcurrency
  let ackTimeoutMs ← word 3 d.ackTimeoutMs
  let backoffBaseMs ← word 4 d.backoffBaseMs
  let backoffMaxMs ← word 5 d.backoffMaxMs
  let backoffFactor ← orDefault given 6 d.backoffFactor (r.number? (Bytes.bound 4))
  let poolIntegrityChecks ← orDefault given 7 d.poolIntegrityChecks r.switch?
  let recoveryBatchLimit ← word 8 d.recoveryBatchLimit
  let eventCapacity ← word 9 d.eventCapacity
  return {
    maxBodySize, initialBufferSize, defaultMaxConcurrency, ackTimeoutMs, backoffBaseMs,
    backoffMaxMs, backoffFactor, poolIntegrityChecks, recoveryBatchLimit, eventCapacity }

/-- The settings as a plain value, from which they can be read again. -/
def plain (e : Engine) : Plain :=
  .table (names.zip [.nat e.maxBodySize, .nat e.initialBufferSize, .nat e.defaultMaxConcurrency,
    .nat e.ackTimeoutMs, .nat e.backoffBaseMs, .nat e.backoffMaxMs, .nat e.backoffFactor,
    .bool e.poolIntegrityChecks, .nat e.recoveryBatchLimit, .nat e.eventCapacity])

/-- How long a delivery waits for its confirmation. -/
def ackTimeout (e : Engine) : Time.Duration :=
  Time.Duration.ofMillis e.ackTimeoutMs

/-- The delays of a worker. -/
def backoff (e : Engine) : Time.Backoff :=
  Time.Backoff.new (Time.Duration.ofMillis e.backoffBaseMs) (Time.Duration.ofMillis e.backoffMaxMs)
    e.backoffFactor

end Engine

end MessageBroker.Settings
