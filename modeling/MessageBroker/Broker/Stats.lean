import MessageBroker.Broker.Basic

/-!
# Statistics

The state of a broker in numbers.
-/

namespace MessageBroker

/-- A declared queue in numbers. -/
structure QueueStats where
  name : String
  pattern : String
  /-- The messages that wait for delivery. -/
  pending : Nat
  subscribers : Nat
deriving DecidableEq, Repr

/-- A broker in numbers. -/
structure BrokerStats where
  /-- The declared queues by name. -/
  queues : List QueueStats
  sessions : Nat
  /-- The sends that wait for an outcome. -/
  pendingAcks : Nat
  /-- The messages that have references. -/
  outstandingMessages : Nat
deriving DecidableEq, Repr

/-- The numbers of a queue as a plain value. -/
def QueueStats.plain (q : QueueStats) : Plain :=
  .table [("name", .str q.name), ("pattern", .str q.pattern), ("pending", .nat q.pending),
    ("subscribers", .nat q.subscribers)]

/-- The numbers of a broker as a plain value. -/
def BrokerStats.plain (s : BrokerStats) : Plain :=
  .table [("queues", .array (s.queues.map QueueStats.plain)), ("sessions", .nat s.sessions),
    ("pending_acks", .nat s.pendingAcks), ("outstanding_messages", .nat s.outstandingMessages)]

namespace Broker

/-- The declared queues. -/
def declared (b : Broker) : List Queue :=
  (b.lanes.map Lane.queue).filter fun queue => !queue.isClosed

/-- The statistics of a broker. -/
def stats (b : Broker) : BrokerStats :=
  let queues := b.declared.map fun queue =>
    ⟨queue.name, queue.pattern.text, queue.pending.length, queue.roster.size⟩
  { queues := queues.mergeSort fun x y => x.name ≤ y.name
    sessions := b.sessions.size
    pendingAcks := b.ledger.pending.length
    outstandingMessages := b.references.size }

end Broker

end MessageBroker
