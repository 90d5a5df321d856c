import MessageBroker.CorrelationId
import MessageBroker.Plain

/-!
# Events

A broker announces what happens to connections and messages. Announcements go through a channel of
limited size: a listener that reads too late misses the oldest ones and learns how many those were.
-/

namespace MessageBroker

/-- An announcement. -/
inductive Event where
  | connected (connection : String)
  | disconnected (connection : String)
  | messageStored (id : CorrelationId) (queues : Nat)
  | messageDelivered (id : CorrelationId) (queue connection : String)
  | messageRetired (id : CorrelationId)
  | deliveryFailed (id : CorrelationId) (queue reason : String)
deriving DecidableEq, Repr

namespace Event

/-- The name of a sort of event. -/
def name : Event → String
  | connected _ => "connected"
  | disconnected _ => "disconnected"
  | messageStored .. => "message_stored"
  | messageDelivered .. => "message_delivered"
  | messageRetired _ => "message_retired"
  | deliveryFailed .. => "delivery_failed"

/-- The parts of an event by name. -/
def parts : Event → List (String × Plain)
  | connected connection | disconnected connection => [("connection", .str connection)]
  | messageStored id queues => [("id", .str id.text), ("matches", .nat queues)]
  | messageDelivered id queue connection =>
    [("id", .str id.text), ("queue", .str queue), ("connection", .str connection)]
  | messageRetired id => [("id", .str id.text)]
  | deliveryFailed id queue reason =>
    [("id", .str id.text), ("queue", .str queue), ("reason", .str reason)]

/-- An event as a plain value. -/
def plain (e : Event) : Plain :=
  .table (("type", .str e.name) :: e.parts)

end Event

/-- How many events a channel of a requested size holds: the next power of two. -/
def channelSize (requested : Nat) : Nat :=
  if requested ≤ 1 then 1 else 1 <<< (Nat.log2 (requested - 1) + 1)

/-- What a listener gets that reads `events` at once: how many it missed, and the others. -/
def heard (requested : Nat) (events : List Event) : Nat × List Event :=
  let missed := events.length - channelSize requested
  (missed, events.drop missed)

end MessageBroker
