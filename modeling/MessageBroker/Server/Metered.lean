import MessageBroker.Broker.Schedule
import MessageBroker.Server.Metrics

/-!
# A metered broker

The calls about connections go through a meter that counts them and the bytes that pass. What the
broker announces is counted as far as it is heard: the channel keeps only so many events between two
readings.
-/

namespace MessageBroker.Server

/-- A broker with its meter. -/
structure Metered where
  broker : Broker
  metrics : Metrics

namespace Metered

/-- A meter for a broker. -/
def new (broker : Broker) : Metered := ⟨broker, .empty⟩

/-- Register a connection. One that is refused is not counted. -/
def connect (m : Metered) (id : String) (link : Peer.Link) :
    Except Peer.SessionError Unit × Metered :=
  match m.broker.connect id link with
  | (.ok (), broker) =>
    (.ok (), ⟨broker, (m.metrics.add .connectionsTotal 1).add .connectionsActive 1⟩)
  | (.error e, broker) => (.error e, { m with broker })

/-- Forget a connection, known or not. -/
def disconnect (m : Metered) (id : String) : Metered :=
  ⟨m.broker.disconnect id, m.metrics.add .connectionsActive (-1)⟩

/-- Bytes arrive on a connection, known or not. -/
def receive (m : Metered) (id : String) (data : Bytes) :
    Except Peer.SessionError Unit × Metered :=
  let metrics := (m.metrics.add .inboundBytes data.length).add .latencyCount 1
  match m.broker.receive id data with
  | (.error (.protocol e), broker) =>
    (.error (.protocol e), ⟨broker, metrics.add .protocolErrors 1⟩)
  | (result, broker) => (result, ⟨broker, metrics⟩)

/-- Count an event. The comings and goings of connections are counted where they are called. -/
def countEvent (metrics : Metrics) : Event → Metrics
  | .connected _ | .disconnected _ => metrics
  | .messageStored _ queues =>
    ((metrics.add .messagesStored 1).add .fanOutSum queues).add .fanOutCount 1
  | .messageDelivered _ queue _ => metrics.add (.messagesDelivered queue) 1
  | .messageRetired _ => metrics.add .messagesRetired 1
  | .deliveryFailed _ queue _ => metrics.add (.deliveryFailures queue) 1

/-- Count the bytes that a link says it sent. -/
def countWrite (metrics : Metrics) : Record → Metrics
  | .wrote _ _ bytes => metrics.add .outboundBytes bytes
  | _ => metrics

/-- Read the log of the broker and count what it tells. -/
def observe (m : Metered) : List Record × Metered :=
  let (records, broker) := m.broker.takeLog
  let (_, events) := heard broker.settings.eventCapacity (Record.events records)
  (records, ⟨broker, events.foldl countEvent (records.foldl countWrite m.metrics)⟩)

/-- Record how many queues are declared. -/
def recordQueues (m : Metered) (count : Nat) : Metered :=
  { m with metrics := m.metrics.set .queuesActive count }

end Metered

end MessageBroker.Server
