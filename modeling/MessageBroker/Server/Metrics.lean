import MessageBroker.Table

/-!
# Metrics

A metric is a family of series, one for each value of its label if it has one. A series comes into
being when it is first recorded, also if what is recorded is zero.
-/

namespace MessageBroker.Server

/-- A series: the name of its metric, and a label with its value. -/
structure Series where
  name : String
  label : Option (String × String) := none
deriving DecidableEq, Repr

namespace Series

/-- Connections accepted since the start. -/
def connectionsTotal : Series := { name := "courier_connections_total" }

/-- Connections that are open. -/
def connectionsActive : Series := { name := "courier_connections_active" }

/-- Bytes that came in. -/
def inboundBytes : Series :=
  { name := "courier_frames_bytes", label := some ("direction", "inbound") }

/-- Bytes that went out. -/
def outboundBytes : Series :=
  { name := "courier_frames_bytes", label := some ("direction", "outbound") }

/-- Messages accepted from publishers. -/
def messagesStored : Series := { name := "courier_messages_stored_total" }

/-- Deliveries that were confirmed, by queue. -/
def messagesDelivered (queue : String) : Series :=
  { name := "courier_messages_delivered_total", label := some ("queue", queue) }

/-- Messages that every queue has settled. -/
def messagesRetired : Series := { name := "courier_messages_retired_total" }

/-- Deliveries that were not confirmed, by queue. -/
def deliveryFailures (queue : String) : Series :=
  { name := "courier_delivery_failures_total", label := some ("queue", queue) }

/-- The sum of the numbers of queues that stored messages went to. -/
def fanOutSum : Series := { name := "courier_fan_out_queues_sum" }

/-- How many numbers that sum has. -/
def fanOutCount : Series := { name := "courier_fan_out_queues_count" }

/-- Declared queues. -/
def queuesActive : Series := { name := "courier_queues_active" }

/-- How often the time to handle incoming bytes was taken. -/
def latencyCount : Series := { name := "courier_latency_seconds_count" }

/-- Breaches of the protocol by peers. -/
def protocolErrors : Series :=
  { name := "courier_errors_total", label := some ("type", "protocol") }

/-- A character of the value of a label. -/
def labelChar (c : Char) : String :=
  if c = '\\' then "\\\\"
  else if c = '"' then "\\\""
  else if c = '\n' then "\\n"
  else String.singleton c

/-- The text of a series. -/
def text (s : Series) : String :=
  match s.label with
  | none => s.name
  | some (key, value) =>
    s.name ++ "\x7b" ++ key ++ "=\"" ++ String.join (value.toList.map labelChar) ++ "\"\x7d"

end Series

/-- The value of each series that was recorded. -/
structure Metrics where
  values : Table Series Int
deriving Repr

namespace Metrics

/-- Nothing was recorded. -/
def empty : Metrics := ⟨.empty⟩

/-- The value of a series. -/
def value (m : Metrics) (s : Series) : Int :=
  (m.values.get? s).getD 0

/-- Add to a series. -/
def add (m : Metrics) (s : Series) (amount : Int) : Metrics :=
  ⟨m.values.insert s (m.value s + amount)⟩

/-- Set a series. -/
def set (m : Metrics) (s : Series) (value : Int) : Metrics :=
  ⟨m.values.insert s value⟩

theorem value_add (m : Metrics) (s t : Series) (amount : Int) :
    (m.add s amount).value t = if t = s then m.value s + amount else m.value t := by
  unfold value add
  rw [Table.get?_insert]
  split <;> rfl

end Metrics

end MessageBroker.Server
