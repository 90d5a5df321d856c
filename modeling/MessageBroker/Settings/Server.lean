import MessageBroker.Net.Address
import MessageBroker.Settings.Engine

/-!
# Settings of the server

The server has settings for each of its parts, among them those of the delivery engine, and a list
of queues that are declared when it starts. All settings but those of such a queue have defaults.
-/

namespace MessageBroker.Settings

/-- The settings of the transport. -/
structure Transport where
  /-- The receive buffer of a connection, in bytes. -/
  readBufferSize : Nat := 8192
  maxConnections : Nat := 100000
  /-- Whether small writes are sent without delay. -/
  noDelay : Bool := true
deriving DecidableEq, Repr, Inhabited

namespace Transport

/-- The names of the settings, in order. -/
def names : List String :=
  ["read_buffer_size", "max_connections", "nodelay"]

/-- The settings that a plain value gives. -/
def read? (r : Reading) (v : Plain) : Option Transport := do
  let given ← r.fields? names v
  let d : Transport := {}
  let readBufferSize ← orDefault given 0 d.readBufferSize (r.number? (Bytes.bound 8))
  let maxConnections ← orDefault given 1 d.maxConnections (r.number? (Bytes.bound 8))
  let noDelay ← orDefault given 2 d.noDelay r.switch?
  return { readBufferSize, maxConnections, noDelay }

/-- The settings as a plain value, from which they can be read again. -/
def plain (t : Transport) : Plain :=
  .table (names.zip [.nat t.readBufferSize, .nat t.maxConnections, .bool t.noDelay])

end Transport

/-- A service on a port of its own. -/
structure Service where
  enabled : Bool
  port : Nat
deriving DecidableEq, Repr, Inhabited

namespace Service

/-- The names of the settings, in order. -/
def names : List String :=
  ["enabled", "port"]

/-- The settings that a plain value gives. -/
def read? (r : Reading) (d : Service) (v : Plain) : Option Service := do
  let given ← r.fields? names v
  let enabled ← orDefault given 0 d.enabled r.switch?
  let port ← orDefault given 1 d.port (r.number? (Bytes.bound 2))
  return { enabled, port }

/-- The settings as a plain value, from which they can be read again. -/
def plain (s : Service) : Plain :=
  .table (names.zip [.bool s.enabled, .nat s.port])

end Service

/-- A queue that is declared when the server starts. -/
structure QueueEntry where
  name : String
  route : String
deriving DecidableEq, Repr, Inhabited

namespace QueueEntry

/-- The names of the settings, in order. -/
def names : List String :=
  ["name", "route"]

/-- The queue that a plain value gives. -/
def read? (r : Reading) (v : Plain) : Option QueueEntry := do
  let given ← r.fields? names v
  let name ← required given 0 r.text?
  let route ← required given 1 r.text?
  return { name, route }

/-- The queues that a list gives. -/
def readAll? (r : Reading) : Plain → Option (List QueueEntry)
  | .array items => items.mapM (read? r)
  | _ => none

/-- The queue as a plain value, from which it can be read again. -/
def plain (q : QueueEntry) : Plain :=
  .table (names.zip [.str q.name, .str q.route])

end QueueEntry

/-- The settings of the server. -/
structure Server where
  /-- The address that all parts of the server listen on. -/
  host : String := "127.0.0.1"
  port : Nat := 7070
  broker : Engine := {}
  transport : Transport := {}
  admin : Service := ⟨true, 8081⟩
  metrics : Service := ⟨true, 9090⟩
  queues : List QueueEntry := []
deriving DecidableEq, Repr, Inhabited

namespace Server

/-- The names of the settings, in order. -/
def names : List String :=
  ["host", "port", "broker", "transport", "admin", "metrics", "queues"]

/-- The settings that a plain value gives. -/
def read? (r : Reading) (v : Plain) : Option Server := do
  let given ← r.fields? names v
  let d : Server := {}
  let host ← orDefault given 0 d.host r.text?
  let port ← orDefault given 1 d.port (r.number? (Bytes.bound 2))
  let broker ← orDefault given 2 d.broker (Engine.read? r)
  let transport ← orDefault given 3 d.transport (Transport.read? r)
  let admin ← orDefault given 4 d.admin (Service.read? r d.admin)
  let metrics ← orDefault given 5 d.metrics (Service.read? r d.metrics)
  let queues ← orDefault given 6 d.queues (QueueEntry.readAll? r)
  return { host, port, broker, transport, admin, metrics, queues }

/-- The settings as a plain value, from which they can be read again. -/
def plain (s : Server) : Plain :=
  .table (names.zip [.str s.host, .nat s.port, s.broker.plain, s.transport.plain, s.admin.plain,
    s.metrics.plain, .array (s.queues.map QueueEntry.plain)])

/-- The address of a port of the server, or what is wrong with it. -/
def address (s : Server) (port : Nat) : Except String Net.Address :=
  match Net.Address.ofText? (s.host ++ ":" ++ toString port) with
  | some a => .ok a
  | none => .error s!"Invalid host:port {s.host}:{port}"

/-- The address that connections are taken on. -/
def bindAddress (s : Server) : Except String Net.Address :=
  s.address s.port

/-- The address of the admin service. -/
def adminAddress (s : Server) : Except String Net.Address :=
  s.address s.admin.port

end Server

end MessageBroker.Settings
