import MessageBroker.Broker.Delivery
import MessageBroker.Broker.Request

/-!
# Connections

A connection begins with a greeting. The frames that arrive on it are handled in order, each with
its reply before the next one: a request is answered by Ack or Nack under its own id, an Ack or Nack
from the peer resolves a delivery and is not answered. A frame that breaks the protocol ends the
handling of what has arrived; it has no effect itself.

A connection that ends takes its subscriptions with it, and its deliveries count as not sent.
-/

namespace MessageBroker.Broker

open Wire

/-- Greet a client. The greeting is tracked until it is written, which is at once. -/
def greet (b : Broker) (c : Nat) : Broker :=
  let (greeting, b) := b.mintId
  let b := (b.resolve greeting (some .cancelled)).2
  let (ticket, ledger) := b.ledger.setUp greeting false
  match { b with ledger }.write c (Frame.ready greeting) with
  | (none, b) => { b with ledger := ((b.ledger.written greeting).2.collect ticket).2 }
  | (some _, b) => { b with ledger := ((b.ledger.unwritten greeting).2.collect ticket).2 }

/-- Register a connection and greet it. -/
def connect (b : Broker) (id : String) (link : Peer.Link) :
    Except Peer.SessionError Unit × Broker :=
  let (assembler, buffers) :=
    Stream.Assembler.new b.buffers b.settings.initialBufferSize b.settings.maxBodySize
  if b.sessions.contains id then
    (.error (.duplicateConnection id), { b with buffers := assembler.dispose buffers })
  else
    let c := b.clients.length
    let client := Peer.Client.new id link b.settings.defaultMaxConcurrency
    let session : Peer.Session := ⟨id, c, assembler, []⟩
    let b := { b with
      buffers
      clients := b.clients ++ [client]
      sessions := b.sessions.insert id session }
    (.ok (), (b.announce (.connected id)).greet c)

/-- Forget a connection. One that is not registered is ignored. -/
def disconnect (b : Broker) (id : String) : Broker :=
  match b.sessions.get? id with
  | none => b
  | some session =>
    let b := { b with sessions := b.sessions.erase id }
    let b := session.subscriptions.foldl (fun b name => b.strike id name) b
    let deliveries := (b.clients[session.client]?.map Peer.Client.deliveries).getD []
    let b := b.modifyClient session.client fun client => client.takeDeliveries.2
    let b := deliveries.foldl (fun b d => (b.resolve d (some .sendFailed)).2) b
    let b := { b with buffers := session.assembler.dispose b.buffers }
    b.announce (.disconnected id)

/-- Grant or refuse the request that a body makes. -/
def request (b : Broker) (connection : String) (id : CorrelationId) :
    Body → Except RequestError Unit × Broker
  | .message route payload =>
    let (result, b) := b.publish ⟨id, route, payload, some connection, b.calendar⟩
    (result.map fun _ => (), b)
  | .subscribe queue ceiling => b.subscribe connection queue (ceiling.map UInt32.toNat)
  | .unsubscribe queue => b.unsubscribe connection queue
  | .declare name route =>
    let (result, b) := b.declare name route
    (result.map fun _ => (), b)
  | .delete name => b.delete name
  | .nack _ => (.ok (), b)

/-- Answer a request. A reply that cannot be written is lost. -/
def reply (b : Broker) (c : Nat) (id : CorrelationId) : Except RequestError Unit → Broker
  | .ok () => (b.write c (Frame.ack id)).2
  | .error e => (b.write c (Frame.nack id e.message)).2

/-- The reason that a Nack from a peer gives. -/
def reasonOf (frame : Frame) : Except Wire.Error String :=
  if frame.body.isEmpty then .ok ""
  else
    match frame.bodyAs .nack with
    | .ok (.nack reason) => .ok reason
    | .ok _ => .ok ""
    | .error e => .error e

/-- Handle one frame of a connection. -/
def handle (b : Broker) (session : Peer.Session) (frame : Frame) :
    Except Wire.Error Unit × Broker :=
  match frame.kind with
  | .ack => (.ok (), (b.resolve frame.id none).2)
  | .nack =>
    match reasonOf frame with
    | .error e => (.error e, b)
    | .ok reason => (.ok (), (b.resolve frame.id (some (.rejected reason))).2)
  | .ready => (.ok (), b.reply session.client frame.id (.ok ()))
  | kind =>
    match frame.bodyAs (Shape.ofKind kind) with
    | .error e => (.error e, b)
    | .ok body =>
      let (result, b) := b.request session.id frame.id body
      (.ok (), b.reply session.client frame.id result)

/-- Handle the frames of a connection that are complete, but no more than `limit`. -/
def handleUpTo (id : String) : (limit : Nat) → Broker → Except Peer.SessionError Unit × Broker
  | 0, b => (.ok (), b)
  | limit + 1, b =>
    match b.sessions.get? id with
    | none => (.ok (), b)
    | some session =>
      match session.next with
      | .error e => (.error (.protocol e), b)
      | .ok none => (.ok (), b)
      | .ok (some (frame, session)) =>
        match { b with sessions := b.sessions.insert id session }.handle session frame with
        | (.error e, b) => (.error (.protocol e), b)
        | (.ok (), b) => handleUpTo id limit b

/-- Bytes arrive on a connection. Each complete frame takes up bytes, so there are no more frames
than bytes. -/
def receive (b : Broker) (id : String) (data : Bytes) : Except Peer.SessionError Unit × Broker :=
  match b.sessions.get? id with
  | none => (.error (.unknownConnection id), b)
  | some session =>
    let (session, buffers) := session.feed b.buffers data
    let b := { b with buffers, sessions := b.sessions.insert id session }
    handleUpTo id (session.buffered + 1) b

/-- Close all queues and connections and give up on all deliveries. Messages that nobody confirmed
stay in the store. -/
def shutDown (b : Broker) : Broker :=
  let b := { b with isShutDown := true }
  let b := (List.range b.lanes.length).foldl closeLane b
  let b := (b.ledger.pending.map Tracked.id).foldl
    (fun b id => (b.resolve id (some .cancelled)).2) b
  b.sessions.values.foldl
    (fun b session => b.modifyClient session.client fun client =>
      { client with link := client.link.close }) b

end MessageBroker.Broker
