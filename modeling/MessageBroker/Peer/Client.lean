import MessageBroker.Peer.Link
import MessageBroker.Text.Quoted
import MessageBroker.Wire.Frame

/-!
# Clients

A client is a connected peer as the queues see it. It has a number of delivery slots, shared by all
queues it consumes from, and it remembers the deliveries that occupy them.
-/

namespace MessageBroker.Peer

/-- A connected peer. -/
structure Client where
  id : String
  link : Link
  /-- The slots in use. -/
  inFlight : Nat
  /-- The slots there are. Lowering the ceiling leaves slots in use as they are. -/
  ceiling : Nat
  deliveries : List CorrelationId
deriving DecidableEq, Repr

namespace Client

/-- A client without deliveries. -/
def new (id : String) (link : Link) (ceiling : Nat) : Client :=
  ⟨id, link, 0, ceiling, []⟩

/-- Whether a slot is free. -/
def hasRoom (c : Client) : Bool :=
  c.inFlight < c.ceiling

/-- Take a slot. -/
def occupy (c : Client) : Client :=
  { c with inFlight := c.inFlight + 1 }

/-- Take a slot if one is free. -/
def reserve (c : Client) : Bool × Client :=
  if c.hasRoom then (true, c.occupy) else (false, c)

/-- Give a slot back. Without a slot in use this does nothing. -/
def release (c : Client) : Client :=
  { c with inFlight := c.inFlight - 1 }

/-- Change the number of slots. -/
def setCeiling (c : Client) (ceiling : Nat) : Client :=
  { c with ceiling }

/-- Remember a delivery. -/
def track (c : Client) (delivery : CorrelationId) : Client :=
  if delivery ∈ c.deliveries then c else { c with deliveries := c.deliveries ++ [delivery] }

/-- Forget a delivery; the answer is whether it was remembered. -/
def untrack (c : Client) (delivery : CorrelationId) : Bool × Client :=
  (delivery ∈ c.deliveries, { c with deliveries := c.deliveries.filter (· ≠ delivery) })

/-- Forget all deliveries and list them. -/
def takeDeliveries (c : Client) : List CorrelationId × Client :=
  (c.deliveries, { c with deliveries := [] })

/-- Write bytes to the peer. -/
def send (c : Client) (data : Bytes) : Except SendError Nat × Client :=
  let (result, link) := c.link.write data.length
  (result, { c with link })

/-- Write a frame to the peer. One whose length the wire format cannot express fails here, before
the link hears of it. -/
def sendFrame (c : Client) (frame : Wire.Frame) : Except SendError Nat × Client :=
  match frame.encode? with
  | .error e => (.error (.failed e.message), c)
  | .ok data => c.send data

theorem sendFrame_snd (c : Client) (frame : Wire.Frame) :
    (c.sendFrame frame).2 = { c with link := (c.sendFrame frame).2.link } := by
  unfold sendFrame
  split <;> rfl

/-- A client as shown in diagnostics. -/
def describe (c : Client) : String :=
  "Client \x7b id: ConnectionId(" ++ Text.quote c.id ++ "), in_flight: " ++ toString c.inFlight ++
    ", max_concurrency: " ++ toString c.ceiling ++ " \x7d"

end Client

end MessageBroker.Peer
