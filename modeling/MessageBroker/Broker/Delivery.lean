import MessageBroker.Broker.FanOut

/-!
# Deliveries

A worker takes the message at the head of its queue, reserves a slot of a subscriber and makes a
delivery of the two. The delivery is written in a task of its own and then waits for one of four
outcomes: the peer confirms it, the peer rejects it, its time is over, or it could not be written.
In the first two cases the queue has settled the message; in the others the message goes back to the
head of the queue.
-/

namespace MessageBroker.Broker

/-- How a worker gets on. -/
inductive Progress where
  /-- It dealt with a message. -/
  | delivered
  /-- Nothing waits. -/
  | idle
  /-- Nobody has a free slot, or the store does not answer. -/
  | saturated
deriving DecidableEq, Repr

/-- Give a reserved slot back. -/
def giveSlotBack (b : Broker) (c : Nat) : Broker :=
  b.modifyClient c Peer.Client.release

/-- Send the message at the head of a queue off to a subscriber whose slot is reserved. -/
def sendOff (b : Broker) (k c : Nat) (id : CorrelationId) : Progress × Broker :=
  match b.depot.get? id with
  | (.ok (some m), depot) =>
    let (delivery, b) := { b with depot }.mintId
    (.delivered, b.later (.send ⟨delivery, k, c, id, m.route, m.payload⟩))
  | (.ok none, depot) => (.delivered, ({ b with depot }.giveSlotBack c).release id)
  | (.error _, depot) => (.saturated, ({ b with depot }.giveSlotBack c).requeue k id)

/-- One attempt of a worker to deliver. -/
def offer (b : Broker) (k : Nat) : Progress × Broker :=
  match b.lanes[k]? with
  | none => (.idle, b)
  | some lane =>
    match lane.queue.pending with
    | [] => (.idle, b)
    | id :: rest =>
      let (chosen, roster) := lane.queue.roster.select b.hasRoom
      let b := b.modifyQueue k fun queue => { queue with roster }
      match chosen with
      | none => (.saturated, b)
      | some m =>
        let b := b.modifyClient m.client Peer.Client.occupy
        let b := b.modifyQueue k fun queue => { queue with pending := rest }
        b.sendOff k m.client id

/-- The tracked send that waits under an id has an outcome. Its alarm is taken back and its
conclusion is put in the line. -/
def resolve (b : Broker) (id : CorrelationId) (outcome : Outcome) : Resolution × Broker :=
  match b.ledger.find? id with
  | none => (.alreadyCompleted, b)
  | some t =>
    (.completed,
      ({ b with ledger := b.ledger.settle t outcome }.dropAlarm (.limit t.ticket)).later
        (.conclude t.ticket))

/-- The time limit of a delivery begins, unless the delivery has an outcome already. -/
def arm (b : Broker) (ticket : Nat) : Broker :=
  if b.ledger.isWaiting ticket then b.setAlarm (b.now + b.settings.ackTimeoutMs) (.limit ticket)
  else b

/-- The time limit of a delivery is over. -/
def expire (b : Broker) (ticket : Nat) : Broker :=
  if b.ledger.isWaiting ticket then
    { b with ledger := b.ledger.expire ticket }.later (.conclude ticket)
  else b

/-- What follows from the outcome of a delivery. -/
def follow (b : Broker) (d : Delivery) : Outcome → Broker
  | none =>
    (b.announce (.messageDelivered d.message (b.queueName d.lane) (b.clientName d.client))).release
      d.message
  | some (.rejected reason) =>
    (b.announce (.deliveryFailed d.message (b.queueName d.lane) reason)).release d.message
  | some failure =>
    let b := b.announce (.deliveryFailed d.message (b.queueName d.lane) failure.message)
    if b.isShutDown then b else b.requeue d.lane d.message

/-- A delivery that has an outcome is over: its slot is free again, the worker of its queue may go
on, and the message is settled or put back. -/
def conclude (b : Broker) (ticket : Nat) : Broker :=
  match b.flights.get? ticket with
  | none => b
  | some d =>
    match b.ledger.collect ticket with
    | (none, _) => b
    | (some outcome, ledger) =>
      let b := { b with ledger, flights := b.flights.erase ticket }
      let b := b.modifyClient d.client fun client => (client.untrack d.id).2.release
      (b.openGate d.lane).follow d outcome

/-- A delivery is tracked; the answer is its ticket. -/
def launch (b : Broker) (d : Delivery) : Nat × Broker :=
  let (ticket, ledger) := b.ledger.setUp d.id true
  (ticket, ({ b with ledger, flights := b.flights.insert ticket d }.later
    (.arm ticket)).modifyClient d.client fun client => client.track d.id)

/-- A delivery that is tracked is written, or is concluded at once if that fails. -/
def dispatch (b : Broker) (d : Delivery) (ticket : Nat) : Broker :=
  match b.write d.client d.frame with
  | (none, b) => { b with ledger := (b.ledger.written d.id).2 }
  | (some _, b) => { b with ledger := (b.ledger.unwritten d.id).2 }.conclude ticket

/-- Track a delivery, in the place of one under the same id, and write it. -/
def send (b : Broker) (d : Delivery) : Broker :=
  let (ticket, b) := (b.resolve d.id (some .cancelled)).2.launch d
  b.dispatch d ticket

end MessageBroker.Broker
