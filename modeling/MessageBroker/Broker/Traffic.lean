import MessageBroker.Broker.Schedule

/-!
# Deliveries whose links do not answer

A link may take any length of time to write a frame. Until it answers, the task that writes a
delivery is suspended, and what follows from the outcome of the delivery waits for it too. All else
goes on: the delivery may be confirmed, or run out of time, before its link has answered.

Links answer greetings at once, and replies too: a frame that comes in behind a reply is handled by a
move of its own, which may come at any later time.
-/

namespace MessageBroker

namespace Broker

/-- The frame of a tracked send was written. That settles only a send that does not wait for its
peer. -/
def noteWritten (b : Broker) (id : CorrelationId) : Broker :=
  match (b.ledger.written id).1 with
  | .completed => (b.resolve id none).2
  | _ => b

/-- The link of a delivery answers. If the delivery has an outcome by then, it is over. -/
def takeAnswer (b : Broker) (d : Delivery) (ticket : Nat) : Broker :=
  match b.write d.client d.frame with
  | (none, b) => (b.noteWritten d.id).conclude ticket
  | (some _, b) => (b.resolve d.id (some .sendFailed)).2.conclude ticket

end Broker

/-- A broker and the deliveries whose links have not answered. -/
structure Traffic where
  broker : Broker
  /-- The tickets of these deliveries, latest first. -/
  suspended : List Nat

namespace Traffic

/-- A broker whose links have all answered. -/
def of (b : Broker) : Traffic := ⟨b, []⟩

/-- Whether a task has to wait for a link. -/
def holds (t : Traffic) : Task → Bool
  | .conclude ticket => t.suspended.contains ticket
  | _ => false

/-- The tasks that can be performed. -/
def runnable (t : Traffic) : List Task :=
  t.broker.tasks.filter fun task => !t.holds task

/-- The tasks that have to wait for links. -/
def held (t : Traffic) : List Task :=
  t.broker.tasks.filter t.holds

/-- The broker with the tasks that can be performed at the head of its line. -/
def ordered (t : Traffic) : Broker :=
  { t.broker with tasks := t.runnable ++ t.held }

/-- Perform the next task that can be performed. -/
def step (t : Traffic) : Traffic :=
  match t.runnable with
  | [] => t
  | task :: rest => { t with broker := { t.broker with tasks := rest ++ t.held }.perform task }

/-- The next task writes a delivery, and its link does not answer. A frame that cannot be encoded
does not get as far as the link. -/
def stall (t : Traffic) : Traffic :=
  match t.runnable with
  | .send d :: rest =>
    match d.frame.encode? with
    | .error _ => t
    | .ok _ =>
      let b := { t.broker with tasks := rest ++ t.held }
      let (ticket, b) := (b.resolve d.id (some .cancelled)).2.launch d
      ⟨b, ticket :: t.suspended⟩
  | _ => t

/-- The link of a suspended delivery answers. -/
def answer (t : Traffic) (ticket : Nat) : Traffic :=
  match t.broker.flights.get? ticket with
  | none => t
  | some d =>
    if t.suspended.contains ticket then
      ⟨t.broker.takeAnswer d ticket, t.suspended.erase ticket⟩
    else t

end Traffic

end MessageBroker
