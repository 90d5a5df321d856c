import MessageBroker.CorrelationId
import MessageBroker.Queue.Gate
import MessageBroker.Queue.Roster
import MessageBroker.Route

/-!
# Queues

A queue holds the ids of messages that wait for delivery, the roster of its subscribers and the gate
before which its worker waits. New ids go to the back, ids to be delivered again go to the front.
Every arrival opens the gate. A closed queue takes no more ids, and closing it opens the gate so
that the worker learns of it.
-/

namespace MessageBroker

/-- A queue of message ids bound to a route pattern. -/
structure Queue where
  name : String
  pattern : Pattern
  pending : List CorrelationId
  isClosed : Bool
  roster : Queue.Roster
  gate : Queue.Gate Unit
deriving DecidableEq

namespace Queue

/-- A queue without messages and subscribers, its gate closed. -/
def new (name : String) (pattern : Pattern) : Queue :=
  ⟨name, pattern, [], false, Roster.empty, Gate.new false⟩

/-- Open the gate. -/
def openGate (q : Queue) : Queue :=
  { q with gate := q.gate.unblock }

/-- Append an id; the answer is whether the queue takes it. -/
def enqueue (q : Queue) (id : CorrelationId) : Bool × Queue :=
  if q.isClosed then (false, q)
  else (true, { q with pending := q.pending ++ [id] }.openGate)

/-- Put an id back at the head; the answer is whether the queue takes it. -/
def requeue (q : Queue) (id : CorrelationId) : Bool × Queue :=
  if q.isClosed then (false, q)
  else (true, { q with pending := id :: q.pending }.openGate)

/-- Take the id at the head. -/
def pop (q : Queue) : Option CorrelationId × Queue :=
  match q.pending with
  | [] => (none, q)
  | id :: rest => (some id, { q with pending := rest })

/-- Take all ids. -/
def drain (q : Queue) : List CorrelationId × Queue :=
  (q.pending, { q with pending := [] })

/-- Refuse ids from now on. -/
def close (q : Queue) : Queue :=
  { q with isClosed := true }.openGate

end Queue

end MessageBroker
