import MessageBroker.Broker.FanOut

/-!
# Requests

Queues are declared and deleted, connections subscribe to them and leave them. Each request is
granted or refused with a cause, and whoever asks is told which.
-/

namespace MessageBroker.Broker

/-- Declare a queue and start its worker. A queue that is declared already with the same pattern
stays as it is. The answer is the pattern. -/
def declare (b : Broker) (name route : String) : Except RequestError Pattern × Broker :=
  match Queue.nameFault? name with
  | some fault => (.error (.badQueueName fault), b)
  | none =>
    match Pattern.ofText? route with
    | none => (.error .emptyPattern, b)
    | some pattern =>
      match b.lane? name with
      | some (_, lane) =>
        if lane.queue.pattern = pattern then (.ok pattern, b)
        else (.error (.queueConflict name lane.queue.pattern.text), b)
      | none =>
        let lane : Lane := ⟨Queue.new name pattern, b.settings.backoff, .due⟩
        (.ok pattern, { b with lanes := b.lanes ++ [lane] }.later (.work b.lanes.length))

/-- Close the queue of a lane. -/
def closeLane (b : Broker) (k : Nat) : Broker :=
  (b.modifyQueue k Queue.close).rouse k

/-- Delete a queue: its worker stops, its subscribers leave it, and every message in it gives up its
reference. -/
def delete (b : Broker) (name : String) : Except RequestError Unit × Broker :=
  match b.lane? name with
  | none => (.error (.queueNotFound name), b)
  | some (k, lane) =>
    let b := b.closeLane k
    let b := b.modifyQueue k fun queue =>
      { queue with roster := queue.roster.clear, pending := [] }
    let b := { b with sessions := b.sessions.map fun s => (s.unsubscribe name).2 }
    (.ok (), lane.queue.pending.foldl release b)

/-- Subscribe a connection to a queue. A ceiling that is asked for, but at least one, replaces that
of the connection, also if the connection is a subscriber already. -/
def subscribe (b : Broker) (id name : String) (ceiling : Option Nat) :
    Except RequestError Unit × Broker :=
  match b.sessions.get? id with
  | none => (.error (.unknownConnection id), b)
  | some session =>
    match b.lane? name with
    | none => (.error (.queueNotFound name), b)
    | some (k, lane) =>
      let b := match ceiling with
        | some n => b.modifyClient session.client fun client => client.setCeiling (max n 1)
        | none => b
      match lane.queue.roster.add? ⟨session.client, id⟩ with
      | none => (.error (.alreadyRegistered id), b)
      | some roster =>
        let b := b.modifyQueue k fun queue => { queue with roster }
        let b := { b with sessions := b.sessions.insert id (session.subscribe name).2 }
        (.ok (), b.openGate k)

/-- Take a connection off the roster of a declared queue. -/
def strike (b : Broker) (id name : String) : Broker :=
  match b.lane? name with
  | none => b
  | some (k, _) => b.modifyQueue k fun queue => { queue with roster := queue.roster.remove id }

/-- End the subscription of a connection to a queue. -/
def unsubscribe (b : Broker) (id name : String) : Except RequestError Unit × Broker :=
  match b.sessions.get? id with
  | none => (.error (.unknownConnection id), b)
  | some session =>
    match session.unsubscribe name with
    | (false, _) => (.error (.notSubscribed name), b)
    | (true, session) =>
      (.ok (), { b with sessions := b.sessions.insert id session }.strike id name)

end MessageBroker.Broker
