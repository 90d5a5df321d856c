import MessageBroker.Broker.Basic

/-!
# Fan-out and retirement

A message that is published goes to every queue its route belongs to and holds a reference for each.
The references are set up before the first queue gets it, so that no worker can be faster. Each
queue gives its reference up once, and with the last one the message leaves the store: it is
retired.
-/

namespace MessageBroker.Broker

/-- Give up one reference to a message. With the last one the message is removed from the store, and
retired if that succeeds. -/
def release (b : Broker) (id : CorrelationId) : Broker :=
  let (wasLast, references) := b.references.release id
  let b := { b with references }
  if wasLast then
    match b.depot.delete id with
    | (.ok _, depot) => { b with depot }.announce (.messageRetired id)
    | (.error _, depot) => { b with depot }
  else b

/-- Put a message at the back of a queue; the answer is whether the queue takes it. -/
def enqueue (b : Broker) (k : Nat) (id : CorrelationId) : Bool × Broker :=
  match b.lanes[k]? with
  | none => (false, b)
  | some lane =>
    let (taken, queue) := lane.queue.enqueue id
    (taken, (b.modifyQueue k fun _ => queue).rouse k)

/-- Put a message back at the head of its queue. A queue that does not take it gives its reference
up. -/
def requeue (b : Broker) (k : Nat) (id : CorrelationId) : Broker :=
  match b.lanes[k]? with
  | none => b.release id
  | some lane =>
    let (taken, queue) := lane.queue.requeue id
    let b := (b.modifyQueue k fun _ => queue).rouse k
    if taken then b else b.release id

/-- Put a message on one of the queues it is meant for, and count the queue if it takes it. -/
def fanOutTo (id : CorrelationId) (progress : Nat × Broker) (k : Nat) : Nat × Broker :=
  let (count, b) := progress
  let (taken, b) := b.enqueue k id
  if taken then (count + 1, b) else (count, b.release id)

/-- Put a message on queues; the answer is how many took it. -/
def fanOut (b : Broker) (id : CorrelationId) (lanes : List Nat) : Nat × Broker :=
  lanes.foldl (fanOutTo id) (0, { b with references := b.references.setUp id lanes.length })

/-- Store a message and put it on the queues that matched when its publication began. -/
def bring (b : Broker) (m : Store.Message) (lanes : List Nat) :
    Except RequestError Nat × Broker :=
  match b.depot.add m with
  | (.error e, depot) => (.error (.store e), { b with depot })
  | (.ok (), depot) =>
    let (count, b) := { b with depot }.fanOut m.id lanes
    if count = 0 then (.error (.noMatchingQueue m.route), b)
    else (.ok count, b.announce (.messageStored m.id count))

/-- Publish a message; the answer is how many queues took it. -/
def publish (b : Broker) (m : Store.Message) : Except RequestError Nat × Broker :=
  match b.matching m.route with
  | [] => (.error (.noMatchingQueue m.route), b)
  | lanes => b.bring m lanes

/-- A publication on its own is over. -/
def finish (b : Broker) (tag : String) (result : Except RequestError Nat) : Broker :=
  { b with published := b.published ++ [(tag, result)] }

/-- Begin a publication on its own. The store may hold it up. -/
def beginPublish (b : Broker) (tag : String) (m : Store.Message) : Broker :=
  match b.matching m.route with
  | [] => b.finish tag (.error (.noMatchingQueue m.route))
  | lanes =>
    if b.depot.holdsUp then { b with heldUp := b.heldUp ++ [⟨tag, m, lanes⟩] }
    else
      let (result, b) := b.bring m lanes
      b.finish tag result

/-- Go on with a publication that the store held up. -/
def resumePublish (b : Broker) (p : Publication) : Broker :=
  let (result, b) := b.bring p.message p.lanes
  b.finish p.tag result

/-- Hold arrivals up, or let those that are held up go on, first come first served. -/
def setHoldUp (b : Broker) (holdsUp : Bool) : Broker :=
  let b := { b with depot := { b.depot with holdsUp } }
  if holdsUp then b
  else { b with heldUp := [], tasks := b.tasks ++ b.heldUp.map .resume }

/-- What a recovery did with the messages it looked at. -/
structure Recovery where
  recovered : Nat := 0
  /-- Messages that belong to no declared queue. -/
  unroutable : Nat := 0
  /-- Messages that have references. -/
  skipped : Nat := 0
deriving DecidableEq, Repr

/-- Look at one stored message: unless it has references it goes to the queues its route belongs
to. A message that has left the store meanwhile is passed over. -/
def recoverOne (b : Broker) (report : Recovery) (id : CorrelationId) :
    Except Store.Error Recovery × Broker :=
  if (b.references.outstanding id).isSome then
    (.ok { report with skipped := report.skipped + 1 }, b)
  else
    match b.depot.get? id with
    | (.error e, depot) => (.error e, { b with depot })
    | (.ok none, depot) => (.ok report, { b with depot })
    | (.ok (some m), depot) =>
      let b := { b with depot }
      match b.matching m.route with
      | [] => (.ok { report with unroutable := report.unroutable + 1 }, b)
      | lanes =>
        let (count, b) := b.fanOut id lanes
        if count = 0 then (.ok { report with unroutable := report.unroutable + 1 }, b)
        else (.ok { report with recovered := report.recovered + 1 }, b)

/-- Look at stored messages one after the other, up to the first failure of the store. -/
def recoverEach (b : Broker) (report : Recovery) :
    List CorrelationId → Except Store.Error Recovery × Broker
  | [] => (.ok report, b)
  | id :: ids =>
    match b.recoverOne report id with
    | (.error e, b) => (.error e, b)
    | (.ok report, b) => b.recoverEach report ids

/-- Look at the oldest stored messages. -/
def recover (b : Broker) : Except Store.Error Recovery × Broker :=
  match b.depot.oldest b.settings.recoveryBatchLimit with
  | (.error e, depot) => (.error e, { b with depot })
  | (.ok ids, depot) => { b with depot }.recoverEach {} ids

end MessageBroker.Broker
