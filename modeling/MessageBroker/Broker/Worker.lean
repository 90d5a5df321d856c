import MessageBroker.Broker.Delivery

/-!
# Workers

A worker closes the gate of its queue, tries to deliver, and goes on as long as it succeeds. When
nothing waits it stands before the gate until an arrival opens it; when nobody has a free slot it
also sets an alarm, each time for a longer delay. Because the gate is closed before the attempt and
not after it, an opening that comes during the attempt is not lost.

A worker that has been called, or whose alarm has gone off, finds its queue closed or goes on.
-/

namespace MessageBroker.Broker

/-- The worker of a lane stands before the gate no longer: it was let through, or it gave up its
place. -/
def stepAside (b : Broker) (k : Nat) : Broker :=
  b.modifyQueue k fun queue =>
    match queue.gate.waiter with
    | none => queue
    | some _ =>
      { queue with gate := if queue.gate.isOpen then (queue.gate.look ()).2 else queue.gate.leave }

/-- Set the stage of a worker. -/
def setStage (b : Broker) (k : Nat) (stage : WorkerStage) : Broker :=
  b.modifyLane k fun lane => { lane with stage }

/-- The worker of a lane comes to its gate. If the gate is open it goes on at once; if it has to
wait, it sets an alarm for a given time; if its place is taken, it stops. -/
def await (b : Broker) (k : Nat) (until? : Option Nat) : Broker :=
  match b.lanes[k]? with
  | none => b
  | some lane =>
    let (passage, gate) := lane.queue.gate.arrive ()
    let b := b.modifyQueue k fun queue => { queue with gate }
    match passage with
    | .passed => b.next (.work k)
    | .refused => b.setStage k .stopped
    | .suspended =>
      let b := b.setStage k .waiting
      match until? with
      | some due => b.setAlarm due (.worker k)
      | none => b

/-- The worker of a lane goes on. -/
def work (b : Broker) (k : Nat) : Broker :=
  let b := b.stepAside k
  match b.lanes[k]? with
  | none => b
  | some lane =>
    if lane.queue.isClosed then b.setStage k .stopped
    else
      let b := b.modifyQueue k fun queue => { queue with gate := queue.gate.block }
      match b.offer k with
      | (.delivered, b) =>
        (b.modifyLane k fun lane => { lane with backoff := lane.backoff.reset }).next (.work k)
      | (.idle, b) => b.await k none
      | (.saturated, b) =>
        let (delay, backoff) := lane.backoff.next
        (b.modifyLane k fun lane => { lane with backoff }).await k (some (b.now + delay.ceilMillis))

end MessageBroker.Broker
