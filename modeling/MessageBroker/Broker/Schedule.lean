import MessageBroker.Broker.Connection
import MessageBroker.Broker.Worker

/-!
# The line of tasks and the clock

A broker is at rest when the line is empty and no alarm is due. `settle` brings it to rest at a
standing clock: it performs the tasks in their order and, whenever the line is empty, lets the
alarms that are due go off. `advance` lets time pass, with a stop at every alarm on the way.

Each stop of the clock is later than the one before, which bounds their number. The number of tasks
up to rest is bounded by the occurrences of messages, each of which is sent once, and by the
failures that are due, each of which costs one more attempt. A message that no frame can hold is
delivered again and again; there `settle` stops short of rest.
-/

namespace MessageBroker.Broker

/-- Perform a task. -/
def perform (b : Broker) : Task → Broker
  | .work k => b.work k
  | .send d => b.send d
  | .arm ticket => b.arm ticket
  | .expire ticket => b.expire ticket
  | .conclude ticket => b.conclude ticket
  | .publish tag m => b.beginPublish tag m
  | .resume p => b.resumePublish p

/-- Put in the line what an alarm is for. -/
def call (b : Broker) : Sleeper → Broker
  | .worker k => (b.setStage k .due).later (.work k)
  | .limit ticket => b.later (.expire ticket)

/-- Let the alarms that are due go off, in the order in which they were set. -/
def ring (b : Broker) : Broker :=
  let (due, rest) := b.alarms.partition fun a => a.due ≤ b.now
  due.foldl (fun b a => b.call a.sleeper) { b with alarms := rest }

/-- Whether an alarm is due. -/
def isRinging (b : Broker) : Bool :=
  b.alarms.any fun a => a.due ≤ b.now

/-- Whether nothing is left to do before the clock moves. -/
def isAtRest (b : Broker) : Bool :=
  b.tasks.isEmpty && !b.isRinging

/-- Perform tasks until the broker is at rest, but no more than `limit`. -/
def run : (limit : Nat) → Broker → Broker
  | 0, b => b
  | limit + 1, b =>
    match b.tasks with
    | task :: rest => run limit ({ b with tasks := rest }.perform task)
    | [] => if b.isRinging then run limit b.ring else b

/-- The messages in queues and on their way, each as often as it occurs. -/
def occurrences (b : Broker) : Nat :=
  b.lanes.foldl (fun n lane => n + lane.queue.pending.length) (b.flights.size + b.tasks.length)

/-- The failures that are due. -/
def failures (b : Broker) : Nat :=
  b.clients.foldl (fun n client => n + client.link.refusals) (b.depot.failuresOf .get)

/-- A bound on the tasks up to rest. -/
def budget (b : Broker) : Nat :=
  16 * (b.occurrences + b.failures + b.alarms.length + 1) * (b.lanes.length + 2)

/-- Bring the broker to rest. -/
def settle (b : Broker) : Broker :=
  run b.budget b

/-- The time of the next alarm. -/
def nextAlarm? (b : Broker) : Option Nat :=
  (b.alarms.map Alarm.due).min?

/-- Let time pass up to `limit`, with no more than `stops` stops. -/
def passUpTo (limit : Nat) : (stops : Nat) → Broker → Broker
  | 0, b => { b with now := limit }
  | stops + 1, b =>
    let b := b.settle
    match b.nextAlarm? with
    | some due =>
      if due ≤ limit then passUpTo limit stops { b with now := max b.now due }
      else { b with now := limit }
    | none => { b with now := limit }

/-- Let so many milliseconds pass. What falls due at the end still happens. -/
def advance (b : Broker) (ms : Nat) : Broker :=
  (passUpTo (b.now + ms) (ms + 2) b).settle

end MessageBroker.Broker
