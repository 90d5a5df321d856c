import MessageBroker.Broker.Event
import MessageBroker.Ledger
import MessageBroker.Peer.Client
import MessageBroker.Peer.Session
import MessageBroker.Queue.Basic
import MessageBroker.Queue.Name
import MessageBroker.References
import MessageBroker.Settings.Engine
import MessageBroker.Store.Depot
import MessageBroker.Wire.Body

/-!
# The state of a broker

A broker runs one activity at a time. What has to be done later stands in one line of tasks, first
come first served, and the clock moves only when nothing is left in the line. Whoever waits for a
time to come sets an alarm; alarms of one instant go off in the order in which they were set.

Each queue has a worker that moves its messages to subscribers. The two are kept together in a lane.
Lanes and client records are numbered from the start and never removed, so that a number keeps its
meaning: a queue that is deleted is closed, and a queue declared under its name afterwards has a
lane of its own.

What the outside can observe is kept in a log, latest first.
-/

namespace MessageBroker

/-- What a worker is about. -/
inductive WorkerStage where
  /-- It has a task in the line. -/
  | due
  /-- It stands before the gate of its queue. -/
  | waiting
  /-- It has stopped for good. -/
  | stopped
deriving DecidableEq, Repr

/-- A queue with its worker. -/
structure Lane where
  queue : Queue
  backoff : Time.Backoff
  stage : WorkerStage
deriving DecidableEq

/-- A message on its way to a subscriber. -/
structure Delivery where
  /-- The correlation id of the frame. -/
  id : CorrelationId
  lane : Nat
  client : Nat
  message : CorrelationId
  route : String
  payload : Bytes
deriving DecidableEq, Repr

/-- The frame of a delivery. -/
def Delivery.frame (d : Delivery) : Wire.Frame :=
  Wire.Frame.message d.id d.route d.payload

/-- A publication that runs on its own, with the lanes its route matched when it began. -/
structure Publication where
  tag : String
  message : Store.Message
  lanes : List Nat
deriving DecidableEq, Repr

/-- Something to be done later. -/
inductive Task where
  /-- The worker of a lane goes on. -/
  | work (lane : Nat)
  /-- A delivery is written to its client. -/
  | send (delivery : Delivery)
  /-- The time limit of a delivery begins. -/
  | arm (ticket : Nat)
  /-- The time limit of a delivery is over. -/
  | expire (ticket : Nat)
  /-- A delivery has an outcome. -/
  | conclude (ticket : Nat)
  | publish (tag : String) (message : Store.Message)
  /-- A publication is let into the store. -/
  | resume (publication : Publication)
deriving DecidableEq, Repr

/-- Who is called by an alarm. -/
inductive Sleeper where
  /-- The worker of a lane. -/
  | worker (lane : Nat)
  /-- The time limit of a delivery. -/
  | limit (ticket : Nat)
deriving DecidableEq, Repr

/-- A call at a set time. -/
structure Alarm where
  due : Nat
  sleeper : Sleeper
deriving DecidableEq, Repr

/-- Why a request is not granted. -/
inductive RequestError where
  | badQueueName (fault : Queue.NameError)
  | emptyPattern
  | queueConflict (name pattern : String)
  | queueNotFound (name : String)
  | notSubscribed (name : String)
  | noMatchingQueue (route : String)
  | unknownConnection (id : String)
  | alreadyRegistered (id : String)
  | store (e : Store.Error)
deriving DecidableEq, Repr

/-- The text of a refusal. -/
def RequestError.message : RequestError → String
  | badQueueName fault => "Invalid queue: " ++ fault.message
  | emptyPattern => "Invalid queue: Route pattern cannot be empty"
  | queueConflict name pattern => "Queue " ++ name ++ " already declared with route " ++ pattern
  | queueNotFound name => "Queue not found: " ++ name
  | notSubscribed name => "Not subscribed to queue: " ++ name
  | noMatchingQueue route => "No queue matches route: " ++ route
  | unknownConnection id => "Unknown connection: " ++ id
  | alreadyRegistered id => Queue.duplicateText id
  | store e => e.message

/-- Something that the outside can observe. -/
inductive Record where
  | announced (event : Event)
  /-- A frame was written to a client, whose link says that it sent so many bytes. -/
  | wrote (client : Nat) (frame : Wire.Frame) (bytes : Nat)
  /-- A frame could not be written to a client. -/
  | refused (client : Nat) (frame : Wire.Frame)
deriving DecidableEq, Repr

/-- The announcements among records. -/
def Record.events (records : List Record) : List Event :=
  records.filterMap fun
    | announced e => some e
    | _ => none

/-- A broker between two activities. -/
structure Broker where
  settings : Settings.Engine
  /-- The ids that the broker makes up, in the order of use. -/
  mint : Nat → CorrelationId
  /-- How many of them have been used. -/
  minted : Nat
  /-- Milliseconds since the start. -/
  now : Nat
  /-- The calendar time that arriving messages are stamped with, in milliseconds. -/
  calendar : Nat
  lanes : List Lane
  clients : List Peer.Client
  sessions : Table String Peer.Session
  buffers : Lease.BufferPool
  depot : Store.Depot
  ledger : Ledger
  references : References
  /-- The deliveries that have been sent and have no conclusion yet, by ticket. -/
  flights : Table Nat Delivery
  tasks : List Task
  alarms : List Alarm
  /-- The publications that the store holds up. -/
  heldUp : List Publication
  /-- The results of the publications that ran on their own. -/
  published : List (String × Except RequestError Nat)
  isShutDown : Bool
  log : List Record

namespace Broker

/-- The pool of receive buffers that settings ask for; there is none if its sizes leave the word
range. -/
def buffersFor? (settings : Settings.Engine) : Option Lease.BufferPool :=
  Lease.BufferPool.new? 0 settings.initialBufferSize
    (min (settings.maxBodySize + Wire.headerSize) (Lease.wordBound - 1))
    settings.poolIntegrityChecks

/-- One more than the largest event channel there is room for. -/
def channelBound : Nat := 0x100000000000000

/-- A broker over a store. There is none if the settings ask for sizes that cannot be had. -/
def new? (settings : Settings.Engine) (mint : Nat → CorrelationId) (calendar : Nat)
    (depot : Store.Depot) : Option Broker :=
  if channelSize settings.eventCapacity < channelBound then
    (buffersFor? settings).map fun buffers =>
      { settings, mint, minted := 0, now := 0, calendar, lanes := [], clients := [],
        sessions := .empty, buffers, depot, ledger := .empty, references := .empty,
        flights := .empty, tasks := [], alarms := [], heldUp := [], published := [],
        isShutDown := false, log := [] }
  else none

/-- Add to the log. -/
def note (b : Broker) (r : Record) : Broker :=
  { b with log := r :: b.log }

/-- Read the log, oldest first, and begin a new one. -/
def takeLog (b : Broker) : List Record × Broker :=
  (b.log.reverse, { b with log := [] })

/-- Announce an event. -/
def announce (b : Broker) (e : Event) : Broker :=
  b.note (.announced e)

/-- Put a task at the end of the line. -/
def later (b : Broker) (t : Task) : Broker :=
  { b with tasks := b.tasks ++ [t] }

/-- Put a task at the head of the line. -/
def next (b : Broker) (t : Task) : Broker :=
  { b with tasks := t :: b.tasks }

/-- Set an alarm. -/
def setAlarm (b : Broker) (due : Nat) (sleeper : Sleeper) : Broker :=
  { b with alarms := b.alarms ++ [⟨due, sleeper⟩] }

/-- Take the alarms of a sleeper back. -/
def dropAlarm (b : Broker) (sleeper : Sleeper) : Broker :=
  { b with alarms := b.alarms.filter fun a => a.sleeper ≠ sleeper }

/-- A new id. -/
def mintId (b : Broker) : CorrelationId × Broker :=
  (b.mint b.minted, { b with minted := b.minted + 1 })

/-- Change a lane. -/
def modifyLane (b : Broker) (k : Nat) (f : Lane → Lane) : Broker :=
  { b with lanes := b.lanes.modify k f }

/-- Change the queue of a lane. -/
def modifyQueue (b : Broker) (k : Nat) (f : Queue → Queue) : Broker :=
  b.modifyLane k fun lane => { lane with queue := f lane.queue }

/-- Change a client. -/
def modifyClient (b : Broker) (c : Nat) (f : Peer.Client → Peer.Client) : Broker :=
  { b with clients := b.clients.modify c f }

/-- The number and the lane of a declared queue. -/
def lane? (b : Broker) (name : String) : Option (Nat × Lane) :=
  (b.lanes.mapIdx fun k lane => (k, lane)).find? fun (_, lane) =>
    !lane.queue.isClosed && lane.queue.name == name

/-- The numbers of the declared queues that a route belongs to. -/
def matching (b : Broker) (route : String) : List Nat :=
  (b.lanes.mapIdx fun k lane => (k, lane)).filterMap fun (k, lane) =>
    if !lane.queue.isClosed && lane.queue.pattern.accepts route then some k else none

/-- The name of the queue of a lane. -/
def queueName (b : Broker) (k : Nat) : String :=
  (b.lanes[k]?.map fun lane => lane.queue.name).getD ""

/-- The connection id of a client. -/
def clientName (b : Broker) (c : Nat) : String :=
  (b.clients[c]?.map Peer.Client.id).getD ""

/-- The number of the latest client of a connection. -/
def latestClient? (b : Broker) (connection : String) : Option Nat :=
  (b.clients.reverse.findIdx? fun client => client.id == connection).map
    fun back => b.clients.length - 1 - back

/-- Whether the latest link of a connection is closed. -/
def isClosed (b : Broker) (connection : String) : Bool :=
  ((b.latestClient? connection).bind fun c => b.clients[c]?).any fun client => client.link.isClosed

/-- The frames that were written to a connection, according to records. -/
def framesTo (b : Broker) (connection : String) (records : List Record) : List Wire.Frame :=
  records.filterMap fun
    | .wrote c frame _ => if b.clientName c == connection then some frame else none
    | _ => none

/-- Whether a client has a free slot. -/
def hasRoom (b : Broker) (c : Nat) : Bool :=
  (b.clients[c]?.map Peer.Client.hasRoom).getD false

/-- Call the worker of a lane if an opening of its gate calls it. -/
def rouse (b : Broker) (k : Nat) : Broker :=
  match b.lanes[k]? with
  | some lane =>
    if lane.stage = .waiting ∧ lane.queue.gate.calling then
      ((b.modifyLane k fun lane => { lane with stage := .due }).dropAlarm (.worker k)).later
        (.work k)
    else b
  | none => b

/-- Open the gate of a lane. -/
def openGate (b : Broker) (k : Nat) : Broker :=
  (b.modifyQueue k Queue.openGate).rouse k

/-- Try to write a frame to a client. -/
def write (b : Broker) (c : Nat) (frame : Wire.Frame) : Option Peer.SendError × Broker :=
  match b.clients[c]? with
  | none => (some .closed, b)
  | some client =>
    let (result, client) := client.sendFrame frame
    let b := { b with clients := b.clients.set c client }
    match result with
    | .ok bytes => (none, b.note (.wrote c frame bytes))
    | .error e => (some e, b.note (.refused c frame))

end Broker

end MessageBroker
