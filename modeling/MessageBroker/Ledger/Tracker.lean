import MessageBroker.Ledger

/-!
# Tracking against the clock

A tracker is a ledger with a clock. It starts a timer for every send that is set up, and takes the
timer back when the send gets an outcome before its time is over. A timer is for one send: when it
goes off it looks under the id of the send, and leaves alone whatever else waits there by then.

A timer is a task of its own, and the clock moves whether it gets a turn or not. Its time begins with
its first turn, and it goes off at a turn at which its time is over.

Whoever set a send up holds a handle, under the ticket of the send, and may ask it for the outcome.
Handles outlive the tracker, and so do timers, which then find nothing.
-/

namespace MessageBroker

/-- A timer that was started for a send. -/
structure Timer where
  id : CorrelationId
  ticket : Nat
  /-- The time that the send has, in milliseconds. -/
  span : Nat
  /-- When this time is over, if it has begun. -/
  due : Option Nat
deriving DecidableEq, Repr

/-- When the time of a timer is over that gets a turn now. -/
def Timer.ending (timer : Timer) (now : Nat) : Nat :=
  timer.due.getD (now + timer.span)

/-- A timer whose time has begun now or before. -/
def Timer.begun (timer : Timer) (now : Nat) : Timer :=
  { timer with due := some (timer.ending now) }

/-- A ledger with its clock. -/
structure Tracker where
  ledger : Ledger
  /-- The timers that run, in the order in which they were started. -/
  timers : List Timer
  /-- Milliseconds since the start. -/
  now : Nat
  /-- The time that a send has if no other is given. -/
  allowance : Nat
  /-- The tickets whose handles have not been dropped. -/
  handles : List Nat
  isGone : Bool
deriving DecidableEq, Repr

namespace Tracker

/-- A tracker without sends. -/
def new (allowance : Nat) : Tracker := ⟨.empty, [], 0, allowance, [], false⟩

/-- Go on with another ledger. The timers of sends that have an outcome are taken back. -/
def keep (t : Tracker) (ledger : Ledger) : Tracker :=
  { t with ledger, timers := t.timers.filter fun timer => ledger.isWaiting timer.ticket }

/-- Track a send, for a given time or the usual one. -/
def setUp (t : Tracker) (id : CorrelationId) (awaitsPeer : Bool) (allowance : Option Nat) :
    Nat × Tracker :=
  let (ticket, ledger) := t.ledger.setUp id awaitsPeer
  let t := t.keep ledger
  (ticket,
    { t with
      timers := t.timers ++ [⟨id, ticket, allowance.getD t.allowance, none⟩]
      handles := t.handles ++ [ticket] })

/-- What a call about a send did, with the tracker after it. -/
def follow (t : Tracker) (call : Resolution × Ledger) : Resolution × Tracker :=
  (call.1, t.keep call.2)

/-- The peer confirmed a send. -/
def confirm (t : Tracker) (id : CorrelationId) : Resolution × Tracker :=
  t.follow (t.ledger.confirm id)

/-- The peer rejected a send. -/
def reject (t : Tracker) (id : CorrelationId) (reason : String) : Resolution × Tracker :=
  t.follow (t.ledger.reject id reason)

/-- The frame was written. -/
def written (t : Tracker) (id : CorrelationId) : Resolution × Tracker :=
  t.follow (t.ledger.written id)

/-- The frame could not be written. -/
def unwritten (t : Tracker) (id : CorrelationId) : Resolution × Tracker :=
  t.follow (t.ledger.unwritten id)

/-- Stop waiting for a send. -/
def cancel (t : Tracker) (id : CorrelationId) : Resolution × Tracker :=
  t.follow (t.ledger.cancel id)

/-- Cancel one of several sends, and count it if it was waiting. -/
def cancelNext (progress : Nat × Tracker) (id : CorrelationId) : Nat × Tracker :=
  match progress.2.cancel id with
  | (.completed, t) => (progress.1 + 1, t)
  | (_, t) => (progress.1, t)

/-- Stop waiting for all sends; the answer is how many there were. -/
def cancelAll (t : Tracker) : Nat × Tracker :=
  (t.ledger.pending.map Tracked.id).foldl cancelNext (0, t)

/-- A timer goes off. -/
def fire (t : Tracker) (timer : Timer) : Tracker :=
  match t.ledger.find? timer.id with
  | some send =>
    if send.ticket = timer.ticket then
      { t with ledger := t.ledger.settle send (some .timedOut) }
    else t
  | none => t

/-- Whether a timer goes off when the timers of certain sends get a turn. -/
def goesOff (t : Tracker) (which : Nat → Bool) (timer : Timer) : Bool :=
  which timer.ticket && timer.ending t.now ≤ t.now

/-- The timers of certain sends get a turn. Those whose time is over go off, and the time of the
others has begun by now. -/
def turn (t : Tracker) (which : Nat → Bool) : Tracker :=
  let rest := t.timers.filter fun timer => !t.goesOff which timer
  (t.timers.filter (t.goesOff which)).foldl fire { t with
    timers := rest.map fun timer => if which timer.ticket then timer.begun t.now else timer }

/-- The timer of one send gets a turn. -/
def run (t : Tracker) (ticket : Nat) : Tracker :=
  t.turn (· = ticket)

/-- All timers get a turn. -/
def settle (t : Tracker) : Tracker :=
  t.turn fun _ => true

/-- The clock moves. -/
def elapse (t : Tracker) (ms : Nat) : Tracker :=
  { t with now := t.now + ms }

/-- Let so many milliseconds pass, with a turn for all timers before and after. -/
def advance (t : Tracker) (ms : Nat) : Tracker :=
  (t.settle.elapse ms).settle

/-- Ask a handle for the outcome of its send. -/
def collect (t : Tracker) (ticket : Nat) : Option Outcome × Tracker :=
  let (outcome, ledger) := t.ledger.collect ticket
  (outcome, { t with ledger })

/-- Drop a handle. -/
def drop (t : Tracker) (ticket : Nat) : Tracker :=
  { t with handles := t.handles.filter (· ≠ ticket) }

/-- How long the send of a ticket may wait from now on. -/
def patience (t : Tracker) (ticket : Nat) : Nat :=
  match t.timers.find? fun timer => timer.ticket = ticket && t.ledger.isWaiting ticket with
  | some timer => timer.ending t.now - t.now
  | none => 0

/-- Let time pass until the send of a handle has an outcome, and drop the handle. The answer says how
long that took. -/
def await (t : Tracker) (ticket : Nat) : Option Outcome × Nat × Tracker :=
  let wait := t.patience ticket
  let (outcome, t) := (t.advance wait).collect ticket
  (outcome, wait, t.drop ticket)

/-- The tracker is given up. -/
def abandon (t : Tracker) : Tracker :=
  { t with ledger := t.ledger.abandon, isGone := true }

end Tracker

end MessageBroker
