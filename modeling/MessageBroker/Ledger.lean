import MessageBroker.CorrelationId
import MessageBroker.Table

/-!
# The completion ledger

Every tracked send has exactly one outcome. The ledger keeps the sends that have none yet, by the id
of their frame, and the outcomes that nobody has collected. A ticket names one tracked send: ids may
be used again, tickets are not.

What settles a send first decides its outcome; whatever comes later finds nothing to settle.
-/

namespace MessageBroker

/-- Why a tracked send did not succeed. -/
inductive Failure where
  | rejected (reason : String)
  | sendFailed
  | timedOut
  | cancelled
deriving DecidableEq, Repr

/-- The text of a failure. -/
def Failure.message : Failure → String
  | rejected reason => "Rejected by peer: " ++ reason
  | sendFailed => "Send failed"
  | timedOut => "Acknowledgment timed out"
  | cancelled => "Cancelled"

/-- The outcome of a tracked send; no failure means success. -/
abbrev Outcome := Option Failure

/-- What a call about a tracked send did. -/
inductive Resolution where
  /-- It decided the outcome. -/
  | completed
  /-- The send waits for its peer instead. -/
  | deferred
  /-- Nothing was waiting. -/
  | alreadyCompleted
deriving DecidableEq, Repr

/-- A tracked send without an outcome. -/
structure Tracked where
  id : CorrelationId
  ticket : Nat
  /-- Whether it takes the word of the peer to succeed, or a write is enough. -/
  awaitsPeer : Bool
deriving DecidableEq, Repr

/-- All tracked sends. -/
structure Ledger where
  pending : List Tracked
  /-- How many tickets have been given. -/
  issued : Nat
  /-- The outcomes that wait to be collected, by ticket. -/
  outcomes : Table Nat Outcome
deriving DecidableEq, Repr

namespace Ledger

/-- Nothing has been tracked. -/
def empty : Ledger := ⟨[], 0, .empty⟩

/-- The send that waits under an id. -/
def find? (l : Ledger) (id : CorrelationId) : Option Tracked :=
  l.pending.find? fun t => t.id = id

/-- Whether a send waits under an id. -/
def isPending (l : Ledger) (id : CorrelationId) : Bool :=
  (l.find? id).isSome

/-- Give a send an outcome. -/
def settle (l : Ledger) (t : Tracked) (outcome : Outcome) : Ledger :=
  { l with
    pending := l.pending.filter fun other => other.ticket ≠ t.ticket
    outcomes := l.outcomes.insert t.ticket outcome }

/-- Give the send that waits under an id an outcome. -/
def resolve (l : Ledger) (id : CorrelationId) (outcome : Outcome) : Resolution × Ledger :=
  match l.find? id with
  | some t => (.completed, l.settle t outcome)
  | none => (.alreadyCompleted, l)

/-- Track a send. One that waits under the same id is cancelled. -/
def setUp (l : Ledger) (id : CorrelationId) (awaitsPeer : Bool) : Nat × Ledger :=
  let l := (l.resolve id (some .cancelled)).2
  (l.issued,
    { l with
      pending := l.pending ++ [⟨id, l.issued, awaitsPeer⟩]
      issued := l.issued + 1 })

/-- The peer confirmed a send. -/
def confirm (l : Ledger) (id : CorrelationId) : Resolution × Ledger :=
  l.resolve id none

/-- The peer rejected a send. -/
def reject (l : Ledger) (id : CorrelationId) (reason : String) : Resolution × Ledger :=
  l.resolve id (some (.rejected reason))

/-- The frame was written. That settles only a send that does not wait for its peer. -/
def written (l : Ledger) (id : CorrelationId) : Resolution × Ledger :=
  match l.find? id with
  | some t => if t.awaitsPeer then (.deferred, l) else (.completed, l.settle t none)
  | none => (.alreadyCompleted, l)

/-- The frame could not be written. -/
def unwritten (l : Ledger) (id : CorrelationId) : Resolution × Ledger :=
  l.resolve id (some .sendFailed)

/-- Stop waiting for a send. -/
def cancel (l : Ledger) (id : CorrelationId) : Resolution × Ledger :=
  l.resolve id (some .cancelled)

/-- The send of a ticket runs out of time. -/
def expire (l : Ledger) (ticket : Nat) : Ledger :=
  match l.pending.find? fun t => t.ticket = ticket with
  | some t => l.settle t (some .timedOut)
  | none => l

/-- Whether the send of a ticket has no outcome yet. -/
def isWaiting (l : Ledger) (ticket : Nat) : Bool :=
  l.pending.any fun t => t.ticket = ticket

/-- Collect the outcome of a ticket: nothing while the send waits. A ticket whose outcome has been
collected, or that lost its ledger, reads as cancelled. -/
def collect (l : Ledger) (ticket : Nat) : Option Outcome × Ledger :=
  match l.outcomes.get? ticket with
  | some outcome => (some outcome, { l with outcomes := l.outcomes.erase ticket })
  | none => (if l.isWaiting ticket then none else some (some .cancelled), l)

/-- The ledger is given up: whatever still waits never gets an outcome of its own. -/
def abandon (l : Ledger) : Ledger :=
  { l with pending := [] }

end Ledger

end MessageBroker
