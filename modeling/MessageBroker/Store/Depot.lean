import MessageBroker.Store.Message

/-!
# The depot

The depot is the message store as the engine sees it: a service with four calls. A call may fail
because the service is not available, and then it does nothing. An arrival may be held up; what is
held up is told to wait by whoever brings it.
-/

namespace MessageBroker.Store

/-- The calls of the service. -/
inductive Call where
  | add
  | get
  | delete
  | pending
deriving DecidableEq, Repr

/-- The name of a call. -/
def Call.name : Call → String
  | add => "add"
  | get => "get"
  | delete => "delete"
  | pending => "pending"

/-- The store and how it is going to behave. -/
structure Depot where
  messages : Messages
  /-- How many of the next uses of each call fail. -/
  failures : Table Call Nat
  /-- Whether arrivals are held up. -/
  holdsUp : Bool
deriving DecidableEq, Repr

namespace Depot

/-- A store without messages that works. -/
def empty : Depot := ⟨.empty, .empty, false⟩

/-- A depot with certain messages that works. -/
def holding (messages : Messages) : Depot := ⟨messages, .empty, false⟩

/-- Make the next `n` uses of a call fail. -/
def failNext (d : Depot) (call : Call) (n : Nat) : Depot :=
  { d with failures := d.failures.insert call n }

/-- How many of the next uses of a call fail. -/
def failuresOf (d : Depot) (call : Call) : Nat :=
  (d.failures.get? call).getD 0

/-- Use a call: it fails if it is due to fail, and else does what it is for. -/
def use {α : Type} (d : Depot) (call : Call)
    (work : Messages → Except Error α × Messages) : Except Error α × Depot :=
  match d.failuresOf call with
  | 0 =>
    let (answer, messages) := work d.messages
    (answer, { d with messages })
  | n + 1 => (.error (.unavailable call.name), d.failNext call n)

/-- Store a message. -/
def add (d : Depot) (m : Message) : Except Error Unit × Depot :=
  d.use .add fun s =>
    match s.add m with
    | .ok s => (.ok (), s)
    | .error e => (.error e, s)

/-- Look a message up. -/
def get? (d : Depot) (id : CorrelationId) : Except Error (Option Message) × Depot :=
  d.use .get fun s => (.ok (s.get? id), s)

/-- Remove a message. -/
def delete (d : Depot) (id : CorrelationId) : Except Error Bool × Depot :=
  d.use .delete fun s => (.ok (s.delete id).1, (s.delete id).2)

/-- List the ids of the oldest messages. -/
def oldest (d : Depot) (limit : Nat) : Except Error (List CorrelationId) × Depot :=
  d.use .pending fun s => (.ok (s.oldest limit), s)

end Depot

end MessageBroker.Store
