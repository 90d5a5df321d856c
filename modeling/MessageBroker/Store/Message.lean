import MessageBroker.CorrelationId
import MessageBroker.Table

/-!
# Stored messages

A message is stored under its id before it is fanned out and stays until every queue has settled it.
Messages that wait are listed oldest first, those of one instant by id.
-/

namespace MessageBroker.Store

/-- A published message. -/
structure Message where
  id : CorrelationId
  route : String
  payload : Bytes
  /-- The connection that published it, if one did. -/
  source : Option String
  /-- When it was accepted, in milliseconds of the calendar clock. -/
  timestamp : Nat
deriving DecidableEq, Repr

/-- Why a store does not do what it is asked. -/
inductive Error where
  /-- The service behind the store failed a call of this name. -/
  | unavailable (call : String)
  | duplicate (id : CorrelationId)
deriving DecidableEq, Repr

/-- The text of an error. -/
def Error.message : Error → String
  | unavailable call => "Store unavailable: " ++ call
  | duplicate id => "Duplicate message id: " ++ id.text

/-- Messages by id. -/
structure Messages where
  byId : Table CorrelationId Message
deriving DecidableEq, Repr

namespace Messages

/-- Nothing is stored. -/
def empty : Messages := ⟨.empty⟩

/-- Store a message under an id that is free. -/
def add (s : Messages) (m : Message) : Except Error Messages :=
  if s.byId.contains m.id then .error (.duplicate m.id) else .ok ⟨s.byId.insert m.id m⟩

/-- The message with an id. -/
def get? (s : Messages) (id : CorrelationId) : Option Message :=
  s.byId.get? id

/-- Remove a message; the answer is whether it was there. -/
def delete (s : Messages) (id : CorrelationId) : Bool × Messages :=
  (s.byId.contains id, ⟨s.byId.erase id⟩)

/-- Whether `a` is listed before `b`. -/
def older (a b : Message) : Bool :=
  a.timestamp < b.timestamp || (a.timestamp == b.timestamp && a.id.le b.id)

/-- The ids of the `limit` oldest messages. -/
def oldest (s : Messages) (limit : Nat) : List CorrelationId :=
  ((s.byId.values.mergeSort older).map Message.id).take limit

/-- The number of messages. -/
def size (s : Messages) : Nat :=
  s.byId.size

end Messages

end MessageBroker.Store
