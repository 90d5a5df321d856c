import MessageBroker.Stream.Assembler

/-!
# Sessions

A session is what is kept about a connection while it lasts: its client record, the bytes that have
arrived, and the names of the queues it consumes from.
-/

namespace MessageBroker.Peer

open Lease Wire
open MessageBroker.Stream (Assembler)

/-- Why a call about a connection fails. -/
inductive SessionError where
  | unknownConnection (id : String)
  | duplicateConnection (id : String)
  /-- The peer broke the protocol. -/
  | protocol (e : Wire.Error)
deriving DecidableEq, Repr

/-- The text of an error. -/
def SessionError.message : SessionError → String
  | unknownConnection id => "Unknown connection: " ++ id
  | duplicateConnection id => "Connection already registered: " ++ id
  | protocol e => "Protocol error: " ++ e.message

/-- What is kept about a connection. -/
structure Session where
  id : String
  /-- The number of the client record. -/
  client : Nat
  assembler : Assembler
  /-- The names of the queues that the connection consumes from, each once. -/
  subscriptions : List String
deriving DecidableEq, Repr

namespace Session

/-- Buffer bytes that arrived. -/
def feed (s : Session) (pool : BufferPool) (data : Bytes) : Session × BufferPool :=
  let (assembler, pool) := s.assembler.write pool data
  ({ s with assembler }, pool)

/-- Take the next complete frame. -/
def next (s : Session) : Except Error (Option (Frame × Session)) :=
  s.assembler.next.map fun found => found.map fun (frame, assembler) =>
    (frame, { s with assembler })

/-- The number of bytes that no frame has used up. -/
def buffered (s : Session) : Nat :=
  s.assembler.size

/-- Whether the connection consumes from a queue. -/
def isSubscribed (s : Session) (queue : String) : Bool :=
  s.subscriptions.contains queue

/-- Record a subscription; the answer is whether it is new. -/
def subscribe (s : Session) (queue : String) : Bool × Session :=
  if s.isSubscribed queue then (false, s)
  else (true, { s with subscriptions := s.subscriptions ++ [queue] })

/-- Forget a subscription; the answer is whether it was there. -/
def unsubscribe (s : Session) (queue : String) : Bool × Session :=
  (s.isSubscribed queue, { s with subscriptions := s.subscriptions.filter (· != queue) })

end Session

end MessageBroker.Peer
