/-!
# Links

A link is the outgoing side of a connection. It may be closed for good. Otherwise it answers each
write as it likes: it says how many bytes it sent, or it refuses.
-/

namespace MessageBroker.Peer

/-- Why a write fails. -/
inductive SendError where
  | closed
  | failed (reason : String)
deriving DecidableEq, Repr

/-- The text of a failure. -/
def SendError.message : SendError → String
  | closed => "Connection closed"
  | failed reason => "Send failed: " ++ reason

/-- The answer to a write. -/
inductive Answer where
  /-- So many bytes were sent. -/
  | sent (bytes : Nat)
  | refused (e : SendError)
deriving DecidableEq, Repr

/-- Whether a write was refused. -/
def Answer.isRefusal : Answer → Bool
  | sent _ => false
  | refused _ => true

/-- The outgoing side of a connection. -/
structure Link where
  isClosed : Bool
  /-- The answers to the next writes. After them everything is sent that is written. -/
  answers : List Answer
deriving DecidableEq, Repr

namespace Link

/-- A link that sends everything. -/
def reliable : Link := ⟨false, []⟩

instance : Inhabited Link := ⟨reliable⟩

/-- A link that refuses the next `n` writes. -/
def failing (l : Link) (n : Nat) (refusal : SendError) : Link :=
  { l with answers := List.replicate n (.refused refusal) }

/-- How many of the next writes are refused. -/
def refusals (l : Link) : Nat :=
  l.answers.countP Answer.isRefusal

/-- Write so many bytes. -/
def write (l : Link) (size : Nat) : Except SendError Nat × Link :=
  if l.isClosed then (.error .closed, l)
  else
    match l.answers with
    | [] => (.ok size, l)
    | .sent bytes :: rest => (.ok bytes, { l with answers := rest })
    | .refused e :: rest => (.error e, { l with answers := rest })

/-- Close the link. -/
def close (l : Link) : Link :=
  { l with isClosed := true }

end Link

end MessageBroker.Peer
