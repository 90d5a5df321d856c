/-!
# Kinds of frame

A frame says in one byte what its body holds. Eight values of that byte have a meaning.
-/

namespace MessageBroker.Wire

/-- What the body of a frame holds. -/
inductive Kind where
  | message
  | ack
  | nack
  | subscribe
  | unsubscribe
  | declare
  | delete
  | ready
deriving DecidableEq, Repr, Inhabited

namespace Kind

/-- The byte that stands for a kind. -/
def tag : Kind → UInt8
  | message => 1
  | ack => 2
  | nack => 3
  | subscribe => 4
  | unsubscribe => 5
  | declare => 6
  | delete => 7
  | ready => 8

/-- The kind that a byte stands for. -/
def ofTag? (b : UInt8) : Option Kind :=
  if b = 1 then some message
  else if b = 2 then some ack
  else if b = 3 then some nack
  else if b = 4 then some subscribe
  else if b = 5 then some unsubscribe
  else if b = 6 then some declare
  else if b = 7 then some delete
  else if b = 8 then some ready
  else none

/-- The name of a kind in error texts. -/
def name : Kind → String
  | message => "Message"
  | ack => "Ack"
  | nack => "Nack"
  | subscribe => "Subscribe"
  | unsubscribe => "Unsubscribe"
  | declare => "QueueDeclare"
  | delete => "QueueDelete"
  | ready => "Ready"

/-- The text of the complaint about a byte that stands for no kind. -/
def unknownText : String :=
  "Invalid payload type"

@[simp] theorem ofTag?_tag (k : Kind) : ofTag? k.tag = some k := by
  cases k <;> rfl

theorem tag_of_ofTag? {b : UInt8} {k : Kind} (h : ofTag? b = some k) : k.tag = b := by
  unfold ofTag? at h
  repeat' split at h
  all_goals first
    | (cases h; simp_all [tag])
    | cases h

end Kind

end MessageBroker.Wire
