/-!
# Rosters

The subscribers of a queue take turns. A roster lists them in the order of registration, under their
connection ids, each of which occurs once. A selection starts at the place that the turn counter
points to and takes the first subscriber with room; every selection moves the counter on, also one
that finds nobody, as long as there is anybody to choose from.

The counter is a machine word and wraps around.
-/

namespace MessageBroker.Queue

/-- A subscriber: the number of its client record, and its connection id. -/
structure Member where
  client : Nat
  id : String
deriving DecidableEq, Repr

/-- The subscribers of a queue. -/
structure Roster where
  members : List Member
  turn : UInt64
deriving DecidableEq, Repr

/-- The complaint about a connection that is listed already. -/
def duplicateText (id : String) : String :=
  "Connection already registered: " ++ id

namespace Roster

/-- Nobody subscribes. -/
def empty : Roster := ⟨[], 0⟩

/-- Whether a connection is listed. -/
def contains (r : Roster) (id : String) : Bool :=
  r.members.any fun m => m.id == id

/-- List a connection, unless it is listed already. -/
def add? (r : Roster) (m : Member) : Option Roster :=
  if r.contains m.id then none else some { r with members := r.members ++ [m] }

/-- The roster without a connection. -/
def remove (r : Roster) (id : String) : Roster :=
  { r with members := r.members.filter fun m => m.id != id }

/-- The roster without members. -/
def clear (r : Roster) : Roster :=
  { r with members := [] }

/-- The number of members. -/
def size (r : Roster) : Nat :=
  r.members.length

/-- The first member with room. -/
def firstFree (r : Roster) (hasRoom : Nat → Bool) : Option Member :=
  r.members.find? fun m => hasRoom m.client

/-- The members in cyclic order from a place on. -/
def cycle (r : Roster) (start : Nat) : List Member :=
  r.members.drop start ++ r.members.take start

/-- The member whose turn it is: the first with room from the place of the counter on. -/
def select (r : Roster) (hasRoom : Nat → Bool) : Option Member × Roster :=
  if r.members.isEmpty then (none, r)
  else
    ((r.cycle (r.turn.toNat % r.size)).find? (fun m => hasRoom m.client),
      { r with turn := r.turn + 1 })

end Roster

end MessageBroker.Queue
