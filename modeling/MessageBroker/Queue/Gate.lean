/-!
# Gates

A gate is open or closed, and at most one waiter may stand before it. Opening it calls the waiter;
an opening that finds nobody listening leaves one permit behind, however many there were. Whoever is
called looks again whether the gate is open, and goes on waiting if it has been closed meanwhile, so
neither a permit nor a call lets anybody through a closed gate.
-/

namespace MessageBroker.Queue

/-- Whoever holds the waiter's place, and whether an opening has called. -/
structure Waiter (ω : Type) where
  who : ω
  called : Bool
deriving DecidableEq, Repr

/-- A gate before which waiters of type `ω` stand. -/
structure Gate (ω : Type) where
  isOpen : Bool
  permit : Bool
  waiter : Option (Waiter ω)
deriving DecidableEq, Repr

/-- How an attempt to pass a gate goes. -/
inductive Passage where
  | passed
  | suspended
  /-- Somebody else holds the waiter's place. -/
  | refused
deriving DecidableEq, Repr

/-- The text of the complaint of a waiter who finds the place taken. -/
def concurrentWaitText : String :=
  "Gate already has a pending waiter"

namespace Gate

variable {ω : Type}

/-- A gate without a waiter. -/
def new (isOpen : Bool) : Gate ω := ⟨isOpen, false, none⟩

/-- Close the gate. -/
def block (g : Gate ω) : Gate ω :=
  { g with isOpen := false }

/-- Open the gate and call the waiter, if one listens. -/
def unblock (g : Gate ω) : Gate ω :=
  match g.waiter with
  | some ⟨who, false⟩ => { g with isOpen := true, waiter := some ⟨who, true⟩ }
  | _ => { g with isOpen := true, permit := true }

/-- Whether the waiter has been called and has not looked yet. -/
def calling (g : Gate ω) : Bool :=
  match g.waiter with
  | some w => w.called
  | none => false

/-- Come to the gate. An open gate lets everybody through; a closed one has one place before it. -/
def arrive (g : Gate ω) (who : ω) : Passage × Gate ω :=
  if g.isOpen then (.passed, g)
  else if g.waiter.isSome then (.refused, g)
  else (.suspended, { g with permit := false, waiter := some ⟨who, false⟩ })

/-- The waiter looks again. -/
def look (g : Gate ω) (who : ω) : Passage × Gate ω :=
  if g.isOpen then (.passed, { g with permit := false, waiter := none })
  else (.suspended, { g with permit := false, waiter := some ⟨who, false⟩ })

/-- The waiter gives up its place. A call it has not followed is left behind as a permit. -/
def leave (g : Gate ω) : Gate ω :=
  { g with permit := g.permit || g.calling, waiter := none }

end Gate

end MessageBroker.Queue
