import MessageBroker.Queue.Gate

/-!
# A crowd before a gate

Visitors come to one gate, each in a turn of its own, and turns are taken in the order in which they
fall due. A visitor whose turn comes for the first time tries to pass; one who is suspended stands
before the gate until an opening calls, until it has waited as long as it is willing to, or until it
is sent away. A visitor who is sent away learns of it at its next turn.

Only one visitor can stand before the gate, so at most one is waiting for its time to run out.
-/

namespace MessageBroker.Queue

/-- How a visit ends. -/
inductive Ending where
  | passed
  | refused
  | timedOut
  | sentAway
deriving DecidableEq, Repr

/-- How far a visit has got. -/
inductive Stage where
  /-- The visitor has not come to the gate yet. -/
  | coming
  /-- It stands before the gate, until the given time if there is one. -/
  | standing (until? : Option Nat)
  | over (how : Ending)
deriving DecidableEq, Repr

/-- One visit to the gate. -/
structure Visit where
  tag : String
  /-- How long the visitor is willing to stand, in milliseconds. -/
  patience : Option Nat
  stage : Stage
  isSentAway : Bool
deriving DecidableEq, Repr

/-- How a visit ended, if it did. -/
def Visit.ending? (v : Visit) : Option Ending :=
  match v.stage with
  | .over how => some how
  | _ => none

/-- A gate, its visitors by number, and the turns that are due. -/
structure Crowd where
  gate : Gate Nat
  now : Nat
  visits : List Visit
  turns : List Nat
deriving DecidableEq, Repr

namespace Crowd

/-- A gate that nobody has come to. -/
def new (isOpen : Bool) : Crowd :=
  ⟨Gate.new isOpen, 0, [], []⟩

/-- Give a visitor a turn, unless one is due. -/
def call (c : Crowd) (n : Nat) : Crowd :=
  if n ∈ c.turns then c else { c with turns := c.turns ++ [n] }

/-- Somebody sets out for the gate. -/
def come (c : Crowd) (tag : String) (patience : Option Nat) : Crowd :=
  let visit : Visit := ⟨tag, patience, .coming, false⟩
  { c with visits := c.visits ++ [visit] }.call c.visits.length

/-- Close the gate. -/
def block (c : Crowd) : Crowd :=
  { c with gate := c.gate.block }

/-- Open the gate. -/
def unblock (c : Crowd) : Crowd :=
  let c := { c with gate := c.gate.unblock }
  match c.gate.waiter with
  | some w => c.call w.who
  | none => c

/-- Send the latest visitor of a name away, unless its visit is over. -/
def sendAway (c : Crowd) (tag : String) : Crowd :=
  match c.visits.reverse.findIdx? fun v => v.tag == tag with
  | none => c
  | some back =>
    let n := c.visits.length - 1 - back
    match (c.visits[n]?).bind Visit.ending? with
    | some _ => c
    | none => { c with visits := c.visits.modify n fun v => { v with isSentAway := true } }.call n

/-- Record how far a visit has got. -/
def setStage (c : Crowd) (n : Nat) (stage : Stage) : Crowd :=
  { c with visits := c.visits.modify n fun v => { v with stage } }

/-- What an attempt to pass makes of a visit that may stand until a given time. -/
def follow (c : Crowd) (n : Nat) (until? : Option Nat) (attempt : Passage × Gate Nat) : Crowd :=
  let c := { c with gate := attempt.2 }
  match attempt.1 with
  | .passed => c.setStage n (.over .passed)
  | .refused => c.setStage n (.over .refused)
  | .suspended =>
    if until?.any (· ≤ c.now) then { c with gate := c.gate.leave }.setStage n (.over .timedOut)
    else c.setStage n (.standing until?)

/-- A visitor takes its turn. -/
def turn (c : Crowd) (n : Nat) : Crowd :=
  match c.visits[n]? with
  | none => c
  | some v =>
    match v.stage with
    | .over _ => c
    | .coming =>
      if v.isSentAway then c.setStage n (.over .sentAway)
      else c.follow n (v.patience.map (c.now + ·)) (c.gate.arrive n)
    | .standing until? =>
      if v.isSentAway then { c with gate := c.gate.leave }.setStage n (.over .sentAway)
      else if c.gate.calling then c.follow n until? (c.gate.look n)
      else if until?.any (· ≤ c.now) then
        { c with gate := c.gate.leave }.setStage n (.over .timedOut)
      else c

/-- All turns that are due. No turn makes another one fall due. -/
def settle (c : Crowd) : Crowd :=
  c.turns.foldl turn { c with turns := [] }

/-- The number of the visitor whose time runs out by `limit`, and when it does. -/
def runningOut? (c : Crowd) (limit : Nat) : Option (Nat × Nat) :=
  (c.visits.mapIdx fun n v => (n, v)).findSome? fun (n, v) =>
    match v.stage with
    | .standing (some due) => if due ≤ limit then some (n, due) else none
    | _ => none

/-- Time passes, after all turns that are due. -/
def advance (c : Crowd) (ms : Nat) : Crowd :=
  let c := c.settle
  let limit := c.now + ms
  match c.runningOut? limit with
  | some (n, due) => { ({ c with now := due }.call n).settle with now := limit }
  | none => { c with now := limit }

/-- The names of those whose visits are not over. -/
def present (c : Crowd) : List String :=
  (c.visits.filter fun v => v.ending?.isNone).map Visit.tag

/-- How visits ended, by name. -/
def endings (c : Crowd) : List (String × Ending) :=
  c.visits.filterMap fun v => v.ending?.map fun how => (v.tag, how)

end Crowd

end MessageBroker.Queue
