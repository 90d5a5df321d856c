import MessageBroker.Table

/-!
# Lease pools

A pool hands out items and takes them back for reuse. Each item that is out carries a tag with the
pool it came from and the number of its lease, so a pool that checks its returns can tell an item it
never handed out, and a second return of the same lease, from a proper return.

Idle items are reused in the order in which they came back. A returned item is wiped before it
waits for its next use, and is let go if enough others wait already.
-/

namespace MessageBroker.Lease

/-- Which lease of which pool an item is out on. -/
structure Tag where
  pool : Nat
  lease : Nat
deriving DecidableEq, Repr

/-- An item with the tag of its latest lease; one that never was in a pool has none. -/
structure Leased (α : Type) where
  item : α
  tag : Option Tag
deriving DecidableEq, Repr

/-- Why a pool refuses a return. -/
inductive Violation where
  | returnedTwice
  | notFromPool
deriving DecidableEq, Repr

/-- The text of a refusal. -/
def Violation.reason : Violation → String
  | returnedTwice => "instance returned twice"
  | notFromPool => "instance was not rented from this pool"

/-- How a pool behaves. -/
structure Options where
  /-- How many idle items are kept. -/
  maxIdle : Nat := 256
  /-- Whether returns are checked against the leases that are out. -/
  checks : Bool := true
deriving DecidableEq, Repr

/-- A pool of items of one type. -/
structure Pool (α : Type) where
  id : Nat
  options : Options
  /-- The items waiting to be reused, the one that waited longest first. -/
  idle : List (Leased α)
  /-- How many items the pool has made. -/
  created : Nat
  /-- How many leases the pool has given. -/
  leases : Nat
  /-- The leases that are out, as far as the pool keeps track of them. -/
  out : List Nat
deriving DecidableEq, Repr

namespace Pool

variable {α : Type}

/-- A pool that has handed out nothing yet. -/
def new (id : Nat) (options : Options) : Pool α :=
  ⟨id, options, [], 0, 0, []⟩

/-- Give an item a new lease. -/
def stamp (p : Pool α) (item : α) : Leased α × Pool α :=
  let lease := p.leases + 1
  (⟨item, some ⟨p.id, lease⟩⟩,
    { p with leases := lease, out := if p.options.checks then p.out ++ [lease] else p.out })

/-- Hand out an item: an idle one if there is any, else a newly made one. -/
def rent (p : Pool α) (make : α) : Leased α × Pool α :=
  match p.idle with
  | [] => { p with created := p.created + 1 }.stamp make
  | waiting :: rest => { p with idle := rest }.stamp waiting.item

/-- Hand out an item where a new one may fail to be made. The attempt counts all the same. -/
def rent? (p : Pool α) (make? : Option α) : Option (Leased α) × Pool α :=
  match p.idle, make? with
  | [], none => (none, { p with created := p.created + 1 })
  | [], some make =>
    let (leased, p) := { p with created := p.created + 1 }.stamp make
    (some leased, p)
  | waiting :: rest, _ =>
    let (leased, p) := { p with idle := rest }.stamp waiting.item
    (some leased, p)

/-- Keep an item for reuse unless enough are kept. -/
def shelve (p : Pool α) (leased : Leased α) : Pool α :=
  if p.idle.length < p.options.maxIdle then { p with idle := p.idle ++ [leased] } else p

/-- The lease under which the pool may accept an item. A pool that does not check accepts any. -/
def accept (p : Pool α) (tag : Option Tag) : Except Violation (Pool α) :=
  if !p.options.checks then .ok p
  else match tag with
    | some t =>
      if t.pool ≠ p.id then .error .notFromPool
      else if t.lease ∈ p.out then .ok { p with out := p.out.erase t.lease }
      else .error .returnedTwice
    | none => .error .notFromPool

/-- Take an item back, wiping it with `reset`. A refusal leaves the pool as it is. -/
def giveBack (p : Pool α) (reset : α → α) (leased : Leased α) : Except Violation (Pool α) :=
  (p.accept leased.tag).map fun p => p.shelve ⟨reset leased.item, leased.tag⟩

/-- How many items wait for reuse. -/
def available (p : Pool α) : Nat :=
  p.idle.length

/-- How many leases are out, if the pool keeps track. -/
def outstanding (p : Pool α) : Option Nat :=
  if p.options.checks then some p.out.length else none

end Pool

end MessageBroker.Lease
