import MessageBroker.Bytes
import MessageBroker.Lease.Pool

/-!
# Pooled buffers

A buffer is a run of bytes of fixed size. Buffers are pooled by size: the classes of a buffer pool
are consecutive powers of two, and a request is served from the smallest class that is large enough.
A request beyond the largest class gets a buffer of exactly its size, which belongs to no pool and
is simply let go when it is given back.

Sizes are machine words. Building the classes fails where a size leaves the word range. Half of this
range is the most that a single buffer can take up, so a class may be built whose buffers cannot be
made, and a request that needs such a buffer fails.
-/

namespace MessageBroker.Lease

/-- One more than the largest size a machine word can hold. -/
def wordBound : Nat := 0x10000000000000000

/-- One more than the largest block that can be allocated. -/
def allocationBound : Nat := 0x8000000000000000

/-- A run of `capacity` bytes. Those after `stored` have never been written and are zero. -/
structure Buffer where
  capacity : Nat
  stored : Bytes
deriving DecidableEq, Repr

namespace Buffer

/-- A buffer of zeros. -/
def zeros (capacity : Nat) : Buffer := ⟨capacity, []⟩

/-- A newly allocated buffer, if there can be one of this size. -/
def allocate? (capacity : Nat) : Option Buffer :=
  if capacity < allocationBound then some (zeros capacity) else none

instance : Inhabited Buffer := ⟨zeros 0⟩

/-- `count` bytes from place `start` on. -/
def read (b : Buffer) (start count : Nat) : Bytes :=
  let found := (b.stored.drop start).take count
  found ++ List.replicate (min count (b.capacity - start) - found.length) 0

/-- Put `data` at place `start`. -/
def write (b : Buffer) (start : Nat) (data : Bytes) : Buffer :=
  let before := b.stored.take start
  { b with
    stored := before ++ List.replicate (start - before.length) 0 ++ data ++
      b.stored.drop (start + data.length) }

end Buffer

/-- The least power of two that is at least `n`, unless it leaves the word range. -/
def powerAtLeast? (n : Nat) : Option Nat :=
  let p := if n ≤ 1 then 1 else 1 <<< (Nat.log2 (n - 1) + 1)
  if p < wordBound then some p else none

/-- Why a buffer pool refuses a return. -/
inductive BufferViolation where
  | ofClass (v : Violation)
  | notFromPools
deriving DecidableEq, Repr

/-- The text of a refusal. -/
def BufferViolation.reason : BufferViolation → String
  | ofClass v => v.reason
  | notFromPools => "buffer was not rented from this pool"

/-- A size and the pool of buffers that have it. -/
structure SizeClass where
  size : Nat
  pool : Pool Buffer
deriving DecidableEq, Repr

/-- How many idle buffers each class keeps. -/
def classMaxIdle : Nat := 64

/-- Pools of buffers by size. -/
structure BufferPool where
  least : Nat
  classes : List SizeClass
  checks : Bool
deriving DecidableEq, Repr

namespace BufferPool

/-- The sizes from `size` on, doubled until one reaches `most`. No more than `steps` doublings are
tried; one that leaves the word range makes the whole fail. -/
def sizes? (most : Nat) : (steps : Nat) → (size : Nat) → Option (List Nat)
  | 0, _ => none
  | steps + 1, size =>
    if most ≤ size then some [size]
    else if size * 2 < wordBound then (sizes? most steps (size * 2)).map (size :: ·)
    else none

/-- Pools for sizes from `least` up to at least `most`. The pool of the first class has the number
`firstId`, and each next class the next number. -/
def new? (firstId least most : Nat) (checks : Bool) : Option BufferPool :=
  (powerAtLeast? (max least 64)).bind fun start =>
    (sizes? most 64 start).map fun sizes =>
      { least := start
        classes := sizes.mapIdx fun i size => ⟨size, Pool.new (firstId + i) ⟨classMaxIdle, checks⟩⟩
        checks }

/-- The place of the smallest class for buffers of `capacity` bytes. -/
def classFor? (p : BufferPool) (capacity : Nat) : Option Nat :=
  (powerAtLeast? (max capacity p.least)).bind fun size =>
    let i := Nat.log2 (size / p.least)
    if i < p.classes.length then some i else none

/-- Hand out a buffer of at least `capacity` bytes, allocation being no concern. -/
def rent (p : BufferPool) (capacity : Nat) : Leased Buffer × BufferPool :=
  match (p.classFor? capacity).bind fun i => p.classes[i]?.map (i, ·) with
  | some (i, c) =>
    let (buffer, pool) := c.pool.rent (Buffer.zeros c.size)
    (buffer, { p with classes := p.classes.set i { c with pool } })
  | none => (⟨Buffer.zeros capacity, none⟩, p)

/-- Hand out a buffer of at least `capacity` bytes, if one waits or can be allocated. -/
def rent? (p : BufferPool) (capacity : Nat) : Option (Leased Buffer) × BufferPool :=
  match (p.classFor? capacity).bind fun i => p.classes[i]?.map (i, ·) with
  | some (i, c) =>
    let (buffer, pool) := c.pool.rent? (Buffer.allocate? c.size)
    (buffer, { p with classes := p.classes.set i { c with pool } })
  | none => ((Buffer.allocate? capacity).map (⟨·, none⟩), p)

/-- Take a buffer back into the class it came from. -/
def giveBack (p : BufferPool) (buffer : Leased Buffer) : Except BufferViolation BufferPool :=
  match buffer.tag with
  | none => .ok p
  | some tag =>
    match p.classes.findIdx? (fun c => c.pool.id = tag.pool) with
    | some i =>
      match p.classes[i]? with
      | some c =>
        match c.pool.giveBack id buffer with
        | .ok pool => .ok { p with classes := p.classes.set i { c with pool } }
        | .error v => .error (.ofClass v)
      | none => .ok p
    | none => if p.checks then .error .notFromPools else .ok p

/-- The largest size that is pooled. -/
def maxPooledSize (p : BufferPool) : Nat :=
  match p.classes.getLast? with
  | some c => c.size
  | none => p.least

end BufferPool

end MessageBroker.Lease
