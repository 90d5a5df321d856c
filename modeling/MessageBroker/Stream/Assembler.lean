import MessageBroker.Lease.Buffer
import MessageBroker.Wire.Frame

/-!
# Assembling frames from a stream

Bytes arrive in pieces that have nothing to do with frames. An assembler keeps those that have
arrived and not been used in one pooled buffer, between a read mark and a write mark:

    0 .. consumed .. readMark .. unread .. writeMark .. free .. capacity

Before a write, the unread bytes are moved to the front if the consumed part has reached half of
the buffer; if the write still does not fit, a buffer of at least twice the size is rented and the
old one goes back to its pool. The pool is shared, so every operation that may rent takes it and
returns it.
-/

namespace MessageBroker.Stream

open Lease Wire

/-- The bytes of a stream that have arrived and not been used yet. -/
structure Assembler where
  buffer : Leased Buffer
  readMark : Nat
  writeMark : Nat
  bodyLimit : Nat
deriving DecidableEq, Repr

namespace Assembler

/-- An assembler on a buffer that holds at least a header. -/
def new (pool : BufferPool) (initial bodyLimit : Nat) : Assembler × BufferPool :=
  let (buffer, pool) := pool.rent (max initial headerSize)
  (⟨buffer, 0, 0, bodyLimit⟩, pool)

/-- The number of unread bytes. -/
def size (a : Assembler) : Nat :=
  a.writeMark - a.readMark

/-- The size of the buffer. -/
def capacity (a : Assembler) : Nat :=
  a.buffer.item.capacity

/-- Whether the buffer can be allocated. If not, the program stops where it asks for the buffer. -/
def isHoused (a : Assembler) : Bool :=
  a.capacity < allocationBound

/-- The unread bytes. -/
def unread (a : Assembler) : Bytes :=
  a.buffer.item.read a.readMark a.size

/-- Replace the content of the buffer. -/
def setBuffer (a : Assembler) (b : Buffer) : Assembler :=
  { a with buffer := { a.buffer with item := b } }

/-- Move the unread bytes to the front once half of the buffer is consumed. -/
def compact (a : Assembler) : Assembler :=
  if a.readMark = 0 then a
  else if a.readMark = a.writeMark then { a with readMark := 0, writeMark := 0 }
  else if a.capacity / 2 ≤ a.readMark then
    { a.setBuffer (a.buffer.item.write 0 a.unread) with readMark := 0, writeMark := a.size }
  else a

/-- Give a buffer back. A refusal is of no consequence to the stream. -/
def release (pool : BufferPool) (buffer : Leased Buffer) : BufferPool :=
  match pool.giveBack buffer with
  | .ok pool => pool
  | .error _ => pool

/-- Move the unread bytes to the front of a buffer of at least `required` bytes and at least twice
the present size. -/
def grow (a : Assembler) (pool : BufferPool) (required : Nat) : Assembler × BufferPool :=
  let (next, pool) := pool.rent (max required (a.capacity * 2))
  ({ a with
      buffer := { next with item := next.item.write 0 a.unread }
      readMark := 0
      writeMark := a.size },
    release pool a.buffer)

/-- Put bytes after the write mark. -/
def place (a : Assembler) (data : Bytes) : Assembler :=
  { a.setBuffer (a.buffer.item.write a.writeMark data) with
    writeMark := a.writeMark + data.length }

/-- Append bytes from the stream. -/
def write (a : Assembler) (pool : BufferPool) (data : Bytes) : Assembler × BufferPool :=
  if data.isEmpty then (a, pool)
  else
    let a := a.compact
    if a.capacity - a.writeMark < data.length then
      let (a, pool) := a.grow pool (a.size + data.length)
      (a.place data, pool)
    else (a.place data, pool)

/-- Whether `n` bytes can be read. -/
def canRead (a : Assembler) (n : Nat) : Bool :=
  n ≤ a.size

/-- The next `n` bytes, which stay unread. -/
def read (a : Assembler) (n : Nat) : Except Error Bytes :=
  if a.canRead n then .ok (a.buffer.item.read a.readMark n) else .error (.underrun n a.size)

/-- The next `n` bytes, which are used up. -/
def consume (a : Assembler) (n : Nat) : Except Error (Bytes × Assembler) :=
  (a.read n).map fun bytes => (bytes, { a with readMark := a.readMark + n })

/-- The next frame, once all of it is there. A header is judged as soon as it is complete. -/
def next (a : Assembler) : Except Error (Option (Frame × Assembler)) :=
  if a.canRead headerSize then
    match (a.read headerSize).bind fun bytes => Header.decode bytes a.bodyLimit with
    | .error e => .error e
    | .ok h =>
      if a.canRead h.frameSize then
        (a.consume h.frameSize).map fun (bytes, a) =>
          some (⟨h.kind, h.id, bytes.drop headerSize⟩, a)
      else .ok none
  else .ok none

/-- All frames that are there, up to a violation if one turns up; `steps` bounds their number. -/
def drainUpTo : (steps : Nat) → Assembler → List Frame × Option Error × Assembler
  | 0, a => ([], none, a)
  | steps + 1, a =>
    match a.next with
    | .error e => ([], some e, a)
    | .ok none => ([], none, a)
    | .ok (some (frame, a)) =>
      let (frames, e, a) := drainUpTo steps a
      (frame :: frames, e, a)

/-- All frames that are there. Each takes up bytes, so there are no more of them than bytes. -/
def drain (a : Assembler) : List Frame × Option Error × Assembler :=
  drainUpTo (a.size + 1) a

/-- Append bytes and take all frames that are now complete. After a violation the frames ahead of it
are lost. -/
def push (a : Assembler) (pool : BufferPool) (data : Bytes) :
    Except Error (List Frame) × Assembler × BufferPool :=
  let (a, pool) := a.write pool data
  match a.drain with
  | (frames, none, a) => (.ok frames, a, pool)
  | (_, some e, a) => (.error e, a, pool)

/-- Forget the unread bytes. -/
def clear (a : Assembler) : Assembler :=
  { a with readMark := 0, writeMark := 0 }

/-- The pool after the assembler is gone. -/
def dispose (a : Assembler) (pool : BufferPool) : BufferPool :=
  release pool a.buffer

end Assembler

end MessageBroker.Stream
