import MessageBroker.Proofs.Lease.Classes
import MessageBroker.Proofs.Stream.Unread
import MessageBroker.Proofs.Wire.Exactness

/-!
# Marks in range

The operations of an assembler once more, with everything checked that can go wrong with marks: a
difference must not fall below zero, a sum or a product must not leave the word range, a range of a
buffer must lie within it, and a buffer that is asked for must not be too large to be allocated. A
checked operation that meets one of these faults has no result.

The marks of an assembler fit if they are in order and within its buffer. Every operation keeps
them so, on any pool in order. The main statements say that on marks that fit, in buffers of less
than 2^62 bytes, each checked operation has a result, which is that of the plain one.
-/

namespace MessageBroker

namespace Lease

/-- The difference of two words. -/
def minus? (a b : Nat) : Option Nat :=
  if b ≤ a then some (a - b) else none

/-- The sum of two words. -/
def plus? (a b : Nat) : Option Nat :=
  if a + b < wordBound then some (a + b) else none

/-- The product of two words. -/
def times? (a b : Nat) : Option Nat :=
  if a * b < wordBound then some (a * b) else none

theorem minus?_of_le {a b : Nat} (h : b ≤ a) : minus? a b = some (a - b) := if_pos h

theorem plus?_of_lt {a b : Nat} (h : a + b < wordBound) : plus? a b = some (a + b) := if_pos h

theorem times?_of_lt {a b : Nat} (h : a * b < wordBound) : times? a b = some (a * b) := if_pos h

namespace Buffer

/-- The bytes from one place up to another. -/
def slice? (b : Buffer) (start stop : Nat) : Option Bytes :=
  if start ≤ stop ∧ stop ≤ b.capacity then some (b.read start (stop - start)) else none

/-- Put as many bytes as there are from one place up to another. -/
def fill? (b : Buffer) (start stop : Nat) (data : Bytes) : Option Buffer :=
  if start ≤ stop ∧ stop ≤ b.capacity ∧ data.length = stop - start then some (b.write start data)
  else none

theorem slice?_of_le {b : Buffer} {start count : Nat} (h : start + count ≤ b.capacity) :
    b.slice? start (start + count) = some (b.read start count) := by
  rw [slice?, if_pos ⟨Nat.le_add_right _ _, h⟩, Nat.add_sub_cancel_left]

theorem fill?_of_le (b : Buffer) (start : Nat) (data : Bytes)
    (h : start + data.length ≤ b.capacity) :
    b.fill? start (start + data.length) data = some (b.write start data) := by
  rw [fill?, if_pos ⟨Nat.le_add_right _ _, h, (Nat.add_sub_cancel_left _ _).symm⟩]

end Buffer

end Lease

namespace Stream.Assembler

open Lease Wire

/-! ## Checked operations

Each follows the operation of its name step by step, and checks every step that may fail. -/

def size? (a : Assembler) : Option Nat :=
  minus? a.writeMark a.readMark

def compact? (a : Assembler) : Option Assembler :=
  if a.readMark = 0 then some a
  else if a.readMark = a.writeMark then some { a with readMark := 0, writeMark := 0 }
  else if a.capacity / 2 ≤ a.readMark then do
    let waiting ← a.buffer.item.slice? a.readMark a.writeMark
    let content ← a.buffer.item.fill? 0 waiting.length waiting
    let size ← a.size?
    some { a.setBuffer content with readMark := 0, writeMark := size }
  else some a

def grow? (a : Assembler) (pool : BufferPool) (required : Nat) :
    Option (Assembler × BufferPool) := do
  let doubled ← times? a.capacity 2
  let (next?, pool) := pool.rent? (max required doubled)
  let next ← next?
  let size ← a.size?
  let waiting ← a.buffer.item.slice? a.readMark a.writeMark
  let content ← next.item.fill? 0 size waiting
  some ({ a with buffer := { next with item := content }, readMark := 0, writeMark := size },
    release pool a.buffer)

def place? (a : Assembler) (data : Bytes) : Option Assembler := do
  let stop ← plus? a.writeMark data.length
  let content ← a.buffer.item.fill? a.writeMark stop data
  some { a.setBuffer content with writeMark := stop }

def write? (a : Assembler) (pool : BufferPool) (data : Bytes) :
    Option (Assembler × BufferPool) :=
  if data.isEmpty then some (a, pool)
  else do
    let a ← a.compact?
    let free ← minus? a.capacity a.writeMark
    if free < data.length then do
      let size ← a.size?
      let required ← plus? size data.length
      let (a, pool) ← a.grow? pool required
      let a ← a.place? data
      some (a, pool)
    else do
      let a ← a.place? data
      some (a, pool)

def read? (a : Assembler) (n : Nat) : Option (Except Error Bytes) := do
  let size ← a.size?
  if n ≤ size then do
    let stop ← plus? a.readMark n
    let bytes ← a.buffer.item.slice? a.readMark stop
    some (.ok bytes)
  else some (.error (.underrun n size))

def consume? (a : Assembler) (n : Nat) : Option (Except Error (Bytes × Assembler)) := do
  match ← a.read? n with
  | .error e => some (.error e)
  | .ok bytes =>
    let readMark ← plus? a.readMark n
    some (.ok (bytes, { a with readMark }))

def next? (a : Assembler) : Option (Except Error (Option (Frame × Assembler))) := do
  let size ← a.size?
  if headerSize ≤ size then
    match ← a.read? headerSize with
    | .error e => some (.error e)
    | .ok bytes =>
      match Header.decode bytes a.bodyLimit with
      | .error e => some (.error e)
      | .ok h =>
        let whole ← plus? 4 h.length
        if whole ≤ size then
          match ← a.consume? whole with
          | .error e => some (.error e)
          | .ok (bytes, a) =>
            if headerSize ≤ bytes.length then
              some (.ok (some (⟨h.kind, h.id, bytes.drop headerSize⟩, a)))
            else none
        else some (.ok none)
  else some (.ok none)

def drainUpTo? : (steps : Nat) → Assembler → Option (List Frame × Option Error × Assembler)
  | 0, a => some ([], none, a)
  | steps + 1, a => do
    match ← a.next? with
    | .error e => some ([], some e, a)
    | .ok none => some ([], none, a)
    | .ok (some (frame, a)) =>
      let (frames, e, a) ← drainUpTo? steps a
      some (frame :: frames, e, a)

def push? (a : Assembler) (pool : BufferPool) (data : Bytes) :
    Option (Except Error (List Frame) × Assembler × BufferPool) := do
  let (a, pool) ← a.write? pool data
  match ← drainUpTo? (a.size + 1) a with
  | (frames, none, a) => some (.ok frames, a, pool)
  | (_, some e, a) => some (.error e, a, pool)

/-! ## What the operations do to the marks and to the buffer -/

theorem capacity_place (a : Assembler) (data : Bytes) : (a.place data).capacity = a.capacity := rfl

theorem capacity_compact (a : Assembler) : a.compact.capacity = a.capacity := by
  unfold compact
  split
  · rfl
  · split
    · rfl
    · split <;> rfl

theorem tag_compact (a : Assembler) : a.compact.buffer.tag = a.buffer.tag := by
  unfold compact
  split
  · rfl
  · split
    · rfl
    · split <;> rfl

/-- The size that is asked for if bytes do not fit. -/
def request (a : Assembler) (data : Bytes) : Nat :=
  max (a.compact.size + data.length) (a.compact.capacity * 2)

/-- All that a write can be: nothing, if there is nothing to write; else the bytes are placed after
those that wait, which may be moved within the buffer, or into another one if the bytes do not
fit. -/
theorem write_cases (a : Assembler) (pool : BufferPool) (data : Bytes) :
    data = [] ∧ a.write pool data = (a, pool) ∨
    data.length ≤ a.capacity - a.compact.writeMark ∧
      a.write pool data = (a.compact.place data, pool) ∨
    a.capacity - a.compact.writeMark < data.length ∧
      a.write pool data =
        ((a.compact.grow pool (a.compact.size + data.length)).1.place data,
          release (pool.rent (a.request data)).2 a.compact.buffer) := by
  cases data with
  | nil => exact .inl ⟨rfl, rfl⟩
  | cons b data =>
    have room := capacity_compact a
    rw [write, if_neg (by simp)]
    by_cases full : a.compact.capacity - a.compact.writeMark < (b :: data).length
    · refine .inr (.inr ⟨room ▸ full, ?_⟩)
      simp only [if_pos full, request, grow]
    · refine .inr (.inl ⟨room ▸ Nat.not_lt.1 full, ?_⟩)
      simp only [if_neg full]

/-- The marks are in order and within the buffer, and all bytes before the write mark have been
stored. -/
structure Fitted (a : Assembler) : Prop extends Sound a where
  within : a.writeMark ≤ a.capacity

namespace Fitted

variable {a : Assembler} {pool : BufferPool} {data : Bytes}

theorem new (pool : BufferPool) (initial bodyLimit : Nat) :
    (Assembler.new pool initial bodyLimit).1.Fitted :=
  ⟨sound_new pool initial bodyLimit, Nat.zero_le _⟩

theorem compact (fitted : a.Fitted) : a.compact.Fitted := by
  refine ⟨fitted.toSound.compact.1, ?_⟩
  rw [capacity_compact]
  refine Nat.le_trans ?_ fitted.within
  unfold Assembler.compact
  split
  · exact Nat.le_refl _
  · split
    · exact Nat.zero_le _
    · split
      · exact Nat.sub_le _ _
      · exact Nat.le_refl _

theorem place (fitted : a.Fitted) (room : data.length ≤ a.capacity - a.writeMark) :
    (a.place data).Fitted := by
  have within := fitted.within
  refine ⟨(fitted.toSound.place data).1, ?_⟩
  change a.writeMark + data.length ≤ a.capacity
  omega

/-- A buffer that is grown into holds what is asked for. -/
theorem le_capacity_grow (a : Assembler) (order : pool.InOrder) (required : Nat) :
    required ≤ (a.grow pool required).1.capacity :=
  Nat.le_trans (Nat.le_max_left _ _) (order.rent _).1.le

theorem grow (fitted : a.Fitted) (order : pool.InOrder) {required : Nat}
    (enough : a.size ≤ required) : (a.grow pool required).1.Fitted :=
  ⟨(fitted.toSound.grow pool required).1, Nat.le_trans enough (le_capacity_grow a order required)⟩

theorem write (fitted : a.Fitted) (order : pool.InOrder) (data : Bytes) :
    (a.write pool data).1.Fitted := by
  rcases a.write_cases pool data with ⟨-, same⟩ | ⟨room, placed⟩ | ⟨-, grown⟩
  · rw [same]
    exact fitted
  · rw [placed]
    exact fitted.compact.place (by rwa [capacity_compact])
  · rw [grown]
    refine (fitted.compact.grow order (Nat.le_add_right _ _)).place ?_
    have enough := le_capacity_grow a.compact order (a.compact.size + data.length)
    change data.length ≤ _ - a.compact.size
    omega

/-- Moving the read mark within the bytes that wait. -/
theorem advance (fitted : a.Fitted) {n : Nat} (room : n ≤ a.unread.length) :
    Fitted { a with readMark := a.readMark + n } :=
  ⟨(fitted.toSound.advance room).1, fitted.within⟩

/-- A frame is taken by moving the read mark. -/
theorem next (fitted : a.Fitted) {a' : Assembler} {f : Frame}
    (taken : a.next = .ok (some (f, a'))) : a'.Fitted ∧ a'.buffer = a.buffer := by
  rw [fitted.toSound.next_eq] at taken
  cases found : Frame.decode a.unread a.bodyLimit with
  | error e =>
    rw [found] at taken
    simp only at taken
    split at taken <;> cases taken
  | ok f' =>
    rw [found] at taken
    cases taken
    exact ⟨fitted.advance (Frame.size_le_of_decode found), rfl⟩

theorem drainUpTo (fitted : a.Fitted) (steps : Nat) :
    (a.drainUpTo steps).2.2.Fitted ∧ (a.drainUpTo steps).2.2.buffer = a.buffer := by
  induction steps generalizing a with
  | zero => exact ⟨fitted, rfl⟩
  | succ steps ih =>
    unfold Assembler.drainUpTo
    split
    · exact ⟨fitted, rfl⟩
    · exact ⟨fitted, rfl⟩
    · rename_i taken
      obtain ⟨fitted', buffer⟩ := fitted.next taken
      rw [← buffer]
      exact ih fitted'

theorem clear (a : Assembler) : a.clear.Fitted :=
  ⟨⟨Nat.le_refl _, Nat.zero_le _⟩, Nat.zero_le _⟩

end Fitted

/-! ## Checked operations have results -/

namespace Fitted

variable {a : Assembler} {pool : BufferPool} {data : Bytes}

theorem size?_eq (fitted : a.Fitted) : a.size? = some a.size :=
  minus?_of_le fitted.marks

theorem slice?_eq (fitted : a.Fitted) {n : Nat} (room : n ≤ a.size) :
    a.buffer.item.slice? a.readMark (a.readMark + n) = some (a.buffer.item.read a.readMark n) := by
  have marks := fitted.marks
  have within := fitted.within
  refine Buffer.slice?_of_le (Nat.le_trans ?_ within)
  unfold size at room
  omega

theorem waiting?_eq (fitted : a.Fitted) :
    a.buffer.item.slice? a.readMark a.writeMark = some a.unread := by
  have marks := fitted.marks
  have all := fitted.slice?_eq (Nat.le_refl a.size)
  rwa [size, Nat.add_sub_cancel' marks] at all

/-- The bytes that wait go to the front of any buffer that has room for them. -/
theorem moved?_eq (fitted : a.Fitted) {b : Buffer} (room : a.size ≤ b.capacity) :
    b.fill? 0 a.size a.unread = some (b.write 0 a.unread) := by
  have length := fitted.length_unread
  have filled := b.fill?_of_le 0 a.unread (by omega)
  rwa [Nat.zero_add, length] at filled

theorem size_le_capacity (fitted : a.Fitted) : a.size ≤ a.capacity :=
  Nat.le_trans (Nat.sub_le _ _) fitted.within

theorem compact?_eq (fitted : a.Fitted) : a.compact? = some a.compact := by
  unfold compact? Assembler.compact
  split
  · rfl
  · split
    · rfl
    · split
      · simp only [fitted.waiting?_eq, fitted.size?_eq, fitted.length_unread,
          fitted.moved?_eq fitted.size_le_capacity, Option.bind_eq_bind, Option.bind_some]
      · rfl

theorem place?_eq (fitted : a.Fitted) (room : data.length ≤ a.capacity - a.writeMark)
    (small : a.capacity < 2 ^ 62) : a.place? data = some (a.place data) := by
  have within := fitted.within
  have stop : a.writeMark + data.length < wordBound := by
    unfold wordBound
    omega
  have filled := a.buffer.item.fill?_of_le a.writeMark data
    (by unfold capacity at *; omega)
  simp only [place?, plus?_of_lt stop, filled, Assembler.place, Option.bind_eq_bind,
    Option.bind_some]

theorem isHoused_of_lt (small : a.capacity < 2 ^ 62) : a.isHoused = true :=
  decide_eq_true (Nat.lt_trans small (by decide))

theorem grow?_eq (fitted : a.Fitted) (order : pool.InOrder) (small : a.capacity < 2 ^ 62)
    {required : Nat} (enough : a.size ≤ required)
    (housed : (a.grow pool required).1.isHoused = true) :
    a.grow? pool required = some (a.grow pool required) := by
  have doubled : a.capacity * 2 < wordBound := by
    unfold wordBound
    omega
  have room : a.size ≤ (pool.rent (max required (a.capacity * 2))).1.item.capacity :=
    Nat.le_trans enough (le_capacity_grow a order required)
  have allocated := BufferPool.rent?_of_lt (of_decide_eq_true housed)
  simp only [grow?, times?_of_lt doubled, allocated, fitted.size?_eq, fitted.waiting?_eq,
    fitted.moved?_eq room, Assembler.grow, Option.bind_eq_bind, Option.bind_some]

theorem write?_eq (fitted : a.Fitted) (order : pool.InOrder) (small : a.capacity < 2 ^ 62)
    (small' : (a.write pool data).1.capacity < 2 ^ 62) :
    a.write? pool data = some (a.write pool data) := by
  have compacted := fitted.compact
  have same := capacity_compact a
  have free := minus?_of_le compacted.within
  by_cases nothing : data.isEmpty = true
  · simp only [write?, Assembler.write, if_pos nothing]
  · simp only [write?, Assembler.write, if_neg nothing, fitted.compact?_eq, free,
      Option.bind_eq_bind, Option.bind_some] at small' ⊢
    by_cases full : a.compact.capacity - a.compact.writeMark < data.length
    · simp only [if_pos full, capacity_place] at small' ⊢
      have enough := Nat.le_add_right a.compact.size data.length
      have larger := le_capacity_grow a.compact order (a.compact.size + data.length)
      have required : a.compact.size + data.length < wordBound := by
        unfold wordBound
        omega
      have room : data.length ≤ (a.compact.grow pool (a.compact.size + data.length)).1.capacity -
          a.compact.size := by omega
      simp only [compacted.size?_eq, plus?_of_lt required, Option.bind_some,
        compacted.grow?_eq order (same ▸ small) enough (isHoused_of_lt small'),
        (compacted.grow order enough).place?_eq room small']
    · simp only [if_neg full, compacted.place?_eq (Nat.not_lt.1 full) (same ▸ small),
        Option.bind_some]

theorem stop_lt (fitted : a.Fitted) (small : a.capacity < 2 ^ 62) {n : Nat} (room : n ≤ a.size) :
    a.readMark + n < wordBound := by
  have marks := fitted.marks
  have within := fitted.within
  unfold size at room
  unfold wordBound
  omega

theorem read?_eq (fitted : a.Fitted) (small : a.capacity < 2 ^ 62) (n : Nat) :
    a.read? n = some (a.read n) := by
  by_cases room : n ≤ a.size
  · simp only [read?, Assembler.read, canRead, decide_eq_true_eq, fitted.size?_eq, if_pos room,
      plus?_of_lt (fitted.stop_lt small room), fitted.slice?_eq room, Option.bind_eq_bind,
      Option.bind_some]
  · simp only [read?, Assembler.read, canRead, decide_eq_true_eq, fitted.size?_eq, if_neg room,
      Option.bind_eq_bind, Option.bind_some]

theorem consume?_eq (fitted : a.Fitted) (small : a.capacity < 2 ^ 62) (n : Nat) :
    a.consume? n = some (a.consume n) := by
  simp only [consume?, Assembler.consume, fitted.read?_eq small, Option.bind_eq_bind,
    Option.bind_some]
  by_cases room : n ≤ a.size
  · simp only [Assembler.read, canRead, decide_eq_true_eq, if_pos room, Except.map,
      plus?_of_lt (fitted.stop_lt small room), Option.bind_some]
  · simp only [Assembler.read, canRead, decide_eq_true_eq, if_neg room, Except.map]

theorem next?_eq (fitted : a.Fitted) (small : a.capacity < 2 ^ 62) : a.next? = some a.next := by
  have sound := fitted.toSound
  simp only [next?, Assembler.next, fitted.size?_eq, fitted.read?_eq small, Option.bind_eq_bind,
    Option.bind_some, canRead, decide_eq_true_eq]
  by_cases long : headerSize ≤ a.size
  · have front := sound.read_eq (n := headerSize) (by rwa [sound.length_unread])
    simp only [if_pos long, front, Except.bind]
    cases accepted : Header.decode (a.unread.take headerSize) a.bodyLimit with
    | error e => rfl
    | ok h =>
      have counted : plus? 4 h.length = some h.frameSize := by
        have fits := (Header.encode_of_decode accepted).1.fits
        refine plus?_of_lt ?_
        unfold lengthBound at fits
        unfold wordBound
        omega
      have announced := (Header.decode_eq_ok accepted).2
      simp only [counted, Option.bind_some, fitted.consume?_eq small]
      by_cases whole : h.frameSize ≤ a.size
      · have taken := sound.read_eq (n := h.frameSize) (by rwa [sound.length_unread])
        have length : (a.unread.take h.frameSize).length = h.frameSize := by
          rw [List.length_take, sound.length_unread, Nat.min_eq_left whole]
        simp only [if_pos whole, Assembler.consume, taken, Except.map, length, if_pos announced]
      · simp only [if_neg whole]
  · simp only [if_neg long]

theorem drainUpTo?_eq (fitted : a.Fitted) (small : a.capacity < 2 ^ 62) (steps : Nat) :
    drainUpTo? steps a = some (a.drainUpTo steps) := by
  induction steps generalizing a with
  | zero => rfl
  | succ steps ih =>
    simp only [drainUpTo?, Assembler.drainUpTo, fitted.next?_eq small, Option.bind_eq_bind,
      Option.bind_some]
    cases taken : a.next with
    | error e => rfl
    | ok found =>
      cases found with
      | none => rfl
      | some found =>
        obtain ⟨fitted', buffer⟩ := fitted.next taken
        simp only [ih fitted' (by rwa [capacity, buffer]), Option.bind_some]

theorem push?_eq (fitted : a.Fitted) (order : pool.InOrder) (small : a.capacity < 2 ^ 62)
    (small' : (a.write pool data).1.capacity < 2 ^ 62) :
    a.push? pool data = some (a.push pool data) := by
  have written := fitted.write order data
  simp only [push?, push, fitted.write?_eq order small small', written.drainUpTo?_eq small',
    Option.bind_eq_bind, Option.bind_some, drain]
  rcases (a.write pool data).1.drainUpTo _ with ⟨frames, fault, a'⟩
  cases fault <;> rfl

end Fitted

end Stream.Assembler

end MessageBroker
