import MessageBroker.Proofs.Wire.Parsing
import MessageBroker.Stream.Assembler

/-!
# The unread bytes of an assembler

The marks of an assembler and the content of its buffer matter only through `Assembler.unread`.
A write appends to the unread bytes, wherever it puts them: compaction and growth move the unread
bytes and keep them as they are. `Assembler.next` decodes a frame from the front of the unread bytes
and takes the bytes of that frame away.

All of it needs no more of the pool than that it hands out some buffer. A buffer that was in use
before holds stale bytes; they lie outside the marks.
-/

namespace MessageBroker

namespace Lease.Buffer

/-- Bytes that have been stored are read as they are. -/
theorem read_eq {b : Buffer} {start count : Nat} (h : start + count ≤ b.stored.length) :
    b.read start count = (b.stored.drop start).take count := by
  have found : ((b.stored.drop start).take count).length = count := by
    rw [List.length_take, List.length_drop]
    omega
  have padding : min count (b.capacity - start) - count = 0 := by omega
  simp only [read, found, padding, List.replicate_zero, List.append_nil]

theorem stored_write {b : Buffer} {start : Nat} (data : Bytes) (h : start ≤ b.stored.length) :
    (b.write start data).stored =
      b.stored.take start ++ data ++ b.stored.drop (start + data.length) := by
  have before : (b.stored.take start).length = start := by
    rw [List.length_take]
    omega
  simp only [write, before, Nat.sub_self, List.replicate_zero, List.append_nil]

end Lease.Buffer

namespace Stream.Assembler

open Lease Wire

/-- The marks are in order and all bytes before the write mark have been stored. -/
structure Sound (a : Assembler) : Prop where
  marks : a.readMark ≤ a.writeMark
  stored : a.writeMark ≤ a.buffer.item.stored.length

namespace Sound

variable {a : Assembler}

theorem unread_eq (h : a.Sound) :
    a.unread = (a.buffer.item.stored.drop a.readMark).take (a.writeMark - a.readMark) := by
  have marks := h.marks
  have stored := h.stored
  rw [unread, size, Buffer.read_eq]
  omega

theorem length_unread (h : a.Sound) : a.unread.length = a.size := by
  have marks := h.marks
  have stored := h.stored
  rw [h.unread_eq, size, List.length_take, List.length_drop]
  omega

theorem canRead_iff (h : a.Sound) (n : Nat) : a.canRead n = true ↔ n ≤ a.unread.length := by
  rw [canRead, decide_eq_true_iff, h.length_unread]

theorem read_eq (h : a.Sound) {n : Nat} (room : n ≤ a.unread.length) :
    a.read n = .ok (a.unread.take n) := by
  have marks := h.marks
  have stored := h.stored
  have enough : n ≤ a.writeMark - a.readMark := by rwa [h.length_unread, size] at room
  rw [read, if_pos ((h.canRead_iff n).mpr room), h.unread_eq, List.take_take,
    Nat.min_eq_left enough, Buffer.read_eq]
  omega

/-- Moving the read mark forward uses up the first unread bytes. -/
theorem advance (h : a.Sound) {n : Nat} (room : n ≤ a.unread.length) :
    Sound { a with readMark := a.readMark + n } ∧
      unread { a with readMark := a.readMark + n } = a.unread.drop n := by
  have marks := h.marks
  have enough : n ≤ a.writeMark - a.readMark := by rwa [h.length_unread, size] at room
  have advanced : Sound { a with readMark := a.readMark + n } := by
    refine ⟨?_, h.stored⟩
    simp only
    omega
  refine ⟨advanced, ?_⟩
  rw [advanced.unread_eq, h.unread_eq, List.drop_take, List.drop_drop]
  congr 1
  simp only
  omega

theorem place (h : a.Sound) (data : Bytes) :
    (a.place data).Sound ∧ (a.place data).unread = a.unread ++ data := by
  have marks := h.marks
  have content : (a.place data).buffer.item.stored =
      a.buffer.item.stored.take a.writeMark ++ data ++
        a.buffer.item.stored.drop (a.writeMark + data.length) :=
    Buffer.stored_write data h.stored
  have before : (a.buffer.item.stored.take a.writeMark).length = a.writeMark := by
    rw [List.length_take]
    exact Nat.min_eq_left h.stored
  have sound : (a.place data).Sound := by
    constructor
    · change a.readMark ≤ a.writeMark + data.length
      omega
    · change a.writeMark + data.length ≤ _
      simp only [content, List.length_append, before]
      omega
  refine ⟨sound, ?_⟩
  have kept : ((a.buffer.item.stored.take a.writeMark).drop a.readMark ++ data).length =
      a.writeMark + data.length - a.readMark := by
    rw [List.length_append, List.length_drop, before]
    omega
  rw [sound.unread_eq, content]
  change (List.drop a.readMark _).take (a.writeMark + data.length - a.readMark) = _
  rw [List.append_assoc, List.drop_append_of_le_length (by omega), ← List.append_assoc, ← kept,
    List.take_left, h.unread_eq, List.drop_take]

/-- A buffer that begins with the unread bytes may stand in for the present one. -/
theorem moved (h : a.Sound) (buffer : Leased Buffer) :
    let b : Assembler := { a with
      buffer := { buffer with item := buffer.item.write 0 a.unread }
      readMark := 0
      writeMark := a.size }
    b.Sound ∧ b.unread = a.unread := by
  intro b
  have content : b.buffer.item.stored = a.unread ++ buffer.item.stored.drop a.unread.length := by
    have stored := Buffer.stored_write a.unread (Nat.zero_le buffer.item.stored.length)
    rwa [List.take_zero, List.nil_append, Nat.zero_add] at stored
  have sound : b.Sound := by
    refine ⟨Nat.zero_le _, ?_⟩
    rw [content, List.length_append, h.length_unread]
    exact Nat.le_add_right _ _
  refine ⟨sound, ?_⟩
  rw [sound.unread_eq, content]
  change ((a.unread ++ _).drop 0).take (a.size - 0) = _
  rw [List.drop_zero, Nat.sub_zero, ← h.length_unread, List.take_left]

theorem compact (h : a.Sound) : a.compact.Sound ∧ a.compact.unread = a.unread := by
  unfold Assembler.compact
  split
  · exact ⟨h, rfl⟩
  · split
    · rename_i consumed
      have rewound : Sound { a with readMark := 0, writeMark := 0 } :=
        ⟨Nat.le_refl _, Nat.zero_le _⟩
      refine ⟨rewound, ?_⟩
      rw [rewound.unread_eq, h.unread_eq, consumed]
      simp
    · split
      · exact h.moved a.buffer
      · exact ⟨h, rfl⟩

theorem grow (h : a.Sound) (pool : BufferPool) (required : Nat) :
    (a.grow pool required).1.Sound ∧ (a.grow pool required).1.unread = a.unread :=
  h.moved _

/-- Bytes that are written come after those that wait. -/
theorem write (h : a.Sound) (pool : BufferPool) (data : Bytes) :
    (a.write pool data).1.Sound ∧ (a.write pool data).1.unread = a.unread ++ data := by
  unfold Assembler.write
  split
  · rename_i empty
    rw [List.isEmpty_iff.mp empty, List.append_nil]
    exact ⟨h, rfl⟩
  · obtain ⟨compacted, same⟩ := h.compact
    simp only
    split
    · obtain ⟨grown, same'⟩ := compacted.grow pool (a.compact.size + data.length)
      rw [← same, ← same']
      exact grown.place data
    · rw [← same]
      exact compacted.place data

end Sound

@[simp] theorem bodyLimit_compact (a : Assembler) : a.compact.bodyLimit = a.bodyLimit := by
  unfold compact
  split
  · rfl
  · split
    · rfl
    · split <;> rfl

@[simp] theorem bodyLimit_write (a : Assembler) (pool : BufferPool) (data : Bytes) :
    (a.write pool data).1.bodyLimit = a.bodyLimit := by
  unfold write
  split
  · rfl
  · simp only
    split <;> exact a.bodyLimit_compact

theorem sound_new (pool : BufferPool) (initial bodyLimit : Nat) :
    (new pool initial bodyLimit).1.Sound := by
  constructor <;> exact Nat.zero_le _

theorem unread_new (pool : BufferPool) (initial bodyLimit : Nat) :
    (new pool initial bodyLimit).1.unread = [] := by
  rw [(sound_new pool initial bodyLimit).unread_eq]
  exact List.take_zero

/-- The next frame is the one at the front of the unread bytes, and takes up its own bytes. One that
is not complete is waited for. -/
theorem Sound.next_eq {a : Assembler} (h : a.Sound) :
    a.next =
      match Frame.decode a.unread a.bodyLimit with
      | .ok f => .ok (some (f, { a with readMark := a.readMark + f.size }))
      | .error e => if e.isViolation then .error e else .ok none := by
  by_cases long : headerSize ≤ a.unread.length
  · rw [Assembler.next, if_pos ((h.canRead_iff _).mpr long), h.read_eq long]
    simp only [Except.bind, Header.decode_take long]
    cases accepted : Header.decode a.unread a.bodyLimit with
    | error e =>
        rw [Frame.decode_of_header_error accepted]
        simp only [Header.isViolation_of_decode long accepted, if_true]
    | ok header =>
        rw [Frame.decode_of_header accepted]
        by_cases whole : header.frameSize ≤ a.unread.length
        · have room := (Header.decode_eq_ok accepted).2
          simp only [(h.canRead_iff _).mpr whole, if_true, if_pos whole, consume, h.read_eq whole,
            Except.map, Frame.size, List.length_drop, List.length_take, Nat.min_eq_left whole]
          rw [show headerSize + (header.frameSize - headerSize) = header.frameSize by omega]
        · have short : a.canRead header.frameSize = false := by
            rw [Bool.eq_false_iff]
            exact mt (h.canRead_iff _).mp whole
          simp [short, whole, Error.isViolation]
  · have short : a.canRead headerSize = false := by
      rw [Bool.eq_false_iff]
      exact mt (h.canRead_iff _).mp long
    rw [Assembler.next, short, Frame.decode_of_header_error (Header.decode_of_lt (by omega))]
    rfl

end Stream.Assembler

end MessageBroker
