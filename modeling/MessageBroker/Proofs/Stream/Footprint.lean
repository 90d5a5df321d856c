import MessageBroker.Proofs.Stream.ByteQueue

/-!
# How large a buffer gets

A write that finds no room doubles the buffer, or goes on to the least class that is large enough.
It finds no room only if the buffer is small for the bytes that wait and those that come: what has
been consumed takes up less than half of the buffer, since more is reclaimed first. So a write
leaves a buffer of no more than four times the bytes that are then there, or the one it found.

If frames are taken until none is left before more is written, the bytes that wait make up less than
a frame. The main statement bounds the buffer of an assembler that is used so, however many bytes
pass through it, and however they are cut.
-/

namespace MessageBroker

open Lease Wire

/-- What cannot be a whole frame yet is shorter than the largest frame. -/
theorem Wire.Frame.length_le_of_incomplete {data : Bytes} {limit : Nat} {e : Error}
    (refused : Frame.decode data limit = .error e) (waiting : e.isViolation = false) :
    data.length ≤ limit + 20 := by
  by_cases long : headerSize ≤ data.length
  · cases accepted : Header.decode data limit with
    | error fault =>
      rw [decode_of_header_error accepted] at refused
      cases refused
      rw [Header.isViolation_of_decode long accepted] at waiting
      cases waiting
    | ok h =>
      have sound := (Header.encode_of_decode accepted).1
      have counted := sound.counted
      have allowed := sound.allowed
      rw [decode_of_header accepted] at refused
      split at refused
      · cases refused
      · rename_i short
        simp only [Header.frameSize, countedHeader] at short counted allowed
        omega
  · simp only [headerSize] at long
    omega

namespace Stream

namespace Assembler

/-- What is left of the consumed part after compaction is less than half of the buffer. -/
theorem readMark_compact (a : Assembler) :
    a.compact.readMark = 0 ∨ a.compact.readMark < a.capacity / 2 := by
  unfold compact
  split
  · rename_i fresh
    exact .inl fresh
  · split
    · exact .inl rfl
    · split
      · exact .inl rfl
      · rename_i small
        exact .inr (Nat.not_le.1 small)

namespace Fitted

variable {a : Assembler} {pool : BufferPool}

/-- A write leaves the buffer it found, or one of at most four times the bytes that wait and those
that come. -/
theorem capacity_write_le (fitted : a.Fitted) (order : pool.InOrder)
    (regular : BufferPool.Regular pool.sizes a.capacity) (data : Bytes) :
    (a.write pool data).1.capacity ≤ max a.capacity (4 * (a.size + data.length)) ∧
      BufferPool.Regular pool.sizes (a.write pool data).1.capacity := by
  have room := capacity_compact a
  rcases a.write_cases pool data with ⟨-, same⟩ | ⟨-, placed⟩ | ⟨full, grown⟩
  · rw [same]
    exact ⟨Nat.le_max_left _ _, regular⟩
  · rw [placed, capacity_place, room]
    exact ⟨Nat.le_max_left _ _, regular⟩
  · have size : a.compact.writeMark - a.compact.readMark = a.size := by
      rw [← fitted.length_unread, ← fitted.toSound.compact.2, fitted.compact.length_unread]
      rfl
    have serves := (order.rent (a.request data)).1
    rw [grown]
    change (pool.rent (a.request data)).1.item.capacity ≤ _ ∧ _
    refine ⟨?_, serves.regular order.graded⟩
    -- The bytes do not fit behind less than half of the buffer and the bytes that wait.
    have small : a.capacity ≤ 2 * (a.size + data.length) := by
      have marks := fitted.compact.marks
      have consumed := a.readMark_compact
      omega
    have asked : a.request data = max (a.size + data.length) (a.capacity * 2) := by
      rw [request, room]
      exact congrArg (fun n => max (n + data.length) (a.capacity * 2)) size
    rw [asked] at serves ⊢
    refine Nat.le_trans ?_ (Nat.le_max_right _ _)
    rcases Nat.le_total (a.size + data.length) (a.capacity * 2) with doubled | more
    · rw [Nat.max_eq_right doubled] at serves ⊢
      have least := serves.le_of_regular (order.graded.regular_double regular) (Nat.le_refl _)
      omega
    · rw [Nat.max_eq_left more] at serves ⊢
      obtain ⟨s, regular', enough, bound⟩ := order.graded.exists_regular regular
        (show a.capacity ≤ a.size + data.length by omega)
      have least := serves.le_of_regular regular' enough
      omega

end Fitted

end Assembler

/-- Whether the user has been told that no whole frame is left, and has written nothing since. An
answer that gives bytes leaves this as it was before. -/
def Reply.exhausts (before : Bool) : Reply → Bool
  | bytes _ => before
  | frame (.ok none) => true
  | frames (.ok _) => true
  | _ => false

/-- What waits then is less than a frame. -/
theorem Call.length_le_of_exhausts {limit : Nat} {q : Bytes} {before : Bool} (c : Call)
    (waiting : before = true → q.length ≤ limit + 20)
    (exhausts : (c.onQueue limit q).1.exhausts before = true) :
    (c.onQueue limit q).2.length ≤ limit + 20 := by
  cases c with
  | write data => cases exhausts
  | read n => exact waiting exhausts
  | consume n =>
    simp only [onQueue]
    split
    · rw [List.length_drop]
      exact Nat.le_trans (Nat.sub_le _ _) (waiting exhausts)
    · exact waiting exhausts
  | next =>
    unfold onQueue at exhausts ⊢
    cases found : Frame.decode q limit with
    | ok f =>
      rw [found] at exhausts
      cases exhausts
    | error e =>
      rw [found] at exhausts
      simp only at exhausts ⊢
      split at exhausts
      · cases exhausts
      · rename_i incomplete
        exact Frame.length_le_of_incomplete found (Bool.eq_false_iff.2 incomplete)
  | push data =>
    refine Frame.length_le_of_incomplete (Frame.decode_rest limit (q ++ data)) ?_
    rw [Bool.eq_false_iff]
    intro bad
    simp only [onQueue, outcome, Parse.violation?, if_pos bad] at exhausts
    cases exhausts
  | clear => cases exhausts

/-- The bytes that are written in an event. -/
def Event.written : Event → Bytes
  | call c => c.written
  | elsewhere _ => []

namespace Station

/-- Whether bytes are written in pieces of at most `most`, each after frames have been taken until
none was left; `drained` says that none is left at first. -/
def attentive (most : Nat) : (drained : Bool) → Station → List Event → Bool
  | _, _, [] => true
  | drained, s, event :: events =>
    (event.written.isEmpty || drained && event.written.length ≤ most) &&
      attentive most ((s.step event).1.foldl Reply.exhausts drained) (s.step event).2 events

namespace Settled

variable {s : Station} {classes : List (Nat × Nat)}

theorem bodyLimit_step (settled : s.Settled classes) (event : Event) :
    (s.step event).2.assembler.bodyLimit = s.assembler.bodyLimit := by
  cases event with
  | elsewhere move => rfl
  | call c => exact (settled.step_call c).2.2

/-- Only what is written lets the buffer grow. -/
theorem capacity_step (settled : s.Settled classes)
    (regular : BufferPool.Regular (classes.map Prod.snd) s.assembler.capacity) (event : Event) :
    BufferPool.Regular (classes.map Prod.snd) (s.step event).2.assembler.capacity ∧
      (event.written = [] → (s.step event).2.assembler.capacity = s.assembler.capacity) ∧
      (s.step event).2.assembler.capacity ≤
        max s.assembler.capacity (4 * (s.assembler.size + event.written.length)) := by
  cases event with
  | elsewhere move => exact ⟨regular, fun _ => rfl, Nat.le_max_left _ _⟩
  | call c =>
    obtain ⟨p, found, order, rfl⟩ := settled.pool
    obtain ⟨-, buffer, -⟩ := settled.fitted.call order c
    have capacity : (s.step (.call c)).2.assembler.capacity =
        (s.assembler.write p c.written).1.capacity := by
      simp only [Station.step, found, update, Assembler.capacity, buffer]
    rw [BufferPool.map_snd_catalog] at regular ⊢
    rw [capacity]
    obtain ⟨bound, regular'⟩ := settled.fitted.capacity_write_le order regular c.written
    refine ⟨regular', fun nothing => ?_, bound⟩
    rw [show c.written = [] from nothing]
    rfl

end Settled

/-- The buffer is within a bound, and if no whole frame is left, then less than a frame waits. -/
structure Contained (s : Station) (classes : List (Nat × Nat)) (limit bound : Nat)
    (drained : Bool) : Prop extends s.Settled classes where
  bodyLimit : s.assembler.bodyLimit = limit
  regular : BufferPool.Regular (classes.map Prod.snd) s.assembler.capacity
  waiting : drained = true → s.assembler.size ≤ limit + 20
  within : s.assembler.capacity ≤ bound

namespace Contained

variable {s : Station} {classes : List (Nat × Nat)} {limit bound most : Nat} {drained : Bool}

theorem step (contained : s.Contained classes limit bound drained)
    (enough : 4 * (limit + 20 + most) ≤ bound) {event : Event}
    (allowed : event.written = [] ∨ drained = true ∧ event.written.length ≤ most) :
    (s.step event).2.Contained classes limit bound
      ((s.step event).1.foldl Reply.exhausts drained) := by
  have settled := contained.toSettled
  obtain ⟨regular, same, grown⟩ := settled.capacity_step contained.regular event
  have within := contained.within
  refine ⟨settled.step event, (settled.bodyLimit_step event).trans contained.bodyLimit, regular,
    fun exhausts => ?_, ?_⟩
  · cases event with
    | elsewhere move => exact contained.waiting exhausts
    | call c =>
      obtain ⟨answer, unread, -⟩ := settled.step_call c
      rw [answer, contained.bodyLimit] at exhausts
      rw [← (settled.step (.call c)).fitted.length_unread, unread, contained.bodyLimit]
      refine c.length_le_of_exhausts (fun drained => ?_) exhausts
      rw [settled.fitted.length_unread]
      exact contained.waiting drained
  · rcases allowed with nothing | ⟨drained, short⟩
    · rw [same nothing]
      exact within
    · have size := contained.waiting drained
      omega

theorem run (contained : s.Contained classes limit bound drained)
    (enough : 4 * (limit + 20 + most) ≤ bound) {events : List Event}
    (careful : attentive most drained s events = true) :
    (s.run events).2.assembler.capacity ≤ bound := by
  induction events generalizing s drained with
  | nil => exact contained.within
  | cons event events ih =>
    simp only [attentive, Bool.and_eq_true, Bool.or_eq_true, List.isEmpty_iff,
      decide_eq_true_eq] at careful
    exact ih (contained.step enough careful.1) careful.2

end Contained

/-- A user who is attentive has been so before. -/
theorem attentive_take {most : Nat} {drained : Bool} {s : Station} {events : List Event}
    (careful : attentive most drained s events = true) (n : Nat) :
    attentive most drained s (events.take n) = true := by
  induction events generalizing s drained n with
  | nil => rwa [List.take_nil]
  | cons event events ih =>
    cases n with
    | zero => rfl
    | succ n =>
      simp only [attentive, List.take_succ_cons, Bool.and_eq_true] at careful ⊢
      exact ⟨careful.1, ih careful.2 n⟩

/-- The buffer of an assembler stays within a bound, on any pool in circulation and whatever others
do, if bytes are written in pieces of at most `most` and frames are taken after each piece until
none is left: unless it was so from the start, it is never larger than four times the bytes that can
wait of an incomplete frame and one more piece. If the bound is less than 2^62, then no range of a
buffer and no number ever leaves its bounds. -/
theorem capacity_bounded (moves : List Circulation.Move) {home : Nat} {p : BufferPool}
    (found : (Circulation.start.after moves).pools[home]? = some p) (initial limit most : Nat)
    (events : List Event) :
    let s := opened (Circulation.start.after moves) home p initial limit
    let bound := max s.assembler.capacity (4 * (limit + 20 + most))
    attentive most true s events = true →
      (s.run events).2.assembler.capacity ≤ bound ∧
        (bound < 2 ^ 62 → s.run? events = some (s.run events)) := by
  intro s bound careful
  have sound := Circulation.sound_after moves
  have settled : s.Settled p.catalog := .opened sound found initial limit
  have order := sound.order p (List.mem_of_getElem? found)
  have regular : BufferPool.Regular (p.catalog.map Prod.snd) s.assembler.capacity := by
    rw [BufferPool.map_snd_catalog]
    exact (order.rent _).1.regular order.graded
  have contained : s.Contained p.catalog limit bound true :=
    ⟨settled, rfl, regular, fun _ => Nat.zero_le _, Nat.le_max_left _ _⟩
  refine ⟨contained.run (Nat.le_max_right _ _) careful, fun small => settled.run?_eq events ?_⟩
  intro n
  exact Nat.lt_of_le_of_lt (contained.run (Nat.le_max_right _ _) (attentive_take careful n)) small

/-- Three frames in a row. -/
def threeFrames : Bytes :=
  (List.replicate 3 (Frame.encode ⟨.ack, ⟨7⟩, [1, 2]⟩)).flatten

/-- They arrive in two pieces, cut within the second of them. -/
def inTwoPieces : List Event :=
  [.call (.write (threeFrames.take 40)), .call .next, .call .next,
    .call (.write (threeFrames.drop 40)), .call .next, .call .next, .call .next]

/-- The first frame has used up less than half of the buffer when the second piece comes, so the
buffer is doubled. -/
theorem capacity_bounded_in_two_pieces :
    ∃ p, (Circulation.start.after [.build 0 1 256 true]).pools[0]? = some p ∧
      let s := opened (Circulation.start.after [.build 0 1 256 true]) 0 p 0 10
      s.assembler.capacity = 64 ∧ (s.run inTwoPieces).2.assembler.capacity = 128 ∧
        (s.run inTwoPieces).2.assembler.capacity ≤ max 64 (4 * (10 + 20 + 40)) ∧
        s.run? inTwoPieces = some (s.run inTwoPieces) := by
  have found := List.getElem?_eq_getElem
    (l := (Circulation.start.after [.build 0 1 256 true]).pools) (i := 0) (by decide)
  obtain ⟨bounded, checked⟩ :=
    capacity_bounded [.build 0 1 256 true] found 0 10 40 inTwoPieces (by decide)
  exact ⟨_, found, by decide, by decide, bounded, checked (by decide)⟩

end Station

end Stream

end MessageBroker
