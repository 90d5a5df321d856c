import MessageBroker.Peer.Session
import MessageBroker.Proofs.Stream.Unread

/-!
# Frames do not depend on how their bytes arrive

A stream reaches a reader in pieces. After each piece the frames that are complete are taken out,
until there is none left or one breaks the protocol. The main statement says that all of this comes
to parsing the stream as a whole: the same frames, and the same violation, reported with the piece
that completes the header at fault and with every piece after it.

The statement is proved for any reader that refines a string of unread bytes, and holds of
assemblers and of sessions because both do.
-/

namespace MessageBroker.Stream

open Lease Wire
open Peer (Session)

/-- Something that is given bytes and gives frames. -/
structure Reader (σ : Type) where
  write : σ → BufferPool → Bytes → σ × BufferPool
  next : σ → Except Error (Option (Frame × σ))
  buffered : σ → Nat

/-- What a reader gives after one piece of a stream. -/
structure Answer where
  frames : List Frame
  fault? : Option Error
deriving DecidableEq, Repr

namespace Reader

variable {σ : Type}

/-- An assembler as a reader. -/
def assembler : Reader Assembler := ⟨Assembler.write, Assembler.next, Assembler.size⟩

/-- A session as a reader. -/
def session : Reader Session := ⟨Session.feed, Session.next, Session.buffered⟩

/-- Take frames until there is none or one breaks the protocol; `steps` bounds their number. -/
def takeUpTo (r : Reader σ) : (steps : Nat) → σ → Answer × σ
  | 0, s => (⟨[], none⟩, s)
  | steps + 1, s =>
    match r.next s with
    | .error e => (⟨[], some e⟩, s)
    | .ok none => (⟨[], none⟩, s)
    | .ok (some (frame, s)) =>
      let (answer, s) := r.takeUpTo steps s
      ({ answer with frames := frame :: answer.frames }, s)

/-- Take all frames that are there. Each takes up bytes, so there are no more of them than bytes. -/
def takeAll (r : Reader σ) (s : σ) : Answer × σ :=
  r.takeUpTo (r.buffered s + 1) s

/-- Give a reader the pieces of a stream, and take all frames that are there after each piece. -/
def intake (r : Reader σ) : σ × BufferPool → List Bytes → List Answer × σ × BufferPool
  | s, [] => ([], s)
  | (s, pool), piece :: pieces =>
    let (s, pool) := r.write s pool piece
    let (answer, s) := r.takeAll s
    let (answers, s) := r.intake (s, pool) pieces
    (answer :: answers, s)

/-- The frames of several answers. -/
def framesOf (answers : List Answer) : List Frame :=
  answers.flatMap Answer.frames

/-- A reader refines strings of unread bytes: a write appends to the string, and the next frame is
decoded from the front of it. -/
structure Refines (r : Reader σ) (limit : Nat) (holds : σ → Bytes → Prop) : Prop where
  write : ∀ {s bytes}, holds s bytes → ∀ pool data, holds (r.write s pool data).1 (bytes ++ data)
  next_ok : ∀ {s bytes f}, holds s bytes → Frame.decode bytes limit = .ok f →
    ∃ s', r.next s = .ok (some (f, s')) ∧ holds s' (bytes.drop f.size)
  next_error : ∀ {s bytes e}, holds s bytes → Frame.decode bytes limit = .error e →
    r.next s = if e.isViolation then .error e else .ok none
  buffered : ∀ {s bytes}, holds s bytes → r.buffered s = bytes.length

namespace Refines

variable {r : Reader σ} {limit : Nat} {holds : σ → Bytes → Prop}

theorem takeUpTo (refines : Refines r limit holds) {s : σ} {bytes : Bytes} {steps : Nat}
    (held : holds s bytes) (enough : bytes.length < steps) :
    (r.takeUpTo steps s).1 =
        ⟨(Frame.parse limit bytes).frames, (Frame.parse limit bytes).violation?⟩ ∧
      holds (r.takeUpTo steps s).2 (Frame.parse limit bytes).rest := by
  induction steps generalizing s bytes with
  | zero => omega
  | succ steps ih =>
      cases found : Frame.decode bytes limit with
      | error e =>
          have stopped := refines.next_error held found
          rw [Frame.parse_of_error found, Reader.takeUpTo, stopped]
          by_cases bad : e.isViolation = true
          · simpa [bad, Parse.violation?] using held
          · simpa [bad, Parse.violation?] using held
      | ok f =>
          obtain ⟨s', taken, held'⟩ := refines.next_ok held found
          have shorter : (bytes.drop f.size).length < steps := by
            have progress := f.size_pos
            have whole := Frame.size_le_of_decode found
            rw [List.length_drop]
            omega
          obtain ⟨answer, rest⟩ := ih held' shorter
          rw [Frame.parse_of_ok found, Reader.takeUpTo, taken]
          simp only [answer]
          exact ⟨rfl, rest⟩

theorem takeAll (refines : Refines r limit holds) {s : σ} {bytes : Bytes} (held : holds s bytes) :
    (r.takeAll s).1 = ⟨(Frame.parse limit bytes).frames, (Frame.parse limit bytes).violation?⟩ ∧
      holds (r.takeAll s).2 (Frame.parse limit bytes).rest := by
  apply refines.takeUpTo held
  rw [refines.buffered held]
  exact Nat.lt_succ_self _

/-- The answers to pieces that follow some bytes out of which no frame can be taken. -/
theorem intake (refines : Refines r limit holds) {s : σ} {bytes : Bytes} (held : holds s bytes)
    (drained : (Frame.parse limit bytes).frames = []) (pool : BufferPool) (pieces : List Bytes) :
    let out := r.intake (s, pool) pieces
    holds out.2.1 (Frame.parse limit (bytes ++ pieces.flatten)).rest ∧
      out.1.length = pieces.length ∧
      (∀ k, framesOf (out.1.take k) =
        (Frame.parse limit (bytes ++ (pieces.take k).flatten)).frames) ∧
      ∀ k, (h : k < out.1.length) →
        out.1[k].fault? = (Frame.parse limit (bytes ++ (pieces.take (k + 1)).flatten)).violation? := by
  induction pieces generalizing s bytes pool with
  | nil =>
      have left : (Frame.parse limit bytes).rest = bytes := by
        cases found : Frame.decode bytes limit with
        | error e => rw [Frame.parse_of_error found]
        | ok f =>
            rw [Frame.parse_of_ok found] at drained
            simp at drained
      refine ⟨?_, rfl, ?_, ?_⟩
      · simpa [Reader.intake, left] using held
      · intro k
        simpa [Reader.intake, framesOf] using drained.symm
      · intro k h
        exact absurd h (Nat.not_lt_zero k)
  | cons piece pieces ih =>
      obtain ⟨answer, left⟩ := refines.takeAll (refines.write held pool piece)
      have resume : ∀ more : Bytes, Frame.parse limit (bytes ++ (piece ++ more)) =
          (Frame.parse limit ((Frame.parse limit (bytes ++ piece)).rest ++ more)).after
            (Frame.parse limit (bytes ++ piece)).frames := by
        intro more
        rw [← List.append_assoc, Frame.parse_append]
      have drained' : (Frame.parse limit (Frame.parse limit (bytes ++ piece)).rest).frames = [] := by
        rw [Frame.parse_rest]
      obtain ⟨final, answered, frames, faults⟩ := ih left drained' (r.write s pool piece).2
      refine ⟨?_, ?_, ?_, ?_⟩
      · rw [List.flatten_cons, resume]
        exact final
      · simpa [Reader.intake] using answered
      · intro k
        cases k with
        | zero => simpa [framesOf] using drained.symm
        | succ k =>
            rw [List.take_succ_cons, List.flatten_cons, resume, Parse.frames_after, ← frames k]
            simp only [Reader.intake, framesOf, List.take_succ_cons, List.flatMap_cons, answer]
      · intro k h
        rw [List.take_succ_cons, List.flatten_cons, resume, Parse.violation?_after]
        cases k with
        | zero =>
            rw [List.take_zero, List.flatten_nil, List.append_nil, Frame.parse_rest]
            simp only [Reader.intake, List.getElem_cons_zero, answer, Parse.violation?]
        | succ k => exact faults k (Nat.lt_of_succ_lt_succ h)

end Refines

/-- An assembler refines its unread bytes. -/
theorem assembler_refines (limit : Nat) :
    Refines assembler limit fun a bytes =>
      a.Sound ∧ a.unread = bytes ∧ a.bodyLimit = limit where
  write := by
    rintro a _ ⟨sound, rfl, rfl⟩ pool data
    obtain ⟨sound', appended⟩ := sound.write pool data
    exact ⟨sound', appended, a.bodyLimit_write pool data⟩
  next_ok := by
    rintro a _ f ⟨sound, rfl, rfl⟩ found
    obtain ⟨sound', advanced⟩ := sound.advance (Frame.size_le_of_decode found)
    refine ⟨_, ?_, sound', advanced, rfl⟩
    exact sound.next_eq.trans (by rw [found])
  next_error := by
    rintro a _ e ⟨sound, rfl, rfl⟩ refused
    exact sound.next_eq.trans (by rw [refused])
  buffered := by
    rintro a _ ⟨sound, rfl, rfl⟩
    exact sound.length_unread.symm

/-- A session refines the unread bytes of its assembler. -/
theorem session_refines (limit : Nat) :
    Refines session limit fun s bytes =>
      s.assembler.Sound ∧ s.assembler.unread = bytes ∧ s.assembler.bodyLimit = limit where
  write := by
    intro s bytes held pool data
    exact (assembler_refines limit).write held pool data
  next_ok := by
    intro s bytes f held found
    obtain ⟨a, taken, held'⟩ := (assembler_refines limit).next_ok held found
    refine ⟨{ s with assembler := a }, ?_, held'⟩
    change s.assembler.next.map _ = _
    rw [show s.assembler.next = _ from taken]
    rfl
  next_error := by
    intro s bytes e held refused
    have stopped := (assembler_refines limit).next_error held refused
    change s.assembler.next.map _ = _
    rw [show s.assembler.next = _ from stopped]
    split <;> rfl
  buffered := by
    intro s bytes held
    exact (assembler_refines limit).buffered held

/-- The answers of a reader to the pieces of a stream are those that parsing the stream as a whole
gives, each as early as can be. -/
def Agrees (r : Reader σ) (limit : Nat) (start : σ × BufferPool) (pieces : List Bytes) : Prop :=
  let whole := Frame.parse limit pieces.flatten
  let answers := (r.intake start pieces).1
  framesOf answers = whole.frames ∧
    answers.length = pieces.length ∧
    (∀ k, (h : k < answers.length) →
      answers[k].fault? =
          (if whole.stop.isViolation ∧
              whole.used + headerSize ≤ (pieces.take (k + 1)).flatten.length then
            some whole.stop
          else none) ∧
        (answers[k].fault? ≠ none → framesOf (answers.take (k + 1)) = whole.frames)) ∧
    Frame.decode (pieces.flatten.drop whole.used) limit = .error whole.stop ∧
    (whole.stop.isViolation = false →
      r.buffered (r.intake start pieces).2.1 + whole.used = pieces.flatten.length)

theorem Refines.agrees {r : Reader σ} {limit : Nat} {holds : σ → Bytes → Prop}
    (refines : Refines r limit holds) {s : σ} (fresh : holds s []) (pool : BufferPool)
    (pieces : List Bytes) : r.Agrees limit (s, pool) pieces := by
  have nothing : (Frame.parse limit []).frames = [] := by
    rw [Frame.parse_of_error (Frame.decode_of_header_error (Header.decode_of_lt (by decide)))]
  obtain ⟨final, answered, frames, faults⟩ := refines.intake fresh nothing pool pieces
  simp only [List.nil_append] at final frames faults
  have all : framesOf (r.intake (s, pool) pieces).1 = (Frame.parse limit pieces.flatten).frames := by
    have last := frames pieces.length
    rwa [List.take_of_length_le (Nat.le_of_eq answered), List.take_length] at last
  have split : ∀ k, pieces.flatten = (pieces.take k).flatten ++ (pieces.drop k).flatten := by
    intro k
    rw [← List.flatten_append, List.take_append_drop]
  refine ⟨all, answered, ?_, ?_, ?_⟩
  · intro k h
    have fault := faults k h
    refine ⟨?_, ?_⟩
    · rw [fault, split (k + 1)]
      exact Frame.violation?_of_append limit _ _
    · intro reported
      rw [fault] at reported
      have bad := Parse.isViolation_of_violation? reported
      rw [frames (k + 1), split (k + 1), Frame.parse_append_of_violation bad]
  · rw [Frame.drop_used]
    exact Frame.decode_rest limit _
  · intro _
    rw [refines.buffered final, Nat.add_comm]
    exact Frame.used_add_length_rest limit _

/-- Frames do not depend on how a stream is cut into pieces, for any limit, any first size of the
buffer and any pool: an assembler, and a session around it, gives the frames and the violation of
the stream as a whole. A violation is reported with the first piece that completes the header at
fault and with every piece after it, and not before all frames ahead of it were given. Without a
violation what no frame has used stays buffered. -/
theorem intake_agrees_with_parse (pool : BufferPool) (initial limit : Nat) (pieces : List Bytes) :
    assembler.Agrees limit (Assembler.new pool initial limit) pieces ∧
      ∀ (id : String) (client : Nat) (subscriptions : List String),
        session.Agrees limit
          (⟨id, client, (Assembler.new pool initial limit).1, subscriptions⟩,
            (Assembler.new pool initial limit).2) pieces := by
  have fresh : (Assembler.new pool initial limit).1.Sound ∧
      (Assembler.new pool initial limit).1.unread = [] ∧
      (Assembler.new pool initial limit).1.bodyLimit = limit :=
    ⟨Assembler.sound_new pool initial limit, Assembler.unread_new pool initial limit, rfl⟩
  constructor
  · exact (assembler_refines limit).agrees fresh _ pieces
  · intro id client subscriptions
    exact (session_refines limit).agrees fresh _ pieces

end Reader

end MessageBroker.Stream
