import Mathlib.Algebra.GroupWithZero.Nat
import MessageBroker.Wire.Frame

/-!
# Reading frames off the front of a byte string

`Frame.parse` applies `Frame.decode` to the front of a byte string again and again, until what is
left is incomplete or breaks the protocol. It is the meaning of a stream of bytes: all frames that
are there, the reason why there are no more, and the bytes that no frame has used.

A header is judged by its own bytes, and a frame is read from its own bytes. Hence parsing may be
interrupted anywhere: to parse `x ++ y` is to parse `x`, and then what was left of it with `y` after
it. A violation is visible in a piece of the stream exactly if the piece contains all of the header
that is at fault.
-/

namespace MessageBroker

theorem Bytes.take?_of_le {n : Nat} {bs : Bytes} (h : n ≤ bs.length) :
    Bytes.take? n bs = some (bs.take n, bs.drop n) := by
  simp [Bytes.take?, h]

theorem Bytes.take?_of_lt {n : Nat} {bs : Bytes} (h : bs.length < n) :
    Bytes.take? n bs = none := by
  have short : ¬ (bs.take n).length = n := by
    rw [List.length_take]
    omega
  rw [Bytes.take?, if_neg short]

namespace Wire

namespace Header

theorem decode_of_lt {data : Bytes} {limit : Nat} (h : data.length < headerSize) :
    decode data limit = .error (.incomplete (headerSize - data.length)) := by
  rw [decode, Bytes.take?_of_lt h]

/-- A header that is there is read from its own bytes alone. -/
theorem decode_take {data : Bytes} {limit : Nat} (h : headerSize ≤ data.length) :
    decode (data.take headerSize) limit = decode data limit := by
  have own : headerSize ≤ (data.take headerSize).length := by simp [h]
  simp only [decode, Bytes.take?_of_le h, Bytes.take?_of_le own, List.take_take, Nat.min_self]

theorem decode_append {data : Bytes} {limit : Nat} (h : headerSize ≤ data.length) (more : Bytes) :
    decode (data ++ more) limit = decode data limit := by
  have longer : headerSize ≤ (data ++ more).length := by
    rw [List.length_append]
    omega
  rw [← decode_take longer, ← decode_take h, List.take_append_of_le_length h]

theorem checkLength_eq_ok {length limit checked : Nat} (h : checkLength length limit = .ok checked) :
    checked = length ∧ countedHeader ≤ length ∧ length - countedHeader ≤ limit := by
  unfold checkLength at h
  split at h
  · cases h
  · split at h
    · cases h
    · cases h
      exact ⟨rfl, by omega, by omega⟩

theorem isViolation_of_checkLength {length limit : Nat} {e : Error}
    (h : checkLength length limit = .error e) : e.isViolation = true := by
  unfold checkLength at h
  split at h
  · cases h
    rfl
  · split at h
    · cases h
      rfl
    · cases h

/-- A header that is accepted leaves room for itself in the frame it announces. -/
theorem decode_eq_ok {data : Bytes} {limit : Nat} {header : Header}
    (h : decode data limit = .ok header) :
    headerSize ≤ data.length ∧ headerSize ≤ header.frameSize := by
  by_cases long : headerSize ≤ data.length
  · refine ⟨long, ?_⟩
    rw [decode, Bytes.take?_of_le long] at h
    simp only at h
    split at h
    · cases h
    · rename_i length checked
      obtain ⟨rfl, room, -⟩ := checkLength_eq_ok checked
      split at h
      · cases h
      · cases h
        simp only [frameSize, headerSize, countedHeader] at room ⊢
        omega
  · rw [decode_of_lt (by omega)] at h
    cases h

/-- Once all bytes of a header are there, whatever is wrong with it is a violation. -/
theorem isViolation_of_decode {data : Bytes} {limit : Nat} {e : Error}
    (long : headerSize ≤ data.length) (h : decode data limit = .error e) :
    e.isViolation = true := by
  rw [decode, Bytes.take?_of_le long] at h
  simp only at h
  split at h
  · rename_i fault checked
    cases h
    exact isViolation_of_checkLength checked
  · split at h
    · cases h
      rfl
    · cases h

end Header

namespace Frame

/-- A frame is read from its own bytes, those after them do not matter. -/
theorem decode_of_header {data : Bytes} {limit : Nat} {header : Header}
    (accepted : Header.decode data limit = .ok header) :
    decode data limit =
      if header.frameSize ≤ data.length then
        .ok ⟨header.kind, header.id, (data.take header.frameSize).drop headerSize⟩
      else .error (.incomplete (header.frameSize - data.length)) := by
  simp only [decode, accepted]
  by_cases whole : header.frameSize ≤ data.length
  · rw [Bytes.take?_of_le whole, if_pos whole]
  · have short : data.length < header.frameSize := by omega
    rw [Bytes.take?_of_lt short, if_neg whole]

theorem decode_of_header_error {data : Bytes} {limit : Nat} {e : Error}
    (refused : Header.decode data limit = .error e) : decode data limit = .error e := by
  rw [decode, refused]

/-- What a frame that was read says about the bytes it was read from. -/
theorem decode_eq_ok {data : Bytes} {limit : Nat} {f : Frame} (h : decode data limit = .ok f) :
    ∃ header, Header.decode data limit = .ok header ∧ f.size = header.frameSize ∧
      header.frameSize ≤ data.length := by
  cases accepted : Header.decode data limit with
  | error e =>
      rw [decode_of_header_error accepted] at h
      cases h
  | ok header =>
      refine ⟨header, rfl, ?_⟩
      have room := (Header.decode_eq_ok accepted).2
      rw [decode_of_header accepted] at h
      split at h
      · rename_i whole
        cases h
        refine ⟨?_, whole⟩
        simp only [size, List.length_drop, List.length_take, Nat.min_eq_left whole]
        omega
      · cases h

theorem size_le_of_decode {data : Bytes} {limit : Nat} {f : Frame}
    (h : decode data limit = .ok f) : f.size ≤ data.length := by
  obtain ⟨header, -, size, whole⟩ := decode_eq_ok h
  rw [size]
  exact whole

theorem headerSize_le_size (f : Frame) : headerSize ≤ f.size := by
  rw [size]
  omega

theorem size_pos (f : Frame) : 0 < f.size := by
  rw [size, headerSize]
  omega

@[simp] theorem length_encode (f : Frame) : f.encode.length = f.size := by
  simp only [encode, Header.encode, List.length_append, List.length_cons, Bytes.length_bigEndian,
    CorrelationId.length_toBytes, size, headerSize]

theorem decode_append {data : Bytes} {limit : Nat} {f : Frame} (h : decode data limit = .ok f)
    (more : Bytes) : decode (data ++ more) limit = .ok f := by
  obtain ⟨header, accepted, -, whole⟩ := decode_eq_ok h
  have long := (Header.decode_eq_ok accepted).1
  have accepted' : Header.decode (data ++ more) limit = .ok header := by
    rw [Header.decode_append long, accepted]
  have whole' : header.frameSize ≤ (data ++ more).length := by
    rw [List.length_append]
    omega
  rw [decode_of_header accepted, if_pos whole] at h
  rw [decode_of_header accepted', if_pos whole', List.take_append_of_le_length whole, h]

/-- A frame is refused for its header, or because bytes are missing. -/
theorem decode_eq_error {data : Bytes} {limit : Nat} {e : Error}
    (h : decode data limit = .error e) :
    (e.isViolation = true ∧ headerSize ≤ data.length ∧ Header.decode data limit = .error e) ∨
      ∃ missing, e = .incomplete missing := by
  by_cases long : headerSize ≤ data.length
  · cases accepted : Header.decode data limit with
    | error fault =>
        rw [decode_of_header_error accepted] at h
        cases h
        exact .inl ⟨Header.isViolation_of_decode long accepted, long, rfl⟩
    | ok header =>
        rw [decode_of_header accepted] at h
        split at h
        · cases h
        · cases h
          exact .inr ⟨_, rfl⟩
  · rw [decode_of_header_error (Header.decode_of_lt (by omega))] at h
    cases h
    exact .inr ⟨_, rfl⟩

/-- A violation shows as soon as the header is there, and nothing that follows hides it. -/
theorem decode_violation_iff {data : Bytes} {limit : Nat} {e : Error} (bad : e.isViolation = true) :
    decode data limit = .error e ↔
      headerSize ≤ data.length ∧ Header.decode data limit = .error e := by
  constructor
  · intro h
    rcases decode_eq_error h with ⟨-, long, refused⟩ | ⟨missing, rfl⟩
    · exact ⟨long, refused⟩
    · cases bad
  · rintro ⟨-, refused⟩
    exact decode_of_header_error refused

theorem decode_violation_append {data : Bytes} {limit : Nat} {e : Error}
    (bad : e.isViolation = true) (h : decode data limit = .error e) (more : Bytes) :
    decode (data ++ more) limit = .error e := by
  obtain ⟨long, refused⟩ := (decode_violation_iff bad).mp h
  exact decode_of_header_error ((Header.decode_append long more).trans refused)

end Frame

/-- What is read off the front of a byte string: frames, why there are no more of them, and the
bytes that are left. -/
structure Parse where
  frames : List Frame
  stop : Error
  rest : Bytes
deriving DecidableEq, Repr

namespace Parse

/-- The number of bytes that the frames take up on the wire. -/
def used (p : Parse) : Nat :=
  (p.frames.map fun f => f.encode.length).sum

/-- The violation that ends the frames, if one does. -/
def violation? (p : Parse) : Option Error :=
  if p.stop.isViolation then some p.stop else none

/-- The same with frames ahead. -/
def after (frames : List Frame) (p : Parse) : Parse :=
  { p with frames := frames ++ p.frames }

@[simp] theorem frames_after (frames : List Frame) (p : Parse) :
    (p.after frames).frames = frames ++ p.frames := rfl

@[simp] theorem stop_after (frames : List Frame) (p : Parse) : (p.after frames).stop = p.stop := rfl

@[simp] theorem rest_after (frames : List Frame) (p : Parse) : (p.after frames).rest = p.rest := rfl

@[simp] theorem violation?_after (frames : List Frame) (p : Parse) :
    (p.after frames).violation? = p.violation? := rfl

theorem isViolation_of_violation? {p : Parse} (h : p.violation? ≠ none) :
    p.stop.isViolation = true := by
  by_cases bad : p.stop.isViolation = true
  · exact bad
  · rw [violation?, if_neg bad] at h
    exact absurd rfl h

@[simp] theorem after_nil (p : Parse) : p.after [] = p := rfl

@[simp] theorem after_after (p : Parse) (first second : List Frame) :
    (p.after second).after first = p.after (first ++ second) := by
  simp [after]

@[simp] theorem used_after (frames : List Frame) (p : Parse) :
    (p.after frames).used = (frames.map fun f => f.encode.length).sum + p.used := by
  simp [used]

end Parse

/-- Read frames off the front of a byte string until `Frame.decode` refuses what is left. -/
def Frame.parse (limit : Nat) (data : Bytes) : Parse :=
  match found : Frame.decode data limit with
  | .error e => ⟨[], e, data⟩
  | .ok f =>
    have := size_le_of_decode found
    (Frame.parse limit (data.drop f.size)).after [f]
termination_by data.length
decreasing_by
  have progress := f.size_pos
  rw [List.length_drop]
  omega

namespace Frame

variable {limit : Nat}

theorem parse_of_error {data : Bytes} {e : Error} (h : decode data limit = .error e) :
    parse limit data = ⟨[], e, data⟩ := by
  rw [parse]
  split
  · rename_i fault refused
    rw [h] at refused
    cases refused
    rfl
  · rename_i f found
    rw [h] at found
    cases found

theorem parse_of_ok {data : Bytes} {f : Frame} (h : decode data limit = .ok f) :
    parse limit data = (parse limit (data.drop f.size)).after [f] := by
  rw [parse]
  split
  · rename_i fault refused
    rw [h] at refused
    cases refused
  · rename_i g found
    rw [h] at found
    cases found
    rfl

/-- Induction along the frames at the front of a byte string. -/
theorem parse_induction (limit : Nat) {motive : Bytes → Prop}
    (stop : ∀ data e, decode data limit = .error e → motive data)
    (frame : ∀ data f, decode data limit = .ok f → motive (data.drop f.size) → motive data)
    (data : Bytes) : motive data := by
  induction length : data.length using Nat.strongRecOn generalizing data with
  | _ n ih =>
      cases found : decode data limit with
      | error e => exact stop data e found
      | ok f =>
          have := size_le_of_decode found
          have progress := f.size_pos
          have dropped : (data.drop f.size).length < n := by
            rw [List.length_drop]
            omega
          exact frame data f found (ih _ dropped _ rfl)

/-- The error is that of `decode` on the bytes that are left. -/
theorem decode_rest (limit : Nat) (data : Bytes) :
    decode (parse limit data).rest limit = .error (parse limit data).stop := by
  induction data using parse_induction limit with
  | stop data e h =>
      rw [parse_of_error h]
      exact h
  | frame data f h ih =>
      rw [parse_of_ok h]
      exact ih

/-- The bytes that are left follow those of the frames. -/
theorem drop_used (limit : Nat) (data : Bytes) :
    data.drop (parse limit data).used = (parse limit data).rest := by
  induction data using parse_induction limit with
  | stop data e h =>
      rw [parse_of_error h]
      simp [Parse.used]
  | frame data f h ih =>
      rw [parse_of_ok h, Parse.used_after, ← List.drop_drop]
      simpa using ih

/-- Every byte is used by a frame or left. -/
theorem used_add_length_rest (limit : Nat) (data : Bytes) :
    (parse limit data).used + (parse limit data).rest.length = data.length := by
  induction data using parse_induction limit with
  | stop data e h =>
      rw [parse_of_error h]
      simp [Parse.used]
  | frame data f h ih =>
      have shorter := size_le_of_decode h
      rw [List.length_drop] at ih
      rw [parse_of_ok h]
      simp only [Parse.used_after, Parse.rest_after, List.map_cons, List.map_nil, List.sum_cons,
        List.sum_nil, length_encode]
      omega

/-- Parsing may be interrupted anywhere: it goes on with what was left. -/
theorem parse_append (limit : Nat) (x y : Bytes) :
    parse limit (x ++ y) =
      (parse limit ((parse limit x).rest ++ y)).after (parse limit x).frames := by
  induction x using parse_induction limit with
  | stop x e h =>
      rw [parse_of_error h]
      rfl
  | frame x f h ih =>
      have whole := size_le_of_decode h
      rw [parse_of_ok (decode_append h y), parse_of_ok h, List.drop_append_of_le_length whole, ih]
      simp

/-- What is left of a byte string yields nothing more. -/
theorem parse_rest (limit : Nat) (data : Bytes) :
    parse limit (parse limit data).rest = ⟨[], (parse limit data).stop, (parse limit data).rest⟩ :=
  parse_of_error (decode_rest limit data)

/-- The reason to stop is a violation, or bytes are missing. -/
theorem stop_cases (limit : Nat) (data : Bytes) :
    (parse limit data).stop.isViolation = true ∨
      ∃ missing, (parse limit data).stop = .incomplete missing := by
  rcases decode_eq_error (decode_rest limit data) with ⟨bad, -, -⟩ | incomplete
  · exact .inl bad
  · exact .inr incomplete

/-- A violation lies in the first bytes that are left, all of which are there. -/
theorem headerSize_le_rest {data : Bytes} (bad : (parse limit data).stop.isViolation = true) :
    headerSize ≤ (parse limit data).rest.length :=
  ((decode_violation_iff bad).mp (decode_rest limit data)).1

/-- Bytes after a violation change nothing but the bytes that are left. -/
theorem parse_append_of_violation {x : Bytes} (bad : (parse limit x).stop.isViolation = true)
    (y : Bytes) :
    parse limit (x ++ y) =
      ⟨(parse limit x).frames, (parse limit x).stop, (parse limit x).rest ++ y⟩ := by
  rw [parse_append, parse_of_error (decode_violation_append bad (decode_rest limit x) y)]
  simp [Parse.after]

/-- If a piece shows no violation, the first fault after it lies too far back for the piece to hold
all of its header. -/
theorem length_lt_of_incomplete {x y : Bytes} {missing : Nat}
    (incomplete : (parse limit x).stop = .incomplete missing)
    (bad : (parse limit (x ++ y)).stop.isViolation = true) :
    x.length < (parse limit (x ++ y)).used + headerSize := by
  have total := used_add_length_rest limit x
  have left := decode_rest limit x
  rw [parse_append] at bad ⊢
  simp only [Parse.stop_after, Parse.used_after] at bad ⊢
  rw [show ((parse limit x).frames.map fun f => f.encode.length).sum = (parse limit x).used from rfl]
  cases next : decode ((parse limit x).rest ++ y) limit with
  | error e =>
      -- The fault is at the front of what is left, and its header does not fit into the piece.
      rw [parse_of_error next] at bad
      apply Nat.lt_of_not_le
      intro contained
      have long : headerSize ≤ (parse limit x).rest.length := by omega
      obtain ⟨-, refused⟩ := (decode_violation_iff bad).mp next
      rw [Header.decode_append long] at refused
      rw [decode_of_header_error refused, incomplete] at left
      cases left
      cases bad
  | ok f =>
      -- A frame comes first that the piece does not hold as a whole.
      obtain ⟨header, accepted, size, -⟩ := decode_eq_ok next
      have longer : (parse limit x).rest.length < f.size := by
        apply Nat.lt_of_not_le
        intro whole
        have long : headerSize ≤ (parse limit x).rest.length := by
          have := f.headerSize_le_size
          omega
        rw [Header.decode_append long] at accepted
        rw [decode_of_header accepted, if_pos (by omega)] at left
        cases left
      rw [parse_of_ok next]
      simp only [Parse.used_after, List.map_cons, List.map_nil, List.sum_cons, List.sum_nil,
        length_encode]
      omega

/-- A piece of a stream shows the violation that ends the frames of the whole exactly if it contains
the header at fault. -/
theorem violation?_of_append (limit : Nat) (x y : Bytes) :
    (parse limit x).violation? =
      if (parse limit (x ++ y)).stop.isViolation ∧
          (parse limit (x ++ y)).used + headerSize ≤ x.length then
        some (parse limit (x ++ y)).stop
      else none := by
  rcases stop_cases limit x with bad | ⟨missing, incomplete⟩
  · have total := used_add_length_rest limit x
    have header := headerSize_le_rest bad
    have whole := parse_append_of_violation bad y
    rw [if_pos ⟨by rw [whole, bad], by rw [whole]; simp only [Parse.used] at total ⊢; omega⟩, whole,
      Parse.violation?, if_pos bad]
  · rw [if_neg, Parse.violation?, incomplete]
    · rfl
    · rintro ⟨bad, contained⟩
      have := length_lt_of_incomplete incomplete bad
      omega

end Frame

end Wire

end MessageBroker
