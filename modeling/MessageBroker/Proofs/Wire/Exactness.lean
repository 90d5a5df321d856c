import MessageBroker.Proofs.Wire.Parsing

/-!
# The wire form is exact

Writing and reading are inverse to each other: a frame is read from the front of a byte string
exactly if its wire form stands there and its body respects the limit. Short of a whole frame the
reader says how many bytes are missing, first of the header and then of the frame. A header at fault
is refused as soon as it is there, for the first of its faults.
-/

namespace MessageBroker.Wire

/-- Eight bytes stand for a kind. -/
theorem Kind.ofTag?_eq_none_iff {tag : UInt8} : ofTag? tag = none ↔ tag < 1 ∨ 8 < tag := by
  unfold ofTag?
  grind

namespace Header

variable {limit : Nat}

@[simp] theorem length_encode (h : Header) : h.encode.length = headerSize := by
  simp [encode, headerSize]

/-- What a header says that is accepted: the length field holds its length, which counts the rest of
the header and a body within the limit. -/
structure Sound (h : Header) (limit : Nat) : Prop where
  fits : h.length < lengthBound
  counted : countedHeader ≤ h.length
  allowed : h.length - countedHeader ≤ limit

/-- A header is read back from its wire form. -/
theorem decode_encode {h : Header} (sound : h.Sound limit) (more : Bytes) :
    decode (h.encode ++ more) limit = .ok h := by
  have front : Bytes.take? headerSize (h.encode ++ more) = some (h.encode, more) := by
    rw [← h.length_encode]
    exact Bytes.take?_append h.encode more
  have digits : h.encode.take 4 = Bytes.bigEndian 4 h.length :=
    List.take_left' (Bytes.length_bigEndian 4 h.length)
  have rest : h.encode.drop 4 = h.kind.tag :: h.id.toBytes :=
    List.drop_left' (Bytes.length_bigEndian 4 h.length)
  have tag : h.encode.getD 4 0 = h.kind.tag := by
    rw [List.getD_eq_getElem?_getD, ← Nat.add_zero 4, ← List.getElem?_drop, rest]
    rfl
  have id : h.encode.drop 5 = h.id.toBytes := by
    rw [← List.drop_drop (i := 1) (j := 4), rest]
    rfl
  have number : Bytes.toNat (Bytes.bigEndian 4 h.length) = h.length :=
    Bytes.toNat_bigEndian sound.fits
  have checked : checkLength h.length limit = .ok h.length := by
    rw [checkLength, if_neg (Nat.not_lt.2 sound.counted), if_neg (Nat.not_lt.2 sound.allowed)]
  simp only [decode, front, digits, tag, id, number, checked, Kind.ofTag?_tag,
    CorrelationId.ofBytes_toBytes]

/-- The parts of the wire form of a header. -/
theorem fields_eq {fields : Bytes} (size : fields.length = headerSize) :
    fields = fields.take 4 ++ fields.getD 4 0 :: fields.drop 5 := by
  have room : 4 < fields.length := by
    rw [size]
    decide
  rw [List.getD_eq_getElem?_getD, List.getElem?_eq_getElem room, Option.getD_some,
    ← List.drop_eq_getElem_cons, List.take_append_drop]

/-- A header that is read stands at the front in its wire form. -/
theorem encode_of_decode {data : Bytes} {h : Header} (accepted : decode data limit = .ok h) :
    h.Sound limit ∧ data.take headerSize = h.encode := by
  have long := (decode_eq_ok accepted).1
  have size : (data.take headerSize).length = headerSize := by simp [long]
  rw [decode, Bytes.take?_of_le long] at accepted
  simp only at accepted
  generalize data.take headerSize = fields at accepted size ⊢
  have digits : (fields.take 4).length = 4 := by simp [size, headerSize]
  have bytes : (fields.drop 5).length = 16 := by simp [size, headerSize]
  split at accepted
  · cases accepted
  · rename_i length checked
    obtain ⟨rfl, counted, allowed⟩ := checkLength_eq_ok checked
    split at accepted
    · cases accepted
    · rename_i kind known
      cases accepted
      have fits := Bytes.toNat_lt (fields.take 4)
      have number := Bytes.bigEndian_toNat (fields.take 4)
      rw [digits] at fits number
      refine ⟨⟨fits, counted, allowed⟩, ?_⟩
      simp only [encode, number, Kind.tag_of_ofTag? known, CorrelationId.toBytes_ofBytes bytes]
      exact fields_eq size

/-- Of several faults of a header that is there, the first counts: its length, the size of its body,
its kind. -/
theorem decode_of_length {header : Bytes} (size : header.length = headerSize) (more : Bytes) :
    decode (header ++ more) limit =
      if Bytes.toNat (header.take 4) < countedHeader then
        .error (.shortLength (Bytes.toNat (header.take 4)))
      else if limit < Bytes.toNat (header.take 4) - countedHeader then
        .error (.tooLarge (Bytes.toNat (header.take 4) - countedHeader) limit)
      else
        match Kind.ofTag? (header.getD 4 0) with
        | none => .error (.unknownKind (header.getD 4 0))
        | some kind =>
          .ok ⟨Bytes.toNat (header.take 4), kind, CorrelationId.ofBytes (header.drop 5)⟩ := by
  have front : Bytes.take? headerSize (header ++ more) = some (header, more) := by
    rw [← size]
    exact Bytes.take?_append header more
  simp only [decode, front, checkLength]
  by_cases short : Bytes.toNat (header.take 4) < countedHeader
  · simp only [if_pos short]
  · by_cases large : limit < Bytes.toNat (header.take 4) - countedHeader
    · simp only [if_neg short, if_pos large]
    · cases Kind.ofTag? (header.getD 4 0) with
      | none => simp only [if_neg short, if_neg large]
      | some kind => simp only [if_neg short, if_neg large]

end Header

namespace Frame

variable {limit : Nat}

/-- A frame that can be written is a sound header with a body. -/
theorem sound_header {f : Frame} (fits : countedHeader + f.body.length < lengthBound)
    (allowed : f.body.length ≤ limit) : f.header.Sound limit where
  fits := fits
  counted := Nat.le_add_right _ _
  allowed := by
    rw [header, Nat.add_sub_cancel_left]
    exact allowed

theorem encode?_eq_ok {f : Frame} {whole : Bytes} :
    f.encode? = .ok whole ↔ countedHeader + f.body.length < lengthBound ∧ f.encode = whole := by
  unfold encode? checkBody
  by_cases fits : countedHeader + f.body.length < lengthBound
  · simp [fits]
  · simp [fits]

/-- What is said of a body that the length field cannot count. -/
theorem encode?_of_large {f : Frame} (large : lengthBound ≤ countedHeader + f.body.length) :
    f.encode? = .error (.tooLarge f.body.length (lengthBound - 1 - countedHeader)) := by
  rw [encode?, checkBody, if_neg (Nat.not_lt.2 large)]

theorem frameSize_header (f : Frame) : f.header.frameSize = f.size := by
  simp only [Header.frameSize, header, size, headerSize, countedHeader]
  omega

/-- A frame is read back from its wire form. -/
theorem decode_encode {f : Frame} (fits : countedHeader + f.body.length < lengthBound)
    (allowed : f.body.length ≤ limit) (rest : Bytes) :
    decode (f.encode ++ rest) limit = .ok f := by
  have accepted : Header.decode (f.encode ++ rest) limit = .ok f.header := by
    rw [encode, List.append_assoc]
    exact Header.decode_encode (sound_header fits allowed) (f.body ++ rest)
  have whole : f.header.frameSize ≤ (f.encode ++ rest).length := by
    rw [frameSize_header, List.length_append, length_encode]
    exact Nat.le_add_right _ _
  rw [decode_of_header accepted, if_pos whole, frameSize_header, ← f.length_encode,
    List.take_left, encode, List.drop_left' f.header.length_encode]
  rfl

/-- A frame that is read stands at the front in its wire form. -/
theorem encode_of_decode {data : Bytes} {f : Frame} (found : decode data limit = .ok f) :
    countedHeader + f.body.length < lengthBound ∧ f.body.length ≤ limit ∧
      ∃ rest, data = f.encode ++ rest := by
  obtain ⟨h, accepted, -, whole⟩ := decode_eq_ok found
  obtain ⟨sound, front⟩ := Header.encode_of_decode accepted
  have room := (Header.decode_eq_ok accepted).2
  rw [decode_of_header accepted, if_pos whole] at found
  have same : f = ⟨h.kind, h.id, (data.take h.frameSize).drop headerSize⟩ :=
    (Except.ok.inj found).symm
  have body : countedHeader + f.body.length = h.length := by
    have counted := sound.counted
    rw [same, List.length_drop, List.length_take, Nat.min_eq_left whole, Header.frameSize]
    simp only [headerSize, countedHeader] at counted ⊢
    omega
  have header : f.header = h := by
    rw [Frame.header, body, same]
  refine ⟨by rw [body]; exact sound.fits, ?_, data.drop h.frameSize, ?_⟩
  · have allowed := sound.allowed
    rwa [← body, Nat.add_sub_cancel_left] at allowed
  · have split : data.take headerSize = (data.take h.frameSize).take headerSize := by
      rw [List.take_take, Nat.min_eq_left room]
    rw [encode, header, ← front, split, same, List.take_append_drop, List.take_append_drop]

/-- Short of a whole frame, the bytes that are missing are counted: those of the header as long as it
is not there, and then those of the frame. -/
theorem decode_of_prefix {f : Frame} (fits : countedHeader + f.body.length < lengthBound)
    (allowed : f.body.length ≤ limit) {p : Bytes} (front : p <+: f.encode) (short : p ≠ f.encode) :
    decode p limit = .error (.incomplete
      (if p.length < headerSize then headerSize - p.length else f.size - p.length)) := by
  by_cases begun : p.length < headerSize
  · rw [if_pos begun, decode_of_header_error (Header.decode_of_lt begun)]
  · obtain ⟨more, whole⟩ := front
    have some' : 0 < more.length := by
      refine List.length_pos_iff.2 ?_
      rintro rfl
      exact short (by simpa using whole)
    have size : p.length + more.length = f.size := by
      rw [← List.length_append, whole, length_encode]
    have accepted : Header.decode p limit = .ok f.header := by
      rw [← Header.decode_append (Nat.not_lt.1 begun) more, whole]
      exact Header.decode_encode (sound_header fits allowed) f.body
    rw [if_neg begun, decode_of_header accepted, frameSize_header, if_neg (by omega)]

/-- Reading undoes writing, and nothing else is read: for every byte string, what is read from its
front, what is missing and what is wrong with it. -/
theorem decode_exact (limit : Nat) :
    (∀ data f, decode data limit = .ok f ↔
      f.body.length ≤ limit ∧ ∃ whole rest, f.encode? = .ok whole ∧ data = whole ++ rest) ∧
    (∀ (f : Frame) whole, f.encode? = .ok whole → f.body.length ≤ limit →
      ∀ p, p <+: whole → p ≠ whole → decode p limit = .error (.incomplete
        (if p.length < headerSize then headerSize - p.length else whole.length - p.length))) ∧
    ∀ header more : Bytes, header.length = headerSize →
      let length := Bytes.toNat (header.take 4)
      let tag := header.getD 4 0
      (length < countedHeader →
        decode (header ++ more) limit = .error (.shortLength length)) ∧
      (countedHeader ≤ length → limit < length - countedHeader →
        decode (header ++ more) limit = .error (.tooLarge (length - countedHeader) limit)) ∧
      (countedHeader ≤ length → length - countedHeader ≤ limit → tag < 1 ∨ 8 < tag →
        decode (header ++ more) limit = .error (.unknownKind tag)) := by
  refine ⟨?_, ?_, ?_⟩
  · intro data f
    constructor
    · intro found
      obtain ⟨fits, allowed, rest, whole⟩ := encode_of_decode found
      exact ⟨allowed, f.encode, rest, encode?_eq_ok.2 ⟨fits, rfl⟩, whole⟩
    · rintro ⟨allowed, whole, rest, written, rfl⟩
      obtain ⟨fits, rfl⟩ := encode?_eq_ok.1 written
      exact decode_encode fits allowed rest
  · intro f whole written allowed p front short
    obtain ⟨fits, rfl⟩ := encode?_eq_ok.1 written
    rw [length_encode]
    exact decode_of_prefix fits allowed front short
  · intro header more size length tag
    have judged : Header.decode (header ++ more) limit = _ := Header.decode_of_length size more
    refine ⟨?_, ?_, ?_⟩
    · intro short
      rw [if_pos short] at judged
      exact decode_of_header_error judged
    · intro counted large
      rw [if_neg (Nat.not_lt.2 counted), if_pos large] at judged
      exact decode_of_header_error judged
    · intro counted allowed outside
      have unknown : Kind.ofTag? (header.getD 4 0) = none := Kind.ofTag?_eq_none_iff.2 outside
      rw [if_neg (Nat.not_lt.2 counted), if_neg (Nat.not_lt.2 allowed), unknown] at judged
      exact decode_of_header_error judged

/-- A frame with a body of two bytes. -/
def pair : Frame := ⟨.message, .ofNat 7, [1, 2]⟩

/-- It is read if both are allowed; without its last byte one is missing, and its header alone is
refused if only one is allowed. -/
theorem decode_exact_pair :
    decode pair.encode 2 = .ok pair ∧
      decode pair.encode.dropLast 2 = .error (.incomplete 1) ∧
      decode pair.header.encode 1 = .error (.tooLarge 2 1) := by
  have written : pair.encode? = .ok pair.encode := rfl
  obtain ⟨whole, part, -⟩ := decode_exact 2
  obtain ⟨-, -, fault⟩ := decode_exact 1
  refine ⟨(whole _ _).2 ⟨by decide, _, [], written, by simp⟩, ?_, ?_⟩
  · exact part pair _ written (by decide) _ (List.dropLast_prefix _) (by decide)
  · exact (fault pair.header.encode [] rfl).2.1 (by decide) (by decide)

end Frame

end MessageBroker.Wire
