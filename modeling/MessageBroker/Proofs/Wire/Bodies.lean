import MessageBroker.Proofs.Pack.Reading
import MessageBroker.Proofs.Wire.Exactness
import MessageBroker.Wire.Body

/-!
# Typed bodies are read back

A body travels as a map from the names of its fields to their values. What is written for it is read
back as the same body, whatever stands behind it, and no part of what is written is read as a body at
all. In a frame this holds for all bodies that the length field can count.
-/

namespace MessageBroker.Wire

open Pack

namespace Body

/-- The texts and the payload of a body, as bytes. -/
def pieces : Body → List Bytes
  | message route payload => [Bytes.ofText route, payload]
  | subscribe queue _ => [Bytes.ofText queue]
  | unsubscribe queue => [Bytes.ofText queue]
  | declare name route => [Bytes.ofText name, Bytes.ofText route]
  | delete name => [Bytes.ofText name]
  | nack reason => [Bytes.ofText reason]

/-- Each text and the payload of a body have fewer than `2 ^ 32` bytes. -/
def Fits (b : Body) : Prop :=
  ∀ piece ∈ b.pieces, piece.length < 2 ^ 32

instance (b : Body) : Decidable b.Fits :=
  inferInstanceAs (Decidable (∀ piece ∈ b.pieces, piece.length < 2 ^ 32))

/-- A text as a field of a record. -/
def textEntry (name value : String) : Field :=
  ⟨name, writeStr (Bytes.ofText value), .str (Bytes.ofText value)⟩

/-- The fields that are written for a body. -/
def entries : Body → List Field
  | message route payload => [textEntry "route" route, ⟨"payload", writeBin payload, .bin payload⟩]
  | subscribe queue none => [textEntry "queue" queue]
  | subscribe queue (some n) =>
    [textEntry "queue" queue, ⟨"concurrency", writeUInt n.toNat, .uint n.toNat⟩]
  | unsubscribe queue => [textEntry "queue" queue]
  | declare name route => [textEntry "name" name, textEntry "route" route]
  | delete name => [textEntry "name" name]
  | nack reason => [textEntry "message" reason]

/-- A body is written as the record of its fields. -/
theorem encode_eq (b : Body) : b.encode = writeFields (b.entries.map Field.written) := by
  cases b with
  | subscribe queue ceiling => cases ceiling <;> rfl
  | _ => rfl

/-- Each text and the payload of a body stands in one of its fields. -/
theorem entry_of_piece {b : Body} {piece : Bytes} (listed : piece ∈ b.pieces) :
    ∃ f ∈ b.entries, f.bytes = writeStr piece ∨ f.bytes = writeBin piece := by
  cases b with
  | subscribe queue ceiling =>
      obtain rfl := List.mem_singleton.1 listed
      cases ceiling <;> exact ⟨_, List.mem_cons_self, .inl rfl⟩
  | message route payload =>
      rcases List.mem_cons.1 listed with rfl | rest
      · exact ⟨_, List.mem_cons_self, .inl rfl⟩
      · obtain rfl := List.mem_singleton.1 rest
        exact ⟨_, List.mem_cons_of_mem _ List.mem_cons_self, .inr rfl⟩
  | declare name route =>
      rcases List.mem_cons.1 listed with rfl | rest
      · exact ⟨_, List.mem_cons_self, .inl rfl⟩
      · obtain rfl := List.mem_singleton.1 rest
        exact ⟨_, List.mem_cons_of_mem _ List.mem_cons_self, .inl rfl⟩
  | unsubscribe queue | delete queue | nack queue =>
      obtain rfl := List.mem_singleton.1 listed
      exact ⟨_, List.mem_cons_self, .inl rfl⟩

/-- What is written for a body holds each of its texts and payloads. -/
theorem length_le_of_piece {b : Body} {piece : Bytes} (listed : piece ∈ b.pieces) :
    piece.length ≤ b.encode.length := by
  obtain ⟨f, entry, written⟩ := entry_of_piece listed
  have own : piece.length ≤ f.bytes.length := by
    rcases written with written | written
    · rw [written, writeStr, List.length_append]
      exact Nat.le_add_left _ _
    · rw [written, writeBin, List.length_append]
      exact Nat.le_add_left _ _
  obtain ⟨before, since, whole⟩ := List.append_of_mem entry
  refine Nat.le_trans own ?_
  rw [encode_eq, writeFields, whole]
  simp only [List.map_append, List.map_cons, List.flatMap_append, List.flatMap_cons,
    List.length_cons, List.length_append, Field.written]
  omega

/-- A body whose written form has fewer than `2 ^ 32` bytes has no longer texts or payloads. -/
theorem fits_of_length {b : Body} (short : b.encode.length < 2 ^ 32) : b.Fits :=
  fun _ listed => Nat.lt_of_le_of_lt (length_le_of_piece listed) short

/-- Every field that is written is read back. -/
theorem denotes_entries {b : Body} (fits : b.Fits) (room : Nat) :
    ∀ f ∈ b.entries, Denotes room f.bytes f.value := by
  have number : ∀ n : UInt32, Denotes room (writeUInt n.toNat) (.uint n.toNat) := fun n =>
    denotes_of_leaf (readHead_writeUInt (Nat.lt_trans n.toNat_lt (by decide))) room
  have text : ∀ value, Bytes.ofText value ∈ b.pieces →
      Denotes room (writeStr (Bytes.ofText value)) (.str (Bytes.ofText value)) :=
    fun value listed => denotes_of_leaf (readHead_writeStr (fits _ listed)) room
  cases b with
  | message route payload =>
      have raw := denotes_of_leaf (readHead_writeBin (fits payload (by simp [pieces]))) room
      exact List.forall_mem_cons.2 ⟨text route List.mem_cons_self, List.forall_mem_singleton.2 raw⟩
  | subscribe queue ceiling =>
      have first := text queue List.mem_cons_self
      cases ceiling with
      | none => exact List.forall_mem_singleton.2 first
      | some n => exact List.forall_mem_cons.2 ⟨first, List.forall_mem_singleton.2 (number n)⟩
  | declare name route =>
      have second := text route (List.mem_cons_of_mem _ List.mem_cons_self)
      exact List.forall_mem_cons.2 ⟨text name List.mem_cons_self, List.forall_mem_singleton.2 second⟩
  | unsubscribe queue | delete queue | nack queue =>
      exact List.forall_mem_singleton.2 (text queue List.mem_cons_self)

/-- The fields that are written are among those of the shape, and stand in their order. -/
theorem names_entries (b : Body) : b.entries.map Field.name <+: b.shape.fields := by
  cases b with
  | subscribe queue ceiling => cases ceiling <;> simp [entries, textEntry, shape, Shape.fields]
  | _ => exact List.prefix_rfl

theorem short_names (b : Body) :
    b.entries.length < 16 ∧ ∀ f ∈ b.entries, (Bytes.ofText f.name).length < 2 ^ 32 := by
  have names := b.names_entries
  have few : ∀ shape : Shape, shape.fields.length < 16 := by
    intro shape
    cases shape <;> decide
  have short : ∀ shape : Shape, ∀ name ∈ shape.fields, (Bytes.ofText name).length < 2 ^ 32 := by
    intro shape
    cases shape <;> decide
  constructor
  · rw [← List.length_map (f := Field.name)]
    exact Nat.lt_of_le_of_lt names.length_le (few b.shape)
  · intro f listed
    exact short b.shape f.name (names.subset (List.mem_map_of_mem listed))

/-- The record of the fields of a body is read as the body. -/
theorem ofSlots?_entries (b : Body) :
    (recordSlots b.shape.fields (.map (b.entries.map Field.entry))).bind
      (fun slots => b.shape.ofSlots? slots) = some b := by
  have text : ∀ value, (Value.str (Bytes.ofText value)).text? = some value := Bytes.text?_ofText
  cases b with
  | message route payload =>
      have slots : recordSlots Shape.message.fields
          (.map ((message route payload).entries.map Field.entry)) =
            some [some (.str (Bytes.ofText route)), some (.bin payload)] := rfl
      simp [shape, slots, Shape.ofSlots?, textSlot?, payloadSlot?, text, Value.payload?, Value.rawString?]
  | subscribe queue ceiling =>
      cases ceiling with
      | none =>
          have slots : recordSlots Shape.subscribe.fields
              (.map ((subscribe queue none).entries.map Field.entry)) =
                some [some (.str (Bytes.ofText queue)), none] := rfl
          simp [shape, slots, Shape.ofSlots?, textSlot?, wordSlot?, text]
      | some n =>
          have slots : recordSlots Shape.subscribe.fields
              (.map ((subscribe queue (some n)).entries.map Field.entry)) =
                some [some (.str (Bytes.ofText queue)), some (.uint n.toNat)] := rfl
          simp [shape, slots, Shape.ofSlots?, textSlot?, wordSlot?, text, Value.nat?, n.toNat_lt]
  | declare name route =>
      have slots : recordSlots Shape.declare.fields
          (.map ((declare name route).entries.map Field.entry)) =
            some [some (.str (Bytes.ofText name)), some (.str (Bytes.ofText route))] := rfl
      simp [shape, slots, Shape.ofSlots?, textSlot?, text]
  | unsubscribe queue | delete queue | nack queue =>
      refine Option.bind_eq_some_iff.2 ⟨[some (.str (Bytes.ofText queue))], rfl, ?_⟩
      simp [shape, Shape.ofSlots?, textSlot?, text]

/-- What is written for a body is the record of it, wherever it stands. -/
theorem denotes_encode {b : Body} (fits : b.Fits) :
    Denotes maxNesting b.encode (.map (b.entries.map Field.entry)) := by
  obtain ⟨few, short⟩ := b.short_names
  rw [encode_eq]
  exact denotes_writeFields few short (denotes_entries fits _)

/-- A body is read back from what is written for it, whatever stands behind it. -/
theorem decode?_encode {b : Body} (fits : b.Fits) (rest : Bytes) :
    decode? b.shape (b.encode ++ rest) = some b := by
  rw [decode?, Value.ofBytes?, denotes_encode fits rest]
  exact b.ofSlots?_entries

/-- No part of what is written for a body is read as a body, of whatever shape. -/
theorem decode?_of_prefix {b : Body} (fits : b.Fits) {p : Bytes} (front : p <+: b.encode)
    (short : p ≠ b.encode) (shape : Shape) : decode? shape p = none := by
  have whole := denotes_encode fits []
  rw [List.append_nil] at whole
  rw [decode?, Value.ofBytes?_of_prefix whole front short]
  rfl

/-- A body that is sent in a frame arrives as it was. The frame can be written if the length field can
count it, and then it is read back under every limit that allows it. Its body is read back also with
more bytes behind it, and any part of the body, be it empty, is refused. -/
theorem frame_round_trip {b : Body} (fits : b.Fits) (id : CorrelationId) :
    ((∃ whole, (b.frame id).encode? = .ok whole) ↔
      countedHeader + b.encode.length < lengthBound) ∧
    (∀ whole limit rest, (b.frame id).encode? = .ok whole → b.encode.length ≤ limit →
      Frame.decode (whole ++ rest) limit = .ok ⟨b.kind, id, b.encode⟩) ∧
    (∀ rest, (⟨b.kind, id, b.encode ++ rest⟩ : Frame).bodyAs b.shape = .ok b) ∧
    ∀ p, p <+: b.encode → p ≠ b.encode →
      (⟨b.kind, id, p⟩ : Frame).bodyAs b.shape = .error (.badBody b.kind) := by
  refine ⟨?_, ?_, ?_, ?_⟩
  · constructor
    · rintro ⟨whole, written⟩
      exact (Frame.encode?_eq_ok.1 written).1
    · intro counted
      exact ⟨(b.frame id).encode, Frame.encode?_eq_ok.2 ⟨counted, rfl⟩⟩
  · intro whole limit rest written allowed
    obtain ⟨counted, rfl⟩ := Frame.encode?_eq_ok.1 written
    exact Frame.decode_encode counted allowed rest
  · intro rest
    rw [Frame.bodyAs, decode?_encode fits rest]
  · intro p front short
    rw [Frame.bodyAs, decode?_of_prefix fits front short]

/-- A subscription with a ceiling that takes three bytes. -/
def roomy : Body := .subscribe "jobs" (some 300)

/-- It is read back from its frame and with a byte behind it. Without the last of its bytes it is
refused, although the name of the queue is there. -/
theorem frame_round_trip_roomy :
    roomy.Fits ∧ Frame.decode (roomy.frame (.ofNat 7)).encode 64 = .ok (roomy.frame (.ofNat 7)) ∧
      (⟨.subscribe, .ofNat 7, roomy.encode ++ [0xc0]⟩ : Frame).bodyAs .subscribe = .ok roomy ∧
      (⟨.subscribe, .ofNat 7, roomy.encode.dropLast⟩ : Frame).bodyAs .subscribe =
        .error (.badBody .subscribe) := by
  have fits : roomy.Fits := by decide
  obtain ⟨-, arrives, more, part⟩ := frame_round_trip fits (.ofNat 7)
  refine ⟨fits, ?_, more [0xc0], part _ (List.dropLast_prefix _) (by decide)⟩
  have whole := arrives (roomy.frame (.ofNat 7)).encode 64 [] rfl (by decide)
  rwa [List.append_nil] at whole

/-- A message cannot be sent with just any payload that a binary string can hold: the frame has more to
count than the payload. -/
theorem payload_outgrows_frame :
    let b := message "jobs" (List.replicate (2 ^ 32 - 1) 0)
    b.Fits ∧ (b.frame (.ofNat 7)).encode? =
      .error (.tooLarge b.encode.length (lengthBound - 1 - countedHeader)) := by
  have size : (List.replicate (2 ^ 32 - 1) (0 : UInt8)).length = 2 ^ 32 - 1 := List.length_replicate
  generalize List.replicate (2 ^ 32 - 1) (0 : UInt8) = payload at size
  intro b
  have listed : payload ∈ b.pieces := List.mem_cons_of_mem _ (List.mem_singleton_self _)
  refine ⟨?_, Frame.encode?_of_large ?_⟩
  · intro piece among
    rcases List.mem_cons.1 among with rfl | rest
    · decide
    · rw [List.mem_singleton.1 rest, size]
      decide
  · have part := length_le_of_piece listed
    have body : (b.frame (.ofNat 7)).body = b.encode := rfl
    rw [body, lengthBound, countedHeader]
    omega

end Body

end MessageBroker.Wire
