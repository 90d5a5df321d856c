import MessageBroker.CorrelationId
import MessageBroker.Wire.Error

/-!
# Frames

A frame on the wire is a header of twenty-one bytes and a body. The header holds the number of
bytes after the length field, the kind and the correlation id:

    length (4) | kind (1) | correlation id (16) | body

`Frame.encode?` writes a frame and `Frame.decode` reads one from the front of a byte string. The
header is judged as soon as its bytes are there, before the body has arrived: first the length, then
the size of the body against the limit, then the kind.
-/

namespace MessageBroker.Wire

/-- The size of a whole header. -/
def headerSize : Nat := 21

/-- The largest body a frame may have if no other limit is set. -/
def defaultBodyLimit : Nat := 4 * 1024 * 1024

/-- One more than the largest number the length field can hold. -/
def lengthBound : Nat := 0x100000000

/-- A frame: what it is about, what it answers, and its body. -/
structure Frame where
  kind : Kind
  id : CorrelationId
  body : Bytes
deriving DecidableEq, Repr, Inhabited

/-- The fixed part of a frame. -/
structure Header where
  length : Nat
  kind : Kind
  id : CorrelationId
deriving DecidableEq, Repr

namespace Header

/-- The size of the body that a length field implies; a length below the counted part of the header
implies none. -/
def bodySize? (h : Header) : Option Nat :=
  if countedHeader ≤ h.length then some (h.length - countedHeader) else none

/-- The size of the whole frame. -/
def frameSize (h : Header) : Nat :=
  4 + h.length

/-- The wire form of a header. -/
def encode (h : Header) : Bytes :=
  Bytes.bigEndian 4 h.length ++ h.kind.tag :: h.id.toBytes

end Header

/-- The number in the first four bytes, if there are that many. -/
def readLength? (data : Bytes) : Option Nat :=
  (Bytes.take? 4 data).map fun (digits, _) => Bytes.toNat digits

/-- Accept a length field if it leaves room for the header and its body respects the limit. -/
def checkLength (length limit : Nat) : Except Error Nat :=
  if length < countedHeader then .error (.shortLength length)
  else if limit < length - countedHeader then .error (.tooLarge (length - countedHeader) limit)
  else .ok length

/-- Accept the size of a body if the length field can count it beside the header. -/
def checkBody (size : Nat) : Except Error Nat :=
  if countedHeader + size < lengthBound then .ok size
  else .error (.tooLarge size (lengthBound - 1 - countedHeader))

/-- Read a header from the front of `data`. -/
def Header.decode (data : Bytes) (limit : Nat) : Except Error Header :=
  match Bytes.take? headerSize data with
  | none => .error (.incomplete (headerSize - data.length))
  | some (fields, _) =>
    match checkLength (Bytes.toNat (fields.take 4)) limit with
    | .error e => .error e
    | .ok length =>
      let tag := fields.getD 4 0
      match Kind.ofTag? tag with
      | none => .error (.unknownKind tag)
      | some kind => .ok ⟨length, kind, CorrelationId.ofBytes (fields.drop 5)⟩

namespace Frame

/-- The header of a frame. -/
def header (f : Frame) : Header :=
  ⟨countedHeader + f.body.length, f.kind, f.id⟩

/-- The number of bytes of a frame on the wire. -/
def size (f : Frame) : Nat :=
  headerSize + f.body.length

/-- The wire form of a frame whose body the length field can count. -/
def encode (f : Frame) : Bytes :=
  f.header.encode ++ f.body

/-- The wire form of a frame. A body that the length field cannot count is refused. -/
def encode? (f : Frame) : Except Error Bytes :=
  match checkBody f.body.length with
  | .error e => .error e
  | .ok _ => .ok f.encode

/-- Read a whole frame from the front of `data`. -/
def decode (data : Bytes) (limit : Nat) : Except Error Frame :=
  match Header.decode data limit with
  | .error e => .error e
  | .ok h =>
    match Bytes.take? h.frameSize data with
    | none => .error (.incomplete (h.frameSize - data.length))
    | some (whole, _) => .ok ⟨h.kind, h.id, whole.drop headerSize⟩

end Frame

end MessageBroker.Wire
