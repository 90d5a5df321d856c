import MessageBroker.Hex
import MessageBroker.Wire.Kind

/-!
# What can be wrong with bytes from a peer

Three of these causes mean that the peer broke the protocol; the other two only say that more bytes
are needed than are at hand.
-/

namespace MessageBroker.Wire

/-- Why bytes do not yield what was asked of them. -/
inductive Error where
  /-- A body larger than the limit. -/
  | tooLarge (size limit : Nat)
  /-- A length field too small for the rest of a header. -/
  | shortLength (length : Nat)
  /-- A type byte without a meaning. -/
  | unknownKind (tag : UInt8)
  /-- A body that does not decode as what its kind calls for. -/
  | badBody (kind : Kind)
  /-- Fewer bytes than the frame needs. -/
  | incomplete (missing : Nat)
  /-- A read past the bytes that are buffered. -/
  | underrun (requested available : Nat)
deriving DecidableEq, Repr

/-- The bytes of a header that the length field counts: the type byte and the correlation id. -/
def countedHeader : Nat := 17

namespace Error

/-- Whether the peer is to blame. -/
def isViolation : Error → Bool
  | tooLarge .. | shortLength _ | unknownKind _ | badBody _ => true
  | incomplete _ | underrun .. => false

/-- The text of an error. -/
def message : Error → String
  | tooLarge size limit => s!"Frame body size {size} exceeds maximum {limit}"
  | shortLength length =>
    s!"Malformed frame: declared length {length} is shorter than the {countedHeader} byte header"
  | unknownKind tag =>
    "Malformed frame: unknown payload type 0x" ++ String.ofList (Hex.byte tag)
  | badBody kind => "Malformed frame: " ++ kind.name ++ " body:"
  | incomplete missing => s!"Incomplete frame: need {missing} more bytes"
  | underrun requested available =>
    s!"Buffer underrun: requested {requested} bytes, {available} available"

end Error

end MessageBroker.Wire
