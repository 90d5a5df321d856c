import MessageBroker.Bytes
import MessageBroker.Hex

/-!
# Correlation ids

A 128-bit number links a request to its answer. On the wire it is sixteen bytes, most significant
first; as text it is thirty-two lower case hexadecimal digits in groups of 8, 4, 4, 4 and 12.
The id of a published message is the correlation id of the frame that published it.
-/

namespace MessageBroker

/-- A 128-bit identifier of a request, a delivery or a message. -/
structure CorrelationId where
  bits : BitVec 128
deriving DecidableEq, Repr, Inhabited

namespace CorrelationId

/-- The id with number `n`, taken modulo the number of ids. -/
def ofNat (n : Nat) : CorrelationId :=
  ⟨BitVec.ofNat 128 n⟩

/-- The id as a number. -/
def toNat (id : CorrelationId) : Nat :=
  id.bits.toNat

/-- The sixteen bytes of an id on the wire. -/
def toBytes (id : CorrelationId) : Bytes :=
  Bytes.bigEndian 16 id.toNat

/-- The id that sixteen wire bytes stand for. -/
def ofBytes (bs : Bytes) : CorrelationId :=
  ofNat (Bytes.toNat bs)

/-- The hyphenated text of an id. -/
def text (id : CorrelationId) : String :=
  let digits := id.toBytes.flatMap Hex.byte
  let group := fun start count => String.ofList ((digits.drop start).take count)
  String.intercalate "-" [group 0 8, group 8 4, group 12 4, group 16 4, group 20 12]

/-- Ids are ordered as numbers. -/
def le (a b : CorrelationId) : Bool :=
  a.toNat ≤ b.toNat

/-- The `n`-th id handed out by a broker. It has the version and variant marks of a random id, and
a fixed pattern in the upper half, so that it stays clear of the ids that peers choose. -/
def fresh (n : Nat) : CorrelationId :=
  ofNat (0x9d3f6a51c8274be0a1b2c3d4e5f60718 + n * 0x10000)

@[simp] theorem length_toBytes (id : CorrelationId) : id.toBytes.length = 16 := by
  simp [toBytes]

@[simp] theorem toNat_inj {a b : CorrelationId} : a.toNat = b.toNat ↔ a = b := by
  constructor
  · intro h
    cases a
    cases b
    congr 1
    exact BitVec.eq_of_toNat_eq h
  · rintro rfl
    rfl

@[simp] theorem ofNat_toNat (id : CorrelationId) : ofNat id.toNat = id := by
  simp [ofNat, toNat]

theorem toNat_lt (id : CorrelationId) : id.toNat < Bytes.bound 16 :=
  id.bits.isLt

@[simp] theorem ofBytes_toBytes (id : CorrelationId) : ofBytes id.toBytes = id := by
  rw [ofBytes, toBytes, Bytes.toNat_bigEndian, ofNat_toNat]
  exact Nat.lt_of_lt_of_le id.toNat_lt (by decide)

theorem toBytes_ofBytes {bs : Bytes} (h : bs.length = 16) : (ofBytes bs).toBytes = bs := by
  have hlt := Bytes.toNat_lt bs
  rw [h] at hlt
  have e : (ofNat (Bytes.toNat bs)).toNat = Bytes.toNat bs := by
    simp only [ofNat, toNat, BitVec.toNat_ofNat]
    exact Nat.mod_eq_of_lt (Nat.lt_of_lt_of_le hlt (by decide))
  rw [ofBytes, toBytes, e, ← h]
  exact Bytes.bigEndian_toNat bs

end CorrelationId

end MessageBroker
