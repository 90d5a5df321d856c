import MessageBroker.Bytes

/-!
# Packed values

Structured bodies travel in MessagePack. A packed value keeps what a reader of a body can tell
apart: whether a number was written as an unsigned or as a signed integer, and whether a string of
bytes was written as text or as binary. Text is kept as raw bytes because it need not be valid
UTF-8 where only bytes are asked for.

The writers below produce the shortest form of each kind of value.
-/

namespace MessageBroker.Pack

/-- A decoded MessagePack value. -/
inductive Value where
  | nil
  | bool (b : Bool)
  /-- An integer in an unsigned form. -/
  | uint (n : Nat)
  /-- An integer in a signed form, of either sign. -/
  | int (i : Int)
  | float (bits : Bytes)
  | str (raw : Bytes)
  | bin (raw : Bytes)
  | array (items : List Value)
  | map (entries : List (Value × Value))
  | ext (tag : UInt8) (raw : Bytes)
deriving Repr, Inhabited

namespace Value

/-- The bytes of a value that stands for a string: text, or binary. -/
def rawString? : Value → Option Bytes
  | .str raw => some raw
  | .bin raw => some raw
  | _ => none

/-- The text of a value that stands for a string and is valid UTF-8. -/
def text? (v : Value) : Option String :=
  v.rawString?.bind Bytes.text?

/-- The value of an integer in whatever form, if it is not negative. -/
def nat? : Value → Option Nat
  | .uint n => some n
  | .int i => if 0 ≤ i then some i.toNat else none
  | _ => none

/-- The value of an integer that fits one byte. -/
def byte? (v : Value) : Option UInt8 :=
  match v.nat? with
  | some n => if n < 256 then some (UInt8.ofNat n) else none
  | none => none

/-- The bytes of a value that stands for an opaque payload: binary, text, or an array of integers
that each fit one byte. -/
def payload? : Value → Option Bytes
  | .array items => items.mapM byte?
  | v => v.rawString?

end Value

/-- The shortest form of an unsigned integer below `2 ^ 64`. -/
def writeUInt (n : Nat) : Bytes :=
  if n < 0x80 then [UInt8.ofNat n]
  else if n < 0x100 then 0xcc :: Bytes.bigEndian 1 n
  else if n < 0x10000 then 0xcd :: Bytes.bigEndian 2 n
  else if n < 0x100000000 then 0xce :: Bytes.bigEndian 4 n
  else 0xcf :: Bytes.bigEndian 8 n

/-- The shortest form of a text of less than `2 ^ 32` bytes. -/
def writeStr (raw : Bytes) : Bytes :=
  let n := raw.length
  (if n < 32 then [UInt8.ofNat (0xa0 + n)]
   else if n < 0x100 then 0xd9 :: Bytes.bigEndian 1 n
   else if n < 0x10000 then 0xda :: Bytes.bigEndian 2 n
   else 0xdb :: Bytes.bigEndian 4 n) ++ raw

/-- The shortest form of a binary string of less than `2 ^ 32` bytes. -/
def writeBin (raw : Bytes) : Bytes :=
  let n := raw.length
  (if n < 0x100 then 0xc4 :: Bytes.bigEndian 1 n
   else if n < 0x10000 then 0xc5 :: Bytes.bigEndian 2 n
   else 0xc6 :: Bytes.bigEndian 4 n) ++ raw

/-- A map of fewer than sixteen fields, each a name with the written form of its value. -/
def writeFields (fields : List (String × Bytes)) : Bytes :=
  UInt8.ofNat (0x80 + fields.length) ::
    fields.flatMap fun field => writeStr (Bytes.ofText field.1) ++ field.2

end MessageBroker.Pack
