/-!
# Hexadecimal digits

Bytes and numbers are shown in lower case hexadecimal in identifiers, in error texts and in
addresses.
-/

namespace MessageBroker.Hex

/-- The lower case digit of a number below sixteen. -/
def digit (n : Nat) : Char :=
  Char.ofNat (if n < 10 then 48 + n else 87 + n)

/-- The two digits of a byte. -/
def byte (b : UInt8) : List Char :=
  [digit (b.toNat / 16), digit (b.toNat % 16)]

/-- The digits of a byte string, two for each byte. -/
def bytes (bs : List UInt8) : String :=
  String.ofList (bs.flatMap byte)

/-- The digits of a number without leading zeros; zero is a single digit. -/
def number (n : Nat) : String :=
  String.ofList (Nat.toDigits 16 n)

/-- The value of a hexadecimal digit of either case. -/
def value? (c : Char) : Option Nat :=
  if '0' ≤ c ∧ c ≤ '9' then some (c.toNat - 48)
  else if 'a' ≤ c ∧ c ≤ 'f' then some (c.toNat - 87)
  else if 'A' ≤ c ∧ c ≤ 'F' then some (c.toNat - 55)
  else none

end MessageBroker.Hex
