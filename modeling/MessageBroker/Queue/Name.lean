/-!
# Queue names

A queue name is printable ASCII text of 1 to 256 bytes. Of several faults the first in the order of
`NameError` is reported.
-/

namespace MessageBroker.Queue

/-- The largest size of a name in bytes. -/
def maxNameSize : Nat := 256

/-- What is wrong with a name. -/
inductive NameError where
  | empty
  | tooLong
  | badCharacter
deriving DecidableEq, Repr

/-- The text of a complaint. -/
def NameError.message : NameError → String
  | empty => "Queue name cannot be empty"
  | tooLong => "Queue name too long"
  | badCharacter => "Queue name contains invalid characters"

/-- Whether a character is printable ASCII, the blank included. -/
def isNameChar (c : Char) : Bool :=
  0x20 ≤ c.toNat && c.toNat < 0x7f

/-- What is wrong with a name, if anything is. -/
def nameFault? (name : String) : Option NameError :=
  if name.isEmpty then some .empty
  else if maxNameSize < name.utf8ByteSize then some .tooLong
  else if name.toList.all isNameChar then none
  else some .badCharacter

end MessageBroker.Queue
