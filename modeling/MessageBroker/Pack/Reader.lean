import MessageBroker.Pack.Value

/-!
# Reading packed values

A value starts with a head: one marker byte, with a size or the value itself after it. The head of
a leaf is the whole leaf, the head of an array or a map says how many values follow.

Containers may be nested only so deep. The reader carries the number of containers that may still
be opened, which is also what its recursion follows. An extension counts as a container although
nothing is nested in it.
-/

namespace MessageBroker.Pack

/-- What a marker announces. -/
inductive Head where
  | leaf (v : Value)
  | array (count : Nat)
  | map (count : Nat)
  | ext (size : Nat)
deriving Repr

/-- An unsigned number of `width` bytes. -/
def readNat (width : Nat) (bs : Bytes) : Option (Nat × Bytes) :=
  (Bytes.take? width bs).map fun (digits, rest) => (Bytes.toNat digits, rest)

/-- A two's complement number of `width` bytes. -/
def readInt (width : Nat) (bs : Bytes) : Option (Int × Bytes) :=
  (readNat width bs).map fun (n, rest) =>
    (if 2 * n < Bytes.bound width then (n : Int) else (n : Int) - Bytes.bound width, rest)

/-- A string of bytes with its size in `width` bytes before it. -/
def readSized (width : Nat) (bs : Bytes) : Option (Bytes × Bytes) :=
  (readNat width bs).bind fun (size, rest) => Bytes.take? size rest

/-- The leaf that a reader of its content makes. -/
def leafOf {α : Type} (make : α → Value) (content : Option (α × Bytes)) : Option (Head × Bytes) :=
  content.map fun (a, rest) => (.leaf (make a), rest)

/-- A container whose count or size is written in `width` bytes. -/
def countedOf (make : Nat → Head) (width : Nat) (bs : Bytes) : Option (Head × Bytes) :=
  (readNat width bs).map fun (n, rest) => (make n, rest)

/-- The head at the front of `bs`. Markers of one family follow each other, and the place of a
marker in its family gives the width of what comes next as a power of two. The one marker without a
meaning has no head. -/
def readHead : Bytes → Option (Head × Bytes)
  | [] => none
  | marker :: rest =>
    let m := marker.toNat
    if m < 0x80 then some (.leaf (.uint m), rest)
    else if m < 0x90 then some (.map (m - 0x80), rest)
    else if m < 0xa0 then some (.array (m - 0x90), rest)
    else if m < 0xc0 then leafOf .str (Bytes.take? (m - 0xa0) rest)
    else if m = 0xc0 then some (.leaf .nil, rest)
    else if m = 0xc1 then none
    else if m < 0xc4 then some (.leaf (.bool (m = 0xc3)), rest)
    else if m < 0xc7 then leafOf .bin (readSized (1 <<< (m - 0xc4)) rest)
    else if m < 0xca then countedOf .ext (1 <<< (m - 0xc7)) rest
    else if m < 0xcc then leafOf .float (Bytes.take? (4 <<< (m - 0xca)) rest)
    else if m < 0xd0 then leafOf .uint (readNat (1 <<< (m - 0xcc)) rest)
    else if m < 0xd4 then leafOf .int (readInt (1 <<< (m - 0xd0)) rest)
    else if m < 0xd9 then some (.ext (1 <<< (m - 0xd4)), rest)
    else if m < 0xdc then leafOf .str (readSized (1 <<< (m - 0xd9)) rest)
    else if m < 0xde then countedOf .array (2 <<< (m - 0xdc)) rest
    else if m < 0xe0 then countedOf .map (2 <<< (m - 0xde)) rest
    else some (.leaf (.int ((m : Int) - 256)), rest)

/-- Read `count` items one after the other; `done` are those read already, latest first. -/
def readMany {α : Type} (read : Bytes → Option (α × Bytes)) :
    (count : Nat) → (done : List α) → Bytes → Option (List α × Bytes)
  | 0, done, bs => some (done.reverse, bs)
  | count + 1, done, bs =>
    match read bs with
    | none => none
    | some (a, rest) => readMany read count (a :: done) rest

/-- Read a key and the value that belongs to it. -/
def readEntry (read : Bytes → Option (Value × Bytes)) (bs : Bytes) :
    Option ((Value × Value) × Bytes) :=
  (read bs).bind fun (key, rest) => (read rest).map fun (v, rest) => ((key, v), rest)

/-- Read one value, opening at most `room` containers inside each other. -/
def readValue (room : Nat) (bs : Bytes) : Option (Value × Bytes) :=
  match readHead bs with
  | none => none
  | some (.leaf v, rest) => some (v, rest)
  | some (head, rest) =>
    match room with
    | 0 => none
    | room + 1 =>
      match head with
      | .leaf v => some (v, rest)
      | .array count =>
        (readMany (readValue room) count [] rest).map fun (items, rest) => (.array items, rest)
      | .map count =>
        (readMany (readEntry (readValue room)) count [] rest).map fun (entries, rest) =>
          (.map entries, rest)
      | .ext size =>
        match rest with
        | [] => none
        | tag :: rest => (Bytes.take? size rest).map fun (raw, rest) => (.ext tag raw, rest)

/-- How many containers a body may open inside each other. -/
def maxNesting : Nat := 1023

/-- The value at the front of a body. Whatever follows it does not matter. -/
def Value.ofBytes? (bs : Bytes) : Option Value :=
  (readValue maxNesting bs).map Prod.fst

end MessageBroker.Pack
