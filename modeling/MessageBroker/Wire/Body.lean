import MessageBroker.Pack.Reader
import MessageBroker.Wire.Frame

/-!
# Typed bodies

Six shapes of body are structured: a record of named fields. A record is written as a map from
field names to values in the order of declaration, and an optional field that is absent is left out.

Reading is more liberal. A map may hold the fields in any order, each under its name or under its
place in the record, and may hold anything else besides; an array holds the fields in order and may
stop before the optional one. A field may not occur twice, and nothing may follow the last field of
an array.
-/

namespace MessageBroker.Wire

open Pack

/-- The six shapes of a structured body. -/
inductive Shape where
  | message
  | subscribe
  | unsubscribe
  | declare
  | delete
  | nack
deriving DecidableEq, Repr, Inhabited

/-- A structured body. -/
inductive Body where
  | message (route : String) (payload : Bytes)
  | subscribe (queue : String) (concurrency : Option UInt32)
  | unsubscribe (queue : String)
  | declare (name route : String)
  | delete (name : String)
  | nack (reason : String)
deriving DecidableEq, Repr

namespace Shape

/-- The names of the fields of a shape, in order. -/
def fields : Shape → List String
  | message => ["route", "payload"]
  | subscribe => ["queue", "concurrency"]
  | unsubscribe => ["queue"]
  | declare => ["name", "route"]
  | delete => ["name"]
  | nack => ["message"]

/-- The shape that goes with a kind of frame. A reason is read from frames that have no body of
their own. -/
def ofKind : Kind → Shape
  | .message => message
  | .subscribe => subscribe
  | .unsubscribe => unsubscribe
  | .declare => declare
  | .delete => delete
  | .ack | .nack | .ready => nack

end Shape

/-- The place of a map key among the fields: a name as text or binary, or the place itself. A key of
any other sort is an error, a key that fits no field is not. -/
def fieldPlace? (names : List String) : Value → Option (Option Nat)
  | .uint n => some (if n < names.length then some n else none)
  | .str raw => some (names.findIdx? fun name => Bytes.ofText name == raw)
  | .bin raw => some (names.findIdx? fun name => Bytes.ofText name == raw)
  | _ => none

/-- Put the entries of a map into the slots of the fields. A slot is filled at most once. -/
def fillSlots (names : List String) :
    List (Option Value) → List (Value × Value) → Option (List (Option Value))
  | slots, [] => some slots
  | slots, (key, v) :: entries =>
    match fieldPlace? names key with
    | none => none
    | some none => fillSlots names slots entries
    | some (some i) =>
      match slots[i]? with
      | some none => fillSlots names (slots.set i (some v)) entries
      | _ => none

/-- The values of the fields of a record, in order. -/
def recordSlots (names : List String) : Value → Option (List (Option Value))
  | .map entries => fillSlots names (List.replicate names.length none) entries
  | .array items =>
    if items.length ≤ names.length then
      some (items.map some ++ List.replicate (names.length - items.length) none)
    else none
  | _ => none

/-- A required text field. -/
def textSlot? (slots : List (Option Value)) (i : Nat) : Option String :=
  match slots[i]? with
  | some (some v) => v.text?
  | _ => none

/-- A required payload field. -/
def payloadSlot? (slots : List (Option Value)) (i : Nat) : Option Bytes :=
  match slots[i]? with
  | some (some v) => v.payload?
  | _ => none

/-- An optional 32-bit field: absent and nil both mean that there is none. -/
def wordSlot? (slots : List (Option Value)) (i : Nat) : Option (Option UInt32) :=
  match slots[i]? with
  | some (some .nil) => some none
  | some (some v) =>
    match v.nat? with
    | some n => if n < 0x100000000 then some (some (UInt32.ofNat n)) else none
    | none => none
  | _ => some none

/-- The body of a given shape that the slots of its fields make up. -/
def Shape.ofSlots? (slots : List (Option Value)) : Shape → Option Body
  | message =>
    (textSlot? slots 0).bind fun route =>
      (payloadSlot? slots 1).map fun payload => .message route payload
  | subscribe =>
    (textSlot? slots 0).bind fun queue =>
      (wordSlot? slots 1).map fun concurrency => .subscribe queue concurrency
  | unsubscribe => (textSlot? slots 0).map .unsubscribe
  | declare =>
    (textSlot? slots 0).bind fun name => (textSlot? slots 1).map fun route => .declare name route
  | delete => (textSlot? slots 0).map .delete
  | nack => (textSlot? slots 0).map .nack

namespace Body

/-- The shape of a body. -/
def shape : Body → Shape
  | message .. => .message
  | subscribe .. => .subscribe
  | unsubscribe _ => .unsubscribe
  | declare .. => .declare
  | delete _ => .delete
  | nack _ => .nack

/-- The kind of frame that carries a body. -/
def kind : Body → Kind
  | message .. => .message
  | subscribe .. => .subscribe
  | unsubscribe _ => .unsubscribe
  | declare .. => .declare
  | delete _ => .delete
  | nack _ => .nack

/-- The written form of a text field. -/
def textField (name value : String) : String × Bytes :=
  (name, writeStr (Bytes.ofText value))

/-- The written form of a body. -/
def encode : Body → Bytes
  | message route payload => writeFields [textField "route" route, ("payload", writeBin payload)]
  | subscribe queue none => writeFields [textField "queue" queue]
  | subscribe queue (some n) =>
    writeFields [textField "queue" queue, ("concurrency", writeUInt n.toNat)]
  | unsubscribe queue => writeFields [textField "queue" queue]
  | declare name route => writeFields [textField "name" name, textField "route" route]
  | delete name => writeFields [textField "name" name]
  | nack reason => writeFields [textField "message" reason]

/-- The size of the written form of a message with a payload of `n` bytes. -/
def messageSize (route : String) (n : Nat) : Nat :=
  15 + (writeStr (Bytes.ofText route)).length +
    (n + if n < 0x100 then 2 else if n < 0x10000 then 3 else 5)

/-- The body of a shape at the front of a byte string. -/
def decode? (shape : Shape) (bs : Bytes) : Option Body :=
  (Value.ofBytes? bs).bind fun v => (recordSlots shape.fields v).bind fun slots =>
    shape.ofSlots? slots

/-- The frame that carries a body. -/
def frame (id : CorrelationId) (b : Body) : Frame :=
  ⟨b.kind, id, b.encode⟩

end Body

namespace Frame

/-- A frame that confirms `id`. -/
def ack (id : CorrelationId) : Frame := ⟨.ack, id, []⟩

/-- A frame that refuses `id` for a reason. -/
def nack (id : CorrelationId) (reason : String) : Frame := (Body.nack reason).frame id

/-- The frame that greets a new connection. -/
def ready (id : CorrelationId) : Frame := ⟨.ready, id, []⟩

/-- A frame that carries a message. -/
def message (id : CorrelationId) (route : String) (payload : Bytes) : Frame :=
  (Body.message route payload).frame id

/-- The body of a frame read in a given shape. The complaint names the kind of the frame. -/
def bodyAs (f : Frame) (shape : Shape) : Except Error Body :=
  match Body.decode? shape f.body with
  | some b => .ok b
  | none => .error (.badBody f.kind)

end Frame

end MessageBroker.Wire
