import MessageBroker.Decimal.Shortest
import MessageBroker.Settings.Layers
import MessageBroker.Settings.Server
import MessageBroker.Toml.Document

/-!
# Loading the settings of the server

Settings are read from a document on its own, or from a document with the environment laid over it.
Values of the environment are written without types, so then each value is taken for whatever its
field needs, as far as it can be.
-/

namespace MessageBroker.Settings

/-- The natural number nearest to a double, zero if there is none. Halves go up, and what is too
large is the largest word. -/
def wordOfFloat (x : Float) : Nat :=
  x.round.toUInt64.toNat

/-- The number that a text stands for: switches stand for one and zero, and digits may have a plus
sign. -/
def textNumber? (s : String) : Option Nat :=
  match s.toLower with
  | "true" | "on" | "yes" => some 1
  | "false" | "off" | "no" => some 0
  | _ =>
    match s.toList with
    | '+' :: digits => Decimal.nat? digits
    | digits => Decimal.nat? digits

/-- The number that a value stands for. -/
def looseNumber? (bound : Nat) (v : Plain) : Option Nat :=
  let n? := match v with
    | .int i => if 0 ≤ i then some i.toNat else none
    | .bool b => some b.toNat
    | .float x => some (wordOfFloat x)
    | .str s => textNumber? s
    | _ => none
  n?.filter (· < bound)

/-- The switch that a value stands for. -/
def looseSwitch? : Plain → Option Bool
  | .bool b => some b
  | .int i => some (i != 0)
  | .float x => some (x != 0.0)
  | .str s =>
    match s.toLower with
    | "1" | "true" | "on" | "yes" => some true
    | "0" | "false" | "off" | "no" => some false
    | _ => none
  | _ => none

/-- The text that a value stands for. -/
def looseText? : Plain → Option String
  | .str s => some s
  | .stamp text => some text
  | .bool b => some (if b then "true" else "false")
  | .int i => some (toString i)
  | .float x => some (Decimal.shortest x)
  | _ => none

/-- Each value is taken for whatever is needed. -/
def Reading.loose : Reading :=
  ⟨looseNumber?, looseSwitch?, looseText?, true⟩

namespace Server

/-- The settings that a document gives. -/
def ofDocument? (text : String) : Option Server :=
  (Toml.document? text).bind (read? .document)

/-- The settings that a document gives with variables of the environment laid over it. -/
def ofLayers? (text : String) (environment : List (String × String)) : Option Server :=
  match Toml.document? text with
  | some (.table entries) =>
    read? .loose (.table ((Layer.ofEnvironment environment).upon (Layer.upon entries [])))
  | _ => none

/-- What is said when the document is not there. -/
def missingText (path : String) : String :=
  s!"Config file not found: {path}"

end Server

end MessageBroker.Settings
