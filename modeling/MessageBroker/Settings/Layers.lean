import MessageBroker.Decimal.Number
import MessageBroker.Plain
import MessageBroker.Table

/-!
# Layers of settings

Settings may come from several places, one laid over the other. A key with dots leads through
tables; what is laid over a table is merged into it, and anything else is replaced. Variables of the
environment are one such place.
-/

namespace MessageBroker.Settings

/-- Settings by key. -/
abbrev Layer := List (String × Plain)

namespace Layer

/-- The settings under a key, none if there is no table. -/
def under (key : String) (layer : Layer) : Layer :=
  match layer.lookup key with
  | some (.table inner) => inner
  | _ => []

mutual

/-- Lay a value over what is under a key. A table without entries replaces nothing. -/
def lay (key : String) (layer : Layer) : Plain → Layer
  | .table [] => if (layer.lookup key).isSome then layer else layer ++ [(key, .table [])]
  | .table (entry :: rest) =>
    Table.assign key (.table (layAll (layer.under key) (entry :: rest))) layer
  | v => Table.assign key v layer

/-- Lay the entries of a table over settings. -/
def layAll (layer : Layer) : List (String × Plain) → Layer
  | [] => layer
  | (key, v) :: rest => layAll (lay key layer v) rest

end

/-- Lay a value over what is at a path. Tables on the way that are missing arise. -/
def layAt (v : Plain) : List String → Layer → Layer
  | [], layer => layer
  | [key], layer => layer.lay key v
  | key :: path, layer => Table.assign key (.table (layAt v path (layer.under key))) layer

/-- Whether a character may stand in a key of a path. -/
def isKeyChar (c : Char) : Bool :=
  c.isAlphanum || c == ' ' || c == '_' || c == '-'

/-- The path that a key stands for; a key that is no path stands for itself. -/
def path (key : String) : List String :=
  let parts := (key.splitOn ".").map String.toList
  if parts.all fun part => !part.isEmpty && part.all isKeyChar then parts.map String.ofList
  else [key]

/-- Lay one place over another. -/
def upon (upper lower : Layer) : Layer :=
  upper.foldl (fun layer entry => layer.layAt entry.2 (path entry.1)) lower

end Layer

/-! ## Environment variables -/

/-- What the variables that hold settings begin with. -/
def variableStart : String := "COURIER__"

/-- The key that a variable gives a value to. -/
def variableKey? (name : String) : Option String :=
  if name.startsWith variableStart then
    some ((name.drop variableStart.length).toString.toLower.replace "__" ".")
  else none

/-- The value of a variable: a truth value, an integer or a floating-point number if it is written
as one, and else a text. -/
def variableValue (text : String) : Plain :=
  match text.toLower with
  | "true" => .bool true
  | "false" => .bool false
  | _ =>
    match Decimal.int? text.toList with
    | some i => .int i
    | none =>
      match Decimal.float? text.toList with
      | some x => .float x
      | none => .str text

/-- The settings that variables give. -/
def Layer.ofEnvironment (environment : List (String × String)) : Layer :=
  environment.filterMap fun (name, text) => (variableKey? name).map (·, variableValue text)

end MessageBroker.Settings
