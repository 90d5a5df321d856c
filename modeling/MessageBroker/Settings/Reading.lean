import MessageBroker.Plain

/-!
# Reading settings

A source of settings yields plain values. What a record of settings makes of them is said by a
`Reading`: how a number, a switch and a text are taken, and whether a record that is given as a list
may be longer than its fields. A field that is not given keeps its default; a field that is given
and cannot be read spoils the whole record.
-/

namespace MessageBroker.Settings

/-- How plain values are taken. -/
structure Reading where
  /-- A number below a bound. -/
  number? : (bound : Nat) → Plain → Option Nat
  switch? : Plain → Option Bool
  text? : Plain → Option String
  /-- Whether a record given as a list may go on after its last field. -/
  allowsSurplus : Bool

/-- The value of an integer below a bound. -/
def exactNumber? (bound : Nat) : Plain → Option Nat
  | .int i => if 0 ≤ i ∧ i.toNat < bound then some i.toNat else none
  | _ => none

/-- The value of a truth value. -/
def exactSwitch? : Plain → Option Bool
  | .bool b => some b
  | _ => none

/-- The value of a text. -/
def exactText? : Plain → Option String
  | .str s => some s
  | _ => none

/-- Each value is taken for what it is, and a list has no more items than the record has fields. -/
def Reading.strict : Reading :=
  ⟨exactNumber?, exactSwitch?, exactText?, false⟩

/-- Each value is taken for what it is; what follows the last field of a list is ignored. -/
def Reading.document : Reading :=
  { Reading.strict with allowsSurplus := true }

/-- What is given for the fields of a record. In a table fields go by name and anything else is
ignored; in a list they go by place. -/
def Reading.fields? (r : Reading) (names : List String) : Plain → Option (List (Option Plain))
  | .table entries => some (names.map fun name => entries.lookup name)
  | .array items =>
    if items.length ≤ names.length || r.allowsSurplus then
      some (names.mapIdx fun i _ => items[i]?)
    else none
  | _ => none

/-- A field with a default. -/
def orDefault {α : Type} (given : List (Option Plain)) (place : Nat) (fallback : α)
    (read : Plain → Option α) : Option α :=
  match given[place]? with
  | some (some v) => read v
  | _ => some fallback

/-- A field without a default. -/
def required {α : Type} (given : List (Option Plain)) (place : Nat)
    (read : Plain → Option α) : Option α :=
  match given[place]? with
  | some (some v) => read v
  | _ => none

end MessageBroker.Settings
