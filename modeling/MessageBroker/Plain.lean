/-!
# Plain values

A plain value is what settings are read from and what reports are made of: a number, a text, or a
list or table of plain values.
-/

namespace MessageBroker

/-- A plain value. -/
inductive Plain where
  | null
  | bool (b : Bool)
  | int (i : Int)
  | float (x : Float)
  | str (s : String)
  /-- A date or a time of day, in its standard text. -/
  | stamp (text : String)
  | array (items : List Plain)
  | table (entries : List (String × Plain))
deriving Inhabited

/-- A natural number as a plain value. -/
def Plain.nat (n : Nat) : Plain := .int n

end MessageBroker
