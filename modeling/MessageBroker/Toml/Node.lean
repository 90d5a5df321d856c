import MessageBroker.Plain
import MessageBroker.Table

/-!
# The tables of a TOML document

A document is built up from lines, each of which says where it belongs by a path of keys. What is
there already decides what may be added: a value is final, a table with a header is not defined
twice, and a table that arose from a dotted key is extended by dotted keys only. A list of tables is
extended at its end.
-/

namespace MessageBroker.Toml

/-- How a table came into being. -/
inductive Origin where
  /-- A longer path leads through it. -/
  | passed
  /-- A dotted key leads through it. -/
  | dotted
  /-- It has a header. -/
  | header
deriving DecidableEq, Repr

/-- What stands under a key. -/
inductive Node where
  | value (v : Plain)
  | table (origin : Origin) (entries : List (String × Node))
  /-- A list of tables, the latest first. -/
  | tables (latest : List (String × Node)) (earlier : List Plain)
deriving Inhabited

/-- The content of a table. -/
abbrev Entries := List (String × Node)

namespace Entries

/-- Add a value under a dotted key. -/
def place (v : Plain) : List String → Entries → Option Entries
  | [], _ => none
  | [key], es => if (es.lookup key).isSome then none else some (es ++ [(key, .value v)])
  | key :: path, es =>
    match es.lookup key with
    | none => (place v path []).map fun inner => Table.assign key (.table .dotted inner) es
    | some (.value _) => none
    | some (.table origin inner) =>
      if origin = .header || (origin = .passed && path.length = 1) then none
      else (place v path inner).map fun inner => Table.assign key (.table origin inner) es
    | some (.tables latest earlier) =>
      if path.length = 1 then none
      else (place v path latest).map fun latest => Table.assign key (.tables latest earlier) es

/-- Change the table at the end of a path by which headers go. Tables on the way that are missing
arise. -/
def descend (f : Entries → Option Entries) : List String → Entries → Option Entries
  | [], es => f es
  | key :: path, es =>
    match es.lookup key with
    | none => (descend f path []).map fun inner => Table.assign key (.table .passed inner) es
    | some (.value _) => none
    | some (.table origin inner) =>
      (descend f path inner).map fun inner => Table.assign key (.table origin inner) es
    | some (.tables latest earlier) =>
      (descend f path latest).map fun latest => Table.assign key (.tables latest earlier) es

/-- Give a table its header. -/
def openTable (key : String) (es : Entries) : Option Entries :=
  match es.lookup key with
  | none => some (es ++ [(key, .table .header [])])
  | some (.table .passed inner) => some (Table.assign key (.table .header inner) es)
  | some _ => none

end Entries

mutual

/-- A node as a plain value. -/
def Node.plain : Node → Plain
  | .value v => v
  | .table _ entries => .table (plainEntries entries)
  | .tables latest earlier => .array (earlier.reverse ++ [.table (plainEntries latest)])

/-- The content of a table as plain values. -/
def plainEntries : List (String × Node) → List (String × Plain)
  | [] => []
  | (key, n) :: rest => (key, n.plain) :: plainEntries rest

end

namespace Entries

/-- Begin a further table of a list of tables. -/
def openItem (key : String) (es : Entries) : Option Entries :=
  match es.lookup key with
  | none => some (es ++ [(key, .tables [] [])])
  | some (.tables latest earlier) =>
    some (Table.assign key (.tables [] (.table (plainEntries latest) :: earlier)) es)
  | some _ => none

end Entries

end MessageBroker.Toml
