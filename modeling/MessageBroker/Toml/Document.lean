import MessageBroker.Toml.Node
import MessageBroker.Toml.Scalar

/-!
# TOML documents

A document is a sequence of lines: headers, and keys with their values. `document?` reads one as a
plain table. Values that contain others may be nested only so deep.
-/

namespace MessageBroker.Toml

/-- Whether a character may stand in a key without quotes. -/
def isKeyChar (c : Char) : Bool :=
  c.isAlphanum || c == '_' || c == '-'

/-- A single key. -/
def key? (cs : Rest) : Option (String × Rest) :=
  match cs with
  | '"' :: _ | '\'' :: _ => lineText? cs
  | _ =>
    let bare := cs.takeWhile isKeyChar
    if bare.isEmpty then none else some (String.ofList bare, cs.dropWhile isKeyChar)

/-- Keys with dots between them. -/
def path? : (bound : Nat) → Rest → Option (List String × Rest)
  | 0, _ => none
  | bound + 1, cs =>
    (key? cs).bind fun (key, rest) =>
      match skipBlanks rest with
      | '.' :: rest => (path? bound (skipBlanks rest)).map fun (path, rest) => (key :: path, rest)
      | rest => some ([key], rest)

/-- A key with its value. -/
def pair? (value? : Rest → Option (Plain × Rest)) (cs : Rest) :
    Option ((List String × Plain) × Rest) :=
  (path? (cs.length + 1) cs).bind fun (path, rest) =>
    (after? '=' rest).bind fun rest =>
      (value? (skipBlanks rest)).map fun (v, rest) => ((path, v), rest)

/-- The items of a list up to its end; `read` are those read already, latest first. -/
def items? (value? : Rest → Option (Plain × Rest)) :
    (bound : Nat) → (read : List Plain) → Rest → Option (Plain × Rest)
  | 0, _, _ => none
  | bound + 1, read, cs =>
    match skipGaps cs.length cs with
    | ']' :: rest => some (.array read.reverse, rest)
    | cs =>
      (value? cs).bind fun (v, rest) =>
        match skipGaps rest.length rest with
        | ',' :: rest => items? value? bound (v :: read) rest
        | ']' :: rest => some (.array (v :: read).reverse, rest)
        | _ => none

/-- The pairs of a table on one line up to its end. -/
def pairs? (value? : Rest → Option (Plain × Rest)) :
    (bound : Nat) → Entries → Rest → Option (Plain × Rest)
  | 0, _, _ => none
  | bound + 1, es, cs =>
    (pair? value? (skipBlanks cs)).bind fun ((path, v), rest) =>
      (es.place v path).bind fun es =>
        match skipBlanks rest with
        | ',' :: rest => pairs? value? bound es rest
        | '\x7d' :: rest => some (.table (plainEntries es), rest)
        | _ => none

/-- A value, with at most `depth` values inside each other. -/
def value? : (depth : Nat) → Rest → Option (Plain × Rest)
  | _, '"' :: rest => (text? ('"' :: rest)).map fun (s, rest) => (.str s, rest)
  | _, '\'' :: rest => (text? ('\'' :: rest)).map fun (s, rest) => (.str s, rest)
  | depth + 1, '[' :: rest => items? (value? depth) (rest.length + 1) [] rest
  | depth + 1, '\x7b' :: rest =>
    match skipBlanks rest with
    | '\x7d' :: rest => some (.table [], rest)
    | rest => pairs? (value? depth) (rest.length + 1) [] rest
  | _, cs => scalar? cs

/-- How deep values may be nested. -/
def maxDepth : Nat := 79

/-- What has been read of a document, and the path of the table that lines are added to. -/
structure Draft where
  entries : Entries
  current : List String

/-- Go on at a header. -/
def Draft.enter (d : Draft) (path : List String)
    (begin : String → Entries → Option Entries) : Option Draft :=
  match path.reverse with
  | [] => none
  | key :: back => (d.entries.descend (begin key) back.reverse).map fun entries => ⟨entries, path⟩

/-- Read one line that is not empty. -/
def line? (d : Draft) (cs : Rest) : Option (Draft × Rest) :=
  match cs with
  | '[' :: '[' :: rest => do
    let (path, rest) ← path? (rest.length + 1) (skipBlanks rest)
    let rest ← after? ']' (← after? ']' rest)
    return (← d.enter path Entries.openItem, rest)
  | '[' :: rest => do
    let (path, rest) ← path? (rest.length + 1) (skipBlanks rest)
    let rest ← after? ']' rest
    return (← d.enter path Entries.openTable, rest)
  | cs => do
    let ((path, v), rest) ← pair? (value? maxDepth) cs
    let entries ← d.entries.descend (Entries.place v path) d.current
    return ({ d with entries }, rest)

/-- Read lines up to the end. -/
def lines? : (bound : Nat) → Draft → Rest → Option Draft
  | 0, _, _ => none
  | bound + 1, d, cs =>
    match skipGaps cs.length cs with
    | [] => some d
    | cs =>
      (line? d cs).bind fun (d, rest) =>
        (endLine? rest).bind fun rest => lines? bound d rest

/-- The table that a document describes. A mark of the byte order in front is skipped. -/
def document? (text : String) : Option Plain :=
  let cs := match text.toList with
    | '\ufeff' :: cs => cs
    | cs => cs
  (lines? (cs.length + 1) ⟨[], []⟩ cs).map fun d => .table (plainEntries d.entries)

end MessageBroker.Toml
