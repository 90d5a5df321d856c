import MessageBroker.Decimal.Number

/-!
# Socket addresses

A socket address is an IPv4 or IPv6 address with a port. Reading accepts exactly the standard forms;
writing gives each address its one normal form, in which the longest run of zero groups of an IPv6
address is left out and an IPv4 address mapped into IPv6 keeps its dots.
-/

namespace MessageBroker.Net

open Decimal

/-- An address of a host. -/
inductive Host where
  | v4 (octets : List Nat)
  /-- Eight groups of sixteen bits, and the number of the scope. -/
  | v6 (groups : List Nat) (scope : Nat)
deriving DecidableEq, Repr

/-- A host with a port. -/
structure Address where
  host : Host
  port : Nat
deriving DecidableEq, Repr

/-- The number at the front of the input: at least one and at most `width` digits, below a bound. -/
def number? (base width bound : Nat) (cs : List Char) : Option (Nat × List Char) :=
  let isDigit := fun c => (Hex.value? c).any (· < base)
  let digits := cs.takeWhile isDigit
  if digits.length ≤ width then
    (digits? base false false 0 digits).bind fun n =>
      if n < bound then some (n, cs.drop digits.length) else none
  else none

/-- The input after a certain character. -/
def skip? (c : Char) : List Char → Option (List Char)
  | d :: rest => if d = c then some rest else none
  | [] => none

/-- One part of an IPv4 address, which has no leading zeros. -/
def octet? (cs : List Char) : Option (Nat × List Char) :=
  match cs with
  | '0' :: rest => if rest.head?.any Char.isDigit then none else some (0, rest)
  | _ => number? 10 3 256 cs

/-- An IPv4 address. -/
def octets? (cs : List Char) : Option (List Nat × List Char) := do
  let (a, rest) ← octet? cs
  let (b, rest) ← octet? (← skip? '.' rest)
  let (c, rest) ← octet? (← skip? '.' rest)
  let (d, rest) ← octet? (← skip? '.' rest)
  return ([a, b, c, d], rest)

/-- The group at the front of the input: up to four hexadecimal digits of any number of digits that
follow. -/
def group? (cs : List Char) : Option (Nat × List Char) :=
  number? 16 4 0x10000 cs

/-- Up to `room` groups with colons between them. An IPv4 address may stand for the last two;
nothing is read after it, and the answer says whether there is one. -/
def groups (room : Nat) (isFirst : Bool) (cs : List Char) : List Nat × Bool × List Char :=
  match room with
  | 0 => ([], false, cs)
  | room + 1 =>
    let start? := if isFirst then some cs else skip? ':' cs
    match room, start?.bind octets? with
    | _ + 1, some ([a, b, c, d], rest) => ([a * 256 + b, c * 256 + d], true, rest)
    | _, _ =>
      match start?.bind group? with
      | none => ([], false, cs)
      | some (g, rest) =>
        let (gs, endsWithOctets, rest) := groups room false rest
        (g :: gs, endsWithOctets, rest)

/-- The eight groups of an IPv6 address. Two colons stand for the groups that are missing, of which
there is at least one. -/
def eightGroups? (cs : List Char) : Option (List Nat × List Char) :=
  let (front, endsWithOctets, rest) := groups 8 true cs
  if front.length = 8 then some (front, rest)
  else if endsWithOctets then none
  else
    (skip? ':' rest).bind (skip? ':') |>.map fun rest =>
      let (back, _, rest) := groups (7 - front.length) true rest
      (front ++ List.replicate (8 - front.length - back.length) 0 ++ back, rest)

/-- The scope of an IPv6 address, zero if none is given. -/
def scope? (cs : List Char) : Option (Nat × List Char) :=
  match cs with
  | '%' :: rest => number? 10 rest.length 0x100000000 rest
  | _ => some (0, cs)

/-- A host, which is in brackets if it is an IPv6 address. -/
def host? (cs : List Char) : Option (Host × List Char) :=
  match cs with
  | '[' :: rest => do
    let (groups, rest) ← eightGroups? rest
    let (scope, rest) ← scope? rest
    return (.v6 groups scope, ← skip? ']' rest)
  | _ => (octets? cs).map fun (octets, rest) => (.v4 octets, rest)

/-- The address that a text stands for. -/
def Address.ofText? (text : String) : Option Address := do
  let (host, rest) ← host? text.toList
  let rest ← skip? ':' rest
  let (port, rest) ← number? 10 rest.length 0x10000 rest
  if rest.isEmpty then some ⟨host, port⟩ else none

/-- An IPv4 address in writing. -/
def octetsText (octets : List Nat) : String :=
  String.intercalate "." (octets.map toString)

/-- Groups in writing. -/
def groupsText (groups : List Nat) : String :=
  String.intercalate ":" (groups.map Hex.number)

/-- How many zeros a list begins with. -/
def zeroRun (groups : List Nat) : Nat :=
  (groups.takeWhile (· == 0)).length

/-- The first of the longest runs of zeros, by place and length. -/
def longestZeroRun (groups : List Nat) : Nat × Nat :=
  (List.range groups.length).foldl
    (fun best i => if best.2 < zeroRun (groups.drop i) then (i, zeroRun (groups.drop i)) else best)
    (0, 0)

/-- An IPv6 address in writing. -/
def v6Text (groups : List Nat) : String :=
  match groups with
  | [0, 0, 0, 0, 0, 0xffff, x, y] =>
    "::ffff:" ++ octetsText [x / 256, x % 256, y / 256, y % 256]
  | _ =>
    let (start, count) := longestZeroRun groups
    if 1 < count then
      groupsText (groups.take start) ++ "::" ++ groupsText (groups.drop (start + count))
    else groupsText groups

/-- A host in writing. -/
def Host.text : Host → String
  | v4 octets => octetsText octets
  | v6 groups scope =>
    let mark := if scope = 0 then "" else "%" ++ toString scope
    "[" ++ v6Text groups ++ mark ++ "]"

/-- An address in its normal form. -/
def Address.text (a : Address) : String :=
  a.host.text ++ ":" ++ toString a.port

end MessageBroker.Net
