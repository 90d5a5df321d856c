import MessageBroker.Decimal.Number
import MessageBroker.Plain
import MessageBroker.Toml.Text

/-!
# Numbers, truth values and times in TOML

A value that is neither a text nor made of others is one run of letters, digits and the signs that
occur in numbers and times. Integers fit a signed word of 64 bits. Decimal digits have no leading
zeros, and underscores stand between digits. A time is checked and kept in its standard text.
-/

namespace MessageBroker.Toml

open Decimal

/-- Whether a character may stand in the run of a scalar. -/
def isScalarChar (c : Char) : Bool :=
  c.isAlphanum || c == '_' || c == '+' || c == '-' || c == '.' || c == ':'

/-- Decimal digits without a leading zero. -/
def decimal? (cs : List Char) : Option Nat :=
  match cs with
  | '0' :: _ :: _ => none
  | _ => digits? 10 true false 0 cs

/-- An integer. Only decimal ones have a sign. -/
def integer? (cs : List Char) : Option Int :=
  let value? : Option Int := match cs with
    | '0' :: 'x' :: digits => (digits? 16 true false 0 digits).map Int.ofNat
    | '0' :: 'o' :: digits => (digits? 8 true false 0 digits).map Int.ofNat
    | '0' :: 'b' :: digits => (digits? 2 true false 0 digits).map Int.ofNat
    | cs =>
      let (isNegative, digits) := sign cs
      (decimal? digits).map (signed isNegative)
  value?.bind fun i => if fitsWord i then some i else none

/-- Whether a fraction is written properly: digits, with underscores only between them. -/
def isFraction (cs : List Char) : Bool :=
  (digits? 10 true false 0 cs).isSome

/-- A floating-point number: it has a fraction, an exponent or both, or it is a special one. A
positive number beyond the largest double is refused. -/
def floating? (cs : List Char) : Option Float :=
  let (isNegative, cs) := sign cs
  if cs = ['i', 'n', 'f'] || cs = ['n', 'a', 'n'] then special? isNegative cs
  else
    let m := Mantissa.ofChars cs
    if m.fraction.isNone && m.exponent.isNone then none
    else if !m.fraction.all isFraction then none
    else
      (decimal? m.whole).bind fun _ =>
        let fraction := (m.fraction.getD []).filter (· != '_')
        (nat? (m.whole.filter (· != '_') ++ fraction)).bind fun n =>
          (m.exponent? true).bind fun e =>
            let x := nearest isNegative n (e - fraction.length)
            if x == 1.0 / 0.0 then none else some x

/-- A number of exactly `width` digits within bounds, and the rest. -/
def field? (width least most : Nat) (cs : List Char) : Option (Nat × List Char) :=
  if (cs.take width).length = width then
    (nat? (cs.take width)).bind fun n =>
      if least ≤ n && n ≤ most then some (n, cs.drop width) else none
  else none

/-- The input after a certain character. -/
def after? (c : Char) : List Char → Option (List Char)
  | d :: rest => if d = c then some rest else none
  | [] => none

/-- The days of a month. -/
def daysOf (year month : Nat) : Nat :=
  if month = 2 then
    if year % 4 = 0 && (year % 100 != 0 || year % 400 = 0) then 29 else 28
  else if month = 4 || month = 6 || month = 9 || month = 11 then 30
  else 31

/-- A number in two digits. -/
def twoDigits (n : Nat) : List Char :=
  [Hex.digit (n / 10), Hex.digit (n % 10)]

/-- A date, in its standard text. -/
def date? (cs : List Char) : Option (List Char × List Char) := do
  let (year, rest) ← field? 4 0 9999 cs
  let (month, rest) ← field? 2 1 12 (← after? '-' rest)
  let (_, rest) ← field? 2 1 (daysOf year month) (← after? '-' rest)
  return (cs.take 10, rest)

/-- The fraction of a second, in its standard text: up to nine digits, without zeros at the end. -/
def second? (cs : List Char) : Option (List Char × List Char) :=
  match cs with
  | '.' :: rest =>
    let digits := rest.takeWhile Char.isDigit
    let kept := ((digits.take 9).reverse.dropWhile (· == '0')).reverse
    if digits.isEmpty then none
    else some (if kept.isEmpty then [] else '.' :: kept, rest.dropWhile Char.isDigit)
  | _ => some ([], cs)

/-- A time of day, in its standard text. -/
def clock? (cs : List Char) : Option (List Char × List Char) := do
  let (_, rest) ← field? 2 0 23 cs
  let (_, rest) ← field? 2 0 59 (← after? ':' rest)
  let (_, rest) ← field? 2 0 60 (← after? ':' rest)
  let (fraction, rest) ← second? rest
  return (cs.take 8 ++ fraction, rest)

/-- The distance of a time from universal time, in its standard text; there need be none. -/
def offset? (cs : List Char) : Option (List Char) :=
  match cs with
  | [] => some []
  | ['Z'] | ['z'] => some ['Z']
  | c :: rest =>
    if c = '+' || c = '-' then do
      let (hours, rest) ← field? 2 0 23 rest
      let (minutes, rest) ← field? 2 0 59 (← after? ':' rest)
      if rest.isEmpty then
        let mark := if hours = 0 && minutes = 0 then '+' else c
        some (mark :: twoDigits hours ++ ':' :: twoDigits minutes)
      else none
    else none

/-- A date, a time of day, or both. -/
def stamp? (cs : List Char) : Option String :=
  match date? cs with
  | some (date, []) => some (String.ofList date)
  | some (date, mark :: rest) =>
    if mark = 'T' || mark = 't' || mark = ' ' then do
      let (clock, rest) ← clock? rest
      let offset ← offset? rest
      some (String.ofList (date ++ 'T' :: clock ++ offset))
    else none
  | none =>
    match clock? cs with
    | some (clock, []) => some (String.ofList clock)
    | _ => none

/-- Whether a space continues a time: a date comes before it and a digit after it. -/
def joinsTime (run rest : List Char) : Bool :=
  match date? run, rest with
  | some (_, []), ' ' :: c :: _ => c.isDigit
  | _, _ => false

/-- The value of a run. -/
def scalarOf? (run : List Char) : Option Plain :=
  if run = ['t', 'r', 'u', 'e'] then some (.bool true)
  else if run = ['f', 'a', 'l', 's', 'e'] then some (.bool false)
  else
    match stamp? run, integer? run, floating? run with
    | some s, _, _ => some (.stamp s)
    | none, some i, _ => some (.int i)
    | none, none, some x => some (.float x)
    | none, none, none => none

/-- A scalar at the front of the input. -/
def scalar? (cs : Rest) : Option (Plain × Rest) :=
  let run := cs.takeWhile isScalarChar
  let rest := cs.dropWhile isScalarChar
  if joinsTime run rest then
    let more := (rest.drop 1).takeWhile isScalarChar
    (scalarOf? (run ++ ' ' :: more)).map fun v => (v, (rest.drop 1).dropWhile isScalarChar)
  else (scalarOf? run).map fun v => (v, rest)

end MessageBroker.Toml
