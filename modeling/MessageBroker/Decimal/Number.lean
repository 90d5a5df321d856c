import MessageBroker.Hex

/-!
# Written numbers

Digits, integers and floating-point numbers as they are written in documents and in environment
variables. A floating-point number is the double nearest to its decimal form.
-/

namespace MessageBroker.Decimal

/-- The number with given digits in a base up to sixteen. If underscores are allowed, each stands
between two digits. -/
def digits? (base : Nat) (underscores : Bool) :
    (afterDigit : Bool) → (read : Nat) → List Char → Option Nat
  | afterDigit, read, [] => if afterDigit then some read else none
  | afterDigit, read, c :: rest =>
    if c = '_' then
      if underscores && afterDigit then digits? base underscores false read rest else none
    else
      match Hex.value? c with
      | some d => if d < base then digits? base underscores true (read * base + d) rest else none
      | none => none

/-- A number with given decimal digits and nothing else. -/
def nat? (cs : List Char) : Option Nat :=
  digits? 10 false false 0 cs

/-- A sign, if there is one, and the rest; the sign is whether it is a minus. -/
def sign : List Char → Bool × List Char
  | '-' :: rest => (true, rest)
  | '+' :: rest => (false, rest)
  | cs => (false, cs)

/-- A number with a sign. -/
def signed (isNegative : Bool) (n : Nat) : Int :=
  if isNegative then -(n : Int) else n

/-- Whether a number fits a signed word of 64 bits. -/
def fitsWord (i : Int) : Bool :=
  -0x8000000000000000 ≤ i && i < 0x8000000000000000

/-- An integer in decimal digits that fits a signed word. -/
def int? (cs : List Char) : Option Int :=
  let (isNegative, cs) := sign cs
  ((nat? cs).map (signed isNegative)).filter fitsWord

/-- The double nearest to `m * 10 ^ e`. Exponents beyond those of doubles are cut off first. -/
def nearest (isNegative : Bool) (m : Nat) (e : Int) : Float :=
  let size : Int := (Nat.toDigits 10 m).length
  let x :=
    if m = 0 || size + e < -400 then 0.0
    else if 400 < size + e then 1.0 / 0.0
    else Float.ofScientific m (e < 0) e.natAbs
  if isNegative then -x else x

/-- The digits of a number around its point. -/
structure Mantissa where
  whole : List Char
  fraction : Option (List Char)
  exponent : Option (List Char)

/-- Take a number apart at its point and at the letter of its exponent. -/
def Mantissa.ofChars (cs : List Char) : Mantissa :=
  let isLetter := fun c => c == 'e' || c == 'E'
  let front := cs.takeWhile fun c => !isLetter c
  let exponent := match cs.dropWhile fun c => !isLetter c with
    | [] => none
    | _ :: digits => some digits
  let whole := front.takeWhile (· != '.')
  let fraction := match front.dropWhile (· != '.') with
    | [] => none
    | _ :: digits => some digits
  ⟨whole, fraction, exponent⟩

/-- The value of the exponent, zero if there is none. -/
def Mantissa.exponent? (m : Mantissa) (underscores : Bool) : Option Int :=
  match m.exponent with
  | none => some 0
  | some cs =>
    let (isNegative, cs) := sign cs
    (digits? 10 underscores false 0 cs).map (signed isNegative)

/-- Infinity or no number. -/
def special? (isNegative : Bool) (name : List Char) : Option Float :=
  let name := String.ofList (name.map Char.toLower)
  if name = "inf" || name = "infinity" then some (if isNegative then -(1.0 / 0.0) else 1.0 / 0.0)
  else if name = "nan" then some (0.0 / 0.0)
  else none

/-- A floating-point number in its free form: the digits before or after the point may be missing,
but not both. -/
def float? (cs : List Char) : Option Float :=
  let (isNegative, cs) := sign cs
  match special? isNegative cs with
  | some x => some x
  | none =>
    let m := Mantissa.ofChars cs
    let fraction := m.fraction.getD []
    (nat? (m.whole ++ fraction)).bind fun n =>
      (m.exponent? false).map fun e => nearest isNegative n (e - fraction.length)

end MessageBroker.Decimal
