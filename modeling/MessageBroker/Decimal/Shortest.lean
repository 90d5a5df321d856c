/-!
# The shortest decimal form of a double

A double stands for all real numbers that are nearer to it than to its neighbours. Its shortest
decimal form is the decimal number with the fewest digits among these, and of several with that many
digits the nearest to the double. It is found by trying one digit, two digits and so on; seventeen
always suffice. All arithmetic is on whole numbers.
-/

namespace MessageBroker.Decimal

/-- A positive double and the ends of the interval of numbers that it stands for, all over one
denominator. -/
structure Span where
  low : Nat
  value : Nat
  high : Nat
  denominator : Nat
  /-- Whether the ends belong to the interval. -/
  isClosed : Bool

/-- The interval of the positive double with the given biased exponent and fraction bits. -/
def Span.ofBits (exponent fraction : Nat) : Span :=
  let m := if exponent = 0 then fraction else 0x10000000000000 + fraction
  let e := max exponent 1
  let below := if fraction = 0 && 1 < exponent then 1 else 2
  -- The unit is a quarter of the last place, which is `2 ^ (e - 1077)`.
  let scale := 1 <<< (e - 1077)
  { low := (4 * m - below) * scale
    value := 4 * m * scale
    high := (4 * m + 2) * scale
    denominator := 1 <<< (1077 - e)
    isClosed := m % 2 == 0 }

/-- The place of the first digit of a positive number: one for tens, minus one for tenths. No more
than `bound` places after the point are looked at. -/
def leadingPlace (numerator denominator : Nat) : (bound : Nat) → Int
  | 0 => 0
  | bound + 1 =>
    if denominator ≤ numerator then ((Nat.toDigits 10 (numerator / denominator)).length : Int) - 1
    else leadingPlace (numerator * 10) denominator bound - 1

/-- Whether `c * 10 ^ place` belongs to the interval. -/
def Span.holds (s : Span) (c : Nat) (place : Int) : Bool :=
  let x := c * Nat.pow 10 place.toNat * s.denominator
  let unit := Nat.pow 10 (-place).toNat
  if s.isClosed then s.low * unit ≤ x && x ≤ s.high * unit
  else s.low * unit < x && x < s.high * unit

/-- The multiple of `10 ^ place` in the interval that is nearest to the double, if there is one. -/
def Span.nearestMultiple? (s : Span) (place : Int) : Option Nat :=
  let unit := s.denominator * Nat.pow 10 place.toNat
  let scaled := s.value * Nat.pow 10 (-place).toNat
  let c := scaled / unit
  let isBelow := s.holds c place
  let isAbove := s.holds (c + 1) place
  if isBelow && isAbove then some (if 2 * (scaled % unit) ≤ unit then c else c + 1)
  else if isBelow then some c
  else if isAbove then some (c + 1)
  else none

/-- The shortest decimal form, as a number and the place of its last digit; `more` is how many
further digits may be tried. -/
def Span.shortestFrom (s : Span) : (more : Nat) → (place : Int) → Nat × Int
  | 0, place =>
    (s.value * Nat.pow 10 (-place).toNat / (s.denominator * Nat.pow 10 place.toNat), place)
  | more + 1, place =>
    match s.nearestMultiple? place with
    | some c => (c, place)
    | none => s.shortestFrom more (place - 1)

/-- A number of units of a decimal place, written out in full. -/
def positional (c : Nat) (place : Int) : String :=
  if 0 ≤ place then toString (c * Nat.pow 10 place.toNat)
  else
    let width := (-place).toNat
    let digits := Nat.toDigits 10 c
    let padded := List.replicate (width + 1 - digits.length) '0' ++ digits
    let whole := padded.take (padded.length - width)
    let fraction := (padded.drop (padded.length - width)).reverse.dropWhile (· == '0')
    String.ofList (if fraction.isEmpty then whole else whole ++ '.' :: fraction.reverse)

/-- A double in its shortest decimal form, written out in full. -/
def shortest (x : Float) : String :=
  let bits := x.toBits.toNat
  let exponent := bits / 0x10000000000000 % 0x800
  let fraction := bits % 0x10000000000000
  let mark := if bits / 0x8000000000000000 = 0 then "" else "-"
  if exponent = 2047 then if fraction = 0 then mark ++ "inf" else "NaN"
  else if exponent = 0 && fraction = 0 then mark ++ "0"
  else
    let s := Span.ofBits exponent fraction
    let (c, place) := s.shortestFrom 18 (leadingPlace s.value s.denominator 400)
    mark ++ positional c place

end MessageBroker.Decimal
