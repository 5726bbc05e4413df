/-!
The shortest decimal number that reads back to a given binary one. A decimal number reads back when
it lies in the interval of reals that round to the binary number; decimal grids are tried from
coarse to fine, so the first grid with a point in the interval gives the fewest digits. All
arithmetic is exact.
-/

namespace Clausal.Number

/-- A decimal number: its digits times a power of ten. -/
structure Decimal where
  digits : Nat
  exponent : Int
deriving DecidableEq

/-- Which of two points of a grid is taken when both are equally near. -/
inductive Tie where
  | up
  | even
deriving DecidableEq

/-- An interval around a middle value, all three over one denominator. The ends belong to it when it
is closed. -/
structure Interval where
  low : Nat
  middle : Nat
  high : Nat
  denominator : Nat
  closed : Bool

namespace Interval

/-- The reals that round to mantissa times two to the exponent. An even mantissa takes the ends,
which are half-way points, as well. -/
def ofBinary (mantissa : Nat) (exponent : Int) (narrow : Bool) : Interval :=
  let scale := Nat.pow 2 (exponent - 2).toNat
  { low := (4 * mantissa - if narrow then 1 else 2) * scale
    middle := 4 * mantissa * scale
    high := (4 * mantissa + 2) * scale
    denominator := Nat.pow 2 (2 - exponent).toNat
    closed := mantissa % 2 == 0 }

/-- The same interval in units of a power of ten. -/
def inUnits (i : Interval) (power : Int) : Interval :=
  let scale := Nat.pow 10 (-power).toNat
  { i with
    low := i.low * scale
    middle := i.middle * scale
    high := i.high * scale
    denominator := i.denominator * Nat.pow 10 power.toNat }

/-- Whether a whole number lies in the interval. -/
def contains (i : Interval) (n : Nat) : Bool :=
  if i.closed then i.low ≤ n * i.denominator && n * i.denominator ≤ i.high
  else i.low < n * i.denominator && n * i.denominator < i.high

/-- The whole number in the interval that is nearest to the middle. If any lies in it, so does one
of the two next to the middle. -/
def nearest? (tie : Tie) (i : Interval) : Option Nat :=
  let below := i.middle / i.denominator
  let above := below + 1
  match i.contains below, i.contains above with
  | false, false => none
  | true, false => some below
  | false, true => some above
  | true, true =>
    let rest := 2 * (i.middle % i.denominator)
    if rest < i.denominator then some below
    else if i.denominator < rest then some above
    else match tie with
      | .up => some above
      | .even => some (if below % 2 = 0 then below else above)

/-- Tries the grids of the powers of ten from one downwards. -/
def search (tie : Tie) (i : Interval) : Nat → Int → Option Decimal
  | 0, _ => none
  | tries + 1, power =>
    match (i.inUnits power).nearest? tie with
    | some digits => some ⟨digits, power⟩
    | none => search tie i tries (power - 1)

end Interval

namespace Decimal

/-- A power of ten above a positive binary number. -/
def powerAbove (mantissa : Nat) (exponent : Int) : Int :=
  (mantissa.log2 + exponent + 1) * 30103 / 100000 + 1

/-- A binary number written out in full. -/
def exact (mantissa : Nat) (exponent : Int) : Decimal :=
  if 0 ≤ exponent then ⟨mantissa * Nat.pow 2 exponent.toNat, 0⟩
  else ⟨mantissa * Nat.pow 5 (-exponent).toNat, exponent⟩

/-- The shortest decimal number that reads back to a positive binary one. Seventeen digits are
always enough, and the search starts at most two powers above the first digit. -/
def shortest (tie : Tie) (mantissa : Nat) (exponent : Int) (narrow : Bool) : Decimal :=
  let interval := Interval.ofBinary mantissa exponent narrow
  (interval.search tie 20 (powerAbove mantissa exponent)).getD (exact mantissa exponent)

end Decimal

end Clausal.Number
