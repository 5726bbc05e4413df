import Clausal.Number.Binary
import Clausal.Number.Shortest
/-!
Floating-point numbers as text. The digits are the fewest that read back to the same number; a
style decides how they are laid out.
-/

namespace Clausal.Number

/-- The choices of a way to write floating-point numbers. -/
structure FloatStyle where
  /-- Which of two equally near decimal numbers is written. -/
  tie : Tie
  /-- Whether a number is written without an exponent, by the power of ten of its first digit. -/
  isPositional : Int → Bool
  /-- What follows a whole number that is written without an exponent. -/
  wholeMark : List Char
  nan : String
  infinity : String
  negativeInfinity : String

/-- As many zeros. -/
def zeros (n : Nat) : List Char :=
  List.replicate n '0'

namespace Decimal

/-- The written digits. -/
def text (d : Decimal) : List Char :=
  Nat.toDigits 10 d.digits

/-- The number of digits before the point; zero or less when the number is below one. -/
def point (d : Decimal) : Int :=
  d.text.length + d.exponent

/-- All digits in their places, with a point only where digits follow it. -/
def positional (d : Decimal) (wholeMark : List Char) : List Char :=
  if 0 ≤ d.exponent then d.text ++ zeros d.exponent.toNat ++ wholeMark
  else if 0 < d.point then d.text.take d.point.toNat ++ '.' :: d.text.drop d.point.toNat
  else '0' :: '.' :: zeros (-d.point).toNat ++ d.text

/-- One digit before the point, and the power of ten with its sign. -/
def scientific (d : Decimal) : List Char :=
  let power := d.point - 1
  let fraction := d.text.drop 1
  d.text.take 1 ++ (if fraction.isEmpty then [] else '.' :: fraction) ++
    ['e', if power < 0 then '-' else '+'] ++ Nat.toDigits 10 power.natAbs

end Decimal

namespace FloatStyle

/-- The text of a positive number. -/
def writeDecimal (l : FloatStyle) (d : Decimal) : List Char :=
  if l.isPositional (d.point - 1) then d.positional l.wholeMark else d.scientific

/-- The text of a number. Zero keeps its sign. -/
def write (l : FloatStyle) : Datum → String
  | .nan => l.nan
  | .infinite negative => if negative then l.negativeInfinity else l.infinity
  | .finite negative mantissa exponent narrow =>
    let size :=
      if mantissa = 0 then l.writeDecimal ⟨0, 0⟩
      else l.writeDecimal (.shortest l.tie mantissa exponent narrow)
    String.ofList (if negative then '-' :: size else size)

end FloatStyle

end Clausal.Number
