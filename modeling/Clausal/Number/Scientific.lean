import Clausal.Text.Case
import Clausal.Text.Numeral
/-!
Floating-point numbers read from decimal text. The text is read as an exact decimal number first and
then rounded once, to the nearest number and to the even one of two equally near.
-/

namespace Clausal.Number

/-- A decimal number as it is written: digits, a power of ten, a sign. -/
structure Scientific where
  negative : Bool
  digits : Nat
  exponent : Int
deriving DecidableEq

namespace Scientific

open Clausal.Text

/-- Reads the part after an exponent mark; no part at all is the exponent zero. -/
def readExponent? : List Char → Option Int
  | [] => some 0
  | c :: cs => if c = 'e' ∨ c = 'E' then readInt? cs else none

/-- Reads digits with an optional point and an optional exponent. -/
def readUnsigned? (negative : Bool) (cs : List Char) : Option Scientific :=
  let whole := cs.takeWhile Char.isDigit
  let rest := cs.dropWhile Char.isDigit
  let (fraction, rest) := match rest with
    | '.' :: r => (r.takeWhile Char.isDigit, r.dropWhile Char.isDigit)
    | r => ([], r)
  (readDigits? (whole ++ fraction)).bind fun digits =>
    (readExponent? rest).map fun exponent => ⟨negative, digits, exponent - fraction.length⟩

/-- Reads a decimal number with an optional sign. -/
def read? : List Char → Option Scientific
  | '-' :: cs => readUnsigned? true cs
  | '+' :: cs => readUnsigned? false cs
  | cs => readUnsigned? false cs

/-- The power of ten above the number. -/
def magnitude (s : Scientific) : Int :=
  (Nat.toDigits 10 s.digits).length + s.exponent

/-- The nearest number of 64 bits. Far beyond the limits of the format no power is formed. -/
def toFloat (s : Scientific) : Float :=
  let size : Float :=
    if s.digits = 0 ∨ s.magnitude < -400 then 0
    else if 400 < s.magnitude then 1 / 0
    else Float.ofScientific s.digits (s.exponent < 0) s.exponent.natAbs
  if s.negative then -size else size

/-- The nearest number of 32 bits. -/
def toFloat32 (s : Scientific) : Float32 :=
  let size : Float32 :=
    if s.digits = 0 ∨ s.magnitude < -400 then 0
    else if 400 < s.magnitude then 1 / 0
    else Float32.ofScientific s.digits (s.exponent < 0) s.exponent.natAbs
  if s.negative then -size else size

end Scientific

/-- A word for a number that digits cannot write. -/
inductive SpecialNumber where
  | nan
  | infinite (negative : Bool)

/-- Reads the words for infinities and for the number that is none, in any case. -/
def SpecialNumber.read? (cs : List Char) : Option SpecialNumber :=
  let (negative, word) := match cs with
    | '-' :: r => (true, r)
    | '+' :: r => (false, r)
    | r => (false, r)
  if Text.sameWord word "nan".toList then some .nan
  else if Text.sameWord word "inf".toList || Text.sameWord word "infinity".toList then
    some (.infinite negative)
  else none

/-- Reads a number of 64 bits. -/
def readFloat? (cs : List Char) : Option Float :=
  match SpecialNumber.read? cs with
  | some .nan => some (0 / 0)
  | some (.infinite negative) => some (if negative then -1 / 0 else 1 / 0)
  | none => (Scientific.read? cs).map Scientific.toFloat

/-- Reads a number of 32 bits. -/
def readFloat32? (cs : List Char) : Option Float32 :=
  match SpecialNumber.read? cs with
  | some .nan => some (0 / 0)
  | some (.infinite negative) => some (if negative then -1 / 0 else 1 / 0)
  | none => (Scientific.read? cs).map Scientific.toFloat32

end Clausal.Number
