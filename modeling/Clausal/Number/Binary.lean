/-!
Floating-point numbers as binary fractions. The bits of a number are taken apart into a sign, a
mantissa and a power of two, for the two usual widths.
-/

namespace Clausal.Number

/-- The widths of the fields of a floating-point number below its sign bit. -/
structure Layout where
  fractionBits : Nat
  exponentBits : Nat

namespace Layout

/-- Numbers of 64 bits. -/
def double : Layout := ⟨52, 11⟩

/-- Numbers of 32 bits. -/
def single : Layout := ⟨23, 8⟩

/-- The power of two of the least positive number. -/
def leastExponent (l : Layout) : Int :=
  2 - Nat.pow 2 (l.exponentBits - 1) - l.fractionBits

end Layout

/-- What the bits of a number stand for. A finite number is its mantissa times two to its exponent;
it is narrow when the next number towards zero is half as far away as the next one outwards. -/
inductive Datum where
  | nan
  | infinite (negative : Bool)
  | finite (negative : Bool) (mantissa : Nat) (exponent : Int) (narrow : Bool)
deriving DecidableEq

/-- Takes the bits of a number apart. -/
def Layout.datum (l : Layout) (bits : Nat) : Datum :=
  let fraction := bits % Nat.pow 2 l.fractionBits
  let field := bits / Nat.pow 2 l.fractionBits % Nat.pow 2 l.exponentBits
  let negative := bits / Nat.pow 2 (l.fractionBits + l.exponentBits) % 2 == 1
  if field = Nat.pow 2 l.exponentBits - 1 then
    if fraction = 0 then .infinite negative else .nan
  else if field = 0 then .finite negative fraction l.leastExponent false
  else
    .finite negative (fraction + Nat.pow 2 l.fractionBits) (l.leastExponent + field - 1)
      (fraction == 0 && decide (1 < field))

/-- A number of 64 bits, taken apart. -/
def ofFloat (x : Float) : Datum :=
  Layout.double.datum x.toBits.toNat

/-- A number of 32 bits, taken apart. -/
def ofFloat32 (x : Float32) : Datum :=
  Layout.single.datum x.toBits.toNat

end Clausal.Number
