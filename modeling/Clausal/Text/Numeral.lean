import Clausal.Text.Blank
/-!
Whole numbers read from text. A decimal number has an optional sign and digits, leading zeros
included; one that does not fit the target width is refused.
-/

namespace Clausal.Text

/-- The number that a non-empty run of decimal digits stands for. -/
def readDigits? (cs : List Char) : Option Nat :=
  if cs.isEmpty || !cs.all Char.isDigit then none else some (Nat.ofDigitChars 10 cs 0)

/-- The value of a digit in base 16. -/
def hexValue? (c : Char) : Option Nat :=
  if '0' ≤ c ∧ c ≤ '9' then some (c.toNat - '0'.toNat)
  else if 'a' ≤ c ∧ c ≤ 'f' then some (c.toNat - 'a'.toNat + 10)
  else if 'A' ≤ c ∧ c ≤ 'F' then some (c.toNat - 'A'.toNat + 10)
  else none

/-- The number that a non-empty run of digits stands for in a base up to 16. -/
def readInBase? (base : Nat) (cs : List Char) : Option Nat :=
  if cs.isEmpty then none
  else cs.foldl (fun n? c => n?.bind fun n => (hexValue? c).bind fun d =>
    if d < base then some (n * base + d) else none) (some 0)

/-- A natural number with an optional plus sign in front. -/
def readNat? : List Char → Option Nat
  | '+' :: cs => readDigits? cs
  | cs => readDigits? cs

/-- An integer with an optional sign in front. -/
def readInt? : List Char → Option Int
  | '-' :: cs => (readDigits? cs).map fun n => -(n : Int)
  | cs => (readNat? cs).map fun n => (n : Int)

/-- A number as an unsigned one of 64 bits, if it is in their range. -/
def toUInt64? (n : Nat) : Option UInt64 :=
  if n < UInt64.size then some (UInt64.ofNat n) else none

/-- A number as a signed one of 64 bits, if it is in their range. -/
def toInt64? (n : Int) : Option Int64 :=
  if Int64.minValue.toInt ≤ n ∧ n ≤ Int64.maxValue.toInt then some (Int64.ofInt n) else none

/-- An unsigned number of 64 bits. -/
def readUInt64? (cs : List Char) : Option UInt64 :=
  (readNat? cs).bind toUInt64?

theorem readDigits?_toDigits (n : Nat) : readDigits? (Nat.toDigits 10 n) = some n := by
  have digits : (Nat.toDigits 10 n).all Char.isDigit = true := by
    simpa using fun c hc => Nat.isDigit_of_mem_toDigits (by omega) (by omega) hc
  simp [readDigits?, digits, Nat.ofDigitChars_ten_toDigits]

end Clausal.Text
