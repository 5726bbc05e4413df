import Clausal.Calendar
import Clausal.Number.Scientific
import Clausal.Text.Numeral
import Clausal.Text.Search
import Clausal.Toml.Basic
/-!
Numbers, dates and times of configuration documents. Digits may be grouped by single underscores.
What a value is shows at its front: four digits and a dash start a date, two digits and a colon a
time, all else is a number.
-/

namespace Clausal.Toml

/-! ## Digits -/

/-- Reads digits with single underscores between them; gives them without. -/
def readDigits (isDigit : Char → Bool) (cs : List Char) : Option (List Char × List Char) :=
  let isPart := fun c => isDigit c || c = '_'
  let groups := (cs.takeWhile isPart).splitOn '_'
  if groups.any List.isEmpty then none else some (groups.flatten, cs.dropWhile isPart)

/-- Reads the digits before a point: a zero stands alone. -/
def readWhole (cs : List Char) : Option (List Char × List Char) :=
  match readDigits Char.isDigit cs with
  | some ('0' :: _ :: _, _) => none
  | read => read

/-- Reads a sign, if there is one; gives its text. -/
def readSign : List Char → List Char × List Char
  | '-' :: r => (['-'], r)
  | '+' :: r => (['+'], r)
  | cs => ([], cs)

/-- The number of so many decimal digits at the front of a text. -/
def readFixed (count : Nat) (cs : List Char) : Option (Nat × List Char) :=
  if cs.length < count then none
  else (Text.readDigits? (cs.take count)).map fun n => (n, cs.drop count)

/-! ## Dates and times -/

/-- Whether a text starts with so many digits and then a character. -/
def startsWithDigits (count : Nat) (mark : Char) (cs : List Char) : Bool :=
  match readFixed count cs with
  | some (_, c :: _) => c = mark
  | _ => false

/-- The text after a character, if it starts with it. -/
def after? (c : Char) : List Char → Option (List Char)
  | d :: r => if c = d then some r else none
  | [] => none

/-- Passes over a day that exists. -/
def passDate (cs : List Char) : Option (List Char) := do
  let (year, cs) ← readFixed 4 cs
  let (month, cs) ← readFixed 2 (← after? '-' cs)
  let (day, cs) ← readFixed 2 (← after? '-' cs)
  if (Calendar.Date.mk year month day).exists? then return cs else none

/-- Passes over hours and minutes. -/
def passMinutes (cs : List Char) : Option (List Char) := do
  let (hour, cs) ← readFixed 2 cs
  let (minute, cs) ← readFixed 2 (← after? ':' cs)
  if hour < 24 ∧ minute < 60 then return cs else none

/-- Passes over the fraction of a second, if there is one. -/
def passFraction : List Char → List Char
  | '.' :: r => if (r.head?.map Char.isDigit).getD false then r.dropWhile Char.isDigit else '.' :: r
  | cs => cs

/-- Passes over a time of day; a second may be a leap second. -/
def passTime (cs : List Char) : Option (List Char) := do
  let (second, cs) ← readFixed 2 (← after? ':' (← passMinutes cs))
  if second ≤ 60 then return passFraction cs else none

/-- Passes over the distance from universal time, if there is one. -/
def passOffset : List Char → Option (List Char)
  | c :: r =>
    if c = 'Z' ∨ c = 'z' then some r
    else if c = '+' ∨ c = '-' then passMinutes r
    else some (c :: r)
  | [] => some []

/-- Passes over a date and the time after it, if there is one. -/
def passDateTime (cs : List Char) : Option (List Char) := do
  match ← passDate cs with
  | c :: r =>
    if (c = 'T' ∨ c = 't' ∨ c = ' ') ∧ startsWithDigits 2 ':' r then
      passOffset (← passTime r)
    else return c :: r
  | [] => return []

/-- Reads what a pass goes over. -/
def readMoment (pass : List Char → Option (List Char)) (cs : List Char) :
    Option (Toml × List Char) :=
  (pass cs).map fun r => (.moment (String.ofList (cs.take (cs.length - r.length))), r)

/-! ## Numbers -/

/-- An integer of 64 bits. -/
def ofInt? (n : Int) : Option Toml :=
  (Text.toInt64? n).map .integer

/-- Reads a number in another base from behind its mark. -/
def readBased (base : Nat) (cs : List Char) : Option (Toml × List Char) := do
  let isDigit := fun c => ((Text.hexValue? c).map fun d => decide (d < base)).getD false
  let (digits, cs) ← readDigits isDigit cs
  return (← ofInt? (← Text.readInBase? base digits), cs)

/-- Reads a point and the digits after it, if there is one. -/
def readFraction : List Char → Option (List Char × List Char)
  | '.' :: r => (readDigits Char.isDigit r).map fun (digits, r) => ('.' :: digits, r)
  | cs => some ([], cs)

/-- Reads an exponent, if there is one. -/
def readExponent : List Char → Option (List Char × List Char)
  | c :: r =>
    if c = 'e' ∨ c = 'E' then
      let (sign, r) := readSign r
      (readDigits Char.isDigit r).map fun (digits, r) => ('e' :: sign ++ digits, r)
    else some ([], c :: r)
  | [] => some ([], [])

/-- The value of a decimal number: an integer if neither point nor exponent is there. Above the
range of floating-point numbers there is none. -/
def ofDecimal? (sign whole fraction exponent : List Char) : Option Toml :=
  if fraction.isEmpty ∧ exponent.isEmpty then (Text.readInt? (sign ++ whole)).bind ofInt?
  else (Number.readFloat? (sign ++ whole ++ fraction ++ exponent)).bind fun x =>
    if x == 1 / 0 then none else some (.float x)

/-- Reads a decimal number, or what is none or infinite. -/
def readDecimal (cs : List Char) : Option (Toml × List Char) := do
  let (sign, cs) := readSign cs
  match Text.afterWord? "inf".toList cs with
  | some r => return (.float (if sign = ['-'] then -1 / 0 else 1 / 0), r)
  | none =>
    match Text.afterWord? "nan".toList cs with
    | some r => return (.float (0 / 0), r)
    | none =>
      let (whole, cs) ← readWhole cs
      let (fraction, cs) ← readFraction cs
      let (exponent, cs) ← readExponent cs
      return (← ofDecimal? sign whole fraction exponent, cs)

/-- Reads a number, a date or a time. -/
def readNumber (cs : List Char) : Option (Toml × List Char) :=
  if startsWithDigits 4 '-' cs then readMoment passDateTime cs
  else if startsWithDigits 2 ':' cs then readMoment passTime cs
  else
    match cs with
    | '0' :: 'x' :: r => readBased 16 r
    | '0' :: 'o' :: r => readBased 8 r
    | '0' :: 'b' :: r => readBased 2 r
    | _ => readDecimal cs

end Clausal.Toml
