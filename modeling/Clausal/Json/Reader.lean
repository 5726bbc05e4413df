import Clausal.Json.Basic
import Clausal.Text.Numeral
import Clausal.Text.Search
/-!
Reading JSON text. The grammar is the strict one: no comments, no trailing commas, no text after the
value. At most 127 arrays and objects stand in one another. A number with a fraction or an exponent,
or beyond 64 bits, becomes a floating-point number; one beyond their range is refused.
-/

namespace Clausal.Json

/-! ## Blanks -/

/-- The four blanks between tokens. -/
def isSpace (c : Char) : Bool :=
  c = ' ' || c = '\t' || c = '\n' || c = '\r'

/-- The text from its next token on. -/
def skipSpace (cs : List Char) : List Char :=
  cs.dropWhile isSpace

/-! ## Strings -/

/-- The number that four digits in base 16 stand for. -/
def hexQuad? (a b c d : Char) : Option Nat :=
  match Text.hexValue? a, Text.hexValue? b, Text.hexValue? c, Text.hexValue? d with
  | some a, some b, some c, some d => some (((a * 16 + b) * 16 + c) * 16 + d)
  | _, _, _, _ => none

/-- The first halves of characters beyond the first plane. -/
def isHighHalf (n : Nat) : Bool := 0xD800 ≤ n && n ≤ 0xDBFF

/-- The second halves of characters beyond the first plane. -/
def isLowHalf (n : Nat) : Bool := 0xDC00 ≤ n && n ≤ 0xDFFF

/-- The character that two halves make. -/
def joinHalves (high low : Nat) : Char :=
  Char.ofNat (0x10000 + (high - 0xD800) * 0x400 + (low - 0xDC00))

/-- What a letter means after a backslash. -/
def simpleEscape? (c : Char) : Option Char :=
  if c = '"' ∨ c = '\\' ∨ c = '/' then some c
  else if c = 'b' then some '\x08'
  else if c = 'f' then some '\x0c'
  else if c = 'n' then some '\n'
  else if c = 'r' then some '\r'
  else if c = 't' then some '\t'
  else none

/-- Puts a character in front of what was read after it. -/
def consRead (c : Char) (read : Option (List Char × List Char)) :
    Option (List Char × List Char) :=
  read.map fun (cs, rest) => (c :: cs, rest)

/-- Reads a string from behind its opening quote. -/
def readString : List Char → Option (List Char × List Char)
  | [] => none
  | c :: r =>
    if c = '"' then some ([], r)
    else if c = '\\' then
      match r with
      | 'u' :: a :: b :: c :: d :: r =>
        match hexQuad? a b c d with
        | none => none
        | some n =>
          if isHighHalf n then
            match r with
            | '\\' :: 'u' :: a :: b :: c :: d :: r =>
              match hexQuad? a b c d with
              | none => none
              | some m => if isLowHalf m then consRead (joinHalves n m) (readString r) else none
            | _ => none
          else if isLowHalf n then none
          else consRead (Char.ofNat n) (readString r)
      | e :: r =>
        match simpleEscape? e with
        | none => none
        | some c => consRead c (readString r)
      | [] => none
    else if c.toNat < 0x20 then none
    else consRead c (readString r)

/-! ## Numbers -/

/-- A number as it is written. -/
structure Numeral where
  negative : Bool
  whole : List Char
  fraction : Option (List Char)
  exponent : Option Int

/-- Reads at least one digit. -/
def readDigits (cs : List Char) : Option (List Char × List Char) :=
  let digits := cs.takeWhile Char.isDigit
  if digits.isEmpty then none else some (digits, cs.dropWhile Char.isDigit)

/-- Reads the digits before the point: a zero stands alone. -/
def readWhole : List Char → Option (List Char × List Char)
  | '0' :: r => if (r.head?.map Char.isDigit).getD false then none else some (['0'], r)
  | cs => readDigits cs

/-- Reads a point and the digits after it, if there is one. -/
def readFraction : List Char → Option (Option (List Char) × List Char)
  | '.' :: r => (readDigits r).map fun (digits, r) => (some digits, r)
  | cs => some (none, cs)

/-- Reads a sign, if there is one; tells whether it is a minus. -/
def readSign : List Char → Bool × List Char
  | '-' :: r => (true, r)
  | '+' :: r => (false, r)
  | cs => (false, cs)

/-- Reads an exponent mark and the exponent, if there is one. -/
def readExponent : List Char → Option (Option Int × List Char)
  | c :: r =>
    if c = 'e' ∨ c = 'E' then
      let (negative, r) := readSign r
      (readDigits r).map fun (digits, r) =>
        let n : Int := Nat.ofDigitChars 10 digits 0
        (some (if negative then -n else n), r)
    else some (none, c :: r)
  | [] => some (none, [])

/-- Reads a number from behind its sign. -/
def readNumeral (negative : Bool) (cs : List Char) : Option (Numeral × List Char) := do
  let (whole, cs) ← readWhole cs
  let (fraction, cs) ← readFraction cs
  let (exponent, cs) ← readExponent cs
  return (⟨negative, whole, fraction, exponent⟩, cs)

/-- Appends digits to a number as long as it stays below 2^64; tells how many were appended. -/
def appendDigits (n : Nat) : List Char → Nat × Nat
  | [] => (n, 0)
  | c :: cs =>
    let m := n * 10 + (c.toNat - '0'.toNat)
    if m < UInt64.size then
      let (value, count) := appendDigits m cs
      (value, count + 1)
    else (n, 0)

/-- Ten to a power from 0 to 308. -/
def powerOfTen (power : Nat) : Float :=
  Float.ofScientific 1 false power

/-- A whole number times a power of ten, in one multiplication or division; below the least power of
ten a division by the greatest comes first. Three of these divisions leave nothing of any number of
64 bits. The result is refused when it is infinite. -/
def scaled (x : Float) (power : Int) : Nat → Option Float
  | 0 => some 0
  | divisions + 1 =>
    if 308 < power then if x == 0 then some x else none
    else if 0 ≤ power then
      let y := x * powerOfTen power.toNat
      if y.isFinite then some y else none
    else if -308 ≤ power then some (x / powerOfTen power.natAbs)
    else scaled (x / powerOfTen 308) (power + 308) divisions

namespace Numeral

/-- The number as a floating-point number. Its leading digits, as many as 64 bits hold, are scaled
by a power of ten; digits beyond them count only by their place. -/
def toFloat (n : Numeral) : Option Float :=
  let (head, taken) := appendDigits 0 n.whole
  let dropped := n.whole.length - taken
  let (digits, places) := appendDigits head (n.fraction.getD [])
  let power : Int := dropped - places + n.exponent.getD 0
  (scaled (UInt64.ofNat digits).toFloat power 4).map fun x => if n.negative then -x else x

/-- The value of the number. -/
def toJson (n : Numeral) : Option Json :=
  let size := Nat.ofDigitChars 10 n.whole 0
  let integer? : Option Json :=
    if n.fraction.isSome || n.exponent.isSome then none
    else if n.negative then if size = 0 then none else (Text.toInt64? (-size)).map .int
    else ((Text.toInt64? size).map .int).or ((Text.toUInt64? size).map .uint)
  integer?.or (n.toFloat.map .float)

end Numeral

/-! ## Values -/

/-- Reads items up to a closing bracket, with commas between them. Each item takes at least one
character, so the length of the text bounds their number. -/
def readItems {α : Type} (item : List Char → Option (α × List Char)) (closing : Char) :
    Nat → List Char → Option (List α × List Char)
  | 0, _ => none
  | bound + 1, cs => do
    let (first, cs) ← item cs
    match skipSpace cs with
    | c :: cs =>
      if c = closing then return ([first], cs)
      else if c = ',' then
        let (rest, cs) ← readItems item closing bound cs
        return (first :: rest, cs)
      else none
    | [] => none

/-- Reads what stands between two brackets, from behind the opening one. -/
def readBracketed {α : Type} (item : List Char → Option (α × List Char)) (closing : Char)
    (cs : List Char) : Option (List α × List Char) :=
  match skipSpace cs with
  | c :: r => if c = closing then some ([], r) else readItems item closing cs.length cs
  | [] => none

/-- Reads a member of an object. -/
def readMember (value : List Char → Option (Json × List Char)) (cs : List Char) :
    Option ((String × Json) × List Char) :=
  match skipSpace cs with
  | '"' :: cs => do
    let (name, cs) ← readString cs
    match skipSpace cs with
    | ':' :: cs =>
      let (v, cs) ← value cs
      return ((String.ofList name, v), cs)
    | _ => none
  | _ => none

/-- Reads a value that is neither an array nor an object. -/
def readScalar (cs : List Char) : Option (Json × List Char) :=
  match cs with
  | '"' :: r => (readString r).map fun (s, r) => (.string (String.ofList s), r)
  | 'n' :: _ => (Text.afterWord? "null".toList cs).map fun r => (.null, r)
  | 't' :: _ => (Text.afterWord? "true".toList cs).map fun r => (.bool true, r)
  | 'f' :: _ => (Text.afterWord? "false".toList cs).map fun r => (.bool false, r)
  | '-' :: r => (readNumeral true r).bind fun (n, r) => n.toJson.map fun v => (v, r)
  | _ => (readNumeral false cs).bind fun (n, r) => n.toJson.map fun v => (v, r)

/-- Reads a value in which arrays and objects stand in one another up to a depth. -/
def readValue : Nat → List Char → Option (Json × List Char)
  | depth, cs =>
    match skipSpace cs with
    | '[' :: r =>
      match depth with
      | 0 => none
      | depth + 1 =>
        (readBracketed (readValue depth) ']' r).map fun (items, r) => (.array items, r)
    | '\x7b' :: r =>
      match depth with
      | 0 => none
      | depth + 1 =>
        (readBracketed (readMember (readValue depth)) '\x7d' r).map fun (pairs, r) =>
          (.object (membersOf pairs), r)
    | r => readScalar r

/-- Reads a whole text with arrays and objects up to a depth. -/
def readDeep? (depth : Nat) (cs : List Char) : Option Json :=
  match readValue depth cs with
  | some (value, rest) => if (skipSpace rest).isEmpty then some value else none
  | none => none

/-- How many arrays and objects may stand in one another. -/
def maxDepth : Nat := 127

/-- Reads a whole text. -/
def read? (s : String) : Option Json :=
  readDeep? maxDepth s.toList

end Clausal.Json
