import Clausal.Text.Numeral
/-!
Strings and keys of configuration documents. Double quotes know escapes, single quotes do not; three
quotes of either kind hold several lines. Each reader takes the text from behind what opened the
string and gives the text after it.
-/

namespace Clausal.Toml

/-! ## Characters -/

/-- The two blanks inside a line. -/
def isSpace (c : Char) : Bool :=
  c = ' ' || c = '\t'

/-- The text from the next character on that is no blank. -/
def skipSpace (cs : List Char) : List Char :=
  cs.dropWhile isSpace

/-- The text after a line break, if it starts with one. -/
def afterLineBreak? : List Char → Option (List Char)
  | '\n' :: r => some r
  | '\r' :: '\n' :: r => some r
  | _ => none

/-- A character that may stand as it is in comments and strings: no control character but the
tab. -/
def isPlain (c : Char) : Bool :=
  c = '\t' || (0x20 ≤ c.toNat && c.toNat != 0x7F)

/-- A character of a key without quotes. -/
def isBare (c : Char) : Bool :=
  c.isAlphanum || c = '-' || c = '_'

/-! ## Escapes -/

/-- The character of a number in base 16; halves of characters are none. -/
def charOfHex? (digits : List Char) : Option Char :=
  (Text.readInBase? 16 digits).bind fun n => if n.isValidChar then some (Char.ofNat n) else none

/-- What a letter means after a backslash. -/
def simpleEscape? (c : Char) : Option Char :=
  if c = '"' ∨ c = '\\' then some c
  else if c = 'b' then some '\x08'
  else if c = 'f' then some '\x0c'
  else if c = 'n' then some '\n'
  else if c = 'r' then some '\r'
  else if c = 't' then some '\t'
  else none

/-- The character of an escape, and the number of characters that it takes after the backslash. -/
def escape? : List Char → Option (Char × Nat)
  | [] => none
  | 'u' :: r => if r.length < 4 then none else (charOfHex? (r.take 4)).map fun c => (c, 5)
  | 'U' :: r => if r.length < 8 then none else (charOfHex? (r.take 8)).map fun c => (c, 9)
  | c :: _ => (simpleEscape? c).map fun c => (c, 1)

/-! ## Strings on one line -/

/-- Puts a character in front of what was read after it. -/
def consRead (c : Char) (read : Option (List Char × List Char)) :
    Option (List Char × List Char) :=
  read.map fun (cs, rest) => (c :: cs, rest)

/-- Reads a string in double quotes. The first number counts the characters of an escape that are
still to be passed over. -/
def readQuoted : Nat → List Char → Option (List Char × List Char)
  | _, [] => none
  | passed + 1, _ :: r => readQuoted passed r
  | 0, c :: r =>
    if c = '"' then some ([], r)
    else if c = '\\' then
      match escape? r with
      | some (e, size) => consRead e (readQuoted size r)
      | none => none
    else if isPlain c then consRead c (readQuoted 0 r)
    else none

/-- Reads a string in single quotes. -/
def readLiteral (cs : List Char) : Option (List Char × List Char) :=
  match cs.dropWhile fun c => isPlain c && c != '\'' with
  | '\'' :: r => some (cs.takeWhile fun c => isPlain c && c != '\'', r)
  | _ => none

/-! ## Strings on several lines -/

/-- What a reader of several lines passes over before it reads on. -/
inductive Passing where
  | nothing
  /-- A number of characters. -/
  | characters (count : Nat)
  /-- Blanks and line breaks, as long as there are any. -/
  | blanks

/-- Reads a string in three quotes. Up to two more quotes may stand before the closing ones. With
escapes, a backslash at the end of a line takes the line break and all blanks after it away. -/
def readLong (quote : Char) (escapes : Bool) :
    Passing → List Char → Option (List Char × List Char)
  | _, [] => none
  | .characters (count + 1), _ :: r => readLong quote escapes (.characters count) r
  | passing, c :: r =>
    if c = '\n' ∨ (c = '\r' ∧ r.head? = some '\n') then
      match passing with
      | .blanks => readLong quote escapes .blanks r
      | _ => if c = '\r' then readLong quote escapes .nothing r
        else consRead '\n' (readLong quote escapes .nothing r)
    else if isSpace c ∧ passing matches .blanks then readLong quote escapes .blanks r
    else if c = quote then
      if r.take 2 = [quote, quote] then
        let more := ((r.drop 2).takeWhile (· = quote)).take 2
        some (more, r.drop (2 + more.length))
      else consRead c (readLong quote escapes .nothing r)
    else if c = '\\' ∧ escapes then
      if (afterLineBreak? (skipSpace r)).isSome then readLong quote escapes .blanks r
      else
        match escape? r with
        | some (e, size) => consRead e (readLong quote escapes (.characters size) r)
        | none => none
    else if isPlain c then consRead c (readLong quote escapes .nothing r)
    else none

/-- A text without a line break at its front. -/
def dropLineBreak (cs : List Char) : List Char :=
  (afterLineBreak? cs).getD cs

/-- Reads a string of any kind from its opening quote on. -/
def readString : List Char → Option (List Char × List Char)
  | '"' :: '"' :: '"' :: r => readLong '"' true .nothing (dropLineBreak r)
  | '\'' :: '\'' :: '\'' :: r => readLong '\'' false .nothing (dropLineBreak r)
  | '"' :: r => readQuoted 0 r
  | '\'' :: r => readLiteral r
  | _ => none

/-! ## Keys -/

/-- Reads one part of a key. -/
def readKeyPart : List Char → Option (List Char × List Char)
  | '"' :: r => readQuoted 0 r
  | '\'' :: r => readLiteral r
  | cs =>
    let name := cs.takeWhile isBare
    if name.isEmpty then none else some (name, cs.dropWhile isBare)

/-- Reads the parts of a dotted key with the blanks around them. Each part takes at least one
character, so the length of the text bounds their number. -/
def readKeyParts : Nat → List Char → Option (List String × List Char)
  | 0, _ => none
  | bound + 1, cs => do
    let (part, cs) ← readKeyPart (skipSpace cs)
    match skipSpace cs with
    | '.' :: cs =>
      let (rest, cs) ← readKeyParts bound cs
      return (String.ofList part :: rest, cs)
    | cs => return ([String.ofList part], cs)

/-- How many levels values may stand in one another and parts may follow one another in a key. -/
def maxDepth : Nat := 79

/-- Reads a key: the parts on the way, and the last one. -/
def readKey (cs : List Char) : Option ((List String × String) × List Char) := do
  let (parts, cs) ← readKeyParts cs.length cs
  let key ← parts.getLast?
  if maxDepth < parts.length then none else return ((parts.dropLast, key), cs)

end Clausal.Toml
