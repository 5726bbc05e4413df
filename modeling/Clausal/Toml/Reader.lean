import Clausal.Error
import Clausal.Toml.Numbers
import Clausal.Toml.Strings
/-!
Reading configuration documents: values, then lines, then the whole text. A line is a header, a key
with its value, a comment or nothing; it ends at a line break or at the end of the text.
-/

namespace Clausal.Toml

/-! ## Values -/

/-- Passes over blanks, line breaks and comments; the flag tells whether a comment is open. -/
def skipLines : Bool → List Char → Option (List Char)
  | _, [] => some []
  | inComment, c :: r =>
    if c = '\n' then skipLines false r
    else if c = '\r' then if r.head? = some '\n' then skipLines inComment r else none
    else if inComment then if isPlain c then skipLines true r else none
    else if isSpace c then skipLines false r
    else if c = '#' then skipLines true r
    else some (c :: r)

/-- Reads the items of an array from behind its bracket. A comma may follow the last. Each item
takes at least one character, so the length of the text bounds their number. -/
def readItems (value : List Char → Option (Toml × List Char)) :
    Nat → List Char → Option (List Toml × List Char)
  | 0, _ => none
  | bound + 1, cs => do
    match ← skipLines false cs with
    | ']' :: r => return ([], r)
    | cs =>
      let (first, cs) ← value cs
      match ← skipLines false cs with
      | ']' :: r => return ([first], r)
      | ',' :: r =>
        let (rest, cs) ← readItems value bound r
        return (first :: rest, cs)
      | _ => none

/-- Reads a key and its value. -/
def readAssignment (value : List Char → Option (Toml × List Char)) (cs : List Char) :
    Option ((List String × String × Toml) × List Char) := do
  let ((path, key), cs) ← readKey cs
  let (v, cs) ← value (skipSpace (← after? '=' cs))
  return ((path, key, v), cs)

/-- Reads assignments up to a closing brace, all on one line. Each takes at least one character, so
the length of the text bounds their number. -/
def readAssignments (value : List Char → Option (Toml × List Char)) :
    Nat → List Char → Option (List (List String × String × Toml) × List Char)
  | 0, _ => none
  | bound + 1, cs => do
    let (first, cs) ← readAssignment value cs
    match skipSpace cs with
    | '\x7d' :: r => return ([first], r)
    | ',' :: r =>
      let (rest, cs) ← readAssignments value bound r
      return (first :: rest, cs)
    | _ => none

/-- Reads a table from behind its opening brace. -/
def readBraces (value : List Char → Option (Toml × List Char)) (cs : List Char) :
    Option (Toml × List Char) :=
  match skipSpace cs with
  | '\x7d' :: r => some (.table .braces [], r)
  | cs => (readAssignments value cs.length cs).bind fun (assignments, r) =>
    (ofAssignments assignments).map fun v => (v, r)

/-- Reads a value that holds no others. -/
def readScalar (cs : List Char) : Option (Toml × List Char) :=
  match cs with
  | '"' :: _ | '\'' :: _ => (readString cs).map fun (s, r) => (.string (String.ofList s), r)
  | 't' :: _ => (Text.afterWord? "true".toList cs).map fun r => (.bool true, r)
  | 'f' :: _ => (Text.afterWord? "false".toList cs).map fun r => (.bool false, r)
  | _ => readNumber cs

/-- Reads a value in which others stand in one another up to a depth. -/
def readValue : Nat → List Char → Option (Toml × List Char)
  | 0, '[' :: _ => none
  | 0, '\x7b' :: _ => none
  | depth + 1, '[' :: r =>
    (readItems (readValue depth) (r.length + 1) r).map fun (items, r) => (.array items, r)
  | depth + 1, '\x7b' :: r => readBraces (readValue depth) r
  | _, cs => readScalar cs

/-! ## Lines -/

/-- The text after the rest of a line, which may hold a comment. -/
def afterLine? (cs : List Char) : Option (List Char) :=
  let rest := match skipSpace cs with
    | '#' :: r => r.dropWhile isPlain
    | cs => cs
  if rest.isEmpty then some [] else afterLineBreak? rest

/-- Reads what a line says from its first character that is no blank; a line may say nothing. -/
def readContent (cs : List Char) : Option (Option Line × List Char) :=
  match cs with
  | [] => some (none, [])
  | '#' :: _ | '\n' :: _ | '\r' :: _ => some (none, cs)
  | '[' :: '[' :: r => do
    let ((path, key), r) ← readKey r
    return (some (.nextTable path key), ← Text.afterWord? [']', ']'] r)
  | '[' :: r => do
    let ((path, key), r) ← readKey r
    return (some (.header path key), ← after? ']' r)
  | cs => do
    let ((path, key, value), r) ← readAssignment (readValue maxDepth) cs
    return (some (.assign path key value), r)

/-- Reads all lines. Each takes at least one character, so the length of the text bounds their
number. -/
def readLines : Nat → List Char → Option (List Line)
  | 0, _ => none
  | bound + 1, cs => do
    let (line, cs) ← readContent (skipSpace cs)
    match ← afterLine? cs with
    | [] => return line.toList
    | cs => return line.toList ++ (← readLines bound cs)

/-! ## Documents -/

/-- The mark that a text may start with to tell its encoding. -/
def encodingMark : Char := '\ufeff'

/-- Reads a whole document. -/
def read? (text : String) : Option Members :=
  let cs := text.toList
  let cs := (after? encodingMark cs).getD cs
  (readLines (cs.length + 1) cs).bind ofLines

end Clausal.Toml
