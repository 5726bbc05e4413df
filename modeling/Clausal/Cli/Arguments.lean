/-!
Command lines. A command line is read from left to right into switches with their values, plain
words and the name of a command, whose own arguments follow it. The first thing that does not fit
ends the reading.
-/

namespace Clausal.Cli

/-- Why a command line is read no further. -/
inductive Stop where
  /-- It is not understood. -/
  | misuse
  /-- It asks for help. -/
  | help
  /-- It asks for the version. -/
  | version
deriving DecidableEq

/-- What a switch does. -/
inductive Action where
  | flag
  /-- It takes one value of a certain kind. -/
  | value (accepts : String → Bool)
  | stop (reason : Stop)

/-- A switch, known by its long name. -/
structure Switch where
  long : String
  short : Option Char := none
  action : Action

/-- What was read so far: the switches with their values, and the plain words. Flags have empty
values. -/
structure Reading where
  given : List (String × String) := []
  words : List String := []
  /-- The name of a command, and all that follows it. -/
  command : Option (String × List String) := none

namespace Reading

instance : Inhabited Reading := ⟨{}⟩

/-- The value of a switch. -/
def value? (reading : Reading) (long : String) : Option String :=
  (reading.given.find? fun entry => entry.1 == long).map Prod.snd

/-- Whether a switch is given. -/
def has (reading : Reading) (long : String) : Bool :=
  (reading.value? long).isSome

/-- Notes a switch with its value. No switch is given twice. -/
def give (reading : Reading) (switch : Switch) (value : String) : Except Stop Reading :=
  let accepted : Bool := match switch.action with
    | .value accepts => accepts value
    | _ => true
  if accepted && !reading.has switch.long then
    .ok { reading with given := reading.given ++ [(switch.long, value)] }
  else .error .misuse

/-- Notes plain words, of which only so many may be there. -/
def addWords (reading : Reading) (most : Nat) (words : List String) : Except Stop Reading :=
  let words := reading.words ++ words
  if words.length ≤ most then .ok { reading with words } else .error .misuse

end Reading

/-! ## Single arguments -/

/-- An argument by its form. -/
inductive Argument where
  /-- A plain word; a lone dash is one. -/
  | word (text : String)
  /-- A long name, perhaps with a value after an equals sign. -/
  | long (name : String) (value : Option String)
  /-- Several short names in one. -/
  | short (letters : List Char)
  /-- Two dashes: plain words follow. -/
  | wordsFollow

/-- The form of an argument. -/
def Argument.ofText (text : String) : Argument :=
  match text.toList with
  | ['-', '-'] => wordsFollow
  | '-' :: '-' :: cs =>
    let name := String.ofList (cs.takeWhile (· != '='))
    match cs.dropWhile (· != '=') with
    | _ :: value => long name (some (String.ofList value))
    | [] => long name none
  | '-' :: c :: cs => short (c :: cs)
  | _ => word text

/-- What is known on a command line. -/
structure Grammar where
  switches : List Switch
  commands : List String := []
  /-- How many plain words there may be. -/
  words : Nat := 0

namespace Grammar

/-- Reads short names; the last may be of a switch whose value is the next argument. -/
def readShort (grammar : Grammar) : List Char → Reading → Except Stop (Reading × Option Switch)
  | [], reading => .ok (reading, none)
  | c :: cs, reading =>
    match grammar.switches.find? fun switch => switch.short == some c with
    | none => .error .misuse
    | some switch =>
      match switch.action with
      | .stop reason => .error reason
      | .flag => do readShort grammar cs (← reading.give switch "")
      | .value _ =>
        match cs with
        | [] => .ok (reading, some switch)
        | '=' :: value => do return (← reading.give switch (String.ofList value), none)
        | value => do return (← reading.give switch (String.ofList value), none)

/-- Reads a long name; its value may be the next argument. -/
def readLong (grammar : Grammar) (name : String) (value : Option String) (reading : Reading) :
    Except Stop (Reading × Option Switch) :=
  match grammar.switches.find? fun switch => switch.long == name with
  | none => .error .misuse
  | some switch =>
    match switch.action, value with
    | .stop reason, none => .error reason
    | .flag, none => do return (← reading.give switch "", none)
    | .value _, some value => do return (← reading.give switch value, none)
    | .value _, none => .ok (reading, some switch)
    | _, some _ => .error .misuse

/-- Reads arguments up to the name of a command. The value of a switch may look like the name of a
command, but not like a switch. -/
def read (grammar : Grammar) : List String → Reading → Except Stop Reading
  | [], reading => .ok reading
  | text :: rest, reading =>
    if grammar.commands.contains text then .ok { reading with command := some (text, rest) }
    else do
      let (reading, waiting) ← match Argument.ofText text with
        | .wordsFollow => return ← reading.addWords grammar.words rest
        | .word text => do pure (← reading.addWords grammar.words [text], none)
        | .long name value => grammar.readLong name value reading
        | .short letters => grammar.readShort letters reading
      match waiting, rest with
      | none, rest => read grammar rest reading
      | some switch, next :: rest =>
        match Argument.ofText next with
        | .word value => do read grammar rest (← reading.give switch value)
        | _ => .error .misuse
      | some _, [] => .error .misuse

end Grammar

end Clausal.Cli
