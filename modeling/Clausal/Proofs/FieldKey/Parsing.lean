import Clausal.Proofs.FieldKey.Grammar
/-!
# Keys taken apart by parsers

A key is read by small parsers put together: a name, a space, and words between separators, where
the list of words gives back what no word follows. Each position in an error is a difference of
sizes. Step by step this could fail in ways that the reader does not know; it never does. The words
can always be read, and no position lies before the key.
-/

namespace Clausal.FieldKey

open Clausal.Text

/-! ## Step by step -/

/-- The difference of two sizes, if it is one. -/
def minus? (a b : Nat) : Option Nat :=
  if b ≤ a then some (a - b) else none

/-- A name up to the first space, and all that follows the space if there is one. -/
def keyParts : Parser (List Char × Option (List Char)) :=
  (Parser.takeWhile1 (· != ' ')).pair (.optional ((Parser.char ' ').behind .remainder))

/-- Reads the operator of a key from its words. There is no result when the words cannot be read or
a position would lie before the key. -/
def parseOp (position : Nat) (text : List Char) : Option (Except Error MatchOp) :=
  match operatorWords.run text with
  | none => none
  | some (ws, []) =>
    if (spelled ws).isEmpty then some (.ok .equal)
    else
      match MatchOp.ofSymbol? (String.ofList (spelled ws)) with
      | some op => some (.ok op)
      | none => some (.error (.unsupportedOperator (String.ofList (spelled ws))))
  | some (_, left) =>
    (minus? (position + Utf8.size text) (Utf8.size left)).map fun position =>
      .error (.malformedKey position
        ("Unexpected trailing content: '" ++ String.ofList left ++ "'"))

/-- Takes a key apart parser by parser. -/
def parse (key : String) : Option (Except Error FieldKey) :=
  match keyParts.run (trimStart key.toList) with
  | none => some (.error (.malformedKey 0 "Empty field key"))
  | some ((name, text), _) =>
    let field := Identifier.dropBackticks name
    if field.isEmpty then
      some (.error (.malformedKey 0 ("Empty field name in key '" ++ key ++ "'")))
    else
      match text with
      | none => some (.ok ⟨String.ofList field, .equal⟩)
      | some text =>
        (minus? (Utf8.size key.toList) (Utf8.size text)).bind fun position =>
          (parseOp position text).map fun op => op.map (⟨String.ofList field, ·⟩)

/-! ## The parsers do what the reader does -/

theorem parseOp_eq {size : Nat} {text : List Char} (inside : Utf8.size text ≤ size) :
    parseOp (size - Utf8.size text) text = some (readOp size text) := by
  have joined := untilStray_append_fromStray text
  have clean : ∀ c ∈ untilStray text, isStray c = false := fun c mem =>
    not_isStray_of_mem_untilStray mem
  rw [parseOp, run_operatorWords]
  cases trailing : fromStray text with
  | nil =>
    rw [trailing, List.append_nil] at joined
    rw [joined] at clean
    rw [readOp_of_clean clean, joined]
    dsimp only
    cases spelled (words text) with
    | nil => rfl
    | cons c symbol =>
      dsimp only [List.isEmpty_cons]
      cases MatchOp.ofSymbol? (String.ofList (c :: symbol)) <;> rfl
  | cons c behind =>
    have stray := isStray_of_fromStray trailing
    rw [trailing] at joined
    have part : Utf8.size (c :: behind) ≤ Utf8.size text := Utf8.size_le_of_suffix ⟨_, joined⟩
    have sum : size - Utf8.size text + Utf8.size text = size := by omega
    have read := @readOp_of_stray size _ behind c clean stray
    rw [joined] at read
    simp only [sum, minus?, if_pos (part.trans inside), read, Option.map_some]

/-- Behind the name stands the text of an operator, or nothing where there is no space. -/
theorem Parts.run_keyParts {key : String} {name rest : List Char} (parts : Parts key name rest) :
    (rest = [] ∧ keyParts.run (trimStart key.toList) = some ((name, none), [])) ∨
      keyParts.run (trimStart key.toList) = some ((name, some rest), []) := by
  cases parts with
  | bare full absent split =>
    have taken : (Parser.takeWhile1 (· != ' ')).run name = some (name, []) :=
      Parser.run_takeWhile1_eq_some_iff.mpr ⟨by simp, full, ne_space_of_mem absent, by simp⟩
    refine .inl ⟨rfl, ?_⟩
    simp [split, keyParts, Parser.pair, taken, Parser.optional, Parser.behind, Parser.map,
      Parser.char]
  | spaced full absent split =>
    have taken : (Parser.takeWhile1 (· != ' ')).run (name ++ ' ' :: rest) =
        some (name, ' ' :: rest) :=
      Parser.run_takeWhile1_eq_some_iff.mpr ⟨rfl, full, ne_space_of_mem absent, by simp⟩
    refine .inr ?_
    simp [split, keyParts, Parser.pair, taken, Parser.optional, Parser.behind, Parser.map,
      Parser.char, Parser.remainder]

/-- Parser by parser a key is read as the reader reads it. So its words can always be read, and no
position comes out below the start of the key. -/
theorem parse_eq (key : String) : parse key = some (read key) := by
  by_cases blank : trimStart key.toList = []
  · have none : keyParts.run [] = none := rfl
    simp [parse, read, blank, none]
  obtain ⟨name, rest, parts⟩ := exists_parts blank
  have inside := Utf8.size_le_of_suffix parts.suffix
  by_cases nameless : Identifier.dropBackticks name = []
  · have refused := read_of_refuses (.nameless parts nameless)
    rcases parts.run_keyParts with ⟨-, ran⟩ | ran <;> simp [parse, ran, nameless, refused]
  · rw [read_of_parts parts nameless]
    rcases parts.run_keyParts with ⟨rfl, ran⟩ | ran
    · simp only [parse, ran, List.isEmpty_iff, if_neg nameless]
      rfl
    · simp only [parse, ran, List.isEmpty_iff, if_neg nameless, minus?, if_pos inside,
        Option.bind_some, parseOp_eq inside, Option.map_some]

/-- A key is read exactly when the grammar accepts it, and as what the grammar says. Any other key
fails with what the grammar finds wrong with it. Taking the key apart parser by parser comes to the
same result: the words can always be read, and each position is one of the key. -/
theorem read_follows_grammar (key : String) :
    (∀ parsed, read key = .ok parsed ↔ Accepts key parsed) ∧
      (∀ e, read key = .error e ↔ Refuses key e) ∧ parse key = some (read key) := by
  refine ⟨fun parsed => ⟨fun made => ?_, read_of_accepts⟩,
    fun e => ⟨fun failed => ?_, read_of_refuses⟩, parse_eq key⟩
  · rcases accepts_or_refuses key with ⟨other, accepts⟩ | ⟨e, refuses⟩
    · rw [read_of_accepts accepts] at made
      cases made
      exact accepts
    · rw [read_of_refuses refuses] at made
      cases made
  · rcases accepts_or_refuses key with ⟨parsed, accepts⟩ | ⟨other, refuses⟩
    · rw [read_of_accepts accepts] at failed
      cases failed
    · rw [read_of_refuses refuses] at failed
      cases failed
      exact refuses

/-- A no-break space in front of the key and two characters of two bytes lie before the stray one. -/
example : read "\u00a0ä like\u00a0x" =
    .error (.malformedKey 9 "Unexpected trailing content: '\u00a0x'") := by
  decide +kernel

end Clausal.FieldKey
