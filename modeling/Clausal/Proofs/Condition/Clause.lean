import Clausal.Proofs.Sql.Grammar
import Clausal.Proofs.Sql.Lexemes
/-!
# The clause of a comparison

The text of a comparison is one clause of the grammar: the name of the field, its operator, and the
values, each of them an operand whatever it is and in either mode.
-/

namespace Clausal

open Sql (Lexeme Token tokens Path Operand)

namespace Sql

theorem breaks_blank : (Lexeme.bare ' ').Breaks :=
  breaks_bare rfl rfl

theorem breaks_dot : (Lexeme.bare '.').Breaks :=
  breaks_bare rfl rfl

theorem breaks_comma : (Lexeme.bare ',').Breaks :=
  breaks_bare rfl rfl

theorem breaks_closing : (Lexeme.bare ')').Breaks :=
  breaks_bare rfl rfl

/-! ## Names -/

theorem isPart_partLexeme (part : List Char) :
    ∃ t, tokens [partLexeme part] = [t] ∧ t.isPart = true := by
  unfold partLexeme
  split
  · exact ⟨.star, rfl, rfl⟩
  · exact ⟨.name (Identifier.partName part), rfl, rfl⟩

theorem Path.intercalate {parts : List (List Token)} (full : parts ≠ [])
    (each : ∀ part ∈ parts, ∃ t, part = [t] ∧ t.isPart = true) :
    Path ([Token.dot].intercalate parts) := by
  induction parts with
  | nil => exact (full rfl).elim
  | cons part rest ih =>
    obtain ⟨⟨t, rfl, isPart⟩, later⟩ := List.forall_mem_cons.mp each
    cases rest with
    | nil => simpa using Path.part isPart
    | cons next others =>
      rw [List.intercalate_cons_cons]
      exact .dot isPart (ih (by simp) later)

theorem path_nameLexemes (name : List Char) : Path (tokens (nameLexemes name)) := by
  have spelled : tokens (nameLexemes name) = [Token.dot].intercalate
      (((name.splitOn '.').map fun part => [partLexeme part]).map tokens) :=
    tokens_intercalate breaks_dot (fun _ => rfl) _
  rw [spelled]
  refine Path.intercalate ?_ fun part mem => ?_
  · simp [List.splitOn_ne_nil]
  · obtain ⟨single, memSingle, rfl⟩ := List.mem_map.mp mem
    obtain ⟨raw, -, rfl⟩ := List.mem_map.mp memSingle
    exact isPart_partLexeme raw

/-! ## Numerals -/

theorem toLower_of_isDigit {c : Char} (digit : c.isDigit = true) : c.toLower = c := by
  have range : '0'.val ≤ c.val ∧ c.val ≤ '9'.val := by simpa [Char.isDigit] using digit
  refine dif_neg fun capital => ?_
  have low : 'A'.val ≤ '9'.val := UInt32.le_trans capital.1 range.2
  exact absurd low (by decide)

/-- What holds a digit is no keyword. -/
theorem Keyword.ofWord?_eq_none {cs : List Char} {c : Char} (mem : c ∈ cs)
    (digit : c.isDigit = true) : ofWord? cs = none := by
  refine List.find?_eq_none.mpr fun k _ same => ?_
  have here : c ∈ Text.lower k.text := by
    rw [← Text.sameWord_iff.mp same, Text.lower]
    exact List.mem_map.mpr ⟨c, mem, toLower_of_isDigit digit⟩
  have letters : (Text.lower k.text).all (fun l => !l.isDigit) = true := by
    cases k <;> rfl
  have letter := List.all_eq_true.mp letters c here
  rw [digit] at letter
  cases letter

end Sql

namespace Number

theorem Digits.tokens_chars (d : Digits) : tokens (Sql.bares d.chars) = [.word d.chars] := by
  obtain ⟨c, rest, spelled⟩ := List.exists_cons_of_ne_nil d.ne_nil
  have wordChars : ∀ c ∈ d.chars, Sql.isWordChar c = true := by
    intro c mem
    simp [Sql.isWordChar, Char.isAlphanum, d.isDigit c mem]
  have first : Sql.isWordChar c = true := wordChars c (by simp [spelled])
  have keyless : Sql.Keyword.ofWord? d.chars = none :=
    Sql.Keyword.ofWord?_eq_none (by simp [spelled]) (d.isDigit c (by simp [spelled]))
  have begun : Sql.tokenStep .none (.bare c) = ([], .word [c]) := by
    simp only [Sql.tokenStep, first]
    rfl
  have run := Sql.tokensFrom_word [c] rest [] fun c' mem => wordChars c' (by simp [spelled, mem])
  have word : Token.ofWord d.chars = .word d.chars := by
    unfold Token.ofWord
    rw [keyless]
  rw [List.append_nil, List.singleton_append, ← spelled] at run
  rw [← word, tokens, Sql.bares, spelled, List.map_cons, Sql.tokensFrom, begun, run, spelled]
  rfl

theorem Numeral.path_unsigned (n : Numeral) (unsigned : n.negative = false) :
    Path (tokens (Sql.bares n.text)) := by
  cases digits : n.fraction with
  | none =>
    have spelled : n.text = n.whole.chars := by simp [text, unsigned, digits]
    rw [spelled, n.whole.tokens_chars]
    exact .part rfl
  | some fraction =>
    have spelled : Sql.bares n.text =
        Sql.bares n.whole.chars ++ .bare '.' :: Sql.bares fraction.chars := by
      simp [text, unsigned, digits, Sql.bares]
    have behind : tokens (.bare '.' :: Sql.bares fraction.chars) =
        .dot :: tokens (Sql.bares fraction.chars) := rfl
    rw [spelled, Sql.tokens_append Sql.breaks_dot, behind, n.whole.tokens_chars,
      fraction.tokens_chars]
    exact .dot rfl (.part rfl)

theorem Numeral.operand_text (n : Numeral) : Operand (tokens (Sql.bares n.text)) := by
  cases sign : n.negative with
  | false => exact .path (n.path_unsigned sign)
  | true =>
    rw [text_of_negative sign]
    exact .negative (path_unsigned _ rfl)

end Number

/-! ## Values -/

theorem SqlValue.operand_lexemes (mode : Mode) (v : SqlValue) :
    Operand (tokens (v.lexemes mode)) := by
  cases mode with
  | parameterized => exact .mark
  | inline =>
    simp only [lexemes]
    cases v.written with
    | null bare literal =>
      rw [bare, literal]
      exact .path (.part rfl)
    | numeral n bare literal =>
      rw [bare, literal]
      exact n.operand_text
    | quoted s quotes literal =>
      rw [quotes]
      exact .text s.toList

/-! ## Comparisons -/

namespace Comparison

/-- The clause that a comparison makes, in a mode. -/
def clause (mode : Mode) (m : Comparison) : Sql.Clause where
  subject := tokens (Sql.nameLexemes m.key.field.toList)
  op := m.key.op
  operands := m.values.map fun v => tokens (v.lexemes (m.mode mode))

theorem tokens_symbolLexemes (m : Comparison) (ls : List Lexeme) :
    tokens (m.symbolLexemes ++ ls) = m.key.op.tokens ++ tokens ls := by
  unfold symbolLexemes
  cases m.key.op <;> rfl

theorem tokens_lexemes (mode : Mode) (m : Comparison) : tokens (m.lexemes mode) =
    tokens (Sql.nameLexemes m.key.field.toList) ++ m.key.op.tokens ++
      tokens (m.operandLexemes mode) := by
  have blank : m.symbolLexemes ++ m.operandLexemes mode =
      .bare ' ' :: (Sql.bares (m.key.op.symbol.toList ++ [' ']) ++ m.operandLexemes mode) := by
    simp [symbolLexemes, Sql.bares]
  rw [lexemes, List.append_assoc, List.append_assoc, ← m.tokens_symbolLexemes, blank,
    Sql.tokens_append Sql.breaks_blank]

/-- Values in parentheses. -/
theorem tokens_set (parts : List (List Lexeme)) :
    tokens (Sql.bares ['('] ++ (Sql.bares ", ".toList).intercalate parts ++ Sql.bares [')']) =
      .opening :: ([.comma].intercalate (parts.map tokens) ++ [.closing]) := by
  have separated : tokens ((Sql.bares ", ".toList).intercalate parts) =
      [.comma].intercalate (parts.map tokens) :=
    Sql.tokens_intercalate Sql.breaks_comma (fun _ => rfl) parts
  have opened (ls : List Lexeme) : tokens (.bare '(' :: ls) = .opening :: tokens ls := rfl
  have closed : tokens [.bare ')'] = [.closing] := rfl
  have spelled : Sql.bares ['('] ++ (Sql.bares ", ".toList).intercalate parts ++ Sql.bares [')'] =
      .bare '(' :: ((Sql.bares ", ".toList).intercalate parts ++ [.bare ')']) := rfl
  rw [spelled, opened, Sql.tokens_append Sql.breaks_closing, separated, closed]

/-- Two bounds with AND between them. -/
theorem tokens_range (low high : List Lexeme) :
    tokens ((Sql.bares " AND ".toList).intercalate [low, high]) =
      tokens low ++ .keyword .and :: tokens high := by
  have spelled : (Sql.bares " AND ".toList).intercalate [low, high] =
      low ++ .bare ' ' :: (Sql.bares "AND ".toList ++ high) := by
    simp [Sql.bares]
  have between : tokens (.bare ' ' :: (Sql.bares "AND ".toList ++ high)) =
      .keyword .and :: tokens high := rfl
  rw [spelled, Sql.tokens_append Sql.breaks_blank, between]

/-- The text of a comparison is spelled as its clause is. -/
theorem spelled {mode : Mode} {m : Comparison} (fits : m.Fits) :
    Sql.Spelled (tokens (m.lexemes mode)) (m.clause mode) := by
  have path := Sql.path_nameLexemes m.key.field.toList
  have operand (v : SqlValue) := v.operand_lexemes (m.mode mode)
  rw [m.tokens_lexemes mode]
  unfold clause operandLexemes MatchOp.layoutLexemes
  rcases fits with ⟨shape, v, values⟩ | ⟨shape, full⟩ | ⟨shape, low, high, values⟩
  · rw [shape, values]
    simpa using Sql.Spelled.scalar path shape (operand v)
  · have each : ∀ value ∈ m.values.map fun v => tokens (v.lexemes (m.mode mode)),
        Operand value := by
      intro value mem
      obtain ⟨v, -, rfl⟩ := List.mem_map.mp mem
      exact operand v
    have listed := Sql.Spelled.set path shape (mt List.map_eq_nil_iff.mp full) each
    rw [shape]
    simp only [tokens_set, List.map_map]
    exact listed
  · rw [shape, values]
    simp only [List.map_cons, List.map_nil, tokens_range]
    exact .range path shape (operand low) (operand high)

end Comparison

end Clausal
