import Clausal.Proofs.Condition.Comparison
import Clausal.Proofs.Sql.Scan
/-!
# The lexemes of a comparison

What the scanner reads where a comparison is written: the name of the field, the symbol of the
operator, and each value as a quoted text, as the characters of a numeral or of NULL, or as the
mark of a placeholder.
-/

namespace Clausal

open Sql (Lexeme Scans)

/-- Characters outside of quotes. -/
def Sql.bares (cs : List Char) : List Lexeme :=
  cs.map .bare

namespace Number.Numeral

theorem unquoted_text (n : Numeral) : n.text.all Sql.isUnquoted = true := by
  refine List.all_eq_true.mpr fun c mem => ?_
  rcases mem_text mem with digit | ⟨rfl, -⟩ | rfl
  · have noQuote : c ≠ '\'' := by
      rintro rfl
      cases digit
    have noTick : c ≠ Identifier.backtick := by
      rintro rfl
      cases digit
    simp [Sql.isUnquoted, noQuote, noTick]
  · rfl
  · rfl

end Number.Numeral

/-! ## Values -/

namespace SqlValue

def lexemes : Mode → SqlValue → List Lexeme
  | .parameterized, _ => [.bare '?']
  | .inline, v =>
    match v.quotedText? with
    | some s => [.text s.toList]
    | none => Sql.bares v.literal.toList

theorem scans_literal (v : SqlValue) : Scans v.literal.toList (v.lexemes .inline) := by
  simp only [lexemes]
  cases v.written with
  | null bare literal =>
    rw [bare, literal]
    exact .bare rfl
  | numeral n bare literal =>
    rw [bare, literal]
    exact .bare n.unquoted_text
  | quoted s quotes literal =>
    rw [quotes, literal]
    exact Sql.scans_quote s

theorem scans_ofValue (mode : Mode) (v : SqlValue) :
    Scans (Fragment.ofValue mode v).sql.toList (v.lexemes mode) := by
  cases mode with
  | inline => exact v.scans_literal
  | parameterized =>
    have mark : (Fragment.ofValue .parameterized v).sql.toList = ['?'] := by
      simp [Fragment.ofValue, placeholder]
    have plain : Scans ['?'] (Sql.bares ['?']) := .bare rfl
    rw [mark]
    exact plain

end SqlValue

/-! ## Layouts -/

namespace MatchOp

/-- The lexemes of values as they stand together. -/
def layoutLexemes (op : MatchOp) (parts : List (List Lexeme)) : List Lexeme :=
  match op.shape with
  | .set => Sql.bares ['('] ++ (Sql.bares ", ".toList).intercalate parts ++ Sql.bares [')']
  | _ => (Sql.bares " AND ".toList).intercalate parts

theorem scans_layout (op : MatchOp) {values : List SqlValue} {written : SqlValue → Fragment}
    {read : SqlValue → List Lexeme} (each : ∀ v, Scans (written v).sql.toList (read v)) :
    Scans (op.layout (values.map written)).sql.toList (op.layoutLexemes (values.map read)) := by
  have laid (separator : String) (plain : Scans separator.toList (Sql.bares separator.toList)) :
      Scans (Fragment.intercalate separator (values.map written)).sql.toList
        ((Sql.bares separator.toList).intercalate (values.map read)) := by
    rw [Fragment.toList_intercalate, List.map_map]
    exact plain.intercalate fun v _ => each v
  have conjoined := laid " AND " (.bare rfl)
  unfold layout layoutLexemes
  cases op.shape with
  | scalar => exact conjoined
  | range => exact conjoined
  | set =>
    have opened : Scans "(".toList (Sql.bares ['(']) := .bare rfl
    have closed : Scans ")".toList (Sql.bares [')']) := .bare rfl
    have listed := laid ", " (.bare rfl)
    simp only [Fragment.sql_append, Fragment.sql_ofText, String.toList_append]
    exact (opened.append listed).append closed

end MatchOp

/-! ## Comparisons -/

namespace Comparison

/-- The symbol of the operator, with a blank on either side. -/
def symbolLexemes (m : Comparison) : List Lexeme :=
  Sql.bares (' ' :: m.key.op.symbol.toList ++ [' '])

/-- The values as they stand behind the symbol. -/
def operandLexemes (mode : Mode) (m : Comparison) : List Lexeme :=
  m.key.op.layoutLexemes (m.values.map (SqlValue.lexemes (m.mode mode)))

def lexemes (mode : Mode) (m : Comparison) : List Lexeme :=
  Sql.nameLexemes m.key.field.toList ++ m.symbolLexemes ++ m.operandLexemes mode

theorem scans_fragment (mode : Mode) (m : Comparison) :
    Scans (m.fragment mode).sql.toList (m.lexemes mode) := by
  have symbol : Scans (' ' :: m.key.op.symbol.toList ++ [' ']) m.symbolLexemes := by
    refine .bare ?_
    cases m.key.op <;> rfl
  have opening : Scans m.key.opening.toList
      (Sql.nameLexemes m.key.field.toList ++ m.symbolLexemes) := by
    have spelled : m.key.opening.toList = Identifier.quoteChars m.key.field.toList ++
        (' ' :: m.key.op.symbol.toList ++ [' ']) := by
      simp [FieldKey.opening, Identifier.quote]
    rw [spelled]
    exact (Sql.scans_quoteChars _).append symbol
  rw [fragment, Fragment.sql_append, Fragment.sql_ofText, String.toList_append]
  exact opening.append (m.key.op.scans_layout (SqlValue.scans_ofValue _))

end Comparison

end Clausal
