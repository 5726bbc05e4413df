import Clausal.Proofs.SqlValue.Literal
import Clausal.Proofs.Text.Identifier
/-!
# Scanning

The scanner reads a statement as the server does, character by character: outside of quotes, inside
a quoted text, where a backslash makes the next character part of the text, or inside a name in
backticks. What it has read comes out as lexemes. A text, a name or a character that is written for
a statement leaves the scanner outside, so statements can be scanned piece by piece.
-/

namespace Clausal.Sql

open Identifier (backtick)

inductive Lexeme where
  | bare (c : Char)
  | text (content : List Char)
  | name (content : List Char)
deriving DecidableEq

/-- Where the scanner stands, and what it has seen since the last quote. -/
inductive ScanState where
  | outside
  | text (seen : List Char)
  /-- Inside a text, behind a backslash. -/
  | escape (seen : List Char)
  | name (seen : List Char)

def scanStep : ScanState → Char → ScanState × List Lexeme
  | .outside, c =>
    if c = '\'' then (.text [], [])
    else if c = backtick then (.name [], [])
    else (.outside, [.bare c])
  | .text seen, c =>
    if c = '\\' then (.escape seen, [])
    else if c = '\'' then (.outside, [.text seen])
    else (.text (seen ++ [c]), [])
  | .escape seen, c => (.text (seen ++ [c]), [])
  | .name seen, c =>
    if c = backtick then (.outside, [.name seen]) else (.name (seen ++ [c]), [])

/-- Scans a text: where the scanner stands at its end, and the lexemes it has completed. -/
def scan (s : ScanState) : List Char → ScanState × List Lexeme
  | [] => (s, [])
  | c :: rest =>
    let (next, first) := scanStep s c
    let (last, others) := scan next rest
    (last, first ++ others)

/-- A text that leaves no quote open, and its lexemes. -/
def Scans (cs : List Char) (ls : List Lexeme) : Prop :=
  scan .outside cs = (.outside, ls)

/-- Whether a character opens no quote. -/
def isUnquoted (c : Char) : Bool :=
  c != '\'' && c != backtick

/-! ## Piece by piece -/

theorem scan_append (s : ScanState) (a b : List Char) :
    scan s (a ++ b) =
      ((scan (scan s a).1 b).1, (scan s a).2 ++ (scan (scan s a).1 b).2) := by
  induction a generalizing s with
  | nil => rfl
  | cons c rest ih => simp only [List.cons_append, scan, ih, List.append_assoc]

namespace Scans

theorem nil : Scans [] [] := rfl

theorem append {a b : List Char} {la lb : List Lexeme} (first : Scans a la) (second : Scans b lb) :
    Scans (a ++ b) (la ++ lb) := by
  unfold Scans at *
  rw [scan_append, first]
  simp only [second]

/-- A text has one list of lexemes. -/
theorem unique {cs : List Char} {la lb : List Lexeme} (first : Scans cs la)
    (second : Scans cs lb) : la = lb :=
  congrArg Prod.snd (first.symm.trans second)

theorem bare {cs : List Char} (unquoted : cs.all isUnquoted = true) :
    Scans cs (cs.map .bare) := by
  induction cs with
  | nil => exact nil
  | cons c rest ih =>
    rw [List.all_cons, Bool.and_eq_true] at unquoted
    obtain ⟨here, later⟩ := unquoted
    obtain ⟨noQuote, noTick⟩ : c ≠ '\'' ∧ c ≠ backtick := by simpa [isUnquoted] using here
    have first : Scans [c] [.bare c] := by
      simp only [Scans, scan, scanStep, if_neg noQuote, if_neg noTick, List.append_nil]
    exact first.append (ih later)

theorem intercalate {α : Type} {written : α → List Char} {read : α → List Lexeme}
    {separator : List Char} {between : List Lexeme} (scanned : Scans separator between)
    {items : List α} (each : ∀ item ∈ items, Scans (written item) (read item)) :
    Scans (separator.intercalate (items.map written)) (between.intercalate (items.map read)) := by
  induction items with
  | nil => exact nil
  | cons item rest ih =>
    obtain ⟨first, later⟩ := List.forall_mem_cons.mp each
    cases rest with
    | nil => simpa using first
    | cons next others =>
      simp only [List.map_cons, List.intercalate_cons_cons]
      exact (first.append scanned).append (ih later)

end Scans

/-! ## Quoted texts -/

/-- Inside a text, an escaped text is read back as it was. -/
theorem scan_escapeChars (seen cs : List Char) :
    scan (.text seen) (SqlValue.escapeChars cs) = (.text (seen ++ cs), []) := by
  induction cs generalizing seen with
  | nil => simp [SqlValue.escapeChars, scan]
  | cons c rest ih =>
    have tail : seen ++ c :: rest = seen ++ [c] ++ rest := by simp
    have unfolded : SqlValue.escapeChars (c :: rest) =
        (if SqlValue.needsEscape c then ['\\', c] else [c]) ++ SqlValue.escapeChars rest := rfl
    have first : scan (.text seen) (if SqlValue.needsEscape c then ['\\', c] else [c]) =
        (.text (seen ++ [c]), []) := by
      split
      next => rfl
      next ordinary =>
        have noBackslash : c ≠ '\\' := by
          rintro rfl
          exact ordinary rfl
        have noQuote : c ≠ '\'' := by
          rintro rfl
          exact ordinary rfl
        simp only [scan, scanStep, if_neg noBackslash, if_neg noQuote, List.append_nil]
    rw [unfolded, scan_append, first, tail]
    simp only [ih, List.append_nil]

theorem scans_quote (s : String) : Scans (SqlValue.quote s).toList [.text s.toList] := by
  have spelled : (SqlValue.quote s).toList =
      ['\''] ++ SqlValue.escapeChars s.toList ++ ['\''] := by
    simp [SqlValue.quote, SqlValue.escape]
  have opened : scan .outside ['\''] = (.text [], []) := rfl
  have closed : scan (.text s.toList) ['\''] = (.outside, [.text s.toList]) := rfl
  rw [Scans, spelled, scan_append, scan_append, opened]
  simp only [scan_escapeChars, List.nil_append, closed]

/-! ## Names -/

theorem scan_name (seen : List Char) {cs : List Char} (absent : backtick ∉ cs) :
    scan (.name seen) cs = (.name (seen ++ cs), []) := by
  induction cs generalizing seen with
  | nil => simp [scan]
  | cons c rest ih =>
    rw [List.mem_cons, not_or] at absent
    simp only [scan, scanStep, if_neg (Ne.symm absent.1), ih _ absent.2, List.append_assoc,
      List.singleton_append, List.append_nil]

theorem scans_name {cs : List Char} (absent : backtick ∉ cs) :
    Scans (backtick :: cs ++ [backtick]) [.name cs] := by
  have opened : scan .outside [backtick] = (.name [], []) := rfl
  have closed : scan (.name cs) [backtick] = (.outside, [.name cs]) := by
    simp only [scan, scanStep, if_pos, List.append_nil]
  have spelled : backtick :: cs ++ [backtick] = [backtick] ++ cs ++ [backtick] := rfl
  rw [Scans, spelled, scan_append, scan_append, opened]
  simp only [scan_name [] absent, List.nil_append, closed]

/-- One part of a dotted name as the scanner reads it. -/
def partLexeme (part : List Char) : Lexeme :=
  if Identifier.partName part = ['*'] then .bare '*' else .name (Identifier.partName part)

/-- A dotted name as the scanner reads it. -/
def nameLexemes (name : List Char) : List Lexeme :=
  List.intercalate [.bare '.'] ((name.splitOn '.').map fun part => [partLexeme part])

theorem scans_quotePart (part : List Char) :
    Scans (Identifier.quotePart part) [partLexeme part] := by
  unfold partLexeme
  by_cases star : Identifier.partName part = ['*']
  · rw [if_pos star, Identifier.quotePart_of_star star]
    have plain : Scans ['*'] (['*'].map .bare) := .bare rfl
    exact plain
  · rw [if_neg star, Identifier.quotePart_of_ne_star star]
    exact scans_name (Identifier.backtick_not_mem_dropBackticks _)

theorem scans_quoteChars (name : List Char) :
    Scans (Identifier.quoteChars name) (nameLexemes name) := by
  have dot : Scans ['.'] (['.'].map .bare) := .bare rfl
  exact dot.intercalate fun part _ => scans_quotePart part

end Clausal.Sql
