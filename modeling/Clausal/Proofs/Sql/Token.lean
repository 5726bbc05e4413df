import Clausal.Proofs.Sql.Scan
import Clausal.Text.Case
/-!
# Tokens

Outside of quotes, letters and digits run together into words, signs of comparison into symbols, and
every other character that is no blank is a token of its own. A token list can be put together piece
by piece wherever the next piece starts with a lexeme that ends a run.
-/

namespace Clausal.Sql

/-- The words that the grammar of predicates reserves. -/
inductive Keyword where
  | and
  | or
  | not
  | like
  | is
  | within
  | between
deriving DecidableEq

namespace Keyword

def all : List Keyword :=
  [and, or, not, like, is, within, between]

def text : Keyword → List Char
  | and => ['a', 'n', 'd']
  | or => ['o', 'r']
  | not => ['n', 'o', 't']
  | like => ['l', 'i', 'k', 'e']
  | is => ['i', 's']
  | within => ['i', 'n']
  | between => ['b', 'e', 't', 'w', 'e', 'e', 'n']

/-- The keyword that a word is, in any case of letters. -/
def ofWord? (cs : List Char) : Option Keyword :=
  all.find? fun k => Text.sameWord cs k.text

end Keyword

inductive Token where
  | keyword (k : Keyword)
  | word (cs : List Char)
  | symbol (cs : List Char)
  | text (content : List Char)
  | name (content : List Char)
  | opening
  | closing
  | comma
  | dot
  | star
  | dash
  | mark
  | stray (c : Char)
deriving DecidableEq

namespace Token

def ofWord (cs : List Char) : Token :=
  match Keyword.ofWord? cs with
  | some k => .keyword k
  | none => .word cs

/-- The token that a character is by itself. -/
def ofChar (c : Char) : Token :=
  if c = '(' then .opening
  else if c = ')' then .closing
  else if c = ',' then .comma
  else if c = '.' then .dot
  else if c = '*' then .star
  else if c = '-' then .dash
  else if c = '?' then .mark
  else .stray c

end Token

def isBlank (c : Char) : Bool :=
  c = ' ' || c = '\t' || c = '\n' || c = '\r'

def isSign (c : Char) : Bool :=
  c = '=' || c = '!' || c = '<' || c = '>'

def isWordChar (c : Char) : Bool :=
  c.isAlphanum || c = '_' || c = '$' || 128 ≤ c.toNat

/-- The run of characters that the tokenizer is in. -/
inductive Run where
  | none
  | word (seen : List Char)
  | symbol (seen : List Char)

namespace Run

/-- The token of a run that has ended. -/
def close : Run → List Token
  | none => []
  | word seen => [.ofWord seen]
  | symbol seen => [.symbol seen]

def addWordChar (c : Char) : Run → List Token × Run
  | word seen => ([], word (seen ++ [c]))
  | run => (run.close, word [c])

def addSign (c : Char) : Run → List Token × Run
  | symbol seen => ([], symbol (seen ++ [c]))
  | run => (run.close, symbol [c])

end Run

/-- One step of the tokenizer: the tokens that are complete, and the run that goes on. -/
def tokenStep (run : Run) : Lexeme → List Token × Run
  | .text content => (run.close ++ [.text content], .none)
  | .name content => (run.close ++ [.name content], .none)
  | .bare c =>
    if isWordChar c then run.addWordChar c
    else if isSign c then run.addSign c
    else if isBlank c then (run.close, .none)
    else (run.close ++ [.ofChar c], .none)

def tokensFrom (run : Run) : List Lexeme → List Token
  | [] => run.close
  | l :: rest => (tokenStep run l).1 ++ tokensFrom (tokenStep run l).2 rest

def tokens (ls : List Lexeme) : List Token :=
  tokensFrom .none ls

/-- The tokens of a text that leaves no quote open. -/
def tokenize? (s : String) : Option (List Token) :=
  match scan .outside s.toList with
  | (.outside, ls) => some (tokens ls)
  | _ => none

theorem tokenize?_of_scans {s : String} {ls : List Lexeme} (scans : Scans s.toList ls) :
    tokenize? s = some (tokens ls) := by
  unfold tokenize?
  rw [scans]

theorem exists_scans_of_tokenize? {s : String} {ts : List Token} (made : tokenize? s = some ts) :
    ∃ ls, Scans s.toList ls ∧ tokens ls = ts := by
  unfold tokenize? at made
  split at made
  next ls scanned =>
    cases made
    exact ⟨ls, scanned, rfl⟩
  next => cases made

/-! ## Piece by piece -/

/-- A lexeme that ends a run of letters or signs in front of it. -/
def Lexeme.Breaks (l : Lexeme) : Prop :=
  ∀ run, (tokenStep run l).1 = run.close ++ (tokenStep .none l).1 ∧
    (tokenStep run l).2 = (tokenStep .none l).2

theorem breaks_bare {c : Char} (noSign : isSign c = false) (noWord : isWordChar c = false) :
    (Lexeme.bare c).Breaks := by
  intro run
  simp only [tokenStep, noSign, noWord]
  cases isBlank c with
  | true => exact ⟨(List.append_nil _).symm, rfl⟩
  | false => exact ⟨rfl, rfl⟩

theorem tokensFrom_append {l : Lexeme} (breaks : l.Breaks) (run : Run) (a b : List Lexeme) :
    tokensFrom run (a ++ l :: b) = tokensFrom run a ++ tokens (l :: b) := by
  induction a generalizing run with
  | nil =>
    obtain ⟨first, next⟩ := breaks run
    rw [List.nil_append, tokens]
    simp only [tokensFrom, first, next, List.append_assoc]
  | cons other rest ih =>
    rw [List.cons_append, tokensFrom, tokensFrom, ih, List.append_assoc]

theorem tokens_append {l : Lexeme} (breaks : l.Breaks) (a b : List Lexeme) :
    tokens (a ++ l :: b) = tokens a ++ tokens (l :: b) :=
  tokensFrom_append breaks .none a b

/-- A separator that ends runs and leaves none behind it. -/
theorem tokens_intercalate {l : Lexeme} {between : List Lexeme} {t : Token} (breaks : l.Breaks)
    (reads : ∀ ls, tokens (l :: between ++ ls) = t :: tokens ls) (parts : List (List Lexeme)) :
    tokens ((l :: between).intercalate parts) = [t].intercalate (parts.map tokens) := by
  induction parts with
  | nil => rfl
  | cons part rest ih =>
    cases rest with
    | nil => simp
    | cons next others =>
      have unfolded : [t].intercalate ((part :: next :: others).map tokens) =
          tokens part ++ [t] ++ [t].intercalate ((next :: others).map tokens) :=
        List.intercalate_cons_cons ..
      rw [List.intercalate_cons_cons, List.append_assoc, List.cons_append,
        tokens_append breaks, ← List.cons_append, reads, ih, unfolded, List.append_assoc]
      rfl

/-! ## Words -/

/-- Letters and digits go on with the word that they stand behind. -/
theorem tokensFrom_word (seen cs : List Char) (rest : List Lexeme)
    (letters : ∀ c ∈ cs, isWordChar c = true) :
    tokensFrom (.word seen) (cs.map .bare ++ rest) = tokensFrom (.word (seen ++ cs)) rest := by
  induction cs generalizing seen with
  | nil => simp
  | cons c others ih =>
    obtain ⟨here, later⟩ := List.forall_mem_cons.mp letters
    have step : tokenStep (.word seen) (.bare c) = ([], .word (seen ++ [c])) := by
      simp only [tokenStep, here]
      rfl
    rw [List.map_cons, List.cons_append, tokensFrom, step, ih _ later, List.append_assoc]
    rfl

end Clausal.Sql
