import Clausal.Logic
import Clausal.MatchOp
import Clausal.Proofs.Sql.Token
/-!
# The grammar of predicates

Atoms are clauses: a name, an operator and what the operator compares with, the AND of BETWEEN
included. Clauses and predicates in parentheses are factors; factors are joined by AND, and what AND
has joined is joined by OR.
-/

namespace Clausal

open Sql (Token)

def MatchOp.tokens : MatchOp → List Token
  | equal => [.symbol ['=']]
  | notEqual => [.symbol ['!', '=']]
  | greater => [.symbol ['>']]
  | atLeast => [.symbol ['>', '=']]
  | less => [.symbol ['<']]
  | atMost => [.symbol ['<', '=']]
  | differs => [.symbol ['<', '>']]
  | like => [.keyword .like]
  | notLike => [.keyword .not, .keyword .like]
  | is => [.keyword .is]
  | within => [.keyword .within]
  | notWithin => [.keyword .not, .keyword .within]
  | between => [.keyword .between]
  | notBetween => [.keyword .not, .keyword .between]

namespace Logic

/-- The connective as a token. -/
def token : Logic → Token
  | and => .keyword .and
  | or => .keyword .or

def combine : Logic → Bool → Bool → Bool
  | and => Bool.and
  | or => Bool.or

theorem combine_assoc (logic : Logic) (a b c : Bool) :
    logic.combine (logic.combine a b) c = logic.combine a (logic.combine b c) := by
  cases logic with
  | and => exact Bool.and_assoc a b c
  | or => exact Bool.or_assoc a b c

end Logic

namespace Sql

/-! ## Clauses -/

def Token.isPart : Token → Bool
  | .word _ => true
  | .name _ => true
  | .star => true
  | _ => false

/-- A name, dotted or not; a number without a sign reads the same. -/
inductive Path : List Token → Prop
  | part {t : Token} : t.isPart = true → Path [t]
  | dot {t : Token} {ts : List Token} : t.isPart = true → Path ts → Path (t :: .dot :: ts)

inductive Operand : List Token → Prop
  | text (content : List Char) : Operand [.text content]
  | mark : Operand [.mark]
  | path {ts : List Token} : Path ts → Operand ts
  | negative {ts : List Token} : Path ts → Operand (.dash :: ts)

/-- An atom: what is compared, how, and with what. -/
structure Clause where
  subject : List Token
  op : MatchOp
  operands : List (List Token)
deriving DecidableEq

/-- How a clause is spelled. IS may stand before NOT. -/
inductive Spelled : List Token → Clause → Prop
  | scalar {subject value : List Token} {op : MatchOp} : Path subject → op.shape = .scalar →
    Operand value → Spelled (subject ++ op.tokens ++ value) ⟨subject, op, [value]⟩
  | isNot {subject value : List Token} : Path subject → Operand value →
    Spelled (subject ++ MatchOp.is.tokens ++ .keyword .not :: value)
      ⟨subject, .is, [.keyword .not :: value]⟩
  | set {subject : List Token} {op : MatchOp} {values : List (List Token)} : Path subject →
    op.shape = .set → values ≠ [] → (∀ value ∈ values, Operand value) →
    Spelled (subject ++ op.tokens ++ .opening :: ([.comma].intercalate values ++ [.closing]))
      ⟨subject, op, values⟩
  | range {subject low high : List Token} {op : MatchOp} : Path subject → op.shape = .range →
    Operand low → Operand high →
    Spelled (subject ++ op.tokens ++ (low ++ .keyword .and :: high)) ⟨subject, op, [low, high]⟩

/-! ## Predicates -/

inductive Predicate where
  | clause (c : Clause)
  | join (logic : Logic) (p q : Predicate)

namespace Predicate

/-- The atoms, from left to right. -/
def clauses : Predicate → List Clause
  | clause c => [c]
  | join _ p q => p.clauses ++ q.clauses

/-- The truth value under an assignment of truth values to atoms. -/
def eval (v : Clause → Bool) : Predicate → Bool
  | clause c => v c
  | join logic p q => logic.combine (p.eval v) (q.eval v)

/-- Two predicates with the same atoms that are true under the same assignments. -/
structure Agrees (p q : Predicate) : Prop where
  clauses : p.clauses = q.clauses
  eval : ∀ v, p.eval v = q.eval v

namespace Agrees

theorem refl (p : Predicate) : p.Agrees p :=
  ⟨rfl, fun _ => rfl⟩

theorem trans {p q s : Predicate} (first : p.Agrees q) (second : q.Agrees s) : p.Agrees s :=
  ⟨first.clauses.trans second.clauses, fun v => (first.eval v).trans (second.eval v)⟩

theorem join (logic : Logic) {p p' q q' : Predicate} (left : p.Agrees p') (right : q.Agrees q') :
    (Predicate.join logic p q).Agrees (Predicate.join logic p' q') where
  clauses := by rw [Predicate.clauses, Predicate.clauses, left.clauses, right.clauses]
  eval v := by rw [Predicate.eval, Predicate.eval, left.eval, right.eval]

theorem assoc (logic : Logic) (p q s : Predicate) :
    (Predicate.join logic p (Predicate.join logic q s)).Agrees
      (Predicate.join logic (Predicate.join logic p q) s) where
  clauses := (List.append_assoc ..).symm
  eval _ := (logic.combine_assoc ..).symm

end Agrees

end Predicate

/-! ## Derivations -/

/-- How loosely a piece of a predicate is bound: not at all, or by a connective. -/
inductive Level where
  | factor
  | chain (logic : Logic)

end Sql

/-- The level of what a connective joins. AND binds tighter than OR. -/
def Logic.below : Logic → Sql.Level
  | and => .factor
  | or => .chain and

namespace Sql

inductive Derives : Level → List Token → Predicate → Prop
  | clause {ts : List Token} {c : Clause} : Spelled ts c → Derives .factor ts (.clause c)
  | parenthesized {ts : List Token} {p : Predicate} : Derives (.chain .or) ts p →
    Derives .factor (.opening :: (ts ++ [.closing])) p
  | single {logic : Logic} {ts : List Token} {p : Predicate} : Derives logic.below ts p →
    Derives (.chain logic) ts p
  | join {logic : Logic} {ts us : List Token} {p q : Predicate} : Derives logic.below ts p →
    Derives (.chain logic) us q → Derives (.chain logic) (ts ++ logic.token :: us) (.join logic p q)

namespace Derives

/-- A factor can stand beside any connective. -/
theorem chain {ts : List Token} {p : Predicate} (derives : Derives .factor ts p) (logic : Logic) :
    Derives (.chain logic) ts p := by
  cases logic with
  | and => exact .single derives
  | or => exact .single (.single derives)

/-- Whatever derives at some level is a predicate as a whole. -/
theorem whole {level : Level} {ts : List Token} {p : Predicate} (derives : Derives level ts p) :
    Derives (.chain .or) ts p := by
  cases level with
  | factor => exact derives.chain .or
  | chain logic =>
    cases logic with
    | and => exact .single derives
    | or => exact derives

/-- Two chains of one connective, put side by side, are one chain. -/
theorem link {logic : Logic} {ts us : List Token} {p q : Predicate}
    (first : Derives (.chain logic) ts p) (second : Derives (.chain logic) us q) :
    ∃ s, Derives (.chain logic) (ts ++ logic.token :: us) s ∧ s.Agrees (.join logic p q) := by
  generalize same : Level.chain logic = level at first
  induction first with
  | clause _ => cases same
  | parenthesized _ _ => cases same
  | single below _ =>
    cases same
    exact ⟨_, .join below second, .refl _⟩
  | @join _ ts ts' p p' below _ _ ih =>
    cases same
    obtain ⟨s, derives, agrees⟩ := ih rfl
    have regrouped := (Predicate.Agrees.join logic (.refl p) agrees).trans (.assoc logic p p' q)
    refine ⟨.join logic p s, ?_, regrouped⟩
    rw [List.append_assoc, List.cons_append]
    exact .join below derives

end Derives

/-- A text that is a predicate of the grammar. -/
def Parses (s : String) (p : Predicate) : Prop :=
  ∃ ts, tokenize? s = some ts ∧ Derives (.chain .or) ts p

end Sql

end Clausal
