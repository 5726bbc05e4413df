import Clausal.Proofs.Condition.Clause
import Clausal.Proofs.Sql.Reader
/-!
# What a condition means

What a tree means is read off its structure: raw text is the predicate that it is, a comparison is
its clause, and a node joins what its members mean. `compile_denotes` says that the text of the
tree, read by the grammar with its precedences, is that predicate again. So wherever a node stands,
the parentheses around it are enough.
-/

namespace Clausal

open Sql (Level Predicate Scans tokens)

/-- Two predicates under a connective; one that is missing is skipped. -/
def Sql.Predicate.join? (logic : Logic) : Option Predicate → Option Predicate → Option Predicate
  | none, q => q
  | some p, none => some p
  | some p, some q => some (.join logic p q)

namespace Condition

mutual

/-- What a tree denotes, if it denotes anything. -/
def meaning (r : Rendering) (logic : Logic) : Condition → Option Predicate
  | .raw sql => Predicate.ofText? (Text.trimmed sql)
  | .sequence members => membersMeaning r logic members
  | .fields entries => entriesMeaning r logic entries
  | .group own members => membersMeaning r own members

def membersMeaning (r : Rendering) (logic : Logic) : List Condition → Option Predicate
  | [] => none
  | member :: rest => Predicate.join? logic (meaning r logic member) (membersMeaning r logic rest)

def entriesMeaning (r : Rendering) (logic : Logic) : List Entry → Option Predicate
  | [] => none
  | entry :: rest => Predicate.join? logic (entryMeaning r entry) (entriesMeaning r logic rest)

/-- Under a connective as key, members are joined with it. -/
def entryMeaning (r : Rendering) : Entry → Option Predicate
  | .value key value =>
    match Logic.ofKey? key with
    | some _ =>
      match value with
      | .text sql => Predicate.ofText? (Text.trimmed sql)
      | _ => none
    | none =>
      (Leaf.comparison? r.hooks (.comparison key value)).map fun m => .clause (m.clause r.mode)
  | .nested key condition =>
    match Logic.ofKey? key with
    | some logic => meaning r logic condition
    | none => none

end

end Condition

/-! ## Fragments that mean a predicate -/

/-- A fragment that derives a predicate at some level, up to the grouping of its chains; or no text,
for no predicate. -/
inductive Means (level : Level) : Fragment → Option Predicate → Prop
  | nothing {f : Fragment} : f.isEmpty = true → Means level f none
  | predicate {f : Fragment} (ls : List Sql.Lexeme) {p q : Predicate} : f.isEmpty = false →
    Scans f.sql.toList ls → Sql.Derives level (tokens ls) p → p.Agrees q → Means level f (some q)

namespace Means

theorem whole {level : Level} {f : Fragment} {d : Option Predicate} (means : Means level f d) :
    Means (.chain .or) f d := by
  cases means with
  | nothing empty => exact .nothing empty
  | predicate ls full scans derives agrees => exact .predicate ls full scans derives.whole agrees

theorem chain {f : Fragment} {d : Option Predicate} (means : Means .factor f d) (logic : Logic) :
    Means (.chain logic) f d := by
  cases means with
  | nothing empty => exact .nothing empty
  | predicate ls full scans derives agrees =>
    exact .predicate ls full scans (derives.chain logic) agrees

theorem eq_none {level : Level} {f : Fragment} {d : Option Predicate} (means : Means level f d)
    (empty : f.isEmpty = true) : d = none := by
  cases means with
  | nothing _ => rfl
  | predicate _ full _ _ _ =>
    rw [empty] at full
    cases full

/-- Parentheses make a factor of any predicate. -/
theorem parenthesized {f : Fragment} {d : Option Predicate} (means : Means (.chain .or) f d) :
    Means .factor f.parenthesized d := by
  cases means with
  | nothing empty =>
    refine .nothing ?_
    rw [Fragment.isEmpty_parenthesized, empty]
  | predicate ls full scans derives agrees =>
    have opened : Scans ['('] (Sql.bares ['(']) := .bare rfl
    have closed : Scans [')'] (Sql.bares [')']) := .bare rfl
    have written : f.parenthesized = .ofText "(" ++ f ++ .ofText ")" := by
      unfold Fragment.parenthesized
      rw [full]
      rfl
    have spelled : tokens (Sql.bares ['('] ++ ls ++ Sql.bares [')']) =
        .opening :: (tokens ls ++ [.closing]) := by
      have inner : tokens (ls ++ [.bare ')']) = tokens ls ++ [.closing] :=
        Sql.tokens_append Sql.breaks_closing ls []
      rw [← inner]
      rfl
    refine .predicate (Sql.bares ['('] ++ ls ++ Sql.bares [')']) ?_ ?_ ?_ agrees
    · rw [Fragment.isEmpty_parenthesized, full]
    · rw [written]
      simpa using (opened.append scans).append closed
    · rw [spelled]
      exact .parenthesized derives

/-- A part without text is left out, and what it denotes is skipped. -/
theorem link_of_isEmpty {level : Level} {f g : Fragment} {d e : Option Predicate} (logic : Logic)
    (left : Means level f d) (right : Means level g e)
    (sparse : f.isEmpty = true ∨ g.isEmpty = true) :
    Means level (Fragment.link logic f g) (Predicate.join? logic d e) := by
  unfold Fragment.link
  by_cases empty : f.isEmpty = true
  · rw [if_pos empty, left.eq_none empty]
    exact right
  · have behind : g.isEmpty = true := sparse.resolve_left empty
    rw [if_neg empty, if_pos behind, right.eq_none behind]
    cases d <;> exact left

theorem scans_keyword (logic : Logic) : Scans (" " ++ logic.keyword ++ " ").toList
    (Sql.bares (" " ++ logic.keyword ++ " ").toList) := by
  refine .bare ?_
  cases logic <;> rfl

theorem tokens_link (logic : Logic) (ls ms : List Sql.Lexeme) :
    tokens (ls ++ Sql.bares (" " ++ logic.keyword ++ " ").toList ++ ms) =
      tokens ls ++ logic.token :: tokens ms := by
  have blank : Sql.bares (" " ++ logic.keyword ++ " ").toList ++ ms =
      .bare ' ' :: (Sql.bares (logic.keyword ++ " ").toList ++ ms) := by
    cases logic <;> rfl
  have between : tokens (.bare ' ' :: (Sql.bares (logic.keyword ++ " ").toList ++ ms)) =
      logic.token :: tokens ms := by
    cases logic <;> rfl
  rw [List.append_assoc, blank, Sql.tokens_append Sql.breaks_blank, between]

/-- Two parts that stand beside a connective are linked by it. -/
theorem link {logic : Logic} {f g : Fragment} {d e : Option Predicate}
    (left : Means (.chain logic) f d) (right : Means (.chain logic) g e) :
    Means (.chain logic) (Fragment.link logic f g) (Predicate.join? logic d e) := by
  by_cases sparse : f.isEmpty = true ∨ g.isEmpty = true
  · exact link_of_isEmpty logic left right sparse
  · rw [not_or] at sparse
    cases left with
    | nothing empty => exact (sparse.1 empty).elim
    | predicate ls full scans derives agrees =>
      cases right with
      | nothing empty => exact (sparse.2 empty).elim
      | predicate ms full' scans' derives' agrees' =>
        have written : Fragment.link logic f g =
            f ++ .ofText (" " ++ logic.keyword ++ " ") ++ g := by
          unfold Fragment.link
          rw [if_neg sparse.1, if_neg sparse.2]
        obtain ⟨s, joined, same⟩ := derives.link derives'
        refine .predicate (ls ++ Sql.bares (" " ++ logic.keyword ++ " ").toList ++ ms) ?_ ?_ ?_
          (same.trans (.join logic agrees agrees'))
        · rw [Fragment.isEmpty_link, full]
          rfl
        · rw [written]
          simpa using (scans.append (scans_keyword logic)).append scans'
        · rw [tokens_link]
          exact joined

end Means

/-! ## Lists of parts -/

/-- Parts that mean predicates one by one, and what they denote together under a connective. -/
inductive MeanAll (level : Level) (logic : Logic) : List Fragment → Option Predicate → Prop
  | nil : MeanAll level logic [] none
  | cons {f : Fragment} {rest : List Fragment} {d e : Option Predicate} : Means level f d →
    MeanAll level logic rest e → MeanAll level logic (f :: rest) (Predicate.join? logic d e)

namespace MeanAll

theorem join {logic : Logic} {parts : List Fragment} {d : Option Predicate}
    (all : MeanAll (.chain logic) logic parts d) :
    Means (.chain logic) (Fragment.join logic parts) d := by
  induction all with
  | nil => exact .nothing rfl
  | cons first _ ih =>
    rw [Fragment.join_cons]
    exact first.link ih

/-- One part with text among the others stays as it is, at whatever level it is. -/
theorem join_single {level : Level} {logic : Logic} {parts : List Fragment}
    {d : Option Predicate} (all : MeanAll level logic parts d)
    (sparse : (parts.filter (!·.isEmpty)).length ≤ 1) :
    Means level (Fragment.join logic parts) d := by
  induction all with
  | nil => exact .nothing rfl
  | @cons f rest d e first _ ih =>
    rw [Fragment.join_cons]
    cases empty : f.isEmpty with
    | true =>
      rw [List.filter_cons_of_neg (by simp [empty])] at sparse
      exact .link_of_isEmpty logic first (ih sparse) (.inl empty)
    | false =>
      rw [List.filter_cons_of_pos (by simp [empty]), List.length_cons] at sparse
      have none : rest.filter (!·.isEmpty) = [] := List.length_eq_zero_iff.mp (by omega)
      have silent : (Fragment.join logic rest).isEmpty = true := by
        rw [Fragment.join, none]
        rfl
      exact .link_of_isEmpty logic first (ih (by omega)) (.inr silent)

end MeanAll

/-- Members that mean predicates. Raw text may be any predicate; another member stands beside the
connective already. -/
inductive MembersMean (logic : Logic) : List Member → Option Predicate → Prop
  | nil : MembersMean logic [] none
  | cons {m : Member} {rest : List Member} {d e : Option Predicate} :
    Means (if m.isRaw then .chain .or else .chain logic) m.fragment d → MembersMean logic rest e →
    MembersMean logic (m :: rest) (Predicate.join? logic d e)

namespace MembersMean

variable {logic : Logic} {members : List Member} {d : Option Predicate}

/-- Guarded members all stand beside the connective. -/
theorem guarded (mean : MembersMean logic members d) :
    MeanAll (.chain logic) logic (members.map (Member.guarded true)) d := by
  induction mean with
  | nil => exact .nil
  | @cons m rest d e first _ ih =>
    refine .cons ?_ ih
    unfold Member.guarded
    cases raw : m.isRaw with
    | true =>
      rw [raw] at first
      exact first.parenthesized.chain logic
    | false =>
      rw [raw] at first
      exact first

theorem unguarded (mean : MembersMean logic members d) :
    MeanAll (.chain .or) logic (members.map (Member.guarded false)) d := by
  induction mean with
  | nil => exact .nil
  | @cons m rest d e first _ ih =>
    refine .cons ?_ ih
    unfold Member.guarded
    rw [Bool.and_false]
    exact first.whole

/-- Members are guarded as far as they need to be, so joining them makes a factor. -/
theorem join (mean : MembersMean logic members d) :
    Means .factor (Member.join logic members) d := by
  rw [Member.join_eq]
  refine Means.parenthesized ?_
  cases crowded : Member.areCrowded members with
  | true => exact mean.guarded.join.whole
  | false =>
    refine mean.unguarded.join_single ?_
    have few : ¬ 1 < (members.filter (!·.fragment.isEmpty)).length :=
      of_decide_eq_false crowded
    have same : (members.map (Member.guarded false)).filter (!·.isEmpty) =
        (members.filter (!·.fragment.isEmpty)).map (Member.guarded false) := by
      rw [List.filter_map]
      congr 2
      funext m
      simp [Member.isEmpty_guarded]
    rw [same, List.length_map]
    omega

end MembersMean

/-! ## Leaves -/

/-- Raw text that is blank or a predicate of the grammar; no other leaf brings text of its own. -/
def Leaf.WellFormed : Leaf → Prop
  | .raw sql => Text.isBlankString sql = false → ∃ p, Sql.Parses (Text.trimmed sql) p
  | _ => True

namespace Means

theorem raw {sql : String} (wellFormed : (Leaf.raw sql).WellFormed) :
    Means (.chain .or) (.ofText (Text.trimmed sql)) (Predicate.ofText? (Text.trimmed sql)) := by
  cases blank : Text.isBlankString sql with
  | true =>
    have nothing : Predicate.ofText? "" = none := by rfl
    rw [Text.trimmed_eq_empty_iff.mpr blank, nothing]
    exact .nothing rfl
  | false =>
    obtain ⟨p, parses⟩ := wellFormed blank
    have full : (Fragment.ofText (Text.trimmed sql)).isEmpty = false := by
      refine Bool.eq_false_iff.mpr fun empty => ?_
      rw [Text.trimmed_eq_empty_iff.mp (Fragment.isEmpty_iff.mp empty)] at blank
      cases blank
    rw [Predicate.ofText?_eq_some_iff.mpr parses]
    obtain ⟨ts, made, derives⟩ := parses
    obtain ⟨ls, scans, rfl⟩ := Sql.exists_scans_of_tokenize? made
    exact .predicate ls full scans derives (.refl p)

theorem comparison {r : Rendering} {key : String} {value : SqlValue} {f : Fragment}
    (made : (Leaf.comparison key value).fragment r = .ok f) :
    Means .factor f ((Leaf.comparison? r.hooks (.comparison key value)).map fun m =>
      .clause (m.clause r.mode)) := by
  have full : f.isEmpty = false := by
    obtain ⟨parsed, -, clause⟩ := Leaf.fragment_comparison_eq_ok_iff.mp made
    exact FieldKey.isEmpty_clause clause
  rcases Leaf.comparison_of_fragment made with ⟨sql, other, -⟩ | ⟨m, compares, fits, rfl⟩
  · cases other
  · rw [compares]
    exact .predicate _ full (m.scans_fragment r.mode) (.clause (Comparison.spelled fits)) (.refl _)

end Means

/-! ## Trees -/

namespace Condition

/-- Every raw text of a tree is blank or a predicate of the grammar. -/
def WellFormed (c : Condition) : Prop :=
  ∀ leaf ∈ c.leaves, leaf.WellFormed

/-- How loosely the text of a node is bound. -/
def level (logic : Logic) : Condition → Level
  | .raw _ => .chain .or
  | .sequence _ => .factor
  | .fields _ => .chain logic
  | .group _ _ => .factor

theorem means_member {logic : Logic} {c : Condition} {f : Fragment} {d : Option Predicate}
    (means : Means (c.level logic) f d) :
    Means (if c.isRaw then .chain .or else .chain logic) f d := by
  cases c with
  | raw sql => exact means
  | sequence members => exact means.chain logic
  | fields entries => exact means
  | group own members => exact means.chain logic

mutual

/-- Compiling a node makes a fragment that means what the node denotes. -/
theorem means_compile {r : Rendering} {logic : Logic} {c : Condition} {f : Fragment}
    (wellFormed : ∀ leaf ∈ c.leaves, leaf.WellFormed) (compiled : c.compile r logic = .ok f) :
    Means (c.level logic) f (c.meaning r logic) := by
  match c with
  | .raw sql =>
    cases compiled
    exact .raw (wellFormed (.raw sql) (List.mem_singleton.mpr rfl))
  | .sequence members =>
    rw [compile] at compiled
    obtain ⟨parts, made, joined⟩ := bind_eq_ok_iff.mp compiled
    cases joined
    exact (means_compileMembers wellFormed made).join
  | .fields entries =>
    rw [compile] at compiled
    obtain ⟨parts, made, joined⟩ := bind_eq_ok_iff.mp compiled
    cases joined
    exact (means_compileEntries wellFormed made).join
  | .group own members =>
    rw [compile] at compiled
    obtain ⟨parts, made, joined⟩ := bind_eq_ok_iff.mp compiled
    cases joined
    exact (means_compileMembers wellFormed made).join

theorem means_compileMembers {r : Rendering} {logic : Logic} {members : List Condition}
    {parts : List Member} (wellFormed : ∀ leaf ∈ memberLeaves members, leaf.WellFormed)
    (compiled : compileMembers r logic members = .ok parts) :
    MembersMean logic parts (membersMeaning r logic members) := by
  match members with
  | [] =>
    cases compiled
    exact .nil
  | member :: rest =>
    rw [memberLeaves, List.forall_mem_append] at wellFormed
    rw [compileMembers] at compiled
    obtain ⟨f, first, compiled⟩ := bind_eq_ok_iff.mp compiled
    obtain ⟨others, later, joined⟩ := bind_eq_ok_iff.mp compiled
    cases joined
    exact .cons (means_member (means_compile wellFormed.1 first))
      (means_compileMembers wellFormed.2 later)

theorem means_compileEntries {r : Rendering} {logic : Logic} {entries : List Entry}
    {parts : List Fragment} (wellFormed : ∀ leaf ∈ entryLeaves entries, leaf.WellFormed)
    (compiled : compileEntries r entries = .ok parts) :
    MeanAll (.chain logic) logic parts (entriesMeaning r logic entries) := by
  match entries with
  | [] =>
    cases compiled
    exact .nil
  | entry :: rest =>
    rw [entryLeaves, List.forall_mem_append] at wellFormed
    rw [compileEntries] at compiled
    obtain ⟨f, first, compiled⟩ := bind_eq_ok_iff.mp compiled
    obtain ⟨others, later, joined⟩ := bind_eq_ok_iff.mp compiled
    cases joined
    exact .cons ((means_compileEntry wellFormed.1 first).chain logic)
      (means_compileEntries wellFormed.2 later)

theorem means_compileEntry {r : Rendering} {entry : Entry} {f : Fragment}
    (wellFormed : ∀ leaf ∈ leavesOfEntry entry, leaf.WellFormed)
    (compiled : compileEntry r entry = .ok f) : Means .factor f (entryMeaning r entry) := by
  match entry with
  | .value key value =>
    have here : (Leaf.ofValue key value).WellFormed := wellFormed _ (by simp [leavesOfEntry])
    unfold Leaf.ofValue at here
    unfold compileEntry at compiled
    unfold entryMeaning
    cases connective : Logic.ofKey? key with
    | none =>
      simp only [connective] at compiled ⊢
      exact .comparison compiled
    | some logic =>
      simp only [connective] at compiled here ⊢
      cases value with
      | text sql =>
        obtain rfl := Except.ok.inj compiled
        exact (Means.raw here).parenthesized
      | _ => cases compiled
  | .nested key condition =>
    rw [leavesOfEntry] at wellFormed
    unfold compileEntry at compiled
    unfold entryMeaning
    cases connective : Logic.ofKey? key with
    | none =>
      simp only [connective] at compiled
      obtain ⟨parsed, -, failed⟩ := bind_eq_ok_iff.mp compiled
      cases failed
    | some logic =>
      simp only [connective] at compiled wellFormed ⊢
      obtain ⟨inner, made, joined⟩ := bind_eq_ok_iff.mp compiled
      cases joined
      have means := means_compile wellFormed made
      cases condition with
      | raw sql => exact means.parenthesized
      | sequence members => exact means
      | fields entries => exact means.whole.parenthesized
      | group own members => exact means

end

/-- The text of a tree is one predicate of the grammar, and that predicate has the clauses of what
the tree denotes and is true where it is true. -/
theorem compile_denotes {r : Rendering} {logic : Logic} {c : Condition} {f : Fragment}
    (wellFormed : c.WellFormed) (compiled : c.compile r logic = .ok f) (full : f.sql ≠ "") :
    ∃ p d, Sql.Parses f.sql p ∧ (∀ q, Sql.Parses f.sql q → q = p) ∧
      c.meaning r logic = some d ∧ p.clauses = d.clauses ∧ ∀ v, p.eval v = d.eval v := by
  have means := (means_compile wellFormed compiled).whole
  generalize c.meaning r logic = denoted at means
  cases means with
  | nothing empty => exact (full (Fragment.isEmpty_iff.mp empty)).elim
  | predicate ls _ scans derives agrees =>
    have parses : Sql.Parses f.sql _ := ⟨tokens ls, Sql.tokenize?_of_scans scans, derives⟩
    exact ⟨_, _, parses, fun _ other => other.unique parses, rfl, agrees.clauses, agrees.eval⟩

/-- Raw text with OR beside a comparison keeps its meaning. -/
theorem compile_denotes_guarded :
    (sequence [.raw "a = 1 OR b = 2", field "c" (.int 3)]).WellFormed ∧
      (sequence [.raw "a = 1 OR b = 2", field "c" (.int 3)]).compile {} .and =
        .ok ⟨"((a = 1 OR b = 2) AND `c` = 3)", []⟩ ∧
      ∃ p d, Sql.Parses "((a = 1 OR b = 2) AND `c` = 3)" p ∧
        (sequence [.raw "a = 1 OR b = 2", field "c" (.int 3)]).meaning {} .and = some d ∧
        ∀ v, p.eval v = d.eval v := by
  have wellFormed : (sequence [.raw "a = 1 OR b = 2", field "c" (.int 3)]).WellFormed := by
    intro leaf mem
    have leaves : (sequence [.raw "a = 1 OR b = 2", field "c" (.int 3)]).leaves =
        [.raw "a = 1 OR b = 2", .comparison "c" (.int 3)] := by rfl
    rw [leaves] at mem
    rcases List.mem_cons.mp mem with rfl | later
    · intro _
      have read : (Predicate.ofText? (Text.trimmed "a = 1 OR b = 2")).isSome = true := by rfl
      obtain ⟨p, found⟩ := Option.isSome_iff_exists.mp read
      exact ⟨p, Predicate.ofText?_eq_some_iff.mp found⟩
    · rw [List.mem_singleton.mp later]
      trivial
  have compiled : (sequence [.raw "a = 1 OR b = 2", field "c" (.int 3)]).compile {} .and =
      .ok ⟨"((a = 1 OR b = 2) AND `c` = 3)", []⟩ := by rfl
  obtain ⟨p, d, parses, -, denotes, -, same⟩ := compile_denotes wellFormed compiled (by decide)
  exact ⟨wellFormed, compiled, p, d, parses, denotes, same⟩

end Condition

end Clausal
