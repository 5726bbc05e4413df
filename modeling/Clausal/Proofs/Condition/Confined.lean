import Clausal.Proofs.Sql.Lexemes
/-!
# Nothing leaves its quotes

A tree without raw text becomes text in which every value and every name is where it belongs: the
scanner ends outside of quotes, has read back exactly the texts and the names that were written,
and what it has read outside is made of few characters that no value or name can choose.
-/

namespace Clausal

namespace Sql

/-- The contents of the quoted texts. -/
def texts (ls : List Lexeme) : List (List Char) :=
  ls.filterMap fun
    | .text content => some content
    | _ => none

/-- The contents of the names. -/
def names (ls : List Lexeme) : List (List Char) :=
  ls.filterMap fun
    | .name content => some content
    | _ => none

/-- The characters outside of quotes. -/
def outside (ls : List Lexeme) : List Char :=
  ls.filterMap fun
    | .bare c => some c
    | _ => none

/-- The characters that may stand outside of quotes. -/
def isPlain (c : Char) : Bool :=
  c.isUpper || c.isDigit || " (),.-*=!<>?".toList.contains c

/-- The plain characters that stand between values. -/
def isSeparator (c : Char) : Bool :=
  isPlain c && c != '-' && c != '?'

/-- Every dash outside of quotes stands right before a digit, so no comment starts there. -/
def DashesLead : List Lexeme → Prop
  | [] => True
  | l :: rest =>
    (l = .bare '-' → ∃ c, c.isDigit = true ∧ rest.head? = some (.bare c)) ∧ DashesLead rest

theorem DashesLead.append {a b : List Lexeme} (first : DashesLead a) (second : DashesLead b) :
    DashesLead (a ++ b) := by
  induction a with
  | nil => exact second
  | cons l rest ih =>
    obtain ⟨here, later⟩ := first
    refine ⟨fun dash => ?_, ih later⟩
    obtain ⟨c, digit, next⟩ := here dash
    have follows : (rest ++ b).head? = some (.bare c) := by
      rw [List.head?_append, next]
      rfl
    exact ⟨c, digit, follows⟩

theorem DashesLead.of_absent {ls : List Lexeme} (absent : .bare '-' ∉ ls) : DashesLead ls := by
  induction ls with
  | nil => trivial
  | cons l rest ih =>
    rw [List.mem_cons, not_or] at absent
    exact ⟨fun dash => (absent.1 dash.symm).elim, ih absent.2⟩

/-- Two dashes never stand side by side. -/
theorem DashesLead.not_infix {ls : List Lexeme} (lead : DashesLead ls) :
    ¬ [.bare '-', .bare '-'] <:+: ls := by
  induction ls with
  | nil => simp
  | cons l rest ih =>
    obtain ⟨here, later⟩ := lead
    rw [List.infix_cons_iff]
    rintro (front | behind)
    · obtain ⟨first, second⟩ := List.cons_prefix_cons.mp front
      obtain ⟨c, digit, next⟩ := here first.symm
      cases rest with
      | nil => cases next
      | cons other others =>
        obtain ⟨same, -⟩ := List.cons_prefix_cons.mp second
        rw [List.head?_cons, ← same] at next
        cases next
        cases digit
    · exact ih later behind

/-- Lexemes whose quotes hold given texts and names, and which are harmless outside of them, where
there is a given number of question marks. -/
structure Harmless (ts ns : List (List Char)) (marks : Nat) (ls : List Lexeme) : Prop where
  texts : texts ls = ts
  names : names ls = ns
  plain : ∀ c ∈ outside ls, isPlain c = true
  dashes : DashesLead ls
  marks : (outside ls).count '?' = marks

theorem outside_bares (cs : List Char) : outside (bares cs) = cs := by
  simp [outside, bares, List.filterMap_map]

namespace Harmless

theorem nil : Harmless [] [] 0 [] :=
  ⟨rfl, rfl, by simp [outside], trivial, rfl⟩

theorem append {ta tb na nb : List (List Char)} {ma mb : Nat} {a b : List Lexeme}
    (first : Harmless ta na ma a) (second : Harmless tb nb mb b) :
    Harmless (ta ++ tb) (na ++ nb) (ma + mb) (a ++ b) where
  texts := by rw [Sql.texts, List.filterMap_append, ← first.texts, ← second.texts]; rfl
  names := by rw [Sql.names, List.filterMap_append, ← first.names, ← second.names]; rfl
  plain := by
    rw [outside, List.filterMap_append, List.forall_mem_append]
    exact ⟨first.plain, second.plain⟩
  dashes := first.dashes.append second.dashes
  marks := by
    rw [outside, List.filterMap_append, List.count_append, ← first.marks, ← second.marks]
    rfl

/-- Plain characters hold no text and no name. -/
theorem bares {cs : List Char} (plain : ∀ c ∈ cs, isPlain c = true)
    (dashes : DashesLead (bares cs)) : Harmless [] [] (cs.count '?') (bares cs) where
  texts := by simp [Sql.texts, Sql.bares]
  names := by simp [Sql.names, Sql.bares]
  plain := by rwa [outside_bares]
  dashes := dashes
  marks := by rw [outside_bares]

theorem separator {cs : List Char} (plain : cs.all isSeparator = true) :
    Harmless [] [] 0 (Sql.bares cs) := by
  have each : ∀ c ∈ cs, isPlain c = true ∧ c ≠ '-' ∧ c ≠ '?' := by
    simpa [isSeparator, and_assoc] using plain
  have absent : Lexeme.bare '-' ∉ Sql.bares cs := by
    intro mem
    obtain ⟨c, memChars, same⟩ := List.mem_map.mp mem
    cases same
    exact (each _ memChars).2.1 rfl
  have unmarked : cs.count '?' = 0 :=
    List.count_eq_zero.mpr fun mem => (each _ mem).2.2 rfl
  rw [← unmarked]
  exact bares (fun c mem => (each c mem).1) (.of_absent absent)

theorem intercalate {α : Type} {between : List Lexeme} (harmless : Harmless [] [] 0 between)
    {ts ns : α → List (List Char)} {bound : α → List SqlValue} {read : α → List Lexeme}
    {items : List α}
    (each : ∀ item ∈ items, Harmless (ts item) (ns item) (bound item).length (read item)) :
    Harmless (items.flatMap ts) (items.flatMap ns) (items.flatMap bound).length
      (between.intercalate (items.map read)) := by
  induction items with
  | nil => exact nil
  | cons item rest ih =>
    obtain ⟨first, later⟩ := List.forall_mem_cons.mp each
    cases rest with
    | nil => simpa using first
    | cons next others =>
      have joined := (first.append harmless).append (ih later)
      have unfolded : between.intercalate ((item :: next :: others).map read) =
          read item ++ between ++ between.intercalate ((next :: others).map read) :=
        List.intercalate_cons_cons ..
      have size : ((item :: next :: others).flatMap bound).length =
          (bound item).length + 0 + ((next :: others).flatMap bound).length := by simp
      rw [List.append_nil, List.append_nil] at joined
      rw [unfolded, size]
      exact joined

end Harmless

end Sql

open Sql (Harmless)

/-! ## Values -/

namespace Number.Numeral

/-- A numeral has at most one dash, in front of its digits. -/
theorem dashesLead_text (n : Numeral) : Sql.DashesLead (Sql.bares n.text) := by
  have unsigned (m : Numeral) (positive : m.negative = false) :
      Sql.DashesLead (Sql.bares m.text) := by
    refine .of_absent fun mem => ?_
    obtain ⟨c, memText, same⟩ := List.mem_map.mp mem
    cases same
    rcases mem_text memText with digit | ⟨-, negative⟩ | point
    · cases digit
    · rw [positive] at negative
      cases negative
    · cases point
  cases sign : n.negative with
  | false => exact unsigned n sign
  | true =>
    rw [text_of_negative sign]
    refine ⟨fun _ => ?_, unsigned _ rfl⟩
    obtain ⟨c, rest, chars⟩ := List.exists_cons_of_ne_nil n.whole.ne_nil
    have digit : c.isDigit = true := n.whole.isDigit c (by simp [chars])
    exact ⟨c, digit, by simp [text, chars]⟩

theorem harmless_text (n : Numeral) : Harmless [] [] 0 (Sql.bares n.text) := by
  have unmarked : n.text.count '?' = 0 := by
    refine List.count_eq_zero.mpr fun mem => ?_
    rcases mem_text mem with digit | ⟨dash, -⟩ | point
    · cases digit
    · cases dash
    · cases point
  rw [← unmarked]
  refine .bares (fun c mem => ?_) n.dashesLead_text
  rcases mem_text mem with digit | ⟨rfl, -⟩ | rfl
  · simp [Sql.isPlain, digit]
  · rfl
  · rfl

end Number.Numeral

namespace SqlValue

/-- The texts that a value puts between quotes. -/
def quotedTexts : Mode → SqlValue → List (List Char)
  | .inline, v => v.quotedText?.toList.map String.toList
  | .parameterized, _ => []

theorem harmless_literal (v : SqlValue) :
    Harmless (v.quotedTexts .inline) [] 0 (v.lexemes .inline) := by
  simp only [quotedTexts, lexemes]
  cases v.written with
  | null bare literal =>
    rw [bare, literal]
    exact .separator rfl
  | numeral n bare literal =>
    rw [bare, literal]
    exact n.harmless_text
  | quoted s quotes literal =>
    rw [quotes]
    refine ⟨rfl, rfl, ?_, .of_absent ?_, rfl⟩
    · simp [Sql.outside]
    · simp

theorem harmless_ofValue (mode : Mode) (v : SqlValue) :
    Harmless (v.quotedTexts mode) [] (Fragment.ofValue mode v).params.length (v.lexemes mode) := by
  cases mode with
  | inline => exact v.harmless_literal
  | parameterized =>
    have plain : ∀ c ∈ ['?'], Sql.isPlain c = true := by
      intro c mem
      rw [List.mem_singleton.mp mem]
      rfl
    have mark : Harmless [] [] (['?'].count '?') (Sql.bares ['?']) :=
      .bares plain (.of_absent (by simp [Sql.bares]))
    exact mark

end SqlValue

/-! ## Names -/

/-- The parts of a dotted name that stand in backticks. A star stays bare. -/
def Identifier.properParts (name : List Char) : List (List Char) :=
  ((name.splitOn '.').map partName).filter (· != ['*'])

namespace Sql

theorem harmless_partLexeme (part : List Char) :
    Harmless [] ([Identifier.partName part].filter (· != ['*'])) 0 [partLexeme part] := by
  unfold partLexeme
  by_cases star : Identifier.partName part = ['*']
  · have plain : Harmless [] [] 0 (bares ['*']) := .separator rfl
    rw [if_pos star, star]
    exact plain
  · have kept : [Identifier.partName part].filter (· != ['*']) = [Identifier.partName part] := by
      simp [star]
    rw [if_neg star, kept]
    refine ⟨rfl, rfl, ?_, .of_absent ?_, rfl⟩
    · simp [outside]
    · simp

theorem harmless_nameLexemes (name : List Char) :
    Harmless [] (Identifier.properParts name) 0 (nameLexemes name) := by
  have dot : Harmless [] [] 0 (bares ['.']) := .separator rfl
  have each (part : List Char) (_ : part ∈ name.splitOn '.') :
      Harmless [] ([Identifier.partName part].filter (· != ['*'])) ([] : List SqlValue).length
        [partLexeme part] := harmless_partLexeme part
  have joined := dot.intercalate each
  have parts : (name.splitOn '.').flatMap
      (fun part => [Identifier.partName part].filter (· != ['*'])) =
        Identifier.properParts name := by
    rw [Identifier.properParts, List.map_eq_flatMap, List.filter_flatMap]
  have none {β : Type} : (name.splitOn '.').flatMap (fun _ => ([] : List β)) = [] :=
    List.flatMap_eq_nil_iff.mpr fun _ _ => rfl
  rw [parts, none, none] at joined
  exact joined

end Sql

/-! ## Comparisons -/

namespace Comparison

/-- The texts that a comparison puts between quotes. -/
def quotedTexts (mode : Mode) (m : Comparison) : List (List Char) :=
  m.values.flatMap (SqlValue.quotedTexts (m.mode mode))

/-- The names that a comparison puts between backticks. -/
def names (m : Comparison) : List (List Char) :=
  Identifier.properParts m.key.field.toList

theorem harmless_operandLexemes (mode : Mode) (m : Comparison) :
    Harmless (m.quotedTexts mode) [] (m.fragment mode).params.length (m.operandLexemes mode) := by
  have none : m.values.flatMap (fun _ => ([] : List (List Char))) = [] :=
    List.flatMap_eq_nil_iff.mpr fun _ _ => rfl
  have laid (separator : List Char) (plain : Harmless [] [] 0 (Sql.bares separator)) :
      Harmless (m.quotedTexts mode) [] (m.fragment mode).params.length
        ((Sql.bares separator).intercalate (m.values.map (SqlValue.lexemes (m.mode mode)))) := by
    have joined := plain.intercalate fun v (_ : v ∈ m.values) => v.harmless_ofValue (m.mode mode)
    rw [none] at joined
    rw [params_fragment]
    exact joined
  have conjoined := laid " AND ".toList (.separator rfl)
  unfold operandLexemes MatchOp.layoutLexemes
  cases m.key.op.shape with
  | scalar => exact conjoined
  | range => exact conjoined
  | set =>
    have opened : Harmless [] [] 0 (Sql.bares ['(']) := .separator rfl
    have closed : Harmless [] [] 0 (Sql.bares [')']) := .separator rfl
    have listed := laid ", ".toList (.separator rfl)
    simpa using (opened.append listed).append closed

theorem harmless_lexemes (mode : Mode) (m : Comparison) :
    Harmless (m.quotedTexts mode) m.names (m.fragment mode).params.length (m.lexemes mode) := by
  have symbol : Harmless [] [] 0 m.symbolLexemes := by
    refine .separator ?_
    cases m.key.op <;> rfl
  have opening := (Sql.harmless_nameLexemes m.key.field.toList).append symbol
  have whole := opening.append (m.harmless_operandLexemes mode)
  rw [List.append_nil, List.append_nil, List.append_nil, Nat.zero_add] at whole
  exact whole

end Comparison

/-! ## Trees -/

/-- Where no text is, no lexemes are and nothing is bound. -/
theorem Sql.Harmless.of_isEmpty {f : Fragment} {ls : List Sql.Lexeme} {ts ns : List (List Char)}
    (harmless : Harmless ts ns f.params.length ls) (scans : Sql.Scans f.sql.toList ls)
    (empty : f.isEmpty = true) : ls = [] ∧ f.params.length = 0 := by
  rw [Fragment.isEmpty_iff.mp empty] at scans
  cases scans.unique .nil
  exact ⟨rfl, harmless.marks.symm⟩

/-- A fragment whose quotes hold what the comparisons among given leaves put there. -/
def Confines (r : Rendering) (leaves : List Leaf) (f : Fragment) : Prop :=
  ∃ ls, Sql.Scans f.sql.toList ls ∧
    Harmless ((leaves.filterMap (Leaf.comparison? r.hooks)).flatMap (Comparison.quotedTexts r.mode))
      ((leaves.filterMap (Leaf.comparison? r.hooks)).flatMap Comparison.names)
      f.params.length ls

namespace Confines

theorem nothing (r : Rendering) : Confines r [] {} :=
  ⟨[], .nil, .nil⟩

theorem parenthesized {r : Rendering} {leaves : List Leaf} {f : Fragment}
    (confines : Confines r leaves f) : Confines r leaves f.parenthesized := by
  unfold Fragment.parenthesized
  split
  next => exact confines
  next =>
    obtain ⟨ls, scans, harmless⟩ := confines
    have opened : Sql.Scans ['('] (Sql.bares ['(']) := .bare rfl
    have closed : Sql.Scans [')'] (Sql.bares [')']) := .bare rfl
    have before : Harmless [] [] 0 (Sql.bares ['(']) := .separator rfl
    have behind : Harmless [] [] 0 (Sql.bares [')']) := .separator rfl
    have wrapped := (before.append harmless).append behind
    refine ⟨Sql.bares ['('] ++ ls ++ Sql.bares [')'], ?_, ?_⟩
    · simpa using (opened.append scans).append closed
    · simpa using wrapped

theorem link {r : Rendering} {first others : List Leaf} {f g : Fragment} (logic : Logic)
    (left : Confines r first f) (right : Confines r others g) :
    Confines r (first ++ others) (Fragment.link logic f g) := by
  obtain ⟨ls, scans, harmless⟩ := left
  obtain ⟨ms, scans', harmless'⟩ := right
  have both := harmless.append harmless'
  rw [← List.flatMap_append, ← List.flatMap_append, ← List.filterMap_append] at both
  unfold Fragment.link
  split
  next empty =>
    obtain ⟨rfl, none⟩ := harmless.of_isEmpty scans empty
    rw [none, Nat.zero_add] at both
    exact ⟨ms, scans', both⟩
  next =>
    split
    next empty =>
      obtain ⟨rfl, none⟩ := harmless'.of_isEmpty scans' empty
      rw [none, List.append_nil] at both
      exact ⟨ls, scans, both⟩
    next =>
      have spelled : Sql.Scans (" " ++ logic.keyword ++ " ").toList
          (Sql.bares (" " ++ logic.keyword ++ " ").toList) := by
        refine .bare ?_
        cases logic <;> rfl
      have plain : Harmless [] [] 0 (Sql.bares (" " ++ logic.keyword ++ " ").toList) := by
        refine .separator ?_
        cases logic <;> rfl
      have joined := (harmless.append plain).append harmless'
      refine ⟨ls ++ Sql.bares (" " ++ logic.keyword ++ " ").toList ++ ms, ?_, ?_⟩
      · simpa using (scans.append spelled).append scans'
      · simpa using joined

end Confines

theorem Leaf.confines {r : Rendering} {leaf : Leaf} {f : Fragment}
    (rawless : ∀ sql, leaf ≠ .raw sql) (made : leaf.fragment r = .ok f) : Confines r [leaf] f := by
  rcases comparison_of_fragment made with ⟨sql, raw, -⟩ | ⟨m, compares, -, rfl⟩
  · exact (rawless sql raw).elim
  · refine ⟨m.lexemes r.mode, m.scans_fragment r.mode, ?_⟩
    simpa [compares] using m.harmless_lexemes r.mode

namespace Condition

theorem confines_compile {r : Rendering} {logic : Logic} {c : Condition} {f : Fragment}
    (rawless : ∀ sql, .raw sql ∉ c.leaves) (compiled : c.compile r logic = .ok f) :
    Confines r c.leaves f := by
  refine compile_induction (.nothing r) (fun leaf mem g made => ?_)
    (fun _ _ => .parenthesized) (fun logic _ _ _ _ => .link logic) compiled
  refine leaf.confines (fun sql raw => ?_) made
  rw [raw] at mem
  exact rawless sql mem

/-- A tree whose leaves all compare becomes text that leaves no quote open. The texts in quotes are
those of its values, the names in backticks those of its fields, and outside there are plain
characters only, no two dashes in a row, and as many question marks as values are bound. -/
theorem compile_confined {r : Rendering} {logic : Logic} {c : Condition} {f : Fragment}
    (rawless : ∀ sql, .raw sql ∉ c.leaves) (compiled : c.compile r logic = .ok f) :
    ∃ ls, Sql.scan .outside f.sql.toList = (.outside, ls) ∧
      Sql.texts ls = (c.comparisons r.hooks).flatMap (Comparison.quotedTexts r.mode) ∧
      Sql.names ls = (c.comparisons r.hooks).flatMap Comparison.names ∧
      (∀ ch ∈ Sql.outside ls, Sql.isPlain ch = true) ∧
      ¬ [.bare '-', .bare '-'] <:+: ls ∧
      (Sql.outside ls).count '?' = f.params.length := by
  obtain ⟨ls, scans, harmless⟩ := confines_compile rawless compiled
  exact ⟨ls, scans, harmless.texts, harmless.names, harmless.plain, harmless.dashes.not_infix,
    harmless.marks⟩

/-- A quote in a value stays inside the quotes around it. -/
theorem compile_confined_quote :
    (∀ sql, .raw sql ∉ (field "name" (.text "it's")).leaves) ∧
      (field "name" (.text "it's")).compile {} .and = .ok ⟨"`name` = 'it\\'s'", []⟩ ∧
      ∃ ls, Sql.scan .outside "`name` = 'it\\'s'".toList = (.outside, ls) ∧
        Sql.texts ls = ["it's".toList] ∧ Sql.names ls = ["name".toList] := by
  have rawless : ∀ sql, .raw sql ∉ (field "name" (.text "it's")).leaves := by
    intro sql mem
    have single : (field "name" (.text "it's")).leaves = [.comparison "name" (.text "it's")] := by
      rfl
    rw [single, List.mem_singleton] at mem
    cases mem
  have compiled : (field "name" (.text "it's")).compile {} .and =
      .ok ⟨"`name` = 'it\\'s'", []⟩ := by rfl
  obtain ⟨ls, scanned, texts, names, -⟩ := compile_confined rawless compiled
  have written : Sql.texts ls = ["it's".toList] := texts.trans (by rfl)
  have named : Sql.names ls = ["name".toList] := names.trans (by rfl)
  exact ⟨rawless, compiled, ls, scanned, written, named⟩

end Condition

end Clausal
