import Clausal.Proofs.FieldKey.Spelling
import Mathlib.Algebra.Ring.Parity
/-!
# Quoting as a normal form

What stands for a part of a dotted name depends on the part only as far as it is trimmed and without
its backticks, and the parts can be read off again. So quoting what is quoted changes nothing, and
two names are quoted alike exactly when their parts are alike. A table is quoted up to its first
blank. Up to there no blank is left to find, so a table that is quoted stays what it is as well.
-/

namespace Clausal

namespace Text

/-- A part of a list does not hold what the list was taken apart at. -/
theorem not_mem_of_mem_splitOn {α : Type} [BEq α] [LawfulBEq α] {separator : α} {xs part : List α}
    (mem : part ∈ xs.splitOn separator) : separator ∉ part := by
  induction xs generalizing part with
  | nil =>
    rw [List.splitOn_nil, List.mem_singleton] at mem
    simp [mem]
  | cons x xs ih =>
    rw [List.splitOn_cons_eq_if_modifyHead] at mem
    split at mem
    next here =>
      rcases List.mem_cons.mp mem with rfl | later
      · exact List.not_mem_nil
      · exact ih later
    next other =>
      cases split : xs.splitOn separator with
      | nil => exact absurd split (List.splitOn_ne_nil _ _)
      | cons first rest =>
        rw [split, List.modifyHead_cons] at mem
        rcases List.mem_cons.mp mem with rfl | later
        · intro inside
          rcases List.mem_cons.mp inside with rfl | inside
          · exact other (beq_self_eq_true _)
          · exact ih (by simp [split]) inside
        · exact ih (by simp [split, later])

/-- What is taken from the front does not reach beyond a list where it ends. -/
theorem takeWhile_append_of_mem {α : Type} {p : α → Bool} {xs : List α} {x : α} (mem : x ∈ xs)
    (fails : p x = false) (ys : List α) : (xs ++ ys).takeWhile p = xs.takeWhile p := by
  rw [List.takeWhile_append, if_neg]
  intro whole
  have all := List.takeWhile_eq_self_iff.mp ((List.takeWhile_prefix p).eq_of_length whole)
  rw [all x mem] at fails
  cases fails

/-- What holds of the parts and is kept when two texts are joined holds of all parts joined. -/
theorem intercalate_induction {α : Type} {separator : List α} {parts : List (List α)}
    {motive : List α → Prop} (each : ∀ part ∈ parts, motive part)
    (join : ∀ xs ys, motive xs → motive ys → motive (xs ++ separator ++ ys))
    (some : parts ≠ []) : motive (separator.intercalate parts) := by
  induction parts with
  | nil => exact absurd rfl some
  | cons part rest ih =>
    cases rest with
    | nil => simpa using each part
    | cons next others =>
      rw [List.intercalate_cons_cons]
      have later := ih (fun other mem => each other (List.mem_cons_of_mem _ mem)) nofun
      exact join _ _ (each part List.mem_cons_self) later

end Text

namespace Identifier

open Text (isBlank trim)

/-! ## Balanced text -/

/-- How many backticks there are. -/
def ticks (cs : List Char) : Nat :=
  cs.count backtick

theorem ticks_append (cs ds : List Char) : ticks (cs ++ ds) = ticks cs + ticks ds :=
  List.count_append

/-- The text up to its first blank. -/
def front (cs : List Char) : List Char :=
  cs.takeWhile (!isBlank ·)

/-- What quoting makes of a part, and of parts with dots between them. No blank is at an end, each
backtick has its other, and a blank can only stand between two that belong together. -/
structure Balanced (cs : List Char) : Prop where
  first : ∃ c, cs.head? = some c ∧ isBlank c = false
  last : ∃ c, cs.getLast? = some c ∧ isBlank c = false
  even : Even (ticks cs)
  odd_front : ∀ c ∈ cs, isBlank c = true → Odd (ticks (front cs))

namespace Balanced

variable {cs ds : List Char}

theorem trim_eq (balanced : Balanced cs) : trim cs = cs := by
  obtain ⟨first, start, solidStart⟩ := balanced.first
  obtain ⟨last, back, solidBack⟩ := balanced.last
  refine Text.trim_eq_self_of_ends (fun c here => ?_) fun c here => ?_
  · cases start.symm.trans here
    exact solidStart
  · cases back.symm.trans here
    exact solidBack

theorem star : Balanced ['*'] where
  first := ⟨'*', rfl, by decide⟩
  last := ⟨'*', rfl, by decide⟩
  even := ⟨0, rfl⟩
  odd_front := by
    intro c mem blank
    rw [List.mem_singleton.mp mem] at blank
    cases blank

/-- Up to a blank inside a name only the backtick at its front is there. -/
theorem name {name : List Char} (bare : backtick ∉ name) :
    Balanced (backtick :: name ++ [backtick]) where
  first := ⟨backtick, rfl, by decide⟩
  last := by
    have last : (backtick :: name ++ [backtick]).getLast? = some backtick := List.getLast?_concat
    exact ⟨backtick, last, by decide⟩
  even := by
    have none : name.count backtick = 0 := List.count_eq_zero.mpr bare
    refine ⟨1, ?_⟩
    simp [ticks, none]
  odd_front := by
    intro c mem blank
    have apart : c ≠ backtick := by
      rintro rfl
      cases blank
    have inside : c ∈ name := by simpa [apart] using mem
    have start : front (backtick :: name ++ [backtick]) = backtick :: front name := by
      rw [front, List.cons_append, List.takeWhile_cons_of_pos rfl,
        Text.takeWhile_append_of_mem inside (by simp [blank]), front]
    have none : (front name).count backtick = 0 := List.count_eq_zero.mpr fun tick =>
      bare ((List.takeWhile_prefix _).mem tick)
    rw [start]
    refine ⟨0, ?_⟩
    simp [ticks, none]

/-- A text without blanks is whole before the first blank, so it brings an even number there. -/
theorem join (left : Balanced cs) (right : Balanced ds) : Balanced (cs ++ ['.'] ++ ds) where
  first := by
    obtain ⟨c, here, solid⟩ := left.first
    exact ⟨c, by simp [here], solid⟩
  last := by
    obtain ⟨c, here, solid⟩ := right.last
    refine ⟨c, ?_, solid⟩
    rw [List.getLast?_append, here, Option.some_or]
  even := by
    have dot : ticks ['.'] = 0 := rfl
    rw [ticks_append, ticks_append, dot]
    exact left.even.add right.even
  odd_front := by
    intro c mem blank
    by_cases here : ∃ d ∈ cs, isBlank d = true
    · obtain ⟨d, memLeft, blankLeft⟩ := here
      rw [front, List.append_assoc,
        Text.takeWhile_append_of_mem memLeft (by simp [blankLeft])]
      exact left.odd_front d memLeft blankLeft
    · have solid : ∀ d ∈ cs ++ ['.'], (!isBlank d) = true := by
        intro d memFront
        rcases List.mem_append.mp memFront with inside | dot
        · simpa using fun blankHere => here ⟨d, inside, blankHere⟩
        · rw [List.mem_singleton.mp dot]
          rfl
      have behind : c ∈ ds := by
        rcases List.mem_append.mp mem with inside | behind
        · have solidHere := solid c inside
          rw [blank] at solidHere
          cases solidHere
        · exact behind
      have dot : ticks ['.'] = 0 := rfl
      rw [front, List.takeWhile_append_of_pos solid, ticks_append, ticks_append, dot]
      exact left.even.add_odd (right.odd_front c behind blank)

end Balanced

theorem balanced_quotePart (part : List Char) : Balanced (quotePart part) := by
  by_cases star : partName part = ['*']
  · rw [quotePart_of_star star]
    exact .star
  · rw [quotePart_of_ne_star star]
    exact .name (backtick_not_mem_dropBackticks _)

theorem balanced_quoteChars (name : List Char) : Balanced (quoteChars name) := by
  refine Text.intercalate_induction (fun quoted mem => ?_) (fun _ _ => Balanced.join) (by simp)
  obtain ⟨part, -, rfl⟩ := List.mem_map.mp mem
  exact balanced_quotePart part

theorem trim_quoteChars (name : List Char) : trim (quoteChars name) = quoteChars name :=
  (balanced_quoteChars name).trim_eq

/-! ## Quoting twice -/

theorem partName_quotePart (part : List Char) : partName (quotePart part) = partName part := by
  by_cases star : partName part = ['*']
  · rw [quotePart_of_star star, star]
    rfl
  · rw [partName, (balanced_quotePart part).trim_eq, quotePart_of_ne_star star]
    simp [dropBackticks, partName]

theorem splitOn_quoteChars (name : List Char) :
    (quoteChars name).splitOn '.' = (name.splitOn '.').map quotePart := by
  refine List.splitOn_intercalate '.' (fun quoted memQuoted dot => ?_) (by simp)
  obtain ⟨part, memPart, rfl⟩ := List.mem_map.mp memQuoted
  rcases mem_quotePart dot with tick | inside
  · cases tick
  · exact Text.not_mem_of_mem_splitOn memPart (mem_of_mem_partName inside)

/-- Quoting what is quoted changes nothing. -/
theorem quoteChars_quoteChars (name : List Char) :
    quoteChars (quoteChars name) = quoteChars name := by
  have again (part : List Char) : quotePart (quotePart part) = quotePart part :=
    quotePart_congr (partName_quotePart part)
  rw [quoteChars, splitOn_quoteChars, List.map_map, quoteChars]
  congr 1
  exact List.map_congr_left fun part _ => again part

/-! ## Items -/

/-- What stands for a part of a dotted name that is trimmed and without its backticks: a star for a
star, and any other text in backticks. The text itself holds neither dots nor backticks. -/
inductive Item : List Char → List Char → Prop
  | star : Item ['*'] ['*']
  | name {name : List Char} : name ≠ ['*'] → '.' ∉ name → backtick ∉ name →
    Item name (backtick :: name ++ [backtick])

theorem item_quotePart {part : List Char} (whole : '.' ∉ part) :
    Item (partName part) (quotePart part) := by
  by_cases star : partName part = ['*']
  · rw [quotePart_of_star star, star]
    exact .star
  · rw [quotePart_of_ne_star star]
    apply Item.name star
    · exact fun dot => whole (mem_of_mem_partName dot)
    · exact backtick_not_mem_dropBackticks _

/-- A quoted name is one item for each part, with dots between them. -/
theorem items_quoteChars (name : List Char) :
    ∃ items, quoteChars name = ['.'].intercalate items ∧
      List.Forall₂ (fun part item => Item (partName part) item) (name.splitOn '.') items := by
  refine ⟨(name.splitOn '.').map quotePart, rfl, ?_⟩
  rw [List.forall₂_map_right_iff, List.forall₂_same]
  exact fun part mem => item_quotePart (Text.not_mem_of_mem_splitOn mem)

/-- Names are quoted alike exactly when their parts are alike. -/
theorem quoteChars_eq_iff {name other : List Char} : quoteChars name = quoteChars other ↔
    (name.splitOn '.').map partName = (other.splitOn '.').map partName := by
  constructor
  · intro same
    -- The parts of a quoted name are the items, and each item gives its part back.
    have items : (name.splitOn '.').map quotePart = (other.splitOn '.').map quotePart := by
      rw [← splitOn_quoteChars, same, splitOn_quoteChars]
    have back (parts : List (List Char)) :
        (parts.map quotePart).map partName = parts.map partName := by
      rw [List.map_map]
      exact List.map_congr_left fun part _ => partName_quotePart part
    rw [← back, items, back]
  · intro same
    let item (name : List Char) := if name = ['*'] then name else backtick :: name ++ [backtick]
    have through (parts : List (List Char)) :
        parts.map quotePart = (parts.map partName).map item := by
      rw [List.map_map]
      rfl
    rw [quoteChars, quoteChars, through, same, ← through]

/-! ## Tables twice -/

/-- Quoting adds no blank. -/
theorem solid_quoteChars {name : List Char} (solid : ∀ c ∈ name, isBlank c = false) :
    ∀ c ∈ quoteChars name, isBlank c = false := by
  intro c mem
  rcases mem_quoteChars mem with rfl | rfl | inside
  · rfl
  · rfl
  · exact solid c inside

theorem quoteTableChars_of_solid {name : List Char}
    (solid : ∀ c ∈ quoteChars name, isBlank c = false) :
    quoteTableChars (quoteChars name) = quoteChars name := by
  have whole : (quoteChars name).dropWhile (!isBlank ·) = [] :=
    List.dropWhile_eq_nil_iff.mpr fun c mem => by simp [solid c mem]
  rw [quoteTableChars, trim_quoteChars, whole]
  exact quoteChars_quoteChars name

/-- Behind a quoted name without blanks a blank begins the alias. -/
theorem quoteTableChars_append {name rest : List Char}
    (solid : ∀ c ∈ quoteChars name, isBlank c = false)
    (last : ∃ c, rest.getLast? = some c ∧ isBlank c = false) :
    quoteTableChars (quoteChars name ++ ' ' :: rest) = quoteChars name ++ ' ' :: trim rest := by
  have whole : trim (quoteChars name ++ ' ' :: rest) = quoteChars name ++ ' ' :: rest := by
    obtain ⟨first, start, solidStart⟩ := (balanced_quoteChars name).first
    obtain ⟨back, behind, solidBack⟩ := last
    apply Text.trim_eq_self_of_ends
    · intro c here
      rw [List.head?_append, start, Option.some_or] at here
      cases here
      exact solidStart
    · intro c here
      rw [List.getLast?_append, List.getLast?_cons, behind, Option.getD_some] at here
      cases here
      exact solidBack
  have passed : ∀ c ∈ quoteChars name, (!isBlank c) = true := by
    intro c mem
    rw [solid c mem]
    rfl
  have blank : ¬ (!isBlank ' ') = true := by decide
  rw [quoteTableChars, whole, List.dropWhile_append_of_pos passed,
    List.dropWhile_cons_of_neg (p := (!isBlank ·)) blank, List.takeWhile_append_of_pos passed,
    List.takeWhile_cons_of_neg (p := (!isBlank ·)) blank, List.append_nil]
  dsimp only
  rw [quoteChars_quoteChars]

/-- What follows the first blank of a trimmed text is not blank altogether, for it ends like the
text. -/
theorem exists_getLast?_behind {cs front rest : List Char} {blank : Char}
    (isBlank_blank : isBlank blank = true) (split : trim cs = front ++ blank :: rest) :
    ∃ c, rest.getLast? = some c ∧ isBlank c = false := by
  have full : trim cs ≠ [] := by simp [split]
  obtain ⟨c, last, solid⟩ := Text.exists_getLast?_trim full
  rw [split, List.getLast?_append, List.getLast?_cons, Option.some_or, Option.some_inj] at last
  cases behind : rest.getLast? with
  | none =>
    rw [behind, Option.getD_none] at last
    rw [last, solid] at isBlank_blank
    cases isBlank_blank
  | some d =>
    rw [behind, Option.getD_some] at last
    exact ⟨d, rfl, last ▸ solid⟩

/-- Quoting a table that is quoted changes nothing. -/
theorem quoteTableChars_quoteTableChars (table : List Char) :
    quoteTableChars (quoteTableChars table) = quoteTableChars table := by
  have split := List.takeWhile_append_dropWhile (p := (!isBlank ·)) (l := trim table)
  have front : ∀ c ∈ (trim table).takeWhile (!isBlank ·), isBlank c = false := fun c mem => by
    simpa using List.mem_takeWhile_imp mem
  cases behind : (trim table).dropWhile (!isBlank ·) with
  | nil =>
    have quoted : quoteTableChars table = quoteChars table := by rw [quoteTableChars, behind]
    rw [behind, List.append_nil] at split
    rw [split] at front
    rw [quoted]
    apply quoteTableChars_of_solid
    rw [← quoteChars_trim]
    exact solid_quoteChars front
  | cons c rest =>
    have quoted : quoteTableChars table =
        quoteChars ((trim table).takeWhile (!isBlank ·)) ++ ' ' :: trim rest := by
      rw [quoteTableChars, behind]
    have blank : isBlank c = true := by
      have stopped := List.head?_dropWhile_not (!isBlank ·) (trim table)
      rw [behind] at stopped
      simpa using stopped
    rw [behind] at split
    obtain ⟨d, last, solidLast⟩ := exists_getLast?_behind blank split.symm
    have full : trim rest ≠ [] := by
      rw [ne_eq, Text.trim_eq_nil_iff, Bool.not_eq_true, List.all_eq_false]
      exact ⟨d, List.mem_of_getLast? last, by simp [solidLast]⟩
    rw [quoted, quoteTableChars_append (solid_quoteChars front) (Text.exists_getLast?_trim full),
      Text.trim_trim]

/-! ## The normal form -/

/-- A quoted name is one item for each of its parts, with dots between them. Quoting it once more
changes nothing, nor does quoting a table once more. Names are quoted alike exactly when they have
the same parts, each trimmed and then without its backticks. -/
theorem quote_normalizes (name : String) :
    (∃ items, (quote name).toList = ['.'].intercalate items ∧
      List.Forall₂ (fun part item => Item (dropBackticks (trim part)) item)
        (name.toList.splitOn '.') items) ∧
    quote (quote name) = quote name ∧
    quoteTable (quoteTable name) = quoteTable name ∧
    ∀ other : String, quote name = quote other ↔
      (name.toList.splitOn '.').map (fun part => dropBackticks (trim part)) =
        (other.toList.splitOn '.').map (fun part => dropBackticks (trim part)) := by
  refine ⟨?_, ?_, ?_, fun other => ?_⟩
  · rw [quote, String.toList_ofList]
    exact items_quoteChars name.toList
  · rw [quote, quote, String.toList_ofList, quoteChars_quoteChars]
  · rw [quoteTable, quoteTable, String.toList_ofList, quoteTableChars_quoteTableChars]
  · rw [quote, quote, String.ofList_inj]
    exact quoteChars_eq_iff

/-- A star in backticks is a star, blanks inside backticks stay, and a blank ends the name of a
table. -/
example : quote " u . `*` .` x`.`" = "`u`.*.` x`.``" ∧ quoteTable "app.users AS  u" =
    "`app`.`users` AS  u" := by decide

end Identifier

end Clausal
