import Mathlib.Data.List.TakeWhile
/-!
# Small parsers

A parser takes a value off the front of a text or fails. What it leaves is always an end of the text
it was given, so positions can be told from the length of what is left. Larger parsers are put
together from smaller ones; a list of items gives back the last separator when no item follows it.
-/

namespace Clausal.Text

theorem of_head?_dropWhile {p : Char → Bool} {cs : List Char} {c : Char}
    (first : (cs.dropWhile p).head? = some c) : p c = false := by
  have stops := List.head?_dropWhile_not p cs
  rw [first] at stops
  simpa using stops

/-- Where no character of a kind stands at the front, none is taken. -/
theorem span_of_head? {p : Char → Bool} {cs : List Char}
    (apart : ∀ c, cs.head? = some c → p c = false) : cs.takeWhile p = [] ∧ cs.dropWhile p = cs := by
  cases cs with
  | nil => exact ⟨rfl, rfl⟩
  | cons c rest => simp [apart c rfl]

/-- A way to take a value off the front of a text. -/
structure Parser (α : Type) where
  run : List Char → Option (α × List Char)
  suffix : ∀ {cs a rest}, run cs = some (a, rest) → rest <:+ cs

namespace Parser

variable {α β : Type}

/-! ## Characters -/

/-- The characters of a kind at the front, perhaps none. -/
def takeWhile (p : Char → Bool) : Parser (List Char) where
  run cs := some (cs.takeWhile p, cs.dropWhile p)
  suffix taken := by
    cases taken
    exact List.dropWhile_suffix p

/-- The characters of a kind at the front, at least one. -/
def takeWhile1 (p : Char → Bool) : Parser (List Char) where
  run cs := if (cs.takeWhile p).isEmpty then none else some (cs.takeWhile p, cs.dropWhile p)
  suffix taken := by
    split at taken
    · cases taken
    · cases taken
      exact List.dropWhile_suffix p

/-- One given character. -/
def char (c : Char) : Parser Char where
  run
    | [] => none
    | d :: rest => if d = c then some (d, rest) else none
  suffix taken := by
    split at taken
    · cases taken
    · split at taken
      · cases taken
        exact List.suffix_cons _ _
      · cases taken

/-- All that is left. -/
def remainder : Parser (List Char) where
  run cs := some (cs, [])
  suffix taken := by
    cases taken
    exact List.nil_suffix

theorem run_takeWhile1_eq_none_iff {p : Char → Bool} {cs : List Char} :
    (takeWhile1 p).run cs = none ↔ ∀ c, cs.head? = some c → p c = false := by
  cases cs with
  | nil => simp [takeWhile1]
  | cons c rest => cases here : p c <;> simp [takeWhile1, here]

/-- What is taken ends where the kind of the characters changes, or with the text. -/
theorem run_takeWhile1_eq_some_iff {p : Char → Bool} {cs w rest : List Char} :
    (takeWhile1 p).run cs = some (w, rest) ↔ cs = w ++ rest ∧ w ≠ [] ∧ (∀ c ∈ w, p c = true) ∧
      ∀ c, rest.head? = some c → p c = false := by
  constructor
  · intro taken
    simp only [takeWhile1, Option.ite_none_left_eq_some, Option.some.injEq,
      Prod.mk.injEq] at taken
    obtain ⟨full, rfl, rfl⟩ := taken
    refine ⟨List.takeWhile_append_dropWhile.symm, by simpa using full, ?_, ?_⟩
    · exact fun c mem => List.mem_takeWhile_imp mem
    · exact fun c first => of_head?_dropWhile first
  · rintro ⟨rfl, full, kind, ends⟩
    have stops := span_of_head? ends
    have taken : (w ++ rest).takeWhile p = w := by
      rw [List.takeWhile_append_of_pos kind, stops.1, List.append_nil]
    have left : (w ++ rest).dropWhile p = rest := by
      rw [List.dropWhile_append_of_pos kind, stops.2]
    simp only [takeWhile1, taken, left]
    simp [full]

/-! ## Several parsers -/

/-- The value of a parser, changed. -/
def map (f : α → β) (p : Parser α) : Parser β where
  run cs := (p.run cs).map fun (a, rest) => (f a, rest)
  suffix taken := by
    obtain ⟨⟨a, rest⟩, here, same⟩ := Option.map_eq_some_iff.mp taken
    cases same
    exact p.suffix here

/-- One parser behind another. -/
def pair (p : Parser α) (q : Parser β) : Parser (α × β) where
  run cs := (p.run cs).bind fun (a, behind) => (q.run behind).map fun (b, rest) => ((a, b), rest)
  suffix taken := by
    obtain ⟨⟨a, behind⟩, first, taken⟩ := Option.bind_eq_some_iff.mp taken
    obtain ⟨⟨b, rest⟩, second, same⟩ := Option.map_eq_some_iff.mp taken
    cases same
    exact (q.suffix second).trans (p.suffix first)

/-- The value behind something that is passed over. -/
def behind (p : Parser α) (q : Parser β) : Parser β :=
  (p.pair q).map Prod.snd

/-- The value in front of something that is passed over. -/
def before (p : Parser α) (q : Parser β) : Parser α :=
  (p.pair q).map Prod.fst

/-- The value if there is one. Where there is none, nothing is taken. -/
def optional (p : Parser α) : Parser (Option α) where
  run cs :=
    match p.run cs with
    | some (a, rest) => some (some a, rest)
    | none => some (none, cs)
  suffix taken := by
    split at taken
    next here =>
      cases taken
      exact p.suffix here
    next =>
      cases taken
      exact List.suffix_rfl

/-! ## Lists of items -/

/-- More items, each behind a separator. A separator that takes nothing is a failure, since the list
would not end. -/
def following (separator : Parser β) (item : Parser α) (cs : List Char) :
    Option (List α × List Char) :=
  match _ : separator.run cs with
  | none => some ([], cs)
  | some (_, start) =>
    if start.length = cs.length then none
    else
      match _ : item.run start with
      | none => some ([], cs)
      | some (a, rest) =>
        (following separator item rest).map fun (others, last) => (a :: others, last)
termination_by cs.length
decreasing_by
  have shorter := (separator.suffix ‹separator.run cs = _›).length_le
  have shorter' := (item.suffix ‹item.run start = _›).length_le
  omega

theorem following_suffix (separator : Parser β) (item : Parser α) {cs last : List Char}
    {items : List α} (taken : following separator item cs = some (items, last)) : last <:+ cs := by
  fun_induction following separator item cs generalizing items with
  | case1 cs between =>
    cases taken
    exact List.suffix_rfl
  | case2 => cases taken
  | case3 cs _ start between moved here =>
    cases taken
    exact List.suffix_rfl
  | case4 cs _ start between moved a rest here ih =>
    obtain ⟨⟨others, last'⟩, later, same⟩ := Option.map_eq_some_iff.mp taken
    cases same
    exact (ih later).trans ((item.suffix here).trans (separator.suffix between))

/-- Items with a separator between any two of them, perhaps none. -/
def separated (separator : Parser β) (item : Parser α) : Parser (List α) where
  run cs :=
    match item.run cs with
    | none => some ([], cs)
    | some (a, rest) =>
      (following separator item rest).map fun (others, last) => (a :: others, last)
  suffix taken := by
    split at taken
    next =>
      cases taken
      exact List.suffix_rfl
    next here =>
      obtain ⟨⟨others, last⟩, later, same⟩ := Option.map_eq_some_iff.mp taken
      cases same
      exact (following_suffix separator item later).trans (item.suffix here)

end Parser

end Clausal.Text
