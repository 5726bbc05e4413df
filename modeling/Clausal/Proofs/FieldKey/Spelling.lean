import Clausal.Proofs.FieldKey.Grammar
import Clausal.Proofs.Text.Identifier
/-!
# Spellings of a field

One field can be spelled in several ways: with backticks, and with blanks around it. All of them are
quoted to the same identifier, part by part, and a key that is spelled in any of them is read as the
same field. The field is the spelling itself only where there is nothing to take away.
-/

namespace Clausal

namespace Text

/-- What is added behind a list makes the last of its parts longer. -/
theorem exists_splitOn_append {α : Type} [BEq α] [LawfulBEq α] {separator : α} {trail : List α}
    (absent : separator ∉ trail) (xs : List α) :
    ∃ parts last, xs.splitOn separator = parts ++ [last] ∧
      (xs ++ trail).splitOn separator = parts ++ [last ++ trail] := by
  induction xs with
  | nil => exact ⟨[], [], List.splitOn_nil separator, List.splitOn_eq_singleton absent⟩
  | cons x xs ih =>
    obtain ⟨parts, last, split, splitTrail⟩ := ih
    rw [List.cons_append, List.splitOn_cons_eq_if_modifyHead, List.splitOn_cons_eq_if_modifyHead,
      split, splitTrail]
    by_cases here : x == separator
    · rw [if_pos here, if_pos here]
      exact ⟨[] :: parts, last, rfl, rfl⟩
    · rw [if_neg here, if_neg here]
      cases parts with
      | nil => exact ⟨[], x :: last, rfl, rfl⟩
      | cons part parts => exact ⟨(x :: part) :: parts, last, rfl, rfl⟩

/-- Leaving items out before a list is taken apart is leaving them out of its parts. -/
theorem splitOn_filter {α : Type} [BEq α] [LawfulBEq α] {separator : α} {p : α → Bool}
    (kept : p separator = true) (xs : List α) :
    (xs.filter p).splitOn separator = (xs.splitOn separator).map (List.filter p) := by
  induction xs with
  | nil => simp
  | cons x xs ih =>
    rw [List.splitOn_cons_eq_if_modifyHead]
    by_cases here : x == separator
    · have same : x = separator := eq_of_beq here
      rw [if_pos here, List.filter_cons_of_pos (same ▸ kept), List.splitOn_cons_eq_if_modifyHead,
        if_pos here, ih, List.map_cons, List.filter_nil]
    · rw [if_neg here, List.filter_cons]
      cases split : xs.splitOn separator with
      | nil => exact absurd split (List.splitOn_ne_nil _ _)
      | cons part parts =>
        rw [split] at ih
        split
        next holds =>
          rw [List.splitOn_cons_eq_if_modifyHead, if_neg here, ih]
          simp [holds]
        next fails =>
          rw [ih]
          simp [fails]

end Text

namespace Identifier

open Text (isBlank trim trimStart)

theorem quotePart_congr {part other : List Char} (same : partName part = partName other) :
    quotePart part = quotePart other := by
  by_cases star : partName part = ['*']
  · rw [quotePart_of_star star, quotePart_of_star (same ▸ star)]
  · rw [quotePart_of_ne_star star, quotePart_of_ne_star (same ▸ star), same]

theorem quoteChars_cons_of_isBlank {c : Char} (blank : isBlank c = true) (cs : List Char) :
    quoteChars (c :: cs) = quoteChars cs := by
  have apart : ¬ (c == '.') = true := by
    intro dot
    rw [eq_of_beq dot] at blank
    cases blank
  rw [quoteChars, quoteChars, List.splitOn_cons_eq_if_modifyHead, if_neg apart]
  cases cs.splitOn '.' with
  | nil => rfl
  | cons part parts =>
    have same : quotePart (c :: part) = quotePart part :=
      quotePart_congr (congrArg dropBackticks (Text.trim_cons_of_isBlank blank part))
    rw [List.modifyHead_cons, List.map_cons, List.map_cons, same]

theorem quoteChars_trimStart (cs : List Char) : quoteChars (trimStart cs) = quoteChars cs := by
  induction cs with
  | nil => rfl
  | cons c cs ih =>
    cases blank : isBlank c with
    | true => rw [Text.trimStart_cons_of_isBlank cs blank, ih, quoteChars_cons_of_isBlank blank]
    | false => rw [Text.trimStart_cons_of_not_isBlank cs blank]

theorem quoteChars_append_of_blank {trail : List Char} (blank : ∀ c ∈ trail, isBlank c = true)
    (cs : List Char) : quoteChars (cs ++ trail) = quoteChars cs := by
  have absent : '.' ∉ trail := fun mem => by cases blank '.' mem
  obtain ⟨parts, last, split, splitTrail⟩ := Text.exists_splitOn_append absent cs
  have same : quotePart (last ++ trail) = quotePart last :=
    quotePart_congr (congrArg dropBackticks (Text.trim_append blank last))
  rw [quoteChars, quoteChars, split, splitTrail, List.map_append, List.map_append,
    List.map_singleton, List.map_singleton, same]

/-- Blanks around a name make no difference to it. -/
theorem quoteChars_trim (cs : List Char) : quoteChars (trim cs) = quoteChars cs := by
  obtain ⟨trail, split, blank⟩ := Text.exists_trimStart_eq cs
  rw [← quoteChars_append_of_blank blank, ← split, quoteChars_trimStart]

/-- Nor do backticks in it, unless there are blanks between them and the name. -/
theorem quoteChars_dropBackticks {cs : List Char} (solid : ∀ c ∈ cs, isBlank c = false) :
    quoteChars (dropBackticks cs) = quoteChars cs := by
  have each (part : List Char) (mem : part ∈ cs.splitOn '.') :
      quotePart (dropBackticks part) = quotePart part := by
    have solidPart c memPart := solid c (mem_of_mem_splitOn mem memPart)
    have solidKept : ∀ c ∈ dropBackticks part, isBlank c = false := fun c memKept =>
      solidPart c (List.mem_of_mem_filter memKept)
    refine quotePart_congr ?_
    rw [partName, partName, Text.trim_eq_self solidPart, Text.trim_eq_self solidKept]
    simp [dropBackticks]
  rw [quoteChars, quoteChars, dropBackticks, Text.splitOn_filter (by decide), List.map_map]
  congr 1
  exact List.map_congr_left each

end Identifier

namespace FieldKey

open Text (isBlank trim trimStart)

/-- The field of a key is the name in front of the first space, without its backticks. -/
theorem toList_field {key : String} {parsed : FieldKey} (read : FieldKey.read key = .ok parsed) :
    parsed.field.toList =
      Identifier.dropBackticks ((trimStart key.toList).takeWhile (· != ' ')) := by
  unfold FieldKey.read at read
  simp only at read
  split at read
  · cases read
  split at read
  · cases read
  obtain ⟨op, -, made⟩ := bind_eq_ok_iff.mp read
  cases made
  exact String.toList_ofList

/-- A key that is spelled as the field it names. -/
def IsBare (key : String) : Prop :=
  trimStart key.toList = key.toList ∧ ' ' ∉ key.toList ∧ Identifier.backtick ∉ key.toList

theorem field_eq_self_iff {key : String} {parsed : FieldKey}
    (read : FieldKey.read key = .ok parsed) : parsed.field = key ↔ IsBare key := by
  have field := toList_field read
  constructor
  · intro same
    rw [same] at field
    refine ⟨?_, fun mem => ?_, fun mem => ?_⟩
    · have kept : trimStart key.toList <:+ key.toList := List.dropWhile_suffix _
      have named := (List.takeWhile_prefix (l := trimStart key.toList) (· != ' ')).length_le
      have shorter := (List.length_filter_le (· != Identifier.backtick) _).trans named
      rw [← Identifier.dropBackticks, ← field] at shorter
      exact kept.eq_of_length_le shorter
    · rw [field] at mem
      simpa using List.mem_takeWhile_imp (List.mem_of_mem_filter mem)
    · rw [field] at mem
      exact Identifier.backtick_not_mem_dropBackticks _ mem
  · rintro ⟨front, space, tick⟩
    have whole : key.toList.takeWhile (· != ' ') = key.toList :=
      List.takeWhile_eq_self_iff.mpr (ne_space_of_mem space)
    refine String.toList_injective ?_
    rw [field, front, whole]
    refine List.filter_eq_self.mpr fun c mem => ?_
    have apart : c ≠ Identifier.backtick := by
      rintro rfl
      exact tick mem
    simpa using apart

/-- A name and the field that is read from it are quoted alike, if there are no blanks inside. -/
theorem quote_field {key : String} {parsed : FieldKey} (read : FieldKey.read key = .ok parsed)
    (solid : ∀ c ∈ trim key.toList, isBlank c = false) :
    Identifier.quote parsed.field = Identifier.quote key := by
  obtain ⟨trail, split, blank⟩ := Text.exists_trimStart_eq key.toList
  have unspaced : ∀ c ∈ trim key.toList, (c != ' ') = true := by
    refine ne_space_of_mem fun mem => ?_
    cases solid ' ' mem
  have behind : ∀ c ∈ Identifier.dropBackticks (trail.takeWhile (· != ' ')), isBlank c = true :=
    fun c mem => blank c ((List.takeWhile_prefix _).mem (List.mem_of_mem_filter mem))
  have field : parsed.field.toList = Identifier.dropBackticks (trim key.toList) ++
      Identifier.dropBackticks (trail.takeWhile (· != ' ')) := by
    rw [toList_field read, split, List.takeWhile_append_of_pos unspaced]
    exact List.filter_append _ _
  rw [Identifier.quote, field, Identifier.quoteChars_append_of_blank behind,
    Identifier.quoteChars_dropBackticks solid, Identifier.quoteChars_trim, Identifier.quote]

end FieldKey

end Clausal
