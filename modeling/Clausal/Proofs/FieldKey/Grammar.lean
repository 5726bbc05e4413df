import Clausal.Proofs.FieldKey.Words
import Clausal.Proofs.Steps
import Clausal.Proofs.Text.Bytes
/-!
# The grammar of field keys

A key is a name up to the first space and, behind that space, the words of an operator. Which keys
are read, as what, and what is wrong with all others is said here without the reader, and the reader
does as it is said.
-/

namespace Clausal.FieldKey

open Clausal.Text

/-! ## Keys that are read -/

/-- The parts of a key behind its leading blanks: a name without spaces and, perhaps, a space and
what follows it. Without a space nothing follows. -/
inductive Parts (key : String) (name : List Char) : List Char → Prop
  | bare : name ≠ [] → ' ' ∉ name → trimStart key.toList = name → Parts key name []
  | spaced {rest : List Char} : name ≠ [] → ' ' ∉ name →
    trimStart key.toList = name ++ ' ' :: rest → Parts key name rest

/-- The words of an operator as they are looked up: in capital letters and one space apart. -/
def spelled (ws : List (List Char)) : List Char :=
  upper ([' '].intercalate ws)

/-- A text without words means equality, any other the operator that its words spell. -/
def Means (rest : List Char) (op : MatchOp) : Prop :=
  ∃ ws, Words rest ws ∧ (ws = [] ∧ op = .equal ∨ spelled ws = op.symbol.toList)

/-- The keys that are read, and as what. -/
def Accepts (key : String) (parsed : FieldKey) : Prop :=
  ∃ name rest, Parts key name rest ∧ parsed.field.toList = Identifier.dropBackticks name ∧
    parsed.field ≠ "" ∧ (∀ c ∈ rest, isBlank c = true → isSeparator c = true) ∧
    Means rest parsed.op

/-- What is wrong with a key. The first stray blank is told by the number of bytes in front of it. -/
inductive Refuses (key : String) : Error → Prop
  | blank : trimStart key.toList = [] → Refuses key (.malformedKey 0 "Empty field key")
  | nameless {name rest : List Char} : Parts key name rest → Identifier.dropBackticks name = [] →
    Refuses key (.malformedKey 0 ("Empty field name in key '" ++ key ++ "'"))
  | stray {name rest before behind front : List Char} {c : Char} : Parts key name rest →
    Identifier.dropBackticks name ≠ [] → rest = before ++ c :: behind →
    (∀ d ∈ before, isBlank d = true → isSeparator d = true) → isBlank c = true →
    isSeparator c = false → key.toList = front ++ c :: behind →
    Refuses key (.malformedKey (Utf8.encode front).length
      ("Unexpected trailing content: '" ++ String.ofList (c :: behind) ++ "'"))
  | unknown {name rest : List Char} {ws : List (List Char)} : Parts key name rest →
    Identifier.dropBackticks name ≠ [] → (∀ c ∈ rest, isBlank c = true → isSeparator c = true) →
    Words rest ws → ws ≠ [] → (∀ op : MatchOp, spelled ws ≠ op.symbol.toList) →
    Refuses key (.unsupportedOperator (String.ofList (spelled ws)))

/-! ## The reader on the parts of a key -/

theorem isStray_eq_false_iff {c : Char} :
    isStray c = false ↔ (isBlank c = true → isSeparator c = true) := by
  cases blank : isBlank c <;> simp [isStray, blank]

theorem Parts.name_ne_nil {key : String} {name rest : List Char} (parts : Parts key name rest) :
    name ≠ [] := by
  cases parts <;> assumption

theorem ne_space_of_mem {name : List Char} (absent : ' ' ∉ name) :
    ∀ c ∈ name, (c != ' ') = true := by
  intro c mem
  have apart : c ≠ ' ' := by
    rintro rfl
    exact absent mem
  simpa using apart

/-- The reader finds the parts of a key where they are. -/
theorem Parts.span {key : String} {name rest : List Char} (parts : Parts key name rest) :
    (trimStart key.toList).takeWhile (· != ' ') = name ∧
      ((trimStart key.toList).dropWhile (· != ' ')).drop 1 = rest := by
  cases parts with
  | bare _ absent split =>
    rw [split, ← List.append_nil name, List.takeWhile_append_of_pos (ne_space_of_mem absent),
      List.dropWhile_append_of_pos (ne_space_of_mem absent)]
    simp
  | spaced _ absent split =>
    rw [split, List.takeWhile_append_of_pos (ne_space_of_mem absent),
      List.dropWhile_append_of_pos (ne_space_of_mem absent)]
    simp

/-- A key that is not blank has parts. -/
theorem exists_parts {key : String} (full : trimStart key.toList ≠ []) :
    ∃ name rest, Parts key name rest := by
  have joined := List.takeWhile_append_dropWhile (p := (· != ' ')) (l := trimStart key.toList)
  have named : (trimStart key.toList).takeWhile (· != ' ') ≠ [] := by
    cases split : trimStart key.toList with
    | nil => exact absurd split full
    | cons c cs =>
      have first : (key.toList.dropWhile isBlank).head? = some c := by
        rw [← trimStart, split]
        rfl
      have solid := of_head?_dropWhile first
      have noSpace : c ≠ ' ' := by
        rintro rfl
        cases solid
      simp [noSpace]
  have absent : ' ' ∉ (trimStart key.toList).takeWhile (· != ' ') := fun mem => by
    simpa using List.mem_takeWhile_imp mem
  cases behind : (trimStart key.toList).dropWhile (· != ' ') with
  | nil =>
    rw [behind, List.append_nil] at joined
    exact ⟨_, [], .bare named absent joined.symm⟩
  | cons c rest =>
    have first : ((trimStart key.toList).dropWhile (· != ' ')).head? = some c := by
      rw [behind]
      rfl
    have space : c = ' ' := by simpa using of_head?_dropWhile first
    rw [behind, space] at joined
    exact ⟨_, rest, .spaced named absent joined.symm⟩

theorem Parts.suffix {key : String} {name rest : List Char} (parts : Parts key name rest) :
    rest <:+ key.toList := by
  rw [← parts.span.2]
  exact (List.drop_suffix _ _).trans ((List.dropWhile_suffix _).trans (List.dropWhile_suffix _))

theorem read_of_parts {key : String} {name rest : List Char} (parts : Parts key name rest)
    (named : Identifier.dropBackticks name ≠ []) : read key =
      (readOp (Utf8.size key.toList) rest).map
        (⟨String.ofList (Identifier.dropBackticks name), ·⟩) := by
  obtain ⟨front, back⟩ := parts.span
  simp only [read, front, back, List.isEmpty_iff, if_neg parts.name_ne_nil, if_neg named]
  cases readOp (Utf8.size key.toList) rest <;> rfl

theorem readOp_of_clean {size : Nat} {rest : List Char} (clean : ∀ c ∈ rest, isStray c = false) :
    readOp size rest =
      match spelled (words rest) with
      | [] => .ok .equal
      | symbol =>
        match MatchOp.ofSymbol? (String.ofList symbol) with
        | some op => .ok op
        | none => .error (.unsupportedOperator (String.ofList symbol)) := by
  have none : rest.dropWhile (!isStray ·) = [] := by
    simpa using fun c mem => clean c mem
  rw [readOp, none]
  rfl

theorem readOp_of_stray {size : Nat} {before behind : List Char} {c : Char}
    (clean : ∀ d ∈ before, isStray d = false) (stray : isStray c = true) :
    readOp size (before ++ c :: behind) = .error (.malformedKey (size - Utf8.size (c :: behind))
      ("Unexpected trailing content: '" ++ String.ofList (c :: behind) ++ "'")) := by
  have left : (before ++ c :: behind).dropWhile (!isStray ·) = c :: behind := by
    rw [List.dropWhile_append_of_pos fun d mem => by simp [clean d mem]]
    simp [stray]
  rw [readOp, left]

/-- Only no words at all spell nothing. -/
theorem Words.spelled_eq_nil_iff {cs : List Char} {ws : List (List Char)}
    (consists : Words cs ws) : spelled ws = [] ↔ ws = [] := by
  induction consists with
  | nil => simp [spelled, upper]
  | separator _ _ ih => exact ih
  | @word w cs ws full _ _ _ _ => cases ws <;> simp [spelled, upper, full]

/-! ## The reader follows the grammar -/

theorem readOp_of_means {size : Nat} {rest : List Char} {op : MatchOp}
    (clean : ∀ c ∈ rest, isStray c = false) (means : Means rest op) :
    readOp size rest = .ok op := by
  obtain ⟨ws, consists, ⟨rfl, rfl⟩ | symbol⟩ := means
  · rw [readOp_of_clean clean, consists.words_eq]
    rfl
  · have found : MatchOp.ofSymbol? (String.ofList op.symbol.toList) = some op := by
      simp [MatchOp.ofSymbol?_eq_some_iff]
    rw [readOp_of_clean clean, consists.words_eq, symbol]
    split
    next empty => cases op <;> cases empty
    next => rw [found]

theorem read_of_accepts {key : String} {parsed : FieldKey} (accepts : Accepts key parsed) :
    read key = .ok parsed := by
  obtain ⟨name, rest, parts, field, named, clean, means⟩ := accepts
  have named' : Identifier.dropBackticks name ≠ [] := by
    rw [← field]
    simpa using named
  have clean' c mem := isStray_eq_false_iff.mpr (clean c mem)
  rw [read_of_parts parts named', readOp_of_means clean' means, ← field, String.ofList_toList]
  rfl

theorem read_of_refuses {key : String} {e : Error} (refuses : Refuses key e) :
    read key = .error e := by
  cases refuses with
  | blank empty => simp [read, empty]
  | nameless parts empty =>
    simp only [read, parts.span.1, List.isEmpty_iff, if_neg parts.name_ne_nil, if_pos empty]
  | @stray name rest before behind front c parts named split clean blank apart whole =>
    have clean' d mem := isStray_eq_false_iff.mpr (clean d mem)
    have stray : isStray c = true := by simp [isStray, blank, apart]
    have position : Utf8.size key.toList - Utf8.size (c :: behind) = (Utf8.encode front).length := by
      rw [whole, Utf8.size_append, Utf8.length_encode]
      omega
    rw [read_of_parts parts named, split, readOp_of_stray clean' stray, position]
    rfl
  | @unknown name rest ws parts named clean consists full unlike =>
    have clean' c mem := isStray_eq_false_iff.mpr (clean c mem)
    have missing : MatchOp.ofSymbol? (String.ofList (spelled ws)) = none := by
      cases found : MatchOp.ofSymbol? (String.ofList (spelled ws)) with
      | none => rfl
      | some op =>
        have symbol := MatchOp.ofSymbol?_eq_some_iff.mp found
        exact absurd (by rw [symbol, String.toList_ofList]) (unlike op)
    rw [read_of_parts parts named, readOp_of_clean clean', consists.words_eq]
    split
    next empty => exact absurd (consists.spelled_eq_nil_iff.mp empty) full
    next =>
      rw [missing]
      rfl

/-- Each key is read or refused. -/
theorem accepts_or_refuses (key : String) :
    (∃ parsed, Accepts key parsed) ∨ ∃ e, Refuses key e := by
  by_cases full : trimStart key.toList = []
  · exact .inr ⟨_, .blank full⟩
  obtain ⟨name, rest, parts⟩ := exists_parts full
  by_cases named : Identifier.dropBackticks name = []
  · exact .inr ⟨_, .nameless parts named⟩
  have joined := untilStray_append_fromStray rest
  have clean : ∀ c ∈ untilStray rest, isBlank c = true → isSeparator c = true := fun c mem =>
    isStray_eq_false_iff.mp (not_isStray_of_mem_untilStray mem)
  cases trailing : fromStray rest with
  | cons c behind =>
    have stray : isBlank c = true ∧ isSeparator c = false := by
      simpa [isStray] using isStray_of_fromStray trailing
    rw [trailing] at joined
    have last : c :: behind <:+ rest := ⟨_, joined⟩
    obtain ⟨front, whole⟩ := last.trans parts.suffix
    exact .inr ⟨_, .stray parts named joined.symm clean stray.1 stray.2 whole.symm⟩
  | nil =>
    rw [trailing, List.append_nil] at joined
    rw [joined] at clean
    by_cases known : ∃ op, Means rest op
    · obtain ⟨op, means⟩ := known
      refine .inl ⟨⟨String.ofList (Identifier.dropBackticks name), op⟩, name, rest, parts, ?_⟩
      exact ⟨by simp, by simpa using named, clean, means⟩
    · have full : words rest ≠ [] := fun none =>
        known ⟨.equal, words rest, words_spec rest, .inl ⟨none, rfl⟩⟩
      exact .inr ⟨_, .unknown parts named clean (words_spec rest) full fun op symbol =>
        known ⟨op, words rest, words_spec rest, .inr symbol⟩⟩

end Clausal.FieldKey
