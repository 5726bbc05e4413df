import Clausal.FieldKey
import Clausal.Proofs.Text.Parser
/-!
# The words of an operator

The words of a text are its pieces between runs of separators. Splitting the text finds them, and so
does a parser that reads word by word, gives the last separators back when no word follows them and
skips them afterwards. The parser stops at the first stray blank.
-/

namespace Clausal.FieldKey

open Clausal.Text

/-- The words that a text consists of, separators aside. A word ends at a separator or with the
text. -/
inductive Words : List Char → List (List Char) → Prop
  | nil : Words [] []
  | separator {c : Char} {cs : List Char} {ws : List (List Char)} :
    isSeparator c = true → Words cs ws → Words (c :: cs) ws
  | word {w cs : List Char} {ws : List (List Char)} :
    w ≠ [] → (∀ c ∈ w, isSeparator c = false) → (∀ c, cs.head? = some c → isSeparator c = true) →
    Words cs ws → Words (w ++ cs) (w :: ws)

/-! ## Splitting -/

theorem words_separator {c : Char} (separates : isSeparator c = true) (cs : List Char) :
    words (c :: cs) = words cs := by
  simp [words, List.splitOnP_cons_eq_if_modifyHead, separates]

theorem words_word {w cs : List Char} (full : w ≠ []) (solid : ∀ c ∈ w, isSeparator c = false)
    (ends : ∀ c, cs.head? = some c → isSeparator c = true) : words (w ++ cs) = w :: words cs := by
  cases cs with
  | nil =>
    rw [List.append_nil, words, List.splitOnP_eq_singleton solid]
    simp [words, full]
  | cons c rest =>
    have separates : isSeparator c = true := ends c rfl
    rw [words_separator separates, words,
      List.splitOnP_append_cons_of_forall_mem solid c separates]
    simp [words, full]

theorem Words.words_eq {cs : List Char} {ws : List (List Char)} (consists : Words cs ws) :
    words cs = ws := by
  induction consists with
  | nil => rfl
  | separator separates _ ih => rw [words_separator separates, ih]
  | word full solid ends _ ih => rw [words_word full solid ends, ih]

/-- Every text has words. -/
theorem words_spec (cs : List Char) : Words cs (words cs) := by
  match cs with
  | [] => exact .nil
  | c :: rest =>
    cases separates : isSeparator c with
    | true =>
      rw [words_separator separates]
      exact .separator separates (words_spec rest)
    | false =>
      have word : (c :: rest).takeWhile (!isSeparator ·) ≠ [] := by simp [separates]
      have solid : ∀ d ∈ (c :: rest).takeWhile (!isSeparator ·), isSeparator d = false := by
        intro d mem
        simpa using List.mem_takeWhile_imp mem
      have ends : ∀ d, ((c :: rest).dropWhile (!isSeparator ·)).head? = some d →
          isSeparator d = true := by
        intro d first
        simpa using of_head?_dropWhile first
      have later := words_spec ((c :: rest).dropWhile (!isSeparator ·))
      have together := Words.word word solid ends later
      rwa [← words_word word solid ends, List.takeWhile_append_dropWhile] at together
termination_by cs.length
decreasing_by
  · have passed : (c :: rest).dropWhile (!isSeparator ·) = rest.dropWhile (!isSeparator ·) := by
      simp [separates]
    have shorter := (List.dropWhile_suffix (!isSeparator ·) (l := rest)).length_le
    rw [passed, List.length_cons]
    omega
  · simp

/-! ## Stray blanks -/

/-- The part of a text before its first stray blank. -/
def untilStray (cs : List Char) : List Char :=
  cs.takeWhile (!isStray ·)

/-- The part of a text from its first stray blank on. -/
def fromStray (cs : List Char) : List Char :=
  cs.dropWhile (!isStray ·)

theorem untilStray_append_fromStray (cs : List Char) : untilStray cs ++ fromStray cs = cs :=
  List.takeWhile_append_dropWhile

theorem not_isStray_of_mem_untilStray {cs : List Char} {c : Char} (mem : c ∈ untilStray cs) :
    isStray c = false := by
  simpa using List.mem_takeWhile_imp mem

theorem isStray_of_fromStray {cs behind : List Char} {c : Char}
    (trailing : fromStray cs = c :: behind) : isStray c = true := by
  have first : (cs.dropWhile (!isStray ·)).head? = some c := by
    rw [← fromStray, trailing]
    rfl
  simpa using of_head?_dropWhile first

theorem isBlank_of_isSeparator {c : Char} (separates : isSeparator c = true) :
    isBlank c = true := by
  have listed : ((c = ' ' ∨ c = '\t') ∨ c = '\r') ∨ c = '\n' := by
    simpa [isSeparator] using separates
  rcases listed with ((rfl | rfl) | rfl) | rfl <;> rfl

theorem untilStray_append {front : List Char} (clean : ∀ c ∈ front, isStray c = false)
    (cs : List Char) : untilStray (front ++ cs) = front ++ untilStray cs :=
  List.takeWhile_append_of_pos fun c mem => by simp [clean c mem]

theorem fromStray_append {front : List Char} (clean : ∀ c ∈ front, isStray c = false)
    (cs : List Char) : fromStray (front ++ cs) = fromStray cs :=
  List.dropWhile_append_of_pos fun c mem => by simp [clean c mem]

/-- A blank at the front that is no separator is stray. -/
theorem stray_front {cs : List Char} (blank : ∀ c, cs.head? = some c → isBlank c = true)
    (apart : ∀ c, cs.head? = some c → isSeparator c = false) :
    untilStray cs = [] ∧ fromStray cs = cs := by
  cases cs with
  | nil => exact ⟨rfl, rfl⟩
  | cons c rest =>
    have stray : isStray c = true := by simp [isStray, blank c rfl, apart c rfl]
    simp [untilStray, fromStray, stray]

/-- Before the first stray blank, a text that starts with a blank starts with a separator. -/
theorem isSeparator_of_head?_untilStray {cs : List Char} {c : Char}
    (blank : ∀ c, cs.head? = some c → isBlank c = true)
    (first : (untilStray cs).head? = some c) : isSeparator c = true := by
  cases cs with
  | nil => cases first
  | cons d rest =>
    cases stray : isStray d with
    | true => simp [untilStray, stray] at first
    | false =>
      have same : d = c := by simpa [untilStray, stray] using first
      rw [same] at stray
      simpa [isStray, blank c (by simp [same])] using stray

theorem words_append {gap : List Char} (separates : ∀ c ∈ gap, isSeparator c = true)
    (cs : List Char) : words (gap ++ cs) = words cs := by
  induction gap with
  | nil => rfl
  | cons c gap ih =>
    obtain ⟨here, later⟩ := List.forall_mem_cons.mp separates
    rw [List.cons_append, words_separator here, ih later]

/-- Separators add no word and are not stray. -/
theorem stray_gap {gap : List Char} (separates : ∀ c ∈ gap, isSeparator c = true)
    (cs : List Char) : words (untilStray (gap ++ cs)) = words (untilStray cs) ∧
      fromStray (gap ++ cs) = fromStray cs := by
  have clean : ∀ c ∈ gap, isStray c = false := fun c mem => by simp [isStray, separates c mem]
  exact ⟨by rw [untilStray_append clean, words_append separates], fromStray_append clean cs⟩

/-- A run of characters that are not blank is a word. -/
theorem stray_word {w cs : List Char} (full : w ≠ []) (solid : ∀ c ∈ w, (!isBlank c) = true)
    (blank : ∀ c, cs.head? = some c → isBlank c = true) :
    words (untilStray (w ++ cs)) = w :: words (untilStray cs) ∧
      fromStray (w ++ cs) = fromStray cs := by
  have clean : ∀ c ∈ w, isStray c = false := fun c mem => by
    simp [isStray, by simpa using solid c mem]
  have apart : ∀ c ∈ w, isSeparator c = false := fun c mem => by
    cases here : isSeparator c with
    | true => simpa [isBlank_of_isSeparator here] using solid c mem
    | false => rfl
  refine ⟨?_, fromStray_append clean cs⟩
  rw [untilStray_append clean,
    words_word full apart fun c first => isSeparator_of_head?_untilStray blank first]

/-! ## Word by word -/

/-- The words at the front of a text, with the separators around them. -/
def operatorWords : Parser (List (List Char)) :=
  ((Parser.takeWhile isSeparator).behind
    (.separated (.takeWhile1 isSeparator) (.takeWhile1 (!isBlank ·)))).before
    (.takeWhile isSeparator)

/-- Behind a word, the parser finds the other words up to the first stray blank. What it leaves is
the end of the text from there on, perhaps with the separators before it. -/
theorem following_words (cs : List Char) (blank : ∀ c, cs.head? = some c → isBlank c = true) :
    ∃ last, Parser.following (.takeWhile1 isSeparator) (.takeWhile1 (!isBlank ·)) cs =
        some (words (untilStray cs), last) ∧ last.dropWhile isSeparator = fromStray cs := by
  fun_induction Parser.following (.takeWhile1 isSeparator) (.takeWhile1 (!isBlank ·)) cs with
  | case1 cs between =>
    have apart := Parser.run_takeWhile1_eq_none_iff.mp between
    obtain ⟨front, back⟩ := stray_front blank apart
    exact ⟨cs, by rw [front]; rfl, by rw [back, (span_of_head? apart).2]⟩
  | case2 cs gap start between stuck =>
    obtain ⟨rfl, full, -, -⟩ := Parser.run_takeWhile1_eq_some_iff.mp between
    exact absurd (List.length_eq_zero_iff.mp (by simpa using stuck)) full
  | case3 cs gap start between moved wordless =>
    -- No word follows the separators: they are given back, and what follows them is stray.
    obtain ⟨rfl, -, separates, apart⟩ := Parser.run_takeWhile1_eq_some_iff.mp between
    have blank' : ∀ c, start.head? = some c → isBlank c = true := by
      simpa using Parser.run_takeWhile1_eq_none_iff.mp wordless
    obtain ⟨front, back⟩ := stray_front blank' apart
    obtain ⟨sameFront, sameBack⟩ := stray_gap separates start
    refine ⟨gap ++ start, ?_, ?_⟩
    · rw [sameFront, front]
      rfl
    · rw [sameBack, back, List.dropWhile_append_of_pos separates, (span_of_head? apart).2]
  | case4 cs gap start between moved w rest read ih =>
    obtain ⟨rfl, -, separates, -⟩ := Parser.run_takeWhile1_eq_some_iff.mp between
    obtain ⟨rfl, full, solid, ends⟩ := Parser.run_takeWhile1_eq_some_iff.mp read
    have blank' : ∀ c, rest.head? = some c → isBlank c = true := by simpa using ends
    obtain ⟨front, back⟩ := stray_word full solid blank'
    obtain ⟨sameFront, sameBack⟩ := stray_gap separates (w ++ rest)
    obtain ⟨last, later, left⟩ := ih blank'
    exact ⟨last, by rw [later, sameFront, front]; rfl, by rw [left, sameBack, back]⟩

/-- The parser never fails. It finds all words before the first stray blank and leaves the text from
there on. -/
theorem run_operatorWords (cs : List Char) :
    operatorWords.run cs = some (words (untilStray cs), fromStray cs) := by
  have separates : ∀ c ∈ cs.takeWhile isSeparator, isSeparator c = true :=
    fun c mem => List.mem_takeWhile_imp mem
  have apart : ∀ c, (cs.dropWhile isSeparator).head? = some c → isSeparator c = false :=
    fun c first => of_head?_dropWhile first
  obtain ⟨sameFront, sameBack⟩ := stray_gap separates (cs.dropWhile isSeparator)
  rw [List.takeWhile_append_dropWhile] at sameFront sameBack
  rw [sameFront, sameBack]
  simp only [operatorWords, Parser.before, Parser.behind, Parser.map, Parser.pair,
    Parser.takeWhile, Parser.separated, Option.bind_some]
  cases read : (Parser.takeWhile1 (!isBlank ·)).run (cs.dropWhile isSeparator) with
  | none =>
    have blank : ∀ c, (cs.dropWhile isSeparator).head? = some c → isBlank c = true := by
      simpa using Parser.run_takeWhile1_eq_none_iff.mp read
    obtain ⟨front, back⟩ := stray_front blank apart
    have nothing : words [] = [] := rfl
    simp [front, back, (span_of_head? apart).2, nothing]
  | some found =>
    obtain ⟨w, rest⟩ := found
    obtain ⟨split, full, solid, ends⟩ := Parser.run_takeWhile1_eq_some_iff.mp read
    have blank : ∀ c, rest.head? = some c → isBlank c = true := by simpa using ends
    obtain ⟨front, back⟩ := stray_word full solid blank
    obtain ⟨last, later, left⟩ := following_words rest blank
    rw [split, front, back, ← left]
    simp [later]

end Clausal.FieldKey
