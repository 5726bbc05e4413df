import Clausal.Json.Printer
import Clausal.Json.Reader
import Clausal.Proofs.Text.Numeral
import Mathlib.Data.List.Basic
import Mathlib.Data.List.Induction
/-!
# Compact JSON text read back

The compact text of a value is read as that value again. What it is made of is read piece by piece:
a piece of text `Reads` as a value if it does so in front of everything that can follow a value.
Floats are left out, since a float that is read is only near the decimal that is written.
-/

namespace Clausal.Json

/-! ## What stands around a value -/

/-- What can follow a value: nothing, a comma or a closing bracket. -/
inductive Ends : List Char → Prop
  | nil : Ends []
  | comma (rest : List Char) : Ends (',' :: rest)
  | bracket (rest : List Char) : Ends (']' :: rest)
  | brace (rest : List Char) : Ends ('\x7d' :: rest)

/-- A text is read as a value, whatever follows it, and it begins with no blank and no closing
bracket. -/
structure Reads {α : Type} (read : List Char → Option (α × List Char)) (text : List Char)
    (value : α) : Prop where
  begins : ∃ c cs, text = c :: cs ∧ isSpace c = false ∧ c ≠ ']' ∧ c ≠ '\x7d'
  reads {rest : List Char} : Ends rest → read (text ++ rest) = some (value, rest)

variable {rest : List Char}

theorem Reads.ne_nil {α : Type} {read : List Char → Option (α × List Char)} {text : List Char}
    {value : α} (reads : Reads read text value) : text ≠ [] := by
  obtain ⟨c, cs, same, -⟩ := reads.begins
  rw [same]
  exact List.cons_ne_nil c cs

theorem skipSpace_cons {c : Char} (solid : isSpace c = false) (cs : List Char) :
    skipSpace (c :: cs) = c :: cs := by
  simp [skipSpace, solid]

/-- The blanks and the brackets. -/
def marks : List Char := [' ', '\t', '\n', '\r', '[', ']', '\x7b', '\x7d']

theorem isSpace_of_not_mem_marks {c : Char} (bare : c ∉ marks) : isSpace c = false := by
  simp_all [marks, isSpace]

/-- What begins with no blank and no bracket is neither an array nor an object. -/
theorem readValue_of_bare {c : Char} (bare : c ∉ marks) (depth : Nat) (cs : List Char) :
    readValue depth (c :: cs) = readScalar (c :: cs) := by
  unfold readValue
  rw [skipSpace_cons (isSpace_of_not_mem_marks bare)]
  split
  next array =>
    obtain ⟨rfl, -⟩ := List.cons.inj array
    exact absurd (by decide) bare
  next object =>
    obtain ⟨rfl, -⟩ := List.cons.inj object
    exact absurd (by decide) bare
  next => rfl

theorem reads_of_readScalar {c : Char} {cs : List Char} {value : Json} (bare : c ∉ marks)
    (scalar : ∀ {rest}, Ends rest → readScalar (c :: cs ++ rest) = some (value, rest))
    (depth : Nat) : Reads (readValue depth) (c :: cs) value where
  begins := by
    refine ⟨c, cs, rfl, isSpace_of_not_mem_marks bare, ?_, ?_⟩
    · rintro rfl
      exact bare (by decide)
    · rintro rfl
      exact bare (by decide)
  reads {rest} ends := by
    rw [List.cons_append, readValue_of_bare bare]
    exact scalar ends

/-- A text that is read whatever follows it is read as a whole. -/
theorem read?_of_reads {s : String} {value : Json}
    (reads : Reads (readValue maxDepth) s.toList value) : read? s = some value := by
  have read := reads.reads .nil
  rw [List.append_nil] at read
  rw [read?, readDeep?, read]
  rfl

/-! ## Strings -/

theorem readString_quote (rest : List Char) : readString ('"' :: rest) = some ([], rest) := by
  rw [readString.eq_def]
  simp

theorem readString_escape {letter c : Char} (other : letter ≠ 'u')
    (means : simpleEscape? letter = some c) (rest : List Char) :
    readString ('\\' :: letter :: rest) = consRead c (readString rest) := by
  rw [readString.eq_def]
  simp [other, means]

/-- A control character is escaped by four digits, of which the first two are zeros. -/
theorem hexQuad?_control {n : Nat} (small : n < 32) : ∃ a b : Char,
    (if n < 16 then ['0'] else []) ++ Text.hexDigits n = [a, b] ∧
      hexQuad? '0' '0' a b = some n := by
  have digits : ∀ n < 32, ((if n < 16 then ['0'] else []) ++ Text.hexDigits n).length = 2 ∧
      hexQuad? '0' '0' (((if n < 16 then ['0'] else []) ++ Text.hexDigits n).getD 0 '0')
        (((if n < 16 then ['0'] else []) ++ Text.hexDigits n).getD 1 '0') = some n := by
    decide
  obtain ⟨two, value⟩ := digits n small
  obtain ⟨a, b, same⟩ := List.length_eq_two.1 two
  rw [same] at value
  exact ⟨a, b, same, value⟩

theorem readString_number {a b c : Char} (value : hexQuad? '0' '0' a b = some c.toNat)
    (small : c.toNat < 32) (rest : List Char) :
    readString ('\\' :: 'u' :: '0' :: '0' :: a :: b :: rest) = consRead c (readString rest) := by
  have high : isHighHalf c.toNat = false := by simp [isHighHalf]; omega
  have low : isLowHalf c.toNat = false := by simp [isLowHalf]; omega
  rw [readString.eq_def]
  simp [value, high, low]

theorem readString_plain {c : Char} (noQuote : c ≠ '"') (noEscape : c ≠ '\\')
    (visible : ¬ c.toNat < 32) (rest : List Char) :
    readString (c :: rest) = consRead c (readString rest) := by
  rw [readString.eq_def]
  simp [noQuote, noEscape, visible]

/-- Each character of a string is read as itself. -/
theorem readString_escapedChar (c : Char) (rest : List Char) :
    readString (escapedChar c ++ rest) = consRead c (readString rest) := by
  have escape {letter d : Char} (other : letter ≠ 'u') (means : simpleEscape? letter = some d) :
      readString (['\\', letter] ++ rest) = consRead d (readString rest) :=
    readString_escape other means rest
  unfold escapedChar
  generalize fill : (if c.toNat < 16 then ['0'] else []) = zeros
  split_ifs with quote escaped back feed line carriage tab small
  · subst quote
    exact escape (by decide) (by decide)
  · subst escaped
    exact escape (by decide) (by decide)
  · subst back
    exact escape (by decide) (by decide)
  · subst feed
    exact escape (by decide) (by decide)
  · subst line
    exact escape (by decide) (by decide)
  · subst carriage
    exact escape (by decide) (by decide)
  · subst tab
    exact escape (by decide) (by decide)
  · obtain ⟨a, b, digits, value⟩ := hexQuad?_control small
    rw [List.append_assoc ['\\', 'u', '0', '0'], ← fill, digits]
    exact readString_number value small rest
  · exact readString_plain quote escaped small rest

theorem readString_escaped (cs rest : List Char) :
    readString (cs.flatMap escapedChar ++ '"' :: rest) = some (cs, rest) := by
  induction cs with
  | nil => exact readString_quote rest
  | cons c cs ih =>
    rw [List.flatMap_cons, List.append_assoc, readString_escapedChar, ih]
    rfl

theorem toList_stringText (s : String) :
    (stringText s).toList = '"' :: (s.toList.flatMap escapedChar ++ ['"']) := by
  simp [stringText]

theorem reads_string (s : String) (depth : Nat) :
    Reads (readValue depth) (stringText s).toList (.string s) := by
  rw [toList_stringText]
  refine reads_of_readScalar (by decide) (fun {rest} _ => ?_) depth
  rw [List.cons_append, List.append_assoc, List.singleton_append, readScalar, readString_escaped,
    Option.map_some]
  dsimp only
  rw [String.ofList_toList]

/-! ## Numbers -/

theorem not_mem_marks_of_isDigit {c : Char} (digit : c.isDigit = true) : c ∉ marks := by
  have apart : marks.all (fun d => !d.isDigit) = true := by rfl
  intro mem
  have other := List.all_eq_true.mp apart c mem
  rw [digit] at other
  cases other

theorem readDigits_append {digits : List Char} (some : digits ≠ [])
    (all : ∀ c ∈ digits, c.isDigit = true) (ends : Ends rest) :
    readDigits (digits ++ rest) = Option.some (digits, rest) := by
  have taken : rest.takeWhile Char.isDigit = [] := by cases ends <;> rfl
  have left : rest.dropWhile Char.isDigit = rest := by cases ends <;> rfl
  rw [readDigits, List.takeWhile_append_of_pos all, List.dropWhile_append_of_pos all, taken, left,
    List.append_nil, if_neg (by simpa using some)]

/-- No zero leads the digits of a number unless it is zero. -/
theorem readWhole_toDigits (n : Nat) (ends : Ends rest) :
    readWhole (Nat.toDigits 10 n ++ rest) = some (Nat.toDigits 10 n, rest) := by
  rcases Nat.eq_zero_or_pos n with rfl | pos
  · cases ends <;> rfl
  · have first : (Nat.toDigits 10 n).head? ≠ some '0' :=
      Text.head?_toDigits_ne_zero (by decide) pos
    have read := readDigits_append Nat.toDigits_ne_nil (Text.isDigit_toDigits n) ends
    cases digits : Nat.toDigits 10 n with
    | nil => exact absurd digits Nat.toDigits_ne_nil
    | cons c cs =>
      rw [digits] at first read
      unfold readWhole
      split
      next zero =>
        obtain ⟨rfl, -⟩ := List.cons.inj zero
        exact absurd rfl first
      next => exact read

theorem readNumeral_toDigits (negative : Bool) (n : Nat) (ends : Ends rest) :
    readNumeral negative (Nat.toDigits 10 n ++ rest) =
      some (⟨negative, Nat.toDigits 10 n, none, none⟩, rest) := by
  have point : readFraction rest = some (none, rest) := by cases ends <;> rfl
  have mark : readExponent rest = some (none, rest) := by cases ends <;> rfl
  simp only [readNumeral, readWhole_toDigits n ends, point, mark, bind, Option.bind, pure]

/-- A digit begins a number without a sign. -/
theorem readScalar_of_isDigit {c : Char} (digit : c.isDigit = true) (cs : List Char) :
    readScalar (c :: cs) =
      (readNumeral false (c :: cs)).bind fun (n, r) => n.toJson.map fun value => (value, r) := by
  unfold readScalar
  split
  next quote =>
    obtain ⟨rfl, -⟩ := List.cons.inj quote
    cases digit
  next word =>
    obtain ⟨rfl, -⟩ := List.cons.inj word
    cases digit
  next word =>
    obtain ⟨rfl, -⟩ := List.cons.inj word
    cases digit
  next word =>
    obtain ⟨rfl, -⟩ := List.cons.inj word
    cases digit
  next sign =>
    obtain ⟨rfl, -⟩ := List.cons.inj sign
    cases digit
  next => rfl

/-- Without a fraction and an exponent a number of 64 bits is signed if it fits, and otherwise
unsigned. -/
theorem Numeral.toJson_unsigned (n : UInt64) :
    toJson ⟨false, Nat.toDigits 10 n.toNat, none, none⟩ =
      some (((Text.toInt64? n.toNat).map .int).getD (.uint n)) := by
  have size : Nat.ofDigitChars 10 (Nat.toDigits 10 n.toNat) 0 = n.toNat :=
    Nat.ofDigitChars_ten_toDigits
  have fits : Text.toUInt64? n.toNat = some n := by
    rw [Text.toUInt64?, if_pos n.toNat_lt_size, UInt64.ofNat_toNat]
  simp only [toJson, size, fits]
  cases Text.toInt64? n.toNat <;> rfl

theorem Numeral.toJson_negative {n : Int64} {m : Nat} (negative : n.toInt = Int.negSucc m) :
    toJson ⟨true, Nat.toDigits 10 (m + 1), none, none⟩ = some (.int n) := by
  have size : Nat.ofDigitChars 10 (Nat.toDigits 10 (m + 1)) 0 = m + 1 :=
    Nat.ofDigitChars_ten_toDigits
  have value : -((m + 1 : Nat) : Int) = n.toInt := negative.symm
  simp only [toJson, size, value, Text.toInt64?_toInt]
  rfl

theorem reads_uint (n : UInt64) (depth : Nat) :
    Reads (readValue depth) (toString n.toNat).toList
      (((Text.toInt64? n.toNat).map .int).getD (.uint n)) := by
  rw [Text.toList_toString]
  cases digits : Nat.toDigits 10 n.toNat with
  | nil => exact absurd digits Nat.toDigits_ne_nil
  | cons c cs =>
    have digit : c.isDigit = true := Text.isDigit_toDigits n.toNat c (by simp [digits])
    refine reads_of_readScalar (not_mem_marks_of_isDigit digit) (fun {rest} ends => ?_) depth
    rw [List.cons_append, readScalar_of_isDigit digit, ← List.cons_append, ← digits,
      readNumeral_toDigits false _ ends, Option.bind_some]
    dsimp only
    rw [Numeral.toJson_unsigned]
    rfl

theorem reads_int (n : Int64) (depth : Nat) :
    Reads (readValue depth) (toString n.toInt).toList (.int n) := by
  cases value : n.toInt with
  | ofNat m =>
    have whole : (m : Int) = n.toInt := value.symm
    have fits : Text.toInt64? m = some n := by
      rw [whole, Text.toInt64?_toInt]
    have bound : m < UInt64.size := by
      have below := n.toInt_lt
      have size : UInt64.size = 18446744073709551616 := rfl
      rw [← whole] at below
      omega
    have same : (UInt64.ofNat m).toNat = m := UInt64.toNat_ofNat_of_lt bound
    have reads := reads_uint (UInt64.ofNat m) depth
    rw [same, fits] at reads
    exact reads
  | negSucc m =>
    rw [Text.toList_toString_negSucc]
    refine reads_of_readScalar (by decide) (fun {rest} ends => ?_) depth
    rw [List.cons_append, readScalar, readNumeral_toDigits true _ ends, Option.bind_some]
    dsimp only
    rw [Numeral.toJson_negative value]
    rfl

/-! ## Brackets -/

section

variable {α : Type} {item : List Char → Option (α × List Char)} {text : α → List Char}
  {closing : Char} {xs : List α}

/-- A bracket that closes ends a value. -/
theorem ends_of_closing (closes : closing = ']' ∨ closing = '\x7d') (rest : List Char) :
    Ends (closing :: rest) := by
  obtain rfl | rfl := closes
  · exact .bracket rest
  · exact .brace rest

theorem Ends.skipSpace_eq (ends : Ends rest) : skipSpace rest = rest := by
  cases ends <;> rfl

/-- Items with commas between them are read up to the closing bracket. -/
theorem readItems_intercalate (rest : List Char) (closes : closing = ']' ∨ closing = '\x7d')
    (some : xs ≠ []) (reads : ∀ x ∈ xs, Reads item (text x) x) {bound : Nat}
    (enough : xs.length ≤ bound) :
    readItems item closing bound ([','].intercalate (xs.map text) ++ closing :: rest) =
      Option.some (xs, rest) := by
  induction xs generalizing bound with
  | nil => exact absurd rfl some
  | cons x xs ih =>
    obtain ⟨here, later⟩ := List.forall_mem_cons.mp reads
    cases bound with
    | zero => cases enough
    | succ bound =>
      have closed := ends_of_closing closes rest
      cases xs with
      | nil =>
        rw [List.map_singleton, List.intercalate_singleton, readItems, here.reads closed]
        simp only [bind, Option.bind, closed.skipSpace_eq, if_pos]
        rfl
      | cons y ys =>
        have comma : closing ≠ ',' := by
          obtain rfl | rfl := closes <;> decide
        have more := ih (List.cons_ne_nil _ _) later (Nat.le_of_succ_le_succ enough)
        rw [List.map_cons, List.map_cons, List.intercalate_cons_cons, List.append_assoc,
          List.append_assoc, List.singleton_append, readItems, here.reads (.comma _),
          ← List.map_cons]
        simp only [bind, Option.bind, (Ends.comma _).skipSpace_eq, if_neg comma.symm, if_pos, more]
        rfl

theorem length_le_intercalate {texts : List (List Char)} (full : ∀ t ∈ texts, t ≠ []) :
    texts.length ≤ ([','].intercalate texts).length := by
  induction texts with
  | nil => exact Nat.zero_le _
  | cons t texts ih =>
    obtain ⟨here, later⟩ := List.forall_mem_cons.mp full
    have one : 1 ≤ t.length := List.length_pos_iff.mpr here
    have others := ih later
    cases texts with
    | nil => simpa using one
    | cons next rest =>
      rw [List.intercalate_cons_cons, List.length_append, List.length_append, List.length_cons]
      simp only [List.length_singleton]
      omega

/-- The first text stands in front. -/
theorem exists_intercalate_cons (c : Char) (cs : List Char) (texts : List (List Char)) :
    ∃ tail, [','].intercalate ((c :: cs) :: texts) = c :: tail := by
  cases texts with
  | nil => exact ⟨cs, List.intercalate_singleton⟩
  | cons next rest => exact ⟨_, List.intercalate_cons_cons⟩

/-- What stands between two brackets is read item by item. -/
theorem readBracketed_intercalate (rest : List Char) (closes : closing = ']' ∨ closing = '\x7d')
    (reads : ∀ x ∈ xs, Reads item (text x) x) :
    readBracketed item closing ([','].intercalate (xs.map text) ++ closing :: rest) =
      some (xs, rest) := by
  cases xs with
  | nil =>
    rw [List.map_nil, List.intercalate_nil, List.nil_append, readBracketed,
      (ends_of_closing closes rest).skipSpace_eq]
    exact if_pos rfl
  | cons x xs =>
    have enough : (x :: xs).length ≤
        ([','].intercalate ((x :: xs).map text) ++ closing :: rest).length := by
      have full : ∀ t ∈ (x :: xs).map text, t ≠ [] :=
        List.forall_mem_map.mpr fun y mem => (reads y mem).ne_nil
      have inside := length_le_intercalate full
      rw [List.length_map] at inside
      rw [List.length_append]
      omega
    have read := readItems_intercalate rest closes (List.cons_ne_nil x xs) reads enough
    obtain ⟨c, cs, begins, solid, noBracket, noBrace⟩ := (reads x List.mem_cons_self).begins
    obtain ⟨tail, front⟩ := exists_intercalate_cons c cs (xs.map text)
    have other : c ≠ closing := by
      obtain rfl | rfl := closes <;> assumption
    rw [List.map_cons, begins, front] at read ⊢
    rw [readBracketed, List.cons_append, skipSpace_cons solid]
    exact (if_neg other).trans read

end

/-! ## Values -/

/-- The values that their compact texts are read as, with arrays and objects in one another up to a
depth. A whole number is unsigned only if it does not fit a signed one, and an object holds each
name once. There are no floats in them. -/
inductive Readable : Nat → Json → Prop
  | null {depth : Nat} : Readable depth null
  | bool {depth : Nat} (b : Bool) : Readable depth (bool b)
  | int {depth : Nat} (n : Int64) : Readable depth (int n)
  | uint {depth : Nat} {n : UInt64} : Text.toInt64? n.toNat = none → Readable depth (uint n)
  | string {depth : Nat} (s : String) : Readable depth (string s)
  | array {depth : Nat} {items : List Json} : (∀ item ∈ items, Readable depth item) →
    Readable (depth + 1) (array items)
  | object {depth : Nat} {members : List (String × Json)} : (members.map Prod.fst).Nodup →
    (∀ member ∈ members, Readable depth member.2) → Readable (depth + 1) (object members)

theorem compactItems_eq_map (items : List Json) : compactItems items = items.map compact := by
  induction items with
  | nil => rfl
  | cons item rest ih => rw [compactItems, ih, List.map_cons]

/-- The text of a member, name included. -/
def memberText (member : String × Json) : String :=
  stringText member.1 ++ ":" ++ member.2.compact

theorem compactMembers_eq_map (members : List (String × Json)) :
    compactMembers members = members.map memberText := by
  induction members with
  | nil => rfl
  | cons member rest ih =>
    rw [compactMembers, ih, List.map_cons]
    rfl

theorem insertMember_of_not_mem {name : String} {value : Json} {members : List (String × Json)}
    (new : name ∉ members.map Prod.fst) :
    insertMember name value members = members ++ [(name, value)] := by
  induction members with
  | nil => rfl
  | cons member rest ih =>
    obtain ⟨other, later⟩ := not_or.mp (mt List.mem_cons.mpr new)
    rw [insertMember, if_neg (Ne.symm other), ih later]
    rfl

/-- Members with different names are kept as they are. -/
theorem membersOf_of_nodup {members : List (String × Json)}
    (distinct : (members.map Prod.fst).Nodup) : membersOf members = members := by
  induction members using List.reverseRecOn with
  | nil => rfl
  | append_singleton members member ih =>
    rw [List.map_append, List.map_singleton] at distinct
    obtain ⟨distinct, -, apart⟩ := List.nodup_append.mp distinct
    have new : member.1 ∉ members.map Prod.fst := fun mem =>
      apart member.1 mem member.1 (List.mem_singleton_self _) rfl
    have before : membersOf members = members := ih distinct
    rw [membersOf, List.foldl_append, ← membersOf, before]
    exact insertMember_of_not_mem new

theorem reads_member {depth : Nat} {member : String × Json}
    (reads : Reads (readValue depth) member.2.compact.toList member.2) :
    Reads (readMember (readValue depth)) (memberText member).toList member := by
  have text : (memberText member).toList = '"' ::
      (member.1.toList.flatMap escapedChar ++ '"' :: ':' :: member.2.compact.toList) := by
    simp [memberText, toList_stringText]
  constructor
  · exact ⟨_, _, text, by decide, by decide, by decide⟩
  · intro rest ends
    rw [text, List.cons_append, List.append_assoc, List.cons_append, List.cons_append, readMember,
      skipSpace_cons (by decide)]
    simp only [readString_escaped, bind, Option.bind, skipSpace_cons (c := ':') (by decide),
      reads.reads ends, String.ofList_toList]
    rfl

theorem readValue_array (depth : Nat) (cs : List Char) : readValue (depth + 1) ('[' :: cs) =
    (readBracketed (readValue depth) ']' cs).map fun (items, r) => (.array items, r) := by
  rw [readValue, skipSpace_cons (by decide)]
  rfl

theorem readValue_object (depth : Nat) (cs : List Char) : readValue (depth + 1) ('\x7b' :: cs) =
    (readBracketed (readMember (readValue depth)) '\x7d' cs).map fun (members, r) =>
      (.object (membersOf members), r) := by
  rw [readValue, skipSpace_cons (by decide)]
  rfl

theorem reads_compact {depth : Nat} {value : Json} (readable : Readable depth value) :
    Reads (readValue depth) value.compact.toList value := by
  induction readable with
  | null => exact reads_of_readScalar (by decide) (fun _ => rfl) _
  | bool b =>
    cases b with
    | false => exact reads_of_readScalar (by decide) (fun _ => rfl) _
    | true => exact reads_of_readScalar (by decide) (fun _ => rfl) _
  | int n => exact reads_int n _
  | @uint depth n large =>
    have reads := reads_uint n depth
    rw [large] at reads
    exact reads
  | string s => exact reads_string s _
  | @array depth items readable ih =>
    have text : (array items).compact.toList =
        '[' :: ([','].intercalate (items.map (·.compact.toList)) ++ [']']) := by
      simp [compact, compactItems_eq_map, String.toList_intercalate, Function.comp_def]
    rw [text]
    refine ⟨⟨_, _, rfl, by decide, by decide, by decide⟩, fun {rest} ends => ?_⟩
    have read := readBracketed_intercalate rest (.inl rfl) ih
    rw [List.cons_append, List.append_assoc, List.singleton_append, readValue_array, read]
    rfl
  | @object depth members distinct readable ih =>
    have text : (object members).compact.toList =
        '\x7b' :: ([','].intercalate (members.map (memberText · |>.toList)) ++ ['\x7d']) := by
      simp [compact, compactMembers_eq_map, String.toList_intercalate, Function.comp_def]
    rw [text]
    refine ⟨⟨_, _, rfl, by decide, by decide, by decide⟩, fun {rest} ends => ?_⟩
    have read := readBracketed_intercalate rest (.inr rfl)
      fun member mem => reads_member (ih member mem)
    rw [List.cons_append, List.append_assoc, List.singleton_append, readValue_object, read,
      Option.map_some]
    dsimp only
    rw [membersOf_of_nodup distinct]

/-- The compact text of a value is read as the value. -/
theorem read?_compact {value : Json} (readable : Readable maxDepth value) :
    read? value.compact = some value :=
  read?_of_reads (reads_compact readable)

end Clausal.Json
