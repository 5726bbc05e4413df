import Clausal.Proofs.Text.Bytes
import Mathlib.Data.List.TakeWhile
/-!
# Bytes read as text

A well-formed sequence has as many bytes as its first announces, each in its range, and stands for
one character. Bytes are read from the front. Where a well-formed sequence stands, its character is
read. Where none does, the part that is read as one replacement is as long as any with which a
well-formed sequence could begin, and a single byte if none begins there. So every text is read back
from its bytes, whatever bytes follow it.
-/

namespace Clausal.Text.Utf8

/-! ## Well-formed sequences -/

/-- The bytes of a code point as numbers. -/
def sequenceOf (n : Nat) : List Nat :=
  if n < 128 then [n]
  else if n < 2048 then [n / 64 + 192, n % 64 + 128]
  else if n < 65536 then [n / 4096 + 224, n / 64 % 64 + 128, n % 64 + 128]
  else [n / 262144 + 240, n / 4096 % 64 + 128, n / 64 % 64 + 128, n % 64 + 128]

theorem toNat_encodeChar (c : Char) :
    (String.utf8EncodeChar c).map UInt8.toNat = sequenceOf c.toNat := by
  have top : c.toNat < 1114112 := by
    rcases c.valid with low | ⟨-, high⟩
    · exact Nat.lt_trans low (by decide)
    · exact high
  have same : c.val.toNat = c.toNat := rfl
  rw [String.utf8EncodeChar.eq_1, same, sequenceOf]
  by_cases one : c.toNat < 128
  · rw [if_pos (Nat.le_of_lt_succ one), if_pos one]
    simp only [List.map_cons, List.map_nil, UInt8.toNat_ofNat']
    congr 1
    omega
  by_cases two : c.toNat < 2048
  · rw [if_neg (by omega), if_pos (Nat.le_of_lt_succ two), if_neg one, if_pos two]
    simp only [List.map_cons, List.map_nil, UInt8.toNat_ofNat']
    congr 2 <;> omega
  by_cases three : c.toNat < 65536
  · rw [if_neg (by omega), if_neg (by omega), if_pos (Nat.le_of_lt_succ three), if_neg one,
      if_neg two, if_pos three]
    simp only [List.map_cons, List.map_nil, UInt8.toNat_ofNat']
    congr 3 <;> omega
  · rw [if_neg (by omega), if_neg (by omega), if_neg (by omega), if_neg one, if_neg two,
      if_neg three]
    simp only [List.map_cons, List.map_nil, UInt8.toNat_ofNat']
    congr 4 <;> omega

theorem toNat_ofNat {n : Nat} (scalar : n.isValidChar) : (Char.ofNat n).toNat = n := by
  rw [Char.ofNat, dif_pos scalar]
  rfl

theorem announcedLength_eq_succ_iff {b : UInt8} {n : Nat} : announcedLength b = n + 1 ↔
    n = 0 ∧ b.toNat < 128 ∨ n = 1 ∧ 194 ≤ b.toNat ∧ b.toNat < 224 ∨
      n = 2 ∧ 224 ≤ b.toNat ∧ b.toNat < 240 ∨ n = 3 ∧ 240 ≤ b.toNat ∧ b.toNat < 245 := by
  have eq : announcedLength b =
      if b.toNat < 128 then 1 else if b.toNat < 194 then 0 else if b.toNat < 224 then 2
      else if b.toNat < 240 then 3 else if b.toNat < 245 then 4 else 0 := by
    simp only [announcedLength, UInt8.lt_iff_toNat_lt]
    rfl
  rw [eq]
  repeat' split
  all_goals omega

theorem isContinuation_iff {b : UInt8} :
    isContinuation b = true ↔ 128 ≤ b.toNat ∧ b.toNat < 192 := by
  simp only [isContinuation, UInt8.le_iff_toNat_le, Bool.and_eq_true, decide_eq_true_eq]
  exact and_congr_right fun _ => Nat.lt_succ_iff.symm

theorem isSecond_iff {first b : UInt8} : isSecond first b = true ↔
    128 ≤ b.toNat ∧ b.toNat < 192 ∧ (first.toNat = 224 → 160 ≤ b.toNat) ∧
      (first.toNat = 237 → b.toNat < 160) ∧ (first.toNat = 240 → 144 ≤ b.toNat) ∧
      (first.toNat = 244 → b.toNat < 144) := by
  simp only [isSecond, UInt8.le_iff_toNat_le, ← UInt8.toNat_inj]
  repeat' split
  all_goals
    simp only [isContinuation_iff, Bool.and_eq_true, decide_eq_true_eq, UInt8.toNat_ofNat] at *
    omega

/-- The bytes after a first byte are in their ranges. -/
def Continues (first : UInt8) : List UInt8 → Prop
  | [] => True
  | b :: r => isSecond first b = true ∧ ∀ d ∈ r, isContinuation d = true

/-- There are as many bytes as the first announces, and they are in their ranges. -/
structure WellFormed (first : UInt8) (rest : List UInt8) : Prop where
  announced : announcedLength first = rest.length + 1
  continues : Continues first rest

theorem codePoint_two (first b : UInt8) :
    codePoint first [b] = first.toNat % 32 * 64 + b.toNat % 64 := rfl

theorem codePoint_three (first b d : UInt8) :
    codePoint first [b, d] = (first.toNat % 16 * 64 + b.toNat % 64) * 64 + d.toNat % 64 := rfl

theorem codePoint_four (first b d e : UInt8) : codePoint first [b, d, e] =
    ((first.toNat % 8 * 64 + b.toNat % 64) * 64 + d.toNat % 64) * 64 + e.toNat % 64 := rfl

/-- What a character is written as is well-formed and stands for it. -/
theorem exists_wellFormed (c : Char) : ∃ first rest, String.utf8EncodeChar c = first :: rest ∧
    WellFormed first rest ∧ codePoint first rest = c.toNat := by
  have scalar : c.toNat < 55296 ∨ 57343 < c.toNat ∧ c.toNat < 1114112 := c.valid
  have bytes := toNat_encodeChar c
  unfold sequenceOf at bytes
  split at bytes
  next one =>
    obtain ⟨first, rest, same, lead, bytes⟩ := List.map_eq_cons_iff.mp bytes
    cases List.map_eq_nil_iff.mp bytes
    refine ⟨first, [], same, ⟨announcedLength_eq_succ_iff.mpr (.inl ⟨rfl, by omega⟩), trivial⟩, ?_⟩
    change first.toNat % 128 = c.toNat
    omega
  split at bytes
  next two =>
    obtain ⟨first, rest, same, lead, bytes⟩ := List.map_eq_cons_iff.mp bytes
    obtain ⟨b, rest, rfl, second, bytes⟩ := List.map_eq_cons_iff.mp bytes
    cases List.map_eq_nil_iff.mp bytes
    have announced : announcedLength first = 1 + 1 :=
      announcedLength_eq_succ_iff.mpr (by omega)
    refine ⟨first, [b], same, ⟨announced, isSecond_iff.mpr (by omega), nofun⟩, ?_⟩
    rw [codePoint_two]
    omega
  split at bytes
  next three =>
    obtain ⟨first, rest, same, lead, bytes⟩ := List.map_eq_cons_iff.mp bytes
    obtain ⟨b, rest, rfl, second, bytes⟩ := List.map_eq_cons_iff.mp bytes
    obtain ⟨d, rest, rfl, third, bytes⟩ := List.map_eq_cons_iff.mp bytes
    cases List.map_eq_nil_iff.mp bytes
    have announced : announcedLength first = 2 + 1 :=
      announcedLength_eq_succ_iff.mpr (by omega)
    refine ⟨first, [b, d], same, ⟨announced, isSecond_iff.mpr (by omega), ?_⟩, ?_⟩
    · exact List.forall_mem_singleton.mpr (isContinuation_iff.mpr (by omega))
    · rw [codePoint_three]
      omega
  next four =>
    obtain ⟨first, rest, same, lead, bytes⟩ := List.map_eq_cons_iff.mp bytes
    obtain ⟨b, rest, rfl, second, bytes⟩ := List.map_eq_cons_iff.mp bytes
    obtain ⟨d, rest, rfl, third, bytes⟩ := List.map_eq_cons_iff.mp bytes
    obtain ⟨e, rest, rfl, fourth, bytes⟩ := List.map_eq_cons_iff.mp bytes
    cases List.map_eq_nil_iff.mp bytes
    have announced : announcedLength first = 3 + 1 :=
      announcedLength_eq_succ_iff.mpr (by omega)
    refine ⟨first, [b, d, e], same, ⟨announced, isSecond_iff.mpr (by omega), ?_⟩, ?_⟩
    · refine List.forall_mem_cons.mpr ⟨isContinuation_iff.mpr (by omega), ?_⟩
      exact List.forall_mem_singleton.mpr (isContinuation_iff.mpr (by omega))
    · rw [codePoint_four]
      omega

/-- A well-formed sequence is what the character that it stands for is written as. -/
theorem encodeChar_codePoint {first : UInt8} {rest : List UInt8} (formed : WellFormed first rest) :
    String.utf8EncodeChar (Char.ofNat (codePoint first rest)) = first :: rest := by
  have injective : Function.Injective (List.map UInt8.toNat) :=
    List.map_injective_iff.mpr fun _ _ => UInt8.toNat_inj.mp
  apply injective
  rw [toNat_encodeChar]
  obtain ⟨announced, continues⟩ := formed
  rw [announcedLength_eq_succ_iff] at announced
  rcases rest with - | ⟨b, - | ⟨d, - | ⟨e, - | ⟨f, rest⟩⟩⟩⟩
  · have value : codePoint first [] = first.toNat % 128 := rfl
    simp only [List.length_nil] at announced
    rw [value, toNat_ofNat (by omega), sequenceOf, if_pos (by omega)]
    simp only [List.map_cons, List.map_nil]
    congr 1
    omega
  · have second := isSecond_iff.mp continues.1
    simp only [List.length_cons, List.length_nil] at announced
    rw [codePoint_two, toNat_ofNat (by omega), sequenceOf, if_neg (by omega), if_pos (by omega)]
    simp only [List.map_cons, List.map_nil]
    congr 2 <;> omega
  · have second := isSecond_iff.mp continues.1
    have third := isContinuation_iff.mp (continues.2 d (by simp))
    simp only [List.length_cons, List.length_nil] at announced
    rw [codePoint_three, toNat_ofNat (by omega), sequenceOf, if_neg (by omega), if_neg (by omega),
      if_pos (by omega)]
    simp only [List.map_cons, List.map_nil]
    congr 3 <;> omega
  · have second := isSecond_iff.mp continues.1
    have third := isContinuation_iff.mp (continues.2 d (by simp))
    have fourth := isContinuation_iff.mp (continues.2 e (by simp))
    simp only [List.length_cons, List.length_nil] at announced
    rw [codePoint_four, toNat_ofNat (by omega), sequenceOf, if_neg (by omega), if_neg (by omega),
      if_neg (by omega)]
    simp only [List.map_cons, List.map_nil]
    congr 4 <;> omega
  · simp only [List.length_cons] at announced
    omega

/-- Each sequence that starts as a character is written is well-formed and stands for it. -/
theorem wellFormed_of_encodeChar {c : Char} {first : UInt8} {rest : List UInt8}
    (same : String.utf8EncodeChar c = first :: rest) :
    WellFormed first rest ∧ codePoint first rest = c.toNat := by
  obtain ⟨lead, others, split, formed, value⟩ := exists_wellFormed c
  rw [same] at split
  cases split
  exact ⟨formed, value⟩

/-- No sequence of a character begins with that of another. -/
theorem eq_of_encodeChar_append {c d : Char} {xs ys : List UInt8}
    (same : String.utf8EncodeChar c ++ xs = String.utf8EncodeChar d ++ ys) : c = d ∧ xs = ys := by
  obtain ⟨first, rest, left, formed, value⟩ := exists_wellFormed c
  obtain ⟨first', rest', right, formed', value'⟩ := exists_wellFormed d
  rw [left, right, List.cons_append, List.cons_append] at same
  obtain ⟨rfl, behind⟩ := List.cons.inj same
  have lengths : rest.length = rest'.length :=
    Nat.succ_inj.mp (formed.announced.symm.trans formed'.announced)
  obtain ⟨rfl, rfl⟩ := List.append_inj behind lengths
  exact ⟨Char.toNat_inj.mp (value.symm.trans value'), rfl⟩

/-! ## Parts of sequences -/

/-- The bytes of some character begin with these. -/
def Begins (part : List UInt8) : Prop :=
  ∃ c : Char, part <+: String.utf8EncodeChar c

theorem Continues.of_prefix {first : UInt8} {part rest : List UInt8}
    (continues : Continues first rest) (starts : part <+: rest) : Continues first part := by
  rcases part with - | ⟨b, part⟩
  · trivial
  · obtain ⟨more, rfl⟩ := starts
    exact ⟨continues.1, fun d mem => continues.2 d (List.mem_append_left _ mem)⟩

theorem exists_isSecond (first : UInt8) : ∃ b, isSecond first b = true := by
  have value : (160 : UInt8).toNat = 160 ∧ (144 : UInt8).toNat = 144 ∧ (128 : UInt8).toNat = 128 :=
    ⟨rfl, rfl, rfl⟩
  by_cases three : first.toNat = 224
  · exact ⟨160, isSecond_iff.mpr (by omega)⟩
  by_cases four : first.toNat = 240
  · exact ⟨144, isSecond_iff.mpr (by omega)⟩
  · exact ⟨128, isSecond_iff.mpr (by omega)⟩

/-- What continues a first byte can be completed. -/
theorem exists_wellFormed_append {first : UInt8} {rest : List UInt8}
    (short : rest.length < announcedLength first) (continues : Continues first rest) :
    ∃ more, WellFormed first (rest ++ more) := by
  have tail (n : Nat) : ∀ d ∈ List.replicate n (128 : UInt8), isContinuation d = true := by
    intro d mem
    rw [List.eq_of_mem_replicate mem]
    rfl
  obtain ⟨n, missing⟩ := Nat.exists_eq_add_of_lt short
  rcases rest with - | ⟨b, rest⟩
  · rcases n with - | n
    · exact ⟨[], by simpa using missing, trivial⟩
    · obtain ⟨b, second⟩ := exists_isSecond first
      refine ⟨b :: List.replicate n 128, ?_, second, tail n⟩
      simp only [List.length_nil] at missing
      simp only [List.nil_append, List.length_cons, List.length_replicate]
      omega
  · refine ⟨List.replicate n 128, ?_, continues.1, fun d mem => ?_⟩
    · simp only [List.length_append, List.length_replicate]
      omega
    · rcases List.mem_append.mp mem with here | later
      · exact continues.2 d here
      · exact tail n d later

theorem begins_cons_iff {first : UInt8} {rest : List UInt8} :
    Begins (first :: rest) ↔ rest.length < announcedLength first ∧ Continues first rest := by
  constructor
  · rintro ⟨c, more, same⟩
    rw [List.cons_append] at same
    obtain ⟨formed, -⟩ := wellFormed_of_encodeChar same.symm
    refine ⟨?_, formed.continues.of_prefix (List.prefix_append rest more)⟩
    rw [formed.announced, List.length_append]
    omega
  · rintro ⟨short, continues⟩
    obtain ⟨more, formed⟩ := exists_wellFormed_append short continues
    exact ⟨_, more, (encodeChar_codePoint formed).symm⟩

theorem continued_isPrefix (first : UInt8) (n : Nat) (r : List UInt8) : continued first n r <+: r := by
  unfold continued
  split
  next n b r =>
    split
    · exact (List.prefix_cons_inj b).mpr ((List.takeWhile_prefix _).trans (List.take_prefix n r))
    · exact List.nil_prefix
  next => exact List.nil_prefix

theorem length_continued_le (first : UInt8) (n : Nat) (r : List UInt8) :
    (continued first n r).length ≤ n := by
  unfold continued
  split
  next n b r =>
    split
    · have bound := (List.takeWhile_prefix isContinuation (l := r.take n)).length_le
      rw [List.length_take] at bound
      rw [List.length_cons]
      omega
    · exact Nat.zero_le _
  next => exact Nat.zero_le _

theorem continues_continued (first : UInt8) (n : Nat) (r : List UInt8) :
    Continues first (continued first n r) := by
  unfold continued
  split
  next n b r =>
    split
    next second => exact ⟨second, fun d mem => List.mem_takeWhile_imp mem⟩
    next => trivial
  next => trivial

/-- Nothing longer continues the first byte. -/
theorem prefix_continued {first : UInt8} {n : Nat} {part r : List UInt8}
    (continues : Continues first part) (starts : part <+: r) (short : part.length ≤ n) :
    part <+: continued first n r := by
  rcases part with - | ⟨b, part⟩
  · exact List.nil_prefix
  · obtain ⟨more, rfl⟩ := starts
    obtain ⟨n, rfl⟩ := Nat.exists_eq_add_one_of_ne_zero (Nat.ne_zero_of_lt short)
    have short' : part.length ≤ n := Nat.le_of_succ_le_succ short
    have whole : (part ++ more).take n = part ++ more.take (n - part.length) := by
      rw [List.take_append, List.take_of_length_le short']
    rw [List.cons_append, continued, if_pos continues.1, List.prefix_cons_inj, whole,
      List.takeWhile_append_of_pos continues.2]
    exact List.prefix_append _ _

/-! ## Reading -/

/-- A part at the front of some bytes that is read as one replacement. No character stands there.
The part is the longest with which the bytes of a character could begin, or a single byte if there
is none. -/
structure IllFormed (part rest : List UInt8) : Prop where
  none : ∀ c : Char, ¬ String.utf8EncodeChar c <+: part ++ rest
  full : part ≠ []
  begins : part.length = 1 ∨ Begins part
  longest : ∀ longer, longer <+: part ++ rest → Begins longer → longer.length ≤ part.length

/-- How bytes are read: characters where they stand, and a replacement for each ill-formed part. -/
inductive Reads : List UInt8 → List Char → Prop
  | nil : Reads [] []
  | char {rest : List UInt8} {cs : List Char} (c : Char) :
    Reads rest cs → Reads (String.utf8EncodeChar c ++ rest) (c :: cs)
  | illFormed {part rest : List UInt8} {cs : List Char} :
    IllFormed part rest → Reads rest cs → Reads (part ++ rest) (replacement :: cs)

/-- The ill-formed part at the front of some bytes is determined by them. -/
theorem IllFormed.unique {part rest other rest' : List UInt8} (ill : IllFormed part rest)
    (ill' : IllFormed other rest') (same : part ++ rest = other ++ rest') :
    part = other ∧ rest = rest' := by
  have le {part rest other rest' : List UInt8} (ill : IllFormed part rest)
      (ill' : IllFormed other rest') (same : part ++ rest = other ++ rest') :
      part.length ≤ other.length := by
    rcases ill.begins with single | begins
    · rw [single]
      exact List.length_pos_iff.mpr ill'.full
    · exact ill'.longest part (same ▸ List.prefix_append part rest) begins
  have lengths := Nat.le_antisymm (le ill ill' same) (le ill' ill same.symm)
  exact List.append_inj same lengths

theorem wellFormed_of_prefix {c : Char} {first : UInt8} {r : List UInt8}
    (starts : String.utf8EncodeChar c <+: first :: r) : ∃ rest, rest <+: r ∧ WellFormed first rest := by
  obtain ⟨lead, rest, split, formed, -⟩ := exists_wellFormed c
  rw [split, List.cons_prefix_cons] at starts
  obtain ⟨rfl, starts⟩ := starts
  exact ⟨rest, starts, formed⟩

/-- A byte that announces nothing is an ill-formed part of its own. -/
theorem illFormed_of_announced_eq_zero {first : UInt8} {r : List UInt8}
    (announced : announcedLength first = 0) : IllFormed [first] r where
  none c starts := by
    obtain ⟨rest, -, formed⟩ := wellFormed_of_prefix starts
    have some := formed.announced
    omega
  full := List.cons_ne_nil _ _
  begins := .inl rfl
  longest longer starts begins := by
    rcases longer with - | ⟨b, rest⟩
    · exact Nat.zero_le _
    · obtain ⟨rfl, -⟩ := List.cons_prefix_cons.mp starts
      obtain ⟨short, -⟩ := begins_cons_iff.mp begins
      omega

/-- Where fewer bytes continue the first than it announces, those that do are ill-formed with it. -/
theorem illFormed_continued {first : UInt8} {n : Nat} {r more : List UInt8}
    (announced : announcedLength first = n + 1) (short : (continued first n r).length ≠ n)
    (split : r = continued first n r ++ more) : IllFormed (first :: continued first n r) more where
  none c starts := by
    rw [List.cons_append, ← split] at starts
    obtain ⟨rest, inside, formed⟩ := wellFormed_of_prefix starts
    have whole : rest.length = n := Nat.succ_inj.mp (formed.announced.symm.trans announced)
    have le := (prefix_continued formed.continues inside (Nat.le_of_eq whole)).length_le
    have bound := length_continued_le first n r
    omega
  full := List.cons_ne_nil _ _
  begins := by
    have bound := length_continued_le first n r
    exact .inr (begins_cons_iff.mpr ⟨by omega, continues_continued first n r⟩)
  longest longer starts begins := by
    rw [List.cons_append, ← split] at starts
    rcases longer with - | ⟨b, rest⟩
    · exact Nat.zero_le _
    · obtain ⟨rfl, inside⟩ := List.cons_prefix_cons.mp starts
      obtain ⟨within, continues⟩ := begins_cons_iff.mp begins
      exact Nat.succ_le_succ (prefix_continued continues inside (by omega)).length_le

/-- What is read first is the character that stands in front, or a replacement for the ill-formed
part there. -/
theorem decodeFirst_reads (first : UInt8) (r : List UInt8) :
    ∃ part, first :: r = part ++ r.drop (decodeFirst first r).2 ∧
      (part = String.utf8EncodeChar (decodeFirst first r).1 ∨
        (decodeFirst first r).1 = replacement ∧
          IllFormed part (r.drop (decodeFirst first r).2)) := by
  unfold decodeFirst
  split
  next announced =>
    exact ⟨[first], rfl, .inr ⟨rfl, illFormed_of_announced_eq_zero announced⟩⟩
  next n announced =>
    have split := List.prefix_iff_eq_append.mp (continued_isPrefix first n r)
    refine ⟨first :: continued first n r, ?_⟩
    dsimp only
    by_cases whole : (continued first n r).length = n
    · have formed : WellFormed first (continued first n r) :=
        ⟨by rw [announced, whole], continues_continued first n r⟩
      rw [whole] at split
      rw [if_pos whole, encodeChar_codePoint formed, List.cons_append, split]
      exact ⟨rfl, .inl rfl⟩
    · rw [if_neg whole, List.cons_append, split]
      exact ⟨rfl, .inr ⟨rfl, illFormed_continued announced whole split.symm⟩⟩

/-- A character that stands in front is read first. -/
theorem decode_encodeChar_append (c : Char) (rest : List UInt8) :
    decode (String.utf8EncodeChar c ++ rest) = c :: decode rest := by
  obtain ⟨first, others, split, -⟩ := exists_wellFormed c
  rw [split, List.cons_append, decode]
  obtain ⟨part, front, same | ⟨-, ill⟩⟩ := decodeFirst_reads first (others ++ rest)
  · rw [same, ← List.cons_append, ← split] at front
    obtain ⟨read, left⟩ := eq_of_encodeChar_append front
    rw [← read, ← left]
  · rw [← List.cons_append, ← split] at front
    exact (ill.none c ⟨rest, front⟩).elim

/-- An ill-formed part in front is read first, as one replacement. -/
theorem decode_append_of_illFormed {part rest : List UInt8} (ill : IllFormed part rest) :
    decode (part ++ rest) = replacement :: decode rest := by
  obtain ⟨first, others, rfl⟩ := List.exists_cons_of_ne_nil ill.full
  rw [List.cons_append, decode]
  obtain ⟨part, front, same | ⟨read, ill'⟩⟩ := decodeFirst_reads first (others ++ rest)
  · rw [same, ← List.cons_append] at front
    exact (ill.none _ ⟨_, front.symm⟩).elim
  · obtain ⟨-, left⟩ := ill.unique ill' front
    rw [read, ← left]

theorem reads_decode (bytes : List UInt8) : Reads bytes (decode bytes) := by
  induction bytes using decode.induct with
  | case1 =>
    rw [decode_nil]
    exact .nil
  | case2 first r front ih =>
    rw [decode]
    obtain ⟨part, split, same | ⟨read, ill⟩⟩ := decodeFirst_reads first r
    · rw [split, same]
      exact .char _ ih
    · rw [read, split]
      exact .illFormed ill ih

/-- Bytes are read in one way only, and that is how they are decoded. -/
theorem reads_iff {bytes : List UInt8} {cs : List Char} : Reads bytes cs ↔ decode bytes = cs := by
  constructor
  · intro reads
    induction reads with
    | nil => exact decode_nil
    | char c reads ih => rw [decode_encodeChar_append, ih]
    | illFormed ill reads ih => rw [decode_append_of_illFormed ill, ih]
  · rintro rfl
    exact reads_decode bytes

/-- A text is read back from its bytes, whatever stands behind them. -/
theorem decode_encode_append (cs : List Char) (bytes : List UInt8) :
    decode (encode cs ++ bytes) = cs ++ decode bytes := by
  induction cs with
  | nil => rfl
  | cons c rest ih =>
    rw [encode_cons, List.append_assoc, decode_encodeChar_append, ih, List.cons_append]

/-- A part that is cut off and a byte that starts nothing are one replacement each. -/
example : decode [0x61, 0xE2, 0x82, 0xC0, 0xE2, 0x82, 0xAC] =
    ['a', replacement, replacement, '€'] := by decide +kernel

end Clausal.Text.Utf8
