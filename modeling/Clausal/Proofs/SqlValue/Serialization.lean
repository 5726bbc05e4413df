import Clausal.Proofs.Json.Reading
import Clausal.Proofs.SqlValue.Reading
/-!
# Values read from JSON

A value that is read from JSON is serialized to the text of what it was read from, and from this
text it is read again. The text of a whole number keeps all digits as long as 64 bits hold it, with
or without a sign; a list is serialized item by item, and an object is kept as it is.
-/

namespace Clausal.SqlValue

open Sql (Datum readLiteral)

/-- The text a value is serialized to. -/
def serialized (v : SqlValue) : String :=
  v.toJson.compact

/-- The text of a whole number is read as a value that stands for this number, and the value is
serialized to the same text. -/
def KeepsInteger (z : Int) : Prop :=
  ∃ j, Json.read? (toString z) = some j ∧ (ofJson j).datum? = some (.integer z) ∧
    (ofJson j).serialized = toString z

theorem keepsInteger_int (n : Int64) : KeepsInteger n.toInt :=
  ⟨.int n, Json.read?_of_reads (Json.reads_int n _), rfl, rfl⟩

/-- An unsigned number that fits a signed one is read as that, with the same digits. -/
theorem ofJson_uint (n : UInt64) : (ofJson (.uint n)).datum? = some (.integer n.toNat) ∧
    (ofJson (.uint n)).serialized = toString n.toNat := by
  cases signed : Text.toInt64? n.toNat with
  | none =>
    have read : ofJson (.uint n) = uint n := by
      rw [ofJson, signed]
      rfl
    rw [read]
    exact ⟨rfl, rfl⟩
  | some i =>
    have read : ofJson (.uint n) = int i := by
      rw [ofJson, signed]
      rfl
    have same : i.toInt = n.toNat := Text.toInt_of_toInt64? signed
    rw [read, datum?, serialized, toJson, Json.compact, same]
    exact ⟨rfl, rfl⟩

theorem keepsInteger_uint (n : UInt64) : KeepsInteger n.toNat := by
  have read := Json.read?_of_reads (Json.reads_uint n _)
  cases signed : Text.toInt64? n.toNat with
  | none =>
    rw [signed] at read
    exact ⟨.uint n, read, ofJson_uint n⟩
  | some i =>
    have kept := keepsInteger_int i
    rwa [Text.toInt_of_toInt64? signed] at kept

mutual

-- Only arrays are taken apart: an object stays whole.
theorem serialized_ofJson : ∀ j : Json, (ofJson j).serialized = j.compact
  | .null => rfl
  | .bool _ => rfl
  | .int _ => rfl
  | .uint n => (ofJson_uint n).2
  | .float _ => rfl
  | .string _ => rfl
  | .array items => by
    rw [ofJson, serialized, toJson, Json.compact, Json.compact, compactItems_ofJsonItems items]
  | .object _ => rfl

theorem compactItems_ofJsonItems : ∀ items : List Json,
    Json.compactItems (toJsonItems (ofJsonItems items)) = Json.compactItems items
  | [] => rfl
  | j :: rest => by
    have first : (ofJson j).toJson.compact = j.compact := serialized_ofJson j
    rw [ofJsonItems, toJsonItems, Json.compactItems, Json.compactItems, first,
      compactItems_ofJsonItems rest]

end

theorem ofJsonItems_eq_map (items : List Json) : ofJsonItems items = items.map ofJson := by
  induction items with
  | nil => rfl
  | cons j rest ih => rw [ofJsonItems, ih, List.map_cons]

theorem plainItems_eq_map (items : List SqlValue) : plainItems items = items.map plain := by
  induction items with
  | nil => rfl
  | cons v rest ih => rw [plainItems, ih, List.map_cons]

/-- A value that was read from JSON is serialized to the compact text of the JSON, and this text is
read as the JSON again, where there are no floats in it. Whole numbers that 64 bits hold keep their
digits and other numbers stay the same float; an array gives the list of its items, and an object
stays what it is. The literal of a JSON value holds its compact text, and the plain text of a list
of objects their compact texts. -/
theorem ofJson_keeps_text :
    (∀ j : Json, (ofJson j).serialized = j.compact) ∧
    (∀ j : Json, j.Readable Json.maxDepth → Json.read? (ofJson j).serialized = some j) ∧
    (∀ n : Int64, KeepsInteger n.toInt) ∧
    (∀ n : UInt64, KeepsInteger n.toNat) ∧
    (∀ x : Float, ofJson (.float x) = float x) ∧
    (∀ items : List Json, ofJson (.array items) = list (items.map ofJson)) ∧
    (∀ members : List (String × Json), ofJson (.object members) = json (.object members)) ∧
    (∀ (value : Json) (isLetter : Char → Bool),
      (json value).literal = "'" ++ escape value.compact ++ "'" ∧
      readLiteral isLetter (json value).literal.toList =
        some (Datum.text value.compact.toList, [])) ∧
    ∀ objects : List (List (String × Json)),
      (ofJson (.array (objects.map .object))).plain =
        ",".intercalate (objects.map fun members => (Json.object members).compact) := by
  refine ⟨serialized_ofJson, fun j readable => ?_, keepsInteger_int, keepsInteger_uint,
    fun _ => rfl, fun items => ?_, fun _ => rfl, fun value isLetter => ⟨rfl, ?_⟩, fun objects => ?_⟩
  · rw [serialized_ofJson]
    exact Json.read?_compact readable
  · rw [ofJson, ofJsonItems_eq_map]
  · have follows : Sql.Follows isLetter [] := nofun
    have read := Sql.readLiteral_quote follows value.compact
    rwa [List.append_nil] at read
  · rw [ofJson, plain, ofJsonItems_eq_map, plainItems_eq_map, List.map_map, List.map_map]
    rfl

/-- The greatest number keeps its digits in an array in an object, beside a string with a quote and
a new line. -/
theorem ofJson_keeps_text_nested :
    let j : Json := .object [("a", .array [.int (-1), .uint 18446744073709551615]),
      ("b", .string "x\"\n")]
    j.Readable Json.maxDepth ∧ (ofJson j).serialized =
        "\x7b\"a\":[-1,18446744073709551615],\"b\":\"x\\\"\\n\"\x7d" ∧
      Json.read? (ofJson j).serialized = some j := by
  intro j
  obtain ⟨-, reads, -⟩ := ofJson_keeps_text
  have items : ∀ item ∈ [Json.int (-1), .uint 18446744073709551615], item.Readable 125 := by
    simp only [List.forall_mem_cons]
    exact ⟨.int _, .uint (by decide), nofun⟩
  have members : ∀ member ∈ [("a", Json.array [.int (-1), .uint 18446744073709551615]),
      ("b", .string "x\"\n")], member.2.Readable 126 := by
    simp only [List.forall_mem_cons]
    exact ⟨.array items, .string _, nofun⟩
  have readable : j.Readable Json.maxDepth := .object (by decide) members
  exact ⟨readable, rfl, reads j readable⟩

end Clausal.SqlValue
