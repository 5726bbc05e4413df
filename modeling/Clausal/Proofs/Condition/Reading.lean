import Clausal.Condition.Json
import Clausal.Proofs.Condition.Fault
/-!
# Conditions that were read

Which values of a JSON document are read as conditions is said here on its own: the document itself,
the items of an array in such a place, and what stands under a connective in an object in such a
place. Reading fails exactly at the first of them that is a number or a truth value. A tree that was
read has a condition under every connective and a value under every other key, so all shapes that
mean nothing have been refused before it is compiled.
-/

namespace Clausal

/-! ## Values in the place of a condition -/

namespace Json

mutual

/-- The values in the place of a condition, in document order. -/
def conditions : Json → List Json
  | .array items => .array items :: itemConditions items
  | .object members => .object members :: memberConditions members
  | .null => [.null]
  | .bool b => [.bool b]
  | .int n => [.int n]
  | .uint n => [.uint n]
  | .float x => [.float x]
  | .string s => [.string s]

/-- Those of the items of an array. -/
def itemConditions : List Json → List Json
  | [] => []
  | item :: rest => conditions item ++ itemConditions rest

/-- Those under the connectives of an object. -/
def memberConditions : List (String × Json) → List Json
  | [] => []
  | (key, value) :: rest =>
    match Logic.ofKey? key with
    | some _ => conditions value ++ memberConditions rest
    | none => memberConditions rest

end

/-- Numbers and truth values say nothing as conditions. -/
def isMute : Json → Bool
  | .bool _ => true
  | .int _ => true
  | .uint _ => true
  | .float _ => true
  | _ => false

/-- What a number or a truth value is called. -/
def shapeName : Json → String
  | .bool b => "bool " ++ (Json.bool b).compact
  | value => "number " ++ value.compact

/-- The first value that says nothing, as an error. -/
def firstMute (values : List Json) : Except Error Unit :=
  match values.find? isMute with
  | some value => .error (.unsupportedShape value.shapeName)
  | none => .ok ()

theorem firstMute_append (a b : List Json) :
    firstMute (a ++ b) = firstMute a >>= fun _ => firstMute b := by
  unfold firstMute
  rw [List.find?_append]
  cases a.find? isMute <;> rfl

theorem firstMute_eq_error_iff {values : List Json} {e : Error} :
    firstMute values = .error e ↔
      ∃ value, values.find? isMute = some value ∧ e = .unsupportedShape value.shapeName := by
  unfold firstMute
  cases values.find? isMute with
  | some value => simp [eq_comm]
  | none => simp

theorem firstMute_eq_ok_iff {values : List Json} :
    (∃ u, firstMute values = .ok u) ↔ ∀ value ∈ values, value.isMute = false := by
  unfold firstMute
  cases found : values.find? isMute with
  | some value =>
    have mute := List.find?_some found
    have mem := List.mem_of_find?_eq_some found
    simp only [reduceCtorEq, exists_false, false_iff, not_forall]
    exact ⟨value, mem, by simp [mute]⟩
  | none => simpa using List.find?_eq_none.mp found

end Json

/-! ## Trees that were read -/

/-- Whether a leaf has no meaning where it stands. -/
def Leaf.isStray : Leaf → Bool
  | .raw _ => false
  | .comparison _ _ => false
  | .strayValue _ _ => true
  | .strayCondition _ => true

/-- A leaf that is not stray can only fail as comparisons do. -/
theorem Leaf.isOfComparison_of_not_stray {r : Rendering} {leaf : Leaf} {e : Error}
    (regular : leaf.isStray = false) (failed : leaf.fragment r = .error e) :
    e.isOfComparison = true := by
  cases leaf with
  | raw sql => cases failed
  | comparison key value => exact isOfComparison_of_fragment failed
  | strayValue key value => cases regular
  | strayCondition key => cases regular

namespace Condition

/-- Leaves none of which is stray. -/
def Regular (leaves : List Leaf) : Prop :=
  ∀ leaf ∈ leaves, leaf.isStray = false

theorem Regular.append {a b : List Leaf} (first : Regular a) (second : Regular b) :
    Regular (a ++ b) :=
  List.forall_mem_append.mpr ⟨first, second⟩

mutual

/-- Reading fails at the first value that says nothing, and otherwise leaves no leaf stray. -/
theorem tied_ofJson (j : Json) :
    Tied (fun _ c => Regular (leaves c)) (Json.firstMute j.conditions) (ofJson j) := by
  match j with
  | .null => exact .ok (by simp [Regular, leaves, memberLeaves])
  | .string s => exact .ok (by simp [Regular, leaves, Leaf.isStray])
  | .array items =>
    rw [ofJson]
    exact (tied_ofJsonItems items).map fun _ _ regular => regular
  | .object members =>
    rw [ofJson]
    exact (tied_ofJsonMembers members).map fun _ _ regular => regular
  | .bool b => exact .error _
  | .int n => exact .error _
  | .uint n => exact .error _
  | .float x => exact .error _

theorem tied_ofJsonItems (items : List Json) :
    Tied (fun _ members => Regular (memberLeaves members))
      (Json.firstMute (Json.itemConditions items)) (ofJsonItems items) := by
  match items with
  | [] => exact .ok (by simp [Regular, memberLeaves])
  | item :: rest =>
    rw [Json.itemConditions, Json.firstMute_append, ofJsonItems]
    refine (tied_ofJson item).bind fun _ c first => ?_
    refine (tied_ofJsonItems rest).map fun _ members others => ?_
    exact first.append others

theorem tied_ofJsonMembers (members : List (String × Json)) :
    Tied (fun _ entries => Regular (entryLeaves entries))
      (Json.firstMute (Json.memberConditions members)) (ofJsonMembers members) := by
  match members with
  | [] => exact .ok (by simp [Regular, entryLeaves])
  | (key, value) :: rest =>
    rw [Json.memberConditions, ofJsonMembers]
    cases connective : Logic.ofKey? key with
    | some logic =>
      simp only [Json.firstMute_append]
      refine (tied_ofJson value).bind fun _ c first => ?_
      refine (tied_ofJsonMembers rest).map fun _ entries others => ?_
      rw [entryLeaves, leavesOfEntry, connective]
      exact first.append others
    | none =>
      refine (tied_ofJsonMembers rest).map fun _ entries others => ?_
      have compares : Leaf.ofValue key (.ofJson value) = .comparison key (.ofJson value) := by
        simp [Leaf.ofValue, connective]
      rw [entryLeaves, leavesOfEntry, compares]
      exact List.forall_mem_cons.mpr ⟨rfl, others⟩

end

/-- A document is read unless a number or a truth value is in the place of a condition, and then the
first of them in document order is named. What was read is never refused for its shape again: it
fails to compile only for a key, an operator, a value or the number of values of a comparison. -/
theorem ofJson_refuses_shapes (j : Json) :
    (∀ e, ofJson j = .error e ↔
        ∃ v, j.conditions.find? Json.isMute = some v ∧ e = .unsupportedShape v.shapeName) ∧
      ((∃ c, ofJson j = .ok c) ↔ ∀ v ∈ j.conditions, v.isMute = false) ∧
      ∀ c, ofJson j = .ok c → ∀ (r : Rendering) (logic : Logic) (e : Error),
        c.compile r logic = .error e →
          e.isOfComparison = true ∧ ∀ found, e ≠ .unsupportedShape found := by
  have tied := tied_ofJson j
  refine ⟨fun e => ?_, ?_, fun c read r logic e failed => ?_⟩
  · exact (tied.error_iff e).symm.trans Json.firstMute_eq_error_iff
  · exact tied.exists_ok_iff.symm.trans Json.firstMute_eq_ok_iff
  · obtain ⟨-, -, regular⟩ := tied.exists_of_eq_ok read
    obtain ⟨leaf, mem, failed⟩ := exists_leaf_of_compile_eq_error failed
    have fault := Leaf.isOfComparison_of_not_stray (regular leaf mem) failed
    exact ⟨fault, Error.ne_unsupportedShape_of_isOfComparison fault⟩

/-- Under a connective a truth value is refused when it is read; under a field it is a value, and
the unknown operator of the field is found when the tree is compiled. -/
theorem ofJson_refuses_shapes_ilike :
    ofJson (.object [("id", .int 1), (" Or ", .array [.null, .bool true, .int 2])]) =
        .error (.unsupportedShape "bool true") ∧
      ∃ c, ofJson (.object [(" Or ", .array [.null, .object [("id ilike", .bool true)]])]) = .ok c ∧
        c.compile {} .and = .error (.unsupportedOperator "ILIKE") ∧
        ∀ found, Error.unsupportedOperator "ILIKE" ≠ .unsupportedShape found := by
  obtain ⟨refused, -, -⟩ :=
    ofJson_refuses_shapes (.object [("id", .int 1), (" Or ", .array [.null, .bool true, .int 2])])
  obtain ⟨-, -, compiled⟩ :=
    ofJson_refuses_shapes (.object [(" Or ", .array [.null, .object [("id ilike", .bool true)]])])
  refine ⟨(refused _).mpr ⟨.bool true, by rfl, by rfl⟩, _, rfl, rfl, ?_⟩
  exact (compiled _ rfl {} .and _ rfl).2

end Condition

end Clausal
