import Clausal.Proofs.Condition.Neutral
/-!
# Groups built step by step

Pairs can be added to a group all at once, as one list of fields, or one by one, as a list of fields
each. The trees differ, and what they become does not: a list of fields is joined with the
connective of the group and has no parentheses of its own, and raw text beside the pairs is guarded
as soon as one of them has text, whether they count as one member or as many. The same holds of blank
raw text that is left out or added. So it makes no difference what is added later, and where in a
tree the group comes to stand.
-/

namespace Clausal

/-! ## Places in a tree -/

namespace Condition

/-- A tree with one place left open, at its root, in a member or in what an entry nests. -/
inductive Place where
  | root
  | inSequence (before : List Condition) (inner : Place) (after : List Condition)
  | inGroup (own : Logic) (before : List Condition) (inner : Place) (after : List Condition)
  | inFields (before : List Entry) (key : String) (inner : Place) (after : List Entry)

/-- The tree with a condition put in its open place. -/
def Place.fill (c : Condition) : Place → Condition
  | root => c
  | inSequence before inner after => .sequence (before ++ inner.fill c :: after)
  | inGroup own before inner after => .group own (before ++ inner.fill c :: after)
  | inFields before key inner after => .fields (before ++ .nested key (inner.fill c) :: after)

/-- Two conditions become the same, and the nodes around them take them for the same. -/
structure Alike (c c' : Condition) : Prop where
  isRaw : c'.isRaw = c.isRaw
  isDelimited : c'.isDelimited = c.isDelimited
  compile : ∀ r logic, c'.compile r logic = c.compile r logic

variable {c c' : Condition}

theorem Alike.refl (c : Condition) : Alike c c :=
  ⟨rfl, rfl, fun _ _ => rfl⟩

/-- What is alike is alike in every place. -/
theorem Alike.fill (alike : Alike c c') (place : Place) : Alike (place.fill c) (place.fill c') := by
  induction place with
  | root => exact alike
  | inSequence before inner after ih =>
    refine ⟨rfl, rfl, fun r logic => ?_⟩
    rw [Place.fill, Place.fill, Condition.compile, Condition.compile,
      compileMembers_congr ih.isRaw (ih.compile r logic)]
  | inGroup own before inner after ih =>
    refine ⟨rfl, rfl, fun r logic => ?_⟩
    rw [Place.fill, Place.fill, Condition.compile, Condition.compile,
      compileMembers_congr ih.isRaw (ih.compile r own)]
  | inFields before key inner after ih =>
    refine ⟨rfl, rfl, fun r logic => ?_⟩
    rw [Place.fill, Place.fill, Condition.compile, Condition.compile,
      compileEntries_congr ih.isDelimited (ih.compile r)]

end Condition

/-! ## Fields apart -/

namespace Member

/-- Raw text is crowded by the same company, whether or not it comes as one member. -/
theorem areCrowded_congr {m : Member} {front back middle others : List Member}
    (mem : m ∈ front ++ back) (full : m.fragment.isEmpty = false)
    (same : middle.all (·.fragment.isEmpty) = others.all (·.fragment.isEmpty)) :
    areCrowded (front ++ middle ++ back) = areCrowded (front ++ others ++ back) := by
  have kept (ms : List Member) :
      (ms.filter (!·.fragment.isEmpty)).length = 0 ↔ ms.all (·.fragment.isEmpty) = true := by
    rw [List.length_eq_zero_iff, List.filter_eq_nil_iff, List.all_eq_true]
    simp
  have alike : (middle.filter (!·.fragment.isEmpty)).length = 0 ↔
      (others.filter (!·.fragment.isEmpty)).length = 0 := by
    rw [kept, kept, same]
  have present : 0 < ((front ++ back).filter (!·.fragment.isEmpty)).length :=
    List.length_pos_of_mem (List.mem_filter.mpr ⟨mem, by simp [full]⟩)
  rw [List.filter_append, List.length_append] at present
  unfold areCrowded
  rw [decide_eq_decide]
  simp only [List.filter_append, List.length_append]
  omega

/-- Fragments that are no raw text may be joined first, or each come as a member of its own. -/
theorem join_apart (logic : Logic) (front back : List Member) (fs : List Fragment) :
    join logic (front ++ [⟨false, Fragment.join logic fs⟩] ++ back) =
      join logic (front ++ fs.map (fun f => ⟨false, Fragment.join logic [f]⟩) ++ back) := by
  generalize together : [(⟨false, Fragment.join logic fs⟩ : Member)] = middle
  generalize apart : (fs.map fun f => (⟨false, Fragment.join logic [f]⟩ : Member)) = others
  have same : middle.all (·.fragment.isEmpty) = others.all (·.fragment.isEmpty) := by
    rw [← together, ← apart]
    simp [Fragment.isEmpty_join, List.all_map, Function.comp_def]
  have guards (m : Member) (mem : m ∈ front ++ back) :
      m.guarded (areCrowded (front ++ middle ++ back)) =
        m.guarded (areCrowded (front ++ others ++ back)) := by
    cases empty : m.fragment.isEmpty with
    | true => rw [guarded_of_isEmpty empty, guarded_of_isEmpty empty]
    | false => rw [areCrowded_congr mem empty same]
  have fronts := List.map_congr_left fun m mem => guards m (List.mem_append_left back mem)
  have backs := List.map_congr_left fun m mem => guards m (List.mem_append_right front mem)
  rw [join_eq, join_eq]
  generalize areCrowded (front ++ middle ++ back) = crowded at fronts backs ⊢
  generalize areCrowded (front ++ others ++ back) = crowded' at fronts backs ⊢
  -- Neither of the two is raw text, so nothing is guarded in the middle.
  have first : middle.map (guarded crowded) = [Fragment.join logic fs] := by
    rw [← together]
    rfl
  have second : others.map (guarded crowded') = fs.map fun f => Fragment.join logic [f] := by
    rw [← apart, List.map_map]
    rfl
  rw [List.map_append, List.map_append, List.map_append, List.map_append, fronts, backs, first,
    second, Fragment.join_append, Fragment.join_append, Fragment.join_append, Fragment.join_append,
    Fragment.join_join, Fragment.join_map_join]

end Member

namespace Condition

theorem compileMember_fields (r : Rendering) (logic : Logic) (entry : Entry) :
    compileMember r logic (.fields [entry]) =
      (compileEntry r entry).map fun f => ⟨false, Fragment.join logic [f]⟩ := by
  rw [compileMember, compile, compileEntries_eq_mapM, List.mapM_cons]
  cases compileEntry r entry <;> rfl

/-- Entries may stand in one list of fields, or each in a list of its own. -/
theorem alike_apart (own : Logic) (before after : List Condition) (entries : List Entry) :
    Alike (.group own (before ++ [.fields entries] ++ after))
      (.group own (before ++ entries.map (fun entry => .fields [entry]) ++ after)) := by
  refine ⟨rfl, rfl, fun r logic => ?_⟩
  have together : [fields entries].mapM (compileMember r own) =
      (entries.mapM (compileEntry r)).map fun fs => [⟨false, Fragment.join own fs⟩] := by
    rw [List.mapM_cons, compileMember, compile, compileEntries_eq_mapM]
    cases entries.mapM (compileEntry r) <;> rfl
  have apart : (entries.map fun entry => fields [entry]).mapM (compileMember r own) =
      (entries.mapM (compileEntry r)).map
        (List.map fun f => ⟨false, Fragment.join own [f]⟩) := by
    rw [List.mapM_map, ← mapM_comp_map]
    congr 1
    funext entry
    exact compileMember_fields r own entry
  rw [compile, compile, compileMembers_eq_mapM, compileMembers_eq_mapM]
  refine (mapM_append_congr ?_ before after).symm
  rw [together, apart]
  cases entries.mapM (compileEntry r) with
  | error e => exact .error e
  | ok fs => exact .ok fun front back => Member.join_apart own front back fs

/-- Blank raw text may be left out of a group. -/
theorem alike_blank (own : Logic) (before after : List Condition) {sql : String}
    (blank : Text.isBlankString sql = true) : Alike (.group own (before ++ .raw sql :: after))
      (.group own (before ++ after)) where
  isRaw := rfl
  isDelimited := rfl
  compile := (Removal.fromGroup (silent_of_isEmpty (c := .raw sql) blank)).compile_eq

end Condition

/-! ## Additions -/

namespace Group

/-- Something that can be added to a group. -/
inductive Addition where
  | pair (key : String) (value : SqlValue)
  | batch (pairs : List (String × SqlValue))
  | group (inner : Group)
  | raw (sql : String)
  | condition (c : Condition)

/-- A group with one thing added. -/
def adding (g : Group) : Addition → Group
  | .pair key value => g.add key value
  | .batch pairs => g.addBatch pairs
  | .group inner => g.addGroup inner
  | .raw sql => g.addRaw sql
  | .condition c => g.addCondition c

/-- A group with several things added, one after another. -/
def addingAll (g : Group) (additions : List Addition) : Group :=
  additions.foldl adding g

/-- The members that are added. -/
def Addition.members : Addition → List Condition
  | .pair key value => [.field key value]
  | .batch pairs => if pairs.isEmpty then [] else [.fields (Entry.ofPairs pairs)]
  | .group inner => [inner.toCondition]
  | .raw sql => if Text.isBlankString sql then [] else [.raw sql]
  | .condition c => [c]

/-- Pairs that are added one by one. -/
def Addition.each (pairs : List (String × SqlValue)) : List Addition :=
  pairs.map fun (key, value) => .pair key value

theorem adding_eq (g : Group) (addition : Addition) :
    g.adding addition = ⟨g.logic, g.members ++ addition.members⟩ := by
  cases addition with
  | pair key value => rfl
  | batch pairs =>
    rw [adding, addBatch, Addition.members]
    split
    · rw [List.append_nil]
    · rfl
  | group inner => rfl
  | raw sql =>
    rw [adding, addRaw, Addition.members]
    split
    · rw [List.append_nil]
    · rfl
  | condition c => rfl

/-- Whatever is added comes behind the members, in order, and the connective stays. -/
theorem addingAll_eq (g : Group) (additions : List Addition) :
    g.addingAll additions = ⟨g.logic, g.members ++ additions.flatMap Addition.members⟩ := by
  induction additions generalizing g with
  | nil => rw [List.flatMap_nil, List.append_nil]; rfl
  | cons addition rest ih =>
    have step : g.addingAll (addition :: rest) = (g.adding addition).addingAll rest := rfl
    rw [step, ih, adding_eq, List.flatMap_cons, List.append_assoc]

theorem members_each (pairs : List (String × SqlValue)) :
    (Addition.each pairs).flatMap Addition.members =
      (Entry.ofPairs pairs).map fun entry => .fields [entry] := by
  rw [Addition.each, Entry.ofPairs, List.flatMap_map, List.map_map, List.map_eq_flatMap]
  rfl

theorem alike_batch (g : Group) (pairs : List (String × SqlValue)) (later : List Addition) :
    Condition.Alike (g.addingAll (.batch pairs :: later)).toCondition
      (g.addingAll (Addition.each pairs ++ later)).toCondition := by
  rw [addingAll_eq, addingAll_eq, List.flatMap_cons, List.flatMap_append, members_each,
    Addition.members]
  split
  next none =>
    rw [List.isEmpty_iff.mp none]
    exact .refl _
  next =>
    rw [← List.append_assoc, ← List.append_assoc]
    exact Condition.alike_apart g.logic g.members _ (Entry.ofPairs pairs)

theorem alike_raw (g : Group) (sql : String) (later : List Addition) :
    Condition.Alike (g.addingAll (.condition (.raw sql) :: later)).toCondition
      (g.addingAll (.raw sql :: later)).toCondition := by
  rw [addingAll_eq, addingAll_eq, List.flatMap_cons, List.flatMap_cons, Addition.members,
    Addition.members]
  split
  next blank => exact Condition.alike_blank g.logic g.members _ blank
  next => exact .refl _

/-- Adding pairs at once is adding them one by one, and adding raw text is adding it as a condition,
blank or not. Whatever is added later and wherever the group stands, the tree becomes the same text
with the same values, or fails with the same error, under any connective, in any mode and with any
hooks. -/
theorem batch_adds_each (g : Group) (later : List Addition) (place : Condition.Place)
    (r : Rendering) (logic : Logic) :
    (∀ pairs, (place.fill (g.addingAll (.batch pairs :: later)).toCondition).compile r logic =
        (place.fill (g.addingAll (Addition.each pairs ++ later)).toCondition).compile r logic) ∧
      ∀ sql, (place.fill (g.addingAll (.raw sql :: later)).toCondition).compile r logic =
        (place.fill (g.addingAll (.condition (.raw sql) :: later)).toCondition).compile r logic := by
  constructor
  · intro pairs
    exact (((g.alike_batch pairs later).fill place).compile r logic).symm
  · intro sql
    exact ((g.alike_raw sql later).fill place).compile r logic

end Group

end Clausal
