import Clausal.Proofs.Sql.Grammar
/-!
# Reading predicates

A reader that goes through the tokens once, from left to right, finds every derivation there is and
nothing else: `read?_eq_some_iff`. So a text is a predicate in one way at most, and what it means
does not depend on how it is derived.
-/

namespace Clausal.Sql

/-! ## Clauses -/

def readPath : List Token → Option (List Token × List Token)
  | t :: .dot :: rest =>
    if t.isPart then (readPath rest).map fun (path, behind) => (t :: .dot :: path, behind) else none
  | t :: rest => if t.isPart then some ([t], rest) else none
  | [] => none

def readOperand : List Token → Option (List Token × List Token)
  | .text content :: rest => some ([.text content], rest)
  | .mark :: rest => some ([.mark], rest)
  | .dash :: rest => (readPath rest).map fun (path, behind) => (.dash :: path, behind)
  | ts => readPath ts

def readOp : List Token → Option (MatchOp × List Token)
  | .symbol cs :: rest =>
    (MatchOp.all.find? fun op => op.tokens = [.symbol cs]).map fun op => (op, rest)
  | .keyword .like :: rest => some (.like, rest)
  | .keyword .is :: rest => some (.is, rest)
  | .keyword .within :: rest => some (.within, rest)
  | .keyword .between :: rest => some (.between, rest)
  | .keyword .not :: .keyword .like :: rest => some (.notLike, rest)
  | .keyword .not :: .keyword .within :: rest => some (.notWithin, rest)
  | .keyword .not :: .keyword .between :: rest => some (.notBetween, rest)
  | _ => none

/-- One value, behind IS perhaps with NOT in front. -/
def readScalar (op : MatchOp) : List Token → Option (List (List Token) × List Token)
  | .keyword .not :: rest =>
    if op = .is then
      (readOperand rest).map fun (value, behind) => ([.keyword .not :: value], behind)
    else none
  | ts => (readOperand ts).map fun (value, behind) => ([value], behind)

/-- Values in parentheses: all that stands before the closing one, taken apart at the commas. -/
def readSet : List Token → Option (List (List Token) × List Token)
  | .opening :: rest =>
    let values := (rest.takeWhile (· != .closing)).splitOn .comma
    match rest.dropWhile (· != .closing) with
    | [] => none
    | _ :: behind =>
      if values.all fun value => readOperand value = some (value, []) then some (values, behind)
      else none
  | _ => none

def readRange (ts : List Token) : Option (List (List Token) × List Token) :=
  match readOperand ts with
  | some (low, .keyword .and :: rest) =>
    (readOperand rest).map fun (high, behind) => ([low, high], behind)
  | _ => none

def readOperands (op : MatchOp) (ts : List Token) : Option (List (List Token) × List Token) :=
  match op.shape with
  | .scalar => readScalar op ts
  | .set => readSet ts
  | .range => readRange ts

def readClause (ts : List Token) : Option (Clause × List Token) := do
  let (subject, rest) ← readPath ts
  let (op, rest) ← readOp rest
  let (operands, rest) ← readOperands op rest
  return (⟨subject, op, operands⟩, rest)

theorem Path.exists_cons {ts : List Token} (path : Path ts) :
    ∃ t rest, ts = t :: rest ∧ t.isPart = true := by
  cases path with
  | part isPart => exact ⟨_, _, rfl, isPart⟩
  | dot isPart _ => exact ⟨_, _, rfl, isPart⟩

theorem readPath_append {ts rest : List Token} (path : Path ts) (stops : rest.head? ≠ some .dot) :
    readPath (ts ++ rest) = some (ts, rest) := by
  induction path with
  | @part t isPart =>
    cases rest with
    | nil => simp [readPath, isPart]
    | cons next others =>
      have other : next ≠ .dot := fun same => stops (by rw [same]; rfl)
      simp [readPath, isPart, other]
  | @dot t ts isPart _ ih => simp [readPath, isPart, ih]

theorem readPath_keyword (k : Keyword) (rest : List Token) :
    readPath (.keyword k :: rest) = none := by
  cases rest with
  | nil => rfl
  | cons next others => cases next <;> rfl

theorem readOperand_of_isPart {t : Token} (isPart : t.isPart = true) (rest : List Token) :
    readOperand (t :: rest) = readPath (t :: rest) := by
  cases t <;> first | rfl | cases isPart

theorem readOperand_append {ts rest : List Token} (operand : Operand ts)
    (stops : rest.head? ≠ some .dot) : readOperand (ts ++ rest) = some (ts, rest) := by
  cases operand with
  | text content => rfl
  | mark => rfl
  | path path =>
    have read := readPath_append path stops
    obtain ⟨t, others, rfl, isPart⟩ := path.exists_cons
    rw [List.cons_append] at read ⊢
    rw [readOperand_of_isPart isPart, read]
  | negative path =>
    rw [List.cons_append, readOperand, readPath_append path stops]
    rfl

theorem readOp_append (op : MatchOp) (rest : List Token) :
    readOp (op.tokens ++ rest) = some (op, rest) := by
  cases op <;> rfl

theorem head?_tokens (op : MatchOp) (rest : List Token) :
    (op.tokens ++ rest).head? ≠ some .dot := by
  cases op <;> simp [MatchOp.tokens]

/-- An operand holds nothing that ends the list that it is part of. -/
theorem Operand.not_mem {ts : List Token} (operand : Operand ts) : .comma ∉ ts ∧ .closing ∉ ts := by
  have inPath {us : List Token} (path : Path us) : .comma ∉ us ∧ .closing ∉ us := by
    induction path with
    | @part t isPart => cases t <;> first | cases isPart; done | simp
    | @dot t us isPart _ ih => cases t <;> first | cases isPart; done | simpa using ih
  cases operand with
  | text content => simp
  | mark => simp
  | path path => exact inPath path
  | negative path => simpa using inPath path

theorem readScalar_append {op : MatchOp} {value rest : List Token} (operand : Operand value)
    (stops : rest.head? ≠ some .dot) : readScalar op (value ++ rest) = some ([value], rest) := by
  have read := readOperand_append operand stops
  have plain : ∀ others, value ++ rest ≠ .keyword .not :: others := by
    intro others same
    rw [same, readOperand, readPath_keyword] at read
    · cases read
    all_goals simp
  rw [readScalar, read]
  · rfl
  · exact plain

theorem readSet_append {values : List (List Token)} (full : values ≠ [])
    (operands : ∀ value ∈ values, Operand value) (rest : List Token) :
    readSet (.opening :: ([.comma].intercalate values ++ [.closing]) ++ rest) =
      some (values, rest) := by
  have inside : ∀ t ∈ [Token.comma].intercalate values, (t != .closing) = true := by
    intro t mem
    rcases Text.mem_intercalate mem with comma | ⟨value, memValue, here⟩
    · rw [List.mem_singleton.mp comma]
      rfl
    · refine bne_iff_ne.mpr ?_
      rintro rfl
      exact (operands value memValue).not_mem.2 here
  have split : ([Token.comma].intercalate values).splitOn .comma = values :=
    List.splitOn_intercalate .comma (fun value mem => (operands value mem).not_mem.1) full
  have whole : ∀ value ∈ values, readOperand value = some (value, []) := by
    intro value mem
    have ends : ([] : List Token).head? ≠ some .dot := nofun
    have read := readOperand_append (operands value mem) ends
    rwa [List.append_nil] at read
  rw [List.cons_append, List.append_assoc, readSet, List.dropWhile_append_of_pos inside,
    List.takeWhile_append_of_pos inside]
  simpa [split] using whole

theorem readRange_append {low high rest : List Token} (first : Operand low) (second : Operand high)
    (stops : rest.head? ≠ some .dot) :
    readRange (low ++ .keyword .and :: high ++ rest) = some ([low, high], rest) := by
  have between : (Token.keyword .and :: (high ++ rest)).head? ≠ some .dot := by simp
  rw [List.append_assoc, List.cons_append, readRange, readOperand_append first between]
  simp only [readOperand_append second stops, Option.map_some]

theorem readClause_eq {subject rest behind : List Token} {op : MatchOp}
    {operands : List (List Token)} (path : Path subject)
    (read : readOperands op rest = some (operands, behind)) :
    readClause (subject ++ op.tokens ++ rest) = some (⟨subject, op, operands⟩, behind) := by
  rw [readClause, List.append_assoc, readPath_append path (head?_tokens op rest)]
  simp [readOp_append, read]

/-- A clause is read back, whatever stands behind it. -/
theorem readClause_append {ts rest : List Token} {c : Clause} (spelled : Spelled ts c)
    (stops : rest.head? ≠ some .dot) : readClause (ts ++ rest) = some (c, rest) := by
  cases spelled with
  | @scalar subject value op path shape operand =>
    have read : readOperands op (value ++ rest) = some ([value], rest) := by
      rw [readOperands, shape]
      exact readScalar_append operand stops
    simpa using readClause_eq path read
  | @isNot subject value path operand =>
    have read : readOperands .is (.keyword .not :: value ++ rest) =
        some ([.keyword .not :: value], rest) := by
      have shape : MatchOp.is.shape = .scalar := rfl
      rw [readOperands, shape]
      simp [readScalar, readOperand_append operand stops]
    simpa using readClause_eq path read
  | @set subject op values path shape full operands =>
    have read : readOperands op (.opening :: ([.comma].intercalate values ++ [.closing]) ++ rest) =
        some (values, rest) := by
      rw [readOperands, shape]
      exact readSet_append full operands rest
    simpa using readClause_eq path read
  | @range subject low high op path shape first second =>
    have read : readOperands op (low ++ .keyword .and :: high ++ rest) =
        some ([low, high], rest) := by
      rw [readOperands, shape]
      exact readRange_append first second stops
    simpa using readClause_eq path read

theorem Spelled.exists_cons {ts : List Token} {c : Clause} (spelled : Spelled ts c) :
    ∃ t rest, ts = t :: rest ∧ t.isPart = true := by
  have grown {subject : List Token} (path : Path subject) (first second : List Token) :
      ∃ t rest, subject ++ first ++ second = t :: rest ∧ t.isPart = true := by
    obtain ⟨t, rest, rfl, isPart⟩ := path.exists_cons
    exact ⟨t, rest ++ first ++ second, rfl, isPart⟩
  cases spelled with
  | scalar path _ _ => exact grown path _ _
  | isNot path _ => exact grown path _ _
  | set path _ _ _ => exact grown path _ _
  | range path _ _ _ => exact grown path _ _

/-! ## Predicates -/

/-- Reads as much of a predicate as the level allows. Fuel is spent on every level and token. -/
def readAt : Nat → Level → List Token → Option (Predicate × List Token)
  | 0, _, _ => none
  | fuel + 1, .factor, .opening :: ts =>
    match readAt fuel (.chain .or) ts with
    | some (p, .closing :: rest) => some (p, rest)
    | _ => none
  | _ + 1, .factor, ts => (readClause ts).map fun (c, rest) => (.clause c, rest)
  | fuel + 1, .chain logic, ts =>
    match readAt fuel logic.below ts with
    | none => none
    | some (p, []) => some (p, [])
    | some (p, t :: rest) =>
      if t = logic.token then
        (readAt fuel (.chain logic) rest).map fun (q, behind) => (.join logic p q, behind)
      else some (p, t :: rest)

namespace Level

/-- The tokens with which a predicate of a level would go on. -/
def goesOn : Level → Token → Bool
  | factor, t => t = .dot
  | chain .and, t => t = .dot || t = .keyword .and
  | chain .or, t => t = .dot || t = .keyword .and || t = .keyword .or

/-- What is left ends a predicate of a level. -/
def Stops (level : Level) (rest : List Token) : Prop :=
  ∀ t, rest.head? = some t → level.goesOn t = false

/-- The steps that a reader takes through the levels before it takes a token. -/
def height : Level → Nat
  | factor => 1
  | chain .and => 2
  | chain .or => 3

theorem height_below (logic : Logic) : (chain logic).height = logic.below.height + 1 := by
  cases logic <;> rfl

theorem height_pos (level : Level) : 0 < level.height := by
  cases level with
  | factor => decide
  | chain logic => rw [height_below]; omega

theorem fuel_ne_zero (level : Level) {size fuel : Nat} (enough : size + level.height ≤ fuel) :
    fuel ≠ 0 := by
  have positive := level.height_pos
  omega

theorem goesOn_token (logic : Logic) : (chain logic).goesOn logic.token = true := by
  cases logic <;> rfl

theorem Stops.head_ne_dot {level : Level} {rest : List Token} (stops : level.Stops rest) :
    rest.head? ≠ some .dot := by
  intro head
  have ends := stops .dot head
  cases level with
  | factor => cases ends
  | chain logic => cases logic <;> cases ends

/-- What ends a chain ends the pieces of it. -/
theorem Stops.below {logic : Logic} {rest : List Token} (stops : (chain logic).Stops rest) :
    logic.below.Stops rest := by
  intro t head
  have ends := stops t head
  cases logic with
  | and => exact (Bool.or_eq_false_iff.mp ends).1
  | or => exact (Bool.or_eq_false_iff.mp ends).1

theorem stops_nil (level : Level) : level.Stops [] := by
  intro t head
  cases head

theorem stops_closing (level : Level) (rest : List Token) : level.Stops (.closing :: rest) := by
  intro t head
  cases head
  cases level with
  | factor => rfl
  | chain logic => cases logic <;> rfl

/-- The connective itself ends each of its pieces. -/
theorem stops_token (logic : Logic) (rest : List Token) :
    logic.below.Stops (logic.token :: rest) := by
  intro t head
  cases head
  cases logic <;> rfl

end Level

theorem readAt_factor {t : Token} (isPart : t.isPart = true) (fuel : Nat) (rest : List Token) :
    readAt (fuel + 1) .factor (t :: rest) =
      (readClause (t :: rest)).map fun (c, behind) => (.clause c, behind) := by
  cases t <;> first | rfl | cases isPart

/-- Every derivation is found, whatever stands behind it. -/
theorem readAt_append {level : Level} {ts : List Token} {p : Predicate}
    (derives : Derives level ts p) {rest : List Token} (stops : level.Stops rest) {fuel : Nat}
    (enough : 3 * ts.length + level.height ≤ fuel) :
    readAt fuel level (ts ++ rest) = some (p, rest) := by
  induction derives generalizing rest fuel with
  | @clause ts c spelled =>
    obtain ⟨fuel, rfl⟩ := Nat.exists_eq_add_one_of_ne_zero (Level.factor.fuel_ne_zero enough)
    have read := readClause_append spelled stops.head_ne_dot
    obtain ⟨t, others, rfl, isPart⟩ := spelled.exists_cons
    rw [List.cons_append] at read ⊢
    rw [readAt_factor isPart, read]
    rfl
  | @parenthesized ts p _ ih =>
    obtain ⟨fuel, rfl⟩ := Nat.exists_eq_add_one_of_ne_zero (Level.factor.fuel_ne_zero enough)
    have inner : readAt fuel (.chain .or) (ts ++ .closing :: rest) =
        some (p, .closing :: rest) := by
      refine ih (Level.stops_closing _ _) ?_
      simp only [List.length_cons, List.length_append, List.length_nil, Level.height] at enough ⊢
      omega
    rw [List.cons_append, List.append_assoc, List.singleton_append, readAt, inner]
  | @single logic ts p _ ih =>
    obtain ⟨fuel, rfl⟩ := Nat.exists_eq_add_one_of_ne_zero ((Level.chain logic).fuel_ne_zero enough)
    have piece : readAt fuel logic.below (ts ++ rest) = some (p, rest) := by
      refine ih stops.below ?_
      rw [Level.height_below] at enough
      omega
    rw [readAt, piece]
    cases rest with
    | nil => rfl
    | cons t behind =>
      have other : t ≠ logic.token := by
        rintro rfl
        have ends := stops logic.token rfl
        rw [Level.goesOn_token] at ends
        cases ends
      exact if_neg other
  | @join logic ts us p q _ _ first second =>
    obtain ⟨fuel, rfl⟩ := Nat.exists_eq_add_one_of_ne_zero ((Level.chain logic).fuel_ne_zero enough)
    have height := Level.height_below logic
    rw [List.length_append, List.length_cons] at enough
    have piece : readAt fuel logic.below (ts ++ logic.token :: (us ++ rest)) =
        some (p, logic.token :: (us ++ rest)) :=
      first (Level.stops_token logic _) (by omega)
    have others : readAt fuel (.chain logic) (us ++ rest) = some (q, rest) :=
      second stops (by omega)
    rw [List.append_assoc, List.cons_append, readAt, piece]
    simp only [if_pos, others, Option.map_some]

/-! ## Nothing else is read -/

theorem path_of_readPath {ts path rest : List Token} (read : readPath ts = some (path, rest)) :
    ts = path ++ rest ∧ Path path := by
  fun_induction readPath ts generalizing path with
  | case1 t ts isPart ih =>
    obtain ⟨⟨inner, behind⟩, readInner, same⟩ := Option.map_eq_some_iff.mp read
    cases same
    obtain ⟨spelled, path⟩ := ih readInner
    exact ⟨by rw [spelled]; rfl, .dot isPart path⟩
  | case2 => cases read
  | case3 t ts _ isPart =>
    cases read
    exact ⟨rfl, .part isPart⟩
  | case4 => cases read
  | case5 => cases read

theorem operand_of_readOperand {ts value rest : List Token}
    (read : readOperand ts = some (value, rest)) : ts = value ++ rest ∧ Operand value := by
  unfold readOperand at read
  split at read
  next content _ =>
    cases read
    exact ⟨rfl, .text content⟩
  next =>
    cases read
    exact ⟨rfl, .mark⟩
  next =>
    obtain ⟨⟨path, behind⟩, readInner, same⟩ := Option.map_eq_some_iff.mp read
    cases same
    obtain ⟨spelled, path⟩ := path_of_readPath readInner
    exact ⟨by rw [spelled]; rfl, .negative path⟩
  next =>
    obtain ⟨spelled, path⟩ := path_of_readPath read
    exact ⟨spelled, .path path⟩

theorem eq_of_readOp {ts rest : List Token} {op : MatchOp} (read : readOp ts = some (op, rest)) :
    ts = op.tokens ++ rest := by
  unfold readOp at read
  split at read
  next cs behind =>
    obtain ⟨other, found, same⟩ := Option.map_eq_some_iff.mp read
    cases same
    have symbol : op.tokens = [.symbol cs] := by simpa using List.find?_some found
    rw [symbol]
    rfl
  all_goals
    cases read
    try rfl

theorem values_of_readScalar {op : MatchOp} {ts rest : List Token} {values : List (List Token)}
    (read : readScalar op ts = some (values, rest)) :
    (∃ value, values = [value] ∧ ts = value ++ rest ∧ Operand value) ∨
      ∃ value, op = .is ∧ values = [.keyword .not :: value] ∧
        ts = .keyword .not :: value ++ rest ∧ Operand value := by
  unfold readScalar at read
  split at read
  next behind =>
    split at read
    next isOp =>
      obtain ⟨⟨value, others⟩, readValue, same⟩ := Option.map_eq_some_iff.mp read
      cases same
      obtain ⟨spelled, operand⟩ := operand_of_readOperand readValue
      exact .inr ⟨value, isOp, rfl, by rw [spelled]; rfl, operand⟩
    next => cases read
  next =>
    obtain ⟨⟨value, others⟩, readValue, same⟩ := Option.map_eq_some_iff.mp read
    cases same
    obtain ⟨spelled, operand⟩ := operand_of_readOperand readValue
    exact .inl ⟨value, rfl, spelled, operand⟩

theorem values_of_readSet {ts rest : List Token} {values : List (List Token)}
    (read : readSet ts = some (values, rest)) :
    ts = .opening :: ([.comma].intercalate values ++ [.closing]) ++ rest ∧ values ≠ [] ∧
      ∀ value ∈ values, Operand value := by
  unfold readSet at read
  split at read
  next others =>
    simp only at read
    split at read
    next => cases read
    next t behind dropped =>
      split at read
      next each =>
        cases read
        obtain rfl : t = .closing := by
          have head := List.head?_dropWhile_not (· != .closing) others
          rw [dropped] at head
          simpa using head
        have spelled : others = [.comma].intercalate
            ((others.takeWhile (· != .closing)).splitOn .comma) ++ .closing :: rest := by
          rw [List.intercalate_splitOn, ← dropped, List.takeWhile_append_dropWhile]
        refine ⟨?_, List.splitOn_ne_nil _ _, fun value mem => ?_⟩
        · rw [List.cons_append, List.append_assoc, List.singleton_append, ← spelled]
        · have whole := List.all_eq_true.mp each value mem
          exact (operand_of_readOperand (of_decide_eq_true whole)).2
      next => cases read
  next => cases read

theorem values_of_readRange {ts rest : List Token} {values : List (List Token)}
    (read : readRange ts = some (values, rest)) :
    ∃ low high, values = [low, high] ∧ ts = low ++ .keyword .and :: high ++ rest ∧
      Operand low ∧ Operand high := by
  unfold readRange at read
  split at read
  next low behind first =>
    obtain ⟨⟨high, end'⟩, second, same⟩ := Option.map_eq_some_iff.mp read
    cases same
    obtain ⟨spelledLow, operandLow⟩ := operand_of_readOperand first
    obtain ⟨spelledHigh, operandHigh⟩ := operand_of_readOperand second
    refine ⟨low, high, rfl, ?_, operandLow, operandHigh⟩
    rw [spelledLow, spelledHigh, List.append_assoc, List.cons_append]
  next => cases read

/-- What the reader takes as a clause is one. -/
theorem clause_of_readClause {ts rest : List Token} {c : Clause}
    (read : readClause ts = some (c, rest)) : ∃ used, ts = used ++ rest ∧ Spelled used c := by
  unfold readClause at read
  obtain ⟨⟨subject, behind⟩, readSubject, read⟩ := Option.bind_eq_some_iff.mp read
  obtain ⟨⟨op, behind'⟩, readSymbol, read⟩ := Option.bind_eq_some_iff.mp read
  obtain ⟨⟨operands, behind''⟩, readValues, same⟩ := Option.bind_eq_some_iff.mp read
  cases same
  obtain ⟨rfl, path⟩ := path_of_readPath readSubject
  obtain rfl := eq_of_readOp readSymbol
  unfold readOperands at readValues
  cases shape : op.shape with
  | scalar =>
    rw [shape] at readValues
    rcases values_of_readScalar readValues with
      ⟨value, rfl, rfl, operand⟩ | ⟨value, rfl, rfl, rfl, operand⟩
    · exact ⟨_, by simp, .scalar path shape operand⟩
    · exact ⟨_, by simp, .isNot path operand⟩
  | set =>
    rw [shape] at readValues
    obtain ⟨rfl, full, each⟩ := values_of_readSet readValues
    exact ⟨_, by simp, .set path shape full each⟩
  | range =>
    rw [shape] at readValues
    obtain ⟨low, high, rfl, rfl, first, second⟩ := values_of_readRange readValues
    exact ⟨_, by simp, .range path shape first second⟩

/-- What the reader takes as a predicate of a level is one. -/
theorem derives_of_readAt {fuel : Nat} {level : Level} {ts rest : List Token} {p : Predicate}
    (read : readAt fuel level ts = some (p, rest)) :
    ∃ used, ts = used ++ rest ∧ Derives level used p := by
  fun_induction readAt fuel level ts generalizing p rest with
  | case1 => cases read
  | case2 fuel ts p' rest' inner ih =>
    cases read
    obtain ⟨used, rfl, derives⟩ := ih inner
    exact ⟨_, by simp, .parenthesized derives⟩
  | case3 => cases read
  | case4 fuel ts _ =>
    obtain ⟨⟨c, behind⟩, readFirst, same⟩ := Option.map_eq_some_iff.mp read
    cases same
    obtain ⟨used, spelledUsed, spelled⟩ := clause_of_readClause readFirst
    exact ⟨used, spelledUsed, .clause spelled⟩
  | case5 => cases read
  | case6 fuel logic ts p' piece ih =>
    cases read
    obtain ⟨used, spelledUsed, derives⟩ := ih piece
    exact ⟨used, spelledUsed, .single derives⟩
  | case7 fuel logic ts p' behind piece ihPiece ihOthers =>
    obtain ⟨⟨q, behind'⟩, others, same⟩ := Option.map_eq_some_iff.mp read
    cases same
    obtain ⟨first, rfl, derivesFirst⟩ := ihPiece piece
    obtain ⟨second, rfl, derivesSecond⟩ := ihOthers others
    exact ⟨_, by simp, .join derivesFirst derivesSecond⟩
  | case8 fuel logic ts p' t behind piece _ ih =>
    cases read
    obtain ⟨used, spelledUsed, derives⟩ := ih piece
    exact ⟨used, spelledUsed, .single derives⟩

/-! ## One reading -/

/-- The predicate that tokens are. -/
def read? (ts : List Token) : Option Predicate :=
  match readAt (3 * ts.length + 3) (.chain .or) ts with
  | some (p, []) => some p
  | _ => none

/-- The reader decides the grammar. -/
theorem read?_eq_some_iff {ts : List Token} {p : Predicate} :
    read? ts = some p ↔ Derives (.chain .or) ts p := by
  unfold read?
  constructor
  · intro read
    split at read
    next whole =>
      cases read
      obtain ⟨used, spelled, derives⟩ := derives_of_readAt whole
      rw [spelled, List.append_nil]
      exact derives
    next => cases read
  · intro derives
    have enough : 3 * ts.length + (Level.chain .or).height ≤ 3 * ts.length + 3 := Nat.le_refl _
    have read := readAt_append derives (Level.stops_nil _) enough
    rw [List.append_nil] at read
    rw [read]

/-- The predicate that a text is. -/
def Predicate.ofText? (s : String) : Option Predicate :=
  (tokenize? s).bind read?

theorem Predicate.ofText?_eq_some_iff {s : String} {p : Predicate} :
    ofText? s = some p ↔ Parses s p := by
  unfold ofText? Parses
  rw [Option.bind_eq_some_iff]
  exact exists_congr fun ts => and_congr_right fun _ => read?_eq_some_iff

-- AND binds tighter than OR, and the AND of BETWEEN belongs to the clause.
example : Predicate.ofText? "a = 1 OR b = 2 AND c BETWEEN 3 AND 4" =
    some (.join .or (.clause ⟨[.word ['a']], .equal, [[.word ['1']]]⟩)
      (.join .and (.clause ⟨[.word ['b']], .equal, [[.word ['2']]]⟩)
        (.clause ⟨[.word ['c']], .between, [[.word ['3']], [.word ['4']]]⟩))) := by rfl

/-- A text is one predicate at most. -/
theorem Parses.unique {s : String} {p q : Predicate} (first : Parses s p) (second : Parses s q) :
    p = q := by
  rw [← Predicate.ofText?_eq_some_iff] at first second
  exact Option.some.inj (first.symm.trans second)

end Clausal.Sql
