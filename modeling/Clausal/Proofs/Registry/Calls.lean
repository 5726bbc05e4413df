import Clausal.Registry
/-!
# Calls on a registry

A registry is used by registering names and by asking for them, in any order. As long as a name is
not registered anew, what it stands for changes by the answers alone: the first executor that is
opened is kept, and an attempt that fails leaves nothing behind.
-/

namespace Clausal.Registry

variable {σ ε : Type}

/-! ## Asking once -/

theorem get_of_none {registry : Registry σ ε} {name : String}
    (unknown : registry.sources.find? name = none) (state : σ) :
    registry.get name state = ((.error (.unknownDatabase name), registry), state) := by
  unfold get
  rw [unknown]
  rfl

theorem get_of_getter {registry : Registry σ ε} {name : String} {getter : Run σ ε}
    (known : registry.sources.find? name = some (.getter getter)) (state : σ) :
    registry.get name state = (((getter state).1, registry), (getter state).2) := by
  unfold get
  rw [known]
  rfl

theorem get_of_opened {registry : Registry σ ε} {name : String} {opening : Run σ ε} {executor : ε}
    (known : registry.sources.find? name = some (.pool opening (some executor))) (state : σ) :
    registry.get name state = ((.ok executor, registry), state) := by
  unfold get
  rw [known]
  rfl

theorem get_of_opens {registry : Registry σ ε} {name : String} {opening : Run σ ε}
    (known : registry.sources.find? name = some (.pool opening none)) {state state' : σ}
    {executor : ε} (opens : opening state = (.ok executor, state')) :
    registry.get name state =
      ((.ok executor, registry.set name (.pool opening (some executor))), state') := by
  unfold get
  rw [known]
  simp only [bind, StateT.bind, ExceptT.run, opens]
  rfl

theorem get_of_fails {registry : Registry σ ε} {name : String} {opening : Run σ ε}
    (known : registry.sources.find? name = some (.pool opening none)) {state state' : σ}
    {e : Error} (fails : opening state = (.error e, state')) :
    registry.get name state = ((.error e, registry), state') := by
  unfold get
  rw [known]
  simp only [bind, StateT.bind, ExceptT.run, fails]
  rfl

end Clausal.Registry

namespace Clausal

variable {σ ε : Type}

namespace Source

/-- What an answer leaves of a source. -/
def after : Source σ ε → Except Error ε → Source σ ε
  | .pool opening none, .ok executor => .pool opening (some executor)
  | source, _ => source

/-- What several answers leave of a source. -/
def afterAll (source : Source σ ε) (answers : List (Except Error ε)) : Source σ ε :=
  answers.foldl after source

theorem afterAll_getter (getter : Run σ ε) (answers : List (Except Error ε)) :
    (Source.getter getter).afterAll answers = .getter getter := by
  induction answers with
  | nil => rfl
  | cons outcome rest ih => exact ih

/-- A pool that is opened stays as it is. -/
theorem afterAll_opened (opening : Run σ ε) (executor : ε) (answers : List (Except Error ε)) :
    (Source.pool opening (some executor)).afterAll answers = .pool opening (some executor) := by
  induction answers with
  | nil => rfl
  | cons outcome rest ih => exact ih

/-- A pool that could not be opened is still to be opened. -/
theorem afterAll_unopened (opening : Run σ ε) {answers : List (Except Error ε)}
    (failed : ∀ outcome ∈ answers, ∃ e, outcome = .error e) :
    (Source.pool opening none).afterAll answers = .pool opening none := by
  induction answers with
  | nil => rfl
  | cons outcome rest ih =>
    obtain ⟨e, rfl⟩ := failed outcome List.mem_cons_self
    exact ih fun other mem => failed other (List.mem_cons_of_mem _ mem)

/-- A pool stays a pool. -/
theorem exists_afterAll_pool (opening : Run σ ε) (opened : Option ε)
    (answers : List (Except Error ε)) :
    ∃ opened', (Source.pool opening opened).afterAll answers = .pool opening opened' := by
  induction answers generalizing opened with
  | nil => exact ⟨opened, rfl⟩
  | cons outcome rest ih =>
    rcases opened with - | executor
    · rcases outcome with e | executor
      · exact ih none
      · exact ih (some executor)
    · exact ih (some executor)

end Source

namespace Registry

/-- Asking leaves a registry as it is, unless it opens a pool. -/
theorem get_cases (registry : Registry σ ε) (name : String) (state : σ) :
    (registry.get name state).1.2 = registry ∧
        (registry.sources.find? name).map (·.after (registry.get name state).1.1) =
          registry.sources.find? name ∨
      ∃ opening executor, registry.sources.find? name = some (.pool opening none) ∧
        (registry.get name state).1 =
          (.ok executor, registry.set name (.pool opening (some executor))) := by
  rcases known : registry.sources.find? name with - | getter | ⟨opening, - | executor⟩
  · rw [get_of_none known]
    exact .inl ⟨rfl, rfl⟩
  · rw [get_of_getter known]
    exact .inl ⟨rfl, rfl⟩
  · rcases tried : opening state with ⟨e | executor, state'⟩
    · rw [get_of_fails known tried]
      exact .inl ⟨rfl, rfl⟩
    · rw [get_of_opens known tried]
      exact .inr ⟨opening, executor, rfl, rfl⟩
  · rw [get_of_opened known]
    exact .inl ⟨rfl, rfl⟩

theorem find?_get (registry : Registry σ ε) (name other : String) (state : σ) :
    (registry.get name state).1.2.sources.find? other =
      if name = other then
        (registry.sources.find? other).map (·.after (registry.get name state).1.1)
      else registry.sources.find? other := by
  rcases registry.get_cases name state with ⟨same, kept⟩ | ⟨opening, executor, known, opened⟩
  · rw [same]
    split
    · next this => rw [← this, kept]
    · rfl
  · rw [opened, set, SortedMap.find?_insert]
    split
    · next this => rw [← this, known]; rfl
    · rfl

/-- A look-up that fails leaves nothing behind. -/
theorem get_of_error {registry : Registry σ ε} {name : String} {state : σ} {e : Error}
    (failed : (registry.get name state).1.1 = .error e) :
    (registry.get name state).1.2 = registry := by
  rcases registry.get_cases name state with ⟨same, -⟩ | ⟨opening, executor, -, opened⟩
  · exact same
  · rw [opened] at failed
    cases failed

/-! ## Runs -/

/-- What is called on a registry. Between calls the surroundings change by themselves. -/
inductive Call (σ ε : Type) where
  | register (name : String) (getter : Run σ ε)
  | registerExecutor (name : String) (executor : ε)
  | registerDatabase (d : Database)
  | get (name : String)
  | meanwhile (change : σ → σ)

/-- The name that a call registers. -/
def Call.registers? : Call σ ε → Option String
  | register name _ => some name
  | registerExecutor name _ => some name
  | registerDatabase d => some d.name
  | get _ => none
  | meanwhile _ => none

/-- The answer for a name, if the call asks for it. -/
def Call.answers (name : String) (reached : Registry σ ε × σ) : Call σ ε → List (Except Error ε)
  | get other => if other = name then [(reached.1.get name reached.2).1.1] else []
  | _ => []

theorem Call.eq_get_of_mem_answers {name : String} {reached : Registry σ ε × σ}
    {call : Call σ ε} {outcome : Except Error ε} (answered : outcome ∈ call.answers name reached) :
    call = .get name ∧ outcome = (reached.1.get name reached.2).1.1 := by
  cases call with
  | get other =>
    rw [answers] at answered
    split at answered
    · next same => exact ⟨congrArg get same, List.mem_singleton.mp answered⟩
    · cases answered
  | _ => cases answered

/-- No call registers a name. -/
def Unregistered (calls : List (Call σ ε)) (name : String) : Prop :=
  ∀ call ∈ calls, call.registers? ≠ some name

instance (calls : List (Call σ ε)) (name : String) : Decidable (Unregistered calls name) :=
  inferInstanceAs (Decidable (∀ call ∈ calls, call.registers? ≠ some name))

section

variable (connect : String → PoolSettings → Run σ ε)

/-- Makes a call on a registry. -/
def perform (reached : Registry σ ε × σ) : Call σ ε → Registry σ ε × σ
  | .register name getter => (reached.1.register name getter, reached.2)
  | .registerExecutor name executor => (reached.1.registerExecutor name executor, reached.2)
  | .registerDatabase d => (reached.1.registerDatabase connect d, reached.2)
  | .get name => ((reached.1.get name reached.2).1.2, (reached.1.get name reached.2).2)
  | .meanwhile change => (reached.1, change reached.2)

/-- Makes one call after another. -/
def performAll (calls : List (Call σ ε)) (start : Registry σ ε × σ) : Registry σ ε × σ :=
  calls.foldl (perform connect) start

/-- The answers for a name that are given during calls. -/
def answers (name : String) : List (Call σ ε) → Registry σ ε × σ → List (Except Error ε)
  | [], _ => []
  | call :: rest, reached =>
    call.answers name reached ++ answers name rest (perform connect reached call)

variable {name : String}

theorem find?_perform {call : Call σ ε} (other : call.registers? ≠ some name)
    (reached : Registry σ ε × σ) :
    (perform connect reached call).1.sources.find? name =
      (reached.1.sources.find? name).map (·.afterAll (call.answers name reached)) := by
  have replaced {known : String} (registered : call.registers? = some known)
      (source : Source σ ε) :
      (reached.1.set known source).sources.find? name = reached.1.sources.find? name := by
    have differs : known ≠ name := fun same => other (registered.trans (congrArg some same))
    rw [set, SortedMap.find?_insert, if_neg differs]
  have unchanged : (reached.1.sources.find? name).map (·.afterAll []) =
    reached.1.sources.find? name := Option.map_id'
  cases call with
  | register known getter => exact (replaced rfl _).trans unchanged.symm
  | registerExecutor known executor => exact (replaced rfl _).trans unchanged.symm
  | registerDatabase d => exact (replaced rfl _).trans unchanged.symm
  | get known =>
    rw [perform, find?_get, Call.answers]
    split
    · next same => subst same; rfl
    · exact unchanged.symm
  | meanwhile change => exact unchanged.symm

/-- What a name stands for changes by the answers alone, as long as it is not registered. -/
theorem find?_performAll {calls : List (Call σ ε)} (unregistered : Unregistered calls name)
    (reached : Registry σ ε × σ) :
    (performAll connect calls reached).1.sources.find? name =
      (reached.1.sources.find? name).map (·.afterAll (answers connect name calls reached)) := by
  induction calls generalizing reached with
  | nil => exact Option.map_id'.symm
  | cons call rest ih =>
    obtain ⟨other, others⟩ := List.forall_mem_cons.mp unregistered
    rw [performAll, List.foldl_cons, ← performAll, ih others, find?_perform connect other,
      Option.map_map]
    refine congrArg (Option.map · (reached.1.sources.find? name)) ?_
    funext source
    exact List.foldl_append.symm

/-- After an answer that opened a pool, the executor is kept. -/
theorem find?_performAll_opened {calls : List (Call σ ε)} (unregistered : Unregistered calls name)
    {reached : Registry σ ε × σ} {opening : Run σ ε} {opened : Option ε}
    (known : reached.1.sources.find? name = some (.pool opening opened)) {executor : ε}
    (answered : .ok executor ∈ answers connect name calls reached) :
    (performAll connect calls reached).1.sources.find? name =
      some (.pool opening (some executor)) := by
  induction calls generalizing reached opened with
  | nil => cases answered
  | cons call rest ih =>
    obtain ⟨other, others⟩ := List.forall_mem_cons.mp unregistered
    have next := find?_perform connect other reached
    rw [known, Option.map_some] at next
    rw [performAll, List.foldl_cons, ← performAll]
    rcases List.mem_append.mp answered with here | later
    · obtain ⟨rfl, gave⟩ := Call.eq_get_of_mem_answers here
      -- The pool is opened now, or was so before and has given what it keeps.
      have opens : (perform connect reached (.get name)).1.sources.find? name =
          some (.pool opening (some executor)) := by
        rw [next, Call.answers, if_pos rfl, ← gave]
        rcases opened with - | kept
        · rfl
        · rw [get_of_opened known] at gave
          cases gave
          rfl
      rw [find?_performAll connect others, opens, Option.map_some, Source.afterAll_opened]
    · obtain ⟨opened', stays⟩ := Source.exists_afterAll_pool opening opened
        (call.answers name reached)
      rw [stays] at next
      exact ih others next later

theorem performAll_append (before after : List (Call σ ε)) (start : Registry σ ε × σ) :
    performAll connect (before ++ after) start =
      performAll connect after (performAll connect before start) :=
  List.foldl_append

end

end Registry

end Clausal
