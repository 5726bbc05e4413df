import Clausal.Proofs.Last
import Clausal.Proofs.Registry.Calls
import Clausal.Proofs.SortedMap
/-!
# What a name stands for

What a name stands for depends on its last registration and, where that is a database, on the
answers given since then. A configuration finds the database of a name from the end, a registry by
letting later ones replace earlier ones; both come to the same database, and its pool is opened with
the settings that this database wishes for.
-/

namespace Clausal

/-! ## Pools of databases -/

namespace Database

/-- The settings that a database wishes for its pool: as many connections as it says, no more of
them idle than there may be, and a lifetime unless it says zero. -/
structure Pooled (d : Database) (settings : PoolSettings) : Prop where
  connections : settings.maxConnections = d.maxConnections
  idle : settings.minIdle.toNat = min d.maxIdle.toNat d.maxConnections.toNat
  lifetime (seconds : UInt64) :
    settings.maxLifetime = some seconds ↔ d.maxLifetime = seconds ∧ seconds ≠ 0

theorem toNat_minIdle (d : Database) :
    d.poolSettings.minIdle.toNat = min d.maxIdle.toNat d.maxConnections.toNat := by
  change (min d.maxIdle d.maxConnections).toNat = _
  rw [Std.min_eq_if (a := d.maxIdle)]
  split
  next le =>
    rw [UInt32.le_iff_toNat_le] at le
    omega
  next gt =>
    rw [UInt32.le_iff_toNat_le] at gt
    omega

theorem maxLifetime_eq_some_iff (d : Database) (seconds : UInt64) :
    d.poolSettings.maxLifetime = some seconds ↔ d.maxLifetime = seconds ∧ seconds ≠ 0 := by
  rw [poolSettings]
  by_cases endless : d.maxLifetime = 0
  · rw [if_pos endless, endless]
    exact ⟨nofun, fun ⟨same, lasting⟩ => absurd same.symm lasting⟩
  · rw [if_neg endless, Option.some.injEq]
    exact ⟨fun same => ⟨same, same ▸ endless⟩, And.left⟩

/-- There is one way to open the pool of a database. -/
theorem pooled_iff {d : Database} {settings : PoolSettings} :
    d.Pooled settings ↔ settings = d.poolSettings := by
  constructor
  · intro pooled
    obtain ⟨connections, idle, lifetime⟩ := settings
    obtain rfl : connections = d.poolSettings.maxConnections := pooled.connections
    obtain rfl : idle = d.poolSettings.minIdle :=
      UInt32.toNat_inj.mp (pooled.idle.trans d.toNat_minIdle.symm)
    obtain rfl : lifetime = d.poolSettings.maxLifetime := Option.ext fun seconds =>
      (pooled.lifetime seconds).trans (d.maxLifetime_eq_some_iff seconds).symm
    rfl
  · rintro rfl
    exact ⟨rfl, d.toNat_minIdle, d.maxLifetime_eq_some_iff⟩

end Database

namespace Registry

variable {σ ε : Type}

/-! ## The last registration -/

/-- A name is registered by no call, or some call is the last to register it. -/
theorem unregistered_or_last (calls : List (Call σ ε)) (name : String) :
    Unregistered calls name ∨ ∃ before call after, calls = before ++ call :: after ∧
      call.registers? = some name ∧ Unregistered after name := by
  cases found : calls.reverse.find? (fun call => call.registers? == some name) with
  | none =>
    refine .inl fun call mem => ?_
    have none := List.find?_eq_none.mp found call (List.mem_reverse.mpr mem)
    simpa using none
  | some call =>
    obtain ⟨before, after, rfl, registers, none⟩ := reverse_find?_eq_some_iff.mp found
    exact .inr ⟨before, call, after, rfl, by simpa using registers,
      fun other mem => by simpa using none other mem⟩

section

variable (connect : String → PoolSettings → Run σ ε)

/-- What a look-up is. -/
def lookUp (registry : Registry σ ε) (name : String) : Run σ ε :=
  fun state => ((registry.get name state).1.1, (registry.get name state).2)

/-- What the last registration of a name gives after calls on an empty registry. Of a database it
depends on the answers since its registration. -/
inductive Latest (calls : List (Call σ ε)) (start : σ) (name : String) : Run σ ε → Prop
  | getter {before after : List (Call σ ε)} {getter : Run σ ε} :
    calls = before ++ .register name getter :: after → Unregistered after name →
    Latest calls start name getter
  | executor {before after : List (Call σ ε)} {executor : ε} :
    calls = before ++ .registerExecutor name executor :: after → Unregistered after name →
    Latest calls start name (pure executor)
  | opens {before after : List (Call σ ε)} {d : Database} {settings : PoolSettings} :
    calls = before ++ .registerDatabase d :: after → d.name = name → Unregistered after name →
    (∀ outcome ∈ answers connect name after
      (performAll connect (before ++ [.registerDatabase d]) ({}, start)), ∃ e, outcome = .error e) →
    d.Pooled settings → Latest calls start name (connect d.dsn settings)
  | keeps {before after : List (Call σ ε)} {d : Database} {executor : ε} :
    calls = before ++ .registerDatabase d :: after → d.name = name → Unregistered after name →
    .ok executor ∈ answers connect name after
      (performAll connect (before ++ [.registerDatabase d]) ({}, start)) →
    Latest calls start name (pure executor)

/-- What a look-up of a name is after calls on an empty registry: what the last registration of the
name gives, or a failure if there is none. -/
inductive Resolves (calls : List (Call σ ε)) (start : σ) (name : String) : Run σ ε → Prop
  | unknown : Unregistered calls name →
    Resolves calls start name (throw (.unknownDatabase name))
  | latest {run : Run σ ε} : Latest connect calls start name run → Resolves calls start name run

variable {name : String} {registry : Registry σ ε}

theorem lookUp_of_none (unknown : registry.sources.find? name = none) :
    registry.lookUp name = throw (.unknownDatabase name) := by
  funext state
  rw [lookUp, get_of_none unknown]
  rfl

theorem lookUp_of_getter {getter : Run σ ε}
    (known : registry.sources.find? name = some (.getter getter)) :
    registry.lookUp name = getter := by
  funext state
  rw [lookUp, get_of_getter known]
  rfl

theorem lookUp_of_opened {opening : Run σ ε} {executor : ε}
    (known : registry.sources.find? name = some (.pool opening (some executor))) :
    registry.lookUp name = pure executor := by
  funext state
  rw [lookUp, get_of_opened known]
  rfl

theorem lookUp_of_unopened {opening : Run σ ε}
    (known : registry.sources.find? name = some (.pool opening none)) :
    registry.lookUp name = opening := by
  funext state
  rcases tried : opening state with ⟨e | executor, state'⟩
  · rw [lookUp, get_of_fails known tried]
  · rw [lookUp, get_of_opens known tried]

/-- What the last registration of a name has set, and the answers since then, are what counts. -/
theorem find?_of_last (call : Call σ ε) (source : Source σ ε)
    (sets : ∀ reached, perform connect reached call = (reached.1.set name source, reached.2))
    {calls before after : List (Call σ ε)} (split : calls = before ++ call :: after)
    (unregistered : Unregistered after name) (start : Registry σ ε × σ) :
    (performAll connect calls start).1.sources.find? name =
      some (source.afterAll
        (answers connect name after (performAll connect (before ++ [call]) start))) := by
  have made : (performAll connect (before ++ [call]) start).1.sources.find? name = some source := by
    rw [performAll_append]
    change (perform connect _ call).1.sources.find? name = some source
    rw [sets, set, SortedMap.find?_insert, if_pos rfl]
  rw [split, List.append_cons, performAll_append, find?_performAll connect unregistered, made,
    Option.map_some]

/-- A name that no call registers has no source. -/
theorem find?_of_unregistered {calls : List (Call σ ε)} (unregistered : Unregistered calls name)
    (start : σ) : (performAll connect calls ({}, start)).1.sources.find? name = none := by
  rw [find?_performAll connect unregistered]
  rfl

variable {connect} in
/-- A look-up is what the last registration gives. -/
theorem Latest.lookUp_eq {calls : List (Call σ ε)} {start : σ} {run : Run σ ε}
    (latest : Latest connect calls start name run) :
    (performAll connect calls ({}, start)).1.lookUp name = run := by
  cases latest with
  | getter split unregistered =>
    have known := find?_of_last connect (.register name run) (.getter run) (fun _ => rfl) split
      unregistered ({}, start)
    rw [Source.afterAll_getter] at known
    exact lookUp_of_getter known
  | executor split unregistered =>
    have known := find?_of_last connect (.registerExecutor name _) (.getter (pure _)) (fun _ => rfl)
      split unregistered ({}, start)
    rw [Source.afterAll_getter] at known
    exact lookUp_of_getter known
  | @opens before after d settings split named unregistered failed pooled =>
    obtain rfl := Database.pooled_iff.mp pooled
    subst named
    have known := find?_of_last connect (.registerDatabase d)
      (.pool (connect d.dsn d.poolSettings) none) (fun _ => rfl) split unregistered ({}, start)
    rw [Source.afterAll_unopened _ failed] at known
    exact lookUp_of_unopened known
  | @keeps before after d executor split named unregistered answered =>
    subst named
    have here : Unregistered ([] : List (Call σ ε)) d.name := fun _ mem => nomatch mem
    have known := find?_of_last connect (.registerDatabase d)
      (.pool (connect d.dsn d.poolSettings) none) (fun _ => rfl)
      (rfl : before ++ [.registerDatabase d] = _) here ({}, start)
    have opened := find?_performAll_opened connect unregistered known answered
    rw [← performAll_append, ← List.append_cons, ← split] at opened
    exact lookUp_of_opened opened

variable {connect} in
/-- A look-up is what the calls before say. -/
theorem Resolves.lookUp_eq {calls : List (Call σ ε)} {start : σ} {run : Run σ ε}
    (resolves : Resolves connect calls start name run) :
    (performAll connect calls ({}, start)).1.lookUp name = run := by
  cases resolves with
  | unknown unregistered => exact lookUp_of_none (find?_of_unregistered connect unregistered start)
  | latest latest => exact latest.lookUp_eq

/-- Some rule says what a look-up is. -/
theorem resolves_lookUp (calls : List (Call σ ε)) (start : σ) (name : String) :
    Resolves connect calls start name ((performAll connect calls ({}, start)).1.lookUp name) := by
  suffices some : ∃ run, Resolves connect calls start name run by
    obtain ⟨run, resolves⟩ := some
    rw [resolves.lookUp_eq]
    exact resolves
  rcases unregistered_or_last calls name with unregistered | ⟨before, call, after, split, last⟩
  · exact ⟨_, .unknown unregistered⟩
  · obtain ⟨registers, unregistered⟩ := last
    cases call with
    | register other getter =>
      cases registers
      exact ⟨_, .latest (.getter split unregistered)⟩
    | registerExecutor other executor =>
      cases registers
      exact ⟨_, .latest (.executor split unregistered)⟩
    | registerDatabase d =>
      have named : d.name = name := Option.some.inj registers
      by_cases opened : ∃ executor, .ok executor ∈ answers connect name after
          (performAll connect (before ++ [.registerDatabase d]) ({}, start))
      · obtain ⟨executor, answered⟩ := opened
        exact ⟨_, .latest (.keeps split named unregistered answered)⟩
      · refine ⟨_, .latest (.opens split named unregistered (fun outcome answered => ?_)
          (Database.pooled_iff.mpr rfl))⟩
        rcases outcome with e | executor
        · exact ⟨e, rfl⟩
        · exact absurd ⟨executor, answered⟩ opened
    | get other => cases registers
    | meanwhile change => cases registers

/-! ## Names -/

theorem Call.exists_source {call : Call σ ε} (registers : call.registers? = some name) :
    ∃ source, ∀ reached, perform connect reached call = (reached.1.set name source, reached.2) := by
  cases call with
  | get other => cases registers
  | meanwhile change => cases registers
  | _ =>
    cases registers
    exact ⟨_, fun _ => rfl⟩

/-- The registered names are those with a source. -/
theorem mem_names_performAll (calls : List (Call σ ε)) (start : σ) :
    name ∈ (performAll connect calls ({}, start)).1.names ↔ ¬ Unregistered calls name := by
  rw [names, ← SortedMap.isSome_find?_iff]
  rcases unregistered_or_last calls name with unregistered | ⟨before, call, after, split, last⟩
  · rw [find?_of_unregistered connect unregistered]
    simp [unregistered]
  · obtain ⟨registers, unregistered⟩ := last
    obtain ⟨source, sets⟩ := call.exists_source connect registers
    rw [find?_of_last connect call source sets split unregistered]
    refine iff_of_true rfl fun none => none call ?_ registers
    rw [split]
    simp

theorem ascending_set {source : Source σ ε} (ascending : registry.names.Pairwise (· < ·)) :
    (registry.set name source).names.Pairwise (· < ·) :=
  SortedMap.ascending_insert ascending name source

/-- A call keeps the names in order. -/
theorem ascending_perform {reached : Registry σ ε × σ}
    (ascending : reached.1.names.Pairwise (· < ·)) (call : Call σ ε) :
    (perform connect reached call).1.names.Pairwise (· < ·) := by
  cases call with
  | get name =>
    rcases reached.1.get_cases name reached.2 with ⟨same, -⟩ | ⟨opening, executor, -, opened⟩
    · rw [perform, same]
      exact ascending
    · rw [perform, opened]
      exact ascending_set ascending
  | meanwhile change => exact ascending
  | _ => exact ascending_set ascending

theorem ascending_performAll (calls : List (Call σ ε)) {reached : Registry σ ε × σ}
    (ascending : reached.1.names.Pairwise (· < ·)) :
    (performAll connect calls reached).1.names.Pairwise (· < ·) := by
  induction calls generalizing reached with
  | nil => exact ascending
  | cons call rest ih => exact ih (ascending_perform connect ascending call)

/-! ## Configurations -/

/-- The databases of a configuration are registered one after another. -/
theorem performAll_databases (databases : List Database) (reached : Registry σ ε × σ) :
    performAll connect (databases.map .registerDatabase) reached =
      (databases.foldl (registerDatabase connect) reached.1, reached.2) := by
  induction databases generalizing reached with
  | nil => rfl
  | cons d rest ih => exact ih (reached.1.registerDatabase connect d, reached.2)

theorem answers_databases (databases : List Database) (reached : Registry σ ε × σ) :
    answers connect name (databases.map .registerDatabase) reached = [] := by
  induction databases generalizing reached with
  | nil => rfl
  | cons d rest ih => exact ih _

theorem unregistered_databases_iff {databases : List Database} :
    Unregistered (databases.map (Call.registerDatabase (σ := σ) (ε := ε))) name ↔
      ∀ d ∈ databases, d.name ≠ name := by
  simp [Unregistered, Call.registers?]

/-- The database of a name is the last one of that name. -/
theorem database?_eq_some_iff {config : Config} {d : Database} :
    config.database? name = some d ↔ d.name = name ∧ ∃ before after,
      config.databases = before ++ d :: after ∧ ∀ other ∈ after, other.name ≠ name := by
  rw [Config.database?, reverse_find?_eq_some_iff]
  simp [IsLast, and_left_comm]

/-- A registry of a configuration has the names that the configuration has. -/
theorem contains_ofConfig (start : σ) (config : Config) (name : String) :
    (ofConfig connect config).contains name = (config.database? name).isSome := by
  have registered : name ∈ _ ↔ _ :=
    mem_names_performAll connect (config.databases.map .registerDatabase) start
  rw [performAll_databases, unregistered_databases_iff] at registered
  rw [Bool.eq_iff_iff, contains, SortedMap.isSome_find?_iff, Config.database?, List.find?_isSome]
  refine registered.trans ?_
  simp

/-- The look-up of a name that a configuration has opens a pool of its database. -/
theorem lookUp_ofConfig (start : σ) {config : Config} {d : Database}
    (found : config.database? name = some d) :
    (ofConfig connect config).lookUp name = connect d.dsn d.poolSettings := by
  obtain ⟨named, before, after, split, others⟩ := database?_eq_some_iff.mp found
  have calls : config.databases.map (Call.registerDatabase (σ := σ) (ε := ε)) =
      before.map .registerDatabase ++ .registerDatabase d :: after.map .registerDatabase := by
    rw [split, List.map_append, List.map_cons]
  have latest : Latest connect (config.databases.map .registerDatabase) start name
      (connect d.dsn d.poolSettings) := by
    refine .opens calls named (unregistered_databases_iff.mpr others) ?_
      (Database.pooled_iff.mpr rfl)
    rw [answers_databases]
    exact fun _ answered => nomatch answered
  have looked := latest.lookUp_eq
  rw [performAll_databases] at looked
  exact looked

/-! ## Names and configurations over runs -/

variable {connect}

/-- A look-up says that a name is unknown if there is no registration of it, or if that is what its
last registration itself gives. -/
theorem Resolves.unknown_iff {calls : List (Call σ ε)} {start : σ} {run : Run σ ε}
    (resolves : Resolves connect calls start name run) (state : σ) :
    (run state).1 = .error (.unknownDatabase name) ↔ Unregistered calls name ∨
      ∃ given, Latest connect calls start name given ∧
        (given state).1 = .error (.unknownDatabase name) := by
  constructor
  · intro failed
    cases resolves with
    | unknown unregistered => exact .inl unregistered
    | latest latest => exact .inr ⟨run, latest, failed⟩
  · rintro (unregistered | ⟨given, latest, failed⟩)
    · rw [← resolves.lookUp_eq, (Resolves.unknown unregistered).lookUp_eq]
      rfl
    · rw [← resolves.lookUp_eq, latest.lookUp_eq]
      exact failed

end

/-- A registry of a configuration knows the names that the configuration knows, and opens the same
databases for them, with the pools that they wish for. Whatever was registered and asked for before,
the names are those registered, in ascending order, and a look-up is what the last registration of
its name and the answers since then say. It says that the name is unknown exactly when there is no
registration or the last one gives that answer itself. A look-up that fails leaves nothing behind. -/
theorem last_registration_counts (connect : String → PoolSettings → Run σ ε) (start : σ) :
    (∀ config : Config,
      performAll connect (config.databases.map .registerDatabase) ({}, start) =
        (ofConfig connect config, start) ∧
      ∀ name, (ofConfig connect config).contains name = (config.database? name).isSome ∧
        ∀ d, config.database? name = some d →
          (d.name = name ∧ ∃ before after, config.databases = before ++ d :: after ∧
            ∀ other ∈ after, other.name ≠ name) ∧
          ∃ settings, d.Pooled settings ∧
            (ofConfig connect config).lookUp name = connect d.dsn settings) ∧
    ∀ calls : List (Call σ ε), ∃ registry state,
      performAll connect calls ({}, start) = (registry, state) ∧
      registry.names.Pairwise (· < ·) ∧
      ∀ name, (name ∈ registry.names ↔ ¬ Unregistered calls name) ∧
        (∀ run, registry.lookUp name = run ↔ Resolves connect calls start name run) ∧
        (∀ e, (registry.get name state).1.1 = .error e →
          (registry.get name state).1.2 = registry) ∧
        ∀ later, (registry.lookUp name later).1 = .error (.unknownDatabase name) ↔
          Unregistered calls name ∨ ∃ run, Latest connect calls start name run ∧
            (run later).1 = .error (.unknownDatabase name) := by
  constructor
  · intro config
    refine ⟨performAll_databases connect config.databases ({}, start), fun name => ?_⟩
    refine ⟨contains_ofConfig connect start config name, fun d found => ?_⟩
    exact ⟨database?_eq_some_iff.mp found, d.poolSettings, Database.pooled_iff.mpr rfl,
      lookUp_ofConfig connect start found⟩
  · intro calls
    have resolves := resolves_lookUp connect calls start
    refine ⟨_, _, rfl, ascending_performAll connect calls List.Pairwise.nil, fun name => ?_⟩
    refine ⟨mem_names_performAll connect calls start, fun run => ⟨?_, ?_⟩, ?_, ?_⟩
    · rintro rfl
      exact resolves name
    · exact Resolves.lookUp_eq
    · exact fun e failed => get_of_error failed
    · exact (resolves name).unknown_iff

/-- The first attempt to open a pool fails and the second succeeds, and what it gives is kept. It is
opened with no more idle connections than there may be. Of two databases with one name the last is
opened, whose connections have no lifetime. -/
theorem last_registration_counts_reopened :
    let connect : String → PoolSettings → Run (List String) (String × PoolSettings) :=
      fun dsn settings opened =>
        (if opened = [] then .error (.connection "down") else .ok (dsn, settings), dsn :: opened)
    let first : Database :=
      { name := "a", dsn := "x", maxConnections := 4, maxIdle := 8, maxLifetime := 60 }
    let config : Config := { databases := [first, { name := "a", dsn := "y" }] }
    let calls := [.registerDatabase first, .get "a", .get "a", .meanwhile fun _ => []]
    (ofConfig connect config).lookUp "a" ["z"] = (.ok ("y", ⟨10, 0, none⟩), ["y", "z"]) ∧
      ∃ registry state, performAll connect calls ({}, []) = (registry, state) ∧
        registry.lookUp "a" = pure ("x", ⟨4, 4, some 60⟩) ∧
        (registry.lookUp "b" state).1 = .error (.unknownDatabase "b") := by
  intro connect first config calls
  obtain ⟨configured, runs⟩ := last_registration_counts connect []
  obtain ⟨-, settings, pooled, opens⟩ := ((configured config).2 "a").2 { name := "a", dsn := "y" }
    (by decide)
  obtain rfl := Database.pooled_iff.mp pooled
  obtain ⟨registry, state, reached, -, resolves⟩ := runs calls
  obtain ⟨-, kept, -⟩ := resolves "a"
  obtain ⟨-, -, -, unknown⟩ := resolves "b"
  refine ⟨by rw [opens]; rfl, registry, state, reached, ?_, ?_⟩
  · have split : calls = [] ++ .registerDatabase first :: calls.tail := rfl
    exact (kept _).mpr (.latest (.keeps split rfl (by decide) (by decide)))
  · exact (unknown state).mpr (.inl (by decide))

/-- A getter can say itself that a name is unknown, though it is registered under the name. -/
theorem registered_unknown :
    let connect : String → PoolSettings → Run Unit Unit := fun _ _ => pure ()
    let calls := [.register "a" (throw (.unknownDatabase "a"))]
    ∃ registry state, performAll connect calls ({}, ()) = (registry, state) ∧
      "a" ∈ registry.names ∧ ¬ Unregistered calls "a" ∧
      (registry.get "a" state).1.1 = .error (.unknownDatabase "a") :=
  ⟨_, _, rfl, by decide, by decide, rfl⟩

end Registry

end Clausal
