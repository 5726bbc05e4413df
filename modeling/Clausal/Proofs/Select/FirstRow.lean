import Clausal.Proofs.Select.Paging
/-!
# The first row

A querier that is run for one row gets the first of the rows that it would get if it were run for
all of them. One case is apart: an offset is told only together with a limit, so without a limit
all rows are fetched from the first one on, while one row is fetched with a limit, and the offset
counts.
-/

namespace Clausal

/-- Whether the columns begin like those of a count, which a table answers with one number. -/
def Selection.SelectsCount (s : Selection) : Prop :=
  "COUNT(0)".toList <+: (Text.trimmed s.columns).toList

instance (s : Selection) : Decidable s.SelectsCount :=
  inferInstanceAs (Decidable (_ <+: _))

namespace UserTable

/-- The rows that a table shows to a selection: the number of users to a count, all users where no
limit is set, and otherwise the users in the window. -/
def shown (rows : UInt64) (s : Selection) : List Row :=
  if s.SelectsCount then [⟨["COUNT(0)"], [toString rows.toNat]⟩]
  else if s.limit = 0 then (List.range rows.toNat).map record
  else (List.range' s.offset.toNat
    (min (s.offset.toNat + s.limit.toNat) rows.toNat - s.offset.toNat)).map record

section

variable (rows : UInt64) {s : Selection}

theorem shown_of_count (counts : s.SelectsCount) :
    shown rows s = [⟨["COUNT(0)"], [toString rows.toNat]⟩] :=
  if_pos counts

theorem shown_of_unlimited (fetches : ¬ s.SelectsCount) (unlimited : s.limit = 0) :
    shown rows s = (List.range rows.toNat).map record := by
  rw [shown, if_neg fetches, if_pos unlimited]

theorem shown_of_limited (fetches : ¬ s.SelectsCount) (limited : s.limit ≠ 0) :
    shown rows s = (List.range' s.offset.toNat
      (min (s.offset.toNat + s.limit.toNat) rows.toNat - s.offset.toNat)).map record := by
  rw [shown, if_neg fetches, if_neg limited]

/-- A statement is answered with the rows of its selection. Without a limit its clauses must not be
taken for one. -/
theorem rows_reply {statement : Statement} (made : s.statement = .ok statement)
    (silent : s.limit = 0 → ¬ limitWord <:+: statement.sql.toList) :
    (reply rows statement).rows = shown rows s := by
  rcases s.statements_eq with ⟨e, -, -, failed⟩ | ⟨front, assembled, -, fetching⟩
  · rw [failed] at made
    cases made
  · obtain rfl : ⟨front.sql ++ s.tail, front.params⟩ = statement :=
      Except.ok.inj (fetching.symm.trans made)
    have counting := Selection.countWord_prefix_iff assembled s.tail
    by_cases counts : s.SelectsCount
    · have answer := reply_of_countWord rows (s := ⟨front.sql ++ s.tail, front.params⟩)
        (counting.mpr counts)
      rw [shown_of_count rows counts, answer]
      rfl
    · have fetches := mt counting.mp counts
      by_cases unlimited : s.limit = 0
      · have answer := reply_unlimited rows (s := ⟨front.sql ++ s.tail, front.params⟩) fetches
          (silent unlimited)
        rw [shown_of_unlimited rows counts unlimited, answer, QueryResult.ofRows, List.map_map]
        rfl
      · have text : front.sql ++ s.tail =
            front.sql ++ s.orderClause.sql ++ limitText s.offset s.limit := by
          rw [Selection.tail_of_limit unlimited, String.append_assoc]
        rw [text] at fetches ⊢
        have answer := reply_limit rows s.offset s.limit front.params fetches
        rw [shown_of_limited rows counts unlimited, answer, QueryResult.ofRows, List.map_map]
        rfl

/-! ## The first of them -/

/-- A window begins at its offset, however wide it is. -/
theorem head?_shown_of_limited (fetches : ¬ s.SelectsCount) (limited : s.limit ≠ 0) :
    (shown rows s).head? =
      if s.offset.toNat < rows.toNat then some (record s.offset.toNat) else none := by
  have pos : s.limit.toNat ≠ 0 := fun zero => limited (UInt64.toNat_inj.mp zero)
  rw [shown_of_limited rows fetches limited, List.head?_map, List.head?_range']
  by_cases inside : s.offset.toNat < rows.toNat
  · rw [if_pos inside, if_neg (by omega)]
    rfl
  · rw [if_neg inside, if_pos (by omega)]
    rfl

/-- Where there was no limit, a limit of one brings the offset into effect. -/
theorem head?_shown_limit_one_of_unlimited (fetches : ¬ s.SelectsCount) (unlimited : s.limit = 0) :
    (shown rows { s with limit := 1 }).head? = (shown rows s)[s.offset.toNat]? := by
  have one : (1 : UInt64) ≠ 0 := by decide
  rw [head?_shown_of_limited rows (s := { s with limit := 1 }) fetches one,
    shown_of_unlimited rows fetches unlimited, List.getElem?_map]
  by_cases inside : s.offset.toNat < rows.toNat
  · rw [if_pos inside, List.getElem?_range inside]
    rfl
  · rw [if_neg inside, List.getElem?_eq_none (by simpa using inside)]
    rfl

/-- Otherwise the first row is the same under a limit of one. -/
theorem head?_shown_limit_one (told : s.limit ≠ 0 ∨ s.offset = 0 ∨ s.SelectsCount) :
    (shown rows { s with limit := 1 }).head? = (shown rows s).head? := by
  have one : (1 : UInt64) ≠ 0 := by decide
  by_cases counts : s.SelectsCount
  · rw [shown_of_count rows counts, shown_of_count rows (s := { s with limit := 1 }) counts]
  · by_cases unlimited : s.limit = 0
    · have first : s.offset = 0 := (told.resolve_left (absurd unlimited)).resolve_right counts
      rw [head?_shown_limit_one_of_unlimited rows counts unlimited, first, List.head?_eq_getElem?]
      rfl
    · rw [head?_shown_of_limited rows counts unlimited,
        head?_shown_of_limited rows (s := { s with limit := 1 }) counts one]

end

end UserTable

namespace Querier

/-- A querier whose statement a table reads as it is meant: it assembles, and where it has no limit
the keyword of a limit clause does not stand in its clauses. -/
structure Legible (q : Querier) : Prop where
  assembles : ∃ s, q.query.statement = .ok s
  silent : q.query.selection.limit = 0 → ∀ s, q.query.statement = .ok s →
    ¬ UserTable.limitWord <:+: s.sql.toList

/-- A limit of one is told, whatever else the clauses say. -/
theorem Legible.limit_one {q : Querier} (legible : q.Legible) (plain : q.isGiven = false) :
    (q.limit 1).Legible where
  assembles := by
    obtain ⟨s, made⟩ := legible.assembles
    have plain' : (q.limit 1).isGiven = false := plain
    have same : (q.limit 1).query.selection.rows = q.query.selection.rows := rfl
    rw [statement_of_plain plain] at made
    rw [statement_of_plain plain', Selection.statement_eq, same]
    rcases q.query.selection.statements_eq with ⟨e, -, -, failed⟩ | ⟨rows, assembled, -, -⟩
    · rw [failed] at made
      cases made
    · rw [assembled]
      exact ⟨_, rfl⟩
  silent := by
    intro unlimited
    exact absurd unlimited (by decide : (1 : UInt64) ≠ 0)

/-- A table answers a querier with the rows that it shows to its selection. -/
theorem run_runQuery_table (rows : UInt64) {q : Querier} (plain : q.isGiven = false)
    (coherent : q.Coherent) (legible : q.Legible) (log : List Statement) :
    ∃ result q' log', run (runQuery (UserTable.executor rows)) q log = ((.ok result, q'), log') ∧
      result.rows = UserTable.shown rows q.query.selection := by
  obtain ⟨s, made⟩ := legible.assembles
  have built : q.build = (.ok s, q.build.2) :=
    Prod.ext ((build_of_coherent coherent).trans made) rfl
  refine ⟨UserTable.reply rows s, q.build.2, log ++ [s], ?_, ?_⟩
  · rw [run_runQuery, built]
    rfl
  · have told := made
    rw [statement_of_plain plain] at told
    exact UserTable.rows_reply rows told fun unlimited => legible.silent unlimited s made

/-- Run for all rows, it is given those that the table shows to it, and run for one row, the first
of those that the table shows under a limit of one. -/
theorem run_all_row_table (rows : UInt64) {q : Querier} (plain : q.isGiven = false)
    (coherent : q.Coherent) (legible : q.Legible) (log : List Statement) :
    ∃ all row q' q'' log' log'',
      run (runAll (UserTable.executor rows)) q log = ((.ok all, q'), log') ∧
      run (runRow (UserTable.executor rows)) q log = ((.ok row, q''), log'') ∧
      all = UserTable.shown rows q.query.selection ∧
      row = (UserTable.shown rows { q.query.selection with limit := 1 }).head? := by
  obtain ⟨whole, q', log', ranAll, all⟩ := run_runQuery_table rows plain coherent legible log
  have fresh : (q.limit 1).Coherent := coherent_of_memo rfl
  obtain ⟨limited, q'', log'', ranRow, row⟩ :=
    run_runQuery_table rows (q := q.limit 1) plain fresh (legible.limit_one plain) log
  refine ⟨whole.rows, limited.rows.head?, q', q'', log', log'', ?_, ?_, all, congrArg _ row⟩
  · rw [run_runAll, ranAll]
    rfl
  · rw [run_runRow, ranRow]
    rfl

/-- Run for one row, a querier gives the first of the rows that it gives when it is run for all, and
none exactly when there are none. Only an offset that is set without a limit is told for one row and
not for all: all users are given then, and of these the one at the offset. -/
theorem row_heads_all {τ : Type} (calls : List (Call τ)) (start : τ) (rows : UInt64) :
    ∃ q start', performAll calls (Origin.selection.querier, start) = (q, start') ∧
      (q.Legible → ∀ log : List Statement, ∃ all row q' q'' log' log'',
        run (runAll (UserTable.executor rows)) q log = ((.ok all, q'), log') ∧
        run (runRow (UserTable.executor rows)) q log = ((.ok row, q''), log'') ∧
        (q.query.selection.limit ≠ 0 ∨ q.query.selection.offset = 0 ∨
            q.query.selection.SelectsCount →
          row = all.head? ∧ (row = none ↔ all = [])) ∧
        (q.query.selection.limit = 0 → ¬ q.query.selection.SelectsCount →
          all = (List.range rows.toNat).map UserTable.record ∧
          row = all[q.query.selection.offset.toNat]? ∧
          (row = none ↔ rows.toNat ≤ q.query.selection.offset.toNat))) := by
  have reached := follows_performAll calls Origin.selection.coherent start
  generalize performAll calls (Origin.selection.querier, start) = ended at reached ⊢
  obtain ⟨q, start'⟩ := ended
  refine ⟨q, start', rfl, fun legible log => ?_⟩
  obtain ⟨all, row, q', q'', log', log'', ranAll, ranRow, given, first⟩ :=
    run_all_row_table rows (plain_of_follows reached) reached.coherent legible log
  refine ⟨all, row, q', q'', log', log'', ranAll, ranRow, fun told => ?_,
    fun unlimited fetches => ?_⟩
  · rw [UserTable.head?_shown_limit_one rows told, ← given] at first
    exact ⟨first, first ▸ List.head?_eq_none_iff⟩
  · rw [UserTable.head?_shown_limit_one_of_unlimited rows fetches unlimited, ← given] at first
    rw [UserTable.shown_of_unlimited rows fetches unlimited] at given
    refine ⟨given, first, ?_⟩
    rw [first, List.getElem?_eq_none_iff, given, List.length_map, List.length_range]

/-- A querier that passes over some users and has no limit. -/
theorem legible_offset : ((({} : Querier).table "users").offset 5).Legible where
  assembles := ⟨⟨"SELECT * FROM `users`", []⟩, by rfl⟩
  silent := by
    intro _ s made
    have text : ((({} : Querier).table "users").offset 5).query.statement =
        .ok ⟨"SELECT * FROM `users`", []⟩ := by rfl
    obtain rfl := Except.ok.inj (text.symm.trans made)
    intro inside
    have mem : 'I' ∈ "SELECT * FROM `users`".toList := inside.mem (by decide)
    exact absurd mem (by decide)

/-- Of a table with eight users it is given all, and for one row the sixth. -/
theorem row_heads_all_offset :
    ∃ q start', performAll [.set (.table "users"), .set (.offset 5)]
        (Origin.selection.querier, ()) = (q, start') ∧ q.Legible ∧
      ∃ all row q' q'' log' log'',
        run (runAll (UserTable.executor 8)) q [] = ((.ok all, q'), log') ∧
        run (runRow (UserTable.executor 8)) q [] = ((.ok row, q''), log'') ∧
        all = (List.range 8).map UserTable.record ∧ row = some (UserTable.record 5) := by
  obtain ⟨q, start', reached, heads⟩ :=
    row_heads_all [.set (.table "users"), .set (.offset 5)] () 8
  cases reached
  obtain ⟨all, row, q', q'', log', log'', ranAll, ranRow, -, passed⟩ := heads legible_offset []
  obtain ⟨given, sixth, -⟩ := passed rfl (by decide)
  refine ⟨_, _, rfl, legible_offset, all, row, q', q'', log', log'', ranAll, ranRow, given, ?_⟩
  rw [sixth, given]
  rfl

/-- Of a table with three users it is given all as well, and for one row none. -/
theorem not_row_heads_all :
    ∃ q start', performAll [.set (.table "users"), .set (.offset 5)]
        (Origin.selection.querier, ()) = (q, start') ∧ q.Legible ∧
      ∃ all row q' q'' log' log'',
        run (runAll (UserTable.executor 3)) q [] = ((.ok all, q'), log') ∧
        run (runRow (UserTable.executor 3)) q [] = ((.ok row, q''), log'') ∧
        all.head? = some (UserTable.record 0) ∧ row = none := by
  have coherent : ((({} : Querier).table "users").offset 5).Coherent := coherent_of_memo rfl
  obtain ⟨all, row, q', q'', log', log'', ranAll, ranRow, given, first⟩ :=
    run_all_row_table 3 rfl coherent legible_offset []
  refine ⟨_, (), rfl, legible_offset, all, row, q', q'', log', log'', ranAll, ranRow, ?_, ?_⟩
  · rw [given, UserTable.shown_of_unlimited 3 (by decide) rfl]
    rfl
  · rw [first, UserTable.head?_shown_of_limited 3 (by decide) (by decide)]
    rfl

end Querier

end Clausal
