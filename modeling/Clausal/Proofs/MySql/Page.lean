import Clausal.MySql.Server
import Clausal.Proofs.Execution.Journal
import Clausal.Proofs.Text.Numeral
import Clausal.Proofs.Text.Trim
/-!
# Pages of a server

The executor of a server fetches a page over one connection and reads the count as a number. Other
executors run two queries, and the count is read from the text of its cell. Where a count is a whole
number of 64 signed bits that is not negative, its text is read as that number again, and both ways
come to the same: they give the same page or fail alike, and leave the server alike.
-/

namespace Clausal.MySql

variable {server : Server}

/-! ## Statements one by one -/

theorem Exchange.ofExcept_apply {α : Type} (outcome : Except Failure α) :
    (ofExcept outcome : Exchange α) server = (outcome, server) := rfl

namespace Server

/-- What the next statement meets: a reply, or why it fails. -/
def answer (server : Server) : Except Failure Reply :=
  match server.replies with
  | [] => .error exhausted
  | .refused failure :: _ => .error failure
  | .failed failure :: _ => .error failure
  | reply :: _ => .ok reply

/-- The server after a statement. A statement that is refused is not executed. -/
def after (server : Server) (statement : Statement) : Server :=
  let executed := server.executed ++ [Call.ofStatement statement]
  match server.replies with
  | [] => { server with executed }
  | .refused _ :: rest => { server with replies := rest }
  | _ :: rest => { server with replies := rest, executed }

theorem fault_after (statement : Statement) : (server.after statement).fault = server.fault := by
  unfold after
  dsimp only
  split <;> rfl

theorem send_apply (statement : Statement) :
    send statement server = (server.answer, server.after statement) := by
  obtain ⟨fault, replies, executed⟩ := server
  rcases replies with - | ⟨reply, rest⟩
  · rfl
  · cases reply <;> rfl

theorem connect_apply (reachable : server.fault = none) : connect server = (.ok (), server) := by
  obtain ⟨fault, replies, executed⟩ := server
  cases reachable
  rfl

/-- A query fails as its statement does, or at a cell that cannot be decoded. -/
theorem query_apply (reachable : server.fault = none) (statement : Statement) :
    query statement server = (server.answer.bind Reply.result, server.after statement) := by
  rw [query, bind_apply, connect_apply reachable]
  dsimp only
  rw [bind_apply, send_apply]
  rcases server.answer with failure | reply <;> rfl

/-- A page is fetched only where the count is a number. -/
theorem page_apply (reachable : server.fault = none) (counting fetching : Statement) :
    page counting fetching server =
      match server.answer.bind Reply.count with
      | .error failure => (.error failure, server.after counting)
      | .ok total =>
        (((server.after counting).answer.bind Reply.result).map fun result => (total, result),
          (server.after counting).after fetching) := by
  rw [page, bind_apply, connect_apply reachable]
  dsimp only
  rw [bind_apply, send_apply]
  rcases server.answer with failure | counted
  · rfl
  · rw [Except.bind]
    dsimp only
    rw [bind_apply, Exchange.ofExcept_apply]
    rcases counted.count with failure | total
    · rfl
    · dsimp only
      rw [bind_apply, send_apply]
      rcases (server.after counting).answer with failure | fetched
      · rfl
      · rw [Except.bind]
        dsimp only
        rw [bind_apply, Exchange.ofExcept_apply]
        rcases fetched.result with failure | result <;> rfl

theorem executor_query_apply (reachable : server.fault = none) (statement : Statement) :
    executor.query statement server =
      ((server.answer.bind Reply.result).mapError Failure.toError, server.after statement) := by
  change ((query statement server).1.mapError _, (query statement server).2) = _
  rw [query_apply reachable]

theorem executor_page_apply (counting fetching : Statement) :
    executor.page counting fetching server =
      ((page counting fetching server).1.mapError Failure.toError,
        (page counting fetching server).2) := rfl

end Server

/-! ## Counts -/

/-- The replies to a counting statement that the two ways of counting agree on. The statement fails,
or there is one row with one cell, which holds a number of 64 signed bits that is not negative. -/
inductive Reply.Counts : Reply → Prop
  | failed (failure : Failure) : Counts (.failed failure)
  | refused (failure : Failure) : Counts (.refused failure)
  | row {n : Int64} (name : String) (tellsColumns : Bool) : 0 ≤ n →
    Counts (.rows [⟨name, .integer true⟩] [[.integer n.toInt]] tellsColumns)

/-- One row with one cell that holds a total. -/
def Reply.ofTotal (name : String) (total : UInt64) (tellsColumns : Bool) : Reply :=
  .rows [⟨name, .integer true⟩] [[.integer total.toNat]] tellsColumns

theorem exists_total {n : Int64} (natural : 0 ≤ n) : ∃ total : UInt64, n.toInt = total.toNat := by
  obtain ⟨m, same⟩ := Int.eq_ofNat_of_zero_le (Int64.le_iff_toInt_le.mp natural)
  have bound : m < UInt64.size := by
    have top := n.toInt_lt
    have wide : (2 ^ 63 : Int) ≤ UInt64.size := by decide
    omega
  refine ⟨UInt64.ofNat m, ?_⟩
  rw [same, UInt64.toNat_ofNat_of_lt' bound]

theorem count_ofTotal (name : String) (total : UInt64) (tellsColumns : Bool) :
    (Reply.ofTotal name total tellsColumns).count = .ok total := by
  change Except.ok (UInt64.ofNat (total.toNat : Int).toNat) = _
  rw [Int.toNat_natCast, UInt64.ofNat_toNat]

/-- The text of the cell is read as the total. -/
theorem count_result_ofTotal (name : String) (total : UInt64) (tellsColumns : Bool) :
    (Reply.ofTotal name total tellsColumns).result =
        .ok (.ofRows [name] [[toString total.toNat]]) ∧
      (QueryResult.ofRows [name] [[toString total.toNat]]).count = .ok total := by
  refine ⟨rfl, ?_⟩
  have read : Text.readUInt64? (Text.trim (toString total.toNat).toList) = some total := by
    rw [Text.toList_toString, Text.trim_eq_self (Text.isBlank_toDigits total.toNat),
      Text.readUInt64?_toDigits]
  have first : (QueryResult.ofRows [name] [[toString total.toNat]]).rows.head?.bind Row.first? =
      some (toString total.toNat) := rfl
  rw [QueryResult.count, first]
  dsimp only
  rw [read]

/-- A count that both ways agree on fails or is a total. -/
theorem answer_of_counts (counts : ∀ reply ∈ server.replies.head?, reply.Counts) :
    (∃ failure, server.answer = .error failure) ∨ ∃ name total tellsColumns,
      server.replies.head? = some (.ofTotal name total tellsColumns) ∧
      server.answer = .ok (.ofTotal name total tellsColumns) := by
  obtain ⟨fault, replies, executed⟩ := server
  rcases replies with - | ⟨reply, rest⟩
  · exact .inl ⟨_, rfl⟩
  · cases counts reply rfl with
    | failed failure => exact .inl ⟨failure, rfl⟩
    | refused failure => exact .inl ⟨failure, rfl⟩
    | row name tellsColumns natural =>
      obtain ⟨total, same⟩ := exists_total natural
      rw [same]
      exact .inr ⟨name, total, tellsColumns, rfl, rfl⟩

/-! ## Both ways -/

open Server

/-- Where a connection can be opened and a count is a natural number of 64 signed bits, or fails,
the executor's own way to fetch a page does what counting first and fetching second does. They give
the same total and the same rows or the same error, whatever the reply to the second statement, and
leave the server alike. The total is the number in the cell. -/
theorem page_eq_plain (reachable : server.fault = none)
    (counts : ∀ reply ∈ server.replies.head?, reply.Counts) (counting fetching : Statement) :
    executor.page counting fetching server =
        Run.page (Run.count executor.query) executor.query counting fetching server ∧
      ∀ total result, (executor.page counting fetching server).1 = .ok (total, result) →
        ∃ name tellsColumns, server.replies.head? =
          some (.rows [⟨name, .integer true⟩] [[.integer total.toNat]] tellsColumns) := by
  have reachableAfter : (server.after counting).fault = none :=
    (fault_after counting).trans reachable
  rw [executor_page_apply, page_apply reachable, Run.page_apply, Run.count_apply,
    executor_query_apply reachable]
  rcases answer_of_counts counts with ⟨failure, failed⟩ | ⟨name, total, tells, first, counted⟩
  · rw [failed]
    exact ⟨rfl, nofun⟩
  · obtain ⟨shown, read⟩ := count_result_ofTotal name total tells
    rw [counted, Except.bind, Except.bind, count_ofTotal, shown, Except.mapError]
    dsimp only
    rw [read]
    dsimp only
    rw [executor_query_apply reachableAfter]
    constructor
    · rcases (server.after counting).answer.bind Reply.result with failure | result <;> rfl
    · intro other result arrived
      have same : other = total := by
        revert arrived
        rcases (server.after counting).answer.bind Reply.result with failure | result
        · exact nofun
        · rintro ⟨⟩
          rfl
      exact ⟨name, tells, same ▸ first⟩

/-- The greatest total that fits is read from its text as well. -/
theorem page_eq_plain_greatest :
    let server : Server := {
      replies := [.rows [⟨"COUNT(0)", .ofName "BIGINT"⟩] [[.integer 9223372036854775807]],
        .rows [⟨"id", .ofName "INT"⟩, ⟨"at", .ofName "TIMESTAMP"⟩] [[.integer 1, .null]]] }
    server.fault = none ∧ (∀ reply ∈ server.replies.head?, reply.Counts) ∧
      ∀ counting fetching,
        (Run.page (Run.count executor.query) executor.query counting fetching server).1 =
          .ok (9223372036854775807, .ofRows ["id", "at"] [["1", ""]]) := by
  intro server
  have counts : ∀ reply ∈ server.replies.head?, reply.Counts := by
    intro reply first
    cases first
    exact .row (n := 9223372036854775807) "COUNT(0)" true (by decide)
  refine ⟨rfl, counts, fun counting fetching => ?_⟩
  rw [← (page_eq_plain rfl counts counting fetching).1]
  rfl

end Clausal.MySql
