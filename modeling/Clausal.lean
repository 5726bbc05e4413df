import Clausal.Calendar
import Clausal.Cli.Arguments
import Clausal.Cli.Invocation
import Clausal.Cli.Program
import Clausal.Condition.Basic
import Clausal.Condition.Compile
import Clausal.Condition.Json
import Clausal.Config.Basic
import Clausal.Config.Read
import Clausal.Error
import Clausal.Execution.Executor
import Clausal.Execution.Script
import Clausal.Execution.UserTable
import Clausal.FieldKey
import Clausal.Fragment
import Clausal.Hooks
import Clausal.Identifier
import Clausal.Json.Basic
import Clausal.Json.Printer
import Clausal.Json.Reader
import Clausal.Logging
import Clausal.Logic
import Clausal.Main
import Clausal.MatchOp
import Clausal.MySql.Cell
import Clausal.MySql.Dsn
import Clausal.MySql.Failure
import Clausal.MySql.Server
import Clausal.Number.Binary
import Clausal.Number.Notation
import Clausal.Number.Scientific
import Clausal.Number.Shortest
import Clausal.Proofs.Cli.DryRun
import Clausal.Proofs.Condition.Building
import Clausal.Proofs.Condition.Clause
import Clausal.Proofs.Condition.Comparison
import Clausal.Proofs.Condition.Confined
import Clausal.Proofs.Condition.Entries
import Clausal.Proofs.Condition.Fault
import Clausal.Proofs.Condition.Leaf
import Clausal.Proofs.Condition.Meaning
import Clausal.Proofs.Condition.Modes
import Clausal.Proofs.Condition.Neutral
import Clausal.Proofs.Condition.Operand
import Clausal.Proofs.Condition.Overrides
import Clausal.Proofs.Condition.Reading
import Clausal.Proofs.Execution.Journal
import Clausal.Proofs.Execution.UserTable
import Clausal.Proofs.FieldKey.Grammar
import Clausal.Proofs.FieldKey.Parsing
import Clausal.Proofs.FieldKey.Spelling
import Clausal.Proofs.FieldKey.Words
import Clausal.Proofs.Fragment
import Clausal.Proofs.Json.Reading
import Clausal.Proofs.Last
import Clausal.Proofs.MySql.Binding
import Clausal.Proofs.MySql.CellText
import Clausal.Proofs.MySql.Page
import Clausal.Proofs.Number.Numeral
import Clausal.Proofs.Registry.Calls
import Clausal.Proofs.Registry.LastRegistration
import Clausal.Proofs.Report.Alignment
import Clausal.Proofs.Select.ByColumn
import Clausal.Proofs.Select.Count
import Clausal.Proofs.Select.Fault
import Clausal.Proofs.Select.FirstRow
import Clausal.Proofs.Select.Memo
import Clausal.Proofs.Select.Modes
import Clausal.Proofs.Select.PageRun
import Clausal.Proofs.Select.Paging
import Clausal.Proofs.Select.QuotedTable
import Clausal.Proofs.Select.Setting
import Clausal.Proofs.Select.Terminal
import Clausal.Proofs.Select.Truncation
import Clausal.Proofs.Select.Ways
import Clausal.Proofs.SortedMap
import Clausal.Proofs.Sql.Grammar
import Clausal.Proofs.Sql.Lexemes
import Clausal.Proofs.Sql.Reader
import Clausal.Proofs.Sql.Scan
import Clausal.Proofs.Sql.Token
import Clausal.Proofs.SqlValue.Literal
import Clausal.Proofs.SqlValue.Reading
import Clausal.Proofs.SqlValue.Serialization
import Clausal.Proofs.Steps
import Clausal.Proofs.Template.Basic
import Clausal.Proofs.Template.Placeholder
import Clausal.Proofs.Template.Statement
import Clausal.Proofs.Text.Bytes
import Clausal.Proofs.Text.Decoding
import Clausal.Proofs.Text.Identifier
import Clausal.Proofs.Text.Numeral
import Clausal.Proofs.Text.Parser
import Clausal.Proofs.Text.Quoting
import Clausal.Proofs.Text.Search
import Clausal.Proofs.Text.Trim
import Clausal.Proofs.Write.Call
import Clausal.Proofs.Write.Confined
import Clausal.Proofs.Write.Guard
import Clausal.Proofs.Write.Modes
import Clausal.Proofs.Write.Overrides
import Clausal.Proofs.Write.Record
import Clausal.Proofs.Write.Rows
import Clausal.Registry
import Clausal.Report.Operators
import Clausal.Report.Statement
import Clausal.Report.Table
import Clausal.Result
import Clausal.Saturating
import Clausal.Select.Count
import Clausal.Select.Querier
import Clausal.Select.Selection
import Clausal.Select.Terminal
import Clausal.SortedMap
import Clausal.SqlValue.Basic
import Clausal.SqlValue.Convert
import Clausal.Statement
import Clausal.Text.Blank
import Clausal.Text.Case
import Clausal.Text.Hidden
import Clausal.Text.Numeral
import Clausal.Text.Quoted
import Clausal.Text.Search
import Clausal.Text.Utf8
import Clausal.Text.Word
import Clausal.Toml.Basic
import Clausal.Toml.Numbers
import Clausal.Toml.Reader
import Clausal.Toml.Strings
import Clausal.Write.Mutation
import Clausal.Write.Record
