import Tabula.Text.Blank
import Tabula.Text.Letter
import Tabula.Text.Case
import Tabula.Number.Format
import Tabula.Number.Read
import Tabula.Value
import Tabula.Row
import Tabula.Error
import Tabula.Json.Basic
import Tabula.Json.Read
import Tabula.Query
import Tabula.Coerce
import Tabula.Like
import Tabula.Predicate
import Tabula.Relation.Join
import Tabula.Relation.Aggregate
import Tabula.Relation.Order
import Tabula.Relation.Project
import Tabula.Feed
import Tabula.Plan
import Tabula.Json.Value
import Tabula.Sql.Token
import Tabula.Sql.Lexer
import Tabula.Sql.Syntax
import Tabula.Sql.Print
import Tabula.Sql.Keywords
import Tabula.Sql.Cursor
import Tabula.Sql.Atom
import Tabula.Sql.Parser
import Tabula.Sql.Statement
import Tabula.Sql.Lower
import Tabula.Csv
import Tabula.Store
import Tabula.Config
import Tabula.Engine
import Tabula.ConfigFile
import Tabula.Cli.Args
import Tabula.Cli.Help
import Tabula.Cli.Host
import Tabula.Cli.World
import Tabula.Cli.Run
import Tabula.Main
import Tabula.Proofs.Feed
import Tabula.Proofs.Answer
import Tabula.Proofs.BatchSize
import Tabula.Proofs.JoinRow
import Tabula.Proofs.Where
import Tabula.Proofs.Csv
import Tabula.Proofs.CsvBytes
import Tabula.Proofs.Store
import Tabula.Proofs.Write
import Tabula.Proofs.Backends
import Tabula.Proofs.Failures
import Tabula.Proofs.Grouping
import Tabula.Proofs.Sorting
import Tabula.Proofs.Like
import Tabula.Proofs.CellOrder
import Tabula.Proofs.Distinct
import Tabula.Proofs.Qualified
import Tabula.Proofs.JoinWildcard
import Tabula.Proofs.SelectList
import Tabula.Proofs.SettingsFile
import Tabula.Proofs.Prompt
import Tabula.Proofs.Limit
