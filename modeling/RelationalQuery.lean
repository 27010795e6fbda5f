import RelationalQuery.Building.Builder
import RelationalQuery.Building.Recorder
import RelationalQuery.Building.Step
import RelationalQuery.Compile.Filter
import RelationalQuery.Compile.Operator
import RelationalQuery.Compile.Scope
import RelationalQuery.Compile.Spec
import RelationalQuery.Config.Environment
import RelationalQuery.Config.Fault
import RelationalQuery.Config.Integer
import RelationalQuery.Config.Layered
import RelationalQuery.Decimal.Reading
import RelationalQuery.Decimal.Shortest
import RelationalQuery.Decimal.Text
import RelationalQuery.Error
import RelationalQuery.Json.Document
import RelationalQuery.Json.Number
import RelationalQuery.Json.Printer
import RelationalQuery.Json.Reader
import RelationalQuery.Json.Value
import RelationalQuery.Proofs.Building.Reach
import RelationalQuery.Proofs.Filter.Compiled
import RelationalQuery.Proofs.Filter.Direct
import RelationalQuery.Proofs.Filter.Disjunction
import RelationalQuery.Proofs.Filter.Meaning
import RelationalQuery.Proofs.Filter.Searches
import RelationalQuery.Proofs.Sql.Existence
import RelationalQuery.Proofs.Sql.Glyph
import RelationalQuery.Proofs.Sql.Grammar
import RelationalQuery.Proofs.Sql.Inlining
import RelationalQuery.Proofs.Sql.Placeholders
import RelationalQuery.Proofs.Sql.Precedence
import RelationalQuery.Proofs.Sql.Reachable
import RelationalQuery.Proofs.Sql.Rendering
import RelationalQuery.Proofs.Sql.Sentence
import RelationalQuery.Proofs.Sql.WellFormed
import RelationalQuery.Request
import RelationalQuery.Result.Basic
import RelationalQuery.Result.Paging
import RelationalQuery.Schema
import RelationalQuery.Spec.Basic
import RelationalQuery.Spec.Fault
import RelationalQuery.Spec.Members
import RelationalQuery.Spec.Read
import RelationalQuery.Spec.ReadFilter
import RelationalQuery.Spec.ReadItems
import RelationalQuery.Sql.Builder
import RelationalQuery.Sql.Condition
import RelationalQuery.Sql.Executor
import RelationalQuery.Sql.Fragment
import RelationalQuery.Sql.Health
import RelationalQuery.Sql.Literal
import RelationalQuery.Sql.Loading
import RelationalQuery.Sql.Placeholder
import RelationalQuery.Sql.Query
import RelationalQuery.Sql.Readable
import RelationalQuery.Sql.Window
import RelationalQuery.Text.Case
import RelationalQuery.Text.CaseTable
import RelationalQuery.Text.Characters
import RelationalQuery.Text.InvisibleTable
import RelationalQuery.Text.Quoted
import RelationalQuery.Text.Split
import RelationalQuery.Proofs.Loading.Tables
import RelationalQuery.Proofs.Sql.Place
import RelationalQuery.Proofs.Sql.Aliases
import RelationalQuery.Proofs.Sql.Resolution
import RelationalQuery.Proofs.Sql.Scoping
import RelationalQuery.Proofs.Loading.Exchange
import RelationalQuery.Proofs.Loading.Join
import RelationalQuery.Proofs.Loading.Columns
import RelationalQuery.Proofs.Loading.Levels
import RelationalQuery.Proofs.Errors
import RelationalQuery.Proofs.Sql.Complement
import RelationalQuery.Proofs.Json.Documents
import RelationalQuery.Proofs.Spec.Outcome
import RelationalQuery.Proofs.Spec.Routes
import RelationalQuery.Proofs.Spec.Gathering
import RelationalQuery.Proofs.Spec.Structures
import RelationalQuery.Proofs.Spec.Edits
import RelationalQuery.Proofs.Spec.Mapped
import RelationalQuery.Proofs.Building.Refusals
import RelationalQuery.Proofs.Compile.Refusals
import RelationalQuery.Proofs.Building.Recording
import RelationalQuery.Proofs.Compile.Recorded
import RelationalQuery.Proofs.Result.Pages
import RelationalQuery.Proofs.Sql.Unchanged
import RelationalQuery.Proofs.Sql.Reading
import RelationalQuery.Proofs.Sql.Guards
import RelationalQuery.Proofs.Loading.Order
import RelationalQuery.Proofs.Result.Texts
import RelationalQuery.Proofs.Result.Whole
import RelationalQuery.Proofs.Result.Numbers
import RelationalQuery.Proofs.Text.Joined
import RelationalQuery.Proofs.Building.Selection
import RelationalQuery.Proofs.Sql.Segments
import RelationalQuery.Proofs.Compile.Declarations
import RelationalQuery.Proofs.Filter.Expansion
import RelationalQuery.Proofs.Sql.Names
