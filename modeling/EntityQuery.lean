import EntityQuery.Calendar.Date
import EntityQuery.Calendar.DateTime
import EntityQuery.Calendar.Part
import EntityQuery.Canonical
import EntityQuery.Clause
import EntityQuery.Decimal
import EntityQuery.Direction
import EntityQuery.Emission
import EntityQuery.Json
import EntityQuery.Json.OfText
import EntityQuery.Json.Token
import EntityQuery.Lexeme
import EntityQuery.Lexeme.Keyword
import EntityQuery.Lexeme.OfText
import EntityQuery.Lexeme.Timestamp
import EntityQuery.Main
import EntityQuery.Operator
import EntityQuery.Proofs.Calendar
import EntityQuery.Proofs.Canonical.Conditions
import EntityQuery.Proofs.Canonical.Names
import EntityQuery.Proofs.Canonical.ReadBack
import EntityQuery.Proofs.Canonical.RoundTrip
import EntityQuery.Proofs.Decimal
import EntityQuery.Proofs.Emission
import EntityQuery.Proofs.Emission.Reset
import EntityQuery.Proofs.Emission.Trace
import EntityQuery.Proofs.Grammar
import EntityQuery.Proofs.Grammar.Clauses
import EntityQuery.Proofs.Grammar.FirstFault
import EntityQuery.Proofs.Grammar.Prefix
import EntityQuery.Proofs.Grammar.Reading
import EntityQuery.Proofs.Grammar.Recognition
import EntityQuery.Proofs.Grammar.Recovery
import EntityQuery.Proofs.Grammar.Tree
import EntityQuery.Proofs.Grammar.Viable
import EntityQuery.Proofs.Lexeme.Boundary
import EntityQuery.Proofs.Lexeme.Bytes
import EntityQuery.Proofs.Lexeme.Delimited
import EntityQuery.Proofs.Lexeme.Layout
import EntityQuery.Proofs.Lexeme.Literal
import EntityQuery.Proofs.Lexeme.OfText
import EntityQuery.Proofs.Lexeme.Separator
import EntityQuery.Proofs.Lexeme.Spelling
import EntityQuery.Proofs.Lexeme.Timestamp
import EntityQuery.Proofs.Query.Connectives
import EntityQuery.Proofs.Query.Grouping
import EntityQuery.Proofs.Query.Markers
import EntityQuery.Proofs.Query.Meaning
import EntityQuery.Proofs.Query.OfSentence
import EntityQuery.Proofs.Query.Outcome
import EntityQuery.Proofs.Query.Places
import EntityQuery.Proofs.Query.Relaid
import EntityQuery.Proofs.Query.RowCount
import EntityQuery.Proofs.Session
import EntityQuery.Proofs.Sql.Clauses
import EntityQuery.Proofs.Sql.Filter
import EntityQuery.Proofs.Sql.Operands
import EntityQuery.Proofs.Sql.Refusal
import EntityQuery.Proofs.Text.Numeral
import EntityQuery.Proofs.Text.Quoted
import EntityQuery.Proofs.Tree.Acceptance
import EntityQuery.Proofs.Tree.Isolation
import EntityQuery.Proofs.Tree.Line
import EntityQuery.Proofs.Tree.Nodes
import EntityQuery.Proofs.Tree.Pieces
import EntityQuery.Proofs.Tree.Places
import EntityQuery.Proofs.Tree.Positions
import EntityQuery.Proofs.Tree.Turns
import EntityQuery.Proofs.Unicode
import EntityQuery.Proofs.Value
import EntityQuery.Proofs.Value.Numbers
import EntityQuery.Proofs.Value.Strings
import EntityQuery.Query
import EntityQuery.Query.Fault
import EntityQuery.Query.OfTree
import EntityQuery.Query.ToJson
import EntityQuery.Session
import EntityQuery.Session.Report
import EntityQuery.Settings
import EntityQuery.Span
import EntityQuery.Sql.Assembly
import EntityQuery.Sql.Condition
import EntityQuery.Sql.Dialect
import EntityQuery.Sql.Statement
import EntityQuery.Text
import EntityQuery.Text.Lowercase
import EntityQuery.Text.Numeral
import EntityQuery.Text.Quoted
import EntityQuery.Text.Shown
import EntityQuery.Tree
import EntityQuery.Tree.Condition
import EntityQuery.Tree.Fault
import EntityQuery.Tree.OfTokens
import EntityQuery.Unicode.Alphabetic
import EntityQuery.Unicode.Blank
import EntityQuery.Unicode.Cased
import EntityQuery.Unicode.Extender
import EntityQuery.Unicode.Ignorable
import EntityQuery.Unicode.Lowercase
import EntityQuery.Unicode.Number
import EntityQuery.Unicode.Printable
import EntityQuery.Unicode.Ranges
import EntityQuery.Value
