import SelectFind.Command.Batch
import SelectFind.Command.Directory
import SelectFind.Command.Options
import SelectFind.Command.Report
import SelectFind.Command.Run
import SelectFind.Command.Samples
import SelectFind.Command.Shell
import SelectFind.Find.Query
import SelectFind.Json.Basic
import SelectFind.Json.Form
import SelectFind.Json.Printer
import SelectFind.Json.Reader
import SelectFind.Log
import SelectFind.Main
import SelectFind.Proofs.Command.Answer
import SelectFind.Proofs.Command.Arguments
import SelectFind.Proofs.Command.Batch
import SelectFind.Proofs.Command.FrontEnds
import SelectFind.Proofs.Command.Input
import SelectFind.Proofs.Command.Transcript
import SelectFind.Proofs.Find.Legible
import SelectFind.Proofs.Find.Literal
import SelectFind.Proofs.Json.Form
import SelectFind.Proofs.Json.Reading
import SelectFind.Proofs.Json.Text
import SelectFind.Proofs.Json.Tokens
import SelectFind.Proofs.Json.Writing
import SelectFind.Proofs.Statement.Acceptance
import SelectFind.Proofs.Statement.Calls
import SelectFind.Proofs.Statement.ConditionText
import SelectFind.Proofs.Statement.Counts
import SelectFind.Proofs.Statement.Coupling
import SelectFind.Proofs.Statement.Ending
import SelectFind.Proofs.Statement.Failure
import SelectFind.Proofs.Statement.Grammar
import SelectFind.Proofs.Statement.Json
import SelectFind.Proofs.Statement.Leftover
import SelectFind.Proofs.Statement.LexedNames
import SelectFind.Proofs.Statement.Names
import SelectFind.Proofs.Statement.OneLine
import SelectFind.Proofs.Statement.Recognition
import SelectFind.Proofs.Statement.Recognizer
import SelectFind.Proofs.Statement.Refusal
import SelectFind.Proofs.Statement.Respelling
import SelectFind.Proofs.Statement.Resumption
import SelectFind.Proofs.Statement.Spelling
import SelectFind.Proofs.Statement.Viable
import SelectFind.Proofs.Statement.WellFormed
import SelectFind.Proofs.Statement.Written
import SelectFind.Proofs.Text.Lines
import SelectFind.Proofs.Text.Numeral
import SelectFind.Proofs.Text.Splitting
import SelectFind.Proofs.Token.Enclosed
import SelectFind.Proofs.Token.Escape
import SelectFind.Proofs.Token.Kind
import SelectFind.Proofs.Token.Layout
import SelectFind.Proofs.Token.Padding
import SelectFind.Proofs.Token.Parity
import SelectFind.Proofs.Token.Stream
import SelectFind.Proofs.Token.Unclosed
import SelectFind.Settings
import SelectFind.Settings.Json
import SelectFind.Statement.Basic
import SelectFind.Statement.Clause
import SelectFind.Statement.Condition
import SelectFind.Statement.Error
import SelectFind.Statement.Identifier
import SelectFind.Statement.Json
import SelectFind.Statement.Parser
import SelectFind.Statement.Text
import SelectFind.Text.Backspace
import SelectFind.Text.Blank
import SelectFind.Text.Cluster
import SelectFind.Text.Cluster.Kind
import SelectFind.Text.Decimal
import SelectFind.Text.Fold
import SelectFind.Text.Lines
import SelectFind.Text.Printable
import SelectFind.Text.Quoted
import SelectFind.Token.Delimiter
import SelectFind.Token.Lexer
