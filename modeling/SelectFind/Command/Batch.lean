import SelectFind.Command.Directory
import SelectFind.Command.Report
import SelectFind.Text.Blank
import SelectFind.Text.Lines

/-!
# Files of statements

Each line of a file is a statement, trimmed of blanks; blank lines and those that start with two
hyphens are passed over. Every statement is answered on its own, and the run fails if any of them
did.
Spec guidance: translator specification §6.
-/

namespace SelectFind.Batch

/-- The lines of a text, trimmed. -/
def trimmedLines (text : String) : List String :=
  (Text.lines '\n' text.toList).map fun line => String.ofList (Text.trimBlanks line.content)

/-- A trimmed line that holds a statement: it is not blank and no comment. Specification §6. -/
def isStatement (line : String) : Bool :=
  !line.toList.isEmpty && !"--".toList.isPrefixOf line.toList

/-- The statements of a text. -/
def statements (text : String) : List String := (trimmedLines text).filter isStatement

/-- What is printed for a statement. Specification §6. -/
def entry (session : Session) (sql : String) : String :=
  match session.answer sql with
  | .ok answer => sql ++ " -> " ++ answer ++ "\n"
  | .error e => sql ++ " -> error: " ++ e.message ++ "\n"

/-- The statement was answered. -/
def succeeds (session : Session) (sql : String) : Bool := (session.answer sql).isOk

/-- Answers every statement of a text. Specification §6. -/
def run (session : Session) (text : String) : Report :=
  let sqls := statements text
  { exitCode := if sqls.all (succeeds session) then 0 else 1
    output := String.join (sqls.map (entry session))
    diagnostics := session.told (sqls.flatMap session.events) }

/-- The report on a file that cannot be read. -/
def unreadable (path : String) (e : ReadError) : Report where
  exitCode := 1
  output := ""
  diagnostics :=
    "Error: Failed to read statements from " ++ path ++ "\n\nCaused by:\n    " ++ e.message ++ "\n"

/-- Answers every statement of a file whose text was asked for. -/
def runFile (session : Session) (path : String) (text : Except ReadError String) : Report :=
  match text with
  | .ok text => run session text
  | .error e => unreadable path e

end SelectFind.Batch
