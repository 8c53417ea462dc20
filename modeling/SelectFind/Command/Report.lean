import SelectFind.Command.Options
import SelectFind.Statement.Json
import SelectFind.Json.Printer

/-!
# Sessions and reports

A session holds the choices of a command line and answers statement texts, with the query or with
the statement as JSON. A report is what a command leaves behind: an exit code, what it printed and
what it told beside that. Events are told one to a line, and a line that breaks goes on four blanks
further in.
Spec guidance: translator specification §6.
-/

namespace SelectFind

/-- What a command leaves behind. -/
structure Report where
  exitCode : Nat
  output : String
  diagnostics : String
  deriving DecidableEq, Repr

namespace Event

/-- The level, filled up to five characters. -/
def paddedLevel (event : Event) : String :=
  let name := event.level.name
  name ++ String.ofList (List.replicate (5 - name.length) ' ')

/-- The message with its later lines four blanks in. -/
def indentedMessage (event : Event) : String :=
  String.ofList (event.message.toList.flatMap fun c => if c = '\n' then "\n    ".toList else [c])

/-- An event as a line. -/
def line (event : Event) : String :=
  "[" ++ event.paddedLevel ++ " " ++ event.origin ++ "] " ++ event.indentedMessage ++ "\n"

end Event

/-- The choices that statement texts are answered by. Specification §6. -/
structure Session where
  settings : Settings
  ast : Bool
  level : Level
  deriving DecidableEq, Repr

namespace Session

/-- The session of some options. -/
def ofOptions (options : Options) : Session where
  settings :=
    { database := options.database.getD Settings.standard.database
      leftover := if options.lenient then .ignore else .reject }
  ast := options.ast
  level := options.level

/-- The answer to a statement text. -/
def answer (session : Session) (sql : String) : Except Error String :=
  if session.ast then
    (Statement.ofText session.settings sql).map fun statement => statement.toJson.pretty
  else Find.ofText session.settings sql

/-- The events of answering a statement text. -/
def events (session : Session) (sql : String) : List Event :=
  if session.ast then Statement.textEvents session.settings sql
  else Find.textEvents session.settings sql

/-- The lines of the events that the session shows. -/
def told (session : Session) (events : List Event) : String :=
  String.join ((events.filter (Event.isSeenAt session.level)).map Event.line)

/-- Answers one statement text. Specification §6. -/
def query (session : Session) (sql : String) : Report :=
  let told := session.told (session.events sql)
  match session.answer sql with
  | .ok answer => ⟨0, answer ++ "\n", told⟩
  | .error e => ⟨1, "", told ++ "Error translating query: " ++ e.message ++ "\n"⟩

end Session
end SelectFind
