import SelectFind.Command.Directory
import SelectFind.Command.Report
import SelectFind.Text.Backspace
import SelectFind.Text.Blank
import SelectFind.Text.Lines

/-!
# The shell

The shell reads its input line by line and answers each line before the next. Backspaces edit their
line as if it were typed. A line is then trimmed of blanks; a blank one is passed over, `help`
prints the help text, `exit` and `quit` leave, and any other is a statement. The end of the input
leaves as well, and so does a line that is not UTF-8.
Spec guidance: translator specification §6.
-/

namespace SelectFind.Shell

/-- What a line asks for. Specification §6. -/
inductive Entry where
  | blank
  | leave
  | help
  | statement (sql : String)
  deriving DecidableEq, Repr

/-- What a line asks for. No character outside ASCII has a lower case among the letters of the
commands, so that folding ASCII letters is enough. -/
def Entry.ofLine (line : String) : Entry :=
  let text := Text.trim line
  if text == "" then blank
  else if Text.sameWord text "exit" || Text.sameWord text "quit" then leave
  else if Text.sameWord text "help" then help
  else statement text

/-- What is printed on entering. -/
def banner : String := "Welcome to msql. Type 'help' for assistance or 'exit' to quit.\n"

/-- What is printed for help. -/
def helpText : String :=
  "Supported statements:\n" ++
  "  SELECT * FROM <table>                 - Find every document\n" ++
  "  SELECT a, b FROM <table>              - Project fields a and b\n" ++
  "  ... OFFSET <n>                        - Skip the first n documents\n" ++
  "  ... LIMIT <m>                         - Return at most m documents\n" ++
  "\n" ++
  "Names containing spaces can be quoted with \", ' or `.\n" ++
  "WHERE clauses are recognized but not translated yet.\n" ++
  "\n" ++
  "Other commands:\n" ++
  "  help                                  - Display this help message\n" ++
  "  exit                                  - Exit the shell\n"

/-- The name of the file that keeps the lines of earlier runs. Specification §6. -/
def historyFile : String := ".msql_history"

/-- What can be done with the history file. -/
structure History where
  loadable : Bool
  savable : Bool
  deriving DecidableEq, Repr

/-- The history by what reading its file gave: text can be loaded, and only a directory of that name
keeps the history from being saved. -/
def History.ofText : Except ReadError String → History
  | .ok _ => ⟨true, true⟩
  | .error .isDirectory => ⟨false, false⟩
  | .error _ => ⟨false, true⟩

/-- The line feed. -/
def lineFeed : UInt8 := 10

/-- The carriage return. -/
def carriageReturn : UInt8 := 13

/-- The text of a line without a carriage return in front of its line feed, after its backspaces
took back what they stand behind; none if it is not UTF-8. -/
def lineText? (line : Text.Line UInt8) : Option String :=
  let content :=
    if line.ended ∧ line.content.getLast? = some carriageReturn then line.content.dropLast
    else line.content
  (String.fromUTF8? ⟨content.toArray⟩).map Text.applyBackspaces

/-- The lines of the input. -/
def inputLines (input : List UInt8) : List (Option String) :=
  (Text.lines lineFeed input).map lineText?

/-- What is printed for a statement. -/
def reply (session : Session) (sql : String) : String :=
  match session.answer sql with
  | .ok answer => answer ++ "\n"
  | .error e => "Error: " ++ e.message ++ "\n"

/-- What is printed from a line on. Specification §6. -/
def transcript (session : Session) : List (Option String) → String
  | [] => "CTRL-D\n"
  | none :: _ => "Error: " ++ ReadError.notText.message ++ "\n"
  | some line :: lines =>
    match Entry.ofLine line with
    | .blank => transcript session lines
    | .leave => "Goodbye!\n"
    | .help => helpText ++ transcript session lines
    | .statement sql => reply session sql ++ transcript session lines

/-- The lines that are read before the shell is left, with the one that leaves it. -/
def linesRead : List (Option String) → List String
  | [] => []
  | none :: _ => []
  | some line :: lines =>
    match Entry.ofLine line with
    | .leave => [line]
    | _ => line :: linesRead lines

/-- The events of a line. -/
def lineEvents (session : Session) (line : String) : List Event :=
  match Entry.ofLine line with
  | .statement sql => session.events sql
  | _ => []

/-- What is printed on leaving: lines that were read can be saved unless there is a directory in the
way. -/
def farewell (history : History) (lines : List String) : String :=
  if history.savable || lines.all (· == "") then ""
  else "Error saving history: " ++ ReadError.isDirectory.message ++ "\n"

/-- Runs the shell on its input. Specification §6. -/
def run (session : Session) (history : History) (input : List UInt8) : Report :=
  let lines := inputLines input
  let read := linesRead lines
  let loading : List Event := if history.loadable then [] else [.noHistory historyFile]
  { exitCode := 0
    output := banner ++ transcript session lines ++ farewell history read
    diagnostics := session.told (loading ++ read.flatMap (lineEvents session)) }

end SelectFind.Shell
