import SelectFind.Command.Batch
import SelectFind.Command.Shell

/-!
# Running a command line

A command line is run in a directory and with an input. One that is out of place is answered with
exit code 2.
Spec guidance: translator specification §6.
-/

namespace SelectFind.Command

/-- What is printed for the version. -/
def versionText : String := "mongosql 0.1.0\n"

/-- What is told of arguments that are out of place. The words are this program's own: those for
the single faults are left out, and so are the help pages of `--help`, `-h` and `help`, which are
out of place here. -/
def usageText : String :=
  "Usage: msql [OPTIONS] [query <SQL> | file <PATH> | shell]\n"

/-- The report on arguments that are out of place. -/
def misuse : Report := ⟨2, "", usageText⟩

/-- The report of the version. -/
def versionReport : Report := ⟨0, versionText, ""⟩

/-- Runs a command. -/
def run (session : Session) (directory : Directory) (input : List UInt8) : Command → Report
  | query sql => session.query sql
  | file path => Batch.runFile session path (directory.readText path)
  | shell => Shell.run session (.ofText (directory.readText Shell.historyFile)) input

/-- Runs a command line. Specification §6. -/
def runArguments (args : List String) (directory : Directory) (input : List UInt8) : Report :=
  match Invocation.ofArguments? args with
  | none => misuse
  | some .version => versionReport
  | some (.run options command) => command.run (.ofOptions options) directory input

end SelectFind.Command
