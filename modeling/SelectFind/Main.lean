import SelectFind.Command.Run

/-!
# The program

Reads what a command works on, runs it and prints its report.
-/

namespace SelectFind.Main

/-- Why a file could not be read. The code of the system comes with either sign. -/
def readError : IO.Error → ReadError
  | .noFileOrDirectory .. => .absent
  | .inappropriateType _ code _ =>
    if code = 20 ∨ code + 20 = 0 then .notDirectory else .isDirectory
  | _ => .absent

/-- The text of a file. -/
def readText (path : String) : IO (Except ReadError String) := do
  try
    return decodeText (← IO.FS.readBinFile path)
  catch e =>
    return .error (readError e)

/-- All bytes of the standard input. -/
def readInput : IO (List UInt8) := do
  let stdin ← IO.getStdin
  let mut bytes := ByteArray.empty
  repeat
    let chunk ← stdin.read 65536
    if chunk.isEmpty then break
    bytes := bytes ++ chunk
  return bytes.toList

/-- Runs a command with the file or the input that it works on. -/
def runCommand (session : Session) : Command → IO Report
  | .query sql => return session.query sql
  | .file path => return Batch.runFile session path (← readText path)
  | .shell => do
    let history := Shell.History.ofText (← readText Shell.historyFile)
    return Shell.run session history (← readInput)

/-- Runs a command line. -/
def runArguments (args : List String) : IO Report :=
  match Invocation.ofArguments? args with
  | none => return Command.misuse
  | some .version => return Command.versionReport
  | some (.run options command) => runCommand (.ofOptions options) command

end SelectFind.Main

/-- Runs the command line and prints its report. -/
def main (args : List String) : IO UInt32 := do
  let report ← SelectFind.Main.runArguments args
  IO.print report.output
  IO.eprint report.diagnostics
  return UInt32.ofNat report.exitCode
