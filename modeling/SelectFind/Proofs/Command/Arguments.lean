import SelectFind.Command.Run

/-!
# The arguments of a command

Every choice of options and every command has a command line: the options in their long form, then
the name of the command and behind `--` what it works on. Reading this command line gives back the
options and the command, so that running it is running the command under the options.
-/

namespace SelectFind

/-- The arguments that give the options. -/
def Options.arguments (options : Options) : List String :=
  (options.database.map fun database ↦ "--database=" ++ database).toList ++
    (if options.lenient then ["--lenient"] else []) ++ (if options.ast then ["--ast"] else []) ++
    List.replicate options.verbosity "--verbose"

/-- The arguments that give the command. -/
def Command.arguments : Command → List String
  | query sql => ["query", "--", sql]
  | file path => ["file", "--", path]
  | shell => ["shell"]

namespace Invocation

private theorem read?_long (options further : Options) (arg : String) (args : List String)
    (name : String) (value : Option String) (ha : Argument.ofString arg = .long name value)
    (ht : options.takeLong name value = .further further) :
    read? options (arg :: args) = read? further args := by
  rw [read?, ha]
  simp only [Options.take, ht]

private theorem read?_database (options : Options) (h : options.database = none)
    (database : Option String) (args : List String) :
    read? options ((database.map fun database ↦ "--database=" ++ database).toList ++ args) =
      read? { options with database } args := by
  obtain ⟨_, lenient, ast, verbosity⟩ := options
  obtain rfl : _ = none := h
  cases database with
  | none => rfl
  | some database =>
    have ha : Argument.ofString ("--database=" ++ database) = .long "database" (some database) := by
      simp [Argument.ofString, String.toList_append]
    exact read?_long _ _ _ args _ _ ha rfl

private theorem read?_lenient (options : Options) (h : options.lenient = false) (lenient : Bool)
    (args : List String) :
    read? options ((if lenient then ["--lenient"] else []) ++ args) =
      read? { options with lenient } args := by
  obtain ⟨database, _, ast, verbosity⟩ := options
  obtain rfl : _ = false := h
  cases lenient with
  | false => rfl
  | true => exact read?_long _ _ _ args "lenient" none (by decide) rfl

private theorem read?_ast (options : Options) (h : options.ast = false) (ast : Bool)
    (args : List String) :
    read? options ((if ast then ["--ast"] else []) ++ args) = read? { options with ast } args := by
  obtain ⟨database, lenient, _, verbosity⟩ := options
  obtain rfl : _ = false := h
  cases ast with
  | false => rfl
  | true => exact read?_long _ _ _ args "ast" none (by decide) rfl

private theorem read?_verbose (options : Options) (n : Nat) (args : List String) :
    read? options (List.replicate n "--verbose" ++ args) =
      read? { options with verbosity := options.verbosity + n } args := by
  induction n generalizing options with
  | zero => rfl
  | succ n ih =>
    have hs := read?_long options { options with verbosity := options.verbosity + 1 } "--verbose"
      (List.replicate n "--verbose" ++ args) "verbose" none (by decide) rfl
    rw [List.replicate_succ, List.cons_append, hs, ih]
    simp only [Nat.add_assoc, Nat.add_comm 1 n]

private theorem read?_arguments (options : Options) (args : List String) :
    read? {} (options.arguments ++ args) = read? options args := by
  simp only [Options.arguments, List.append_assoc]
  rw [read?_database _ rfl, read?_lenient _ rfl, read?_ast _ rfl, read?_verbose, Nat.zero_add]

/-- The command line of a command asks for it under the options; only the empty path has none. -/
theorem ofArguments?_arguments (options : Options) (command : Command) (h : command ≠ .file "") :
    ofArguments? (options.arguments ++ command.arguments) = some (.run options command) := by
  rw [ofArguments?, read?_arguments]
  cases command with
  | query sql => rfl
  | shell => rfl
  | file path =>
    have hp : path ≠ "" := by
      rintro rfl
      exact h rfl
    have ho : Command.operands? ["--", path] = some [path] := rfl
    have hn : Argument.ofString "file" = .plain "file" := by decide
    simp [Command.arguments, read?, hn, Command.ofArguments?, ho, hp]

end Invocation

namespace Command

/-- What the command line of a command leaves behind. -/
def called (command : Command) (options : Options) (directory : Directory) (input : List UInt8) :
    Report :=
  runArguments (options.arguments ++ command.arguments) directory input

/-- The command line of a command runs it in the session of the options. -/
theorem called_eq_run (command : Command) (h : command ≠ .file "") (options : Options)
    (directory : Directory) (input : List UInt8) :
    command.called options directory input = command.run (.ofOptions options) directory input := by
  rw [called, runArguments, Invocation.ofArguments?_arguments options command h]

/-- The empty path is out of place. -/
theorem called_empty_path (options : Options) (directory : Directory) (input : List UInt8) :
    (file "").called options directory input = misuse := by
  rw [called, runArguments, Invocation.ofArguments?, Invocation.read?_arguments]
  rfl

end Command
end SelectFind
