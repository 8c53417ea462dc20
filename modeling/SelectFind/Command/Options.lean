import SelectFind.Log

/-!
# The command line

Options come first, then the name of a command and what it works on; without a command the shell is
started. Arguments are read from left to right, and the first that is out of place ends the reading;
so does a request for the version. Letters of short options may share one argument; a database may
be joined to its option, with or without an equals sign. Behind `--` an argument of a command may
start with a hyphen.
Spec guidance: translator specification §6.
-/

namespace SelectFind

/-- What the program is asked to do. Specification §6. -/
inductive Command where
  | query (sql : String)
  | file (path : String)
  | shell
  deriving DecidableEq, Repr

/-- The options that were given. Specification §6. -/
structure Options where
  database : Option String := none
  lenient : Bool := false
  ast : Bool := false
  verbosity : Nat := 0
  deriving DecidableEq, Repr

/-- What a command line asks for. -/
inductive Invocation where
  | version
  | run (options : Options) (command : Command)
  deriving DecidableEq, Repr

/-- An argument by its first characters. -/
inductive Argument where
  /-- Two hyphens alone. -/
  | terminator
  /-- Two hyphens and a name, with a value behind an equals sign if there is one. -/
  | long (name : String) (value : Option String)
  /-- A hyphen and letters. -/
  | short (letters : List Char)
  /-- Anything else; a hyphen alone and the empty text too. -/
  | plain (text : String)
  deriving DecidableEq, Repr

/-- The kind of an argument. -/
def Argument.ofString (s : String) : Argument :=
  match s.toList with
  | ['-', '-'] => terminator
  | '-' :: '-' :: cs =>
    let name := String.ofList (cs.takeWhile (· ≠ '='))
    match cs.dropWhile (· ≠ '=') with
    | [] => long name none
    | _ :: value => long name (some (String.ofList value))
  | '-' :: c :: cs => short (c :: cs)
  | _ => plain s

namespace Options

/-- What comes of an argument that holds options. -/
inductive Outcome where
  /-- The next argument can be read. -/
  | further (options : Options)
  /-- The next argument must be the name of the database. -/
  | awaiting (options : Options)
  /-- The version is asked for. -/
  | version
  /-- The argument is out of place. -/
  | fault
  deriving DecidableEq, Repr

/-- Names the database, which can be done once. -/
def nameDatabase (options : Options) (database : String) : Outcome :=
  match options.database with
  | none => .further { options with database := some database }
  | some _ => .fault

/-- Takes a long option. The help page is left out: `--help` is a name like any that is not known,
where a command line with that page would print it and exit with code 0. -/
def takeLong (options : Options) (name : String) (value : Option String) : Outcome :=
  match name, value with
  | "database", some database => options.nameDatabase database
  | "database", none => .awaiting options
  | "lenient", none => if options.lenient then .fault else .further { options with lenient := true }
  | "ast", none => if options.ast then .fault else .further { options with ast := true }
  | "verbose", none => .further { options with verbosity := options.verbosity + 1 }
  | "version", none => .version
  | _, _ => .fault

/-- Takes short options that share an argument. The help page is left out here as well: `-h` is a
letter like any that is not known. -/
def takeShort (options : Options) : List Char → Outcome
  | [] => .further options
  | 'v' :: letters => takeShort { options with verbosity := options.verbosity + 1 } letters
  | 'V' :: _ => .version
  | ['d'] => .awaiting options
  | 'd' :: '=' :: database => options.nameDatabase (String.ofList database)
  | 'd' :: database => options.nameDatabase (String.ofList database)
  | _ => .fault

/-- Takes an argument that holds options. -/
def take (options : Options) : Argument → Outcome
  | .long name value => options.takeLong name value
  | .short letters => options.takeShort letters
  | _ => .fault

/-- Takes the argument behind an option that awaits the name of the database. -/
def takeValue (options : Options) : Argument → Outcome
  | .plain database => options.nameDatabase database
  | _ => .fault

/-- How much detail is shown of what happens. Specification §6. -/
def level (options : Options) : Level :=
  match options.verbosity with
  | 0 => .warn
  | 1 => .debug
  | _ => .trace

end Options

namespace Command

/-- What a command works on: arguments without a hyphen, and those behind the first `--`. -/
def operands? : List String → Option (List String)
  | [] => some []
  | arg :: args =>
    match Argument.ofString arg with
    | .terminator => some args
    | .plain text => (operands? args).map (text :: ·)
    | _ => none

/-- The command of a name and the arguments behind it. The command `help`, which would print the
help pages and exit with code 0, is left out and refused like any name that is not known. -/
def ofArguments? (name : String) (args : List String) : Option Command :=
  match name, operands? args with
  | "query", some [sql] => some (query sql)
  | "file", some [path] => if path == "" then none else some (file path)
  | "shell", some [] => some shell
  | _, _ => none

end Command

namespace Invocation

/-- Reads the arguments behind some options. -/
def read? (options : Options) : List String → Option Invocation
  | [] => some (run options .shell)
  | arg :: args =>
    match Argument.ofString arg with
    | .terminator => if args.isEmpty then some (run options .shell) else none
    | .plain name => (Command.ofArguments? name args).map (run options)
    | argument =>
      match options.take argument, args with
      | .further options, args => read? options args
      | .awaiting options, value :: args =>
        match options.takeValue (Argument.ofString value) with
        | .further options => read? options args
        | _ => none
      | .awaiting _, [] => none
      | .version, _ => some version
      | .fault, _ => none

/-- What the arguments ask for; none if one of them is out of place. -/
def ofArguments? (args : List String) : Option Invocation := read? {} args

end Invocation
end SelectFind
