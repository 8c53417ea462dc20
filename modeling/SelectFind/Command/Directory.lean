/-!
# The working directory

A command sees a directory of files and empty directories by their names, and a path leads to one of
them. What is put under a name takes the place of what was there. A path is walked from part to
part: a point stays, two points go up, and nothing can lie below a file. Of what lies outside the
directory nothing is known but that it is no file.
-/

namespace SelectFind

/-- Why a file cannot be read as text. -/
inductive ReadError where
  | absent
  | isDirectory
  | notDirectory
  | notText
  deriving DecidableEq, Repr

/-- The words for a file that cannot be read. -/
def ReadError.message : ReadError → String
  | absent => "No such file or directory (os error 2)"
  | isDirectory => "Is a directory (os error 21)"
  | notDirectory => "Not a directory (os error 20)"
  | notText => "stream did not contain valid UTF-8"

/-- The text of bytes that are UTF-8. -/
def decodeText (bytes : ByteArray) : Except ReadError String :=
  match String.fromUTF8? bytes with
  | some text => .ok text
  | none => .error .notText

/-- What a name in a directory stands for. -/
inductive Entry where
  | file (bytes : ByteArray)
  | directory

/-- The entries of a directory by name. -/
structure Directory where
  entries : List (String × Entry)

namespace Directory

/-- The directory with nothing in it. -/
def empty : Directory := ⟨[]⟩

/-- What a name stands for. -/
def get? (directory : Directory) (name : String) : Option Entry := directory.entries.lookup name

/-- Puts an entry under a name, in the place of what was there. -/
def put (directory : Directory) (name : String) (entry : Entry) : Directory :=
  ⟨(name, entry) :: directory.entries.filter (·.1 != name)⟩

/-- The directory after the entries were put into it one by one. -/
def ofList (entries : List (String × Entry)) : Directory :=
  entries.foldl (fun directory e => directory.put e.1 e.2) empty

/-- Where a path has led so far. -/
inductive Place where
  /-- The directory itself. -/
  | here
  /-- One of the directories in it. -/
  | below
  /-- A directory outside. -/
  | outside
  /-- A file with its bytes. -/
  | file (bytes : ByteArray)

/-- Goes on by one part of a path. -/
def walk (directory : Directory) (place : Place) (part : String) : Except ReadError Place :=
  match place with
  | .file _ => .error .notDirectory
  | .here =>
    if part == "" || part == "." then .ok .here
    else if part == ".." then .ok .outside
    else
      match directory.get? part with
      | some (.file bytes) => .ok (.file bytes)
      | some .directory => .ok .below
      | none => .error .absent
  | .below =>
    if part == "" || part == "." then .ok .below
    else if part == ".." then .ok .here
    else .error .absent
  | .outside => if part == "" || part == "." || part == ".." then .ok .outside else .error .absent

/-- The parts of a path between slashes. -/
def parts : List Char → List (List Char)
  | [] => [[]]
  | c :: cs =>
    if c = '/' then [] :: parts cs
    else
      match parts cs with
      | [] => [[c]]
      | part :: rest => (c :: part) :: rest

/-- The bytes of the file that a path leads to. -/
def read (directory : Directory) (path : String) : Except ReadError ByteArray := do
  let cs := path.toList
  let start : Place := if cs.head? = some '/' then .outside else .here
  match ← ((parts cs).map String.ofList).foldlM directory.walk start with
  | .file bytes => .ok bytes
  | _ => .error .isDirectory

/-- The text of the file that a path leads to. -/
def readText (directory : Directory) (path : String) : Except ReadError String := do
  decodeText (← directory.read path)

end Directory
end SelectFind
