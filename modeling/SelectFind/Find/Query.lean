import SelectFind.Statement.Basic
import SelectFind.Statement.Error

/-!
# Find queries

A statement is written as a call of `find` on the collection of its table. The first argument is the
empty filter, the second shows the columns if they are named; `skip` and `limit` follow. A name that
was quoted stands between single quotes as it is. A condition has no filter yet.
Spec guidance: translator specification §4.3.
-/

namespace SelectFind

/-- What keeps a statement from being written as a query. Specification §7. -/
inductive RenderError where
  /-- It holds a condition. -/
  | condition
  deriving DecidableEq, Repr

namespace RenderError

/-- The kind of failure. -/
def kind (_ : RenderError) : ErrorKind := .unsupported

/-- The words for a failure. -/
def message : RenderError → String
  | condition => Clause.condition.word ++ " is not supported"

end RenderError

namespace Find

/-- The collection of a table, behind the name of the database. Specification §4.3. -/
def collection (table : Identifier) : String :=
  if table.quoted then "['" ++ table.name ++ "']" else "." ++ table.name

/-- A column of the projection. Specification §4.3. -/
def field (column : Identifier) : String :=
  if column.quoted then "'" ++ column.name ++ "': 1" else column.name ++ ": 1"

/-- What opens a document. -/
def openBrace : String := String.singleton '{'

/-- What closes a document. -/
def closeBrace : String := String.singleton '}'

/-- The columns that are shown. Specification §4.3. -/
def projection (columns : Columns) : String :=
  openBrace ++ String.intercalate "," (columns.toList.map field) ++ closeBrace

/-- The arguments of a call of `find` without a condition. Specification §4.3. -/
def arguments (columns : Option Columns) : String :=
  match columns with
  | none => "{}"
  | some columns => "{}, " ++ projection columns

/-- A call of a method with a count, if there is one. Specification §4.3. -/
def countCall (method : String) (count : Option UInt64) : String :=
  match count with
  | none => ""
  | some n => "." ++ method ++ "(" ++ Text.decimal n.toNat ++ ")"

/-- What follows the name of the database in the query of a statement without a condition. -/
def body (statement : Statement) : String :=
  collection statement.table ++ ".find(" ++ arguments statement.columns ++ ")" ++
    countCall "skip" statement.offset ++ countCall "limit" statement.limit

/-- The query of a statement on a database. Specification §4.3. -/
def query (database : String) (statement : Statement) : Except RenderError String :=
  match statement.condition with
  | some _ => .error .condition
  | none => .ok (database ++ body statement)

end Find
end SelectFind
