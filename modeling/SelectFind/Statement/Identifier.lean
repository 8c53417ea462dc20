import SelectFind.Statement.Clause
import SelectFind.Token.Delimiter

/-!
# Names

A name is bare or was written between delimiters; what stands between them is kept as it is, escapes
included. The columns of a statement are one or more names in order.
Spec guidance: translator specification §3 and §4.2.
-/

namespace SelectFind

/-- The name of a table or column, and whether it was written between delimiters. Specification §3.
-/
structure Identifier where
  name : String
  quoted : Bool
  deriving DecidableEq, Repr

/-- What keeps a token from being a name. Specification §4.2 and §7. -/
inductive NameFault where
  /-- It has no character. -/
  | empty
  /-- It opens with a delimiter and does not end with the same one. -/
  | unclosed
  /-- It is the comma or the asterisk. -/
  | punctuation
  /-- It is a reserved word. -/
  | reserved
  deriving DecidableEq, Repr

namespace Identifier

/-- The name that a token is. Specification §4.2, `Name`. -/
def ofToken (token : String) : Except NameFault Identifier :=
  match token.toList with
  | [] => .error .empty
  | c :: cs =>
    match Delimiter.ofChar? c with
    | some d =>
      if cs.getLast? = some d.char then .ok ⟨String.ofList cs.dropLast, true⟩ else .error .unclosed
    | none =>
      if token == Token.separator || token == Token.wildcard then .error .punctuation
      else if isReserved token then .error .reserved
      else .ok ⟨token, false⟩

end Identifier

/-- One or more names in order. Specification §3. -/
structure Columns where
  first : Identifier
  others : List Identifier
  deriving DecidableEq, Repr

namespace Columns

/-- The names in order. -/
def toList (columns : Columns) : List Identifier := columns.first :: columns.others

/-- The columns of a row of names, which must not be empty. Specification §3. -/
def ofList? : List Identifier → Option Columns
  | [] => none
  | first :: others => some ⟨first, others⟩

/-- What is said of an empty row of names. -/
def emptyMessage : String := "identifier list must not be empty"

/-- The number of names. -/
def length (columns : Columns) : Nat := columns.toList.length

/-- The number of names that were written between delimiters. -/
def countQuoted (columns : Columns) : Nat := columns.toList.countP Identifier.quoted

/-- The columns of a row are those whose names it lists. -/
theorem ofList?_eq_some_iff {names : List Identifier} {columns : Columns} :
    ofList? names = some columns ↔ names = columns.toList := by
  cases names <;> cases columns <;> simp [ofList?, toList]

end Columns
end SelectFind
