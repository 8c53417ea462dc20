import SelectFind.Text.Fold

/-!
# Clauses and their reserved words

Each clause of a statement is opened by a reserved word, in any ASCII case. A reserved word cannot
be a bare name.
Spec guidance: translator specification §4.2 and §9.
-/

namespace SelectFind

/-- The clauses of a statement, in the order in which they are written. Specification §4.2. -/
inductive Clause where
  | select
  | source
  | condition
  | offset
  | limit
  deriving DecidableEq, Repr

namespace Clause

/-- The reserved word that opens a clause. -/
def word : Clause → String
  | select => "SELECT"
  | source => "FROM"
  | condition => "WHERE"
  | offset => "OFFSET"
  | limit => "LIMIT"

/-- Every clause. -/
def all : List Clause := [select, source, condition, offset, limit]

/-- The token is the reserved word of the clause, in any case. Specification §4.2. -/
def opensWith (clause : Clause) (token : String) : Bool := Text.sameWord token clause.word

/-- Every clause is listed. -/
theorem mem_all (clause : Clause) : clause ∈ all := by
  cases clause <;> decide

end Clause

/-- The token is one of the reserved words, in any case. Specification §9. -/
def isReserved (token : String) : Bool := Clause.all.any fun clause => clause.opensWith token

/-- A token is reserved exactly if it opens some clause. -/
theorem isReserved_iff {token : String} :
    isReserved token = true ↔ ∃ clause : Clause, clause.opensWith token = true := by
  simp [isReserved, Clause.mem_all]

end SelectFind
