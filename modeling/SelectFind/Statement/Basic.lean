import SelectFind.Statement.Condition

/-!
# Statements

A statement selects columns, or all of them, from a table. It may hold a condition, skip documents
and limit their number; both counts are words of 64 bits.
Spec guidance: translator specification §3.
-/

namespace SelectFind

/-- A SELECT statement; without columns it selects every one. Specification §3. -/
structure Statement where
  table : Identifier
  columns : Option Columns
  condition : Option Condition
  offset : Option UInt64
  limit : Option UInt64
  deriving DecidableEq, Repr

end SelectFind
