import SelectFind.Statement.Condition
import SelectFind.Text.Decimal

/-!
# Faults of a statement

A fault is found at a token, which its index names; the index one past the last token stands for the
end of the input.
Spec guidance: translator specification §7.
-/

namespace SelectFind

/-- The four kinds of failure. Specification §7. -/
inductive ErrorKind where
  /-- The text does not divide into tokens. -/
  | lexical
  /-- The tokens are no statement. -/
  | grammatical
  /-- A count is out of range. -/
  | range
  /-- The statement cannot be expressed as a query. -/
  | unsupported
  deriving DecidableEq, Repr

/-- The name of a kind of failure. -/
def ErrorKind.text : ErrorKind → String
  | lexical => "lex error"
  | grammatical => "syntax error"
  | range => "range error"
  | unsupported => "unsupported feature"

/-- What a statement requires at a token. -/
inductive Expected where
  | clause (clause : Clause)
  | columnList
  | columnName
  | tableName
  | integer
  | comparison
  | connective
  | negation
  deriving DecidableEq, Repr

/-- The words for what is required. -/
def Expected.text : Expected → String
  | clause c => c.word
  | columnList => "column list"
  | columnName => "column name"
  | tableName => "table name"
  | integer => "integer"
  | comparison => "comparison operator"
  | connective => "AND or OR"
  | negation => Logical.not.word

/-- The words for a token that is no name. -/
def NameFault.message (fault : NameFault) (found index : String) : String :=
  match fault with
  | empty => invalid "empty token"
  | unclosed => invalid "missing closing delimiter"
  | punctuation => invalid "punctuation cannot be used as a name"
  | reserved => "Expected name, found keyword '" ++ found ++ "' at token " ++ index
where
  /-- The words for a token that can never be a name. -/
  invalid (reason : String) : String :=
    "Invalid name '" ++ found ++ "' at token " ++ index ++ ": " ++ reason

/-- What is wrong with a row of tokens. Specification §7. -/
inductive Fault where
  /-- Another token stands where one is required. -/
  | mismatch (expected : Expected) (found : String)
  /-- The tokens end where one is required. -/
  | ended (expected : Expected)
  /-- A token is no name. -/
  | name (found : String) (fault : NameFault)
  /-- A token is no integer of 64 bits. -/
  | integer (found : String)
  /-- A count is negative. -/
  | negative (clause : Clause) (value : Int)
  /-- There is a condition. -/
  | condition
  /-- Tokens follow the statement. -/
  | leftover (found : String)
  deriving DecidableEq, Repr

/-- A fault and the index of its token. Specification §7. -/
structure ParseError where
  index : Nat
  fault : Fault
  deriving DecidableEq, Repr

namespace ParseError

/-- The kind of a fault. Specification §7. -/
def kind (e : ParseError) : ErrorKind :=
  match e.fault with
  | .negative .. => .range
  | .condition => .unsupported
  | _ => .grammatical

/-- The words for a fault. -/
def message (e : ParseError) : String :=
  let index := Text.decimal e.index
  match e.fault with
  | .mismatch expected found =>
    "Expected " ++ expected.text ++ ", found '" ++ found ++ "' at token " ++ index
  | .ended expected => "Expected " ++ expected.text ++ ", found end of input at token " ++ index
  | .name found fault => fault.message found index
  | .integer found => "Expected integer, found '" ++ found ++ "' at token " ++ index
  | .negative clause value =>
    clause.word ++ " " ++ Text.signedDecimal value ++ " cannot be negative (token " ++ index ++ ")"
  | .condition => "WHERE clause is not supported (token " ++ index ++ ")"
  | .leftover found => "Unexpected token '" ++ found ++ "' after end of statement at token " ++ index

end ParseError
end SelectFind
