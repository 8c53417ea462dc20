import SelectFind.Statement.Identifier

/-!
# Operators and conditions

A condition compares two names, negates a condition or joins two by a logical operator. Its text
puts every join between parentheses; it shows names without their delimiters.
Spec guidance: translator specification §3 and §4.2.
-/

namespace SelectFind

/-- The comparisons of two names. Specification §3. -/
inductive Comparison where
  | greaterThan
  | lessThan
  | greaterEqual
  | lessEqual
  | equals
  | notEqual
  deriving DecidableEq, Repr

namespace Comparison

/-- The token of a comparison. -/
def symbol : Comparison → String
  | greaterThan => ">"
  | lessThan => "<"
  | greaterEqual => ">="
  | lessEqual => "<="
  | equals => "="
  | notEqual => "<>"

/-- Every comparison. -/
def all : List Comparison := [greaterThan, lessThan, greaterEqual, lessEqual, equals, notEqual]

/-- The comparison that a token is. Specification §4.2. -/
def ofSymbol? (token : String) : Option Comparison := all.find? fun op => op.symbol == token

/-- Every comparison is read from its token. -/
theorem ofSymbol?_symbol (op : Comparison) : ofSymbol? op.symbol = some op := by
  cases op <;> decide

end Comparison

/-- The logical operators. Specification §3. -/
inductive Logical where
  | and
  | or
  | not
  deriving DecidableEq, Repr

namespace Logical

/-- The word of an operator. -/
def word : Logical → String
  | and => "AND"
  | or => "OR"
  | not => "NOT"

/-- Every operator. -/
def all : List Logical := [and, or, not]

/-- The operator whose word a token is, in any case. Specification §4.2. -/
def ofWord? (token : String) : Option Logical := all.find? fun op => Text.sameWord token op.word

/-- Every operator is read from its word. -/
theorem ofWord?_word (op : Logical) : ofWord? op.word = some op := by
  cases op <;> decide

end Logical

/-- A condition on the documents of a table. Specification §3. -/
inductive Condition where
  | logical (left : Condition) (op : Logical) (right : Condition)
  | negation (inner : Condition)
  | comparison (left : Identifier) (op : Comparison) (right : Identifier)
  deriving DecidableEq, Repr

namespace Condition

/-- The text of a condition. -/
def text : Condition → String
  | logical left op right => "(" ++ left.text ++ " " ++ op.word ++ " " ++ right.text ++ ")"
  | negation inner => "NOT " ++ inner.text
  | comparison left op right => left.name ++ " " ++ op.symbol ++ " " ++ right.name

end Condition
end SelectFind
