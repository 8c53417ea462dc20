import SelectFind.Settings
import SelectFind.Statement.Basic
import SelectFind.Statement.Error

/-!
# Reading a statement from tokens

A statement is

    SELECT columns FROM table [OFFSET count] [LIMIT count]

where the columns are an asterisk or names between commas. It is read from left to right with one
token in view: a token is passed only when it is accepted, so a failure leaves the cursor at the
token that its error names. A condition is recognised right behind the table and refused.
Spec guidance: translator specification §4.2.
-/

namespace SelectFind

/-- A place in a row of tokens: the number of tokens behind it and the tokens ahead. -/
structure Cursor where
  position : Nat
  ahead : List String
  deriving DecidableEq, Repr

namespace Cursor

/-- The place before the first token. -/
def start (tokens : List String) : Cursor := ⟨0, tokens⟩

/-- The place one token on. -/
def next (cursor : Cursor) : Cursor := ⟨cursor.position + 1, cursor.ahead.tail⟩

/-- The place behind the last token. -/
def toEnd (cursor : Cursor) : Cursor := ⟨cursor.position + cursor.ahead.length, []⟩

end Cursor

/-- A computation that moves a cursor and may fail; a failure keeps the place where it arose. -/
def Parser (α : Type) : Type := Cursor → Except ParseError α × Cursor

namespace Parser

/-- The result of a parser from a place, and the place behind it. -/
def runFrom {α : Type} (p : Parser α) (cursor : Cursor) : Except ParseError α × Cursor := p cursor

/-- One parser goes on where the other stopped, unless that failed. -/
instance : Monad Parser where
  pure a := fun cursor => (.ok a, cursor)
  bind p f := fun cursor =>
    match p cursor with
    | (.ok a, cursor) => f a cursor
    | (.error e, cursor) => (.error e, cursor)

/-- A value without a parser moves nothing. -/
theorem runFrom_pure {α : Type} (a : α) (cursor : Cursor) :
    (pure a : Parser α).runFrom cursor = (.ok a, cursor) := rfl

/-- Behind a success the next parser goes on from the place reached. -/
theorem runFrom_bind_of_ok {α β : Type} {p : Parser α} {cursor cursor' : Cursor} {a : α}
    (h : p.runFrom cursor = (.ok a, cursor')) (f : α → Parser β) :
    (p >>= f).runFrom cursor = (f a).runFrom cursor' := by
  unfold runFrom at h ⊢
  simp only [bind, h]

/-- Behind a failure nothing is tried. -/
theorem runFrom_bind_of_error {α β : Type} {p : Parser α} {cursor cursor' : Cursor}
    {e : ParseError} (h : p.runFrom cursor = (.error e, cursor')) (f : α → Parser β) :
    (p >>= f).runFrom cursor = (.error e, cursor') := by
  unfold runFrom at h ⊢
  simp only [bind, h]

/-- Fails at the token ahead. -/
def fail {α : Type} (fault : Fault) : Parser α :=
  fun cursor => (.error ⟨cursor.position, fault⟩, cursor)

/-- Passes the token ahead. -/
def pass : Parser Unit := fun cursor => (.ok (), cursor.next)

/-- The tokens ahead, which are not passed. -/
def ahead : Parser (List String) := fun cursor => (.ok cursor.ahead, cursor)

/-- The token ahead, which is not passed. -/
def require (expected : Expected) : Parser String := do
  match ← ahead with
  | [] => fail (.ended expected)
  | token :: _ => return token

/-- Passes a token that `read` accepts; what it refuses is a fault of that token. -/
def token {α : Type} (expected : Expected) (read : String → Except Fault α) : Parser α := do
  let token ← require expected
  match read token with
  | .ok a => pass; return a
  | .error fault => fail fault

/-- Passes a token that `read?` knows; any other stands in place of what is required. -/
def accept {α : Type} (expected : Expected) (read? : String → Option α) : Parser α :=
  token expected fun found => (read? found).elim (.error (.mismatch expected found)) .ok

/-- Passes the reserved word of a clause. -/
def clause (c : Clause) : Parser Unit :=
  accept (.clause c) fun token => if c.opensWith token then some () else none

/-- The token ahead opens the clause. -/
def atClause (c : Clause) : Parser Bool := do
  return (← ahead).head?.any c.opensWith

/-- Passes a name. Specification §4.2, `Name`. -/
def name (expected : Expected) : Parser Identifier :=
  token expected fun found => (Identifier.ofToken found).mapError (.name found)

/-- Passes the names behind the first column, each behind a comma. Specification §4.2, `NameList`.
-/
def otherColumns : Parser (List Identifier) := fun cursor =>
  namesFrom cursor.position cursor.ahead
where
  /-- The names from a position on. -/
  namesFrom (position : Nat) : List String → Except ParseError (List Identifier) × Cursor
    | [] => (.ok [], ⟨position, []⟩)
    | [mark] =>
      if mark == Token.separator then
        (.error ⟨position + 1, .ended .columnName⟩, ⟨position + 1, []⟩)
      else (.ok [], ⟨position, [mark]⟩)
    | mark :: token :: tokens =>
      if mark == Token.separator then
        match Identifier.ofToken token with
        | .ok identifier =>
          match namesFrom (position + 2) tokens with
          | (.ok identifiers, cursor) => (.ok (identifier :: identifiers), cursor)
          | (.error e, cursor) => (.error e, cursor)
        | .error fault =>
          (.error ⟨position + 1, .name token fault⟩, ⟨position + 1, token :: tokens⟩)
      else (.ok [], ⟨position, mark :: token :: tokens⟩)

/-- Passes the columns; an asterisk stands for all of them. Specification §4.2, `Columns`. -/
def columns : Parser (Option Columns) := do
  let token ← require .columnList
  if token == Token.wildcard then
    pass
    return none
  else
    let first ← name .columnName
    let others ← otherColumns
    return some ⟨first, others⟩

/-- The count that a token is: an integer of 64 bits that is not negative. Specification §4.2,
`Integer`. -/
def countOf (c : Clause) (found : String) : Except Fault UInt64 :=
  match Text.int64? found with
  | none => .error (.integer found)
  | some (.negSucc n) => .error (.negative c (.negSucc n))
  | some (.ofNat n) => .ok (UInt64.ofNat n)

/-- Passes the count of a clause. -/
def count (c : Clause) : Parser UInt64 := token .integer (countOf c)

/-- Passes a clause with its count if its reserved word is ahead. Specification §4.2, `Offset` and
`Limit`. -/
def countClause (c : Clause) : Parser (Option UInt64) := do
  if ← atClause c then
    pass
    return some (← count c)
  else
    return none

end Parser

/-- Tokens that were ignored behind a statement: how many, the first of them and its index. -/
structure Ignored where
  count : Nat
  token : String
  index : Nat
  deriving DecidableEq, Repr

/-- A statement that was read, and how its tokens ended. -/
structure Selection where
  statement : Statement
  /-- No token followed the table. -/
  endsAtTable : Bool
  ignored : Option Ignored
  deriving DecidableEq, Repr

namespace Parser

/-- Passes all tokens ahead and tells of them. -/
def ignore (token : String) : Parser Ignored := fun cursor =>
  (.ok ⟨cursor.ahead.length, token, cursor.position⟩, cursor.toEnd)

/-- Ends a statement: tokens ahead are refused, or ignored up to the last. Specification §4.2 and
§9. -/
def finish (leftover : Leftover) : Parser (Option Ignored) := do
  match ← ahead, leftover with
  | [], _ => return none
  | token :: _, .reject => fail (.leftover token)
  | token :: _, .ignore => return some (← ignore token)

/-- Passes what follows the table: the clauses, and any tokens that are left over. Specification
§4.2, from `Where` on. -/
def clauses (leftover : Leftover) (columns : Option Columns) (table : Identifier) :
    Parser Selection := do
  if (← ahead).isEmpty then
    return ⟨⟨table, columns, none, none, none⟩, true, none⟩
  else if ← atClause .condition then
    fail .condition
  else
    let offset ← countClause .offset
    let limit ← countClause .limit
    let ignored ← finish leftover
    return ⟨⟨table, columns, none, offset, limit⟩, false, ignored⟩

/-- Passes a statement and all that follows it. Specification §4.2, `Statement`. -/
def select (leftover : Leftover) : Parser Selection := do
  clause .select
  let columns ← columns
  clause .source
  let table ← name .tableName
  clauses leftover columns table

/-- Passes a comparison. Specification §4.2. -/
def comparison : Parser Comparison := accept .comparison Comparison.ofSymbol?

/-- Passes an operator that joins two conditions. Specification §4.2. -/
def connective : Parser Logical :=
  accept .connective fun token => (Logical.ofWord? token).filter (· ≠ .not)

/-- Passes the word of a negation. Specification §4.2. -/
def negation : Parser Logical :=
  accept .negation fun token => if Text.sameWord token Logical.not.word then some .not else none

/-- What can be asked of a cursor. -/
inductive Call where
  | select
  | comparison
  | connective
  | negation
  deriving DecidableEq, Repr

/-- What a call gives. -/
inductive Reply where
  | selection (selection : Selection)
  | comparison (op : Comparison)
  | logical (op : Logical)
  deriving DecidableEq, Repr

/-- The parser of a call. -/
def ofCall (leftover : Leftover) : Call → Parser Reply
  | .select => Reply.selection <$> select leftover
  | .comparison => Reply.comparison <$> comparison
  | .connective => Reply.logical <$> connective
  | .negation => Reply.logical <$> negation

/-- The results of calls one after the other, whether or not they fail, each with the place behind
it. -/
def runCalls (leftover : Leftover) :
    List Call → Cursor → List (Except ParseError Reply × Cursor)
  | [], _ => []
  | call :: calls, cursor =>
    let result := (ofCall leftover call).runFrom cursor
    result :: runCalls leftover calls result.2

end Parser

/-- What a row of tokens selects. -/
def Selection.ofTokens (leftover : Leftover) (tokens : List String) : Except ParseError Selection :=
  ((Parser.select leftover).runFrom (.start tokens)).1

/-- The statement of a row of tokens. Specification §4.2. -/
def Statement.ofTokens (leftover : Leftover) (tokens : List String) : Except ParseError Statement :=
  (Selection.ofTokens leftover tokens).map Selection.statement

end SelectFind
