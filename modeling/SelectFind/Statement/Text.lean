import SelectFind.Find.Query
import SelectFind.Statement.Parser
import SelectFind.Token.Lexer

/-!
# From a statement text to its query

The text of a statement is divided into tokens, the tokens are read as a statement, and the
statement is written as a query. The first of these that fails gives the error.
Spec guidance: translator specification §2 and §7.
-/

namespace SelectFind

/-- The failure of one of the three steps. Specification §7. -/
inductive Error where
  | lexical (error : LexError)
  | grammatical (error : ParseError)
  | rendering (error : RenderError)
  deriving DecidableEq, Repr

namespace Error

/-- The kind of a failure. Specification §7. -/
def kind : Error → ErrorKind
  | lexical _ => .lexical
  | grammatical e => e.kind
  | rendering e => e.kind

/-- The words for a failure. -/
def message : Error → String
  | lexical e => "Lex error: " ++ e.message
  | grammatical e => "Parse error: " ++ e.message
  | rendering e => "Serialization error: " ++ e.message

end Error

/-- What a statement text selects. -/
def Selection.ofText (settings : Settings) (sql : String) : Except Error Selection :=
  match tokenize sql with
  | .error e => .error (.lexical e)
  | .ok tokens => (Selection.ofTokens settings.leftover tokens).mapError .grammatical

/-- The statement of a text. Specification §2. -/
def Statement.ofText (settings : Settings) (sql : String) : Except Error Statement :=
  (Selection.ofText settings sql).map Selection.statement

/-- The query of a statement text. Specification §2. -/
def Find.ofText (settings : Settings) (sql : String) : Except Error String :=
  match Statement.ofText settings sql with
  | .error e => .error e
  | .ok statement => (Find.query settings.database statement).mapError .rendering

end SelectFind
