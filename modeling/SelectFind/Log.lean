import SelectFind.Statement.Text
import SelectFind.Text.Quoted

/-!
# Events

What happens on the way from a text to its query is told as events. An event has a level, which says
how much detail a reader must ask for to see it, an origin and a message. The events of a step are a
function of its input, beside the step itself.
Spec guidance: translator specification §10.
-/

namespace SelectFind

/-- The levels of detail, the least first. Specification §10. -/
inductive Level where
  | warn
  | info
  | debug
  | trace
  deriving DecidableEq, Repr

namespace Level

/-- The place of a level among the levels. -/
def rank : Level → Nat
  | warn => 0
  | info => 1
  | debug => 2
  | trace => 3

/-- The name of a level. -/
def name : Level → String
  | warn => "WARN"
  | info => "INFO"
  | debug => "DEBUG"
  | trace => "TRACE"

end Level

/-- Something that happened. Specification §10. -/
inductive Event where
  /-- A token was taken from a text. -/
  | lexed (span : Span)
  /-- A text was divided into tokens. -/
  | tokenized (count : Nat)
  /-- A statement was read that ends with its table. -/
  | selectedAll (table : String)
  /-- A statement was read that goes on behind its table. -/
  | selected (table : String) (offset limit : Option UInt64)
  /-- Tokens behind a statement were ignored. -/
  | ignored (ignored : Ignored)
  /-- A condition could not be written. -/
  | refused (condition : Condition)
  /-- A statement text became a query. -/
  | answered (sql query : String)
  /-- The shell found no history to load. -/
  | noHistory (file : String)
  deriving DecidableEq, Repr

namespace Event

/-- The level of an event. -/
def level : Event → Level
  | lexed _ => .trace
  | tokenized _ => .debug
  | selectedAll _ => .debug
  | selected .. => .debug
  | ignored _ => .warn
  | refused _ => .debug
  | answered .. => .debug
  | noHistory _ => .info

/-- The part of the program that tells an event. -/
def origin : Event → String
  | lexed _ => "mongosql::query::parser::lexer"
  | tokenized _ => "mongosql::query::translator"
  | selectedAll _ => "mongosql::query::parser::parser"
  | selected .. => "mongosql::query::parser::parser"
  | ignored _ => "mongosql::query::parser::parser"
  | refused _ => "mongosql::query::serializer::mongo"
  | answered .. => "mongosql::query::translator"
  | noHistory _ => "msql"

/-- An optional count as events show it. -/
def countText : Option UInt64 → String
  | none => "None"
  | some n => "Some(" ++ Text.decimal n.toNat ++ ")"

/-- The words for an event. -/
def message : Event → String
  | lexed span =>
    "Lexed token " ++ Text.quoted span.token ++ " ending at offset " ++ Text.decimal span.stop
  | tokenized count => "Tokenized statement into " ++ Text.decimal count ++ " tokens"
  | selectedAll table => "Parsed SELECT from '" ++ table ++ "'"
  | selected table offset limit =>
    "Parsed SELECT from '" ++ table ++ "' (offset " ++ countText offset ++ ", limit " ++
      countText limit ++ ")"
  | ignored i =>
    "Ignoring " ++ Text.decimal i.count ++ " trailing token(s) starting with '" ++ i.token ++
      "' at token " ++ Text.decimal i.index
  | refused condition => "Cannot serialize condition '" ++ condition.text ++ "'"
  | answered sql query => "Translated '" ++ sql ++ "' into '" ++ query ++ "'"
  | noHistory file => "No history loaded from " ++ file

/-- The event is seen by a reader who asks for a level. -/
def isSeenAt (level : Level) (event : Event) : Bool := event.level.rank ≤ level.rank

end Event

/-- The events of dividing a text into tokens. -/
def Tokens.events (tokens : Tokens) : List Event := tokens.spans.map .lexed

/-- The events of a row of calls of a lexer. -/
def Lexer.runEvents (results : List (Except LexError (Option String) × Lexer)) : List Event :=
  results.filterMap fun
    | (.ok (some token), l) => some (.lexed ⟨token, l.offset⟩)
    | _ => none

/-- The events of reading a statement. -/
def Selection.events (selection : Selection) : List Event :=
  let statement := selection.statement
  if selection.endsAtTable then [.selectedAll statement.table.name]
  else
    (selection.ignored.map Event.ignored).toList ++
      [.selected statement.table.name statement.offset statement.limit]

/-- The events of trying to read a statement; a failure tells none. -/
def Selection.resultEvents : Except ParseError Selection → List Event
  | .ok selection => selection.events
  | .error _ => []

/-- The events of a row of calls of a parser. -/
def Parser.runEvents (results : List (Except ParseError Parser.Reply × Cursor)) : List Event :=
  results.flatMap fun
    | (.ok (.selection selection), _) => selection.events
    | _ => []

/-- The events of reading a statement text. -/
def Statement.textEvents (settings : Settings) (sql : String) : List Event :=
  (Tokens.ofString sql).events ++
    match tokenize sql with
    | .error _ => []
    | .ok tokens =>
      .tokenized tokens.length ::
        Selection.resultEvents (Selection.ofTokens settings.leftover tokens)

/-- The events of writing a statement as a query. -/
def Find.queryEvents (statement : Statement) : List Event :=
  (statement.condition.map Event.refused).toList

/-- The events of writing a statement text as a query. -/
def Find.textEvents (settings : Settings) (sql : String) : List Event :=
  Statement.textEvents settings sql ++
    match Statement.ofText settings sql with
    | .error _ => []
    | .ok statement =>
      Find.queryEvents statement ++
        match Find.query settings.database statement with
        | .error _ => []
        | .ok query => [.answered sql query]

end SelectFind
