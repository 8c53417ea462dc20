import SelectFind.Text.Blank
import SelectFind.Text.Decimal
import SelectFind.Token.Delimiter

/-!
# Tokens of a statement text

Blanks divide a text into tokens. A token is a quoted name with its delimiters and escapes, a comma,
or the longest run of characters without blank and comma; a quotation mark inside such a run is
plain. What a token means is not decided here.

The lexer is a place in a text: how many characters lie behind it, and the characters ahead. Each
call of `Lexer.next` takes one token; a name whose closing delimiter is missing is a failure at its
opening delimiter, and leaves nothing ahead. `tokenize` takes all of them.
Spec guidance: translator specification §4.1.
-/

namespace SelectFind

/-- A quoted name without its closing delimiter, by the offset of the opening one. Specification §7.
-/
structure LexError where
  offset : Nat
  deriving DecidableEq, Repr

namespace LexError

/-- What is wrong with the text. Specification §4.1, step 3. -/
def reason (_ : LexError) : String := "unterminated quoted identifier"

/-- The reason and the place, counted in characters. -/
def message (e : LexError) : String :=
  e.reason ++ " at position " ++ Text.decimal e.offset

end LexError

namespace Token

/-- The characters up to and with the first `d` that is not escaped. Specification §4.1, step 3. -/
def upToClosing (d : Char) : (escaped : Bool) → List Char → Option (List Char)
  | _, [] => none
  | true, c :: cs => (upToClosing d false cs).map (c :: ·)
  | false, c :: cs =>
    if c = escape then (upToClosing d true cs).map (c :: ·)
    else if c = d then some [c]
    else (upToClosing d false cs).map (c :: ·)

/-- A character that a bare token can hold behind its first. Specification §4.1, step 5. -/
def isBare (c : Char) : Bool := !Text.isBlank c && !isMark c

/-- The token that starts with `c`, which is no blank; none if its closing delimiter is missing.
Specification §4.1, steps 3 to 5. -/
def startingWith (c : Char) (cs : List Char) : Option (List Char) :=
  match Delimiter.ofChar? c with
  | some d => (upToClosing d.char false cs).map (c :: ·)
  | none => if isMark c then some [c] else some (c :: cs.takeWhile isBare)

private theorem startingWith_ne_nil {c : Char} {cs t : List Char} (h : startingWith c cs = some t) :
    t ≠ [] := by
  unfold startingWith at h
  split at h
  · obtain ⟨body, _, rfl⟩ := Option.map_eq_some_iff.1 h
    exact List.cons_ne_nil _ _
  · split at h <;> cases h <;> exact List.cons_ne_nil _ _

end Token

/-- A place in a text: the number of characters behind it and the characters ahead. -/
structure Lexer where
  offset : Nat
  ahead : List Char
  deriving DecidableEq, Repr

namespace Lexer

/-- The place before the first character. -/
def start (s : String) : Lexer := ⟨0, s.toList⟩

/-- The place `n` characters on. -/
def advance (l : Lexer) (n : Nat) : Lexer := ⟨l.offset + n, l.ahead.drop n⟩

/-- The place behind the blanks that come next. Specification §4.1, step 1. -/
def skipBlanks (l : Lexer) : Lexer := l.advance (l.ahead.takeWhile Text.isBlank).length

/-- The place behind the last character. -/
def toEnd (l : Lexer) : Lexer := l.advance l.ahead.length

/-- Takes the next token from a place where no blank is ahead. Specification §4.1, steps 2 to 5. -/
def take (l : Lexer) : Except LexError (Option String) × Lexer :=
  match l.ahead with
  | [] => (.ok none, l)
  | c :: cs =>
    match Token.startingWith c cs with
    | some t => (.ok (some (String.ofList t)), l.advance t.length)
    | none => (.error ⟨l.offset⟩, l.toEnd)

/-- Takes the next token, or none at the end of the text, and gives the place behind it.
Specification §4.1, steps 1 to 5. -/
def next (l : Lexer) : Except LexError (Option String) × Lexer := l.skipBlanks.take

/-- The results of `n` calls, one after the other whether or not they fail, each with the place
behind it. -/
def run : Nat → Lexer → List (Except LexError (Option String) × Lexer)
  | 0, _ => []
  | n + 1, l => l.next :: run n l.next.2

private theorem length_skipBlanks_le (l : Lexer) : l.skipBlanks.ahead.length ≤ l.ahead.length := by
  simp [skipBlanks, advance]

private theorem length_take_lt {l l' : Lexer} {t : String} (h : l.take = (.ok (some t), l')) :
    l'.ahead.length < l.ahead.length := by
  unfold take at h
  split at h
  · cases h
  · next c cs heq =>
    split at h
    · next t' ht =>
      cases h
      have := List.length_pos_iff.2 (Token.startingWith_ne_nil ht)
      simp only [advance, heq, List.length_drop, List.length_cons]
      omega
    · cases h

/-- A call that gives a token leaves fewer characters ahead. -/
theorem length_next_lt {l l' : Lexer} {t : String} (h : l.next = (.ok (some t), l')) :
    l'.ahead.length < l.ahead.length :=
  Nat.lt_of_lt_of_le (length_take_lt h) (length_skipBlanks_le l)

end Lexer

/-- A token and the offset of its end. -/
structure Span where
  token : String
  stop : Nat
  deriving DecidableEq, Repr

/-- What the whole of a text gives: its tokens in order, and the failure that stopped it, if any. -/
structure Tokens where
  spans : List Span
  failure : Option LexError
  deriving DecidableEq, Repr

namespace Lexer

/-- The tokens from a place on, up to the end of the text or the first failure. Specification §4.1,
step 6. -/
def tokens (l : Lexer) : Tokens :=
  match _h : l.next with
  | (.ok (some t), l') =>
    let rest := l'.tokens
    ⟨⟨t, l'.offset⟩ :: rest.spans, rest.failure⟩
  | (.ok none, _) => ⟨[], none⟩
  | (.error e, _) => ⟨[], some e⟩
termination_by l.ahead.length
decreasing_by exact length_next_lt _h

end Lexer

/-- The tokens of a text with their places. -/
def Tokens.ofString (s : String) : Tokens := (Lexer.start s).tokens

/-- The tokens of a text, or its first failure. Specification §4.1. -/
def tokenize (s : String) : Except LexError (List String) :=
  let ts := Tokens.ofString s
  match ts.failure with
  | none => .ok (ts.spans.map Span.token)
  | some e => .error e

end SelectFind
