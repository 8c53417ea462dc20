import SelectFind.Json.Basic

/-!
# Reading JSON

A text is cut into tokens first: brackets, marks, words, numbers and strings, with blanks between
them. The tokens are then taken one by one by a machine that keeps the open containers on a stack,
so that the nesting is not limited. A text is well-formed if the machine holds one finished value at
the end.
-/

namespace SelectFind.Json

/-- A token of a JSON text. -/
inductive Token where
  | openArray
  | closeArray
  | openObject
  | closeObject
  | comma
  | colon
  | literal (value : Json)

/-- The blanks between tokens. -/
def isSpace (c : Char) : Bool := c == ' ' || c == '\t' || c == '\n' || c == '\r'

/-- The character that a short escape stands for. -/
def unescape? (e : Char) : Option Char :=
  if e = '\x22' then some '\x22'
  else if e = '\x5c' then some '\x5c'
  else if e = '/' then some '/'
  else if e = 'b' then some '\x08'
  else if e = 'f' then some '\x0c'
  else if e = 'n' then some '\n'
  else if e = 'r' then some '\r'
  else if e = 't' then some '\t'
  else none

/-- The value of a hexadecimal digit. -/
def hexDigit? (c : Char) : Option Nat :=
  if '0' ≤ c ∧ c ≤ '9' then some (c.toNat - '0'.toNat)
  else if 'a' ≤ c ∧ c ≤ 'f' then some (c.toNat - 'a'.toNat + 10)
  else if 'A' ≤ c ∧ c ≤ 'F' then some (c.toNat - 'A'.toNat + 10)
  else none

/-- The UTF-16 unit of four hexadecimal digits. -/
def unit? (a b c d : Char) : Option Nat := do
  return (((← hexDigit? a) * 16 + (← hexDigit? b)) * 16 + (← hexDigit? c)) * 16 + (← hexDigit? d)

/-- The character of a unit that stands alone, which is no surrogate. -/
def scalar? (n : Nat) : Option Char :=
  if n < 0xD800 ∨ 0xDFFF < n then some (Char.ofNat n) else none

/-- The character of a high and a low surrogate. -/
def pair? (high low : Nat) : Option Char :=
  if 0xD800 ≤ high ∧ high < 0xDC00 ∧ 0xDC00 ≤ low ∧ low < 0xE000 then
    some (Char.ofNat (0x10000 + (high - 0xD800) * 0x400 + (low - 0xDC00)))
  else none

/-- A piece of a string: a character or a UTF-16 unit given by its digits. -/
inductive Piece where
  | plain (c : Char)
  | unit (n : Nat)
  deriving DecidableEq, Repr

/-- The pieces of a string whose opening quote is behind, and what follows its closing quote. -/
def pieces? : List Char → Option (List Piece × List Char)
  | [] => none
  | '\x22' :: cs => some ([], cs)
  | '\x5c' :: 'u' :: a :: b :: c :: d :: cs =>
    match unit? a b c d with
    | some n => (pieces? cs).map fun r => (.unit n :: r.1, r.2)
    | none => none
  | '\x5c' :: e :: cs =>
    match unescape? e with
    | some c => (pieces? cs).map fun r => (.plain c :: r.1, r.2)
    | none => none
  | c :: cs =>
    if c.toNat < 0x20 ∨ c = '\x5c' then none
    else (pieces? cs).map fun r => (.plain c :: r.1, r.2)

/-- The characters of a row of pieces; a surrogate counts only with its partner. -/
def join? : List Piece → Option (List Char)
  | [] => some []
  | .plain c :: ps => (join? ps).map (c :: ·)
  | .unit n :: ps =>
    match scalar? n, ps with
    | some c, ps => (join? ps).map (c :: ·)
    | none, .unit m :: qs =>
      match pair? n m with
      | some c => (join? qs).map (c :: ·)
      | none => none
    | none, _ => none

/-- The text of a string whose opening quote is behind, and what follows its closing quote. -/
def string? (cs : List Char) : Option (String × List Char) :=
  match pieces? cs with
  | some (ps, rest) => (join? ps).map fun text => (String.ofList text, rest)
  | none => none

/-- A character of a number. -/
def isNumeral (c : Char) : Bool :=
  c.isDigit || c == '-' || c == '+' || c == '.' || c == 'e' || c == 'E'

/-- One or more digits and nothing else. -/
def areDigits (cs : List Char) : Bool := !cs.isEmpty && cs.all Char.isDigit

/-- One or more digits, of which the first is not a needless zero. -/
def areWhole (cs : List Char) : Bool := areDigits cs && (cs.head? != some '0' || cs == ['0'])

/-- An exponent: its mark, an optional sign and digits; or nothing. -/
def isExponent : List Char → Bool
  | [] => true
  | _ :: '+' :: ds => areDigits ds
  | _ :: '-' :: ds => areDigits ds
  | _ :: ds => areDigits ds

/-- The mark of an exponent. -/
def isExponentMark (c : Char) : Bool := c == 'e' || c == 'E'

/-- A fraction and an exponent, each of which may be missing. -/
def isFractionExponent : List Char → Bool
  | '.' :: cs =>
    areDigits (cs.takeWhile (!isExponentMark ·)) && isExponent (cs.dropWhile (!isExponentMark ·))
  | cs => cs.head?.all isExponentMark && isExponent cs

/-- The characters are a number as JSON writes it. -/
def isNumber (cs : List Char) : Bool :=
  let unsigned := if cs.head? = some '-' then cs.tail else cs
  areWhole (unsigned.takeWhile Char.isDigit) && isFractionExponent (unsigned.dropWhile Char.isDigit)

/-- The first token of a text that does not start with a blank, and what follows it. -/
def token? : List Char → Option (Token × List Char)
  | '[' :: cs => some (.openArray, cs)
  | ']' :: cs => some (.closeArray, cs)
  | '{' :: cs => some (.openObject, cs)
  | '}' :: cs => some (.closeObject, cs)
  | ',' :: cs => some (.comma, cs)
  | ':' :: cs => some (.colon, cs)
  | 'n' :: 'u' :: 'l' :: 'l' :: cs => some (.literal null, cs)
  | 't' :: 'r' :: 'u' :: 'e' :: cs => some (.literal (bool true), cs)
  | 'f' :: 'a' :: 'l' :: 's' :: 'e' :: cs => some (.literal (bool false), cs)
  | '\x22' :: cs => (string? cs).map fun r => (.literal (string r.1), r.2)
  | cs =>
    let literal := cs.takeWhile isNumeral
    if isNumber literal then
      some (.literal (number (String.ofList literal)), cs.dropWhile isNumeral)
    else none

/-- The containers that are open, the innermost first, each with what it holds so far, last first.
-/
inductive Frame where
  | array (done : List Json)
  | object (done : List (String × Json)) (name : String)

/-- What the machine waits for. -/
inductive State where
  /-- A value. -/
  | value (stack : List Frame)
  /-- The first item of an array, or its end. -/
  | firstItem (stack : List Frame)
  /-- The first field of an object, or its end. -/
  | firstField (stack : List Frame)
  /-- The name of a further field. -/
  | name (done : List (String × Json)) (stack : List Frame)
  /-- The colon behind a name. -/
  | colon (done : List (String × Json)) (name : String) (stack : List Frame)
  /-- Behind a finished value: a comma or the end of a container. -/
  | finished (value : Json) (stack : List Frame)

namespace State

/-- Takes a token where a value must start. -/
def start (stack : List Frame) : Token → Option State
  | .openArray => some (firstItem stack)
  | .openObject => some (firstField stack)
  | .literal j => some (finished j stack)
  | _ => none

/-- Takes a token. -/
def step : State → Token → Option State
  | value stack, t => start stack t
  | firstItem stack, .closeArray => some (finished (.array []) stack)
  | firstItem stack, t => start (.array [] :: stack) t
  | firstField stack, .closeObject => some (finished (.object []) stack)
  | firstField stack, .literal (.string k) => some (colon [] k stack)
  | name done stack, .literal (.string k) => some (colon done k stack)
  | colon done k stack, .colon => some (value (.object done k :: stack))
  | finished j (.array done :: stack), .comma => some (value (.array (j :: done) :: stack))
  | finished j (.array done :: stack), .closeArray =>
    some (finished (.array (j :: done).reverse) stack)
  | finished j (.object done k :: stack), .comma => some (name ((k, j) :: done) stack)
  | finished j (.object done k :: stack), .closeObject =>
    some (finished (.object ((k, j) :: done).reverse) stack)
  | _, _ => none

/-- The value that the machine holds at the end of a text. -/
def result? : State → Option Json
  | finished j [] => some j
  | _ => none

end State

private theorem length_of_pieces? {cs : List Char} {r : List Piece × List Char}
    (h : pieces? cs = some r) : r.2.length < cs.length := by
  fun_induction pieces? cs generalizing r with
  | case1 | case4 | case6 | case7 => cases h
  | case2 cs => cases h; simp
  | case3 a b c d cs n _ ih =>
    obtain ⟨q, hq, rfl⟩ := Option.map_eq_some_iff.1 h
    have := ih hq
    simp only [List.length_cons]
    omega
  | case5 e cs _ c _ ih =>
    obtain ⟨q, hq, rfl⟩ := Option.map_eq_some_iff.1 h
    have := ih hq
    simp only [List.length_cons]
    omega
  | case8 c cs _ _ _ _ ih =>
    obtain ⟨q, hq, rfl⟩ := Option.map_eq_some_iff.1 h
    have := ih hq
    simp only [List.length_cons]
    omega

private theorem length_of_string? {cs : List Char} {r : String × List Char}
    (h : string? cs = some r) : r.2.length < cs.length := by
  unfold string? at h
  split at h
  · next ps rest hp =>
    obtain ⟨_, _, rfl⟩ := Option.map_eq_some_iff.1 h
    exact length_of_pieces? hp
  · cases h

private theorem length_of_isNumber {cs : List Char} (h : isNumber (cs.takeWhile isNumeral) = true) :
    (cs.dropWhile isNumeral).length < cs.length := by
  have hne : cs.takeWhile isNumeral ≠ [] := by
    intro hnil
    rw [hnil] at h
    exact absurd h (by decide)
  have hpos := List.length_pos_iff.2 hne
  have hall := congrArg List.length (List.takeWhile_append_dropWhile (p := isNumeral) (l := cs))
  rw [List.length_append] at hall
  omega

/-- What follows a token is shorter than the text that starts with it. -/
theorem length_of_token? {cs : List Char} {r : Token × List Char} (h : token? cs = some r) :
    r.2.length < cs.length := by
  unfold token? at h
  split at h
  case h_10 =>
    obtain ⟨q, hq, rfl⟩ := Option.map_eq_some_iff.1 h
    exact Nat.lt_succ_of_lt (length_of_string? hq)
  case h_11 =>
    dsimp only at h
    split at h
    · next hn =>
      cases h
      exact length_of_isNumber hn
    · cases h
  all_goals
    cases h
    simp only [List.length_cons]
    omega

/-- The tokens of a text, with blanks around them. -/
def tokens? (cs : List Char) : Option (List Token) :=
  match cs.dropWhile isSpace, (List.dropWhile_suffix (l := cs) isSpace).length_le with
  | [], _ => some []
  | c :: cs', _ =>
    match _h : token? (c :: cs') with
    | some (t, rest) => (tokens? rest).map (t :: ·)
    | none => none
termination_by cs.length
decreasing_by exact Nat.lt_of_lt_of_le (length_of_token? _h) (by assumption)

/-- The value of a well-formed text. -/
def ofString? (s : String) : Option Json := do
  let ts ← tokens? s.toList
  let state ← ts.foldlM State.step (.value [])
  state.result?

end SelectFind.Json
