import SelectFind.Json.Reader

/-!
# JSON texts

A value has one row of tokens: brackets and braces around its parts, commas and colons between them,
and the words, numbers and strings, which hold no other value. A text of the value spells these
tokens in order, with any blanks around them. A word and a number are spelled in one way; in a
string any character may be escaped, and some must be.
-/

namespace SelectFind.Json

/-- A property holds of every value if it holds of those that hold no other value, and of an array
and an object if it holds of their parts. -/
@[induction_eliminator]
theorem induction_parts {motive : Json → Prop} (null : motive null) (bool : ∀ b, motive (bool b))
    (number : ∀ literal, motive (number literal)) (string : ∀ s, motive (string s))
    (array : ∀ items, (∀ item ∈ items, motive item) → motive (array items))
    (object : ∀ fields, (∀ field ∈ fields, motive field.2) → motive (object fields)) (j : Json) :
    motive j :=
  @Json.rec motive (fun items ↦ ∀ item ∈ items, motive item)
    (fun fields ↦ ∀ field ∈ fields, motive field.2) (fun field ↦ motive field.2)
    null bool number string array object
    (List.forall_mem_nil _) (fun _ _ hi h ↦ List.forall_mem_cons.mpr ⟨hi, h⟩)
    (List.forall_mem_nil _) (fun _ _ hf h ↦ List.forall_mem_cons.mpr ⟨hf, h⟩) (fun _ _ h ↦ h) j

/-! ### The tokens of a value -/

mutual

/-- The tokens of a value in order. -/
def tokens : Json → List Token
  | null => [.literal null]
  | bool b => [.literal (bool b)]
  | number literal => [.literal (number literal)]
  | string s => [.literal (string s)]
  | array [] => [.openArray, .closeArray]
  | array (item :: items) => .openArray :: (tokens item ++ (itemTokens items ++ [.closeArray]))
  | object [] => [.openObject, .closeObject]
  | object ((name, value) :: fields) =>
    .openObject :: .literal (string name) :: .colon ::
      (tokens value ++ (fieldTokens fields ++ [.closeObject]))

/-- The tokens of the items behind the first, each with a comma in front. -/
def itemTokens : List Json → List Token
  | [] => []
  | item :: items => .comma :: (tokens item ++ itemTokens items)

/-- The tokens of the fields behind the first, each with a comma in front. -/
def fieldTokens : List (String × Json) → List Token
  | [] => []
  | (name, value) :: fields =>
    .comma :: .literal (string name) :: .colon :: (tokens value ++ fieldTokens fields)

end

/-! ### Spellings -/

/-- The characters between the quotes of a string and the characters that they stand for. -/
inductive StringText : List Char → List Char → Prop
  | nil : StringText [] []
  /-- A character for itself, which is no control character, quote or escape mark. -/
  | plain {c : Char} {cs text : List Char} (hc : 0x20 ≤ c.toNat) (hq : c ≠ '\x22')
      (he : c ≠ '\x5c') (h : StringText cs text) : StringText (c :: cs) (c :: text)
  /-- A short escape. -/
  | short {e c : Char} {cs text : List Char} (hc : unescape? e = some c)
      (h : StringText cs text) : StringText ('\x5c' :: e :: cs) (c :: text)
  /-- The UTF-16 unit of a character that has one. -/
  | unit {a b c d x : Char} {n : Nat} {cs text : List Char} (hu : unit? a b c d = some n)
      (hx : scalar? n = some x) (h : StringText cs text) :
      StringText ('\x5c' :: 'u' :: a :: b :: c :: d :: cs) (x :: text)
  /-- The UTF-16 units of a character that has two. -/
  | pair {a b c d a' b' c' d' x : Char} {high low : Nat} {cs text : List Char}
      (hh : unit? a b c d = some high) (hl : unit? a' b' c' d' = some low)
      (hx : pair? high low = some x) (h : StringText cs text) :
      StringText ('\x5c' :: 'u' :: a :: b :: c :: d ::
        '\x5c' :: 'u' :: a' :: b' :: c' :: d' :: cs) (x :: text)

/-- The characters spell the token. -/
inductive Token.SpelledBy : Token → List Char → Prop
  | openArray : SpelledBy .openArray ['[']
  | closeArray : SpelledBy .closeArray [']']
  | openObject : SpelledBy .openObject ['{']
  | closeObject : SpelledBy .closeObject ['}']
  | comma : SpelledBy .comma [',']
  | colon : SpelledBy .colon [':']
  | nullWord : SpelledBy (.literal null) "null".toList
  | trueWord : SpelledBy (.literal (bool true)) "true".toList
  | falseWord : SpelledBy (.literal (bool false)) "false".toList
  | number {literal : String} (h : isNumber literal.toList = true) :
      SpelledBy (.literal (number literal)) literal.toList
  | string {s : String} {body : List Char} (h : StringText body s.toList) :
      SpelledBy (.literal (string s)) ('\x22' :: (body ++ ['\x22']))

/-- The characters spell the tokens in order, with any blanks around them. -/
inductive Spelled : List Token → List Char → Prop
  | nil : Spelled [] []
  | space {c : Char} {ts : List Token} {cs : List Char} (hc : isSpace c = true)
      (h : Spelled ts cs) : Spelled ts (c :: cs)
  | token {t : Token} {ts : List Token} {text cs : List Char} (ht : t.SpelledBy text)
      (h : Spelled ts cs) : Spelled (t :: ts) (text ++ cs)

/-- The characters are a text of the value. -/
def IsText (j : Json) (cs : List Char) : Prop := Spelled (tokens j) cs

/-- Texts of tokens one behind the other are a text of all of them. -/
theorem Spelled.append {ts us : List Token} {cs ds : List Char} (h : Spelled ts cs)
    (h' : Spelled us ds) : Spelled (ts ++ us) (cs ++ ds) := by
  induction h with
  | nil => exact h'
  | space hc _ ih => exact .space hc ih
  | token ht _ ih =>
    rw [List.append_assoc]
    exact .token ht ih

/-- Blanks in front change nothing. -/
theorem Spelled.spaces {ts : List Token} {cs : List Char} (w : List Char)
    (hw : ∀ c ∈ w, isSpace c = true) (h : Spelled ts cs) : Spelled ts (w ++ cs) := by
  induction w with
  | nil => exact h
  | cons c w ih =>
    rw [List.forall_mem_cons] at hw
    exact .space hw.1 (ih hw.2)

end SelectFind.Json
