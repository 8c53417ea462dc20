/-!
# Delimiters and marks

A quoted name stands between two equal delimiters: double quotes, single quotes or back quotes.
Inside it the escape mark makes the next character plain. A comma is a token of its own, an asterisk
stands for every column.
Spec guidance: translator specification §4.1.
-/

namespace SelectFind

/-- The kinds of quotation mark that enclose a name. Specification §4.1, step 3. -/
inductive Delimiter where
  | double
  | single
  | back
  deriving DecidableEq, Repr

namespace Delimiter

/-- The character that opens and closes a quoted name. -/
def char : Delimiter → Char
  | double => '\x22'
  | single => '\x27'
  | back => '\x60'

/-- The delimiter that a character is. -/
def ofChar? (c : Char) : Option Delimiter :=
  if c = double.char then some double
  else if c = single.char then some single
  else if c = back.char then some back
  else none

/-- A character is read as a delimiter exactly if it is that delimiter's character. -/
theorem ofChar?_eq_some_iff {c : Char} {d : Delimiter} : ofChar? c = some d ↔ c = d.char := by
  constructor
  · intro h
    unfold ofChar? at h
    split at h
    · next hc => cases h; exact hc
    · split at h
      · next hc => cases h; exact hc
      · split at h
        · next hc => cases h; exact hc
        · cases h
  · rintro rfl
    cases d <;> rfl

/-- The character of a delimiter is read as that delimiter. -/
@[simp] theorem ofChar?_char (d : Delimiter) : ofChar? d.char = some d :=
  ofChar?_eq_some_iff.mpr rfl

end Delimiter

namespace Token

/-- The mark that makes the next character of a quoted name plain. Specification §4.1, step 3. -/
def escape : Char := '\x5c'

/-- The mark between two columns. -/
def comma : Char := ','

/-- A character that is a token by itself. Specification §4.1, step 4. -/
def isMark (c : Char) : Bool := c == comma

/-- The token between two columns. -/
def separator : String := ","

/-- The token that stands for every column. Specification §4.2, `Columns`. -/
def wildcard : String := "*"

end Token
end SelectFind
