import SelectFind.Text.Printable

/-!
# Quoted text

A text is shown between double quotes. A double quote, a backslash and the common controls have
short escapes; any other character that is not printable is shown by its code point in hexadecimal.
-/

namespace SelectFind.Text

/-- The short escape of a character that has one. -/
def shortEscape? (c : Char) : Option Char :=
  if c = '\x22' then some '\x22'
  else if c = '\x5c' then some '\x5c'
  else if c = '\t' then some 't'
  else if c = '\n' then some 'n'
  else if c = '\r' then some 'r'
  else if c = '\x00' then some '0'
  else none

/-- A character inside a quoted text. -/
def quotedChar (c : Char) : List Char :=
  match shortEscape? c with
  | some e => ['\x5c', e]
  | none =>
    if isPrintable c then [c]
    else '\x5c' :: 'u' :: '{' :: Nat.toDigits 16 c.toNat ++ ['}']

/-- A text between double quotes. -/
def quoted (s : String) : String :=
  String.ofList ('\x22' :: s.toList.flatMap quotedChar ++ ['\x22'])

end SelectFind.Text
