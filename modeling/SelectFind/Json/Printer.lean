import SelectFind.Json.Basic

/-!
# Writing JSON

Two layouts are written. The pretty layout puts every item and field on a line of its own, two
blanks further in than its container, and escapes only what must be escaped. The compact layout is
one line of ASCII: every other character is written by its UTF-16 units.
-/

namespace SelectFind.Json

/-- The hexadecimal digits of `n`, at least four. -/
def hex4 (n : Nat) : List Char :=
  let ds := Nat.toDigits 16 n
  List.replicate (4 - ds.length) '0' ++ ds

/-- The escape of a character that has a short one. -/
def shortEscape? (c : Char) : Option Char :=
  if c = '\x22' then some '\x22'
  else if c = '\x5c' then some '\x5c'
  else if c = '\x08' then some 'b'
  else if c = '\x0c' then some 'f'
  else if c = '\n' then some 'n'
  else if c = '\r' then some 'r'
  else if c = '\t' then some 't'
  else none

/-- A character inside a string: its short escape, its code point if it is a control character, or
itself. -/
def escaped (c : Char) : List Char :=
  match shortEscape? c with
  | some e => ['\x5c', e]
  | none => if c.toNat < 0x20 then '\x5c' :: 'u' :: hex4 c.toNat else [c]

/-- A character inside a string of ASCII: as before, but by its UTF-16 units outside ASCII. -/
def escapedAscii (c : Char) : List Char :=
  let n := c.toNat
  if n < 0x7f then escaped c
  else if n < 0x10000 then '\x5c' :: 'u' :: hex4 n
  else
    '\x5c' :: 'u' :: hex4 (0xD800 + (n - 0x10000) / 0x400) ++
      '\x5c' :: 'u' :: hex4 (0xDC00 + (n - 0x10000) % 0x400)

/-- A string between double quotes. -/
def quoted (escape : Char → List Char) (s : String) : List Char :=
  '\x22' :: s.toList.flatMap escape ++ ['\x22']

/-- A new line, `depth` levels in. -/
def newLine (depth : Nat) : List Char := '\n' :: List.replicate (2 * depth) ' '

mutual

/-- The pretty layout of a value whose line is `depth` levels in. -/
def prettyChars (depth : Nat) : Json → List Char
  | null => "null".toList
  | bool true => "true".toList
  | bool false => "false".toList
  | number literal => literal.toList
  | string s => quoted escaped s
  | array [] => "[]".toList
  | array (item :: items) =>
    '[' :: newLine (depth + 1) ++ prettyChars (depth + 1) item ++ prettyItems (depth + 1) items ++
      newLine depth ++ [']']
  | object [] => "{}".toList
  | object ((name, value) :: fields) =>
    '{' :: newLine (depth + 1) ++ quoted escaped name ++ ": ".toList ++
      prettyChars (depth + 1) value ++ prettyFields (depth + 1) fields ++
      newLine depth ++ ['}']

/-- The items behind the first, each after a comma on a line of its own. -/
def prettyItems (depth : Nat) : List Json → List Char
  | [] => []
  | item :: items => ',' :: newLine depth ++ prettyChars depth item ++ prettyItems depth items

/-- The fields behind the first, each after a comma on a line of its own. -/
def prettyFields (depth : Nat) : List (String × Json) → List Char
  | [] => []
  | (name, value) :: fields =>
    ',' :: newLine depth ++ quoted escaped name ++ ": ".toList ++ prettyChars depth value ++
      prettyFields depth fields

end

/-- The pretty layout of a value. -/
def pretty (j : Json) : String := String.ofList (prettyChars 0 j)

mutual

/-- The compact layout of a value. -/
def compactChars : Json → List Char
  | null => "null".toList
  | bool true => "true".toList
  | bool false => "false".toList
  | number literal => literal.toList
  | string s => quoted escapedAscii s
  | array [] => "[]".toList
  | array (item :: items) => '[' :: compactChars item ++ compactItems items ++ [']']
  | object [] => "{}".toList
  | object ((name, value) :: fields) =>
    '{' :: quoted escapedAscii name ++ ':' :: compactChars value ++ compactFields fields ++
      ['}']

/-- The items behind the first, each after a comma. -/
def compactItems : List Json → List Char
  | [] => []
  | item :: items => ',' :: compactChars item ++ compactItems items

/-- The fields behind the first, each after a comma. -/
def compactFields : List (String × Json) → List Char
  | [] => []
  | (name, value) :: fields =>
    ',' :: quoted escapedAscii name ++ ':' :: compactChars value ++ compactFields fields

end

/-- The compact layout of a value. -/
def compact (j : Json) : String := String.ofList (compactChars j)

end SelectFind.Json
