/-!
# Blank characters

A character is blank if it has the Unicode property `White_Space`. Blanks divide tokens and are
trimmed from the ends of a line. The information separators U+001C to U+001F, the Mongolian vowel
separator U+180E, the zero width space U+200B and the byte order mark U+FEFF are not blank.
Spec guidance: translator specification §4.1.
-/

namespace SelectFind.Text

/-- The code point of `c` lies in one of the ranges, whose ends are included. -/
def inRanges (ranges : List (Nat × Nat)) (c : Char) : Bool :=
  ranges.any fun r => decide (r.1 ≤ c.toNat) && decide (c.toNat ≤ r.2)

/-- The code points with the property `White_Space`, in ascending order. -/
def blankRanges : List (Nat × Nat) :=
  [(0x9, 0xD), (0x20, 0x20), (0x85, 0x85), (0xA0, 0xA0), (0x1680, 0x1680), (0x2000, 0x200A),
   (0x2028, 0x2029), (0x202F, 0x202F), (0x205F, 0x205F), (0x3000, 0x3000)]

/-- Blank characters are those with the property `White_Space`. Specification §4.1, step 1. -/
def isBlank (c : Char) : Bool := inRanges blankRanges c

/-- The characters without the blanks in front. -/
def dropBlanks (cs : List Char) : List Char := cs.dropWhile isBlank

/-- The characters without the blanks at either end. -/
def trimBlanks (cs : List Char) : List Char :=
  (dropBlanks (dropBlanks cs).reverse).reverse

/-- The text without the blanks at either end. -/
def trim (s : String) : String := String.ofList (trimBlanks s.toList)

end SelectFind.Text
