/-!
# Words without regard to ASCII case

Reserved words are compared letter by letter after ASCII letters are folded; no other character is
changed, so a letter outside ASCII is equal only to itself.
Spec guidance: translator specification §4.2.
-/

namespace SelectFind.Text

/-- The characters of `s` with ASCII letters in lower case. -/
def folded (s : String) : List Char := s.toList.map Char.toLower

/-- Two texts spell the same word: they differ at most in the case of ASCII letters. Specification
§4.2. -/
def sameWord (s t : String) : Bool := folded s == folded t

/-- Spelling the same word is equality after folding. -/
theorem sameWord_iff {s t : String} : sameWord s t = true ↔ folded s = folded t := by
  simp [sameWord]

/-- A text spells its own word. -/
theorem sameWord_refl (s : String) : sameWord s s = true := sameWord_iff.2 rfl

end SelectFind.Text
