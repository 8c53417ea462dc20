import SelectFind.Token.Lexer

/-!
# What a delimiter encloses

The characters between two delimiters are read from the left. The escape mark and the character
behind it form a pair whose second part is plain; any other character stands for itself. A delimiter
encloses a row of characters if it is none of the characters that stand for themselves and if the
row ends with a whole pair. The scan for the closing delimiter stops behind exactly such a row.
-/

namespace SelectFind

namespace Delimiter

/-- The delimiter encloses the characters: no unescaped one among them is the delimiter, and no
escape is pending behind the last. -/
inductive Encloses (d : Delimiter) : List Char → Prop
  | nil : Encloses d []
  | escaped (c : Char) {cs : List Char} (h : Encloses d cs) : Encloses d (Token.escape :: c :: cs)
  | plain {c : Char} {cs : List Char} (he : c ≠ Token.escape) (hd : c ≠ d.char)
      (h : Encloses d cs) : Encloses d (c :: cs)

/-- The token of a name that is written between two equal delimiters. -/
def quote (d : Delimiter) (name : String) : String :=
  String.ofList (d.char :: name.toList ++ [d.char])

/-- The opening delimiter, the name and the closing delimiter follow each other. -/
@[simp] theorem toList_quote (d : Delimiter) (name : String) :
    (d.quote name).toList = d.char :: (name.toList ++ [d.char]) := by
  simp [quote]

/-- A character is read as no delimiter exactly if it is the character of none. -/
theorem ofChar?_eq_none_iff {c : Char} : ofChar? c = none ↔ ∀ d : Delimiter, c ≠ d.char := by
  rw [Option.eq_none_iff_forall_ne_some]
  exact forall_congr' fun d ↦ not_congr ofChar?_eq_some_iff

/-- No delimiter is the escape mark. -/
theorem char_ne_escape (d : Delimiter) : d.char ≠ Token.escape := by
  cases d <;> decide

end Delimiter

namespace Token

/-- Behind an enclosed row the scan stops at the next delimiter. -/
theorem upToClosing_of_encloses (d : Delimiter) (body rest : List Char) (h : d.Encloses body) :
    upToClosing d.char false (body ++ d.char :: rest) = some (body ++ [d.char]) := by
  induction h with
  | nil => simp [upToClosing, d.char_ne_escape]
  | escaped c h ih => simp [upToClosing, ih]
  | plain he hd h ih => simp [upToClosing, he, hd, ih]

/-- The escape mark that is pending when the scan expects an escaped character. -/
private def pending (escaped : Bool) : List Char := if escaped then [escape] else []

-- The scan carries one bit, so the row that it has enclosed is stated with the mark behind that
-- bit.
private theorem encloses_of_upToClosing_from (d : Delimiter) (escaped : Bool) (cs token : List Char)
    (h : upToClosing d.char escaped cs = some token) :
    ∃ body rest, d.Encloses (pending escaped ++ body) ∧ token = body ++ [d.char] ∧
      cs = token ++ rest := by
  induction cs generalizing escaped token with
  | nil => cases escaped <;> simp [upToClosing] at h
  | cons c cs ih =>
    cases escaped with
    | true =>
      obtain ⟨inner, hi, rfl⟩ := Option.map_eq_some_iff.mp h
      obtain ⟨body, rest, hb, rfl, rfl⟩ := ih false inner hi
      exact ⟨c :: body, rest, .escaped c hb, rfl, rfl⟩
    | false =>
      simp only [upToClosing] at h
      split at h
      · next he =>
        obtain ⟨inner, hi, rfl⟩ := Option.map_eq_some_iff.mp h
        obtain ⟨body, rest, hb, rfl, rfl⟩ := ih true inner hi
        exact ⟨c :: body, rest, he ▸ hb, rfl, rfl⟩
      · next he =>
        split at h
        · next hd =>
          cases h
          exact ⟨[], cs, .nil, by rw [hd]; rfl, rfl⟩
        · next hd =>
          obtain ⟨inner, hi, rfl⟩ := Option.map_eq_some_iff.mp h
          obtain ⟨body, rest, hb, rfl, rfl⟩ := ih false inner hi
          exact ⟨c :: body, rest, .plain he hd hb, rfl, rfl⟩

/-- The scan gives an enclosed row with the delimiter behind it, and nothing else. -/
theorem upToClosing_eq_some_iff (d : Delimiter) (cs token : List Char) :
    upToClosing d.char false cs = some token ↔
      ∃ body rest, d.Encloses body ∧ token = body ++ [d.char] ∧ cs = token ++ rest := by
  constructor
  · intro h
    exact encloses_of_upToClosing_from d false cs token h
  · rintro ⟨body, rest, hb, rfl, rfl⟩
    rw [List.append_assoc, List.singleton_append]
    exact upToClosing_of_encloses d body rest hb

end Token
end SelectFind
