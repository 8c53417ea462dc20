import SelectFind.Proofs.Token.Escape
import SelectFind.Proofs.Token.Kind
import Mathlib.Data.List.DropRight

/-!
# Runs of escape marks

The scan of a quoted name carries one bit from its first character on. The bit can be told without
that reading: it is the parity of the run of escape marks right in front, since any other character
clears it and each escape mark turns it over. So a name is closed by the first delimiter behind an
even run, and runs are counted back no further than to the opening delimiter.
-/

namespace SelectFind

namespace Token

/-- The number of escape marks that the characters end with. -/
def escapeRun (cs : List Char) : Nat := (cs.rtakeWhile (· == escape)).length

/-- The character stands between `front` and `back`, right behind an even number of escape marks. -/
structure EvenAt (c : Char) (cs front back : List Char) : Prop where
  split : cs = front ++ c :: back
  even : escapeRun front % 2 = 0

/-- The same place, and the first such in the row. -/
structure FirstEvenAt (c : Char) (cs front back : List Char) : Prop
    extends EvenAt c cs front back where
  first : ∀ front' back', EvenAt c cs front' back' → front.length ≤ front'.length

/-! ### The bit of the scan -/

private theorem escapeRun_concat (cs : List Char) (c : Char) :
    escapeRun (cs ++ [c]) = if c = escape then escapeRun cs + 1 else 0 := by
  by_cases hc : c = escape
  · simp [escapeRun, hc]
  · simp [escapeRun, hc]

private theorem escapePending_concat (escaped : Bool) (cs : List Char) (c : Char) :
    escapePending escaped (cs ++ [c]) = (decide (c = escape) && !escapePending escaped cs) := by
  induction cs generalizing escaped with
  | nil => cases escaped <;> simp [escapePending]
  | cons x cs ih => cases escaped <;> simp [escapePending, ih]

/-- An escape is pending exactly behind a run of odd length. -/
theorem escapePending_eq_odd (cs : List Char) :
    escapePending false cs = decide (escapeRun cs % 2 = 1) := by
  induction cs using List.reverseRecOn with
  | nil => rfl
  | append_singleton cs c ih =>
    rw [escapePending_concat, escapeRun_concat, ih]
    by_cases hc : c = escape
    · rw [if_pos hc, decide_eq_true hc, Bool.true_and, ← decide_not, decide_eq_decide]
      omega
    · simp [hc]

private theorem escapePending_eq_false_iff (cs : List Char) :
    escapePending false cs = false ↔ escapeRun cs % 2 = 0 := by
  rw [escapePending_eq_odd, decide_eq_false_iff_not]
  omega

private theorem hasUnescaped_iff_evenAt (c : Char) (cs : List Char) :
    HasUnescaped c cs ↔ ∃ front back, EvenAt c cs front back := by
  constructor
  · rintro ⟨front, back, hs, hp⟩
    exact ⟨front, back, hs, (escapePending_eq_false_iff front).mp hp⟩
  · rintro ⟨front, back, hs, he⟩
    exact ⟨front, back, hs, (escapePending_eq_false_iff front).mpr he⟩

private theorem upToClosing_append (d : Delimiter) (escaped : Bool) (front rest : List Char)
    (h : upToClosing d.char escaped front = none) :
    upToClosing d.char escaped (front ++ rest) =
      (upToClosing d.char (escapePending escaped front) rest).map (front ++ ·) := by
  induction front generalizing escaped with
  | nil => simp [escapePending]
  | cons c front ih =>
    cases escaped with
    | true =>
      have hf := Option.map_eq_none_iff.mp h
      simp [upToClosing, escapePending, ih false hf, Function.comp_def]
    | false =>
      -- The first character does not close the name, as the scan of `front` would stop there.
      simp only [upToClosing] at h
      split at h
      · next he =>
        have hf := Option.map_eq_none_iff.mp h
        simp [upToClosing, escapePending, he, ih true hf, Function.comp_def]
      · next he =>
        split at h
        · cases h
        · next hd =>
          have hf := Option.map_eq_none_iff.mp h
          simp [upToClosing, escapePending, he, hd, ih false hf, Function.comp_def]

/-! ### The closing delimiter -/

private theorem upToClosing_of_firstEvenAt (d : Delimiter) (cs front back : List Char)
    (h : FirstEvenAt d.char cs front back) :
    upToClosing d.char false cs = some (front ++ [d.char]) := by
  have hf : upToClosing d.char false front = none := by
    rw [upToClosing_eq_none_iff, hasUnescaped_iff_evenAt]
    rintro ⟨front', back', hs, he⟩
    have hle := h.first front' (back' ++ d.char :: back) ⟨by rw [h.split, hs]; simp, he⟩
    have hlen := congrArg List.length hs
    rw [List.length_append, List.length_cons] at hlen
    omega
  rw [h.split, upToClosing_append d false front _ hf, (escapePending_eq_false_iff front).mpr h.even]
  simp [upToClosing, d.char_ne_escape]

private theorem exists_firstEvenAt_of_upToClosing (d : Delimiter) (cs token : List Char)
    (h : upToClosing d.char false cs = some token) :
    ∃ front back, FirstEvenAt d.char cs front back := by
  obtain ⟨front, back, hb, rfl, hc⟩ := (upToClosing_eq_some_iff d cs token).mp h
  have hs : cs = front ++ d.char :: back := by simpa using hc
  refine ⟨front, back, ⟨hs, (escapePending_eq_false_iff front).mp hb.escapePending⟩, ?_⟩
  intro front' back' ⟨hs', he⟩
  rcases List.append_eq_append_iff.mp (hs'.symm.trans hs) with ⟨m, hm, hd⟩ | ⟨m, hm, _⟩
  · cases m with
    | nil => rw [hm, List.append_nil]
    | cons x m =>
      -- A place further in front would lie in the row that the delimiter encloses.
      obtain ⟨rfl, _⟩ := List.cons.inj hd
      have hu := (hasUnescaped_iff_evenAt d.char front).mpr ⟨front', m, hm, he⟩
      exact absurd hu hb.not_hasUnescaped
  · rw [hm, List.length_append]
    exact Nat.le_add_right _ _

private theorem upToClosing_eq_none_iff_evenAt (d : Delimiter) (cs : List Char) :
    upToClosing d.char false cs = none ↔ ¬∃ front back, EvenAt d.char cs front back := by
  rw [upToClosing_eq_none_iff, hasUnescaped_iff_evenAt]

private theorem firstEvenAt_or_not (d : Delimiter) (cs : List Char) :
    (∃ front back, FirstEvenAt d.char cs front back) ∨
      ¬∃ front back, EvenAt d.char cs front back := by
  cases hs : upToClosing d.char false cs with
  | none => exact .inr ((upToClosing_eq_none_iff_evenAt d cs).mp hs)
  | some token => exact .inl (exists_firstEvenAt_of_upToClosing d cs token hs)

end Token

namespace Lexer

/-- A call at an opening delimiter takes the name up to the first delimiter behind an even run. -/
theorem next_of_firstEvenAt (d : Delimiter) (offset : Nat) (rest front back : List Char)
    (h : Token.FirstEvenAt d.char rest front back) :
    (Lexer.mk offset (d.char :: rest)).next =
      (.ok (some (String.ofList (d.char :: (front ++ [d.char])))),
        ⟨offset + (front.length + 2), back⟩) := by
  have hskip : (Lexer.mk offset (d.char :: rest)).skipBlanks = ⟨offset, d.char :: rest⟩ :=
    skipBlanks_eq _ [] _ rfl (by simp) (by simp [Token.isBlank_char])
  have hs := Token.upToClosing_of_firstEvenAt d rest front back h
  have hrest : rest.drop (front.length + 1) = back := by rw [h.split]; simp
  simp [next, hskip, take, Token.startingWith, hs, advance, hrest]

/-- A call at an opening delimiter with none behind an even run fails there and passes all that is
ahead. -/
theorem next_of_not_evenAt (d : Delimiter) (offset : Nat) (rest : List Char)
    (h : ¬∃ front back, Token.EvenAt d.char rest front back) :
    (Lexer.mk offset (d.char :: rest)).next =
      (.error ⟨offset⟩, ⟨offset + (rest.length + 1), []⟩) :=
  next_of_unclosed _ [] rest d rfl (by simp) ((Token.upToClosing_eq_none_iff_evenAt d rest).mpr h)

/-- Behind an opening delimiter the scan carries the parity of the run of escape marks in front of
it, as long as the name is not closed. So a call takes the name up to the first delimiter behind an
even run, escapes and delimiters included, and stops right behind it. It fails exactly if there is
no such delimiter, at the opening one, and then nothing stays ahead. -/
theorem next_closes_at_even_run (d : Delimiter) (offset : Nat) (rest : List Char) :
    (∀ front ahead, (¬∃ front' back', Token.EvenAt d.char front front' back') →
      Token.upToClosing d.char false (front ++ ahead) =
        (Token.upToClosing d.char (decide (Token.escapeRun front % 2 = 1)) ahead).map
          (front ++ ·)) ∧
    (∀ token l, (Lexer.mk offset (d.char :: rest)).next = (.ok token, l) ↔
      ∃ front back, Token.FirstEvenAt d.char rest front back ∧
        token = some (String.ofList (d.char :: (front ++ [d.char]))) ∧
        l = ⟨offset + (front.length + 2), back⟩) ∧
    ∀ e l, (Lexer.mk offset (d.char :: rest)).next = (.error e, l) ↔
      (¬∃ front back, Token.EvenAt d.char rest front back) ∧ e = ⟨offset⟩ ∧
        l = ⟨offset + (rest.length + 1), []⟩ := by
  refine ⟨?_, ?_, ?_⟩
  · intro front ahead h
    rw [← Token.escapePending_eq_odd]
    exact Token.upToClosing_append d false front ahead
      ((Token.upToClosing_eq_none_iff_evenAt d front).mpr h)
  · intro token l
    constructor
    · intro h
      rcases Token.firstEvenAt_or_not d rest with ⟨front, back, hf⟩ | hn
      · rw [next_of_firstEvenAt d offset rest front back hf] at h
        cases h
        exact ⟨front, back, hf, rfl, rfl⟩
      · rw [next_of_not_evenAt d offset rest hn] at h
        cases h
    · rintro ⟨front, back, hf, rfl, rfl⟩
      exact next_of_firstEvenAt d offset rest front back hf
  · intro e l
    constructor
    · intro h
      rcases Token.firstEvenAt_or_not d rest with ⟨front, back, hf⟩ | hn
      · rw [next_of_firstEvenAt d offset rest front back hf] at h
        cases h
      · rw [next_of_not_evenAt d offset rest hn] at h
        cases h
        exact ⟨hn, rfl, rfl⟩
    · rintro ⟨hn, rfl, rfl⟩
      exact next_of_not_evenAt d offset rest hn

end Lexer
end SelectFind
